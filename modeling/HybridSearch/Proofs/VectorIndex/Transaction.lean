import HybridSearch.VectorIndex.Linking

/-!
# What a transaction remembers

An embedding that a transaction knows is the one that its draft reads. So reading through a transaction answers
what reading through its draft does, and whatever is read along the way is known rightly.
-/
namespace HybridSearch

namespace Transaction

/-- What is known is what the draft reads. -/
def Coherent (t : Transaction) : Prop :=
  ∀ id v, t.decoded.lookup id = some v → t.draft.vector id = .ok v

/-- A reading gives an answer and leaves the draft as it is. -/
structure Answers {α : Type} (t : Transaction) (reading : Except VectorError α × Transaction)
    (answer : Except VectorError α) : Prop where
  answer_eq : reading.1 = answer
  draft_eq : reading.2.draft = t.draft
  coherent : reading.2.Coherent

variable {t : Transaction}

theorem coherent_start (config : VectorConfig) (store : StoreHandle) : (start config store).Coherent :=
  fun _ _ h => nomatch h

theorem Coherent.vector (h : t.Coherent) (id : String) : t.Answers (t.vector id) (t.draft.vector id) := by
  rw [Transaction.vector]
  split
  · next v hknown => exact ⟨(h id v hknown).symm, rfl, h⟩
  · split
    · next v hread =>
      refine ⟨hread.symm, rfl, fun other w hother => ?_⟩
      rw [List.lookup_cons] at hother
      split at hother
      · next hid =>
        rw [← Option.some_inj.mp hother, eq_of_beq hid]
        exact hread
      · exact h other w hother
    · next e hread => exact ⟨hread.symm, rfl, h⟩

theorem Coherent.distance (h : t.Coherent) (query : Embedding) (id : String) :
    t.Answers (t.distance query id) (t.draft.distance query id) := by
  have hvector := h.vector id
  refine ⟨?_, hvector.draft_eq, hvector.coherent⟩
  show (t.vector id).1.map ((t.vector id).2.draft.metric.distance query) = _
  rw [hvector.answer_eq, hvector.draft_eq, Draft.distance]
  cases t.draft.vector id <;> rfl

theorem Coherent.distanceBetween (h : t.Coherent) (a b : String) :
    t.Answers (t.distanceBetween a b) (t.draft.distanceBetween a b) := by
  have hvector := h.vector a
  rw [Transaction.distanceBetween, Draft.distanceBetween]
  split
  · next v after hread =>
    rw [hread] at hvector
    have hdistance := hvector.coherent.distance v b
    refine ⟨hdistance.answer_eq.trans ?_, hdistance.draft_eq.trans hvector.draft_eq, hdistance.coherent⟩
    rw [hvector.draft_eq, ← hvector.answer_eq]
    rfl
  · next e after hread =>
    rw [hread] at hvector
    refine ⟨?_, hvector.draft_eq, hvector.coherent⟩
    rw [← hvector.answer_eq]
    rfl

theorem Coherent.neighborDistances (h : t.Coherent) (id : String) (ids : List String) :
    t.neighborDistances id ids =
      ids.mapM fun n => (t.draft.distanceBetween id n).map fun distance => ⟨distance, n⟩ := by
  induction ids generalizing t with
  | nil => rfl
  | cons n rest ih =>
    have hdistance := h.distanceBetween id n
    rw [Transaction.neighborDistances, List.mapM_cons, ← hdistance.answer_eq]
    split
    · next e after hread =>
      rw [hread]
      rfl
    · next distance after hread =>
      rw [hread] at hdistance
      rw [hread, ih hdistance.coherent, hdistance.draft_eq]
      rfl

end Transaction

theorem Draft.neighborDistances_cons (d : Draft) (id n : String) (rest : List String) :
    d.neighborDistances id (n :: rest) = (do
      let distance ← d.distanceBetween id n
      return ⟨distance, n⟩ :: (← d.neighborDistances id rest)) := by
  have hnothing : ({ draft := d } : Transaction).Coherent := fun _ _ h => nomatch h
  rw [neighborDistances, neighborDistances, hnothing.neighborDistances, hnothing.neighborDistances,
    List.mapM_cons]
  cases d.distanceBetween id n <;> rfl

end HybridSearch

import HybridSearch.Proofs.Engine.Current
import Mathlib.Control.Monad.Basic

/-!
# Taking a text entry back

When the embedding of a document cannot be written, its text entry is removed again, so the document is not
found by its text alone. An update has removed the old embedding before, and neither index holds the id any
more. Indexing has not: if the id had an embedding, the vector index goes on holding it by itself.
-/
namespace HybridSearch

/-- One of the two indexes holds an id and the other does not. -/
def Indexes.HalfIndexed (ixs : Indexes) (id : String) : Prop :=
  ∃ stored, ixs.vector.contains ixs.store id = .ok stored ∧ ixs.text.tables.holds id ≠ stored

theorem Indexes.halfIndexed_iff_of_holds {ixs : Indexes} {s : Holding} (h : ixs.Holds s) {id : String} :
    ixs.HalfIndexed id ↔ (s.documents id).isSome ≠ (s.embeddings id).isSome := by
  have htext : ixs.text.tables.holds id = (s.documents id).isSome := by
    rw [Bool.eq_iff_iff]
    exact h.lists.holds_iff
  have hvector := h.contains id
  constructor
  · rintro ⟨stored, hstored, hne⟩
    rw [hvector] at hstored
    rw [← Except.ok.inj hstored, htext] at hne
    exact hne
  · intro hne
    exact ⟨_, hvector, by rw [htext]; exact hne⟩

theorem Task.Effect.of_partialWrite {mayFail : Prop} {s s' : Holding} {t : Task} {id : String}
    {compensated : Bool} {source : VectorError}
    (h : t.Effect mayFail s (.error (.partialWrite id compensated source)) s') :
    compensated = true ∧ t.id = id ∧
      ((∃ d, t = .index d) ∧ s' = s.setDocument id none ∨ (∃ d, t = .update d) ∧ s' = s.drop id) := by
  cases h with
  | refused he => cases he
  | failed _ hfails =>
    cases hfails with
    | @indexing d fault => exact ⟨rfl, rfl, .inl ⟨⟨d, rfl⟩, rfl⟩⟩
    | @updating d fault => exact ⟨rfl, rfl, .inr ⟨⟨d, rfl⟩, rfl⟩⟩

/-- After a partial write of an id, the text index does not hold it. The vector index has what it had before
a task that indexes the id, and nothing after an update; so the id is half indexed exactly when it had an
embedding and was indexed again. -/
theorem Engine.Opened.halfIndexed_iff {e : Engine} (h : e.Opened) (calls : List Call) {task : Task}
    {faults : List (Option StoreFault)} {after : Engine} {id : String} {compensated : Bool}
    {source : VectorError}
    (hanswer : (e.run calls).engine.performUnder task faults =
      (after, .error (.partialWrite id compensated source))) :
    compensated = true ∧ task.id = id ∧ after.indexes.text.tables.holds id = false ∧
      ∃ kept, (e.run calls).engine.indexes.vector.Keeps (e.run calls).engine.indexes.store id kept ∧
        (∀ d, task = .index d → after.indexes.vector.Keeps after.indexes.store id kept) ∧
        (∀ d, task = .update d → after.indexes.vector.Keeps after.indexes.store id none) ∧
        (after.indexes.HalfIndexed id ↔ (∃ d, task = .index d) ∧ ∃ v, kept = some v) := by
  obtain ⟨s, hbefore⟩ := h.run calls
  obtain ⟨e', result, s', hperform, -, hholds, heffect, -⟩ :=
    hbefore.idle.performUnder hbefore.holds task (fun fault _ _ => trivial : ∀ fault ∈ _, _ → True)
  rw [hanswer] at hperform
  obtain ⟨rfl, rfl⟩ := Prod.mk.inj hperform
  obtain ⟨hcompensated, hid, hleft⟩ := heffect.of_partialWrite
  have hdocument : s'.documents id = none := by
    rcases hleft with ⟨-, rfl⟩ | ⟨-, rfl⟩
    · exact Function.update_self _ _ _
    · exact Function.update_self _ _ _
  have htext : after.indexes.text.tables.holds id = false := by
    rw [Bool.eq_false_iff]
    intro hheld
    have hsome := hholds.lists.holds_iff.mp hheld
    rw [hdocument] at hsome
    cases hsome
  have hafter := hholds.keeps id
  refine ⟨hcompensated, hid, htext, s.embeddings id, hbefore.holds.keeps id, ?_⟩
  rw [Indexes.halfIndexed_iff_of_holds hholds, hdocument]
  rcases hleft with ⟨⟨d, rfl⟩, rfl⟩ | ⟨⟨d, rfl⟩, rfl⟩
  · have hkept : (s.setDocument id none).embeddings id = s.embeddings id := rfl
    rw [hkept] at hafter ⊢
    refine ⟨fun _ _ => hafter, ?_, ?_⟩
    · intro d' hd'
      cases hd'
    · rw [and_iff_right ⟨d, rfl⟩, ← Option.isSome_iff_exists]
      cases s.embeddings id <;> simp
  · have hdropped : (s.drop id).embeddings id = none := Function.update_self _ _ _
    rw [hdropped] at hafter ⊢
    refine ⟨?_, fun _ _ => hafter, ?_⟩
    · intro d' hd'
      cases hd'
    · simp

/-- An engine with one document, before it is indexed again. -/
def filledEngine : Engine := (smallEngine.run [.write (.index smallDocument) []]).engine

/-- The new embedding is worked out but cannot be written. -/
def fullStore : List (Option StoreFault) := [none, none, some (.io "full")]

theorem performUnder_fullStore : filledEngine.performUnder (.index smallDocument) fullStore =
    ((filledEngine.performUnder (.index smallDocument) fullStore).1,
      .error (.partialWrite "a" true (.storage (.io "full")))) := by
  have hanswer : (filledEngine.performUnder (.index smallDocument) fullStore).2 =
      .error (.partialWrite "a" true (.storage (.io "full"))) := by decide +kernel
  rw [← hanswer]

theorem halfIndexed_filledEngine :
    (filledEngine.performUnder (.index smallDocument) fullStore).1.indexes.HalfIndexed "a" := by
  obtain ⟨-, -, -, kept, hkept, -, -, hiff⟩ :=
    opened_smallEngine.halfIndexed_iff [.write (.index smallDocument) []] performUnder_fullStore
  refine hiff.mpr ⟨⟨smallDocument, rfl⟩, ?_⟩
  cases kept with
  | some v => exact ⟨v, rfl⟩
  | none =>
    have hfound : (filledEngine.indexes.vector.get filledEngine.indexes.store "a").isOk = true := by
      decide +kernel
    rw [VectorIndex.Keeps] at hkept
    rw [filledEngine, hkept] at hfound
    cases hfound

/-- Taking the entry back does not always make sure that both indexes hold the id or neither does. -/
theorem not_wholly_indexed :
    ¬∀ (e : Engine) (calls : List Call) (task : Task) (faults : List (Option StoreFault)) (after : Engine)
      (id : String) (source : VectorError), e.Opened →
      (e.run calls).engine.performUnder task faults = (after, .error (.partialWrite id true source)) →
      ¬after.indexes.HalfIndexed id := by
  intro hwhole
  have hstored : (filledEngine.performUnder (.index smallDocument) fullStore).1.indexes.vector.contains
      (filledEngine.performUnder (.index smallDocument) fullStore).1.indexes.store "a" = .ok true := by
    decide +kernel
  have htext : (filledEngine.performUnder (.index smallDocument) fullStore
      ).1.indexes.text.tables.holds "a" = false := by decide +kernel
  refine hwhole smallEngine [.write (.index smallDocument) []] (.index smallDocument) fullStore _ "a" _
    opened_smallEngine performUnder_fullStore ⟨true, hstored, ?_⟩
  rw [htext]
  exact Bool.false_ne_true

end HybridSearch

import HybridSearch.Proofs.VectorIndex.Change
import Mathlib.Data.Set.Card

/-!
# How long a search of a layer takes

A search takes a candidate off its frontier in each round, and an id gets there once: as an entry, or when it is
first met in a neighbour list. So it ends, with candidates or with an error, after no more rounds than there are
entries and ids in the lists of the layer, whatever these lists are: one-sided, circular, with duplicates, or
with their owners among them.
-/
namespace HybridSearch

namespace Beam

variable {neighbors : String → Except VectorError (List String)}
variable {distance : String → Except VectorError Binary64}
variable {breadth : ℕ}

/-- A search goes on from a beam for some rounds and gives a result. Each round takes the nearest candidate off
the frontier; in the last one this candidate comes after a full beam, or its neighbours cannot be looked at. -/
inductive Ends (neighbors : String → Except VectorError (List String))
    (distance : String → Except VectorError Binary64) (breadth : ℕ) :
    Beam → ℕ → Except VectorError (List Candidate) → Prop
  | exhausted {b : Beam} (hfrontier : b.frontier = []) : Ends neighbors distance breadth b 0 (.ok b.best)
  | beaten {b : Beam} {current : Candidate} {rest : List Candidate} (hfrontier : b.frontier = current :: rest)
      (hloses : (b.isFull breadth && b.losesToWorst current) = true) :
      Ends neighbors distance breadth b 1 (.ok b.best)
  | failed {b : Beam} {current : Candidate} {rest : List Candidate} {e : VectorError}
      (hfrontier : b.frontier = current :: rest)
      (hgo : (b.isFull breadth && b.losesToWorst current) = false)
      (hround : expand neighbors distance breadth { b with frontier := rest } current = .error e) :
      Ends neighbors distance breadth b 1 (.error e)
  | round {b next : Beam} {current : Candidate} {rest : List Candidate} {rounds : ℕ}
      {result : Except VectorError (List Candidate)} (hfrontier : b.frontier = current :: rest)
      (hgo : (b.isFull breadth && b.losesToWorst current) = false)
      (hround : expand neighbors distance breadth { b with frontier := rest } current = .ok next)
      (hnext : Ends neighbors distance breadth next rounds result) :
      Ends neighbors distance breadth b (rounds + 1) result

theorem Ends.run_eq {b : Beam} {rounds fuel : ℕ} {result : Except VectorError (List Candidate)}
    (h : Ends neighbors distance breadth b rounds result) (hfuel : rounds < fuel) :
    run neighbors distance breadth fuel b = result.map some := by
  induction h generalizing fuel with
  | exhausted hfrontier =>
    obtain ⟨fuel, rfl⟩ := Nat.exists_eq_add_one_of_ne_zero (Nat.ne_zero_of_lt hfuel)
    exact run_finished (.inl hfrontier)
  | @beaten b current rest hfrontier hloses =>
    obtain ⟨fuel, rfl⟩ := Nat.exists_eq_add_one_of_ne_zero (Nat.ne_zero_of_lt hfuel)
    exact run_finished (.inr ⟨current, rest, hfrontier, Bool.and_eq_true_iff.mp hloses⟩)
  | failed hfrontier hgo hround =>
    obtain ⟨fuel, rfl⟩ := Nat.exists_eq_add_one_of_ne_zero (Nat.ne_zero_of_lt hfuel)
    rw [run_step hfrontier hgo, hround]
    rfl
  | round hfrontier hgo hround _ ih =>
    obtain ⟨fuel, rfl⟩ := Nat.exists_eq_add_one_of_ne_zero (Nat.ne_zero_of_lt hfuel)
    rw [run_step hfrontier hgo, hround]
    exact ih (Nat.lt_of_succ_lt_succ hfuel)

theorem Ends.rounds_unique {b : Beam} {m n : ℕ} {result result' : Except VectorError (List Candidate)}
    (h : Ends neighbors distance breadth b m result) (h' : Ends neighbors distance breadth b n result') :
    m = n := by
  induction h generalizing n with
  | exhausted hfrontier => cases h' <;> simp_all
  | beaten hfrontier hloses => cases h' <;> simp_all
  | failed hfrontier hgo hround => cases h' <;> simp_all
  | round hfrontier hgo hround _ ih =>
    cases h' with
    | round hfrontier' _ hround' hnext' =>
      rw [hfrontier] at hfrontier'
      obtain ⟨rfl, rfl⟩ := List.cons.inj hfrontier'
      rw [hround] at hround'
      obtain rfl := Except.ok.inj hround'
      rw [ih hnext']
    | _ => simp_all

/-- A search ends within a round for each candidate of the frontier and each id that has not turned up yet. -/
theorem exists_ends {ids : List String} (hids : ∀ id list, neighbors id = .ok list → ∀ n ∈ list, n ∈ ids)
    {bound : ℕ} {b : Beam} (hbound : b.frontier.length + (b.unseen ids).length ≤ bound) :
    ∃ rounds ≤ bound, ∃ result, Ends neighbors distance breadth b rounds result := by
  induction bound generalizing b with
  | zero => exact ⟨0, Nat.le_refl 0, _, .exhausted (List.length_eq_zero_iff.mp (by omega))⟩
  | succ bound ih =>
    cases hfrontier : b.frontier with
    | nil => exact ⟨0, Nat.zero_le _, _, .exhausted hfrontier⟩
    | cons current rest =>
      cases hgo : b.isFull breadth && b.losesToWorst current with
      | true => exact ⟨1, Nat.le_add_left 1 bound, _, .beaten hfrontier hgo⟩
      | false =>
        cases hround : expand neighbors distance breadth { b with frontier := rest } current with
        | error e => exact ⟨1, Nat.le_add_left 1 bound, _, .failed hfrontier hgo hround⟩
        | ok next =>
          have hless := rounds_expand hids hfrontier hround
          obtain ⟨rounds, hle, result, hends⟩ := ih (b := next) (by omega)
          exact ⟨rounds + 1, Nat.succ_le_succ hle, result, .round hfrontier hgo hround hends⟩

end Beam

namespace Draft

/-- The ids that occur in the neighbour lists of a layer. -/
def listed (d : Draft) (layer : ℕ) : Set String := {n | ∃ id ids, d.neighbors layer id = .ok ids ∧ n ∈ ids}

theorem listed_subset (d : Draft) (layer : ℕ) : d.listed layer ⊆ ↑(d.layerIds layer).toFinset := by
  rintro n ⟨id, ids, hids, hn⟩
  exact List.mem_toFinset.mpr (mem_layerIds hids hn)

theorem finite_listed (d : Draft) (layer : ℕ) : (d.listed layer).Finite :=
  (Finset.finite_toSet _).subset (d.listed_subset layer)

theorem ncard_listed_le (d : Draft) (layer : ℕ) : (d.listed layer).ncard ≤ d.layerEntries layer := by
  calc (d.listed layer).ncard ≤ (d.layerIds layer).toFinset.card := by
        rw [← Set.ncard_coe_finset]
        exact Set.ncard_le_ncard (d.listed_subset layer) (Finset.finite_toSet _)
    _ ≤ (d.layerIds layer).length := List.toFinset_card_le _
    _ = d.layerEntries layer := d.length_layerIds layer

variable {d : Draft} {query : Embedding} {entries : List Candidate} {breadth layer : ℕ}

theorem searchLayer_of_ends {rounds : ℕ} {result : Except VectorError (List Candidate)}
    (h : Beam.Ends (d.neighbors layer) (d.distance query) breadth (Beam.start entries breadth) rounds result)
    (hrounds : rounds ≤ entries.length + (d.listed layer).ncard) :
    d.searchLayer query entries breadth layer = result := by
  have hlisted := d.ncard_listed_le layer
  rw [searchLayer, h.run_eq (by omega)]
  cases result <;> rfl

/-- Whatever a store and the changes over it hold, and whatever of it cannot be read, a search of a layer ends,
with the result that it gives, after at most one round for each of its entries and each of the finitely many ids
that occur in the neighbour lists of the layer. -/
theorem searchLayer_ends (d : Draft) (query : Embedding) (entries : List Candidate) (breadth layer : ℕ) :
    (d.listed layer).Finite ∧ ∃ rounds ≤ entries.length + (d.listed layer).ncard, ∀ n result,
      Beam.Ends (d.neighbors layer) (d.distance query) breadth (Beam.start entries breadth) n result ↔
        n = rounds ∧ result = d.searchLayer query entries breadth layer := by
  have hfinite := d.finite_listed layer
  have hids : ∀ id list, d.neighbors layer id = .ok list → ∀ n ∈ list, n ∈ hfinite.toFinset.toList :=
    fun id list hlist n hn => by simpa using ⟨id, list, hlist, hn⟩
  have hbound : (Beam.start entries breadth).frontier.length +
      ((Beam.start entries breadth).unseen hfinite.toFinset.toList).length ≤
        entries.length + (d.listed layer).ncard := by
    refine Nat.add_le_add (Nat.le_of_eq (Candidate.length_sort entries)) ?_
    rw [Set.ncard_eq_toFinset_card _ hfinite, ← Finset.length_toList]
    exact List.length_filter_le _ _
  obtain ⟨rounds, hle, found, hends⟩ := Beam.exists_ends hids hbound
  refine ⟨hfinite, rounds, hle, fun n result => ⟨fun h => ?_, ?_⟩⟩
  · have hrounds : n = rounds := h.rounds_unique hends
    exact ⟨hrounds, (searchLayer_of_ends h (hrounds ▸ hle)).symm⟩
  · rintro ⟨rfl, rfl⟩
    rwa [searchLayer_of_ends hends hle]

end Draft

end HybridSearch

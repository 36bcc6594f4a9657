import HybridSearch.Proofs.Engine.HybridFusion

/-!
# Fusing does not depend on an order

The scores of an id are added up in a pool that keeps its entries in an order of its own, and may change that
order whenever something is put in. Nothing of it shows in the fused ranking: the pool holds every id once, and
the sort key tells any two ids apart, whatever their scores are. The order within a side does not show either,
as long as the side ranks every document once.
-/
namespace HybridSearch

namespace Fusion

variable {text text' vector vector' fused ranking ranking' merged pool : List Scored}
  {textWeight vectorWeight : Binary64}

/-- The pools that a ranking may leave: an item is merged into what is there, and the entries may be in another
order at any time. -/
inductive Pools : List Scored → List Scored → Prop
  | empty : Pools [] []
  | put {ranking pool : List Scored} (h : Pools ranking pool) (s : Scored) :
      Pools (ranking ++ [s]) (merge pool s)
  | shuffle {ranking pool pool' : List Scored} (h : Pools ranking pool) (hperm : pool'.Perm pool) :
      Pools ranking pool'

theorem Merges.perm (h : Merges ranking merged) (hperm : pool.Perm merged) : Merges ranking pool where
  ids id := by rw [(hperm.map _).mem_iff, h.ids]
  once := (hperm.map _).nodup_iff.mpr h.once
  document s hs := h.document s (hperm.mem_iff.mp hs)
  score s hs := h.score s (hperm.mem_iff.mp hs)

theorem Pools.merges (h : Pools ranking pool) : Merges ranking pool := by
  induction h with
  | empty => exact merges_foldl []
  | put _ s ih => exact ih.merge s
  | shuffle _ hperm ih => exact ih.perm hperm

theorem pools_foldl (ranking : List Scored) : Pools ranking (ranking.foldl merge []) := by
  induction ranking using List.reverseRecOn with
  | nil => exact .empty
  | append_singleton ranking s ih =>
    rw [List.foldl_append]
    exact ih.put s

/-- What a ranking has of an id does not depend on the order, if the ranking has no id twice. -/
theorem occurrences_perm (hperm : ranking'.Perm ranking) (honce : (ranking.map fun s => s.document.id).Nodup)
    (id : String) : (ranking'.filter fun s => s.document.id = id) =
      ranking.filter fun s => s.document.id = id := by
  have hapart : ranking.Pairwise fun s t => s.document.id ≠ t.document.id := List.pairwise_map.mp honce
  have hapart' : ranking'.Pairwise fun s t => s.document.id ≠ t.document.id :=
    List.pairwise_map.mp ((hperm.map _).nodup_iff.mpr honce)
  refine (hperm.filter _).eq_of_pairwise (fun s t hs ht hne _ => absurd ?_ hne) (hapart'.filter _)
    (hapart.filter _)
  simp only [List.mem_filter, decide_eq_true_eq] at hs ht
  rw [hs.2, ht.2]

theorem contributions_perm (hperm : ranking'.Perm ranking)
    (honce : (ranking.map fun s => s.document.id).Nodup) (weight : Binary64) (id : String) :
    contributions weight ranking' id = contributions weight ranking id := by
  rw [contributions, contributions, occurrences_perm hperm honce]

theorem documentOf_eq (text vector : List Scored) (id : String) : documentOf text vector id =
    (((text.filter fun s => s.document.id = id) ++ vector.filter fun s => s.document.id = id).head?).map
      fun s => s.document := by
  rw [documentOf, List.find?_map, ← List.filter_append, List.head?_filter]
  rfl

theorem documentOf_perm (htext : text'.Perm text) (hvector : vector'.Perm vector)
    (htextOnce : (text.map fun s => s.document.id).Nodup)
    (hvectorOnce : (vector.map fun s => s.document.id).Nodup) (id : String) :
    documentOf text' vector' id = documentOf text vector id := by
  rw [documentOf_eq, documentOf_eq, occurrences_perm htext htextOnce, occurrences_perm hvector hvectorOnce]

theorem Fuses.perm (h : Fuses text vector textWeight vectorWeight fused) (htext : text'.Perm text)
    (hvector : vector'.Perm vector) (htextOnce : (text.map fun s => s.document.id).Nodup)
    (hvectorOnce : (vector.map fun s => s.document.id).Nodup) :
    Fuses text' vector' textWeight vectorWeight fused where
  ids id := by rw [h.ids, ((htext.append hvector).map _).mem_iff]
  once := h.once
  document s hs := by
    rw [documentOf_perm htext hvector htextOnce hvectorOnce]
    exact h.document s hs
  score s hs := by
    rw [contributions_perm htext htextOnce, contributions_perm hvector hvectorOnce]
    exact h.score s hs
  sorted := h.sorted

/-- Fusing gives the fused ranking. It is what a pool of the weighted scores gives when its entries are sorted,
in whichever order they are in and whichever way they are sorted, and what the same two sides give in any other
order, if none of them ranks a document twice. -/
theorem fuse_ignores_order (text vector : List Scored) (textWeight vectorWeight : Binary64) :
    Fuses text vector textWeight vectorWeight (fuse text vector textWeight vectorWeight) ∧
    (∀ fused, (∃ pool, Pools (scaled textWeight text ++ scaled vectorWeight vector) pool ∧
      fused.Perm pool ∧ fused.Pairwise fun a b => precedes a b = true) ↔
        fused = fuse text vector textWeight vectorWeight) ∧
    ((text.map fun s => s.document.id).Nodup → (vector.map fun s => s.document.id).Nodup →
      ∀ text' vector', text'.Perm text → vector'.Perm vector →
        fuse text' vector' textWeight vectorWeight = fuse text vector textWeight vectorWeight) := by
  refine ⟨fuses_fuse .., fun fused => ⟨?_, ?_⟩, fun htextOnce hvectorOnce text' vector' htext hvector => ?_⟩
  · rintro ⟨pool, hpool, hperm, hsorted⟩
    exact fuses_iff.mp (hpool.merges.fuses hperm hsorted)
  · rintro rfl
    exact ⟨_, pools_foldl _, List.mergeSort_perm _ _,
      List.pairwise_mergeSort precedes_sortsBy.trans precedes_sortsBy.total _⟩
  · have h := fuses_fuse text vector textWeight vectorWeight
    exact (fuses_iff.mp (h.perm htext hvector htextOnce hvectorOnce)).symm

/-- Two sides with scores that arithmetic does not tell apart, or that are no numbers. -/
def oddText : List Scored :=
  [("a", Binary64.nan), ("b", Binary64.zero), ("d", Binary64.negativeInfinity)].map fun x =>
    ⟨Engine.unknownDocument x.1, x.2⟩

def oddVector : List Scored :=
  [("c", Binary64.negativeZero), ("a", Binary64.infinity)].map fun x => ⟨Engine.unknownDocument x.1, x.2⟩

/-- The two zeros and a NaN have places of their own, from both ends of the sides and of the pool. -/
theorem fuse_odd_scores :
    (oddText.map fun s => s.document.id).Nodup ∧ (oddVector.map fun s => s.document.id).Nodup ∧
    (fuse oddText oddVector Binary64.one Binary64.one).map (fun s => (s.document.id, s.score)) =
      [("a", Binary64.nan), ("b", Binary64.zero), ("c", Binary64.negativeZero),
        ("d", Binary64.negativeInfinity)] ∧
    fuse oddText.reverse oddVector.reverse Binary64.one Binary64.one =
      fuse oddText oddVector Binary64.one Binary64.one ∧
    ((scaled Binary64.one oddText ++ scaled Binary64.one oddVector).foldl merge []).reverse.mergeSort precedes =
      fuse oddText oddVector Binary64.one Binary64.one := by
  obtain ⟨-, hpool, horder⟩ := fuse_ignores_order oddText oddVector Binary64.one Binary64.one
  have htext : (oddText.map fun s => s.document.id).Nodup := by decide
  have hvector : (oddVector.map fun s => s.document.id).Nodup := by decide
  refine ⟨htext, hvector, ?_, horder htext hvector _ _ (List.reverse_perm _) (List.reverse_perm _), ?_⟩
  · rw [fuse_eq_insertionSort]
    decide +kernel
  · exact (hpool _).mp ⟨_, (pools_foldl _).shuffle (List.reverse_perm _), List.mergeSort_perm _ _,
      List.pairwise_mergeSort precedes_sortsBy.trans precedes_sortsBy.total _⟩

end Fusion

end HybridSearch

import HybridSearch.Proofs.VectorIndex.Key
import HybridSearch.TextIndex.Index
import Mathlib.Algebra.GroupWithZero.Nat

/-!
# Counting kinds

The kinds are counted one after another into a list in byte order, which has a kind once.
-/
namespace HybridSearch.TextIndex

/-- Kinds in byte order, each at most once. -/
def Ascending (counts : List (String × Nat)) : Prop :=
  counts.Pairwise fun a b => String.byteOrder a.1 b.1 = .lt

variable {counts : List (String × Nat)} {kind : String} {k : String × Nat}

theorem byteOrder_self_ne_lt (s : String) : String.byteOrder s s ≠ .lt := by
  rw [String.byteOrder_eq_iff.mpr rfl]
  decide

theorem mem_countKind (h : k ∈ countKind counts kind) :
    k.1 = kind ∨ ∃ other ∈ counts, other.1 = k.1 := by
  induction counts with
  | nil => exact .inl (congrArg Prod.fst (List.mem_singleton.mp h))
  | cons first rest ih =>
    rw [countKind] at h
    split at h
    · rcases List.mem_cons.mp h with rfl | hold
      · exact .inl rfl
      · exact .inr ⟨k, hold, rfl⟩
    · rcases List.mem_cons.mp h with rfl | hold
      · exact .inr ⟨first, List.mem_cons_self, rfl⟩
      · exact .inr ⟨k, List.mem_cons_of_mem _ hold, rfl⟩
    · rcases List.mem_cons.mp h with rfl | hold
      · exact .inr ⟨first, List.mem_cons_self, rfl⟩
      · rcases ih hold with hkind | ⟨other, hother, hname⟩
        · exact .inl hkind
        · exact .inr ⟨other, List.mem_cons_of_mem _ hother, hname⟩

theorem Ascending.countKind (h : Ascending counts) (kind : String) :
    Ascending (countKind counts kind) := by
  induction counts with
  | nil => exact List.pairwise_singleton _ _
  | cons first rest ih =>
    obtain ⟨hfirst, hrest⟩ := List.pairwise_cons.mp h
    rw [TextIndex.countKind]
    split
    · next hlt =>
      refine List.pairwise_cons.mpr ⟨fun other hother => ?_, h⟩
      rcases List.mem_cons.mp hother with rfl | hlater
      · exact hlt
      · exact Bytes.order_lt_trans hlt (hfirst other hlater)
    · exact List.pairwise_cons.mpr ⟨hfirst, hrest⟩
    · next hgt =>
      refine List.pairwise_cons.mpr ⟨fun other hother => ?_, ih hrest⟩
      rcases mem_countKind hother with hkind | ⟨old, hold, hname⟩
      · rw [hkind]
        exact Bytes.order_lt_iff_gt.mpr hgt
      · rw [← hname]
        exact hfirst old hold

theorem Ascending.lookup_eq_none (h : Ascending (k :: counts))
    (hkind : String.byteOrder kind k.1 = .lt) : (k :: counts).lookup kind = none := by
  refine List.lookup_eq_none_iff.mpr fun other hother => bne_iff_ne.mpr ?_
  rintro rfl
  rcases List.mem_cons.mp hother with rfl | hlater
  · exact byteOrder_self_ne_lt _ hkind
  · exact byteOrder_self_ne_lt _ (Bytes.order_lt_trans hkind ((List.pairwise_cons.mp h).1 other hlater))

theorem lookup_cons (kind : String) (n : Nat) (counts : List (String × Nat)) (other : String) :
    ((kind, n) :: counts).lookup other = if other = kind then some n else counts.lookup other := by
  rw [List.lookup_cons]
  by_cases heq : other = kind
  · rw [if_pos heq, beq_iff_eq.mpr heq]
  · rw [if_neg heq, beq_false_of_ne heq]

theorem lookup_countKind (h : Ascending counts) (kind other : String) :
    ((countKind counts kind).lookup other).getD 0 =
      (counts.lookup other).getD 0 + if other = kind then 1 else 0 := by
  induction counts with
  | nil =>
    rw [countKind, lookup_cons]
    split
    · rfl
    · rfl
  | cons first rest ih =>
    obtain ⟨k, n⟩ := first
    rw [countKind]
    split
    · next hlt =>
      rw [lookup_cons kind]
      split
      · next heq =>
        rw [heq, h.lookup_eq_none hlt]
        rfl
      · rfl
    · next hsame =>
      rw [String.byteOrder_eq_iff.mp hsame, lookup_cons, lookup_cons]
      split
      · rfl
      · rfl
    · next hgt =>
      have hne : k ≠ kind := fun hkind => by
        rw [hkind, String.byteOrder_eq_iff.mpr rfl] at hgt
        cases hgt
      rw [lookup_cons, lookup_cons]
      by_cases heq : other = k
      · rw [if_pos heq, if_pos heq, heq, if_neg hne]
        rfl
      · rw [if_neg heq, if_neg heq]
        exact ih (List.pairwise_cons.mp h).2

theorem sum_countKind (counts : List (String × Nat)) (kind : String) :
    ((countKind counts kind).map Prod.snd).sum = (counts.map Prod.snd).sum + 1 := by
  induction counts with
  | nil => rfl
  | cons first rest ih =>
    rw [countKind]
    split
    · simp only [List.map_cons, List.sum_cons]
      omega
    · simp only [List.map_cons, List.sum_cons]
      omega
    · simp only [List.map_cons, List.sum_cons, ih]
      omega

theorem foldl_countKind (h : Ascending counts) (kinds : List String) :
    (∀ kind, ((kinds.foldl countKind counts).lookup kind).getD 0 =
      (counts.lookup kind).getD 0 + kinds.count kind) ∧
    ((kinds.foldl countKind counts).map Prod.snd).sum = (counts.map Prod.snd).sum + kinds.length := by
  induction kinds generalizing counts with
  | nil => exact ⟨fun _ => rfl, rfl⟩
  | cons first rest ih =>
    obtain ⟨hcounts, hsum⟩ := ih (h.countKind first)
    refine ⟨fun kind => ?_, ?_⟩
    · rw [List.foldl_cons, hcounts, lookup_countKind h, List.count_cons, Nat.add_assoc, Nat.add_comm (rest.count kind)]
      by_cases heq : kind = first
      · rw [if_pos heq, if_pos (beq_iff_eq.mpr heq.symm)]
      · rw [if_neg heq, beq_false_of_ne (Ne.symm heq), if_neg Bool.false_ne_true]
    · rw [List.foldl_cons, hsum, sum_countKind, List.length_cons]
      omega

end HybridSearch.TextIndex

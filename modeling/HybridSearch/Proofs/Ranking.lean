import HybridSearch.Number.Binary64
import HybridSearch.Proofs.VectorIndex.Key
import Mathlib.Data.List.Sort

/-!
# Ranked lists

Rankings and listings are sorted by a number, the larger first, and then by an id, in byte order. As long as
no id occurs twice, their order is strict, so that sorting leaves nothing open.
-/
namespace HybridSearch

variable {α : Type} {key : α → Int} {name : α → String} {le : α → α → Bool} {a b c : α}

/-- `a` has the larger key, or the same key and the smaller name. -/
def Ahead (key : α → Int) (name : α → String) (a b : α) : Prop :=
  key b < key a ∨ key a = key b ∧ String.byteOrder (name a) (name b) = .lt

/-- A test for sorting by a key and a name: it lets through what is ahead, and ties of both. -/
def SortsBy (key : α → Int) (name : α → String) (le : α → α → Bool) : Prop :=
  ∀ a b, le a b = true ↔ key b < key a ∨ key a = key b ∧ String.byteOrder (name a) (name b) ≠ .gt

theorem Ahead.trans (hab : Ahead key name a b) (hbc : Ahead key name b c) : Ahead key name a c := by
  rcases hab with hab | ⟨hab, hname⟩
  · rcases hbc with hbc | ⟨hbc, -⟩
    · exact .inl (by omega)
    · exact .inl (by omega)
  · rcases hbc with hbc | ⟨hbc, hname'⟩
    · exact .inl (by omega)
    · exact .inr ⟨hab.trans hbc, Bytes.order_lt_trans hname hname'⟩

theorem Ahead.irrefl (a : α) : ¬Ahead key name a a := by
  rintro (hkey | ⟨-, hname⟩)
  · exact absurd hkey (Int.lt_irrefl _)
  · exact Bytes.order_lt_irrefl _ hname

theorem eq_of_pairwise_ahead {xs ys : List α} (hxs : xs.Pairwise (Ahead key name))
    (hys : ys.Pairwise (Ahead key name)) (hperm : xs.Perm ys) : xs = ys :=
  List.Perm.eq_of_pairwise (fun a _ _ _ hab hba => absurd (hab.trans hba) (Ahead.irrefl a)) hxs hys hperm

theorem String.byteOrder_ne_gt_iff {s t : String} :
    String.byteOrder s t ≠ .gt ↔ String.byteOrder s t = .lt ∨ s = t := by
  rw [← byteOrder_eq_iff]
  cases String.byteOrder s t <;> simp

namespace SortsBy

theorem of_score {score : α → Binary64} (h : ∀ a b, le a b = match (score b).totalCompare (score a) with
    | .lt => true
    | .gt => false
    | .eq => String.byteOrder (name a) (name b) != .gt) : SortsBy (fun a => (score a).rank) name le := by
  intro a b
  rw [h, Binary64.totalCompare]
  rcases Int.lt_trichotomy (score b).rank (score a).rank with hrank | hrank | hrank
  · simp [Int.compare_eq_lt.mpr hrank, hrank]
  · simp [hrank]
  · simp [Int.compare_eq_gt.mpr hrank, Int.not_lt.mpr (Int.le_of_lt hrank), Int.ne_of_lt hrank]

theorem le_iff (h : SortsBy key name le) :
    le a b = true ↔ Ahead key name a b ∨ key a = key b ∧ name a = name b := by
  rw [h, String.byteOrder_ne_gt_iff, and_or_left, ← or_assoc]
  rfl

theorem trans (h : SortsBy key name le) (a b c : α) (hab : le a b = true) (hbc : le b c = true) :
    le a c = true := by
  rw [h.le_iff] at hab hbc ⊢
  rcases hab with hab | ⟨hkey, hname⟩
  · rcases hbc with hbc | ⟨hkey, hname⟩
    · exact .inl (hab.trans hbc)
    · refine .inl ?_
      rw [Ahead, ← hkey, ← hname]
      exact hab
  · rw [Ahead, hkey, hname]
    exact hbc

theorem total (h : SortsBy key name le) (a b : α) : (le a b || le b a) = true := by
  rw [Bool.or_eq_true, h, h]
  rcases Int.lt_trichotomy (key a) (key b) with hkey | hkey | hkey
  · exact .inr (.inl hkey)
  · cases hname : String.byteOrder (name a) (name b) with
    | lt => exact .inl (.inr ⟨hkey, by simp⟩)
    | eq => exact .inl (.inr ⟨hkey, by simp⟩)
    | gt =>
      refine .inr (.inr ⟨hkey.symm, ?_⟩)
      rw [show String.byteOrder (name b) (name a) = .lt from Bytes.order_lt_iff_gt.mpr hname]
      simp
  · exact .inl (.inl hkey)

theorem pairwise_of_le (h : SortsBy key name le) {xs : List α} (hsorted : xs.Pairwise fun a b => le a b = true)
    (hxs : (xs.map name).Nodup) : xs.Pairwise (Ahead key name) := by
  refine List.Pairwise.imp₂ (fun a b hle hne => ?_) hsorted (List.pairwise_map.mp hxs)
  exact (h.le_iff.mp hle).resolve_right fun htie => hne htie.2

/-- Sorting puts every item ahead of those that follow it, if no two have the same name. -/
theorem pairwise_mergeSort (h : SortsBy key name le) {xs : List α} (hxs : (xs.map name).Nodup) :
    (xs.mergeSort le).Pairwise (Ahead key name) :=
  h.pairwise_of_le (List.pairwise_mergeSort h.trans h.total xs)
    (((List.mergeSort_perm xs le).map name).nodup_iff.mpr hxs)

theorem mergeSort_eq_insertionSort (h : SortsBy key name le) {xs : List α} (hxs : (xs.map name).Nodup) :
    xs.mergeSort le = xs.insertionSort fun a b => le a b = true := by
  have htotal : Std.Total fun a b => le a b = true := ⟨fun a b => by simpa using h.total a b⟩
  have htrans : IsTrans α fun a b => le a b = true := ⟨h.trans⟩
  have hperm := List.perm_insertionSort (fun a b => le a b = true) xs
  have hinserted : (xs.insertionSort fun a b => le a b = true).Pairwise (Ahead key name) :=
    h.pairwise_of_le (List.pairwise_insertionSort _ xs) ((hperm.map name).nodup_iff.mpr hxs)
  exact eq_of_pairwise_ahead (h.pairwise_mergeSort hxs) hinserted
    ((List.mergeSort_perm xs le).trans hperm.symm)

/-- Items of different names come out in the same order, whatever order they are in before. -/
theorem mergeSort_eq_of_perm (h : SortsBy key name le) {xs ys : List α} (hperm : xs.Perm ys)
    (hys : (ys.map name).Nodup) : xs.mergeSort le = ys.mergeSort le :=
  eq_of_pairwise_ahead (h.pairwise_mergeSort ((hperm.map name).nodup_iff.mpr hys)) (h.pairwise_mergeSort hys)
    ((List.mergeSort_perm xs le).trans (hperm.trans (List.mergeSort_perm ys le).symm))

end SortsBy

end HybridSearch

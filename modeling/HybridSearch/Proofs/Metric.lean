import HybridSearch.Metric
import HybridSearch.Proofs.Number.Sign

/-!
# Euclidean distances

Between finite embeddings with a component the distance is never below zero, and an embedding is at
distance zero from itself.
-/
namespace HybridSearch.Metric

open Binary64

theorem foldl_isPositive {xs : List Binary64} {start : Binary64} (hstart : IsPositive start)
    (h : ∀ x ∈ xs, IsPositive x) : IsPositive (xs.foldl (· + ·) start) := by
  induction xs generalizing start with
  | nil => exact hstart
  | cons x xs ih =>
    exact ih (hstart.add (h x List.mem_cons_self)) fun y hy => h y (List.mem_cons_of_mem x hy)

theorem sum_isPositive {xs : List Binary64} (hne : xs ≠ []) (h : ∀ x ∈ xs, IsPositive x) :
    IsPositive (sum xs) := by
  cases xs with
  | nil => exact absurd rfl hne
  | cons x xs =>
    have hfirst : IsPositive (negativeZero + x) := (h x List.mem_cons_self).negativeZero_add
    rw [sum, List.foldl_cons]
    exact foldl_isPositive hfirst fun y hy => h y (List.mem_cons_of_mem x hy)

theorem foldl_zeros {xs : List Binary64} (h : ∀ x ∈ xs, x = zero) :
    xs.foldl (· + ·) zero = zero := by
  induction xs with
  | nil => rfl
  | cons x xs ih =>
    have hzero : zero + x = zero := by
      rw [h x List.mem_cons_self]
      rfl
    rw [List.foldl_cons, hzero]
    exact ih fun y hy => h y (List.mem_cons_of_mem x hy)

theorem sum_zeros {xs : List Binary64} (hne : xs ≠ []) (h : ∀ x ∈ xs, x = zero) : sum xs = zero := by
  cases xs with
  | nil => exact absurd rfl hne
  | cons x xs =>
    have hzero : negativeZero + x = zero := by
      rw [h x List.mem_cons_self]
      rfl
    rw [sum, List.foldl_cons, hzero]
    exact foldl_zeros fun y hy => h y (List.mem_cons_of_mem x hy)

variable {v w : Embedding}

theorem zipWith_ne_nil {f : Binary64 → Binary64 → Binary64} (hv : v ≠ []) (hw : w ≠ []) :
    v.zipWith f w ≠ [] := by
  simp [List.zipWith_eq_nil_iff, hv, hw]

theorem euclideanDistance_nonneg (hv : v ≠ []) (hw : w ≠ []) (hfinite : ∀ x ∈ v, x.isFinite = true)
    (hfinite' : ∀ y ∈ w, y.isFinite = true) : 0 ≤ (euclideanDistance v w).rank := by
  refine rank_nonneg (IsPositive.sqrt (sum_isPositive (zipWith_ne_nil hv hw) fun z hz => ?_))
  rw [← List.map_uncurry_zip_eq_zipWith] at hz
  obtain ⟨⟨x, y⟩, hxy, rfl⟩ := List.mem_map.mp hz
  obtain ⟨hx, hy⟩ := List.of_mem_zip hxy
  obtain ⟨s, hs⟩ := sub_hasSign (hfinite x hx) (hfinite' y hy)
  exact mul_self_isPositive hs

theorem euclideanDistance_self (hv : v ≠ []) (hfinite : ∀ x ∈ v, x.isFinite = true) :
    euclideanDistance v v = zero := by
  have hzeros : ∀ z ∈ v.zipWith (fun x y => (x - y) * (x - y)) v, z = zero := by
    intro z hz
    rw [List.zipWith_self] at hz
    obtain ⟨x, hx, rfl⟩ := List.mem_map.mp hz
    show (x - x) * (x - x) = zero
    rw [sub_self_eq (hfinite x hx)]
    rfl
  rw [euclideanDistance, sum_zeros (zipWith_ne_nil hv hv) hzeros]
  rfl

end HybridSearch.Metric

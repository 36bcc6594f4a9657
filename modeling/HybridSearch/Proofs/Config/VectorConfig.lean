import HybridSearch.Config.VectorConfig

/-!
# Accepted settings

What the checks of the vector index promise of the settings that pass them.
-/
namespace HybridSearch.VectorConfig

theorem inRange_iff {n bound : Nat} : inRange n bound = true ↔ 1 ≤ n ∧ n ≤ bound := by
  simp [inRange]

/-- Settings within their bounds. -/
structure Accepted (c : VectorConfig) : Prop where
  dimension : 1 ≤ c.dimension ∧ c.dimension ≤ maxDimension
  width : 1 ≤ c.width ∧ c.width ≤ maxWidth
  searchBreadth : 1 ≤ c.searchBreadth ∧ c.searchBreadth ≤ maxBreadth
  buildBreadth : 1 ≤ c.buildBreadth ∧ c.buildBreadth ≤ maxBreadth
  levelScale : Binary64.zero.lt c.levelScale = true ∧ c.levelScale.le maxLevelScale = true
  keyPrefix : c.keyPrefix ≠ ""

theorem accepted_of_validate {c : VectorConfig} (h : c.validate = .ok ()) : c.Accepted := by
  rw [validate] at h
  split at h
  · cases h
  next hdimension =>
  split at h
  · cases h
  next hwidth =>
  split at h
  · cases h
  next hsearch =>
  split at h
  · cases h
  next hbuild =>
  split at h
  · cases h
  next hscale =>
  split at h
  · cases h
  next hprefix =>
  simp only [Bool.not_eq_true', Bool.not_eq_false, inRange_iff, Bool.and_eq_true,
    String.isEmpty_iff] at hdimension hwidth hsearch hbuild hscale hprefix
  exact ⟨hdimension, hwidth, hsearch, hbuild, hscale, hprefix⟩

end HybridSearch.VectorConfig

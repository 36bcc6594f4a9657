import HybridSearch.Proofs.VectorIndex.Wiring

/-!
# Lengths of neighbour lists

A link puts an entry at the end of two lists at most and an unlink takes one out of two at most; all other lists
stay as they are. Taking a node out of a layer changes the lists of its neighbours there and no others, and
makes no list longer than it was, or than a list may be.
-/
namespace HybridSearch

namespace Graph

variable {g : Graph} {config : VectorConfig} {capacity layer l : Nat} {former : List String}
  {a b i id : String}

theorem neighbors_link_of_not (h : ¬(l = layer ∧ (i = a ∨ i = b))) :
    (g.link layer a b).neighbors l i = g.neighbors l i := by
  have ha : ¬(l = layer ∧ i = a) := fun ha => h ⟨ha.1, .inl ha.2⟩
  have hb : ¬(l = layer ∧ i = b) := fun hb => h ⟨hb.1, .inr hb.2⟩
  simp [link, neighbors_addNeighbor, ha, hb]

theorem length_link_le (g : Graph) (layer : Nat) (hne : a ≠ b) (l : Nat) (i : String) :
    ((g.link layer a b).neighbors l i).length ≤ (g.neighbors l i).length + 1 := by
  have hadd : ∀ (h : Graph) (a b : String), ((h.addNeighbor layer a b).neighbors l i).length ≤
      (h.neighbors l i).length + if i = a then 1 else 0 := by
    intro h a b
    rw [neighbors_addNeighbor]
    split
    · next hnew => simp [hnew.1.2]
    · omega
  have hfirst := hadd g a b
  have hsecond := hadd (g.addNeighbor layer a b) b a
  rw [link]
  by_cases ha : i = a
  · rw [if_pos ha] at hfirst
    rw [if_neg fun hb => hne (ha.symm.trans hb)] at hsecond
    omega
  · rw [if_neg ha] at hfirst
    split at hsecond <;> omega

theorem neighbors_unlink_of_not (h : ¬(l = layer ∧ (i = a ∨ i = b))) :
    (g.unlink layer a b).neighbors l i = g.neighbors l i := by
  rw [neighbors_unlink]
  exact List.filter_eq_self.mpr fun n _ => decide_eq_true (by grind)

theorem length_le_unlink (hnodup : (g.neighbors l i).Nodup) (layer : Nat) (a b : String) :
    (g.neighbors l i).length ≤ ((g.unlink layer a b).neighbors l i).length + 1 := by
  -- the only name that the list of either end may lose
  obtain ⟨other, hother⟩ : ∃ other, ∀ n, n ≠ other →
      ¬(l = layer ∧ (i = a ∧ n = b ∨ i = b ∧ n = a)) := by
    by_cases ha : i = a
    · exact ⟨b, by grind⟩
    · exact ⟨a, by grind⟩
  have hkept : ((g.neighbors l i).filter fun n => n != other).Sublist
      ((g.unlink layer a b).neighbors l i) := by
    rw [neighbors_unlink]
    exact List.monotone_filter_right _ fun n hn => decide_eq_true (hother n (by simpa using hn))
  have herase : (g.neighbors l i).length - 1 ≤ ((g.neighbors l i).erase other).length :=
    List.le_length_erase
  rw [hnodup.erase_eq_filter] at herase
  have hlength := hkept.length_le
  omega

theorem neighbors_repair_of_notMem (hi : i ∉ former) :
    (g.repair capacity layer former).neighbors l i = g.neighbors l i := by
  refine repair_induction (P := fun h => h.neighbors l i = g.neighbors l i) rfl ?_
  intro h a b hkept ha hb _ _ _
  refine (neighbors_link_of_not ?_).trans hkept
  rintro ⟨-, rfl | rfl⟩
  · exact hi ha
  · exact hi hb

theorem length_repair_le (g : Graph) (capacity layer : Nat) (former : List String) (l : Nat) (i : String) :
    ((g.repair capacity layer former).neighbors l i).length ≤ max (g.neighbors l i).length capacity := by
  refine repair_induction (P := fun h => (h.neighbors l i).length ≤ max (g.neighbors l i).length capacity)
    (Nat.le_max_left _ _) ?_
  intro h a b hbound _ _ hne ha hb
  by_cases htouched : l = layer ∧ (i = a ∨ i = b)
  · have hroom : (h.neighbors l i).length < capacity := by
      obtain ⟨rfl, rfl | rfl⟩ := htouched
      · exact ha
      · exact hb
    have hlength := length_link_le h layer hne l i
    omega
  · rw [neighbors_link_of_not htouched]
    exact hbound

theorem neighbors_unlinkLayer_of_notMem (hi : i ≠ id) (hfar : i ∉ g.neighbors layer id) :
    (unlinkLayer config id g layer).neighbors l i = g.neighbors l i := by
  rw [unlinkLayer, neighbors_repair_of_notMem hfar, neighbors_unlinkAll]
  exact List.filter_eq_self.mpr fun n _ => by simp [hi, hfar]

theorem length_unlinkLayer_le (config : VectorConfig) (id : String) (g : Graph) (layer l : Nat) (i : String) :
    ((unlinkLayer config id g layer).neighbors l i).length ≤
      max (g.neighbors l i).length (config.capacity layer) := by
  have hcut : (((g.neighbors layer id).foldl (fun g n => g.unlink layer id n) g).neighbors l i).length ≤
      (g.neighbors l i).length := by
    rw [neighbors_unlinkAll]
    exact List.length_filter_le _ _
  have hrepair := length_repair_le ((g.neighbors layer id).foldl (fun g n => g.unlink layer id n) g)
    (config.capacity layer) layer (g.neighbors layer id) l i
  rw [unlinkLayer]
  omega

end Graph

end HybridSearch

import HybridSearch.Proofs.VectorIndex.Key
import HybridSearch.VectorIndex.Candidate

/-!
# The order of candidates

Candidates are strictly and totally ordered. Inserting into a sorted list keeps it sorted, and a sorted
list is determined by its members.
-/
namespace HybridSearch

namespace Candidate

theorem isBefore_iff {a b : Candidate} :
    a.isBefore b = true ↔ a.distance.rank < b.distance.rank ∨
      a.distance = b.distance ∧ String.byteOrder a.id b.id = .lt := by
  rw [isBefore, order, beq_iff_eq, Binary64.totalCompare]
  rcases Int.lt_trichotomy a.distance.rank b.distance.rank with h | h | h
  · simp [Int.compare_eq_lt.mpr h, h]
  · have heq := Binary64.rank_injective h
    simp [heq]
  · have hne : a.distance ≠ b.distance := by
      intro heq
      rw [heq] at h
      omega
    simp [Int.compare_eq_gt.mpr h, hne]
    omega

theorem isBefore_irrefl (a : Candidate) : a.isBefore a = false := by
  refine Bool.eq_false_iff.mpr fun h => ?_
  rcases isBefore_iff.mp h with h | ⟨-, h⟩
  · omega
  · exact Bytes.order_lt_irrefl _ h

theorem isBefore_trans {a b c : Candidate} (hab : a.isBefore b = true) (hbc : b.isBefore c = true) :
    a.isBefore c = true := by
  rw [isBefore_iff] at hab hbc ⊢
  rcases hab with hab | ⟨hab, hid⟩
  · rcases hbc with hbc | ⟨hbc, -⟩
    · exact .inl (by omega)
    · exact .inl (hbc ▸ hab)
  · rcases hbc with hbc | ⟨hbc, hid'⟩
    · exact .inl (hab ▸ hbc)
    · exact .inr ⟨hab.trans hbc, Bytes.order_lt_trans hid hid'⟩

theorem isBefore_asymm {a b : Candidate} (h : a.isBefore b = true) : b.isBefore a = false := by
  refine Bool.eq_false_iff.mpr fun hba => ?_
  exact Bool.eq_false_iff.mp (isBefore_irrefl a) (isBefore_trans h hba)

theorem isBefore_total {a b : Candidate} (hab : a.isBefore b = false) (hba : b.isBefore a = false) :
    a = b := by
  rw [Bool.eq_false_iff, ne_eq, isBefore_iff, not_or, not_and] at hab hba
  have hdistance : a.distance = b.distance := Binary64.rank_injective (by omega)
  have hid : String.byteOrder a.id b.id = .eq := by
    cases h : String.byteOrder a.id b.id with
    | lt => exact absurd h (hab.2 hdistance)
    | eq => rfl
    | gt => exact absurd (Bytes.order_lt_iff_gt.mpr h) (hba.2 hdistance.symm)
  cases a
  cases b
  simp_all [String.byteOrder_eq_iff]

/-- Strictly ascending, nearest first. -/
def Ascending (cs : List Candidate) : Prop := cs.Pairwise fun a b => a.isBefore b = true

theorem insert_perm (c : Candidate) (cs : List Candidate) : (insert c cs).Perm (c :: cs) := by
  induction cs with
  | nil => exact List.Perm.refl _
  | cons first rest ih =>
    rw [insert]
    split
    · exact List.Perm.refl _
    · exact (ih.cons first).trans (List.Perm.swap c first rest)

@[simp]
theorem mem_insert {a c : Candidate} {cs : List Candidate} : a ∈ insert c cs ↔ a = c ∨ a ∈ cs := by
  rw [(insert_perm c cs).mem_iff, List.mem_cons]

@[simp]
theorem length_insert (c : Candidate) (cs : List Candidate) :
    (insert c cs).length = cs.length + 1 := by
  rw [(insert_perm c cs).length_eq, List.length_cons]

theorem ascending_insert {c : Candidate} {cs : List Candidate} (hs : Ascending cs) (hc : c ∉ cs) :
    Ascending (insert c cs) := by
  induction cs with
  | nil => exact List.pairwise_singleton _ _
  | cons first rest ih =>
    have hfirst := (List.pairwise_cons.mp hs).1
    rw [insert]
    split
    · next hbefore =>
      refine List.pairwise_cons.mpr ⟨fun a ha => ?_, hs⟩
      rcases List.mem_cons.mp ha with rfl | ha
      · exact hbefore
      · exact isBefore_trans hbefore (hfirst a ha)
    · next hafter =>
      refine List.pairwise_cons.mpr ⟨fun a ha => ?_,
        ih (List.Pairwise.of_cons hs) (List.not_mem_of_not_mem_cons hc)⟩
      rcases mem_insert.mp ha with rfl | ha
      · refine Bool.not_eq_false _ ▸ fun hc' => hc ?_
        rw [isBefore_total (Bool.not_eq_true _ ▸ hafter) hc']
        exact List.mem_cons_self
      · exact hfirst a ha

theorem sort_perm_append (cs sorted : List Candidate) :
    (cs.foldl (fun sorted c => insert c sorted) sorted).Perm (sorted ++ cs) := by
  induction cs generalizing sorted with
  | nil => simp
  | cons c cs ih =>
    refine (ih (insert c sorted)).trans (((insert_perm c sorted).append_right cs).trans ?_)
    exact List.perm_middle.symm

theorem sort_perm (cs : List Candidate) : (sort cs).Perm cs := sort_perm_append cs []

@[simp]
theorem mem_sort {c : Candidate} {cs : List Candidate} : c ∈ sort cs ↔ c ∈ cs :=
  (sort_perm cs).mem_iff

@[simp]
theorem length_sort (cs : List Candidate) : (sort cs).length = cs.length := (sort_perm cs).length_eq

theorem ascending_sort {cs : List Candidate} (h : cs.Nodup) : Ascending (sort cs) := by
  have hfold : ∀ (rest sorted : List Candidate), Ascending sorted → (sorted ++ rest).Nodup →
      Ascending (rest.foldl (fun sorted c => insert c sorted) sorted) := by
    intro rest
    induction rest with
    | nil => exact fun _ hs _ => hs
    | cons c rest ih =>
      intro sorted hs hnodup
      have hc : c ∉ sorted := fun hmem =>
        (List.nodup_append.mp hnodup).2.2 c hmem c List.mem_cons_self rfl
      refine ih _ (ascending_insert hs hc) ?_
      have hperm : (insert c sorted ++ rest).Perm (sorted ++ c :: rest) :=
        ((insert_perm c sorted).append_right rest).trans List.perm_middle.symm
      exact hperm.nodup_iff.mpr hnodup
  exact hfold cs [] List.Pairwise.nil h

theorem nodup_of_ascending {cs : List Candidate} (h : Ascending cs) : cs.Nodup := by
  refine List.Pairwise.imp (fun {a b} hbefore => ?_) h
  rintro rfl
  exact Bool.eq_false_iff.mp (isBefore_irrefl a) hbefore

theorem ascending_take {cs : List Candidate} (h : Ascending cs) (n : Nat) : Ascending (cs.take n) :=
  List.Pairwise.sublist (List.take_sublist n cs) h

theorem isBefore_of_mem_take {cs : List Candidate} (h : Ascending cs) {n : Nat} {kept cut : Candidate}
    (hkept : kept ∈ cs.take n) (hcut : cut ∈ cs) (hno : cut ∉ cs.take n) :
    kept.isBefore cut = true := by
  rw [← List.take_append_drop n cs] at hcut
  have hdrop : cut ∈ cs.drop n := (List.mem_append.mp hcut).resolve_left hno
  unfold Ascending at h
  rw [← List.take_append_drop n cs, List.pairwise_append] at h
  exact h.2.2 kept hkept cut hdrop

theorem eq_or_isBefore_getLast? {cs : List Candidate} (h : Ascending cs) {worst : Candidate}
    (hw : cs.getLast? = some worst) {c : Candidate} (hc : c ∈ cs) :
    c = worst ∨ c.isBefore worst = true := by
  obtain ⟨front, rfl⟩ := List.getLast?_eq_some_iff.mp hw
  rcases List.mem_append.mp hc with hc | hc
  · exact .inr ((List.pairwise_append.mp h).2.2 c hc worst (List.mem_singleton.mpr rfl))
  · exact .inl (List.mem_singleton.mp hc)

theorem ascending_ext {a b : List Candidate} (ha : Ascending a) (hb : Ascending b)
    (h : ∀ c, c ∈ a ↔ c ∈ b) : a = b := by
  have hperm : a.Perm b :=
    (List.perm_ext_iff_of_nodup (nodup_of_ascending ha) (nodup_of_ascending hb)).mpr h
  refine hperm.eq_of_pairwise (fun x y _ _ hxy hyx => ?_) ha hb
  rw [isBefore_asymm hxy] at hyx
  cases hyx

/-- A list cut short holds the first of all candidates if it leaves out none but those after it. -/
theorem eq_take_sort {all found : List Candidate} {n : Nat} (hall : all.Nodup) (hfound : Ascending found)
    (hsub : ∀ c ∈ found, c ∈ all) (hshort : found.length ≤ n)
    (hrest : ∀ c ∈ all, c ∉ found → found.length = n ∧ ∀ first ∈ found, first.isBefore c = true) :
    found = (sort all).take n := by
  by_cases hleft : ∀ c ∈ all, c ∈ found
  · have hsort : found = sort all := by
      refine ascending_ext hfound (ascending_sort hall) fun c => ?_
      rw [mem_sort]
      exact ⟨hsub c, hleft c⟩
    rw [← hsort, List.take_of_length_le hshort]
  · obtain ⟨c, hc, hnot⟩ : ∃ c ∈ all, c ∉ found := by
      simpa using hleft
    -- the beam is full, and what it leaves out follows behind it
    have hmem : ∀ c, c ∈ sort (all.filter fun c => decide (c ∉ found)) ↔ c ∈ all ∧ c ∉ found := by
      simp
    have hafter : Ascending (found ++ sort (all.filter fun c => decide (c ∉ found))) := by
      refine List.pairwise_append.mpr ⟨hfound, ascending_sort (hall.filter _), ?_⟩
      intro first hfirst late hlate
      obtain ⟨hin, hout⟩ := (hmem late).mp hlate
      exact (hrest late hin hout).2 first hfirst
    have hsort : found ++ sort (all.filter fun c => decide (c ∉ found)) = sort all := by
      refine ascending_ext hafter (ascending_sort hall) fun c => ?_
      rw [List.mem_append, hmem, mem_sort]
      by_cases hin : c ∈ found
      · simp [hin, hsub c hin]
      · simp [hin]
    rw [← hsort, ← (hrest c hc hnot).1, List.take_left]

end Candidate

end HybridSearch

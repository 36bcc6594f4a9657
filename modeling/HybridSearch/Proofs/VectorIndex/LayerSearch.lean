import HybridSearch.Proofs.Except
import HybridSearch.Proofs.VectorIndex.Candidate
import HybridSearch.VectorIndex.LayerSearch

/-!
# Best-first search finds a closed beam

What a search of a layer gives is sorted, true to the distances and reachable from its entries. It is
closed: every entry and every neighbour of a candidate that was found is found as well, or comes after
all of a full beam. A search takes at most one round per entry and per id in the neighbour lists.
-/
namespace HybridSearch

namespace Beam

variable {neighbors : String → Except VectorError (List String)}
variable {distance : String → Except VectorError Binary64}
variable {breadth : Nat}

/-- What a search may come to from its starting ids. -/
inductive Reachable (neighbors : String → Except VectorError (List String)) (starts : List String) :
    String → Prop
  | start {id : String} (h : id ∈ starts) : Reachable neighbors starts id
  | step {id next : String} {ids : List String} (h : Reachable neighbors starts id)
      (hids : neighbors id = .ok ids) (hnext : next ∈ ids) : Reachable neighbors starts next

/-- An id is among the candidates, or they are as many as they may be and all nearer. -/
def Covers (distance : String → Except VectorError Binary64) (breadth : Nat) (found : List Candidate)
    (id : String) : Prop :=
  ∃ x, distance id = .ok x ∧
    (⟨x, id⟩ ∈ found ∨ found.length = breadth ∧ ∀ c ∈ found, c.isBefore ⟨x, id⟩ = true)

/-- The result of a search. -/
structure Found (neighbors : String → Except VectorError (List String))
    (distance : String → Except VectorError Binary64) (breadth : Nat) (starts : List String)
    (found : List Candidate) : Prop where
  sorted : Candidate.Ascending found
  truthful : ∀ c ∈ found, distance c.id = .ok c.distance
  short : found.length ≤ breadth
  reached : ∀ c ∈ found, Reachable neighbors starts c.id
  starts_covered : ∀ id ∈ starts, Covers distance breadth found id
  closed : ∀ c ∈ found, ∀ ids, neighbors c.id = .ok ids → ∀ n ∈ ids, Covers distance breadth found n

/-- What holds of a beam between two looks at a neighbour. -/
structure Sound (neighbors : String → Except VectorError (List String))
    (distance : String → Except VectorError Binary64) (breadth : Nat) (starts : List String)
    (b : Beam) : Prop where
  frontier_sorted : Candidate.Ascending b.frontier
  frontier_seen : ∀ c ∈ b.frontier, c.id ∈ b.visited
  best_sorted : Candidate.Ascending b.best
  best_seen : ∀ c ∈ b.best, c.id ∈ b.visited
  best_true : ∀ c ∈ b.best, distance c.id = .ok c.distance
  best_short : b.best.length ≤ breadth
  covered : ∀ id ∈ b.visited, Covers distance breadth b.best id
  reached : ∀ id ∈ b.visited, Reachable neighbors starts id
  started : ∀ id ∈ starts, id ∈ b.visited

/-- All candidates that are kept will be gone on from, or have been; `current` is the one whose
neighbours are looked at. -/
def Expanded (neighbors : String → Except VectorError (List String)) (current : Option Candidate)
    (b : Beam) : Prop :=
  ∀ c ∈ b.best, some c = current ∨ c ∈ b.frontier ∨
    ∀ ids, neighbors c.id = .ok ids → ∀ n ∈ ids, n ∈ b.visited

theorem covers_take {cs : List Candidate} (hs : Candidate.Ascending cs) {c : Candidate}
    (hc : c ∈ cs) (htrue : distance c.id = .ok c.distance) :
    Covers distance breadth (cs.take breadth) c.id := by
  refine ⟨c.distance, htrue, ?_⟩
  by_cases hkept : c ∈ cs.take breadth
  · exact .inl hkept
  · refine .inr ⟨?_, fun kept hk => Candidate.isBefore_of_mem_take hs hk hc hkept⟩
    have hlong : breadth < cs.length := by
      refine Nat.lt_of_not_le fun hle => hkept ?_
      rwa [List.take_of_length_le hle]
    rw [List.length_take]
    omega

theorem sound_start {entries : List Candidate} (hids : (entries.map (·.id)).Nodup)
    (htrue : ∀ c ∈ entries, distance c.id = .ok c.distance) :
    Sound neighbors distance breadth (entries.map (·.id)) (start entries breadth) := by
  have hsorted : Candidate.Ascending (Candidate.sort entries) :=
    Candidate.ascending_sort (List.Pairwise.of_map _ (fun a b => mt (congrArg _)) hids)
  have htake : ∀ c ∈ (Candidate.sort entries).take breadth, c ∈ entries := fun c hc =>
    Candidate.mem_sort.mp (List.mem_of_mem_take hc)
  refine ⟨hsorted, fun c hc => ?_, Candidate.ascending_take hsorted _, fun c hc => ?_,
    fun c hc => htrue c (htake c hc), ?_, fun id hid => ?_, fun id hid => .start hid,
    fun id hid => hid⟩
  · exact List.mem_map_of_mem (Candidate.mem_sort.mp hc)
  · exact List.mem_map_of_mem (htake c hc)
  · exact List.length_take_le _ _
  · obtain ⟨c, hc, rfl⟩ := List.mem_map.mp hid
    exact covers_take hsorted (Candidate.mem_sort.mpr hc) (htrue c hc)

theorem expanded_start (entries : List Candidate) : Expanded neighbors none (start entries breadth) :=
  fun _ hc => .inr (.inl (List.mem_of_mem_take hc))

theorem isBefore_of_refused {b : Beam} {c : Candidate} (hs : Candidate.Ascending b.best)
    (hnew : c ∉ b.best) (hrefused : b.beatsWorst c = false) :
    ∀ kept ∈ b.best, kept.isBefore c = true := by
  intro kept hkept
  cases hworst : b.best.getLast? with
  | none => simp_all
  | some worst =>
    rw [beatsWorst, hworst] at hrefused
    have hmem : worst ∈ b.best := List.mem_of_getLast? hworst
    have hafter : worst.isBefore c = true := by
      refine Bool.not_eq_false _ ▸ fun hno => hnew ?_
      rwa [Candidate.isBefore_total hrefused hno]
    rcases Candidate.eq_or_isBefore_getLast? hs hworst hkept with rfl | hbefore
    · exact hafter
    · exact Candidate.isBefore_trans hbefore hafter

theorem isBefore_of_accepted {b : Beam} {c other : Candidate}
    (haccepted : (!b.isFull breadth || b.beatsWorst c) = true)
    (hfull : b.best.length = breadth) (hother : ∀ kept ∈ b.best, kept.isBefore other = true) :
    c.isBefore other = true := by
  have hbeats : b.beatsWorst c = true := by simpa [isFull, hfull] using haccepted
  rw [beatsWorst] at hbeats
  split at hbeats
  · next worst hworst =>
    exact Candidate.isBefore_trans hbeats (hother worst (List.mem_of_getLast? hworst))
  · cases hbeats

variable {starts : List String} {b : Beam}

theorem sound_offer (h : Sound neighbors distance breadth starts b)
    {c : Candidate} (hnew : c.id ∉ b.visited) (htrue : distance c.id = .ok c.distance)
    (hreached : Reachable neighbors starts c.id) :
    Sound neighbors distance breadth starts
      ({ b with visited := c.id :: b.visited }.offer breadth c) := by
  have hbest : c ∉ b.best := fun hc => hnew (h.best_seen c hc)
  have hfrontier : c ∉ b.frontier := fun hc => hnew (h.frontier_seen c hc)
  have hreachedAll : ∀ id ∈ c.id :: b.visited, Reachable neighbors starts id := by
    intro id hid
    rcases List.mem_cons.mp hid with rfl | hid
    · exact hreached
    · exact h.reached id hid
  rw [offer]
  split
  · next haccepted =>
    have hsorted := Candidate.ascending_insert h.best_sorted hbest
    have hmem : ∀ {a : Candidate}, a ∈ (c.insert b.best).take breadth → a = c ∨ a ∈ b.best :=
      fun ha => Candidate.mem_insert.mp (List.mem_of_mem_take ha)
    refine ⟨Candidate.ascending_insert h.frontier_sorted hfrontier, fun a ha => ?_,
      Candidate.ascending_take hsorted _, fun a ha => ?_, fun a ha => ?_,
      List.length_take_le _ _, fun id hid => ?_, hreachedAll,
      fun id hid => List.mem_cons_of_mem _ (h.started id hid)⟩
    · rcases Candidate.mem_insert.mp ha with rfl | ha
      · exact List.mem_cons_self
      · exact List.mem_cons_of_mem _ (h.frontier_seen a ha)
    · rcases hmem ha with rfl | ha
      · exact List.mem_cons_self
      · exact List.mem_cons_of_mem _ (h.best_seen a ha)
    · rcases hmem ha with rfl | ha
      · exact htrue
      · exact h.best_true a ha
    · rcases List.mem_cons.mp hid with rfl | hid
      · exact covers_take hsorted (Candidate.mem_insert.mpr (.inl rfl)) htrue
      · obtain ⟨x, hx, hin | ⟨hfull, hall⟩⟩ := h.covered id hid
        · exact covers_take hsorted (Candidate.mem_insert.mpr (.inr hin)) hx
        · refine ⟨x, hx, .inr ⟨?_, fun a ha => ?_⟩⟩
          · rw [List.length_take, Candidate.length_insert, hfull]
            omega
          · rcases hmem ha with rfl | ha
            · exact isBefore_of_accepted haccepted hfull hall
            · exact hall a ha
  · next hrefused =>
    have hrefused' : b.isFull breadth = true ∧ b.beatsWorst c = false := by
      simpa [isFull, beatsWorst] using hrefused
    have hfull : b.best.length = breadth := by
      have hle : breadth ≤ b.best.length := by simpa [isFull] using hrefused'.1
      have := h.best_short
      omega
    refine ⟨h.frontier_sorted, fun a ha => List.mem_cons_of_mem _ (h.frontier_seen a ha),
      h.best_sorted, fun a ha => List.mem_cons_of_mem _ (h.best_seen a ha), h.best_true,
      h.best_short, fun id hid => ?_, hreachedAll,
      fun id hid => List.mem_cons_of_mem _ (h.started id hid)⟩
    rcases List.mem_cons.mp hid with rfl | hid
    · exact ⟨c.distance, htrue,
        .inr ⟨hfull, isBefore_of_refused h.best_sorted hbest hrefused'.2⟩⟩
    · exact h.covered id hid

theorem mem_visited_offer {c : Candidate} {id : String} :
    id ∈ (b.offer breadth c).visited ↔ id ∈ b.visited := by
  rw [offer]
  split <;> rfl

theorem mem_frontier_offer {c a : Candidate} (h : a ∈ b.frontier) :
    a ∈ (b.offer breadth c).frontier := by
  rw [offer]
  split
  · exact Candidate.mem_insert.mpr (.inr h)
  · exact h

theorem mem_best_offer {c a : Candidate} (h : a ∈ (b.offer breadth c).best) :
    a ∈ b.best ∨ a ∈ (b.offer breadth c).frontier := by
  rw [offer] at h ⊢
  split at h
  · next haccepted =>
    rw [if_pos haccepted]
    rcases Candidate.mem_insert.mp (List.mem_of_mem_take h) with rfl | h
    · exact .inr (Candidate.mem_insert.mpr (.inl rfl))
    · exact .inl h
  · exact .inl h

theorem visit_cases {b next : Beam} {id : String} (h : visit distance breadth b id = .ok next) :
    id ∈ b.visited ∧ next = b ∨
      ∃ x, id ∉ b.visited ∧ distance id = .ok x ∧
        next = { b with visited := id :: b.visited }.offer breadth ⟨x, id⟩ := by
  rw [visit] at h
  split at h
  · next hseen => exact .inl ⟨by simpa using hseen, (Except.ok.inj h).symm⟩
  · next hnew =>
    obtain ⟨x, hx, h⟩ := exists_of_bind_ok h
    exact .inr ⟨x, by simpa using hnew, hx, (Except.ok.inj h).symm⟩

theorem sound_visit (h : Sound neighbors distance breadth starts b) {id : String} {next : Beam}
    (hreached : Reachable neighbors starts id) (hvisit : visit distance breadth b id = .ok next) :
    Sound neighbors distance breadth starts next := by
  rcases visit_cases hvisit with ⟨-, rfl⟩ | ⟨x, hnew, hx, rfl⟩
  · exact h
  · exact sound_offer h hnew hx hreached

theorem expanded_visit {current : Option Candidate} (h : Expanded neighbors current b) {id : String}
    {next : Beam} (hvisit : visit distance breadth b id = .ok next) :
    Expanded neighbors current next := by
  rcases visit_cases hvisit with ⟨-, rfl⟩ | ⟨x, hnew, hx, rfl⟩
  · exact h
  · intro c hc
    rcases mem_best_offer hc with hc | hc
    · rcases h c hc with hcurrent | hfrontier | hdone
      · exact .inl hcurrent
      · exact .inr (.inl (mem_frontier_offer hfrontier))
      · exact .inr (.inr fun ids hids n hn =>
          mem_visited_offer.mpr (List.mem_cons_of_mem _ (hdone ids hids n hn)))
    · exact .inr (.inl hc)

theorem mem_visited_visit {id : String} {next : Beam} (hvisit : visit distance breadth b id = .ok next) :
    id ∈ next.visited ∧ ∀ i ∈ b.visited, i ∈ next.visited := by
  rcases visit_cases hvisit with ⟨hseen, rfl⟩ | ⟨x, hnew, hx, rfl⟩
  · exact ⟨hseen, fun _ hi => hi⟩
  · exact ⟨mem_visited_offer.mpr List.mem_cons_self,
      fun _ hi => mem_visited_offer.mpr (List.mem_cons_of_mem _ hi)⟩

theorem visitAll_induction {motive : Beam → Prop} {ids : List String}
    (hvisit : ∀ b next, ∀ id ∈ ids, motive b → visit distance breadth b id = .ok next → motive next)
    {b next : Beam} (h : motive b) (hall : ids.foldlM (visit distance breadth) b = .ok next) :
    motive next := by
  induction ids generalizing b with
  | nil => exact Except.ok.inj hall ▸ h
  | cons id ids ih =>
    rw [List.foldlM_cons] at hall
    obtain ⟨looked, hfirst, hall⟩ := exists_of_bind_ok hall
    exact ih (fun b next i hi => hvisit b next i (List.mem_cons_of_mem _ hi))
      (hvisit b looked id List.mem_cons_self h hfirst) hall

theorem visitAll_visited {ids : List String} {next : Beam}
    (hall : ids.foldlM (visit distance breadth) b = .ok next) :
    (∀ id ∈ ids, id ∈ next.visited) ∧ ∀ i ∈ b.visited, i ∈ next.visited := by
  induction ids generalizing b with
  | nil =>
    obtain rfl := Except.ok.inj hall
    exact ⟨by simp, fun _ hi => hi⟩
  | cons id ids ih =>
    rw [List.foldlM_cons] at hall
    obtain ⟨looked, hfirst, hall⟩ := exists_of_bind_ok hall
    obtain ⟨hid, hold⟩ := mem_visited_visit hfirst
    obtain ⟨hrest, hlooked⟩ := ih hall
    refine ⟨fun i hi => ?_, fun i hi => hlooked i (hold i hi)⟩
    rcases List.mem_cons.mp hi with rfl | hi
    · exact hlooked _ hid
    · exact hrest i hi

theorem expand_cases {b next : Beam} {current : Candidate}
    (h : expand neighbors distance breadth b current = .ok next) :
    ∃ ids, neighbors current.id = .ok ids ∧ ids.foldlM (visit distance breadth) b = .ok next := by
  rw [expand] at h
  exact exists_of_bind_ok h

theorem sound_expand (h : Sound neighbors distance breadth starts b)
    (hexpanded : Expanded neighbors none b) {current : Candidate} {rest : List Candidate}
    (hfrontier : b.frontier = current :: rest) {next : Beam}
    (hround : expand neighbors distance breadth { b with frontier := rest } current = .ok next) :
    Sound neighbors distance breadth starts next ∧ Expanded neighbors none next := by
  obtain ⟨ids, hids, hall⟩ := expand_cases hround
  have hcurrent : Reachable neighbors starts current.id :=
    h.reached _ (h.frontier_seen _ (hfrontier ▸ List.mem_cons_self))
  have hpopped : Sound neighbors distance breadth starts { b with frontier := rest } :=
    { h with
      frontier_sorted := List.Pairwise.of_cons (hfrontier ▸ h.frontier_sorted)
      frontier_seen := fun c hc =>
        h.frontier_seen c (hfrontier ▸ List.mem_cons_of_mem _ hc) }
  have hopen : Expanded neighbors (some current) { b with frontier := rest } := by
    intro c hc
    rcases hexpanded c hc with hnone | hin | hdone
    · cases hnone
    · rw [hfrontier] at hin
      rcases List.mem_cons.mp hin with rfl | hin
      · exact .inl rfl
      · exact .inr (.inl hin)
    · exact .inr (.inr hdone)
  have hsound := visitAll_induction (motive := Sound neighbors distance breadth starts)
    (fun b next id hid hb hvisit => sound_visit hb (.step hcurrent hids hid) hvisit) hpopped hall
  have hlooked := visitAll_induction (motive := Expanded neighbors (some current))
    (fun b next id _ hb hvisit => expanded_visit hb hvisit) hopen hall
  refine ⟨hsound, fun c hc => .inr ?_⟩
  rcases hlooked c hc with hcurrent | hin | hdone
  · obtain rfl := Option.some_inj.mp hcurrent
    refine .inr fun ids' hids' n hn => ?_
    rw [hids] at hids'
    obtain rfl := Except.ok.inj hids'
    exact (visitAll_visited hall).1 n hn
  · exact .inl hin
  · exact .inr hdone

/-- When a run ends: nothing is left to go on from, or all of it comes after a full beam. -/
def Finished (breadth : Nat) (b : Beam) : Prop :=
  b.frontier = [] ∨ ∃ current rest, b.frontier = current :: rest ∧
    b.isFull breadth = true ∧ b.losesToWorst current = true

theorem run_step {fuel : Nat} {current : Candidate} {rest : List Candidate}
    (hfrontier : b.frontier = current :: rest)
    (hgo : (b.isFull breadth && b.losesToWorst current) = false) :
    run neighbors distance breadth (fuel + 1) b =
      (expand neighbors distance breadth { b with frontier := rest } current).bind
        (run neighbors distance breadth fuel) := by
  rw [run, hfrontier]
  simp only [hgo]
  rfl

theorem run_finished {fuel : Nat} (h : Finished breadth b) :
    run neighbors distance breadth (fuel + 1) b = .ok (some b.best) := by
  rw [run]
  rcases h with h | ⟨current, rest, h, hfull, hloses⟩
  · rw [h]
  · rw [h]
    simp [hfull, hloses]

theorem finished_or_step (breadth : Nat) (b : Beam) : Finished breadth b ∨ ∃ current rest,
    b.frontier = current :: rest ∧ (b.isFull breadth && b.losesToWorst current) = false := by
  cases hfrontier : b.frontier with
  | nil => exact .inl (.inl hfrontier)
  | cons current rest =>
    cases hgo : b.isFull breadth && b.losesToWorst current with
    | false => exact .inr ⟨current, rest, rfl, hgo⟩
    | true =>
      rw [Bool.and_eq_true] at hgo
      exact .inl (.inr ⟨current, rest, hfrontier, hgo⟩)

theorem run_induction {motive : Beam → Prop}
    (hround : ∀ b current rest next, motive b → b.frontier = current :: rest →
      expand neighbors distance breadth { b with frontier := rest } current = .ok next → motive next)
    {fuel : Nat} {b : Beam} {found : List Candidate} (h : motive b)
    (hrun : run neighbors distance breadth fuel b = .ok (some found)) :
    ∃ last, motive last ∧ Finished breadth last ∧ found = last.best := by
  induction fuel generalizing b with
  | zero => cases hrun
  | succ fuel ih =>
    rcases finished_or_step breadth b with hdone | ⟨current, rest, hfrontier, hgo⟩
    · rw [run_finished hdone] at hrun
      exact ⟨b, h, hdone, (Option.some_inj.mp (Except.ok.inj hrun)).symm⟩
    · rw [run_step hfrontier hgo] at hrun
      obtain ⟨next, hnext, hrun⟩ := exists_of_bind_ok hrun
      exact ih (hround b current rest next h hfrontier hnext) hrun

theorem notMem_frontier_of_finished (h : Sound neighbors distance breadth starts b)
    (hdone : Finished breadth b) {c : Candidate} (hc : c ∈ b.best) : c ∉ b.frontier := by
  intro hin
  rcases hdone with hnil | ⟨current, rest, hfrontier, -, hloses⟩
  · simp [hnil] at hin
  · rw [losesToWorst] at hloses
    split at hloses
    · next worst hworst =>
      have hlate : worst.isBefore c = true := by
        rw [hfrontier] at hin
        rcases List.mem_cons.mp hin with rfl | hin
        · exact hloses
        · have hsorted := h.frontier_sorted
          rw [hfrontier] at hsorted
          exact Candidate.isBefore_trans hloses ((List.pairwise_cons.mp hsorted).1 c hin)
      rcases Candidate.eq_or_isBefore_getLast? h.best_sorted hworst hc with rfl | hearly
      · exact Bool.eq_false_iff.mp (Candidate.isBefore_irrefl _) hlate
      · exact Bool.eq_false_iff.mp (Candidate.isBefore_asymm hlate) hearly
    · cases hloses

/-- What a search finds from entries with distinct ids and true distances is a closed beam. -/
theorem found_of_run {entries found : List Candidate} {fuel : Nat}
    (hids : (entries.map (·.id)).Nodup) (htrue : ∀ c ∈ entries, distance c.id = .ok c.distance)
    (hrun : run neighbors distance breadth fuel (start entries breadth) = .ok (some found)) :
    Found neighbors distance breadth (entries.map (·.id)) found := by
  obtain ⟨last, ⟨hsound, hexpanded⟩, hdone, rfl⟩ := run_induction
    (motive := fun b => Sound neighbors distance breadth (entries.map fun c : Candidate => c.id) b ∧
      Expanded neighbors none b)
    (fun b current rest next hb hfrontier hround => sound_expand hb.1 hb.2 hfrontier hround)
    ⟨sound_start hids htrue, expanded_start entries⟩ hrun
  refine ⟨hsound.best_sorted, hsound.best_true, hsound.best_short,
    fun c hc => hsound.reached _ (hsound.best_seen c hc),
    fun id hid => hsound.covered id (hsound.started id hid), fun c hc ids hcids n hn => ?_⟩
  rcases hexpanded c hc with hnone | hin | hlooked
  · cases hnone
  · exact absurd hin (notMem_frontier_of_finished hsound hdone hc)
  · exact hsound.covered n (hlooked ids hcids n hn)

theorem Found.ne_nil {found : List Candidate} (h : Found neighbors distance breadth starts found)
    (hbreadth : 0 < breadth) (hstarts : starts ≠ []) : found ≠ [] := by
  obtain ⟨id, hid⟩ := List.exists_mem_of_ne_nil _ hstarts
  rintro rfl
  obtain ⟨x, -, hin | ⟨hfull, -⟩⟩ := h.starts_covered id hid
  · simp at hin
  · simp at hfull
    omega

theorem Found.nodup_ids {found : List Candidate} (h : Found neighbors distance breadth starts found) :
    (found.map (·.id)).Nodup := by
  refine List.pairwise_map.mpr (List.Pairwise.imp_of_mem (fun {a b} ha hb hbefore hid => ?_) h.sorted)
  have heq : a.distance = b.distance := by
    have hdistance := h.truthful a ha
    rw [hid, h.truthful b hb] at hdistance
    exact (Except.ok.inj hdistance).symm
  have hab : a = b := by
    cases a
    cases b
    simp_all
  exact Bool.eq_false_iff.mp (Candidate.isBefore_irrefl b) (hab ▸ hbefore)

/-- A list without duplicates is shorter than one that holds all its members and one more. -/
theorem length_lt_of_notMem {α : Type} {x : α} {xs ys : List α} (hnodup : xs.Nodup) (hx : x ∉ xs)
    (hmem : x ∈ ys) (hsub : ∀ y ∈ xs, y ∈ ys) : xs.length < ys.length := by
  have hmore : (x :: xs).Nodup := List.nodup_cons.mpr ⟨hx, hnodup⟩
  refine hmore.length_le_of_subset ?_
  intro y hy
  rcases List.mem_cons.mp hy with rfl | hy
  · exact hmem
  · exact hsub y hy

theorem Found.mem_of_reachable {found : List Candidate}
    (h : Found neighbors distance breadth starts found) {ids : List String}
    (hids : ∀ id, Reachable neighbors starts id → id ∈ ids) (hroom : ids.length ≤ breadth) {id : String}
    (hid : Reachable neighbors starts id) : id ∈ found.map fun c => c.id := by
  have hmem : ∀ {id}, Reachable neighbors starts id → Covers distance breadth found id →
      id ∈ found.map fun c => c.id := by
    intro id hid ⟨x, hx, hcase⟩
    rcases hcase with hmem | ⟨hfull, -⟩
    · exact List.mem_map.mpr ⟨_, hmem, rfl⟩
    · -- a full beam has taken up every id there is
      refine Decidable.of_not_not fun hnot => ?_
      have hsub : ∀ i ∈ found.map fun c => c.id, i ∈ ids := by
        intro i hi
        obtain ⟨c, hc, rfl⟩ := List.mem_map.mp hi
        exact hids _ (h.reached c hc)
      have hlt := length_lt_of_notMem h.nodup_ids hnot (hids _ hid) hsub
      rw [List.length_map, hfull] at hlt
      omega
  induction hid with
  | start hstart => exact hmem (.start hstart) (h.starts_covered _ hstart)
  | step hprev hlist hnext ih =>
    obtain ⟨c, hc, rfl⟩ := List.mem_map.mp ih
    exact hmem (.step hprev hlist hnext) (h.closed c hc _ hlist _ hnext)

def unseen (b : Beam) (ids : List String) : List String := ids.filter fun id => !b.visited.contains id

theorem length_filter_lt {α : Type} {p q : α → Bool} {xs : List α} (h : ∀ x ∈ xs, p x = true → q x = true)
    {x : α} (hx : x ∈ xs) (hq : q x = true) (hp : p x = false) :
    (xs.filter p).length < (xs.filter q).length := by
  rw [← List.countP_eq_length_filter, ← List.countP_eq_length_filter]
  obtain ⟨front, back, rfl⟩ := List.append_of_mem hx
  have hfront : front.countP p ≤ front.countP q := List.countP_mono_left fun a ha =>
    h a (List.mem_append_left _ ha)
  have hback : back.countP p ≤ back.countP q := List.countP_mono_left fun a ha =>
    h a (List.mem_append_right _ (List.mem_cons_of_mem _ ha))
  simp only [List.countP_append, List.countP_cons, hq, hp]
  simp
  omega

theorem rounds_visit {id : String} {next : Beam} {ids : List String} (hid : id ∈ ids)
    (hvisit : visit distance breadth b id = .ok next) :
    next.frontier.length + (next.unseen ids).length ≤ b.frontier.length + (b.unseen ids).length := by
  rcases visit_cases hvisit with ⟨-, rfl⟩ | ⟨x, hnew, hx, rfl⟩
  · exact Nat.le_refl _
  · have hfrontier : ({ b with visited := id :: b.visited }.offer breadth ⟨x, id⟩).frontier.length ≤
        b.frontier.length + 1 := by
      rw [offer]
      split
      · exact Nat.le_of_eq (Candidate.length_insert _ _)
      · exact Nat.le_succ _
    have hvisited : ({ b with visited := id :: b.visited }.offer breadth ⟨x, id⟩).visited =
        id :: b.visited := by
      rw [offer]
      split <;> rfl
    have hunseen : (({ b with visited := id :: b.visited }.offer breadth ⟨x, id⟩).unseen ids).length <
        (b.unseen ids).length := by
      rw [unseen, hvisited]
      exact length_filter_lt (fun i _ hi => by simp_all) hid (by simpa using hnew) (by simp)
    omega

theorem rounds_expand {ids : List String}
    (hids : ∀ id list, neighbors id = .ok list → ∀ n ∈ list, n ∈ ids) {current : Candidate}
    {rest : List Candidate} (hfrontier : b.frontier = current :: rest) {next : Beam}
    (hround : expand neighbors distance breadth { b with frontier := rest } current = .ok next) :
    next.frontier.length + (next.unseen ids).length <
      b.frontier.length + (b.unseen ids).length := by
  obtain ⟨list, hlist, hall⟩ := expand_cases hround
  have hle := visitAll_induction
    (motive := fun c => c.frontier.length + (c.unseen ids).length ≤
      rest.length + (b.unseen ids).length)
    (fun c next n hn hc hvisit =>
      Nat.le_trans (rounds_visit (hids _ _ hlist n hn) hvisit) hc)
    (Nat.le_refl _) hall
  rw [hfrontier, List.length_cons]
  omega

/-- With a round for each candidate of the frontier and each id that may still turn up, a run does not
end for want of rounds. -/
theorem run_ne_none {ids : List String}
    (hids : ∀ id list, neighbors id = .ok list → ∀ n ∈ list, n ∈ ids) {fuel : Nat} {b : Beam}
    (hfuel : b.frontier.length + (b.unseen ids).length < fuel) :
    run neighbors distance breadth fuel b ≠ .ok none := by
  induction fuel generalizing b with
  | zero => omega
  | succ fuel ih =>
    rcases finished_or_step breadth b with hdone | ⟨current, rest, hfrontier, hgo⟩
    · rw [run_finished hdone]
      simp
    · rw [run_step hfrontier hgo]
      cases hnext : expand neighbors distance breadth { b with frontier := rest } current with
      | error e => simp [Except.bind]
      | ok next =>
        have hless := rounds_expand hids hfrontier hnext
        exact ih (by omega)

theorem visitAll_ok (hdistance : ∀ id, ∃ x, distance id = .ok x) (breadth : Nat) (ids : List String)
    (b : Beam) :
    ∃ next, ids.foldlM (visit distance breadth) b = .ok next := by
  induction ids generalizing b with
  | nil => exact ⟨b, rfl⟩
  | cons id ids ih =>
    have hfirst : ∃ looked, visit distance breadth b id = .ok looked := by
      obtain ⟨x, hx⟩ := hdistance id
      rw [visit, hx]
      split
      · exact ⟨b, rfl⟩
      · exact ⟨_, rfl⟩
    obtain ⟨looked, hlooked⟩ := hfirst
    obtain ⟨next, hnext⟩ := ih looked
    refine ⟨next, ?_⟩
    rw [List.foldlM_cons, hlooked]
    exact hnext

theorem run_ok (hneighbors : ∀ id, ∃ list, neighbors id = .ok list)
    (hdistance : ∀ id, ∃ x, distance id = .ok x) (fuel : Nat) (b : Beam) :
    ∃ found, run neighbors distance breadth fuel b = .ok found := by
  induction fuel generalizing b with
  | zero => exact ⟨none, rfl⟩
  | succ fuel ih =>
    rcases finished_or_step breadth b with hdone | ⟨current, rest, hfrontier, hgo⟩
    · exact ⟨_, run_finished hdone⟩
    · obtain ⟨list, hlist⟩ := hneighbors current.id
      obtain ⟨next, hnext⟩ := visitAll_ok hdistance breadth list { b with frontier := rest }
      obtain ⟨found, hfound⟩ := ih next
      refine ⟨found, ?_⟩
      rw [run_step hfrontier hgo, expand, hlist]
      exact (congrArg (Except.bind · _) hnext).trans hfound

theorem run_of_le {fuel more : Nat} {found : List Candidate} (hle : fuel ≤ more)
    (hrun : run neighbors distance breadth fuel b = .ok (some found)) :
    run neighbors distance breadth more b = .ok (some found) := by
  induction fuel generalizing b more with
  | zero => cases hrun
  | succ fuel ih =>
    obtain ⟨more, rfl⟩ : ∃ m, more = m + 1 := ⟨more - 1, by omega⟩
    rcases finished_or_step breadth b with hdone | ⟨current, rest, hfrontier, hgo⟩
    · rwa [run_finished hdone] at hrun ⊢
    · rw [run_step hfrontier hgo] at hrun ⊢
      cases hnext : expand neighbors distance breadth { b with frontier := rest } current with
      | error e => simp [hnext, Except.bind] at hrun
      | ok next =>
        rw [hnext] at hrun
        exact ih (by omega) hrun

section Congruence

variable {neighbors' : String → Except VectorError (List String)}
variable {distance' : String → Except VectorError Binary64}

theorem visitAll_congr {ids : List String} (h : ∀ id ∈ ids, distance id = distance' id) :
    ids.foldlM (visit distance breadth) b = ids.foldlM (visit distance' breadth) b := by
  induction ids generalizing b with
  | nil => rfl
  | cons id ids ih =>
    have hfirst : visit distance breadth b id = visit distance' breadth b id := by
      rw [visit, visit, h id List.mem_cons_self]
    rw [List.foldlM_cons, List.foldlM_cons, hfirst]
    exact bind_congr fun next => ih fun i hi => h i (List.mem_cons_of_mem _ hi)

theorem visitAll_ids {P : String → Prop} {ids : List String} {next : Beam} (hP : ∀ id ∈ ids, P id)
    (h : ∀ c ∈ b.frontier, P c.id) (hall : ids.foldlM (visit distance breadth) b = .ok next) :
    ∀ c ∈ next.frontier, P c.id := by
  refine visitAll_induction (motive := fun b => ∀ c ∈ b.frontier, P c.id)
    (fun b next id hid hb hvisit => ?_) h hall
  rcases visit_cases hvisit with ⟨-, rfl⟩ | ⟨x, hnew, hx, rfl⟩
  · exact hb
  · intro c hc
    rw [offer] at hc
    split at hc
    · rcases Candidate.mem_insert.mp hc with rfl | hc
      · exact hP id hid
      · exact hb c hc
    · exact hb c hc

/-- Runs that read the same wherever they come give the same; `P` holds of the ids that they come to. -/
theorem run_congr {P : String → Prop} (hneighbors : ∀ id, P id → neighbors id = neighbors' id)
    (hdistance : ∀ id, P id → distance id = distance' id)
    (hclosed : ∀ id list, P id → neighbors id = .ok list → ∀ n ∈ list, P n) {fuel : Nat} {b : Beam}
    (hfrontier : ∀ c ∈ b.frontier, P c.id) :
    run neighbors distance breadth fuel b = run neighbors' distance' breadth fuel b := by
  induction fuel generalizing b with
  | zero => rfl
  | succ fuel ih =>
    rcases finished_or_step breadth b with hdone | ⟨current, rest, hcons, hgo⟩
    · rw [run_finished hdone, run_finished hdone]
    · have hcurrent : P current.id := hfrontier current (hcons ▸ List.mem_cons_self)
      rw [run_step hcons hgo, run_step hcons hgo, expand, expand, hneighbors _ hcurrent]
      cases hlist : neighbors' current.id with
      | error e => rfl
      | ok list =>
        have hP : ∀ n ∈ list, P n := hclosed _ _ hcurrent ((hneighbors _ hcurrent).trans hlist)
        show (list.foldlM (visit distance breadth) _).bind _ = (list.foldlM (visit distance' breadth) _).bind _
        rw [← visitAll_congr fun n hn => hdistance n (hP n hn)]
        cases hall : list.foldlM (visit distance breadth) { b with frontier := rest } with
        | error e => rfl
        | ok next =>
          exact ih (visitAll_ids hP (fun c hc => hfrontier c (hcons ▸ List.mem_cons_of_mem _ hc)) hall)

end Congruence

end Beam

end HybridSearch

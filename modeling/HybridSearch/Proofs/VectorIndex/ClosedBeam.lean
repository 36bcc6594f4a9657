import HybridSearch.Proofs.VectorIndex.Index

/-!
# Searching a layer of any draft

A search of a layer depends on the lists and the embeddings of the nodes that can be reached from its entries,
and on nothing else about the draft. As long as these can be read it answers a closed beam: with room to spare
all that can be reached, and with room for one candidate a local minimum.
-/
namespace HybridSearch

namespace Beam

variable {neighbors : String → Except VectorError (List String)}
variable {distance : String → Except VectorError Binary64}
variable {breadth fuel : Nat} {starts : List String} {entries found : List Candidate}

theorem run_ok_of_reachable (hneighbors : ∀ id, Reachable neighbors starts id → ∃ ids, neighbors id = .ok ids)
    (hdistance : ∀ id, Reachable neighbors starts id → ∃ x, distance id = .ok x) {b : Beam}
    (hfrontier : ∀ c ∈ b.frontier, Reachable neighbors starts c.id) :
    ∃ found, run neighbors distance breadth fuel b = .ok found := by
  -- what cannot be read elsewhere may as well be an empty list and a distance of zero
  let lists (id : String) : Except VectorError (List String) := .ok ((neighbors id).toOption.getD [])
  let distances (id : String) : Except VectorError Binary64 := .ok ((distance id).toOption.getD Binary64.zero)
  have hsame : run neighbors distance breadth fuel b = run lists distances breadth fuel b := by
    refine run_congr (P := Reachable neighbors starts) (fun id hid => ?_) (fun id hid => ?_)
      (fun id ids hid hids n hn => hid.step hids hn) hfrontier
    · obtain ⟨ids, hids⟩ := hneighbors id hid
      rw [show lists id = .ok ((neighbors id).toOption.getD []) from rfl, hids]
      rfl
    · obtain ⟨x, hx⟩ := hdistance id hid
      rw [show distances id = .ok ((distance id).toOption.getD Binary64.zero) from rfl, hx]
      rfl
  rw [hsame]
  exact run_ok (fun _ => ⟨_, rfl⟩) (fun _ => ⟨_, rfl⟩) fuel b

theorem Covers.mem_of_lt {id : String} (h : Covers distance breadth found id) (hroom : found.length < breadth) :
    id ∈ found.map fun c => c.id := by
  obtain ⟨x, -, hmem | ⟨hfull, -⟩⟩ := h
  · exact List.mem_map.mpr ⟨_, hmem, rfl⟩
  · omega

theorem Found.mem_iff_reachable (h : Found neighbors distance breadth starts found)
    (hroom : found.length < breadth) {id : String} :
    id ∈ found.map (fun c => c.id) ↔ Reachable neighbors starts id := by
  constructor
  · intro hid
    obtain ⟨c, hc, rfl⟩ := List.mem_map.mp hid
    exact h.reached c hc
  · intro hid
    induction hid with
    | start hstart => exact (h.starts_covered _ hstart).mem_of_lt hroom
    | step _ hids hnext ih =>
      obtain ⟨c, hc, rfl⟩ := List.mem_map.mp ih
      exact (h.closed c hc _ hids _ hnext).mem_of_lt hroom

/-- No entry of a search comes before the candidate, and none of its neighbours does. -/
structure LocalMinimum (neighbors : String → Except VectorError (List String))
    (distance : String → Except VectorError Binary64) (entries : List Candidate) (best : Candidate) :
    Prop where
  entries : ∀ c ∈ entries, c = best ∨ best.isBefore c = true
  neighbors : ∀ ids, neighbors best.id = .ok ids → ∀ n ∈ ids,
    n = best.id ∨ ∃ x, distance n = .ok x ∧ best.isBefore ⟨x, n⟩ = true

theorem Found.localMinimum (h : Found neighbors distance 1 (entries.map fun c => c.id) found)
    (hne : found ≠ []) (htrue : ∀ c ∈ entries, distance c.id = .ok c.distance) :
    ∃ best, found = [best] ∧ LocalMinimum neighbors distance entries best := by
  obtain ⟨best, rest, rfl⟩ := List.exists_cons_of_ne_nil hne
  obtain rfl : rest = [] := List.length_eq_zero_iff.mp (Nat.le_zero.mp (Nat.le_of_succ_le_succ h.short))
  have hcovered : ∀ {id}, Covers distance 1 [best] id →
      ∃ x, distance id = .ok x ∧ (⟨x, id⟩ = best ∨ best.isBefore ⟨x, id⟩ = true) := by
    rintro id ⟨x, hx, hmem | ⟨-, hall⟩⟩
    · exact ⟨x, hx, .inl (List.mem_singleton.mp hmem)⟩
    · exact ⟨x, hx, .inr (hall best List.mem_cons_self)⟩
  refine ⟨best, rfl, fun c hc => ?_, fun ids hids n hn => ?_⟩
  · obtain ⟨x, hx, hcase⟩ := hcovered (h.starts_covered c.id (List.mem_map_of_mem hc))
    rw [htrue c hc] at hx
    obtain rfl := Except.ok.inj hx
    exact hcase
  · obtain ⟨x, hx, rfl | hbefore⟩ := hcovered (h.closed best List.mem_cons_self ids hids n hn)
    · exact .inl rfl
    · exact .inr ⟨x, hx, hbefore⟩

end Beam

namespace Draft

variable {config : VectorConfig} {store : StoreHandle} {d : Draft} {g : Graph} {query : Embedding}
  {entries : List Candidate} {breadth layer : Nat} {starts : List String}

/-- What can be reached on a layer has a list of neighbours and an embedding, both of which can be read. -/
structure Legible (d : Draft) (layer : Nat) (starts : List String) : Prop where
  lists : ∀ id, Beam.Reachable (d.neighbors layer) starts id → ∃ ids, d.neighbors layer id = .ok ids
  vectors : ∀ id, Beam.Reachable (d.neighbors layer) starts id → ∃ v, d.vector id = .ok v

theorem Legible.distance (h : d.Legible layer starts) (query : Embedding) {id : String}
    (hid : Beam.Reachable (d.neighbors layer) starts id) : ∃ x, d.distance query id = .ok x := by
  obtain ⟨v, hv⟩ := h.vectors id hid
  rw [Draft.distance, hv]
  exact ⟨_, rfl⟩

/-- From nodes of a layer everything can be read that a draft of a wired graph leads to. -/
theorem Shows.legible (h : Shows config store d g) (hw : g.Wired) (hstarts : ∀ id ∈ starts, g.On layer id) :
    d.Legible layer starts := by
  have hon : ∀ {id}, Beam.Reachable (d.neighbors layer) starts id → g.On layer id := by
    intro id hid
    have hreachable : Beam.Reachable (g.listsOf layer) starts id := by
      rwa [show d.neighbors layer = g.listsOf layer from funext (h.neighbors layer)] at hid
    exact hw.on_of_reachable hstarts hreachable
  exact ⟨fun id _ => ⟨_, h.neighbors layer id⟩, fun id hid => ⟨_, h.vector (hon hid).1⟩⟩

theorem exists_searchLayer_ok (h : d.Legible layer (entries.map fun c => c.id)) (query : Embedding)
    (breadth : Nat) :
    ∃ found, d.searchLayer query entries breadth layer = .ok found ∧
      Beam.run (d.neighbors layer) (d.distance query) breadth (entries.length + d.layerEntries layer + 1)
        (Beam.start entries breadth) = .ok (some found) := by
  have hrounds : (Beam.start entries breadth).frontier.length +
      ((Beam.start entries breadth).unseen (d.layerIds layer)).length <
        entries.length + d.layerEntries layer + 1 := by
    have hlength : (Beam.start entries breadth).frontier.length = entries.length :=
      Candidate.length_sort entries
    have hunseen := List.length_filter_le
      (fun id => !(Beam.start entries breadth).visited.contains id) (d.layerIds layer)
    rw [Beam.unseen]
    rw [length_layerIds] at hunseen
    omega
  have hne : Beam.run (d.neighbors layer) (d.distance query) breadth
      (entries.length + d.layerEntries layer + 1) (Beam.start entries breadth) ≠ .ok none :=
    Beam.run_ne_none (fun _ _ hlist _ hn => mem_layerIds hlist hn) hrounds
  have hok : ∃ found, Beam.run (d.neighbors layer) (d.distance query) breadth
      (entries.length + d.layerEntries layer + 1) (Beam.start entries breadth) = .ok found :=
    Beam.run_ok_of_reachable h.lists (fun _ hid => h.distance query hid)
      fun c hc => .start (List.mem_map_of_mem (Candidate.mem_sort.mp hc))
  obtain ⟨found, hfound⟩ := hok
  cases found with
  | none => exact absurd hfound hne
  | some found =>
    refine ⟨found, ?_, hfound⟩
    rw [Draft.searchLayer, hfound]
    rfl

/-- A search of a layer answers a closed beam. -/
theorem searchLayer_closed (hreads : d.Legible layer (entries.map fun c => c.id)) (hbreadth : 1 ≤ breadth)
    (hne : entries ≠ []) (hids : (entries.map fun c => c.id).Nodup)
    (htrue : ∀ c ∈ entries, d.distance query c.id = .ok c.distance) :
    ∃ found, d.searchLayer query entries breadth layer = .ok found ∧ found ≠ [] ∧
      Beam.Found (d.neighbors layer) (d.distance query) breadth (entries.map fun c => c.id) found ∧
      (found.length < breadth → ∀ id, id ∈ found.map (fun c => c.id) ↔
        Beam.Reachable (d.neighbors layer) (entries.map fun c => c.id) id) ∧
      (breadth = 1 → ∃ best, found = [best] ∧
        Beam.LocalMinimum (d.neighbors layer) (d.distance query) entries best) := by
  obtain ⟨found, hsearch, hrun⟩ := exists_searchLayer_ok hreads query breadth
  have hfound := Beam.found_of_run hids htrue hrun
  have hsome : found ≠ [] := hfound.ne_nil hbreadth (by simpa using hne)
  refine ⟨found, hsearch, hsome, hfound, fun hroom id => hfound.mem_iff_reachable hroom, ?_⟩
  rintro rfl
  exact hfound.localMinimum hsome htrue

end Draft

def smallDraft : Draft := Draft.start VectorIndex.smallConfig VectorIndex.smallTwo.store

theorem legible_smallDraft : smallDraft.Legible 0 ["a:\""] := by
  obtain ⟨-, g, hready⟩ := VectorIndex.reached_smallTwo.ready
  have hconfig : VectorIndex.smallTwo.index.config = VectorIndex.smallConfig := by decide +kernel
  have hshows : Draft.Shows VectorIndex.smallTwo.index.config VectorIndex.smallTwo.store smallDraft
      g.settled := by
    rw [smallDraft, ← hconfig]
    exact hready.holds.shows_start hready.gettable hready.scannable
  have hstored : (VectorIndex.smallTwo.index.contains VectorIndex.smallTwo.store "a:\"").toOption =
      some true := by decide +kernel
  rw [hready.contains_eq] at hstored
  refine hshows.legible hready.holds.sound.settled.wired fun id hid => ?_
  rw [List.mem_singleton.mp hid]
  exact ⟨of_decide_eq_true (Option.some.inj hstored), Nat.zero_le _⟩

/-- From the first node a search with room for one candidate comes to the second, and one with room for three
finds both. -/
theorem searchLayer_smallDraft :
    smallDraft.Legible 0 ([⟨Binary64.one, "a:\""⟩].map fun c : Candidate => c.id) ∧
    smallDraft.distance [Binary64.one] "a:\"" = .ok Binary64.one ∧
    (smallDraft.searchLayer [Binary64.one] [⟨Binary64.one, "a:\""⟩] 1 0 = .ok [⟨Binary64.zero, "b"⟩] ∧
      Beam.LocalMinimum (smallDraft.neighbors 0) (smallDraft.distance [Binary64.one])
        [⟨Binary64.one, "a:\""⟩] ⟨Binary64.zero, "b"⟩) ∧
    smallDraft.searchLayer [Binary64.one] [⟨Binary64.one, "a:\""⟩] 3 0 =
      .ok [⟨Binary64.zero, "b"⟩, ⟨Binary64.one, "a:\""⟩] ∧
    ∀ id, id ∈ ["b", "a:\""] ↔ Beam.Reachable (smallDraft.neighbors 0) ["a:\""] id := by
  have hreads : smallDraft.Legible 0 ([⟨Binary64.one, "a:\""⟩].map fun c : Candidate => c.id) :=
    legible_smallDraft
  have hdistance : smallDraft.distance [Binary64.one] "a:\"" = .ok Binary64.one :=
    ok_of_toOption (by decide +kernel)
  have hnarrow : smallDraft.searchLayer [Binary64.one] [⟨Binary64.one, "a:\""⟩] 1 0 =
      .ok [⟨Binary64.zero, "b"⟩] := ok_of_toOption (by decide +kernel)
  have hwide : smallDraft.searchLayer [Binary64.one] [⟨Binary64.one, "a:\""⟩] 3 0 =
      .ok [⟨Binary64.zero, "b"⟩, ⟨Binary64.one, "a:\""⟩] := ok_of_toOption (by decide +kernel)
  have htrue : ∀ c ∈ [(⟨Binary64.one, "a:\""⟩ : Candidate)],
      smallDraft.distance [Binary64.one] c.id = .ok c.distance := by
    intro c hc
    rw [List.mem_singleton.mp hc]
    exact hdistance
  have hids : ([(⟨Binary64.one, "a:\""⟩ : Candidate)].map fun c => c.id).Nodup := by decide
  obtain ⟨found, hfound, -, -, -, hminimum⟩ := Draft.searchLayer_closed hreads
    (show 1 ≤ 1 by decide) (List.cons_ne_nil _ _) hids htrue
  obtain ⟨found', hfound', -, -, hreached, -⟩ := Draft.searchLayer_closed hreads
    (show 1 ≤ 3 by decide) (List.cons_ne_nil _ _) hids htrue
  obtain rfl := Except.ok.inj (hnarrow.symm.trans hfound)
  obtain rfl := Except.ok.inj (hwide.symm.trans hfound')
  obtain ⟨best, hbest, hlocal⟩ := hminimum rfl
  obtain rfl := List.singleton_inj.mp hbest
  exact ⟨hreads, hdistance, ⟨hnarrow, hlocal⟩, hwide, hreached (by decide)⟩

end HybridSearch

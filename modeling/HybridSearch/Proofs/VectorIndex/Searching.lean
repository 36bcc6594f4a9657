import HybridSearch.Proofs.VectorIndex.Wiring

/-!
# Searching a wired graph

From nodes of a layer a search finds nodes of that layer, so a descent goes from layer to layer without
running dry, and a new node can be linked to what is found on the way.
-/
namespace HybridSearch

namespace Graph

/-- Candidates that a search of a layer can start from. -/
structure Starts (g : Graph) (query : Embedding) (layer : Nat) (cs : List Candidate) : Prop where
  ne_nil : cs ≠ []
  nodup : (cs.map fun c => c.id).Nodup
  truthful : ∀ c ∈ cs, g.distance query c.id = c.distance
  on : ∀ c ∈ cs, g.On layer c.id

namespace Starts

variable {g h : Graph} {query : Embedding} {layer : Nat} {cs : List Candidate}

theorem mono (hs : Starts g query layer cs) {lower : Nat} (hle : lower ≤ layer) :
    Starts g query lower cs :=
  { hs with on := fun c hc => ⟨(hs.on c hc).1, Nat.le_trans hle (hs.on c hc).2⟩ }

theorem congr (hs : Starts g query layer cs) (same : SameNodes g h) : Starts h query layer cs :=
  { hs with
    truthful := fun c hc => by rw [same.distance, hs.truthful c hc]
    on := fun c hc => same.on_iff.mpr (hs.on c hc) }

theorem singleton {id : String} (hid : g.On layer id) :
    Starts g query layer [⟨g.distance query id, id⟩] where
  ne_nil := by simp
  nodup := by simp
  truthful c hc := by rw [List.mem_singleton.mp hc]
  on c hc := by rwa [List.mem_singleton.mp hc]

end Starts

theorem Wired.on_of_reachable {g : Graph} (hw : g.Wired) {layer : Nat} {starts : List String}
    (hstarts : ∀ id ∈ starts, g.On layer id) {id : String}
    (h : Beam.Reachable (g.listsOf layer) starts id) : g.On layer id := by
  cases h with
  | start hid => exact hstarts id hid
  | step _ hids hnext =>
    rw [← Except.ok.inj hids] at hnext
    exact hw.on hnext

theorem Wired.run_eq {g : Graph} (hw : g.Wired) (query : Embedding) (layer breadth : Nat)
    (cs : List Candidate) : ∃ found,
      Beam.run (g.listsOf layer) (g.distancesTo query) breadth (cs.length + g.ids.length + 1)
        (Beam.start cs breadth) = .ok (some found) := by
  have hrounds : (Beam.start cs breadth).frontier.length +
      ((Beam.start cs breadth).unseen g.ids).length < cs.length + g.ids.length + 1 := by
    have hfrontier : (Beam.start cs breadth).frontier.length = cs.length :=
      Candidate.length_sort cs
    have hunseen := List.length_filter_le (fun id => !(Beam.start cs breadth).visited.contains id) g.ids
    rw [Beam.unseen]
    omega
  have hlists : ∀ id list, g.listsOf layer id = .ok list → ∀ n ∈ list, n ∈ g.ids := by
    intro id list hlist n hn
    rw [← Except.ok.inj hlist] at hn
    exact (hw.on hn).1
  have hne : Beam.run (g.listsOf layer) (g.distancesTo query) breadth (cs.length + g.ids.length + 1)
      (Beam.start cs breadth) ≠ .ok none := Beam.run_ne_none hlists hrounds
  have hok : ∃ found, Beam.run (g.listsOf layer) (g.distancesTo query) breadth
      (cs.length + g.ids.length + 1) (Beam.start cs breadth) = .ok found :=
    Beam.run_ok (fun _ => ⟨_, rfl⟩) (fun _ => ⟨_, rfl⟩) _ _
  obtain ⟨found, hfound⟩ := hok
  cases found with
  | none => exact absurd hfound hne
  | some found => exact ⟨found, hfound⟩

variable {g : Graph} {query : Embedding} {layer : Nat} {cs : List Candidate}

theorem Wired.searchLayer_found (hw : g.Wired) (hs : Starts g query layer cs) (breadth : Nat) :
    Beam.Found (g.listsOf layer) (g.distancesTo query) breadth (cs.map fun c => c.id)
      (g.searchLayer query cs breadth layer) := by
  obtain ⟨found, hrun⟩ := hw.run_eq query layer breadth cs
  rw [searchLayer, hrun]
  exact Beam.found_of_run hs.nodup (fun c hc => congrArg _ (hs.truthful c hc)) hrun

theorem Wired.searchLayer_starts (hw : g.Wired) (hs : Starts g query layer cs) {breadth : Nat}
    (hbreadth : 0 < breadth) : Starts g query layer (g.searchLayer query cs breadth layer) := by
  have hfound := hw.searchLayer_found hs breadth
  refine ⟨hfound.ne_nil hbreadth (by simpa using hs.ne_nil), hfound.nodup_ids,
    fun c hc => Except.ok.inj (hfound.truthful c hc), fun c hc => ?_⟩
  refine hw.on_of_reachable (fun id hid => ?_) (hfound.reached c hc)
  obtain ⟨start, hstart, rfl⟩ := List.mem_map.mp hid
  exact hs.on start hstart

theorem Wired.descend_starts (hw : g.Wired) (bottom : Nat) {top : Nat} {cs : List Candidate}
    (hs : Starts g query top cs) :
    Starts g query (min bottom top) (g.descend query bottom top cs) := by
  induction top generalizing cs with
  | zero => exact hs.mono (Nat.min_le_right _ _)
  | succ top ih =>
    rw [descend]
    split
    · exact hs.mono (Nat.min_le_right _ _)
    · next hbottom =>
      have hnext := (hw.searchLayer_starts hs Nat.one_pos).mono (Nat.le_succ top)
      rw [Nat.min_eq_left (by omega : bottom ≤ top + 1)]
      have hlower := ih hnext
      rwa [Nat.min_eq_left (by omega : bottom ≤ top)] at hlower

theorem mem_selectNeighbors {config : VectorConfig} {id n : String} {cs : List Candidate}
    (h : n ∈ Draft.selectNeighbors config id cs) : n ≠ id ∧ ∃ c ∈ cs, c.id = n := by
  obtain ⟨c, hc, rfl⟩ := List.mem_map.mp h
  have hkept := List.mem_filter.mp (List.mem_of_mem_take hc)
  exact ⟨by simpa using hkept.2, c, hkept.1, rfl⟩

theorem rewires_linkLayer (hw : g.Wired) (config : VectorConfig) {id : String} (hid : g.On layer id)
    (hs : Starts g query layer cs) (hbreadth : 0 < config.buildBreadth) :
    Rewires (· = layer) g (linkLayer config id query layer g cs).1 := by
  have hfound := hw.searchLayer_starts hs hbreadth
  refine Rewires.foldl hw fun h hwired same n hn => ?_
  obtain ⟨hne, c, hc, rfl⟩ := mem_selectNeighbors hn
  exact rewires_connect (Ne.symm hne) (same.on_iff.mpr hid) (same.on_iff.mpr (hfound.on c hc))

theorem rewires_linkLayers (hw : g.Wired) (config : VectorConfig) {id : String} {layers : Nat}
    (hid : g.On (layers - 1) id) (hs : Starts g query (layers - 1) cs)
    (hbreadth : 0 < config.buildBreadth) :
    Rewires (· < layers) g (linkLayers config id query layers g cs) := by
  induction layers generalizing g cs with
  | zero => exact .refl
  | succ layer ih =>
    rw [Nat.add_sub_cancel] at hid hs
    have hlinked := rewires_linkLayer hw config hid hs hbreadth
    have hfound := hw.searchLayer_starts hs hbreadth
    refine (hlinked.mono fun l hl => by omega).trans ?_
    refine (ih (hlinked.wired hw) ?_ ?_).mono fun l hl => by omega
    · exact hlinked.sameNodes.on_iff.mpr ⟨hid.1, by have := hid.2; omega⟩
    · exact (hfound.congr hlinked.sameNodes).mono (Nat.sub_le _ _)

/-- Wiring a node below its level to a graph that has an entry point edits only these layers. -/
theorem rewires_linkBelow (hw : g.Wired) (config : VectorConfig) {id : String} {level : Nat}
    {entry : EntryPoint} (hid : g.On level id) (hentry : g.On entry.level entry.id)
    (hbreadth : 0 < config.buildBreadth) :
    Rewires (· ≤ min level entry.level) g (linkBelow config g id query level entry) := by
  have hstart : Starts g query (min level entry.level + 1 - 1)
      (g.descend query level entry.level [⟨g.distance query entry.id, entry.id⟩]) :=
    hw.descend_starts level (.singleton hentry)
  have hnode : g.On (min level entry.level + 1 - 1) id := ⟨hid.1, by have := hid.2; omega⟩
  exact (rewires_linkLayers hw config hnode hstart hbreadth).mono fun l hl => by omega

end Graph

end HybridSearch

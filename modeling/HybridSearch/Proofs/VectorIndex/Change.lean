import HybridSearch.Proofs.VectorIndex.Draft
import HybridSearch.Proofs.VectorIndex.Transaction

/-!
# Searching and changing through drafts

Over a wired graph no search, insert or delete that is prepared in a draft meets unreadable records or
missing embeddings, and what it comes to is what the same operation makes of the graph.
-/
namespace HybridSearch.Draft

variable {config : VectorConfig} {store : StoreHandle} {d : Draft} {g : Graph}

/-- The ids in the neighbour lists of a layer, stored and pending ones. -/
def layerIds (d : Draft) (layer : Nat) : List String :=
  (d.store.content.scan (d.keys.layerLead layer)).flatMap (fun e => (Record.neighbors? e.2).getD []) ++
    (d.pending.scan (d.keys.layerLead layer)).flatMap fun e =>
      (e.2.bind Record.neighbors?).getD []

theorem length_layerIds (d : Draft) (layer : Nat) :
    (d.layerIds layer).length = d.layerEntries layer := by
  rw [layerIds, layerEntries, List.length_append, List.length_flatMap, List.length_flatMap]
  rfl

theorem readable_ok_iff {α : Type} {cause : Corruption} {found : Option α} {a : α} :
    readable cause found = .ok a ↔ found = some a := by
  cases found with
  | none => exact ⟨fun h => (nomatch h), fun h => (nomatch h)⟩
  | some b => exact ⟨fun h => congrArg some (Except.ok.inj h), fun h => congrArg Except.ok (Option.some.inj h)⟩

/-- What is read is what is pending or stored, whatever else fails. -/
theorem peek_of_get {key : Bytes} {value : Option Bytes} (h : d.get key = .ok value) :
    d.peek key = value := by
  rw [peek]
  rw [Draft.get] at h
  cases hpending : d.pending.find? key with
  | some pending =>
    rw [hpending] at h
    exact Except.ok.inj h
  | none =>
    rw [hpending, StoreHandle.get] at h
    cases hfault : d.store.faults.get with
    | some fault =>
      rw [hfault] at h
      cases h
    | none =>
      rw [hfault] at h
      exact Except.ok.inj h

theorem mem_layerIds {layer : Nat} {id n : String} {list : List String}
    (hlist : d.neighbors layer id = .ok list) (hn : n ∈ list) : n ∈ d.layerIds layer := by
  obtain ⟨value, hvalue, hread⟩ := exists_of_bind_ok hlist
  have hlead : (d.keys.neighbors layer id).startsWith (d.keys.layerLead layer) = true :=
    Bytes.startsWith_append _ _
  have hpeek := peek_of_get hvalue
  cases value with
  | none =>
    rw [← Except.ok.inj hread] at hn
    cases hn
  | some bytes =>
    have hids : Record.neighbors? bytes = some list := readable_ok_iff.mp hread
    rw [peek] at hpeek
    cases hpending : d.pending.find? (d.keys.neighbors layer id) with
    | none =>
      rw [hpending] at hpeek
      exact List.mem_append_left _ (List.mem_flatMap.mpr
        ⟨_, ByteMap.mem_scan_iff.mpr ⟨hlead, hpeek⟩, by simpa [hids] using hn⟩)
    | some pending =>
      rw [hpending, Option.getD_some] at hpeek
      subst hpeek
      exact List.mem_append_right _ (List.mem_flatMap.mpr
        ⟨_, ByteMap.mem_scan_iff.mpr ⟨hlead, hpending⟩, by simpa [hids] using hn⟩)

namespace Shows

theorem searchLayer (h : Shows config store d g) (hw : g.Wired) {query : Embedding}
    {cs : List Candidate} {layer : Nat} (hs : g.Starts query layer cs) (breadth : Nat) :
    d.searchLayer query cs breadth layer = .ok (g.searchLayer query cs breadth layer) := by
  have hclosed : ∀ id list, id ∈ g.ids → d.neighbors layer id = .ok list → ∀ n ∈ list, n ∈ g.ids := by
    intro id list _ hlist n hn
    rw [h.neighbors] at hlist
    rw [← Except.ok.inj hlist] at hn
    exact (hw.on hn).1
  have hfrontier : ∀ c ∈ (Beam.start cs breadth).frontier, c.id ∈ g.ids := fun c hc =>
    (hs.on c (Candidate.mem_sort.mp hc)).1
  have hsame : ∀ fuel, Beam.run (d.neighbors layer) (d.distance query) breadth fuel
      (Beam.start cs breadth) =
        Beam.run (g.listsOf layer) (g.distancesTo query) breadth fuel (Beam.start cs breadth) :=
    fun _ => Beam.run_congr (fun id _ => h.neighbors layer id) (fun id hid => h.distance query hid)
      hclosed hfrontier
  have hrounds : (Beam.start cs breadth).frontier.length +
      ((Beam.start cs breadth).unseen (d.layerIds layer)).length <
        cs.length + d.layerEntries layer + 1 := by
    have hlength : (Beam.start cs breadth).frontier.length = cs.length := Candidate.length_sort cs
    have hunseen := List.length_filter_le (fun id => !(Beam.start cs breadth).visited.contains id)
      (d.layerIds layer)
    rw [Beam.unseen]
    rw [length_layerIds] at hunseen
    omega
  have hlists : ∀ id list, g.listsOf layer id = .ok list → ∀ n ∈ list, n ∈ d.layerIds layer := by
    intro id list hlist n hn
    rw [← Except.ok.inj hlist] at hn
    exact mem_layerIds (h.neighbors layer id) hn
  have hne : Beam.run (g.listsOf layer) (g.distancesTo query) breadth
      (cs.length + d.layerEntries layer + 1) (Beam.start cs breadth) ≠ .ok none :=
    Beam.run_ne_none hlists hrounds
  have hok : ∃ found, Beam.run (g.listsOf layer) (g.distancesTo query) breadth
      (cs.length + d.layerEntries layer + 1) (Beam.start cs breadth) = .ok found :=
    Beam.run_ok (fun _ => ⟨_, rfl⟩) (fun _ => ⟨_, rfl⟩) _ _
  obtain ⟨found, hfound⟩ := hok
  cases found with
  | none => exact absurd hfound hne
  | some found =>
    obtain ⟨shown, hshown⟩ := hw.run_eq query layer breadth cs
    -- both runs end, so one with the rounds of the other as well ends with either result
    have hlong := Beam.run_of_le (Nat.le_add_right _ (cs.length + g.ids.length + 1)) hfound
    have hlong' := Beam.run_of_le (Nat.le_add_left _ (cs.length + d.layerEntries layer + 1)) hshown
    have hequal : found = shown :=
      Option.some_inj.mp (Except.ok.inj (hlong.symm.trans hlong'))
    rw [Draft.searchLayer, Graph.searchLayer, hsame, hfound, hshown, hequal]
    rfl

theorem descend (h : Shows config store d g) (hw : g.Wired) {query : Embedding} (bottom : Nat)
    {top : Nat} {cs : List Candidate} (hs : g.Starts query top cs) :
    d.descend query bottom top cs = .ok (g.descend query bottom top cs) := by
  induction top generalizing cs with
  | zero => rfl
  | succ top ih =>
    rw [Draft.descend, Graph.descend]
    split
    · rfl
    · rw [h.searchLayer hw hs 1]
      exact ih ((hw.searchLayer_starts hs Nat.one_pos).mono (Nat.le_succ top))

theorem neighborDistances (h : Shows config store d g) {id : String} (hid : id ∈ g.ids)
    {ids : List String} (hids : ∀ n ∈ ids, n ∈ g.ids) :
    d.neighborDistances id ids = .ok (g.neighborDistances id ids) := by
  induction ids with
  | nil => rfl
  | cons n ids ih =>
    rw [Draft.neighborDistances_cons, h.distanceBetween hid (hids n List.mem_cons_self),
      ih fun m hm => hids m (List.mem_cons_of_mem _ hm)]
    rfl

theorem dropExcess (h : Shows config store d g) (layer : Nat) (id : String) (excess : Nat)
    (victims : List Candidate) :
    Gives config store (dropExcess layer id excess victims d)
      (Graph.dropExcess layer id excess victims g) := by
  induction victims generalizing excess d g with
  | nil => cases excess <;> exact ⟨d, rfl, h⟩
  | cons victim rest ih =>
    cases excess with
    | zero => exact ⟨d, rfl, h⟩
    | succ excess =>
      rw [Draft.dropExcess, h.neighbors, Graph.dropExcess]
      show Gives config store (if _ then _ else _) _
      split
      · exact (h.unlink layer id victim.id).bind fun _ hd => ih hd excess
      · exact ih h (excess + 1)

theorem shrink (h : Shows config store d g) (hw : g.Wired) (capacity : Nat) {layer : Nat} {id : String}
    (hid : id ∈ g.ids) : Gives config store (d.shrink capacity layer id) (g.shrink capacity layer id) := by
  have hdistances := h.neighborDistances hid fun n (hn : n ∈ g.neighbors layer id) => (hw.on hn).1
  rw [Draft.shrink, h.neighbors, Graph.shrink]
  show Gives config store (if _ then _ else _) _
  dsimp only
  split
  · exact ⟨d, rfl, h⟩
  · rw [hdistances]
    exact h.dropExcess layer id _ _

theorem connect (h : Shows config store d g) (hw : g.Wired) (capacity : Nat) {layer : Nat}
    {id neighbor : String} (hne : id ≠ neighbor) (hid : g.On layer id) (hneighbor : g.On layer neighbor) :
    Gives config store (connect capacity layer id d neighbor)
      (Graph.connect capacity layer id g neighbor) :=
  (h.link layer id neighbor).bind fun _ hd => hd.shrink (hw.link hne hid hneighbor) capacity
    ((Graph.sameNodes_link g layer id neighbor).on_iff.mpr hneighbor).1

theorem linkLayer (h : Shows config store d g) (hw : g.Wired) {id : String} {query : Embedding}
    {layer : Nat} {cs : List Candidate} (hid : g.On layer id) (hs : g.Starts query layer cs)
    (hbreadth : 0 < config.buildBreadth) :
    ∃ d', linkLayer config id query layer d cs =
        .ok (d', (Graph.linkLayer config id query layer g cs).2) ∧
      Shows config store d' (Graph.linkLayer config id query layer g cs).1 := by
  have hfound := hw.searchLayer_starts hs hbreadth
  rw [Draft.linkLayer, h.searchLayer hw hs]
  have hstep : ∀ d h, Shows config store d h → (h.Wired ∧ Graph.SameNodes g h) →
      ∀ n ∈ selectNeighbors config id (g.searchLayer query cs config.buildBreadth layer),
        Gives config store (Draft.connect (config.capacity layer) layer id d n)
            (Graph.connect (config.capacity layer) layer id h n) ∧
          ((Graph.connect (config.capacity layer) layer id h n).Wired ∧
            Graph.SameNodes g (Graph.connect (config.capacity layer) layer id h n)) := by
    intro d k hd ⟨hwired, same⟩ n hn
    obtain ⟨hne, c, hc, rfl⟩ := Graph.mem_selectNeighbors hn
    have hid' := same.on_iff.mpr hid
    have hc' := same.on_iff.mpr (hfound.on c hc)
    have hr : Graph.Rewires (· = layer) k
        (Graph.connect (config.capacity layer) layer id k c.id) :=
      Graph.rewires_connect (Ne.symm hne) hid' hc'
    exact ⟨hd.connect hwired _ (Ne.symm hne) hid' hc', hr.wired hwired, same.trans hr.sameNodes⟩
  obtain ⟨d', hd', hshows⟩ := gives_foldlM hstep h ⟨hw, Graph.SameNodes.refl g⟩
  refine ⟨d', ?_, hshows⟩
  show (do
    let linked ← (selectNeighbors config id (g.searchLayer query cs config.buildBreadth layer)).foldlM
      (Draft.connect (config.capacity layer) layer id) d
    return (linked, g.searchLayer query cs config.buildBreadth layer)) = _
  rw [hd']
  rfl

theorem linkLayers (h : Shows config store d g) (hw : g.Wired) {id : String} {query : Embedding}
    {layers : Nat} {cs : List Candidate} (hid : g.On (layers - 1) id)
    (hs : g.Starts query (layers - 1) cs) (hbreadth : 0 < config.buildBreadth) :
    Gives config store (linkLayers config id query layers d cs)
      (Graph.linkLayers config id query layers g cs) := by
  induction layers generalizing d g cs with
  | zero => exact ⟨d, rfl, h⟩
  | succ layer ih =>
    rw [Nat.add_sub_cancel] at hid hs
    obtain ⟨d', hd', hshows⟩ := h.linkLayer hw hid hs hbreadth
    have hlinked := Graph.rewires_linkLayer hw config hid hs hbreadth
    have hfound := hw.searchLayer_starts hs hbreadth
    rw [Draft.linkLayers, hd']
    refine ih hshows (hlinked.wired hw) ?_ ?_
    · exact hlinked.sameNodes.on_iff.mpr ⟨hid.1, by have := hid.2; omega⟩
    · exact (hfound.congr hlinked.sameNodes).mono (Nat.sub_le _ _)

theorem linkNode (h : Shows config store d g) (hs : g.Sound config) {id : String} (hid : id ∉ g.ids)
    (hbreadth : 0 < config.buildBreadth) {v : Embedding} {level : Nat}
    (hlevel : level ≤ VectorIndex.maxLevel) (hv : VectorIndex.checkVector config v = .ok ()) :
    Gives config store (d.linkNode config id v level) (Graph.linkNode config g id v level) := by
  obtain ⟨put, hput, hshows⟩ := h.putNode id hlevel hv
  have hnew : ∀ {e : EntryPoint}, some ⟨id, level⟩ = some e → e.level ≤ VectorIndex.maxLevel := by
    intro e he
    rw [← Option.some_inj.mp he]
    exact hlevel
  have hwired : (g.putNode id v level).Wired := hs.wired.putNode hid
  rw [Draft.linkNode, h.entryPoint, Graph.linkNode]
  show Gives config store (d.putNode id v level >>= _) _
  rw [hput]
  cases hentry : g.entry with
  | none => exact ⟨_, rfl, hshows.setEntryPoint hnew⟩
  | some entry =>
    obtain ⟨hmem, heq⟩ := hs.rooted.present hentry
    have hon : (g.putNode id v level).On entry.level entry.id :=
      Graph.on_putNode hid ⟨hmem, Nat.le_of_eq heq.symm⟩
    have hnode := Graph.on_putNode_self g id v level
    have hstart : (g.putNode id v level).Starts v entry.level
        [⟨(g.putNode id v level).distance v entry.id, entry.id⟩] := .singleton hon
    have hnearest : (g.putNode id v level).Starts v (min level entry.level + 1 - 1)
        ((g.putNode id v level).descend v level entry.level
          [⟨(g.putNode id v level).distance v entry.id, entry.id⟩]) :=
      hwired.descend_starts level hstart
    have hlowest : (g.putNode id v level).On (min level entry.level + 1 - 1) id :=
      ⟨hnode.1, Nat.le_trans (Nat.min_le_left _ _) hnode.2⟩
    obtain ⟨linked, hlinked, hshown⟩ := hshows.linkLayers hwired hlowest hnearest hbreadth
    show Gives config store (put.distance v entry.id >>= _) _
    rw [hshows.distance v hon.1]
    show Gives config store (put.descend v level entry.level _ >>= _) _
    rw [hshows.descend hwired level hstart]
    show Gives config store (Draft.linkLayers config id v _ put _ >>= _) _
    rw [hlinked]
    dsimp only
    split
    · exact ⟨_, rfl, hshown.setEntryPoint hnew⟩
    · exact ⟨_, rfl, hshown⟩

theorem nearestPeer (h : Shows config store d g) (capacity layer : Nat) {id : String}
    (hid : id ∈ g.ids) (current : List String) {peers : List String} (hpeers : ∀ n ∈ peers, n ∈ g.ids)
    (best : Option Candidate) :
    d.nearestPeer capacity layer id current peers best =
      .ok (g.nearestPeer capacity layer id current peers best) := by
  induction peers generalizing best with
  | nil => rfl
  | cons peer rest ih =>
    have hrest : ∀ n ∈ rest, n ∈ g.ids := fun n hn => hpeers n (List.mem_cons_of_mem _ hn)
    rw [Draft.nearestPeer, Graph.nearestPeer]
    split
    · exact ih hrest best
    · rw [h.neighbors, h.distanceBetween hid (hpeers peer List.mem_cons_self)]
      show (if _ then _ else _) = _
      split
      · exact ih hrest best
      · exact ih hrest _

theorem reconnect (h : Shows config store d g) (capacity layer : Nat) {former : List String}
    (hformer : ∀ n ∈ former, n ∈ g.ids) {id : String} (hid : id ∈ former) :
    Gives config store (reconnect capacity layer former d id)
      (Graph.reconnect capacity layer former g id) := by
  rw [Draft.reconnect, h.neighbors, Graph.reconnect]
  show Gives config store (if _ then _ else _) _
  split
  · exact ⟨d, rfl, h⟩
  · rw [h.nearestPeer capacity layer (hformer id hid) _ hformer]
    cases g.nearestPeer capacity layer id (g.neighbors layer id) former none with
    | none => exact ⟨d, rfl, h⟩
    | some peer => exact h.link layer id peer.id

theorem unlinkLayer (h : Shows config store d g) (hw : g.Wired) (id : String) (layer : Nat) :
    Gives config store (unlinkLayer config id d layer) (Graph.unlinkLayer config id g layer) := by
  have hunlink : ∀ (d : Draft) (k : Graph), Shows config store d k → True →
      ∀ n ∈ g.neighbors layer id, Gives config store (d.unlink layer id n) (k.unlink layer id n) ∧
        True :=
    fun d k hd _ n _ => ⟨hd.unlink layer id n, trivial⟩
  have hr := Graph.rewires_unlinkAll g layer id (g.neighbors layer id)
  have hformer : ∀ n ∈ g.neighbors layer id, g.On layer n := fun n hn => hw.on hn
  rw [Draft.unlinkLayer, h.neighbors, Graph.unlinkLayer]
  refine (gives_foldlM (motive := fun _ => True) hunlink h trivial).bind fun d hd => ?_
  have hrepair : ∀ (d : Draft) (k : Graph), Shows config store d k → Graph.SameNodes g k →
      ∀ n ∈ g.neighbors layer id,
        Gives config store (Draft.reconnect (config.capacity layer) layer (g.neighbors layer id) d n)
            (Graph.reconnect (config.capacity layer) layer (g.neighbors layer id) k n) ∧
          Graph.SameNodes g
            (Graph.reconnect (config.capacity layer) layer (g.neighbors layer id) k n) := by
    intro d k hd same n hn
    have hon : ∀ m ∈ g.neighbors layer id, k.On layer m := fun m hm => same.on_iff.mpr (hformer m hm)
    exact ⟨hd.reconnect _ layer (fun m hm => (hon m hm).1) hn,
      same.trans (Graph.rewires_reconnect hon hn).sameNodes⟩
  exact gives_foldlM hrepair hd hr.sameNodes

theorem unlinkLayers (h : Shows config store d g) (hw : g.Wired) (id : String) (layers : Nat) :
    Gives config store ((List.range layers).foldlM (Draft.unlinkLayer config id) d)
      (Graph.unlinkLayers config g id layers) := by
  have hstep : ∀ (d : Draft) (k : Graph), Shows config store d k → k.Wired →
      ∀ layer ∈ List.range layers,
        Gives config store (Draft.unlinkLayer config id d layer) (Graph.unlinkLayer config id k layer) ∧
          (Graph.unlinkLayer config id k layer).Wired :=
    fun d k hd hk layer _ => ⟨hd.unlinkLayer hk id layer,
      (Graph.rewires_unlinkLayer hk config id layer).wired hk⟩
  exact gives_foldlM hstep h hw

theorem unlinkNode (h : Shows config store d g) (hs : g.Sound config) (id : String) :
    ∃ d', d.unlinkNode config id = .ok (d', (Graph.unlinkNode config g id).2) ∧
      Shows config store d' (Graph.unlinkNode config g id).1 := by
  rw [Draft.unlinkNode, h.level, Graph.unlinkNode]
  by_cases hid : id ∈ g.ids
  · obtain ⟨unlinked, hunlinked, hshown⟩ := h.unlinkLayers hs.wired id (g.level id + 1)
    obtain ⟨removed, hremoved, hshows⟩ := hshown.removeNode id
    have hhighest : ∀ {e}, (Graph.removeWired config g id).highestNode = some e →
        e.level ≤ VectorIndex.maxLevel := by
      intro e he
      rcases Graph.highestNode_cases (Graph.removeWired config g id) with
        ⟨-, hnone⟩ | ⟨e', he', hmem, hlevel, -⟩
      · rw [hnone] at he
        cases he
      · obtain rfl := Option.some_inj.mp (he'.symm.trans he)
        exact hlevel ▸ hshows.fits.levels _ hmem
    rw [if_pos hid, if_pos hid]
    show ∃ d', ((List.range (g.level id + 1)).foldlM (Draft.unlinkLayer config id) d >>= _) = _ ∧ _
    rw [hunlinked]
    show ∃ d', (unlinked.removeNode id >>= _) = _ ∧ _
    rw [hremoved]
    show ∃ d', (removed.entryPoint >>= _) = _ ∧ _
    have hentry : removed.entryPoint = .ok (Graph.removeWired config g id).entry := hshows.entryPoint
    rw [hentry]
    dsimp only
    cases (Graph.removeWired config g id).entry with
    | none => exact ⟨removed, rfl, hshows⟩
    | some entry =>
      show ∃ d', (if entry.id = id then _ else _ : Except VectorError (Draft × Bool)) = _ ∧ _
      dsimp only
      by_cases hself : entry.id = id
      · rw [if_pos hself, if_pos hself]
        show ∃ d', (removed.highestNode >>= _) = _ ∧ _
        rw [hshows.highestNode]
        exact ⟨_, rfl, hshows.setEntryPoint hhighest⟩
      · rw [if_neg hself, if_neg hself]
        exact ⟨removed, rfl, hshows⟩
  · rw [if_neg hid, if_neg hid]
    exact ⟨d, rfl, h⟩

end Shows

end HybridSearch.Draft

import HybridSearch.Proofs.VectorIndex.Complete
import HybridSearch.Proofs.VectorIndex.Degree
import HybridSearch.Proofs.VectorIndex.Removal

/-!
# Nodes that an insert links

A new node is linked to some of the nodes that are found on each layer that it shares with the entry point. A
node whose list has become too long for it drops some of its neighbours, maybe the new one, but none that has no
other. So the new node has neighbours on all of these layers, and no node that had neighbours on a layer is left
without.
-/
namespace HybridSearch

namespace Graph

variable {config : VectorConfig} {f g h : Graph} {capacity layer l : Nat} {id n i : String}

/-- No list has become empty, and other nodes have no new neighbour but the node that is linked. -/
structure Spares (id : String) (g h : Graph) : Prop where
  ne_nil : ∀ l i, g.neighbors l i ≠ [] → h.neighbors l i ≠ []
  gained : ∀ l i, i ≠ id → ∀ n ∈ h.neighbors l i, n ∈ g.neighbors l i ∨ n = id

theorem Spares.refl (id : String) (g : Graph) : Spares id g g :=
  ⟨fun _ _ hne => hne, fun _ _ _ _ hn => .inl hn⟩

theorem Spares.trans (hfg : Spares id f g) (hgh : Spares id g h) : Spares id f h where
  ne_nil l i hne := hgh.ne_nil l i (hfg.ne_nil l i hne)
  gained l i hi n hn := by
    rcases hgh.gained l i hi n hn with hn | hn
    · exact hfg.gained l i hi n hn
    · exact .inr hn

theorem spares_link (g : Graph) (layer : Nat) (id n : String) : Spares id g (g.link layer id n) where
  ne_nil l i hne hnil := hne (List.prefix_nil.mp (hnil ▸ prefix_link g layer id n l i))
  gained l i hi m hm := by
    rcases mem_link.mp hm with hm | ⟨-, ⟨hself, -⟩ | ⟨-, hnew⟩⟩
    · exact .inl hm
    · exact absurd hself hi
    · exact .inr hnew

theorem spares_unlink (hw : g.Wired) (id : String) {a b : String} (ha : 1 < (g.neighbors layer a).length)
    (hb : 1 < (g.neighbors layer b).length) : Spares id g (g.unlink layer a b) where
  ne_nil l i hne := by
    by_cases htouched : l = layer ∧ (i = a ∨ i = b)
    · have hmany : 1 < (g.neighbors l i).length := by
        obtain ⟨rfl, rfl | rfl⟩ := htouched
        · exact ha
        · exact hb
      have hlength := length_le_unlink (hw.nodup l i) layer a b
      exact List.ne_nil_of_length_pos (by omega)
    · rw [neighbors_unlink_of_not htouched]
      exact hne
  gained l i _ m hm := .inl (mem_unlink.mp hm).1

theorem spares_dropExcess (hw : g.Wired) (id : String) {owner : String} {excess : Nat}
    {victims : List Candidate} (hexcess : excess < (g.neighbors layer owner).length) :
    Spares id g (dropExcess layer owner excess victims g) := by
  induction victims generalizing excess g with
  | nil => cases excess <;> exact .refl id g
  | cons victim rest ih =>
    cases excess with
    | zero => exact .refl id g
    | succ excess =>
      rw [dropExcess]
      split
      · next hvictim =>
        -- the owner has lost one entry, and one less is left to be dropped
        have hlength := length_le_unlink (hw.nodup layer owner) layer owner victim.id
        exact (spares_unlink hw id (by omega) hvictim).trans (ih (hw.unlink layer owner victim.id) (by omega))
      · exact ih hw hexcess

theorem length_dropExcess_le (layer : Nat) (owner : String) (excess : Nat) (victims : List Candidate)
    (g : Graph) (l : Nat) (i : String) :
    ((dropExcess layer owner excess victims g).neighbors l i).length ≤ (g.neighbors l i).length := by
  induction victims generalizing excess g with
  | nil => cases excess <;> exact Nat.le_refl _
  | cons victim rest ih =>
    cases excess with
    | zero => exact Nat.le_refl _
    | succ excess =>
      rw [dropExcess]
      split
      · refine Nat.le_trans (ih excess (g.unlink layer owner victim.id)) ?_
        rw [neighbors_unlink]
        exact List.length_filter_le _ _
      · exact ih (excess + 1) g

theorem spares_shrink (hw : g.Wired) (hcapacity : 0 < capacity) (layer : Nat) (id owner : String) :
    Spares id g (g.shrink capacity layer owner) := by
  rw [shrink]
  split
  · exact .refl id g
  · exact spares_dropExcess hw id (by omega)

theorem length_shrink_le (g : Graph) (capacity layer : Nat) (owner : String) (l : Nat) (i : String) :
    ((g.shrink capacity layer owner).neighbors l i).length ≤ (g.neighbors l i).length := by
  rw [shrink]
  split
  · exact Nat.le_refl _
  · exact length_dropExcess_le _ _ _ _ _ _ _

theorem spares_connect (hw : g.Wired) (hcapacity : 0 < capacity) (hne : id ≠ n) (hid : g.On layer id)
    (hn : g.On layer n) : Spares id g (connect capacity layer id g n) :=
  (spares_link g layer id n).trans (spares_shrink (hw.link hne hid hn) hcapacity layer id n)

/-- The new node keeps a link, even if the neighbour drops the one to it. -/
theorem neighbors_connect_ne_nil (hw : g.Wired) (hcapacity : 0 < capacity) (hne : id ≠ n)
    (hid : g.On layer id) (hn : g.On layer n) : (connect capacity layer id g n).neighbors layer id ≠ [] := by
  have hlinked : n ∈ (g.link layer id n).neighbors layer id := mem_link.mpr (.inr ⟨rfl, .inl ⟨rfl, rfl⟩⟩)
  exact (spares_shrink (hw.link hne hid hn) hcapacity layer id n).ne_nil layer id (List.ne_nil_of_mem hlinked)

theorem length_connect_le (g : Graph) (capacity layer : Nat) (hne : id ≠ n) :
    ((connect capacity layer id g n).neighbors layer id).length ≤ (g.neighbors layer id).length + 1 :=
  Nat.le_trans (length_shrink_le _ _ _ _ _ _) (length_link_le g layer hne layer id)

theorem spares_foldl_connect {ns : List String} (hw : g.Wired) (hcapacity : 0 < capacity)
    (hid : g.On layer id) (hns : ∀ n ∈ ns, n ≠ id ∧ g.On layer n) :
    Spares id g (ns.foldl (connect capacity layer id) g) ∧
      (ns ≠ [] → (ns.foldl (connect capacity layer id) g).neighbors layer id ≠ []) ∧
      ((ns.foldl (connect capacity layer id) g).neighbors layer id).length ≤
        (g.neighbors layer id).length + ns.length := by
  induction ns generalizing g with
  | nil => exact ⟨.refl id g, fun hne => absurd rfl hne, Nat.le_refl _⟩
  | cons m ns ih =>
    obtain ⟨hne, hm⟩ := hns m List.mem_cons_self
    have hconnect : Rewires (· = layer) g (connect capacity layer id g m) := rewires_connect hne.symm hid hm
    have hrest : ∀ n ∈ ns, n ≠ id ∧ (connect capacity layer id g m).On layer n := by
      intro n hn
      obtain ⟨hne, hon⟩ := hns n (List.mem_cons_of_mem _ hn)
      exact ⟨hne, hconnect.sameNodes.on_iff.mpr hon⟩
    obtain ⟨hspares, -, hlength⟩ := ih (hconnect.wired hw) (hconnect.sameNodes.on_iff.mpr hid) hrest
    have hfirst := length_connect_le g capacity layer hne.symm
    rw [List.foldl_cons, List.length_cons]
    refine ⟨(spares_connect hw hcapacity hne.symm hid hm).trans hspares, fun _ => ?_, by omega⟩
    exact hspares.ne_nil layer id (neighbors_connect_ne_nil hw hcapacity hne.symm hid hm)

variable {query : Embedding} {cs : List Candidate}

theorem selectNeighbors_ne_nil (hwidth : 0 < config.width) (hne : cs ≠ []) (hcs : ∀ c ∈ cs, c.id ≠ id) :
    Draft.selectNeighbors config id cs ≠ [] := by
  rw [selectNeighbors_eq config hcs]
  simp [hne, Nat.ne_of_gt hwidth]

theorem length_selectNeighbors_le (config : VectorConfig) (id : String) (cs : List Candidate) :
    (Draft.selectNeighbors config id cs).length ≤ config.width := by
  rw [Draft.selectNeighbors, List.length_map]
  exact List.length_take_le _ _

/-- On one layer the new node gets between one and as many neighbours as the width says. -/
theorem Descends.linkLayer (hd : g.Descends id query layer cs) (hw : g.Wired) (haccepted : config.Accepted) :
    Spares id g (linkLayer config id query layer g cs).1 ∧
      1 ≤ ((linkLayer config id query layer g cs).1.neighbors layer id).length ∧
      ((linkLayer config id query layer g cs).1.neighbors layer id).length ≤ config.width := by
  have hfound := hw.searchLayer_starts hd.starts haccepted.buildBreadth.1
  have hothers : ∀ c ∈ g.searchLayer query cs config.buildBreadth layer, c.id ≠ id :=
    ne_of_mem_searchLayer hw hd.starts (hd.unlisted layer (Nat.le_refl _)) hd.others
  have hselected : ∀ n ∈ Draft.selectNeighbors config id (g.searchLayer query cs config.buildBreadth layer),
      n ≠ id ∧ g.On layer n := by
    intro n hn
    obtain ⟨hne, c, hc, rfl⟩ := mem_selectNeighbors hn
    exact ⟨hne, hfound.on c hc⟩
  have hnone : g.neighbors layer id = [] := hw.eq_nil_of_unlisted (hd.unlisted layer (Nat.le_refl _))
  have hwidth := length_selectNeighbors_le config id (g.searchLayer query cs config.buildBreadth layer)
  obtain ⟨hspares, hne, hlength⟩ :=
    spares_foldl_connect hw (VectorIndex.capacity_pos haccepted layer) hd.on hselected
  rw [hnone, List.length_nil, Nat.zero_add] at hlength
  refine ⟨hspares, List.length_pos_of_ne_nil (hne ?_), Nat.le_trans hlength hwidth⟩
  exact selectNeighbors_ne_nil haccepted.width.1 hfound.ne_nil hothers

/-- From the top down, every layer gives the new node its neighbours and leaves those of the layers above. -/
theorem Descends.linkLayers (hd : g.Descends id query layer cs) (hw : g.Wired) (haccepted : config.Accepted) :
    Spares id g (linkLayers config id query (layer + 1) g cs) ∧
      ∀ l ≤ layer, 1 ≤ ((linkLayers config id query (layer + 1) g cs).neighbors l id).length ∧
        ((linkLayers config id query (layer + 1) g cs).neighbors l id).length ≤ config.width := by
  induction layer generalizing g cs with
  | zero =>
    obtain ⟨hspares, hlength⟩ := hd.linkLayer hw haccepted
    refine ⟨hspares, fun l hl => ?_⟩
    obtain rfl := Nat.le_zero.mp hl
    exact hlength
  | succ layer ih =>
    have hbreadth := haccepted.buildBreadth.1
    have hlinked := rewires_linkLayer hw config hd.on hd.starts hbreadth
    have hwired := hlinked.wired hw
    have hnext := hd.next hw hbreadth
    obtain ⟨hspares, hlength⟩ := hd.linkLayer hw haccepted
    obtain ⟨hbelow, hlengthBelow⟩ := ih hnext hwired
    refine ⟨hspares.trans hbelow, fun l hl => ?_⟩
    rcases Nat.lt_succ_iff_lt_or_eq.mp (Nat.lt_succ_of_le hl) with hlower | rfl
    · exact hlengthBelow l (Nat.le_of_lt_succ hlower)
    · have hrest : Rewires (· < layer + 1) _ (Graph.linkLayers config id query (layer + 1) _ _) :=
        rewires_linkLayers hwired config hnext.on hnext.starts hbreadth
      rw [Graph.linkLayers, hrest.neighbors_of_not (by omega)]
      exact hlength

/-- How a new node is linked to a graph, on the layers up to a top one. -/
structure Links (width : Nat) (id : String) (top : Nat) (g h : Graph) : Prop where
  spares : Spares id g h
  linked : ∀ l ≤ top, 1 ≤ (h.neighbors l id).length ∧ (h.neighbors l id).length ≤ width
  above : ∀ l, top < l → h.neighbors l id = []

variable {entry : EntryPoint}

theorem Sound.links_linkBelow (hs : g.Sound config) (haccepted : config.Accepted) (hid : id ∉ g.ids)
    (v : Embedding) (level : Nat) (hentry : g.entry = some entry) : Links config.width id (min level entry.level) g
      (linkBelow config (g.putNode id v level) id v level entry) := by
  have hw : (g.putNode id v level).Wired := hs.wired.putNode hid
  have hrewires := hs.rewires_linkBelow v level hid haccepted.buildBreadth.1 hentry
  obtain ⟨hspares, hlinked⟩ := (hs.descends_putNode v level hid hentry).linkLayers hw haccepted
  refine ⟨⟨hspares.ne_nil, hspares.gained⟩, hlinked, fun l hl => ?_⟩
  rw [hrewires.neighbors_of_not (Nat.not_le_of_lt hl)]
  exact hw.eq_nil_of_unlisted fun i hlisted => hid (hs.wired.on hlisted).1

theorem Sound.links_linkNode (hs : g.Sound config) (haccepted : config.Accepted) (hid : id ∉ g.ids)
    (v : Embedding) (level : Nat) (hentry : g.entry = some entry) :
    Links config.width id (min level entry.level) g (Graph.linkNode config g id v level) := by
  have hbelow := hs.links_linkBelow haccepted hid v level hentry
  rw [Graph.linkNode, hentry]
  dsimp only
  split
  · exact ⟨⟨hbelow.spares.ne_nil, hbelow.spares.gained⟩, hbelow.linked, hbelow.above⟩
  · exact hbelow

theorem Sound.level_linkNode_self (hs : g.Sound config) (v : Embedding) (level : Nat)
    (hbreadth : 0 < config.buildBreadth) (hid : id ∉ g.ids) :
    (Graph.linkNode config g id v level).level id = level := by
  have hput : (g.putNode id v level).level id = level := if_pos rfl
  rw [Graph.linkNode]
  split
  · exact hput
  · next entry hentry =>
    have same := (hs.rewires_linkBelow v level hid hbreadth hentry).sameNodes
    have hlevel := (congrFun same.level id).trans hput
    dsimp only
    split <;> exact hlevel

theorem insert_of_notMem (hid : id ∉ g.ids) (v : Embedding) (level : Nat) :
    g.insert config id v level = linkNode config g.settled id v level := by
  have hkept : (unlinkNode config g.settled id).1 = g.settled := by
    rw [unlinkNode, if_neg (show id ∉ g.settled.ids from hid)]
  rw [insert, hkept]

end Graph

namespace VectorIndex

variable {ix : VectorIndex} {store store' : StoreHandle} {config : VectorConfig} {g : Graph} {id : String}

/-- What two drafts show of the lists before and after a new id was put in, which shares the layers up to a top
one with others. -/
structure Joins (config : VectorConfig) (before after : Draft) (id : String) (top : Nat) : Prop where
  linked : ∀ layer ≤ top, ∃ ids, after.neighbors layer id = .ok ids ∧ 1 ≤ ids.length ∧
    ids.length ≤ config.width
  above : ∀ layer, top < layer → after.neighbors layer id = .ok []
  others : ∀ layer i, ∃ old new, before.neighbors layer i = .ok old ∧ after.neighbors layer i = .ok new ∧
    (old ≠ [] → new ≠ []) ∧ (i ≠ id → ∀ n ∈ new, n ∈ old ∨ n = id)

theorem Ready.joins (h : Ready ix store g) (hid : id ∉ g.ids) {entry : EntryPoint} (hentry : g.entry = some entry)
    {v : Embedding} {level : Nat} (hnext : Ready ix store' (g.insert ix.config id v level)) :
    (Draft.start ix.config store').level id = .ok (some level) ∧
      Joins ix.config (Draft.start ix.config store) (Draft.start ix.config store') id
        (min level entry.level) := by
  have hbefore := (h.holds.shows_start h.gettable h.scannable).neighbors
  have hshows := hnext.holds.shows_start hnext.gettable hnext.scannable
  have hbreadth := h.accepted.buildBreadth.1
  have hsettled := h.holds.sound.settled
  have hlinks : Graph.Links ix.config.width id (min level entry.level) g.settled
      (g.insert ix.config id v level) := by
    rw [Graph.insert_of_notMem hid]
    exact hsettled.links_linkNode h.accepted hid v level hentry
  have hmem : id ∈ (g.insert ix.config id v level).settled.ids :=
    (Graph.mem_ids_insert h.holds.sound hbreadth).mpr (.inl rfl)
  have hlevel : (g.insert ix.config id v level).settled.level id = level := by
    rw [Graph.insert_of_notMem hid]
    exact hsettled.level_linkNode_self v level hbreadth hid
  refine ⟨by rw [hshows.level, if_pos hmem, hlevel], fun layer hlayer => ?_, fun layer hlayer => ?_,
    fun layer i => ?_⟩
  · exact ⟨_, hshows.neighbors layer id, hlinks.linked layer hlayer⟩
  · exact (hshows.neighbors layer id).trans (congrArg Except.ok (hlinks.above layer hlayer))
  · exact ⟨_, _, hbefore layer i, hshows.neighbors layer i, hlinks.spares.ne_nil layer i,
      hlinks.spares.gained layer i⟩

/-- In every reachable state with an embedding in it, an insert of a new id isolates no node, whatever sample its
level is drawn from. It succeeds unless it is refused, cancelled or cannot be written. -/
theorem joins_of_insert (h : Reached config ix store) {other : String}
    (hother : ix.contains store other = .ok true) (hid : ix.contains store id = .ok false)
    (samples : List Binary64) (fault : Option StoreFault) (cancel : Cancellation) (v : Embedding)
    {outcome : Outcome Unit}
    (hcall : { ix with samples }.insert { store with faults := { write := fault } } cancel id v = outcome) :
    ∃ entry, (Draft.start config store).entryPoint = .ok (some entry) ∧
      (ix.validate id v = .ok () → cancel ≠ .before → cancel ≠ .duringInsert → fault = none →
        outcome.result = .ok ()) ∧
      (outcome.result = .ok () →
        (Draft.start config outcome.store).level id = .ok (some { ix with samples }.nextLevel) ∧
        Joins config (Draft.start config store) (Draft.start config outcome.store) id
          (min { ix with samples }.nextLevel entry.level)) := by
  obtain ⟨rfl, g, hready⟩ := h.ready
  have hmissing : id ∉ g.ids := by
    rw [hready.contains_eq] at hid
    exact of_decide_eq_false (Except.ok.inj hid)
  have hstored := hready.contains_iff.mp hother
  cases hentry : g.entry with
  | none =>
    rw [hready.holds.sound.rooted.empty hentry] at hstored
    cases hstored
  | some entry =>
    have hunder : Ready { ix with samples } { store with faults := { write := fault } } g :=
      (hready.withWriteFault fault).of_config rfl
    subst hcall
    refine ⟨entry, hentry ▸ hready.entryPoint_start, fun hvalid hcancel hwaiting hfault => ?_, fun hok => ?_⟩
    · rcases hunder.insert_cases cancel id v with
        ⟨e, hrefused, -⟩ | ⟨-, hcancelled, -⟩ | ⟨e, -, ⟨hcancelled, -⟩ | ⟨cause, hfails, -⟩, -⟩ |
          ⟨after, -, -, -, hcase, -⟩
      · exact nomatch hvalid.symm.trans hrefused
      · exact absurd hcancelled hcancel
      · exact absurd hcancelled hwaiting
      · exact nomatch hfault.symm.trans hfails
      · rw [hcase]
    · exact hready.joins hmissing hentry ((hunder.insert_of_ok hok).of_config rfl)

/-- The fifth of five embeddings on a line: to keep within its two neighbours the nearest of the others drops one
that has another. -/
theorem joins_narrowFive : narrowFour.1.contains narrowFour.2 "c" = .ok true ∧
    narrowFour.1.contains narrowFour.2 "n" = .ok false ∧ narrowFive.result = .ok () ∧
    Joins narrowConfig (Draft.start narrowConfig narrowFour.2) (Draft.start narrowConfig narrowFive.store) "n" 0 ∧
    (Draft.start narrowConfig narrowFour.2).neighbors 0 "c" = .ok ["p", "a"] ∧
    (Draft.start narrowConfig narrowFive.store).neighbors 0 "c" = .ok ["a", "n"] := by
  have hother : narrowFour.1.contains narrowFour.2 "c" = .ok true := ok_of_toOption (by decide +kernel)
  have hid : narrowFour.1.contains narrowFour.2 "n" = .ok false := ok_of_toOption (by decide +kernel)
  have hvalid : narrowFour.1.validate "n" [⟨0x4001000000000000⟩] = .ok () := ok_of_toOption (by decide +kernel)
  have hlevel : narrowFour.1.nextLevel = 0 := by decide +kernel
  have hcall : narrowFour.1.insert { narrowFour.2 with faults := { write := none } } .never "n"
      [⟨0x4001000000000000⟩] = narrowFive := by rw [narrowFive]
  obtain ⟨entry, -, hsucceeds, hjoins⟩ := joins_of_insert reached_narrowFour hother hid
    narrowFour.1.samples none .never _ hcall
  have hok := hsucceeds hvalid (by decide) (by decide) rfl
  have hnew := (hjoins hok).2
  have htop : min narrowFour.1.nextLevel entry.level = 0 := by rw [hlevel, Nat.zero_min]
  exact ⟨hother, hid, hok, htop ▸ hnew, ok_of_toOption (by decide +kernel), ok_of_toOption (by decide +kernel)⟩

end VectorIndex

end HybridSearch

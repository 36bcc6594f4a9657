import HybridSearch.Proofs.VectorIndex.Recount

/-!
# The gauges of an index

An index keeps its figures in memory and moves them with every change that is written. As long as no other
index writes under its prefix, the figures are those that anyone would count who reads the store: a call
that fails moves none of them, and an index that is opened anew starts from the same ones.
-/
namespace HybridSearch

namespace VectorIndex

variable {config : VectorConfig} {ix ix' : VectorIndex} {store store' : StoreHandle} {g g' : Graph}

/-- An index that has followed its graph. -/
structure Gauged (ix : VectorIndex) (g : Graph) : Prop where
  vectorCount : ix.vectorCount = g.ids.length
  adjacencyEntries : ix.adjacencyEntries = g.entries
  entryLevel : ix.entryLevel = g.entry.map (·.level)

theorem moveGauge_eq_min {before after : ℕ} {change : ℤ} (hbefore : (after : ℤ) - change = before) :
    moveGauge before change = min after 0xffffffffffffffff := by
  have hafter : (before : ℤ) + change = after := by omega
  rw [moveGauge, hafter, Int.toNat_natCast]

theorem moveGauge_eq {before after : ℕ} {change : ℤ} (hbefore : (after : ℤ) - change = before)
    (hlt : after < 0x10000000000000000) : moveGauge before change = after := by
  rw [moveGauge_eq_min hbefore]
  omega

theorem Gauged.moveGauges (h : Gauged ix g) (htallies : Graph.Tallies g.settled g')
    (hids : g'.ids.length < 0x10000000000000000) (hentries : g'.entries < 0x10000000000000000)
    (batch : List Change) : Gauged (ix.moveGauges (commitTo g' batch)) g' := by
  obtain ⟨hentriesBefore, hidsBefore⟩ := Graph.tallies_settled g
  refine ⟨moveGauge_eq ?_ hids, moveGauge_eq ?_ hentries, rfl⟩
  · rw [h.vectorCount]
    exact htallies.ids.trans hidsBefore
  · rw [h.adjacencyEntries]
    exact htallies.entries.trans hentriesBefore

/-- An index over a store of a size that a machine can address, both of which keep count of the graph. -/
structure Tracks (ix : VectorIndex) (store : StoreHandle) (g : Graph) : Prop where
  valid : ix.config.validate = .ok ()
  ready : Ready ix store g
  counted : g.Counted
  gauged : Gauged ix g
  addressable : store.content.Addressable

namespace Tracks

theorem withWriteFault (h : Tracks ix store g) (fault : Option StoreFault) :
    Tracks ix { store with faults := { write := fault } } g :=
  ⟨h.valid, h.ready.withWriteFault fault, h.counted, h.gauged, h.addressable⟩

theorem congr (h : Tracks ix store g) (hconfig : ix'.config = ix.config) (hgauged : Gauged ix' g) :
    Tracks ix' store g :=
  ⟨hconfig ▸ h.valid, h.ready.of_config hconfig, h.counted, hgauged, h.addressable⟩

theorem dropSample (h : Tracks ix store g) : Tracks ix.dropSample store g :=
  h.congr rfl ⟨h.gauged.vectorCount, h.gauged.adjacencyEntries, h.gauged.entryLevel⟩

theorem length_ids_lt (h : Tracks ix store g) : g.ids.length < 0x8000000000000000 :=
  h.ready.holds.length_ids_lt h.addressable

theorem afterInsert (h : Tracks ix store g) {id : String} {v : Embedding}
    (hvalid : ix.validate id v = .ok ())
    (hnext : Ready ix store' (g.insert ix.config id v ix.nextLevel))
    (hsize : store'.content.Addressable) :
    Tracks (ix.afterInsert (g.insert ix.config id v ix.nextLevel)) store'
      (g.insert ix.config id v ix.nextLevel) := by
  have hsound := h.ready.holds.sound
  have hbreadth := h.ready.accepted.buildBreadth.1
  have hfew := hnext.holds.length_ids_lt hsize
  have htallies := hsound.tallies_insert id hbreadth ix.nextLevel_le (checkVector_of_validate hvalid)
  have hgauged := h.dropSample.gauged.moveGauges htallies (by omega) (hnext.holds.entries_lt hsize) []
  exact ⟨h.valid, hnext.of_config rfl, hsound.counted_insert h.counted id hbreadth h.length_ids_lt hfew,
    ⟨hgauged.vectorCount, hgauged.adjacencyEntries, hgauged.entryLevel⟩, hsize⟩

theorem afterDelete (h : Tracks ix store g) {id : String}
    (hnext : Ready ix store' (g.delete ix.config id)) (hsize : store'.content.Addressable) :
    Tracks (ix.afterDelete (g.delete ix.config id)) store' (g.delete ix.config id) := by
  have hsound := h.ready.holds.sound
  have hfew := hnext.holds.length_ids_lt hsize
  have hgauged := h.gauged.moveGauges (hsound.tallies_delete id) (by omega)
    (hnext.holds.entries_lt hsize) []
  exact ⟨h.valid, hnext.of_config rfl, hsound.counted_delete h.counted id h.length_ids_lt,
    ⟨hgauged.vectorCount, hgauged.adjacencyEntries, hgauged.entryLevel⟩, hsize⟩

theorem search (h : Tracks ix store g) (cancel : Cancellation) (query : Embedding) (k : ℕ) :
    Tracks (ix.search store cancel query k).2 store g := by
  rw [VectorIndex.search]
  split
  · exact h
  · exact h.congr rfl ⟨h.gauged.vectorCount, h.gauged.adjacencyEntries, h.gauged.entryLevel⟩

theorem step (h : Tracks ix store g) (hstep : Step ix.config ix store ix' store')
    (hsize : store'.content.Addressable) :
    ix'.config = ix.config ∧ ∃ g', Tracks ix' store' g' := by
  cases hstep with
  | insert fault cancel id v hcall =>
    subst hcall
    have hfaulty := h.withWriteFault fault
    rcases hfaulty.ready.insert_cases cancel id v with
      ⟨e, -, hcase⟩ | ⟨-, -, hcase⟩ | ⟨e, -, -, hcase⟩ |
        ⟨store', hvalid, -, -, hcase, -, hnext⟩
    · rw [hcase]
      exact ⟨rfl, g, hfaulty⟩
    · rw [hcase]
      exact ⟨rfl, g, hfaulty⟩
    · rw [hcase]
      exact ⟨rfl, g, hfaulty.dropSample⟩
    · rw [hcase] at hsize ⊢
      exact ⟨rfl, _, h.afterInsert hvalid hnext hsize⟩
  | delete fault id hcall =>
    subst hcall
    have hfaulty := h.withWriteFault fault
    rcases hfaulty.ready.delete_cases id with
      ⟨fault', -, hcase⟩ | ⟨-, -, hcase⟩ | ⟨fault', -, -, -, hcase⟩ |
        ⟨store', -, -, -, hcase, -, hnext⟩
    · rw [hcase]
      exact ⟨rfl, g, hfaulty⟩
    · rw [hcase]
      exact ⟨rfl, g, hfaulty⟩
    · rw [hcase]
      exact ⟨rfl, g, hfaulty⟩
    · rw [hcase] at hsize ⊢
      exact ⟨rfl, _, h.afterDelete hnext hsize⟩
  | search cancel query k hcall =>
    subst hcall
    exact ⟨Ready.search_config ix store cancel query k, g, h.search cancel query k⟩
  | elsewhere hsame =>
    obtain ⟨haccepted, hget, hscan, hholds⟩ := h.ready
    exact ⟨rfl, g, h.valid, ⟨haccepted, hget, hscan, hholds.congr hsame⟩, h.counted, h.gauged, hsize⟩

end Tracks

theorem commitInsert_error {c : Commit} {e : VectorError}
    (herror : (ix.commitInsert store c).result = .error e) :
    ix.commitInsert store c = ⟨.error e, ix, store⟩ := by
  rw [commitInsert] at herror ⊢
  cases hcommit : ix.commit store c with
  | error fault =>
    rw [hcommit] at herror
    exact congrArg (Outcome.mk · ix store) herror
  | ok next =>
    rw [hcommit] at herror
    cases herror

theorem commitDelete_error {c : Commit} {e : VectorError}
    (herror : (ix.commitDelete store c).result = .error e) :
    ix.commitDelete store c = ⟨.error e, ix, store⟩ := by
  rw [commitDelete] at herror ⊢
  cases hcommit : ix.commit store c with
  | error fault =>
    rw [hcommit] at herror
    exact congrArg (Outcome.mk · ix store) herror
  | ok next =>
    rw [hcommit] at herror
    cases herror

/-- An insert that fails, whatever the store failed at, writes nothing and moves no gauge. -/
theorem insert_error {cancel : Cancellation} {id : String} {v : Embedding} {e : VectorError}
    (herror : (ix.insert store cancel id v).result = .error e) :
    (ix.insert store cancel id v).store = store ∧
      ((ix.insert store cancel id v).index = ix ∨
        (ix.insert store cancel id v).index = ix.dropSample) := by
  rw [insert] at herror ⊢
  cases hvalid : ix.validate id v with
  | error fault => exact ⟨rfl, .inl rfl⟩
  | ok u =>
    rw [hvalid] at herror
    dsimp only at herror ⊢
    by_cases hcancel : cancel = .before
    · rw [if_pos hcancel]
      exact ⟨rfl, .inl rfl⟩
    rw [if_neg hcancel] at herror ⊢
    by_cases hwaiting : cancel = .duringInsert
    · rw [if_pos hwaiting]
      exact ⟨rfl, .inr rfl⟩
    · rw [if_neg hwaiting] at herror ⊢
      cases hprepare : prepareInsert ix.config store id v ix.nextLevel with
      | error fault => exact ⟨rfl, .inr rfl⟩
      | ok c =>
        rw [hprepare] at herror
        dsimp only
        rw [commitInsert_error herror]
        exact ⟨rfl, .inr rfl⟩

/-- A delete that fails, whatever the store failed at, changes nothing. -/
theorem delete_error {id : String} {e : VectorError}
    (herror : (ix.delete store id).result = .error e) : ix.delete store id = ⟨.error e, ix, store⟩ := by
  rw [delete] at herror ⊢
  cases hcheck : checkId id with
  | error fault =>
    rw [hcheck] at herror
    exact congrArg (Outcome.mk · ix store) herror
  | ok u =>
    rw [hcheck] at herror
    dsimp only at herror ⊢
    cases hprepare : prepareDelete ix.config store id with
    | error fault =>
      rw [hprepare] at herror
      exact congrArg (Outcome.mk · ix store) herror
    | ok prepared =>
      rw [hprepare] at herror
      cases prepared with
      | none => cases herror
      | some c => exact commitDelete_error herror

theorem Tracks.open_eq (h : Tracks ix store g) (samples : List Binary64) :
    VectorIndex.open ix.config samples store = .ok
      { config := ix.config
        samples
        vectorCount := g.ids.length
        adjacencyEntries := g.entries
        entryLevel := g.entry.map (·.level) } := by
  have hshows := h.ready.holds.shows_start h.ready.gettable h.ready.scannable
  have hcount : (Draft.start ix.config store).count = .ok g.ids.length :=
    hshows.count.trans (congrArg Except.ok h.counted)
  have hentry : (Draft.start ix.config store).entryPoint = .ok g.entry := hshows.entryPoint
  rw [VectorIndex.open, h.valid]
  dsimp only
  rw [hcount, h.ready.holds.adjacencyEntries_start h.ready.scannable, hentry]
  rfl

theorem Tracks.reopened (h : Tracks ix store g) {samples : List Binary64}
    (hopen : VectorIndex.open ix.config samples store = .ok ix') :
    ix'.config = ix.config ∧ Tracks ix' store g := by
  obtain rfl := Except.ok.inj ((h.open_eq samples).symm.trans hopen)
  exact ⟨rfl, h.congr rfl ⟨rfl, rfl, rfl⟩⟩

/-- The states of an index that was opened where nothing was stored under its prefix and that is alone
there. Its calls may fail at anything that the store does, and it may be opened anew. A machine can address
what is stored. -/
inductive Alone (config : VectorConfig) : VectorIndex → StoreHandle → Prop
  | opened {samples : List Binary64} {ix : VectorIndex} {content : Store}
      (hempty : ∀ bytes, bytes.startsWith (KeySpace.ofPrefix config.keyPrefix).lead = true →
        content.find? bytes = none)
      (hopen : VectorIndex.open config samples { content } = .ok ix) (hsize : content.Addressable) :
      Alone config ix { content }
  | step {ix ix' : VectorIndex} {store store' : StoreHandle} (h : Alone config ix store)
      (hstep : Step config ix store ix' store') (hsize : store'.content.Addressable) :
      Alone config ix' store'
  | insertFails {ix : VectorIndex} {store : StoreHandle} (faults : Faults) (cancel : Cancellation)
      (id : String) (v : Embedding) {outcome : Outcome Unit} {e : VectorError}
      (h : Alone config ix store) (hcall : ix.insert { store with faults } cancel id v = outcome)
      (herror : outcome.result = .error e) :
      Alone config outcome.index { outcome.store with faults := {} }
  | deleteFails {ix : VectorIndex} {store : StoreHandle} (faults : Faults) (id : String)
      {outcome : Outcome Bool} {e : VectorError} (h : Alone config ix store)
      (hcall : ix.delete { store with faults } id = outcome) (herror : outcome.result = .error e) :
      Alone config outcome.index { outcome.store with faults := {} }
  | reopened {samples : List Binary64} {ix ix' : VectorIndex} {store : StoreHandle}
      (h : Alone config ix store)
      (hopen : VectorIndex.open config samples { store with faults := {} } = .ok ix') :
      Alone config ix' { store with faults := {} }

theorem tracks_of_open {samples : List Binary64} {content : Store}
    (hempty : ∀ bytes, bytes.startsWith (KeySpace.ofPrefix config.keyPrefix).lead = true →
      content.find? bytes = none)
    (hopen : VectorIndex.open config samples { content } = .ok ix) (hsize : content.Addressable) :
    ix.config = config ∧ Tracks ix { content } (Graph.empty config.metric) := by
  obtain ⟨hvalid, -, -⟩ := open_cases hopen
  -- the figures that the index starts from are those of an index with no gauges moved yet
  let unmoved : VectorIndex := { config, samples }
  have hready : Ready unmoved { content } (Graph.empty config.metric) :=
    ⟨VectorConfig.accepted_of_validate hvalid, rfl, rfl, holds_empty _ hempty⟩
  have hunmoved : Tracks unmoved { content } (Graph.empty config.metric) :=
    ⟨hvalid, hready, rfl, ⟨rfl, rfl, rfl⟩, hsize⟩
  exact hunmoved.reopened hopen

theorem Alone.tracks (h : Alone config ix store) : ix.config = config ∧ ∃ g, Tracks ix store g := by
  induction h with
  | opened hempty hopen hsize =>
    obtain ⟨hconfig, htracks⟩ := tracks_of_open hempty hopen hsize
    exact ⟨hconfig, _, htracks⟩
  | step _ hstep hsize ih =>
    obtain ⟨rfl, g, htracks⟩ := ih
    exact htracks.step hstep hsize
  | insertFails faults cancel id v _ hcall herror ih =>
    obtain ⟨rfl, g, htracks⟩ := ih
    subst hcall
    obtain ⟨hstore, hindex | hindex⟩ := insert_error herror
    · rw [hstore, hindex]
      exact ⟨rfl, g, htracks.withWriteFault none⟩
    · rw [hstore, hindex]
      exact ⟨rfl, g, (htracks.withWriteFault none).dropSample⟩
  | deleteFails faults id _ hcall herror ih =>
    obtain ⟨rfl, g, htracks⟩ := ih
    subst hcall
    rw [delete_error herror]
    exact ⟨rfl, g, htracks.withWriteFault none⟩
  | reopened _ hopen ih =>
    obtain ⟨rfl, g, htracks⟩ := ih
    obtain ⟨hconfig, hreopened⟩ := (htracks.withWriteFault none).reopened hopen
    exact ⟨hconfig, g, hreopened⟩

/-- The gauges of an index are what is counted in its store, and what it would find on being opened
anew. A link is a layer with the two nodes that are in each other's lists there. -/
structure Recounted (config : VectorConfig) (ix : VectorIndex) (store : StoreHandle) : Prop where
  count : (Draft.start config store).count = .ok ix.vectorCount
  nodes : (store.content.scan (KeySpace.ofPrefix config.keyPrefix).nodeLead).length = ix.vectorCount
  lists : ∃ lists, (store.content.scan (KeySpace.ofPrefix config.keyPrefix).neighborsLead).mapM
      (fun e => Record.neighbors? e.2) = some lists ∧
    ix.adjacencyEntries = (lists.map List.length).sum
  even : ix.adjacencyEntries = 2 * ix.edgeCount
  links : ∃ links : Finset (ℕ × Sym2 String), links.card = ix.edgeCount ∧ ∀ layer a b,
    (layer, s(a, b)) ∈ links ↔
      ∃ ids, (Draft.start config store).neighbors layer a = .ok ids ∧ b ∈ ids
  layers : ∃ entry, (Draft.start config store).entryPoint = .ok entry ∧
    (entry = none ↔ ix.vectorCount = 0) ∧ ix.layerCount = entry.elim 0 fun e => e.level + 1
  reopened : ∀ samples, ∃ ix', VectorIndex.open config samples { store with faults := {} } = .ok ix' ∧
    ix'.vectorCount = ix.vectorCount ∧ ix'.layerCount = ix.layerCount ∧
    ix'.edgeCount = ix.edgeCount ∧ ix'.averageDegree = ix.averageDegree

theorem Holds.mapM_neighbors (h : Holds config store.content g) :
    (store.content.scan (KeySpace.ofPrefix config.keyPrefix).neighborsLead).mapM
        (fun e => Record.neighbors? e.2) =
      some ((store.content.scan (KeySpace.ofPrefix config.keyPrefix).neighborsLead).map fun e =>
        (Record.neighbors? e.2).getD []) := by
  have hread : ∀ e ∈ store.content.scan (KeySpace.ofPrefix config.keyPrefix).neighborsLead,
      Record.neighbors? e.2 = some ((Record.neighbors? e.2).getD []) := by
    intro e he
    obtain ⟨layer, id, -, rfl⟩ := h.mem_scan_neighbors.mp he
    rw [Record.neighbors?_neighbors]
    rfl
  generalize store.content.scan (KeySpace.ofPrefix config.keyPrefix).neighborsLead = entries at hread ⊢
  induction entries with
  | nil => rfl
  | cons e entries ih =>
    have hrest := ih fun e' he' => hread e' (List.mem_cons_of_mem _ he')
    rw [List.mapM_cons, hread e List.mem_cons_self, hrest]
    rfl

theorem Tracks.layerCount_eq (h : Tracks ix store g) :
    ix.layerCount = g.entry.elim 0 fun e => e.level + 1 := by
  rw [layerCount, h.gauged.entryLevel]
  cases hentry : g.entry with
  | none => rfl
  | some e =>
    have hlevel := h.ready.holds.sound.fits.entry hentry
    rw [maxLevel] at hlevel
    have hlt : e.level + 1 < 0x10000000000000000 := by omega
    exact Nat.mod_eq_of_lt hlt

theorem Tracks.entry_eq_none_iff (h : Tracks ix store g) : g.entry = none ↔ ix.vectorCount = 0 := by
  have hrooted := h.ready.holds.sound.rooted
  rw [h.gauged.vectorCount, List.length_eq_zero_iff]
  constructor
  · exact hrooted.empty
  · intro hnil
    by_contra hsome
    obtain ⟨e, he⟩ := Option.ne_none_iff_exists'.mp hsome
    have hmem := (hrooted.present he).1
    rw [hnil] at hmem
    cases hmem

theorem Tracks.recounted (h : Tracks ix store g) : Recounted ix.config ix store := by
  have hshows := h.ready.holds.shows_start h.ready.gettable h.ready.scannable
  have hsound := h.ready.holds.sound
  have heven : ix.adjacencyEntries = 2 * g.links.card :=
    h.gauged.adjacencyEntries.trans (Graph.entries_eq_two_mul hsound.wired hsound.fits)
  have hedges : ix.edgeCount = g.links.card := by
    rw [edgeCount, heven]
    omega
  refine ⟨?_, ?_, ⟨_, h.ready.holds.mapM_neighbors, ?_⟩, ?_, ⟨g.links, hedges.symm, fun layer a b => ?_⟩,
    ⟨g.entry, hshows.entryPoint, h.entry_eq_none_iff, h.layerCount_eq⟩, fun samples => ?_⟩
  · rw [h.gauged.vectorCount]
    exact hshows.count.trans (congrArg Except.ok h.counted)
  · rw [h.ready.holds.scan_nodes, List.length_map, h.gauged.vectorCount]
  · rw [List.map_map, h.gauged.adjacencyEntries, ← h.ready.holds.sum_listLength]
    rfl
  · rw [hedges, heven]
  · have hread : (Draft.start ix.config store).neighbors layer a = .ok (g.neighbors layer a) :=
      hshows.neighbors layer a
    rw [Graph.mem_links hsound.wired hsound.fits, hread]
    simp
  · refine ⟨_, (h.withWriteFault none).open_eq samples, h.gauged.vectorCount.symm, ?_, ?_, ?_⟩
    · rw [layerCount, layerCount, h.gauged.entryLevel]
    · rw [edgeCount, edgeCount, h.gauged.adjacencyEntries]
    · rw [averageDegree, averageDegree, h.gauged.vectorCount, h.gauged.adjacencyEntries]

/-- In every state of an index that is alone under its prefix, its gauges are what is counted in the store. -/
theorem recounted_of_alone (h : Alone config ix store) : Recounted config ix store := by
  obtain ⟨rfl, g, htracks⟩ := h.tracks
  exact htracks.recounted

theorem alone_smallTwo : Alone smallConfig smallTwo.index smallTwo.store := by
  have hopened : Alone smallConfig small smallStore :=
    .opened (fun _ _ => rfl) rfl (by decide +kernel)
  have hone : Alone smallConfig smallOne.index smallOne.store :=
    .step hopened (.insert none .never "a:\"" [Binary64.zero] (by rw [smallOne])) (by decide +kernel)
  exact .step hone (.insert none .never "b" [Binary64.one] (by rw [smallTwo])) (by decide +kernel)

theorem recounted_smallTwo : smallTwo.index.vectorCount = 2 ∧ smallTwo.index.adjacencyEntries = 2 ∧
    Recounted smallConfig smallTwo.index smallTwo.store :=
  ⟨by decide +kernel, by decide +kernel, recounted_of_alone alone_smallTwo⟩

end VectorIndex

end HybridSearch

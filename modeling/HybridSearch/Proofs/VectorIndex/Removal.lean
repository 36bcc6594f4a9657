import HybridSearch.Proofs.VectorIndex.Confined
import HybridSearch.Proofs.VectorIndex.Degree
import HybridSearch.Proofs.VectorIndex.EntryPoint
import HybridSearch.Proofs.VectorIndex.Reconnect

/-!
# What a delete leaves alone

A delete takes all keys of its id away, and the id out of all lists. The embeddings and the levels of the other
nodes stay as they are. On each layer only the nodes that were next to the id there get other lists, and none of
these ends longer than it was before, or than a list of the layer may be.
-/
namespace HybridSearch

namespace Graph

variable {config : VectorConfig} {g : Graph} {layer : Nat} {id i : String}

theorem Sound.notMem_delete (hs : g.Sound config) (id : String) (layer : Nat) (i : String) :
    id ∉ (g.delete config id).neighbors layer i := fun hlisted =>
  ((mem_ids_delete hs).mp ((hs.delete id).wired.on hlisted).1).2 rfl

theorem Sound.neighbors_delete_self (hs : g.Sound config) (id : String) (layer : Nat) :
    (g.delete config id).neighbors layer id = [] :=
  (hs.delete id).wired.eq_nil_of_unlisted (hs.notMem_delete id layer)

theorem Sound.neighbors_delete_of_notMem (hs : g.Sound config) (hid : id ∈ g.ids) (hi : i ≠ id)
    (hfar : i ∉ g.neighbors layer id) : (g.delete config id).neighbors layer i = g.neighbors layer i := by
  obtain ⟨h, -, hsame, hdelete⟩ := hs.neighbors_delete hid layer
  rw [← hsame] at hfar
  rw [hdelete, neighbors_unlinkLayer_of_notMem hi hfar, hsame]

theorem Sound.length_delete_le (hs : g.Sound config) (hid : id ∈ g.ids) (layer : Nat) (i : String) :
    ((g.delete config id).neighbors layer i).length ≤
      max (g.neighbors layer i).length (config.capacity layer) := by
  obtain ⟨h, -, hsame, hdelete⟩ := hs.neighbors_delete hid layer
  have hlength := length_unlinkLayer_le config id h layer layer i
  rw [hsame] at hlength
  rw [hdelete]
  exact hlength

theorem Sound.level_delete (hs : g.Sound config) (id : String) : (g.delete config id).level = g.level :=
  level_unlinkNode hs.settled.wired id

/-- What the graph stores of another node, apart from the lists of the former neighbours. -/
theorem Sound.stored_delete (hs : g.Sound config) (hid : id ∈ g.ids) (hi : i ≠ id) :
    (g.delete config id).stored (.vector i) = g.stored (.vector i) ∧
      (g.delete config id).stored (.node i) = g.stored (.node i) ∧
      ∀ layer, i ∉ g.neighbors layer id →
        (g.delete config id).stored (.neighbors layer i) = g.stored (.neighbors layer i) := by
  have hmem : i ∈ (g.delete config id).ids ↔ i ∈ g.ids := by simp [mem_ids_delete hs, hi]
  refine ⟨?_, ?_, fun layer hfar => ?_⟩
  · simp only [stored, hmem, vector_delete hs]
  · simp only [stored, hmem, hs.level_delete]
  · simp only [stored, hs.neighbors_delete_of_notMem hid hi hfar]

theorem Sound.stored_delete_self (hs : g.Sound config) (id : String) :
    (g.delete config id).stored (.vector id) = none ∧ (g.delete config id).stored (.node id) = none ∧
      ∀ layer, (g.delete config id).stored (.neighbors layer id) = none := by
  have hgone : id ∉ (g.delete config id).ids := fun hmem => ((mem_ids_delete hs).mp hmem).2 rfl
  exact ⟨if_neg hgone, if_neg hgone, fun layer => if_pos (hs.neighbors_delete_self id layer)⟩

end Graph

namespace VectorIndex

variable {config : VectorConfig} {ix : VectorIndex} {store store' : StoreHandle} {g : Graph} {id : String}

theorem Ready.contains_iff (h : Ready ix store g) : ix.contains store id = .ok true ↔ id ∈ g.ids := by
  rw [h.contains_eq, Except.ok.injEq, decide_eq_true_iff]

/-- An id that is there after an insert was there before, or is the valid one that was put in. -/
theorem Ready.contains_insert (h : Ready ix store g) (cancel : Cancellation) (new : String) (v : Embedding)
    (hid : (ix.insert store cancel new v).index.contains (ix.insert store cancel new v).store id = .ok true) :
    id ∈ g.ids ∨ checkId id = .ok () := by
  rcases h.insert_cases cancel new v with
    ⟨e, -, hcase⟩ | ⟨-, -, hcase⟩ | ⟨e, -, -, hcase⟩ | ⟨after, hvalid, -, -, hcase, -, hnext⟩
  · rw [hcase] at hid
    exact .inl (h.contains_iff.mp hid)
  · rw [hcase] at hid
    exact .inl (h.contains_iff.mp hid)
  · rw [hcase] at hid
    exact .inl ((h.of_config rfl).contains_iff.mp hid)
  · rw [hcase] at hid
    have hmem := (hnext.of_config rfl).contains_iff.mp hid
    rcases (Graph.mem_ids_insert h.holds.sound h.accepted.buildBreadth.1).mp hmem with rfl | hmem
    · exact .inr (checkId_of_validate hvalid)
    · exact .inl hmem

theorem Ready.contains_delete (h : Ready ix store g) (old : String)
    (hid : (ix.delete store old).index.contains (ix.delete store old).store id = .ok true) : id ∈ g.ids := by
  rcases h.delete_cases old with
    ⟨cause, -, hcase⟩ | ⟨-, -, hcase⟩ | ⟨cause, -, -, -, hcase⟩ | ⟨after, -, -, -, hcase, -, hnext⟩
  · rw [hcase] at hid
    exact h.contains_iff.mp hid
  · rw [hcase] at hid
    exact h.contains_iff.mp hid
  · rw [hcase] at hid
    exact h.contains_iff.mp hid
  · rw [hcase] at hid
    have hmem := (hnext.of_config rfl).contains_iff.mp hid
    exact ((Graph.mem_ids_delete h.holds.sound).mp hmem).1

theorem Reached.checkId_of_contains (h : Reached config ix store) (hid : ix.contains store id = .ok true) :
    checkId id = .ok () := by
  induction h with
  | opened hempty hopen =>
    obtain ⟨-, hready⟩ := ready_of_open hempty hopen
    exact absurd (hready.contains_iff.mp hid) List.not_mem_nil
  | insert fault cancel new v h hcall ih =>
    obtain ⟨rfl, g, hready⟩ := h.ready
    subst hcall
    rcases (hready.withWriteFault fault).contains_insert cancel new v hid with hmem | hcheck
    · exact ih (hready.contains_iff.mpr hmem)
    · exact hcheck
  | delete fault old h hcall ih =>
    obtain ⟨rfl, g, hready⟩ := h.ready
    subst hcall
    exact ih (hready.contains_iff.mpr ((hready.withWriteFault fault).contains_delete old hid))
  | @search ix store cancel query k answer h hcall ih =>
    obtain ⟨rfl, g, hready⟩ := h.ready
    subst hcall
    have hsearched := hready.of_config (Ready.search_config ix store cancel query k)
    exact ih (hready.contains_iff.mpr (hsearched.contains_iff.mp hid))
  | @elsewhere ix store content h hsame ih =>
    obtain ⟨rfl, g, hready⟩ := h.ready
    have hmoved : Ready ix { store with content } g :=
      ⟨hready.accepted, hready.gettable, hready.scannable, hready.holds.congr hsame⟩
    exact ih (hready.contains_iff.mpr (hmoved.contains_iff.mp hid))

/-- What is left of a store when an id is taken out of an index. -/
structure Removed (config : VectorConfig) (before after : StoreHandle) (id : String) : Prop where
  embeddings : ∀ i, i ≠ id →
    after.content.find? ((keysOf config).vector i) = before.content.find? ((keysOf config).vector i)
  levels : ∀ i, i ≠ id →
    after.content.find? ((keysOf config).node i) = before.content.find? ((keysOf config).node i)
  gone : after.content.find? ((keysOf config).vector id) = none ∧
    after.content.find? ((keysOf config).node id) = none ∧
    ∀ layer, after.content.find? ((keysOf config).neighbors layer id) = none
  unlisted : ∀ layer i, ∃ ids, (Draft.start config after).neighbors layer i = .ok ids ∧ id ∉ ids
  lists : ∀ layer former, (Draft.start config before).neighbors layer id = .ok former →
    ∀ i, i ≠ id → i ∉ former → after.content.find? ((keysOf config).neighbors layer i) =
      before.content.find? ((keysOf config).neighbors layer i)
  bounded : ∀ layer i, ∃ old new, (Draft.start config before).neighbors layer i = .ok old ∧
    (Draft.start config after).neighbors layer i = .ok new ∧
    new.length ≤ max old.length (config.capacity layer)
  elsewhere : ∀ {key}, ¬(keysOf config).Owns key → after.content.find? key = before.content.find? key

theorem Ready.removed (h : Ready ix store g) (hid : id ∈ g.ids)
    (hnext : Ready ix store' (g.delete ix.config id))
    (helsewhere : ∀ {key}, ¬(keysOf ix.config).Owns key →
      store'.content.find? key = store.content.find? key) : Removed ix.config store store' id := by
  have hs := h.holds.sound
  have hbefore := (h.holds.shows_start h.gettable h.scannable).neighbors
  have hafter := (hnext.holds.shows_start hnext.gettable hnext.scannable).neighbors
  have hstored : ∀ key, (g.delete ix.config id).stored key = g.stored key →
      store'.content.find? ((keysOf ix.config).bytes key) = store.content.find? ((keysOf ix.config).bytes key) :=
    fun key hkey => (hnext.holds.found key).trans (hkey.trans (h.holds.found key).symm)
  obtain ⟨hvector, hnode, hlists⟩ := hs.stored_delete_self id
  exact {
    embeddings := fun i hi => hstored (.vector i) (hs.stored_delete hid hi).1
    levels := fun i hi => hstored (.node i) (hs.stored_delete hid hi).2.1
    gone := ⟨(hnext.holds.found (.vector id)).trans hvector, (hnext.holds.found (.node id)).trans hnode,
      fun layer => (hnext.holds.found (.neighbors layer id)).trans (hlists layer)⟩
    unlisted := fun layer i => ⟨_, hafter layer i, hs.notMem_delete id layer i⟩
    lists := fun layer former hformer i hi hfar => by
      obtain rfl : g.neighbors layer id = former := Except.ok.inj ((hbefore layer id).symm.trans hformer)
      exact hstored (.neighbors layer i) ((hs.stored_delete hid hi).2.2 layer hfar)
    bounded := fun layer i => ⟨_, _, hbefore layer i, hafter layer i, hs.length_delete_le hid layer i⟩
    elsewhere := helsewhere }

/-- In every reachable state the delete of an id that is there succeeds unless its batch cannot be written, and
then changes no lists but those of the nodes that were next to the id. -/
theorem removed_of_delete (h : Reached config ix store) (hid : ix.contains store id = .ok true)
    (fault : Option StoreFault) {outcome : Outcome Bool}
    (hcall : ix.delete { store with faults := { write := fault } } id = outcome) :
    (fault = none → outcome.result = .ok true) ∧
    (outcome.result = .ok true → Removed config store outcome.store id) ∧
    (outcome.result ≠ .ok true → outcome.store.content = store.content) := by
  have hcheck := h.checkId_of_contains hid
  obtain ⟨rfl, g, hready⟩ := h.ready
  have hmem := hready.contains_iff.mp hid
  subst hcall
  rcases (hready.withWriteFault fault).delete_cases id with
    ⟨cause, hrefused, -⟩ | ⟨-, hmissing, -⟩ | ⟨cause, -, -, hfault, hcase⟩ | ⟨after, -, -, -, hcase, -, hnext⟩
  · rw [hcheck] at hrefused
    cases hrefused
  · exact absurd hmem hmissing
  · rw [hcase]
    have hfails : fault = some cause := hfault
    exact ⟨fun hnone => (nomatch hnone.symm.trans hfails), fun hok => (nomatch hok), fun _ => rfl⟩
  · have helsewhere : ∀ {key}, ¬(keysOf ix.config).Owns key →
        after.content.find? key = store.content.find? key := by
      intro key hkey
      have hframe := (delete_confined ix id).frame { store with faults := { write := fault } } hkey
      rw [hcase] at hframe
      exact hframe
    rw [hcase]
    exact ⟨fun _ => rfl, fun _ => hready.removed hmem hnext helsewhere, fun hne => absurd rfl hne⟩

/-- One of the neighbours of the third node is left without neighbours, the other one keeps its list full. -/
theorem removed_uncrowded : crowded.1.contains crowded.2 "h" = .ok true ∧ uncrowded.result = .ok true ∧
    Removed narrowConfig crowded.2 uncrowded.store "h" := by
  have hid : crowded.1.contains crowded.2 "h" = .ok true := ok_of_toOption (by decide +kernel)
  have hcall : crowded.1.delete { crowded.2 with faults := {} } "h" = uncrowded := by rw [uncrowded]
  obtain ⟨hok, hremoved, -⟩ := removed_of_delete reached_crowded hid none hcall
  exact ⟨hid, hok rfl, hremoved (hok rfl)⟩

end VectorIndex

end HybridSearch

import HybridSearch.Proofs.Config.VectorConfig
import HybridSearch.Proofs.Except
import HybridSearch.Proofs.VectorIndex.Change

/-!
# Calls of a vector index

A store holds a graph when its keys under the prefix of the index look up what the graph stores. Over a
store that holds a sound graph every call of the index either leaves the store as it is or brings it to
the graph that the insert or the delete makes.
-/
namespace HybridSearch

namespace Graph

def settled (g : Graph) : Graph := { g with adjacencyChange := 0, countChange := 0 }

/-- The graph with an embedding inserted, or replaced if the id has one. -/
def insert (config : VectorConfig) (g : Graph) (id : String) (v : Embedding) (level : Nat) : Graph :=
  linkNode config (unlinkNode config g.settled id).1 id v level

/-- The graph with a node removed, if it is there. -/
def delete (config : VectorConfig) (g : Graph) (id : String) : Graph :=
  (unlinkNode config g.settled id).1

variable {config : VectorConfig} {g : Graph}

theorem Sound.settled (hs : g.Sound config) : g.settled.Sound config :=
  ⟨{ hs.fits with }, { hs.wired with }, { hs.rooted with }⟩

theorem Sound.delete (hs : g.Sound config) (id : String) : (g.delete config id).Sound config :=
  hs.settled.unlinkNode id

theorem mem_ids_delete (hs : g.Sound config) {id i : String} :
    i ∈ (g.delete config id).ids ↔ i ∈ g.ids ∧ i ≠ id :=
  mem_ids_unlinkNode hs.settled.wired

theorem length_delete_le (hs : g.Sound config) (id : String) :
    (g.delete config id).ids.length ≤ g.ids.length :=
  (hs.delete id).fits.nodup_ids.length_le_of_subset fun _ hother => ((mem_ids_delete hs).mp hother).1

theorem vector_delete (hs : g.Sound config) (id : String) :
    (g.delete config id).vector = g.vector :=
  vector_unlinkNode hs.settled.wired

theorem Sound.insert (hs : g.Sound config) (id : String) {v : Embedding} {level : Nat}
    (hbreadth : 0 < config.buildBreadth) (hlevel : level ≤ VectorIndex.maxLevel)
    (hv : VectorIndex.checkVector config v = .ok ()) : (g.insert config id v level).Sound config :=
  (hs.delete id).linkNode (fun hid => ((mem_ids_delete hs).mp hid).2 rfl) hbreadth hlevel hv

theorem mem_ids_insert (hs : g.Sound config) {id : String} {v : Embedding} {level : Nat}
    (hbreadth : 0 < config.buildBreadth) {i : String} :
    i ∈ (g.insert config id v level).ids ↔ i = id ∨ i ∈ g.ids := by
  have hnodes := (hs.delete id).nodes_linkNode v level (fun hid => ((mem_ids_delete hs).mp hid).2 rfl)
    hbreadth
  have hids : (g.insert config id v level).ids = insertId id (g.delete config id).ids := hnodes.1
  rw [hids, mem_insertId, mem_ids_delete hs]
  by_cases hi : i = id <;> simp [hi]

theorem vector_insert (hs : g.Sound config) {id : String} {v : Embedding} {level : Nat}
    (hbreadth : 0 < config.buildBreadth) (i : String) :
    (g.insert config id v level).vector i = if i = id then v else g.vector i := by
  have hnodes := (hs.delete id).nodes_linkNode v level (fun hid => ((mem_ids_delete hs).mp hid).2 rfl)
    hbreadth
  rw [vector_delete hs] at hnodes
  exact congrFun hnodes.2 i

end Graph

namespace VectorIndex

/-- What the keys under the prefix of an index look up. -/
structure Holds (config : VectorConfig) (content : Store) (g : Graph) : Prop where
  sound : g.Sound config
  found : ∀ key, content.find? ((KeySpace.ofPrefix config.keyPrefix).bytes key) = g.stored key
  named : ∀ bytes value, bytes.startsWith (KeySpace.ofPrefix config.keyPrefix).lead = true →
    content.find? bytes = some value → ∃ key, bytes = (KeySpace.ofPrefix config.keyPrefix).bytes key

variable {config : VectorConfig} {store : StoreHandle} {g : Graph}

theorem stored_settled (g : Graph) (key : GraphKey) : g.settled.stored key = g.stored key := by
  cases key <;> rfl

theorem Holds.shows_start (h : Holds config store.content g) (hget : store.faults.get = none)
    (hscan : store.faults.scan = none) :
    Draft.Shows config store (Draft.start config store) g.settled where
  store_eq := rfl
  gettable := hget
  scannable := hscan
  keys_eq := rfl
  dimension_eq := rfl
  metric_eq := rfl
  found key := (h.found key).trans (stored_settled g key).symm
  named := h.named
  fits := h.sound.settled.fits
  adjacencyChange_eq := rfl
  countChange_eq := rfl

theorem holds_write {d : Draft} (h : Draft.Shows config store d g) (hs : g.Sound config) :
    Holds config (store.content.write d.batch) g := by
  have hpeek : ∀ bytes, (store.content.write d.batch).find? bytes = d.peek bytes :=
    fun bytes => h.store_eq ▸ d.find?_write_batch bytes
  refine ⟨hs, fun key => ?_, fun bytes value hlead hvalue => ?_⟩
  · rw [hpeek, ← h.keys_eq]
    exact h.found key
  · rw [hpeek] at hvalue
    rw [← h.keys_eq] at hlead ⊢
    exact h.named bytes value hlead hvalue

theorem Holds.congr {content content' : Store} (h : Holds config content g)
    (hsame : ∀ bytes, bytes.startsWith (KeySpace.ofPrefix config.keyPrefix).lead = true →
      content'.find? bytes = content.find? bytes) : Holds config content' g := by
  refine ⟨h.sound, fun key => ?_, fun bytes value hlead hvalue => ?_⟩
  · rw [hsame _ (KeySpace.startsWith_lead _ key)]
    exact h.found key
  · rw [hsame bytes hlead] at hvalue
    exact h.named bytes value hlead hvalue

theorem holds_empty {content : Store} (config : VectorConfig)
    (hempty : ∀ bytes, bytes.startsWith (KeySpace.ofPrefix config.keyPrefix).lead = true →
      content.find? bytes = none) : Holds config content (Graph.empty config.metric) := by
  refine ⟨Graph.sound_empty config, fun key => ?_, fun bytes value hlead hvalue => ?_⟩
  · rw [hempty _ (KeySpace.startsWith_lead _ key)]
    cases key <;> rfl
  · rw [hempty bytes hlead] at hvalue
    cases hvalue

/-- The commit that brings a store to a graph with a batch. -/
def commitTo (g : Graph) (batch : List Change) : Commit :=
  ⟨batch, g.adjacencyChange, g.countChange, g.entry.map (·.level)⟩

theorem commitOf_eq {d : Draft} (h : Draft.Shows config store d g) :
    commitOf d = .ok (commitTo g d.batch) := by
  rw [commitOf, h.entryPoint, h.adjacencyChange_eq, h.countChange_eq]
  rfl

theorem prepareInsert_ok (h : Holds config store.content g) (hget : store.faults.get = none)
    (hscan : store.faults.scan = none) (id : String) {v : Embedding} {level : Nat}
    (hbreadth : 0 < config.buildBreadth) (hlevel : level ≤ maxLevel)
    (hv : checkVector config v = .ok ()) :
    ∃ batch, prepareInsert config store id v level =
        .ok (commitTo (g.insert config id v level) batch) ∧
      Holds config (store.content.write batch) (g.insert config id v level) := by
  obtain ⟨d, hd, hshows⟩ := (h.shows_start hget hscan).unlinkNode h.sound.settled id
  have hid : id ∉ (Graph.delete config g id).ids := fun hmem =>
    ((Graph.mem_ids_delete h.sound).mp hmem).2 rfl
  obtain ⟨linked, hlinked, hshown⟩ := hshows.linkNode (h.sound.delete id) hid hbreadth hlevel hv
  refine ⟨linked.batch, ?_, holds_write hshown (h.sound.insert id hbreadth hlevel hv)⟩
  rw [prepareInsert, hd]
  show (d.linkNode config id v level >>= commitOf) = _
  rw [hlinked]
  exact commitOf_eq hshown

theorem unlinkNode_removed (g : Graph) (id : String) :
    (Graph.unlinkNode config g id).2 = decide (id ∈ g.ids) := by
  rw [Graph.unlinkNode]
  by_cases hid : id ∈ g.ids
  · rw [if_pos hid]
    dsimp only
    split
    · simp [hid]
    · split <;> simp [hid]
  · rw [if_neg hid]
    simp [hid]

theorem prepareDelete_ok (h : Holds config store.content g) (hget : store.faults.get = none)
    (hscan : store.faults.scan = none) (id : String) :
    id ∉ g.ids ∧ prepareDelete config store id = .ok none ∨
      id ∈ g.ids ∧ ∃ batch,
        prepareDelete config store id = .ok (some (commitTo (g.delete config id) batch)) ∧
        Holds config (store.content.write batch) (g.delete config id) := by
  obtain ⟨d, hd, hshows⟩ := (h.shows_start hget hscan).unlinkNode h.sound.settled id
  rw [prepareDelete, hd, unlinkNode_removed]
  by_cases hid : id ∈ g.ids
  · refine .inr ⟨hid, d.batch, ?_, holds_write hshows (h.sound.delete id)⟩
    have hremoved : decide (id ∈ g.settled.ids) = true := decide_eq_true hid
    rw [hremoved]
    show (commitOf d >>= fun c => .ok (some c)) = _
    rw [commitOf_eq hshows]
    rfl
  · refine .inl ⟨hid, ?_⟩
    have hkept : decide (id ∈ g.settled.ids) = false := decide_eq_false hid
    rw [hkept]
    rfl

theorem commit_cases (store : StoreHandle) (ix : VectorIndex) (c : Commit) :
    (∃ fault, store.faults.write = some fault ∧ ix.commit store c = .error (.storage fault)) ∨
      store.faults.write = none ∧ ix.commit store c = .ok (ix.moveGauges c,
        { store with content := store.content.write c.batch, lastSync := ix.config.syncWrites }) := by
  rw [commit, StoreHandle.write]
  cases hfault : store.faults.write with
  | none => exact .inr ⟨rfl, rfl⟩
  | some fault => exact .inl ⟨fault, rfl, rfl⟩

/-- The index after an embedding was put in, which brought its store to a graph. -/
def afterInsert (ix : VectorIndex) (g : Graph) : VectorIndex :=
  { ix.dropSample.moveGauges (commitTo g []) with inserts := ix.inserts + 1 }

/-- The index after an embedding was taken out, which brought its store to a graph. -/
def afterDelete (ix : VectorIndex) (g : Graph) : VectorIndex :=
  { ix.moveGauges (commitTo g []) with deletes := ix.deletes + 1 }

theorem nextLevel_le (ix : VectorIndex) : ix.nextLevel ≤ maxLevel := by
  rw [nextLevel]
  split
  · exact Nat.zero_le _
  · exact Nat.min_le_right _ _

theorem checkVector_of_validate {ix : VectorIndex} {id : String} {v : Embedding}
    (h : ix.validate id v = .ok ()) : checkVector ix.config v = .ok () := by
  rw [validate] at h
  split at h
  · cases h
  · exact h

theorem checkId_of_validate {ix : VectorIndex} {id : String} {v : Embedding}
    (h : ix.validate id v = .ok ()) : checkId id = .ok () := by
  rw [validate] at h
  split at h
  · cases h
  · next hcheck => exact hcheck

theorem lastSync_commitInsert {ix : VectorIndex} {c : Commit} (h : (ix.commitInsert store c).result = .ok ()) :
    (ix.commitInsert store c).store.lastSync = ix.config.syncWrites := by
  rcases commit_cases store ix c with ⟨fault, -, hcommit⟩ | ⟨-, hcommit⟩
  · rw [commitInsert, hcommit] at h
    cases h
  · rw [commitInsert, hcommit]

theorem lastSync_insert {ix : VectorIndex} {cancel : Cancellation} {id : String} {v : Embedding}
    (h : (ix.insert store cancel id v).result = .ok ()) :
    (ix.insert store cancel id v).store.lastSync = ix.config.syncWrites := by
  rw [insert] at h ⊢
  cases hvalid : ix.validate id v with
  | error e =>
    rw [hvalid] at h
    cases h
  | ok u =>
    rw [hvalid] at h
    dsimp only at h ⊢
    by_cases hcancel : cancel = .before
    · rw [if_pos hcancel] at h
      cases h
    rw [if_neg hcancel] at h ⊢
    by_cases hwaiting : cancel = .duringInsert
    · rw [if_pos hwaiting] at h
      cases h
    · rw [if_neg hwaiting] at h ⊢
      cases hprepare : prepareInsert ix.config store id v ix.nextLevel with
      | error e =>
        rw [hprepare] at h
        cases h
      | ok c =>
        rw [hprepare] at h
        exact lastSync_commitInsert h

/-- The store and the settings that an index works on: only writes may fail. -/
structure Ready (ix : VectorIndex) (store : StoreHandle) (g : Graph) : Prop where
  accepted : ix.config.Accepted
  gettable : store.faults.get = none
  scannable : store.faults.scan = none
  holds : Holds ix.config store.content g

namespace Ready

variable {ix : VectorIndex}

theorem of_config (h : Ready ix store g) {ix' : VectorIndex} (hconfig : ix'.config = ix.config) :
    Ready ix' store g :=
  ⟨hconfig ▸ h.accepted, h.gettable, h.scannable, hconfig ▸ h.holds⟩

theorem withWriteFault (h : Ready ix store g) (fault : Option StoreFault) :
    Ready ix { store with faults := { write := fault } } g :=
  ⟨h.accepted, rfl, rfl, h.holds⟩

theorem written (h : Ready ix store g) {g' : Graph} {batch : List Change} {sync : Bool}
    (hwritten : Holds ix.config (store.content.write batch) g') :
    Ready ix { store with content := store.content.write batch, lastSync := sync } g' :=
  ⟨h.accepted, h.gettable, h.scannable, hwritten⟩

theorem get_of_mem (h : Ready ix store g) {id : String} (hid : id ∈ g.ids) :
    ix.get store id = .ok (g.vector id) := by
  have hshows := h.holds.shows_start h.gettable h.scannable
  have hlevel := hshows.level id
  rw [if_pos (show id ∈ g.settled.ids from hid)] at hlevel
  rw [get]
  simp only [hlevel]
  exact hshows.vector hid

theorem get_of_not_mem (h : Ready ix store g) {id : String} (hid : id ∉ g.ids) :
    ix.get store id = .error (.notFound id) := by
  have hlevel := (h.holds.shows_start h.gettable h.scannable).level id
  rw [if_neg (show id ∉ g.settled.ids from hid)] at hlevel
  rw [get]
  simp only [hlevel]
  rfl

theorem contains_eq (h : Ready ix store g) (id : String) :
    ix.contains store id = .ok (decide (id ∈ g.ids)) := by
  have hlevel := (h.holds.shows_start h.gettable h.scannable).level id
  rw [contains, hlevel]
  by_cases hid : id ∈ g.ids
  · rw [if_pos (show id ∈ g.settled.ids from hid), decide_eq_true hid]
    rfl
  · rw [if_neg (show id ∉ g.settled.ids from hid), decide_eq_false hid]
    rfl

/-- An insert is refused or cancelled, fails after it has drawn its level, or puts the embedding in. -/
theorem insert_cases (h : Ready ix store g) (cancel : Cancellation) (id : String) (v : Embedding) :
    (∃ e, ix.validate id v = .error e ∧ ix.insert store cancel id v = ⟨.error e, ix, store⟩) ∨
    (ix.validate id v = .ok () ∧ cancel = .before ∧
      ix.insert store cancel id v = ⟨.error .cancelled, ix, store⟩) ∨
    (∃ e, ix.validate id v = .ok () ∧
      (cancel = .duringInsert ∧ e = .cancelled ∨ ∃ fault, store.faults.write = some fault ∧ e = .storage fault) ∧
      ix.insert store cancel id v = ⟨.error e, ix.dropSample, store⟩) ∨
    ∃ store', ix.validate id v = .ok () ∧ cancel ≠ .before ∧ store.faults.write = none ∧
      ix.insert store cancel id v =
        ⟨.ok (), ix.afterInsert (g.insert ix.config id v ix.nextLevel), store'⟩ ∧
      store'.faults = store.faults ∧ Ready ix store' (g.insert ix.config id v ix.nextLevel) := by
  cases hvalid : ix.validate id v with
  | error e => exact .inl ⟨e, rfl, by rw [insert, hvalid]⟩
  | ok u =>
    by_cases hcancel : cancel = .before
    · exact .inr (.inl ⟨rfl, hcancel, by rw [insert, hvalid]; exact if_pos hcancel⟩)
    by_cases hwaiting : cancel = .duringInsert
    · refine .inr (.inr (.inl ⟨.cancelled, rfl, .inl ⟨hwaiting, rfl⟩, ?_⟩))
      rw [insert, hvalid]
      exact (if_neg hcancel).trans (if_pos hwaiting)
    · obtain ⟨batch, hprepare, hholds⟩ := prepareInsert_ok h.holds h.gettable h.scannable id
        h.accepted.buildBreadth.1 ix.nextLevel_le (checkVector_of_validate hvalid)
      have hinsert : ix.insert store cancel id v = ix.dropSample.commitInsert store
          (commitTo (g.insert ix.config id v ix.nextLevel) batch) := by
        rw [insert, hvalid]
        show (if cancel = .before then _ else _) = _
        rw [if_neg hcancel, if_neg hwaiting, hprepare]
      rcases commit_cases store ix.dropSample
          (commitTo (g.insert ix.config id v ix.nextLevel) batch) with
        ⟨fault, hfault, hcommit⟩ | ⟨hfault, hcommit⟩
      · refine .inr (.inr (.inl ⟨.storage fault, rfl, .inr ⟨fault, hfault, rfl⟩, ?_⟩))
        rw [hinsert, commitInsert, hcommit]
      · have hcase : ix.insert store cancel id v =
            ⟨.ok (), ix.afterInsert (g.insert ix.config id v ix.nextLevel),
              { store with
                content := store.content.write batch
                lastSync := ix.config.syncWrites }⟩ := by
          rw [hinsert, commitInsert, hcommit]
          rfl
        exact .inr (.inr (.inr ⟨_, rfl, hcancel, hfault, hcase, rfl, h.written hholds⟩))

/-- A delete is refused, finds nothing, fails as its batch is written, or takes the embedding out. -/
theorem delete_cases (h : Ready ix store g) (id : String) :
    (∃ fault, checkId id = .error fault ∧
      ix.delete store id = ⟨.error (.invalidId fault), ix, store⟩) ∨
    (checkId id = .ok () ∧ id ∉ g.ids ∧ ix.delete store id = ⟨.ok false, ix, store⟩) ∨
    (∃ fault, checkId id = .ok () ∧ id ∈ g.ids ∧ store.faults.write = some fault ∧
      ix.delete store id = ⟨.error (.storage fault), ix, store⟩) ∨
    ∃ store', checkId id = .ok () ∧ id ∈ g.ids ∧ store.faults.write = none ∧
      ix.delete store id = ⟨.ok true, ix.afterDelete (g.delete ix.config id), store'⟩ ∧
      store'.faults = store.faults ∧ Ready ix store' (g.delete ix.config id) := by
  cases hcheck : checkId id with
  | error fault => exact .inl ⟨fault, rfl, by rw [delete, hcheck]⟩
  | ok u =>
    rcases prepareDelete_ok h.holds h.gettable h.scannable id with
      ⟨hid, hprepare⟩ | ⟨hid, batch, hprepare, hholds⟩
    · exact .inr (.inl ⟨rfl, hid, by rw [delete, hcheck]; simp only [hprepare]⟩)
    · have hdelete : ix.delete store id =
          ix.commitDelete store (commitTo (g.delete ix.config id) batch) := by
        rw [delete, hcheck]
        simp only [hprepare]
      rcases commit_cases store ix (commitTo (g.delete ix.config id) batch) with
        ⟨fault, hfault, hcommit⟩ | ⟨hfault, hcommit⟩
      · refine .inr (.inr (.inl ⟨fault, rfl, hid, hfault, ?_⟩))
        rw [hdelete, commitDelete, hcommit]
      · have hcase : ix.delete store id =
            ⟨.ok true, ix.afterDelete (g.delete ix.config id),
              { store with
                content := store.content.write batch
                lastSync := ix.config.syncWrites }⟩ := by
          rw [hdelete, commitDelete, hcommit]
          rfl
        exact .inr (.inr (.inr ⟨_, rfl, hid, hfault, hcase, rfl, h.written hholds⟩))

theorem insert_of_ok (h : Ready ix store g) {cancel : Cancellation} {id : String} {v : Embedding}
    (hok : (ix.insert store cancel id v).result = .ok ()) :
    Ready ix (ix.insert store cancel id v).store (g.insert ix.config id v ix.nextLevel) := by
  rcases h.insert_cases cancel id v with
    ⟨e, -, hcase⟩ | ⟨-, -, hcase⟩ | ⟨e, -, -, hcase⟩ | ⟨store', -, -, -, hcase, -, hnext⟩
  · rw [hcase] at hok
    cases hok
  · rw [hcase] at hok
    cases hok
  · rw [hcase] at hok
    cases hok
  · rw [hcase]
    exact hnext

theorem delete_of_ok (h : Ready ix store g) {id : String} (hok : (ix.delete store id).result = .ok true) :
    Ready ix (ix.delete store id).store (g.delete ix.config id) := by
  rcases h.delete_cases id with
    ⟨fault, -, hcase⟩ | ⟨-, -, hcase⟩ | ⟨fault, -, -, -, hcase⟩ | ⟨store', -, -, -, hcase, -, hnext⟩
  · rw [hcase] at hok
    cases hok
  · rw [hcase] at hok
    cases hok
  · rw [hcase] at hok
    cases hok
  · rw [hcase]
    exact hnext

theorem insert_of_valid (h : Ready ix store g) {id : String} {v : Embedding}
    (hvalid : ix.validate id v = .ok ()) (hfault : store.faults.write = none) :
    ∃ after, ix.insert store .never id v =
        ⟨.ok (), ix.afterInsert (g.insert ix.config id v ix.nextLevel), after⟩ ∧
      after.faults = store.faults ∧ after.lastSync = ix.config.syncWrites ∧
      Ready ix after (g.insert ix.config id v ix.nextLevel) := by
  rcases h.insert_cases .never id v with
    ⟨e, herror, -⟩ | ⟨-, hcancel, -⟩ | ⟨e, -, ⟨hcancel, -⟩ | ⟨fault, hfails, -⟩, -⟩ |
      ⟨after, -, -, -, hcase, hfaults, hafter⟩
  · rw [hvalid] at herror
    cases herror
  · cases hcancel
  · cases hcancel
  · rw [hfault] at hfails
    cases hfails
  · have hsync : (ix.insert store .never id v).store.lastSync = ix.config.syncWrites :=
      lastSync_insert (by rw [hcase])
    rw [hcase] at hsync
    exact ⟨after, hcase, hfaults, hsync, hafter⟩

theorem delete_of_mem (h : Ready ix store g) {id : String} (hcheck : checkId id = .ok ())
    (hid : id ∈ g.ids) (hfault : store.faults.write = none) :
    ∃ after, ix.delete store id = ⟨.ok true, ix.afterDelete (g.delete ix.config id), after⟩ ∧
      after.faults = store.faults ∧ Ready ix after (g.delete ix.config id) := by
  rcases h.delete_cases id with
    ⟨fault, herror, -⟩ | ⟨-, hgone, -⟩ | ⟨fault, -, -, hfails, -⟩ | ⟨after, -, -, -, hcase, hfaults, hafter⟩
  · rw [hcheck] at herror
    cases herror
  · exact absurd hid hgone
  · rw [hfault] at hfails
    cases hfails
  · exact ⟨after, hcase, hfaults, hafter⟩

theorem delete_of_not_mem (h : Ready ix store g) {id : String} (hcheck : checkId id = .ok ()) (hid : id ∉ g.ids) :
    ix.delete store id = ⟨.ok false, ix, store⟩ := by
  rcases h.delete_cases id with
    ⟨fault, herror, -⟩ | ⟨-, -, hcase⟩ | ⟨fault, -, hmem, -⟩ | ⟨after, -, hmem, -⟩
  · rw [hcheck] at herror
    cases herror
  · exact hcase
  · exact absurd hmem hid
  · exact absurd hmem hid

theorem search_config (ix : VectorIndex) (store : StoreHandle) (cancel : Cancellation)
    (query : Embedding) (k : Nat) : (ix.search store cancel query k).2.config = ix.config := by
  rw [search]
  split <;> rfl

end Ready

/-- The states of an index that was opened where nothing was stored under its prefix and that is alone
there. Writes of its batches may fail; keys beyond its prefix may change at any time. -/
inductive Reached (config : VectorConfig) : VectorIndex → StoreHandle → Prop
  | opened {samples : List Binary64} {ix : VectorIndex} {content : Store}
      (hempty : ∀ bytes, bytes.startsWith (KeySpace.ofPrefix config.keyPrefix).lead = true →
        content.find? bytes = none)
      (hopen : VectorIndex.open config samples { content } = .ok ix) : Reached config ix { content }
  | insert {ix : VectorIndex} {store : StoreHandle} (fault : Option StoreFault)
      (cancel : Cancellation) (id : String) (v : Embedding) {outcome : Outcome Unit}
      (h : Reached config ix store)
      (hcall : ix.insert { store with faults := { write := fault } } cancel id v = outcome) :
      Reached config outcome.index outcome.store
  | delete {ix : VectorIndex} {store : StoreHandle} (fault : Option StoreFault) (id : String)
      {outcome : Outcome Bool} (h : Reached config ix store)
      (hcall : ix.delete { store with faults := { write := fault } } id = outcome) :
      Reached config outcome.index outcome.store
  | search {ix : VectorIndex} {store : StoreHandle} (cancel : Cancellation) (query : Embedding) (k : Nat)
      {answer : Except VectorError (List Neighbor) × VectorIndex} (h : Reached config ix store)
      (hcall : ix.search store cancel query k = answer) : Reached config answer.2 store
  | elsewhere {ix : VectorIndex} {store : StoreHandle} {content : Store}
      (h : Reached config ix store)
      (hsame : ∀ bytes, bytes.startsWith (KeySpace.ofPrefix config.keyPrefix).lead = true →
        content.find? bytes = store.content.find? bytes) :
      Reached config ix { store with content }

theorem open_cases {samples : List Binary64} {ix : VectorIndex} {config : VectorConfig}
    (h : VectorIndex.open config samples store = .ok ix) :
    config.validate = .ok () ∧ ix.config = config ∧ ix.samples = samples := by
  rw [VectorIndex.open] at h
  split at h
  · cases h
  · next hvalid =>
    obtain ⟨count, -, h⟩ := exists_of_bind_ok h
    obtain ⟨entries, -, h⟩ := exists_of_bind_ok h
    obtain ⟨entry, -, h⟩ := exists_of_bind_ok h
    obtain rfl := Except.ok.inj h
    exact ⟨hvalid, rfl, rfl⟩

theorem ready_of_open {samples : List Binary64} {ix : VectorIndex} {config : VectorConfig}
    {content : Store}
    (hempty : ∀ bytes, bytes.startsWith (KeySpace.ofPrefix config.keyPrefix).lead = true →
      content.find? bytes = none)
    (hopen : VectorIndex.open config samples { content } = .ok ix) :
    ix.config = config ∧ Ready ix { content } (Graph.empty config.metric) := by
  obtain ⟨hvalid, rfl, -⟩ := open_cases hopen
  exact ⟨rfl, VectorConfig.accepted_of_validate hvalid, rfl, rfl, holds_empty _ hempty⟩

/-- What a call makes of a stored graph. -/
inductive Moves (config : VectorConfig) (g : Graph) : Graph → Prop
  | kept : Moves config g g
  | inserted (id : String) {v : Embedding} {level : Nat} (hlevel : level ≤ maxLevel)
      (hv : checkVector config v = .ok ()) : Moves config g (g.insert config id v level)
  | deleted (id : String) : Moves config g (g.delete config id)

/-- A call of an index, or a change of its store beyond its prefix. -/
inductive Step (config : VectorConfig) (ix : VectorIndex) (store : StoreHandle) :
    VectorIndex → StoreHandle → Prop
  | insert (fault : Option StoreFault) (cancel : Cancellation) (id : String) (v : Embedding)
      {outcome : Outcome Unit}
      (hcall : ix.insert { store with faults := { write := fault } } cancel id v = outcome) :
      Step config ix store outcome.index outcome.store
  | delete (fault : Option StoreFault) (id : String) {outcome : Outcome Bool}
      (hcall : ix.delete { store with faults := { write := fault } } id = outcome) :
      Step config ix store outcome.index outcome.store
  | search (cancel : Cancellation) (query : Embedding) (k : Nat)
      {answer : Except VectorError (List Neighbor) × VectorIndex}
      (hcall : ix.search store cancel query k = answer) : Step config ix store answer.2 store
  | elsewhere {content : Store}
      (hsame : ∀ bytes, bytes.startsWith (KeySpace.ofPrefix config.keyPrefix).lead = true →
        content.find? bytes = store.content.find? bytes) :
      Step config ix store ix { store with content }

theorem Step.moves {ix ix' : VectorIndex} {store' : StoreHandle}
    (hstep : Step ix.config ix store ix' store') (h : Ready ix store g) :
    ix'.config = ix.config ∧ ∃ g', Moves ix.config g g' ∧ Ready ix' store' g' := by
  cases hstep with
  | insert fault cancel id v hcall =>
    subst hcall
    have hready := h.withWriteFault fault
    rcases hready.insert_cases cancel id v with
      ⟨e, -, hcase⟩ | ⟨-, -, hcase⟩ | ⟨e, -, -, hcase⟩ |
        ⟨store', hvalid, -, -, hcase, -, hnext⟩
    · rw [hcase]
      exact ⟨rfl, g, .kept, hready⟩
    · rw [hcase]
      exact ⟨rfl, g, .kept, hready⟩
    · rw [hcase]
      exact ⟨rfl, g, .kept, hready.of_config rfl⟩
    · rw [hcase]
      exact ⟨rfl, _, .inserted id ix.nextLevel_le (checkVector_of_validate hvalid), hnext.of_config rfl⟩
  | delete fault id hcall =>
    subst hcall
    have hready := h.withWriteFault fault
    rcases hready.delete_cases id with
      ⟨fault', -, hcase⟩ | ⟨-, -, hcase⟩ | ⟨fault', -, -, -, hcase⟩ |
        ⟨store', -, -, -, hcase, -, hnext⟩
    · rw [hcase]
      exact ⟨rfl, g, .kept, hready⟩
    · rw [hcase]
      exact ⟨rfl, g, .kept, hready⟩
    · rw [hcase]
      exact ⟨rfl, g, .kept, hready⟩
    · rw [hcase]
      exact ⟨rfl, _, .deleted id, hnext.of_config rfl⟩
  | search cancel query k hcall =>
    subst hcall
    have hsame := Ready.search_config ix store cancel query k
    exact ⟨hsame, g, .kept, h.of_config hsame⟩
  | elsewhere hsame => exact ⟨rfl, g, .kept, h.accepted, h.gettable, h.scannable, h.holds.congr hsame⟩

theorem Reached.ready {ix : VectorIndex} {store : StoreHandle} (h : Reached config ix store) :
    ix.config = config ∧ ∃ g, Ready ix store g := by
  have hstep : ∀ {ix ix' : VectorIndex} {store store' : StoreHandle}, Step config ix store ix' store' →
      (ix.config = config ∧ ∃ g, Ready ix store g) → ix'.config = config ∧ ∃ g, Ready ix' store' g := by
    rintro ix ix' store store' hstep ⟨rfl, g, hready⟩
    obtain ⟨hconfig, g', -, hnext⟩ := hstep.moves hready
    exact ⟨hconfig, g', hnext⟩
  induction h with
  | opened hempty hopen =>
    obtain ⟨hconfig, hready⟩ := ready_of_open hempty hopen
    exact ⟨hconfig, _, hready⟩
  | insert fault cancel id v _ hcall ih => exact hstep (.insert fault cancel id v hcall) ih
  | delete fault id _ hcall ih => exact hstep (.delete fault id hcall) ih
  | search cancel query k _ hcall ih => exact hstep (.search cancel query k hcall) ih
  | elsewhere _ hsame ih => exact hstep (.elsewhere hsame) ih

def smallConfig : VectorConfig := { dimension := 1, metric := .euclidean }

def small : VectorIndex := { config := smallConfig, samples := [] }

def smallStore : StoreHandle := { content := ByteMap.empty }

@[irreducible]
def smallOne : Outcome Unit :=
  small.insert { smallStore with faults := {} } .never "a:\"" [Binary64.zero]

@[irreducible]
def smallTwo : Outcome Unit :=
  smallOne.index.insert { smallOne.store with faults := {} } .never "b" [Binary64.one]

theorem reached_small : Reached smallConfig small smallStore := .opened (fun _ _ => rfl) rfl

theorem reached_smallOne : Reached smallConfig smallOne.index smallOne.store :=
  .insert none .never "a:\"" [Binary64.zero] reached_small (by rw [smallOne])

theorem reached_smallTwo : Reached smallConfig smallTwo.index smallTwo.store :=
  .insert none .never "b" [Binary64.one] reached_smallOne (by rw [smallTwo])

end VectorIndex

end HybridSearch

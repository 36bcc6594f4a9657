import HybridSearch.Proofs.VectorIndex.Confined
import HybridSearch.Proofs.VectorIndex.Index
import HybridSearch.Proofs.VectorIndex.Prefixes
import Mathlib.Logic.Function.Basic

/-!
# Indexes that share a store

Several indexes work on one store in turn, each under its own prefix. An index is left alone when it answers
every call, and keeps the figures, as if the calls of the others had not been made. This is so for two
indexes, whatever they are called for and whatever is in the store, exactly when neither prefix is nested in
the other.
-/
namespace HybridSearch.VectorIndex

open KeySpace

/-- A call of an index; it may also be opened anew. -/
inductive Call where
  | insert (cancel : Cancellation) (id : String) (v : Embedding)
  | delete (id : String)
  | search (cancel : Cancellation) (query : Embedding) (k : Nat)
  | get (id : String)
  | contains (id : String)
  | reopen (samples : List Binary64)

/-- What a call answers. -/
inductive Reply where
  | inserted (result : Except VectorError Unit)
  | deleted (result : Except VectorError Bool)
  | found (result : Except VectorError (List Neighbor))
  | embedding (result : Except VectorError Embedding)
  | contained (result : Except VectorError Bool)
  | reopened (result : Except VectorError Unit)

/-- The answer of a call, the index and the store after it. -/
def Call.run (ix : VectorIndex) (store : StoreHandle) : Call → (Reply × VectorIndex) × StoreHandle
  | insert cancel id v =>
    let o := ix.insert store cancel id v
    ((.inserted o.result, o.index), o.store)
  | delete id =>
    let o := ix.delete store id
    ((.deleted o.result, o.index), o.store)
  | search cancel query k =>
    let (answer, next) := ix.search store cancel query k
    ((.found answer, next), store)
  | get id => ((.embedding (ix.get store id), ix), store)
  | contains id => ((.contained (ix.contains store id), ix), store)
  | reopen samples =>
    match VectorIndex.open ix.config samples store with
    | .error e => ((.reopened (.error e), ix), store)
    | .ok next => ((.reopened (.ok ()), next), store)

theorem Call.run_confined (ix : VectorIndex) (call : Call) :
    Confined (keysOf ix.config) fun h => call.run ix h := by
  cases call with
  | insert cancel id v =>
    exact (insert_confined ix cancel id v).map fun o => (Reply.inserted o.1, o.2)
  | delete id => exact (delete_confined ix id).map fun o => (Reply.deleted o.1, o.2)
  | search cancel query k =>
    exact (search_confined ix cancel query k).map fun o => (Reply.found o.1, o.2)
  | get id => exact (get_confined ix id).map fun answer => (Reply.embedding answer, ix)
  | contains id => exact (contains_confined ix id).map fun answer => (Reply.contained answer, ix)
  | reopen samples =>
    refine ((open_confined ix.config samples).map fun opened => match opened with
      | .error e => (Reply.reopened (.error e), ix)
      | .ok next => (Reply.reopened (.ok ()), next)).of_eq fun h => ?_
    cases hopen : VectorIndex.open ix.config samples h <;> simp only [Call.run, hopen]

theorem insert_config (ix : VectorIndex) (store : StoreHandle) (cancel : Cancellation) (id : String)
    (v : Embedding) : (ix.insert store cancel id v).index.config = ix.config := by
  rw [insert]
  split
  · rfl
  · split
    · rfl
    · split
      · rfl
      · split
        · rfl
        · exact ix.dropSample.commitInsert_config store _

theorem delete_config (ix : VectorIndex) (store : StoreHandle) (id : String) :
    (ix.delete store id).index.config = ix.config := by
  rw [delete]
  split
  · rfl
  · split
    · rfl
    · rfl
    · exact ix.commitDelete_config store _

theorem Call.run_config (ix : VectorIndex) (store : StoreHandle) (call : Call) :
    (call.run ix store).1.2.config = ix.config := by
  cases call with
  | insert cancel id v => exact insert_config ix store cancel id v
  | delete id => exact delete_config ix store id
  | search cancel query k => exact Ready.search_config ix store cancel query k
  | get id => rfl
  | contains id => rfl
  | reopen samples =>
    rw [Call.run]
    split
    · rfl
    · next hopen => exact (open_cases hopen).2.1

theorem Call.run_reopen {ix : VectorIndex} {store : StoreHandle} {samples : List Binary64} :
    ((reopen samples).run ix store).1.1 = .reopened (.ok ()) ↔
      ∃ next, VectorIndex.open ix.config samples store = .ok next := by
  rw [Call.run]
  cases VectorIndex.open ix.config samples store with
  | error e => simp
  | ok next => simp

/-- A call, and what fails in the store while it is made. -/
structure Request where
  call : Call
  faults : Faults := {}

/-- An index on its own: its answers in turn, and the index after them. -/
def runAlone (ix : VectorIndex) (store : StoreHandle) : List Request → List Reply × VectorIndex
  | [] => ([], ix)
  | r :: rest =>
    let o := r.call.run ix { store with faults := r.faults }
    let later := o.1.2.runAlone o.2 rest
    (o.1.1 :: later.1, later.2)

variable {ι : Type} [DecidableEq ι]

def runShared (indexes : ι → VectorIndex) (store : StoreHandle) :
    List (ι × Request) → List (ι × Reply) × (ι → VectorIndex)
  | [] => ([], indexes)
  | (i, r) :: rest =>
    let o := r.call.run (indexes i) { store with faults := r.faults }
    let later := runShared (Function.update indexes i o.1.2) o.2 rest
    ((i, o.1.1) :: later.1, later.2)

def own {α : Type} (i : ι) (entries : List (ι × α)) : List α :=
  (entries.filter fun e => e.1 = i).map (·.2)

/-- Indexes under these settings never influence each other, whatever their store holds at first: each one
answers its calls, and keeps its figures, as over a store of its own in which it found the same. -/
def Independent (config : ι → VectorConfig) : Prop :=
  ∀ (samples : ι → List Binary64) (store : StoreHandle) (indexes : ι → VectorIndex),
    (∀ i, VectorIndex.open (config i) (samples i) store = .ok (indexes i)) →
    ∀ (i : ι) (alone : StoreHandle), store.Agree (keysOf (config i)) alone →
      VectorIndex.open (config i) (samples i) alone = .ok (indexes i) ∧
      ∀ requests : List (ι × Request),
        (indexes i).runAlone alone (own i requests) =
          (own i (runShared indexes store requests).1, (runShared indexes store requests).2 i)

variable {config : ι → VectorConfig} {indexes : ι → VectorIndex} {store alone : StoreHandle} {i : ι}

theorem own_cons_self {α : Type} (a : α) (entries : List (ι × α)) :
    own i ((i, a) :: entries) = a :: own i entries := by
  simp [own]

theorem own_cons_of_ne {α : Type} {j : ι} (hne : j ≠ i) (a : α) (entries : List (ι × α)) :
    own i ((j, a) :: entries) = own i entries := by
  simp [own, hne]

/-- While the indexes are called, the one that is followed keeps finding the same in the shared store as in
its own: the calls of the others leave its keys alone. -/
theorem runAlone_eq (hapart : ∀ j, j ≠ i → (keysOf (config i)).Apart (keysOf (config j)))
    (hconfig : ∀ j, (indexes j).config = config j)
    (hsame : ∀ key, (keysOf (config i)).Owns key →
      alone.content.find? key = store.content.find? key) (requests : List (ι × Request)) :
    (indexes i).runAlone alone (own i requests) =
      (own i (runShared indexes store requests).1, (runShared indexes store requests).2 i) := by
  induction requests generalizing indexes store alone with
  | nil => rfl
  | cons e requests ih =>
    obtain ⟨j, r⟩ := e
    have hnext : ∀ m, (Function.update indexes j
        (r.call.run (indexes j) { store with faults := r.faults }).1.2 m).config = config m := by
      intro m
      rcases eq_or_ne m j with rfl | hm
      · rw [Function.update_self, Call.run_config, hconfig]
      · rw [Function.update_of_ne hm, hconfig]
    have hconfined := Call.run_confined (indexes j) r.call
    rw [hconfig j] at hconfined
    rw [runShared]
    rcases eq_or_ne j i with rfl | hne
    · have hbegin : StoreHandle.Agree (keysOf (config j)) { store with faults := r.faults }
          { alone with faults := r.faults } := ⟨rfl, hsame⟩
      obtain ⟨hanswer, hagree⟩ := hconfined.same hbegin
      rw [own_cons_self, runAlone, own_cons_self, hanswer]
      have hrest := ih hnext hagree.content
      rw [Function.update_self] at hrest
      rw [hrest]
    · have hkept : ∀ key, (keysOf (config i)).Owns key → alone.content.find? key =
          (r.call.run (indexes j) { store with faults := r.faults }).2.content.find? key := by
        intro key hkey
        rw [hsame key hkey]
        exact (hconfined.frame { store with faults := r.faults }
          fun hother => hapart j hne key hkey hother).symm
      rw [own_cons_of_ne hne, own_cons_of_ne hne]
      have hrest := ih hnext hkept
      rw [Function.update_of_ne (Ne.symm hne)] at hrest
      exact hrest

theorem independent_of_apart
    (hapart : ∀ i j, j ≠ i → (keysOf (config i)).Apart (keysOf (config j))) : Independent config := by
  intro samples store indexes hopen i alone hagree
  refine ⟨?_, fun requests => runAlone_eq (hapart i) (fun j => (open_cases (hopen j)).2.1)
    hagree.content requests⟩
  exact ((open_confined (config i) (samples i)).same hagree).1.trans (hopen i)

theorem scan_eq_nil {content : Store} {lead : Bytes}
    (h : ∀ key, key.startsWith lead = true → content.find? key = none) : content.scan lead = [] := by
  refine List.eq_nil_iff_forall_not_mem.mpr fun e he => ?_
  obtain ⟨hlead, hfound⟩ := ByteMap.mem_scan_iff.mp he
  rw [h _ hlead] at hfound
  cases hfound

theorem open_blank {config : VectorConfig} {content : Store} (hvalid : config.validate = .ok ())
    (hcount : content.find? (keysOf config).count = none)
    (hentry : content.find? (keysOf config).entryPoint = none)
    (hneighbors : ∀ key, key.startsWith (keysOf config).neighborsLead = true → content.find? key = none)
    (samples : List Binary64) :
    VectorIndex.open config samples { content } = .ok { config, samples } := by
  have hkeys : (Draft.start config { content }).keys = keysOf config := rfl
  have hget : ∀ key, content.find? key = none →
      (Draft.start config { content }).get key = .ok none := by
    intro key hkey
    show Draft.ofStore (.ok (content.find? key)) = _
    rw [hkey]
    rfl
  have hread : (Draft.start config { content }).count = .ok 0 := by
    rw [Draft.count, hkeys, hget _ hcount]
    rfl
  have hscan : (Draft.start config { content }).adjacencyEntries = .ok 0 := by
    rw [Draft.adjacencyEntries, Draft.scan]
    show (Draft.ofStore (.ok (content.scan (keysOf config).neighborsLead)) >>= _) >>= _ = _
    rw [scan_eq_nil hneighbors]
    rfl
  have hnone : (Draft.start config { content }).entryPoint = .ok none := by
    rw [Draft.entryPoint, hkeys, hget _ hentry]
    rfl
  rw [VectorIndex.open, hvalid]
  simp only [hread, hscan, hnone]
  rfl

theorem neighbors?_isSome_of_foldlM {entries : List (Bytes × Bytes)} {total result : Nat}
    (h : entries.foldlM (fun (total : Nat) e => do
      let ids ← Draft.readable (.unreadableNeighborsAt e.1) (Record.neighbors? e.2)
      return total + ids.length) total = .ok result) :
    ∀ e ∈ entries, (Record.neighbors? e.2).isSome = true := by
  induction entries generalizing total with
  | nil => exact fun e he => absurd he List.not_mem_nil
  | cons first rest ih =>
    rw [List.foldlM_cons] at h
    obtain ⟨next, hfirst, hrest⟩ := exists_of_bind_ok h
    refine List.forall_mem_cons.mpr ⟨?_, ih hrest⟩
    obtain ⟨ids, hids, -⟩ := exists_of_bind_ok hfirst
    cases hread : Record.neighbors? first.2 with
    | none =>
      rw [hread] at hids
      cases hids
    | some ids => rfl

theorem open_unreadable {config : VectorConfig} {content : Store} {sync : Bool} {key value : Bytes}
    (hkey : key.startsWith (keysOf config).neighborsLead = true) (hfound : content.find? key = some value)
    (hvalue : Record.neighbors? value = none) (samples : List Binary64) (ix : VectorIndex) :
    VectorIndex.open config samples { content, lastSync := sync } ≠ .ok ix := by
  intro hopen
  rw [VectorIndex.open] at hopen
  split at hopen
  · cases hopen
  · obtain ⟨count, -, hcounted⟩ := exists_of_bind_ok hopen
    obtain ⟨entries, hentries, -⟩ := exists_of_bind_ok hcounted
    rw [Draft.adjacencyEntries] at hentries
    obtain ⟨stored, hstored, hcounted⟩ := exists_of_bind_ok hentries
    obtain rfl := Except.ok.inj hstored
    have hsome := neighbors?_isSome_of_foldlM hcounted (key, value)
      (ByteMap.mem_scan_iff.mpr ⟨hkey, hfound⟩)
    rw [hvalue] at hsome
    cases hsome

theorem checkVector_zeros (config : VectorConfig) :
    checkVector config (List.replicate config.dimension .zero) = .ok () := by
  rw [checkVector, if_neg (by simp)]
  have hfinite : (List.replicate config.dimension Binary64.zero).findIdx? (fun x => !x.isFinite) =
      none := by
    rw [List.findIdx?_eq_none_iff]
    intro x hx
    rw [List.eq_of_mem_replicate hx]
    rfl
  rw [hfinite]

def firstInsert (config : VectorConfig) : Call :=
  .insert .never "x" (List.replicate config.dimension .zero)

theorem exists_level_of_firstInsert {config : VectorConfig} {ix : VectorIndex} {content : Store}
    {samples : List Binary64} (hempty : ∀ key, key.startsWith (keysOf config).lead = true →
      content.find? key = none)
    (hopen : VectorIndex.open config samples { content } = .ok ix) :
    ∃ level ≤ maxLevel, ((firstInsert config).run ix { content }).2.content.find?
      ((keysOf config).node "x") = some (Record.level level) := by
  obtain ⟨rfl, hready⟩ := ready_of_open hempty hopen
  have hvalid : ix.validate "x" (List.replicate ix.config.dimension .zero) = .ok () := by
    rw [validate, show checkId "x" = .ok () from rfl]
    exact checkVector_zeros ix.config
  rw [firstInsert, Call.run]
  obtain ⟨store, hinsert, -, -, hnext⟩ := hready.insert_of_valid hvalid rfl
  have hmem : "x" ∈ ((Graph.empty ix.config.metric).insert ix.config "x"
      (List.replicate ix.config.dimension .zero) ix.nextLevel).ids :=
    (Graph.mem_ids_insert hready.holds.sound hready.accepted.buildBreadth.1).mpr (.inl rfl)
  refine ⟨_, hnext.holds.sound.fits.levels _ hmem, ?_⟩
  rw [hinsert]
  refine (hnext.holds.found (.node "x")).trans ?_
  rw [Graph.stored, if_pos hmem]

theorem Independent.answer (h : Independent config) {samples : ι → List Binary64} {content : Store}
    (hopen : ∀ m, VectorIndex.open (config m) (samples m) { content } = .ok (indexes m)) {j : ι}
    (hne : i ≠ j) (first probe : Call) :
    (probe.run (indexes j) { (first.run (indexes i) { content }).2 with faults := {} }).1.1 =
      (probe.run (indexes j) { content }).1.1 := by
  have hrun := (h samples { content } indexes hopen j { content } (.refl _ _)).2
    [(i, ⟨first, {}⟩), (j, ⟨probe, {}⟩)]
  rw [own_cons_of_ne hne, own_cons_self, runShared, runShared, own_cons_of_ne hne, own_cons_self,
    Function.update_of_ne hne.symm] at hrun
  exact (List.cons.inj (Prod.mk.inj hrun).1).1.symm

theorem neighbors?_level {level : Nat} (h : level ≤ maxLevel) :
    Record.neighbors? (Record.level level) = none := by
  have hword : level < 0x10000000000000000 := Nat.lt_of_le_of_lt h (by decide)
  have hplain : (Json.object [("level", Json.ofNat level)]).isPlain = true := by
    simp [Json.isPlain, Json.arePlainMembers, Record.isPlain_ofNat hword]
  rw [Record.neighbors?, Record.level, Record.decode?_encode _ hplain]
  rfl

theorem level_of_found {config : VectorConfig} {content : Store} {sync : Bool} {id : String} {level : Nat}
    (hlevel : level ≤ maxLevel)
    (hfound : content.find? ((keysOf config).node id) = some (Record.level level)) :
    (Draft.start config { content, lastSync := sync }).level id = .ok (some level) := by
  have hread : (Draft.start config { content, lastSync := sync }).get
      ((Draft.start config { content, lastSync := sync }).keys.node id) =
        .ok (some (Record.level level)) := by
    show Draft.ofStore (.ok (content.find? ((keysOf config).node id))) = _
    rw [hfound]
    rfl
  have hword : level < 0x10000000000000000 := Nat.lt_of_le_of_lt hlevel (by decide)
  rw [Draft.level, hread]
  simp only [bind, Except.bind, Record.level?_level hword]
  rfl

theorem vector_missing_iff {config : VectorConfig} {content : Store} {sync : Bool} {id : String} :
    (Draft.start config { content, lastSync := sync }).vector id =
        .error (.corrupted (.missingVector id)) ↔
      content.find? ((keysOf config).vector id) = none := by
  have hread : (Draft.start config { content, lastSync := sync }).get
      ((Draft.start config { content, lastSync := sync }).keys.vector id) =
        .ok (content.find? ((keysOf config).vector id)) := rfl
  rw [Draft.vector, hread]
  cases content.find? ((keysOf config).vector id) with
  | none => exact ⟨fun _ => rfl, fun _ => rfl⟩
  | some bytes =>
    refine ⟨fun h => ?_, fun h => by cases h⟩
    simp only [bind, Except.bind] at h
    split at h <;> cases h

section Nested

theorem eq_or_eq_of_ne : ∀ i j : Bool, i ≠ j → ∀ side, side = i ∨ side = j := by decide

variable {config : Bool → VectorConfig} {i j : Bool} {rest : String}

/-- Indexes as they are opened where they find nothing. -/
def blank (config : Bool → VectorConfig) (side : Bool) : VectorIndex :=
  { config := config side, samples := [] }

theorem open_empty (hvalid : ∀ side, (config side).validate = .ok ()) (side : Bool) :
    VectorIndex.open (config side) [] { content := ByteMap.empty } = .ok (blank config side) :=
  open_blank (hvalid side) rfl rfl (fun _ _ => rfl) []

theorem not_independent_of_meta (hvalid : ∀ side, (config side).validate = .ok ()) (hne : i ≠ j)
    (hnested : (config i).keyPrefix = (config j).keyPrefix ++ ("meta:" ++ rest)) :
    ¬Independent config := by
  intro h
  obtain ⟨level, hlevel, hfound⟩ := exists_level_of_firstInsert (fun _ _ => rfl) (open_empty hvalid i)
  have hanswer := h.answer (open_empty hvalid) hne (firstInsert (config i))
    (.contains (rest ++ "meta:" ++ "x"))
  have hkey : (keysOf (config i)).node "x" = (keysOf (config j)).node (rest ++ "meta:" ++ "x") := by
    simp [KeySpace.node, KeySpace.nodeLead, KeySpace.ofPrefix, hnested, Bytes.ofString_append]
  rw [hkey] at hfound
  have hcontains := Reply.contained.inj hanswer
  rw [contains] at hcontains
  rw [show (blank config j).config = config j from rfl, level_of_found hlevel hfound] at hcontains
  cases Except.ok.inj hcontains

/-- A prefix within the ids of neighbour lists: what one index writes is an unreadable list of the other,
which does not open any more. -/
theorem not_independent_of_neighbors (hvalid : ∀ side, (config side).validate = .ok ()) (hne : i ≠ j)
    (hnested : (config i).keyPrefix = (config j).keyPrefix ++ ("neighbors:" ++ rest)) :
    ¬Independent config := by
  intro h
  obtain ⟨level, hlevel, hfound⟩ := exists_level_of_firstInsert (fun _ _ => rfl) (open_empty hvalid i)
  have hanswer := h.answer (open_empty hvalid) hne (firstInsert (config i)) (.reopen [])
  have hkey : ((keysOf (config i)).node "x").startsWith (keysOf (config j)).neighborsLead = true := by
    rw [Bytes.startsWith_iff]
    simp [KeySpace.node, KeySpace.nodeLead, KeySpace.neighborsLead, KeySpace.ofPrefix, hnested,
      Bytes.ofString_append]
  have hreopened : (((.reopen [] : Call).run (blank config j) { content := ByteMap.empty }).1.1) =
      .reopened (.ok ()) := Call.run_reopen.mpr ⟨_, open_empty hvalid j⟩
  obtain ⟨next, hnext⟩ := Call.run_reopen.mp (hanswer.trans hreopened)
  exact open_unreadable hkey hfound (neighbors?_level hlevel) _ _ hnext

/-- A prefix within the ids of embeddings: what one index writes is an embedding of the other, which misses
it otherwise. -/
theorem not_independent_of_vector (hvalid : ∀ side, (config side).validate = .ok ()) (hne : i ≠ j)
    (hnested : (config i).keyPrefix = (config j).keyPrefix ++ ("vector:" ++ rest)) :
    ¬Independent config := by
  intro h
  let id := rest ++ "meta:" ++ "x"
  let content : Store := ByteMap.empty.insert ((keysOf (config j)).node id) (Record.level 0)
  have hlead : (keysOf (config i)).lead = (keysOf (config j)).vectorLead ++ Bytes.ofString rest := by
    simp [KeySpace.ofPrefix, KeySpace.vectorLead, hnested, Bytes.ofString_append]
  have hforeign : ¬((keysOf (config j)).node id).startsWith (keysOf (config i)).lead = true := by
    intro hstarts
    rw [Bytes.startsWith_iff, hlead] at hstarts
    have hvector := Bytes.startsWith_iff.mpr ((List.prefix_append _ _).trans hstarts)
    have hkind : ∃ other, GraphKey.node id = .vector other := startsWith_vectorLead_iff.mp hvector
    obtain ⟨other, hother⟩ := hkind
    cases hother
  have hblank : ∀ key, key ≠ (keysOf (config j)).node id → content.find? key = none := fun key hkey => by
    rw [ByteMap.find?_insert, if_neg hkey]
    rfl
  have hempty : ∀ key, key.startsWith (keysOf (config i)).lead = true → content.find? key = none :=
    fun key hkey => hblank key fun heq => hforeign (heq ▸ hkey)
  have hopen : ∀ side, VectorIndex.open (config side) [] { content } = .ok (blank config side) := by
    intro side
    rcases eq_or_eq_of_ne i j hne side with rfl | rfl
    · refine open_blank (hvalid _) (hempty _ (startsWith_lead _ .count))
        (hempty _ (startsWith_lead _ .entryPoint)) (fun key hkey => hempty key ?_) []
      exact Bytes.startsWith_iff.mpr ((List.prefix_append _ _).trans (Bytes.startsWith_iff.mp hkey))
    · refine open_blank (hvalid _) (hblank _ ?_) (hblank _ ?_) (fun key hkey => hblank key ?_) []
      · exact fun heq => GraphKey.noConfusion (bytes_inj (a := .count) (b := .node id) |>.mp heq)
      · exact fun heq =>
          GraphKey.noConfusion (bytes_inj (a := .entryPoint) (b := .node id) |>.mp heq)
      · rintro rfl
        have hkind : ∃ layer other, GraphKey.node id = .neighbors layer other :=
          startsWith_neighborsLead_iff.mp hkey
        obtain ⟨_, _, hother⟩ := hkind
        cases hother
  obtain ⟨level, hlevel, hfound⟩ := exists_level_of_firstInsert hempty (hopen i)
  have hanswer := h.answer hopen hne (firstInsert (config i)) (.get id)
  have hkey : (keysOf (config i)).node "x" = (keysOf (config j)).vector id := by
    simp [id, KeySpace.node, KeySpace.nodeLead, KeySpace.vector, KeySpace.ofPrefix, hnested,
      Bytes.ofString_append]
  have hown : ¬(keysOf (config i)).Owns ((keysOf (config j)).node id) := by
    intro hown
    obtain ⟨word, -, hword, -⟩ := hown.word
    exact hforeign (Bytes.startsWith_iff.mpr ((List.prefix_append _ _).trans hword))
  have hkept := (Call.run_confined (blank config i) (firstInsert (config i))).frame { content } hown
  rw [hkey] at hfound
  have hnode : content.find? ((keysOf (config j)).node id) = some (Record.level 0) := by
    rw [ByteMap.find?_insert, if_pos rfl]
  have hmissing : content.find? ((keysOf (config j)).vector id) = none := by
    refine hblank _ fun heq => ?_
    cases bytes_inj (a := .vector id) (b := .node id) |>.mp heq
  have hget := Reply.embedding.inj hanswer
  rw [VectorIndex.get, VectorIndex.get] at hget
  simp only [show (blank config j).config = config j from rfl,
    level_of_found (Nat.zero_le _) (hkept.trans hnode), level_of_found (Nat.zero_le _) hnode] at hget
  have hmissed := vector_missing_iff.mp (hget.trans (vector_missing_iff.mpr hmissing))
  rw [hfound] at hmissed
  cases hmissed

end Nested

/-- Two indexes with different prefixes over one store never influence each other exactly when neither
prefix goes on behind the other with one of the words that an id follows. -/
theorem independent_iff {config : Bool → VectorConfig} (hvalid : ∀ side, (config side).validate = .ok ())
    (hne : (config true).keyPrefix ≠ (config false).keyPrefix) :
    Independent config ↔ ∀ i j, i ≠ j → ¬NestedPrefix (config i).keyPrefix (config j).keyPrefix := by
  constructor
  · rintro h i j hij ⟨word, hword, rest, hnested⟩
    rw [String.append_assoc] at hnested
    rcases List.mem_cons.mp hword with rfl | hword
    · exact not_independent_of_vector hvalid hij hnested h
    · rcases List.mem_cons.mp hword with rfl | hword
      · exact not_independent_of_meta hvalid hij hnested h
      · obtain rfl := List.mem_singleton.mp hword
        exact not_independent_of_neighbors hvalid hij hnested h
  · refine fun h => independent_of_apart fun i j hji => ?_
    refine apart_of_not_nested (fun hkeys => ?_) ?_ ?_
    · have hsame := ofPrefix_injective hkeys
      cases i <;> cases j
      · exact hji rfl
      · exact hne hsame.symm
      · exact hne hsame
      · exact hji rfl
    · rw [nested_ofPrefix]
      exact h i j hji.symm
    · rw [nested_ofPrefix]
      exact h j i hji

/-- A prefix that another one begins with. -/
def besideConfig : Bool → VectorConfig
  | true => { dimension := 1, metric := .euclidean, keyPrefix := "v" }
  | false => { dimension := 1, metric := .euclidean, keyPrefix := "vector:" }

theorem independent_beside : Independent besideConfig := by
  have hvalid : ∀ side, (besideConfig side).validate = .ok () := fun side => by cases side <;> rfl
  exact (independent_iff hvalid (by decide)).mpr (by decide +kernel)

/-- A prefix that ends with one of the words behind another one. -/
def nestedConfig : Bool → VectorConfig
  | true => { dimension := 1, metric := .euclidean, keyPrefix := "p" }
  | false => { dimension := 1, metric := .euclidean, keyPrefix := "pvector:" }

/-- The embedding that one index stores for `meta:y` is the level of `y` to the other, which cannot tell any
more that it has no `y`. -/
theorem not_independent : ¬∀ config : Bool → VectorConfig, (∀ side, (config side).validate = .ok ()) →
    (config true).keyPrefix ≠ (config false).keyPrefix → Independent config := by
  intro h
  have hvalid : ∀ side, (nestedConfig side).validate = .ok () := fun side => by cases side <;> rfl
  have hanswer := (h nestedConfig hvalid (by decide)).answer (open_empty hvalid) (i := true) (j := false)
    (by decide) (.insert .never "meta:y" [Binary64.one]) (.delete "y")
  have hdeleted := congrArg Except.isOk (Reply.deleted.inj hanswer)
  revert hdeleted
  decide +kernel

end HybridSearch.VectorIndex

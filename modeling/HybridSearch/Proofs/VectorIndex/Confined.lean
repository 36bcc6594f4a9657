import HybridSearch.Proofs.VectorIndex.Ownership
import HybridSearch.Proofs.VectorIndex.Transaction

/-!
# The calls of an index are confined to its keys

Searching, linking and unlinking are made of reads and edits of single keys, so over two stores in which an
index finds the same they go alike. A call gives the same answer over both, leaves the same figures in memory
and writes the same batch, at keys of the index only.
-/
namespace HybridSearch

namespace Alike

variable {neighbors neighbors' : String → Except VectorError (List String)}
variable {distance distance' : String → Except VectorError Binary64}

theorem visit (hdistance : ∀ id, Alike Eq (distance id) (distance' id)) (breadth : Nat) (b : Beam)
    (id : String) : Alike Eq (Beam.visit distance breadth b id) (Beam.visit distance' breadth b id) := by
  rw [Beam.visit, Beam.visit]
  split
  · exact .ok rfl
  · exact (hdistance id).bind_eq fun x => .ok rfl

theorem expand (hneighbors : ∀ id, Alike Eq (neighbors id) (neighbors' id))
    (hdistance : ∀ id, Alike Eq (distance id) (distance' id)) (breadth : Nat) (b : Beam)
    (current : Candidate) :
    Alike Eq (Beam.expand neighbors distance breadth b current)
      (Beam.expand neighbors' distance' breadth b current) := by
  rw [Beam.expand, Beam.expand]
  refine (hneighbors current.id).bind_eq fun ids => Alike.foldlM (fun b b' id hb => ?_) ids rfl
  exact hb ▸ Alike.visit hdistance breadth b id

theorem run (hneighbors : ∀ id, Alike Eq (neighbors id) (neighbors' id))
    (hdistance : ∀ id, Alike Eq (distance id) (distance' id)) (breadth fuel : Nat) (b : Beam) :
    Alike Eq (Beam.run neighbors distance breadth fuel b)
      (Beam.run neighbors' distance' breadth fuel b) := by
  induction fuel generalizing b with
  | zero => exact .ok rfl
  | succ fuel ih =>
    rw [Beam.run, Beam.run]
    split
    · exact .ok rfl
    · split
      · exact .ok rfl
      · exact (Alike.expand hneighbors hdistance breadth _ _).bind_eq fun next => ih next

end Alike

namespace Draft.Twin

variable {k : KeySpace} {d d' : Draft}

theorem layerEntries (h : d.Twin k d') (layer : Nat) : d'.layerEntries layer = d.layerEntries layer := by
  have hscan : d'.store.content.scan (d.keys.layerLead layer) =
      d.store.content.scan (d.keys.layerLead layer) :=
    ByteMap.scan_congr fun key hkey => h.content (k.owns_of_layerLead (h.keys ▸ hkey))
  rw [Draft.layerEntries, Draft.layerEntries, h.keys_eq, h.pending_eq, ← h.keys, hscan]

theorem searchLayer (h : d.Twin k d') (query : Embedding) (entries : List Candidate)
    (breadth layer : Nat) : Alike Eq (d.searchLayer query entries breadth layer)
      (d'.searchLayer query entries breadth layer) := by
  rw [Draft.searchLayer, Draft.searchLayer, h.layerEntries]
  exact (Alike.run (h.neighbors layer) (h.distance query) _ _ _).bind_eq fun found => .ok rfl

theorem descend (h : d.Twin k d') (query : Embedding) (bottom top : Nat) (nearest : List Candidate) :
    Alike Eq (d.descend query bottom top nearest) (d'.descend query bottom top nearest) := by
  induction top generalizing nearest with
  | zero => exact .ok rfl
  | succ top ih =>
    rw [Draft.descend, Draft.descend]
    split
    · exact .ok rfl
    · exact (h.searchLayer query nearest 1 (top + 1)).bind_eq fun next => ih next

theorem neighborDistances (h : d.Twin k d') (id : String) (ids : List String) :
    Alike Eq (d.neighborDistances id ids) (d'.neighborDistances id ids) := by
  induction ids with
  | nil => exact .ok rfl
  | cons n rest ih =>
    rw [Draft.neighborDistances_cons, Draft.neighborDistances_cons]
    exact (h.distanceBetween id n).bind_eq fun x => ih.bind_eq fun candidates => .ok rfl

theorem dropExcess (h : d.Twin k d') (layer : Nat) (id : String) (excess : Nat)
    (victims : List Candidate) : Alike (Twin k) (Draft.dropExcess layer id excess victims d)
      (Draft.dropExcess layer id excess victims d') := by
  induction victims generalizing excess d d' with
  | nil =>
    cases excess with
    | zero => exact .ok h
    | succ excess => exact .ok h
  | cons victim rest ih =>
    cases excess with
    | zero => exact .ok h
    | succ excess =>
      rw [Draft.dropExcess, Draft.dropExcess]
      refine (h.neighbors layer victim.id).bind_eq fun ids => ?_
      split
      · exact (h.unlink layer id victim.id).bind fun _ _ hnext => ih hnext excess
      · exact ih h (excess + 1)

theorem shrink (h : d.Twin k d') (capacity layer : Nat) (id : String) :
    Alike (Twin k) (d.shrink capacity layer id) (d'.shrink capacity layer id) := by
  rw [Draft.shrink, Draft.shrink]
  refine (h.neighbors layer id).bind_eq fun ids => ?_
  split
  · exact .ok h
  · exact (h.neighborDistances id ids).bind_eq fun candidates => h.dropExcess layer id _ _

theorem connect (h : d.Twin k d') (capacity layer : Nat) (id neighbor : String) :
    Alike (Twin k) (Draft.connect capacity layer id d neighbor)
      (Draft.connect capacity layer id d' neighbor) := by
  rw [Draft.connect, Draft.connect]
  exact (h.link layer id neighbor).bind fun _ _ hlinked => hlinked.shrink capacity layer neighbor

def WithCandidates (k : KeySpace) (x y : Draft × List Candidate) : Prop := x.1.Twin k y.1 ∧ x.2 = y.2

theorem linkLayer (h : d.Twin k d') (config : VectorConfig) (id : String) (v : Embedding) (layer : Nat)
    (nearest : List Candidate) : Alike (WithCandidates k) (Draft.linkLayer config id v layer d nearest)
      (Draft.linkLayer config id v layer d' nearest) := by
  rw [Draft.linkLayer, Draft.linkLayer]
  refine (h.searchLayer v nearest config.buildBreadth layer).bind_eq fun candidates => ?_
  refine (Alike.foldlM (fun a b n hab => ?_) _ h).bind fun _ _ hlinked => .ok ⟨hlinked, rfl⟩
  exact hab.connect (config.capacity layer) layer id n

theorem linkLayers (h : d.Twin k d') (config : VectorConfig) (id : String) (v : Embedding)
    (layers : Nat) (nearest : List Candidate) :
    Alike (Twin k) (Draft.linkLayers config id v layers d nearest)
      (Draft.linkLayers config id v layers d' nearest) := by
  induction layers generalizing d d' nearest with
  | zero => exact .ok h
  | succ layer ih =>
    rw [Draft.linkLayers, Draft.linkLayers]
    refine (h.linkLayer config id v layer nearest).bind fun x y hxy => ?_
    obtain ⟨linked, candidates⟩ := x
    obtain ⟨linked', candidates'⟩ := y
    obtain ⟨hlinked, rfl⟩ := hxy
    exact ih hlinked candidates

theorem linkNode (h : d.Twin k d') (config : VectorConfig) (id : String) (v : Embedding) (level : Nat) :
    Alike (Twin k) (d.linkNode config id v level) (d'.linkNode config id v level) := by
  rw [Draft.linkNode, Draft.linkNode]
  refine h.entryPoint.bind_eq fun entry => (h.putNode id v level).bind fun _ _ hput => ?_
  cases entry with
  | none => exact .ok (hput.setEntryPoint _)
  | some entry =>
    refine (hput.distance v entry.id).bind_eq fun x => ?_
    refine (hput.descend v level entry.level _).bind_eq fun nearest => ?_
    refine (hput.linkLayers config id v _ nearest).bind fun _ _ hlinked => ?_
    split
    · exact .ok (hlinked.setEntryPoint _)
    · exact .ok hlinked

theorem nearestPeer (h : d.Twin k d') (capacity layer : Nat) (id : String)
    (current peers : List String) (best : Option Candidate) :
    Alike Eq (d.nearestPeer capacity layer id current peers best)
      (d'.nearestPeer capacity layer id current peers best) := by
  induction peers generalizing best with
  | nil => exact .ok rfl
  | cons peer rest ih =>
    rw [Draft.nearestPeer, Draft.nearestPeer]
    split
    · exact ih best
    · refine (h.neighbors layer peer).bind_eq fun ids => ?_
      split
      · exact ih best
      · exact (h.distanceBetween id peer).bind_eq fun x => ih _

theorem reconnect (h : d.Twin k d') (capacity layer : Nat) (former : List String) (id : String) :
    Alike (Twin k) (Draft.reconnect capacity layer former d id)
      (Draft.reconnect capacity layer former d' id) := by
  rw [Draft.reconnect, Draft.reconnect]
  refine (h.neighbors layer id).bind_eq fun current => ?_
  split
  · exact .ok h
  · refine (h.nearestPeer capacity layer id current former none).bind_eq fun found => ?_
    cases found with
    | none => exact .ok h
    | some peer => exact h.link layer id peer.id

theorem repair (h : d.Twin k d') (capacity layer : Nat) (former : List String) :
    Alike (Twin k) (d.repair capacity layer former) (d'.repair capacity layer former) := by
  rw [Draft.repair, Draft.repair]
  exact Alike.foldlM (fun a b id hab => hab.reconnect capacity layer former id) former h

theorem unlinkLayer (h : d.Twin k d') (config : VectorConfig) (id : String) (layer : Nat) :
    Alike (Twin k) (Draft.unlinkLayer config id d layer) (Draft.unlinkLayer config id d' layer) := by
  rw [Draft.unlinkLayer, Draft.unlinkLayer]
  refine (h.neighbors layer id).bind_eq fun former => ?_
  refine (Alike.foldlM (fun a b n hab => ?_) former h).bind fun _ _ hcut => ?_
  · exact hab.unlink layer id n
  · exact hcut.repair (config.capacity layer) layer former

/-- Twins, with the same answer whether the node was there. -/
def WithAnswer (k : KeySpace) (x y : Draft × Bool) : Prop := x.1.Twin k y.1 ∧ x.2 = y.2

theorem unlinkNode (h : d.Twin k d') (config : VectorConfig) (id : String) :
    Alike (WithAnswer k) (d.unlinkNode config id) (d'.unlinkNode config id) := by
  rw [Draft.unlinkNode, Draft.unlinkNode]
  refine (h.level id).bind_eq fun level => ?_
  cases level with
  | none => exact .ok ⟨h, rfl⟩
  | some level =>
    refine (Alike.foldlM (fun a b layer hab => ?_) (List.range (level + 1)) h).bind fun _ _ hcut => ?_
    · exact hab.unlinkLayer config id layer
    · refine (hcut.removeNode id).bind fun _ _ hremoved => ?_
      refine hremoved.entryPoint.bind_eq fun entry => ?_
      cases entry with
      | none => exact .ok ⟨hremoved, rfl⟩
      | some entry =>
        dsimp only
        split
        · exact hremoved.highestNode.bind_eq fun highest => .ok ⟨hremoved.setEntryPoint highest, rfl⟩
        · exact .ok ⟨hremoved, rfl⟩

end Draft.Twin

namespace StoreHandle

variable {k : KeySpace} {h h' : StoreHandle}

theorem Agree.refl (k : KeySpace) (h : StoreHandle) : h.Agree k h := ⟨rfl, fun _ _ => rfl⟩

theorem Agree.written (hagree : h.Agree k h') {batch : List Change} (hbatch : Ascending batch)
    (sync : Bool) : ({ h with content := h.content.write batch, lastSync := sync } : StoreHandle).Agree k
      { h' with content := h'.content.write batch, lastSync := sync } := by
  refine ⟨hagree.faults, fun key hkey => ?_⟩
  rw [Store.find?_write _ hbatch, Store.find?_write _ hbatch, hagree.content key hkey]

theorem find?_write_of_own {s : Store} {batch : List Change} (hbatch : Ascending batch)
    (hown : ∀ change ∈ batch, k.Owns change.1) {key : Bytes} (hkey : ¬k.Owns key) :
    (s.write batch).find? key = s.find? key := by
  have hnone : ByteMap.findIn key batch = none := by
    refine Option.eq_none_iff_forall_ne_some.mpr fun value hvalue => hkey ?_
    exact hown _ (ByteMap.mem_of_findIn hvalue)
  rw [Store.find?_write _ hbatch, hnone, Option.getD_none]

end StoreHandle

/-- The outcome of a call is the same over stores in which the index finds the same, and it finds the same
in them afterwards; keys of others stay as they are. -/
structure Confined {α : Type} (k : KeySpace) (call : StoreHandle → α × StoreHandle) : Prop where
  same : ∀ {h h' : StoreHandle}, h.Agree k h' →
    (call h').1 = (call h).1 ∧ (call h).2.Agree k (call h').2
  frame : ∀ (h : StoreHandle) {key : Bytes}, ¬k.Owns key →
    (call h).2.content.find? key = h.content.find? key

namespace Confined

variable {α γ : Type} {k : KeySpace}

theorem reading {read : StoreHandle → α}
    (hread : ∀ {h h' : StoreHandle}, h.Agree k h' → read h' = read h) :
    Confined k fun h => (read h, h) :=
  ⟨fun hagree => ⟨hread hagree, hagree⟩, fun _ _ _ => rfl⟩

theorem constant (k : KeySpace) (a : α) : Confined k fun h => (a, h) := reading fun _ => rfl

theorem of_eq {call call' : StoreHandle → α × StoreHandle} (hcall : Confined k call)
    (heq : ∀ h, call' h = call h) : Confined k call' :=
  funext heq ▸ hcall

theorem map {β : Type} {call : StoreHandle → α × StoreHandle} (hcall : Confined k call) (f : α → β) :
    Confined k fun h => (f (call h).1, (call h).2) :=
  ⟨fun hagree => ⟨congrArg f (hcall.same hagree).1, (hcall.same hagree).2⟩, hcall.frame⟩

theorem prepared {r : γ → γ → Prop} {prepare : StoreHandle → Except VectorError γ}
    {next : γ → StoreHandle → α × StoreHandle} (hr : ∀ {c c' : γ}, r c c' → c' = c)
    (hprepare : ∀ {h h' : StoreHandle}, h.Agree k h' → Alike r (prepare h) (prepare h'))
    (hnext : ∀ {c : γ}, r c c → Confined k (next c)) (failed : VectorError → α) :
    Confined k fun h => match prepare h with
      | .error e => (failed e, h)
      | .ok c => next c h := by
  refine ⟨fun {h h'} hagree => ?_, fun h key hkey => ?_⟩
  · have halike := hprepare hagree
    generalize prepare h = x at halike ⊢
    generalize prepare h' = y at halike ⊢
    cases halike with
    | error _ => exact ⟨rfl, hagree⟩
    | ok hc =>
      obtain rfl := hr hc
      exact (hnext hc).same hagree
  · have halike := hprepare (.refl k h)
    cases hprep : prepare h with
    | error e => rfl
    | ok c =>
      rw [hprep] at halike
      cases halike with
      | ok hc => exact (hnext hc).frame h hkey

end Confined

namespace VectorIndex

variable {config : VectorConfig} {store store' : StoreHandle}

abbrev keysOf (config : VectorConfig) : KeySpace := KeySpace.ofPrefix config.keyPrefix

theorem twin_start (h : store.Agree (keysOf config) store') :
    (Draft.start config store).Twin (keysOf config) (Draft.start config store') :=
  ⟨rfl, ⟨store', rfl, h⟩, fun _ hc => absurd hc List.not_mem_nil⟩

/-- The same commit, with changes at keys of the index only. -/
structure OwnCommit (k : KeySpace) (c c' : Commit) : Prop where
  eq : c' = c
  ascending : Ascending c.batch
  own : ∀ change ∈ c.batch, k.Owns change.1

theorem commitOf_alike {k : KeySpace} {d d' : Draft} (h : d.Twin k d') :
    Alike (OwnCommit k) (commitOf d) (commitOf d') := by
  rw [commitOf, commitOf]
  refine h.entryPoint.bind_eq fun entry => .ok ⟨?_, d.pending.ascending, h.own⟩
  rw [Draft.batch, Draft.batch, h.pending_eq, h.changes_eq.1, h.changes_eq.2]

theorem prepareInsert_alike (h : store.Agree (keysOf config) store') (id : String) (v : Embedding)
    (level : Nat) : Alike (OwnCommit (keysOf config)) (prepareInsert config store id v level)
      (prepareInsert config store' id v level) := by
  rw [prepareInsert, prepareInsert]
  refine ((twin_start h).unlinkNode config id).bind fun x y hxy => ?_
  exact (hxy.1.linkNode config id v level).bind fun _ _ hlinked => commitOf_alike hlinked

def OwnCommit? (k : KeySpace) : Option Commit → Option Commit → Prop
  | none, none => True
  | some c, some c' => OwnCommit k c c'
  | _, _ => False

theorem OwnCommit?.eq {k : KeySpace} {c c' : Option Commit} (h : OwnCommit? k c c') : c' = c := by
  cases c <;> cases c'
  · rfl
  · exact h.elim
  · exact h.elim
  · exact congrArg some (OwnCommit.eq h)

theorem prepareDelete_alike (h : store.Agree (keysOf config) store') (id : String) :
    Alike (OwnCommit? (keysOf config)) (prepareDelete config store id)
      (prepareDelete config store' id) := by
  rw [prepareDelete, prepareDelete]
  refine ((twin_start h).unlinkNode config id).bind fun x y hxy => ?_
  obtain ⟨d, removed⟩ := x
  obtain ⟨d', removed'⟩ := y
  obtain ⟨htwin, rfl⟩ := hxy
  cases removed with
  | false => exact .ok trivial
  | true => exact (commitOf_alike htwin).bind fun _ _ hcommit => .ok hcommit

theorem commit_confined {α : Type} {k : KeySpace} {c : Commit} (hc : OwnCommit k c c)
    (ix : VectorIndex) (failed : VectorError → α) (done : VectorIndex → α) :
    Confined k fun h => match ix.commit h c with
      | .error e => (failed e, h)
      | .ok (next, h) => (done next, h) := by
  refine ⟨fun {h h'} hagree => ?_, fun h key hkey => ?_⟩
  · cases hfault : h.faults.write with
    | some fault =>
      simp only [commit, StoreHandle.write, hagree.faults, hfault]
      exact ⟨trivial, hagree⟩
    | none =>
      simp only [commit, StoreHandle.write, hagree.faults, hfault]
      exact ⟨trivial, hagree.faults ▸ hagree.written hc.ascending _⟩
  · cases hfault : h.faults.write with
    | some fault => simp only [commit, StoreHandle.write, hfault]
    | none =>
      simp only [commit, StoreHandle.write, hfault]
      exact StoreHandle.find?_write_of_own hc.ascending hc.own hkey

/-- What a caller sees and the index afterwards, beside the store. -/
def Outcome.parts {α : Type} (o : Outcome α) : (Except VectorError α × VectorIndex) × StoreHandle :=
  ((o.result, o.index), o.store)

theorem commitInsert_confined {k : KeySpace} {c : Commit} (hc : OwnCommit k c c) (ix : VectorIndex) :
    Confined k fun h => (ix.commitInsert h c).parts := by
  refine (commit_confined hc ix (fun e => (Except.error e, ix))
    fun next => (.ok (), { next with inserts := next.inserts + 1 })).of_eq fun h => ?_
  rw [commitInsert]
  cases ix.commit h c <;> rfl

theorem commitDelete_confined {k : KeySpace} {c : Commit} (hc : OwnCommit k c c) (ix : VectorIndex) :
    Confined k fun h => (ix.commitDelete h c).parts := by
  refine (commit_confined hc ix (fun e => (Except.error e, ix))
    fun next => (.ok true, { next with deletes := next.deletes + 1 })).of_eq fun h => ?_
  rw [commitDelete]
  cases ix.commit h c <;> rfl

theorem commitInsert_config (ix : VectorIndex) (store : StoreHandle) (c : Commit) :
    (ix.commitInsert store c).index.config = ix.config := by
  rw [commitInsert, commit, StoreHandle.write]
  cases store.faults.write <;> rfl

theorem commitDelete_config (ix : VectorIndex) (store : StoreHandle) (c : Commit) :
    (ix.commitDelete store c).index.config = ix.config := by
  rw [commitDelete, commit, StoreHandle.write]
  cases store.faults.write <;> rfl

theorem commitInsert_isInternal {ix : VectorIndex} {store : StoreHandle} {c : Commit} {e : VectorError}
    (h : (ix.commitInsert store c).result = .error e) : e.IsInternal := by
  rw [commitInsert, commit, StoreHandle.write] at h
  cases hfault : store.faults.write with
  | some fault =>
    rw [hfault] at h
    exact Except.error.inj h ▸ trivial
  | none =>
    rw [hfault] at h
    cases h

theorem commitDelete_isInternal {ix : VectorIndex} {store : StoreHandle} {c : Commit} {e : VectorError}
    (h : (ix.commitDelete store c).result = .error e) : e.IsInternal := by
  rw [commitDelete, commit, StoreHandle.write] at h
  cases hfault : store.faults.write with
  | some fault =>
    rw [hfault] at h
    exact Except.error.inj h ▸ trivial
  | none =>
    rw [hfault] at h
    cases h

theorem insert_confined (ix : VectorIndex) (cancel : Cancellation) (id : String) (v : Embedding) :
    Confined (keysOf ix.config) fun h => (ix.insert h cancel id v).parts := by
  cases hvalid : ix.validate id v with
  | error e =>
    refine (Confined.constant _ (Except.error e, ix)).of_eq fun h => ?_
    rw [VectorIndex.insert, hvalid]
    rfl
  | ok u =>
    by_cases hcancel : cancel = .before
    · refine (Confined.constant _ (Except.error .cancelled, ix)).of_eq fun h => ?_
      simp only [VectorIndex.insert, hvalid, if_pos hcancel]
      rfl
    by_cases hwaiting : cancel = .duringInsert
    · refine (Confined.constant _ (Except.error .cancelled, ix.dropSample)).of_eq fun h => ?_
      simp only [VectorIndex.insert, hvalid, if_neg hcancel, if_pos hwaiting]
      rfl
    · refine (Confined.prepared OwnCommit.eq
        (fun hagree => prepareInsert_alike hagree id v ix.nextLevel)
        (fun hc => commitInsert_confined hc ix.dropSample)
        fun e => (Except.error e, ix.dropSample)).of_eq fun h => ?_
      simp only [VectorIndex.insert, hvalid, if_neg hcancel, if_neg hwaiting]
      cases prepareInsert ix.config h id v ix.nextLevel <;> rfl

theorem delete_confined (ix : VectorIndex) (id : String) :
    Confined (keysOf ix.config) fun h => (ix.delete h id).parts := by
  cases hid : checkId id with
  | error fault =>
    refine (Confined.constant _ (Except.error (.invalidId fault), ix)).of_eq fun h => ?_
    rw [VectorIndex.delete, hid]
    rfl
  | ok u =>
    have hnext : ∀ {c : Option Commit}, OwnCommit? (keysOf ix.config) c c →
        Confined (keysOf ix.config) fun h => match c with
          | none => ((Except.ok false, ix), h)
          | some c => (ix.commitDelete h c).parts := by
      intro c hc
      cases c with
      | none => exact .constant _ _
      | some c => exact commitDelete_confined hc ix
    refine (Confined.prepared OwnCommit?.eq (fun hagree => prepareDelete_alike hagree id) hnext
      fun e => (Except.error e, ix)).of_eq fun h => ?_
    simp only [VectorIndex.delete, hid]
    cases hprepared : prepareDelete ix.config h id with
    | error e => rfl
    | ok c => cases c <;> rfl

theorem nearest_congr {k : KeySpace} {d d' : Draft} (h : d.Twin k d') (query : Embedding) (n : Nat)
    (entry : EntryPoint) (x : Binary64) :
    nearest config d' query n entry x = nearest config d query n entry x := by
  have halike : Alike Eq (nearest config d query n entry x) (nearest config d' query n entry x) := by
    rw [nearest, nearest]
    refine (h.descend query 0 entry.level _).bind_eq fun closest => ?_
    exact (h.searchLayer query closest _ 0).bind_eq fun found => .ok rfl
  exact halike.eq.symm

theorem lookUp_congr (h : store.Agree (keysOf config) store') (cancel : Cancellation)
    (query : Embedding) (n : Nat) :
    lookUp config store' cancel query n = lookUp config store cancel query n := by
  have hstart := twin_start h
  have hdistance : ∀ id, (Draft.start config store').distance query id =
      (Draft.start config store).distance query id := fun id => (hstart.distance query id).eq.symm
  simp only [lookUp, ← hstart.entryPoint.eq, hdistance, nearest_congr hstart]

theorem search_confined (ix : VectorIndex) (cancel : Cancellation) (query : Embedding) (n : Nat) :
    Confined (keysOf ix.config) fun h => (ix.search h cancel query n, h) :=
  .reading fun hagree => by rw [VectorIndex.search, lookUp_congr hagree, VectorIndex.search]

theorem get_confined (ix : VectorIndex) (id : String) :
    Confined (keysOf ix.config) fun h => (ix.get h id, h) := by
  refine .reading fun {h h'} hagree => ?_
  have hstart := twin_start hagree
  simp only [VectorIndex.get, ← (hstart.level id).eq, ← (hstart.vector id).eq]

theorem contains_confined (ix : VectorIndex) (id : String) :
    Confined (keysOf ix.config) fun h => (ix.contains h id, h) := by
  refine .reading fun {h h'} hagree => ?_
  simp only [VectorIndex.contains, ← ((twin_start hagree).level id).eq]

theorem open_confined (config : VectorConfig) (samples : List Binary64) :
    Confined (keysOf config) fun h => (VectorIndex.open config samples h, h) := by
  refine .reading fun {h h'} hagree => ?_
  have hstart := twin_start hagree
  simp only [VectorIndex.open, ← hstart.count.eq, ← hstart.adjacencyEntries.eq, ← hstart.entryPoint.eq]

end VectorIndex

end HybridSearch

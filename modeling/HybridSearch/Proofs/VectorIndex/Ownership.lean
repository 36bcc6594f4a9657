import HybridSearch.Proofs.VectorIndex.Key
import HybridSearch.VectorIndex.Index

/-!
# What an index reads and writes

An index looks at the keys that it owns and at no others: those of its embeddings, of its levels and of its
neighbour lists, its entry point and its count. Over stores that agree on these keys every operation on a
draft gives the same, and what it leaves pending is at these keys too. When an operation fails, it is the
store that fails or something in it that cannot be read.
-/
namespace HybridSearch

/-- The store failed or holds something that cannot be read. -/
def VectorError.IsInternal : VectorError → Prop
  | .storage _ => True
  | .corrupted _ => True
  | _ => False

/-- Two computations end alike: with related values, or with one internal error. -/
inductive Alike {α β : Type} (r : α → β → Prop) : Except VectorError α → Except VectorError β → Prop
  | ok {a : α} {b : β} (h : r a b) : Alike r (.ok a) (.ok b)
  | error {e : VectorError} (h : e.IsInternal) : Alike r (.error e) (.error e)

namespace Alike

variable {α β γ δ : Type} {r : α → β → Prop} {s : γ → δ → Prop}

theorem bind {x : Except VectorError α} {y : Except VectorError β} {f : α → Except VectorError γ}
    {g : β → Except VectorError δ} (h : Alike r x y) (hnext : ∀ a b, r a b → Alike s (f a) (g b)) :
    Alike s (x >>= f) (y >>= g) := by
  cases h with
  | ok hab => exact hnext _ _ hab
  | error he => exact .error he

theorem bind_eq {x y : Except VectorError α} {f : α → Except VectorError γ}
    {g : α → Except VectorError δ} (h : Alike Eq x y) (hnext : ∀ a, Alike s (f a) (g a)) :
    Alike s (x >>= f) (y >>= g) :=
  h.bind fun a _ hab => hab ▸ hnext a

theorem foldlM {f : α → γ → Except VectorError α} {g : β → γ → Except VectorError β}
    (hstep : ∀ a b x, r a b → Alike r (f a x) (g b x)) (xs : List γ) {a : α} {b : β} (h : r a b) :
    Alike r (xs.foldlM f a) (xs.foldlM g b) := by
  induction xs generalizing a b with
  | nil => exact .ok h
  | cons x xs ih =>
    rw [List.foldlM_cons, List.foldlM_cons]
    exact (hstep a b x h).bind fun _ _ hab => ih hab

theorem eq {x y : Except VectorError α} (h : Alike Eq x y) : x = y := by
  cases h with
  | ok hab => rw [hab]
  | error _ => rfl

theorem isInternal {x : Except VectorError α} {y : Except VectorError β} (h : Alike r x y)
    {e : VectorError} (he : x = .error e) : e.IsInternal := by
  cases h with
  | ok _ => cases he
  | error hinternal => exact Except.error.inj he ▸ hinternal

theorem readable (cause : Corruption) (x : Option α) :
    Alike Eq (Draft.readable cause x) (Draft.readable cause x) := by
  cases x with
  | none => exact .error trivial
  | some a => exact .ok rfl

theorem ofStore (x : Except StoreFault α) : Alike Eq (Draft.ofStore x) (Draft.ofStore x) := by
  cases x with
  | error fault => exact .error trivial
  | ok a => exact .ok rfl

end Alike

namespace KeySpace

def Owns (k : KeySpace) (key : Bytes) : Prop :=
  key.startsWith k.vectorLead = true ∨ key.startsWith k.nodeLead = true ∨
    key.startsWith k.neighborsLead = true ∨ key = k.entryPoint ∨ key = k.count

variable (k : KeySpace)

theorem owns_vector (id : String) : k.Owns (k.vector id) := by
  have hlead : (k.bytes (.vector id)).startsWith k.vectorLead = true :=
    startsWith_vectorLead_iff.mpr ⟨id, rfl⟩
  exact .inl hlead

theorem owns_node (id : String) : k.Owns (k.node id) := .inr (.inl (Bytes.startsWith_append _ _))

theorem owns_neighbors (layer : Nat) (id : String) : k.Owns (k.neighbors layer id) := by
  have hlead : (k.bytes (.neighbors layer id)).startsWith k.neighborsLead = true :=
    startsWith_neighborsLead_iff.mpr ⟨layer, id, rfl⟩
  exact .inr (.inr (.inl hlead))

theorem owns_entryPoint : k.Owns k.entryPoint := .inr (.inr (.inr (.inl rfl)))

theorem owns_count : k.Owns k.count := .inr (.inr (.inr (.inr rfl)))

theorem owns_of_nodeLead {key : Bytes} (h : key.startsWith k.nodeLead = true) : k.Owns key :=
  .inr (.inl h)

theorem owns_of_neighborsLead {key : Bytes} (h : key.startsWith k.neighborsLead = true) : k.Owns key :=
  .inr (.inr (.inl h))

theorem owns_of_layerLead {layer : Nat} {key : Bytes} (h : key.startsWith (k.layerLead layer) = true) :
    k.Owns key := by
  refine k.owns_of_neighborsLead ?_
  rw [Bytes.startsWith_iff, layerLead, List.append_assoc] at h
  exact Bytes.startsWith_iff.mpr ((List.prefix_append _ _).trans h)

end KeySpace

theorem ByteMap.scan_congr {α : Type} {m n : ByteMap α} {lead : Bytes}
    (h : ∀ key, key.startsWith lead = true → m.find? key = n.find? key) : m.scan lead = n.scan lead := by
  refine entries_ext (ascending_scan m lead) (ascending_scan n lead) fun e => ?_
  rw [mem_scan_iff, mem_scan_iff]
  exact and_congr_right fun hlead => by rw [h _ hlead]

/-- An index finds the same in two stores. -/
structure StoreHandle.Agree (k : KeySpace) (h h' : StoreHandle) : Prop where
  faults : h'.faults = h.faults
  content : ∀ key, k.Owns key → h'.content.find? key = h.content.find? key

namespace Draft

def onStore (d : Draft) (store : StoreHandle) : Draft := { d with store }

/-- Two drafts of an index differ at most in their stores, in which the index finds the same, and what is
pending is at keys of the index. -/
structure Twin (k : KeySpace) (d d' : Draft) : Prop where
  keys : d.keys = k
  stores : ∃ store, d' = d.onStore store ∧ d.store.Agree k store
  own : ∀ c ∈ d.pending.entries, k.Owns c.1

namespace Twin

variable {k : KeySpace} {d d' : Draft}

theorem get (h : d.Twin k d') {key : Bytes} (hkey : k.Owns key) :
    Alike Eq (d.get key) (d'.get key) := by
  obtain ⟨-, ⟨store, rfl, hagree⟩, -⟩ := h
  have hread : store.get key = d.store.get key := by
    rw [StoreHandle.get, StoreHandle.get, hagree.faults, hagree.content key hkey]
  rw [Draft.get, Draft.get, show (d.onStore store).store = store from rfl, hread,
    show (d.onStore store).pending = d.pending from rfl]
  cases d.pending.find? key with
  | none => exact .ofStore _
  | some value => exact .ok rfl

theorem pending (h : d.Twin k d') {key : Bytes} (hkey : k.Owns key) (value : Option Bytes) :
    Twin k { d with pending := d.pending.insert key value }
      { d' with pending := d'.pending.insert key value } := by
  obtain ⟨hkeys, ⟨store, rfl, hagree⟩, hown⟩ := h
  refine ⟨hkeys, ⟨store, rfl, hagree⟩, fun c hc => ?_⟩
  rcases ByteMap.key_of_mem_insertIn hc with hnew | hold
  · exact hnew ▸ hkey
  · exact hown c hold

theorem put (h : d.Twin k d') {key : Bytes} (hkey : k.Owns key) (value : Bytes) :
    (d.put key value).Twin k (d'.put key value) := h.pending hkey (some value)

theorem delete (h : d.Twin k d') {key : Bytes} (hkey : k.Owns key) :
    (d.delete key).Twin k (d'.delete key) := h.pending hkey none

theorem withChanges (h : d.Twin k d') (adjacency count : Int) :
    Twin k { d with adjacencyChange := adjacency, countChange := count }
      { d' with adjacencyChange := adjacency, countChange := count } := by
  obtain ⟨hkeys, ⟨store, rfl, hagree⟩, hown⟩ := h
  exact ⟨hkeys, ⟨store, rfl, hagree⟩, hown⟩

theorem keys_eq (h : d.Twin k d') : d'.keys = k := by
  obtain ⟨hkeys, ⟨store, rfl, -⟩, -⟩ := h
  exact hkeys

theorem dimension_eq (h : d.Twin k d') : d'.dimension = d.dimension := by
  obtain ⟨-, ⟨store, rfl, -⟩, -⟩ := h
  rfl

theorem metric_eq (h : d.Twin k d') : d'.metric = d.metric := by
  obtain ⟨-, ⟨store, rfl, -⟩, -⟩ := h
  rfl

theorem pending_eq (h : d.Twin k d') : d'.pending = d.pending := by
  obtain ⟨-, ⟨store, rfl, -⟩, -⟩ := h
  rfl

theorem changes_eq (h : d.Twin k d') :
    d'.adjacencyChange = d.adjacencyChange ∧ d'.countChange = d.countChange := by
  obtain ⟨-, ⟨store, rfl, -⟩, -⟩ := h
  exact ⟨rfl, rfl⟩

theorem content (h : d.Twin k d') {key : Bytes} (hkey : k.Owns key) :
    d'.store.content.find? key = d.store.content.find? key := by
  obtain ⟨-, ⟨store, rfl, hagree⟩, -⟩ := h
  exact hagree.content key hkey

theorem scan (h : d.Twin k d') {lead : Bytes}
    (hlead : ∀ key, key.startsWith lead = true → k.Owns key) :
    Alike Eq (d.scan lead) (d'.scan lead) := by
  obtain ⟨-, ⟨store, rfl, hagree⟩, -⟩ := h
  have hscan : store.scan lead = d.store.scan lead := by
    rw [StoreHandle.scan, StoreHandle.scan, hagree.faults,
      ByteMap.scan_congr fun key hkey => hagree.content key (hlead key hkey)]
  rw [Draft.scan, Draft.scan]
  show Alike Eq _ (ofStore (store.scan lead) >>= fun stored =>
    pure ((d.pending.scan lead).foldl overlay stored))
  rw [hscan]
  exact (Alike.ofStore _).bind_eq fun stored => .ok rfl

theorem level (h : d.Twin k d') (id : String) : Alike Eq (d.level id) (d'.level id) := by
  rw [Draft.level, Draft.level, h.keys, h.keys_eq]
  refine (h.get (k.owns_node id)).bind_eq fun found => ?_
  cases found with
  | none => exact .ok rfl
  | some bytes => exact (Alike.readable _ _).bind_eq fun level => .ok rfl

theorem vector (h : d.Twin k d') (id : String) : Alike Eq (d.vector id) (d'.vector id) := by
  rw [Draft.vector, Draft.vector, h.keys, h.keys_eq, h.dimension_eq]
  refine (h.get (k.owns_vector id)).bind_eq fun found => ?_
  cases found with
  | none => exact .error trivial
  | some bytes =>
    dsimp only
    split
    · exact .ok rfl
    · exact .error trivial

theorem distance (h : d.Twin k d') (query : Embedding) (id : String) :
    Alike Eq (d.distance query id) (d'.distance query id) := by
  rw [Draft.distance, Draft.distance, h.metric_eq]
  exact (h.vector id).bind_eq fun v => .ok rfl

theorem distanceBetween (h : d.Twin k d') (a b : String) :
    Alike Eq (d.distanceBetween a b) (d'.distanceBetween a b) := by
  rw [Draft.distanceBetween, Draft.distanceBetween]
  exact (h.vector a).bind_eq fun v => h.distance v b

theorem count (h : d.Twin k d') : Alike Eq d.count d'.count := by
  rw [Draft.count, Draft.count, h.keys, h.keys_eq]
  refine (h.get k.owns_count).bind_eq fun found => ?_
  cases found with
  | none => exact .ok rfl
  | some bytes => exact .readable _ _

theorem neighbors (h : d.Twin k d') (layer : Nat) (id : String) :
    Alike Eq (d.neighbors layer id) (d'.neighbors layer id) := by
  rw [Draft.neighbors, Draft.neighbors, h.keys, h.keys_eq]
  refine (h.get (k.owns_neighbors layer id)).bind_eq fun found => ?_
  cases found with
  | none => exact .ok rfl
  | some bytes => exact .readable _ _

theorem entryPoint (h : d.Twin k d') : Alike Eq d.entryPoint d'.entryPoint := by
  rw [Draft.entryPoint, Draft.entryPoint, h.keys, h.keys_eq]
  refine (h.get k.owns_entryPoint).bind_eq fun found => ?_
  cases found with
  | none => exact .ok rfl
  | some bytes => exact (Alike.readable _ _).bind_eq fun entry => .ok rfl

theorem highestNode (h : d.Twin k d') : Alike Eq d.highestNode d'.highestNode := by
  rw [Draft.highestNode, Draft.highestNode, h.keys, h.keys_eq]
  refine (h.scan fun key hkey => k.owns_of_nodeLead hkey).bind_eq fun entries => ?_
  refine Alike.foldlM (fun best best' e hbest => ?_) entries rfl
  subst hbest
  split
  · exact .ok rfl
  · exact (Alike.readable _ _).bind_eq fun level => .ok rfl

theorem adjacencyEntries (h : d.Twin k d') : Alike Eq d.adjacencyEntries d'.adjacencyEntries := by
  rw [Draft.adjacencyEntries, Draft.adjacencyEntries, h.keys, h.keys_eq]
  refine (h.scan fun key hkey => k.owns_of_neighborsLead hkey).bind_eq fun entries => ?_
  refine Alike.foldlM (fun total total' e htotal => ?_) entries rfl
  subst htotal
  exact (Alike.readable _ _).bind_eq fun ids => .ok rfl

theorem adjustCount (h : d.Twin k d') (change : Int) :
    Alike (Twin k) (d.adjustCount change) (d'.adjustCount change) := by
  rw [Draft.adjustCount, Draft.adjustCount]
  refine h.count.bind_eq fun n => .ok ?_
  rw [h.keys, h.keys_eq, h.changes_eq.2]
  have hput := h.put k.owns_count (Record.count (signedWord (signedWord n + change)).toNat)
  have hmoved := hput.withChanges d.adjacencyChange (d.countChange + change)
  obtain ⟨-, ⟨store, rfl, -⟩, -⟩ := h
  exact hmoved

theorem putNode (h : d.Twin k d') (id : String) (v : Embedding) (level : Nat) :
    Alike (Twin k) (d.putNode id v level) (d'.putNode id v level) := by
  rw [Draft.putNode, Draft.putNode, h.keys, h.keys_eq]
  exact ((h.put (k.owns_vector id) _).put (k.owns_node id) _).adjustCount 1

theorem removeNode (h : d.Twin k d') (id : String) :
    Alike (Twin k) (d.removeNode id) (d'.removeNode id) := by
  rw [Draft.removeNode, Draft.removeNode, h.keys, h.keys_eq]
  exact ((h.delete (k.owns_vector id)).delete (k.owns_node id)).adjustCount (-1)

theorem setEntryPoint (h : d.Twin k d') (e : Option EntryPoint) :
    (d.setEntryPoint e).Twin k (d'.setEntryPoint e) := by
  cases e with
  | none =>
    rw [Draft.setEntryPoint, Draft.setEntryPoint, h.keys, h.keys_eq]
    exact h.delete k.owns_entryPoint
  | some e =>
    rw [Draft.setEntryPoint, Draft.setEntryPoint, h.keys, h.keys_eq]
    exact h.put k.owns_entryPoint _

theorem setNeighbors (h : d.Twin k d') (layer : Nat) (id : String) (ids : List String) :
    Alike (Twin k) (d.setNeighbors layer id ids) (d'.setNeighbors layer id ids) := by
  rw [Draft.setNeighbors, Draft.setNeighbors]
  refine (h.neighbors layer id).bind_eq fun before => .ok ?_
  rw [h.keys, h.keys_eq]
  have hkey := k.owns_neighbors layer id
  have hdeleted := (h.delete hkey).withChanges
    (d.adjacencyChange + ((ids.length : Int) - before.length)) d.countChange
  have hput := (h.put hkey (Record.neighbors ids)).withChanges
    (d.adjacencyChange + ((ids.length : Int) - before.length)) d.countChange
  obtain ⟨-, ⟨store, rfl, -⟩, -⟩ := h
  split
  · exact hdeleted
  · exact hput

theorem addNeighbor (h : d.Twin k d') (layer : Nat) (a b : String) :
    Alike (Twin k) (d.addNeighbor layer a b) (d'.addNeighbor layer a b) := by
  rw [Draft.addNeighbor, Draft.addNeighbor]
  refine (h.neighbors layer a).bind_eq fun ids => ?_
  split
  · exact .ok h
  · exact h.setNeighbors layer a _

theorem dropNeighbor (h : d.Twin k d') (layer : Nat) (a b : String) :
    Alike (Twin k) (d.dropNeighbor layer a b) (d'.dropNeighbor layer a b) := by
  rw [Draft.dropNeighbor, Draft.dropNeighbor]
  refine (h.neighbors layer a).bind_eq fun ids => ?_
  dsimp only
  split
  · exact .ok h
  · exact h.setNeighbors layer a _

theorem link (h : d.Twin k d') (layer : Nat) (a b : String) :
    Alike (Twin k) (d.link layer a b) (d'.link layer a b) := by
  rw [Draft.link, Draft.link]
  exact (h.addNeighbor layer a b).bind fun _ _ hadded => hadded.addNeighbor layer b a

theorem unlink (h : d.Twin k d') (layer : Nat) (a b : String) :
    Alike (Twin k) (d.unlink layer a b) (d'.unlink layer a b) := by
  rw [Draft.unlink, Draft.unlink]
  exact (h.dropNeighbor layer a b).bind fun _ _ hdropped => hdropped.dropNeighbor layer b a

end Twin

end Draft

end HybridSearch

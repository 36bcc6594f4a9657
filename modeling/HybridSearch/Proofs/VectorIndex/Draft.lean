import HybridSearch.Proofs.VectorIndex.Sound

/-!
# What drafts show

A draft shows a graph when its keys, pending changes over the stored ones, look up what the graph stores
and nothing else. Reading the draft then gives what the graph says, and each operation on the draft
succeeds and shows what the same operation makes of the graph.
-/
namespace HybridSearch

namespace Graph

def stored (g : Graph) : GraphKey → Option Bytes
  | .vector id => if id ∈ g.ids then some (Embedding.encode (g.vector id)) else none
  | .node id => if id ∈ g.ids then some (Record.level (g.level id)) else none
  | .neighbors layer id =>
    if g.neighbors layer id = [] then none else some (Record.neighbors (g.neighbors layer id))
  | .entryPoint => g.entry.map Record.entryPoint
  | .count => g.count.map Record.count

end Graph

namespace Draft

def peek (d : Draft) (key : Bytes) : Option Bytes :=
  (d.pending.find? key).getD (d.store.content.find? key)

theorem peek_put (d : Draft) (key other value : Bytes) :
    (d.put key value).peek other = if other = key then some value else d.peek other := by
  rw [peek, put, ByteMap.find?_insert]
  split
  · rfl
  · rfl

theorem peek_delete (d : Draft) (key other : Bytes) :
    (d.delete key).peek other = if other = key then none else d.peek other := by
  rw [peek, delete, ByteMap.find?_insert]
  split
  · rfl
  · rfl

theorem get_eq (d : Draft) (h : d.store.faults.get = none) (key : Bytes) :
    d.get key = .ok (d.peek key) := by
  rw [get, peek, StoreHandle.get, h]
  cases d.pending.find? key <;> rfl

theorem find?_write_batch (d : Draft) (key : Bytes) :
    (d.store.content.write d.batch).find? key = d.peek key :=
  Store.find?_write _ d.pending.ascending key

/-- A draft shows a graph under the settings of an index. -/
structure Shows (config : VectorConfig) (store : StoreHandle) (d : Draft) (g : Graph) : Prop where
  store_eq : d.store = store
  gettable : store.faults.get = none
  scannable : store.faults.scan = none
  keys_eq : d.keys = KeySpace.ofPrefix config.keyPrefix
  dimension_eq : d.dimension = config.dimension
  metric_eq : d.metric = config.metric
  found : ∀ key, d.peek (d.keys.bytes key) = g.stored key
  named : ∀ bytes value, bytes.startsWith d.keys.lead = true → d.peek bytes = some value →
    ∃ key, bytes = d.keys.bytes key
  fits : g.Fits config
  adjacencyChange_eq : d.adjacencyChange = g.adjacencyChange
  countChange_eq : d.countChange = g.countChange

variable {config : VectorConfig} {store : StoreHandle} {d : Draft} {g : Graph}

namespace Shows

theorem get_bytes (h : Shows config store d g) (key : GraphKey) :
    d.get (d.keys.bytes key) = .ok (g.stored key) := by
  rw [get_eq d (h.store_eq ▸ h.gettable), h.found]

theorem level_lt (h : Shows config store d g) {id : String} (hid : id ∈ g.ids) :
    g.level id < 0x10000000000000000 := by
  have := h.fits.levels id hid
  rw [VectorIndex.maxLevel] at this
  omega

theorem level (h : Shows config store d g) (id : String) :
    d.level id = .ok (if id ∈ g.ids then some (g.level id) else none) := by
  have hget : d.get (d.keys.node id) = .ok (g.stored (.node id)) := h.get_bytes (.node id)
  rw [Draft.level, hget, Graph.stored]
  by_cases hid : id ∈ g.ids
  · simp [hid, bind, Except.bind, Record.level?_level (h.level_lt hid), readable, pure, Except.pure]
  · simp [hid, bind, Except.bind, pure, Except.pure]

theorem length_vector (h : Shows config store d g) {id : String} (hid : id ∈ g.ids) :
    (g.vector id).length = config.dimension := by
  have hcheck := h.fits.vectors id hid
  rw [VectorIndex.checkVector] at hcheck
  split at hcheck
  · cases hcheck
  · next hlength => simpa using hlength

theorem vector (h : Shows config store d g) {id : String} (hid : id ∈ g.ids) :
    d.vector id = .ok (g.vector id) := by
  have hget : d.get (d.keys.vector id) = .ok (g.stored (.vector id)) := h.get_bytes (.vector id)
  have hdecode := Embedding.decode_encode (g.vector id)
  rw [h.length_vector hid] at hdecode
  rw [Draft.vector, hget, Graph.stored, if_pos hid, h.dimension_eq]
  simp only [bind, Except.bind, hdecode]
  rfl

theorem metric (h : Shows config store d g) : d.metric = g.metric := by
  rw [h.metric_eq, h.fits.metric]

theorem distance (h : Shows config store d g) (query : Embedding) {id : String} (hid : id ∈ g.ids) :
    d.distance query id = .ok (g.distance query id) := by
  rw [Draft.distance, h.vector hid, h.metric]
  rfl

theorem distanceBetween (h : Shows config store d g) {a b : String} (ha : a ∈ g.ids) (hb : b ∈ g.ids) :
    d.distanceBetween a b = .ok (g.distanceBetween a b) := by
  rw [Draft.distanceBetween, h.vector ha]
  exact h.distance (g.vector a) hb

theorem neighbors (h : Shows config store d g) (layer : Nat) (id : String) :
    d.neighbors layer id = .ok (g.neighbors layer id) := by
  have hget : d.get (d.keys.neighbors layer id) = .ok (g.stored (.neighbors layer id)) :=
    h.get_bytes (.neighbors layer id)
  rw [Draft.neighbors, hget, Graph.stored]
  split
  · next hnil =>
    rw [hnil]
    rfl
  · simp [bind, Except.bind, readable]

theorem entryPoint (h : Shows config store d g) : d.entryPoint = .ok g.entry := by
  have hget : d.get d.keys.entryPoint = .ok (g.stored .entryPoint) := h.get_bytes .entryPoint
  rw [Draft.entryPoint, hget, Graph.stored]
  cases he : g.entry with
  | none => rfl
  | some e =>
    have hlevel : e.level < 0x10000000000000000 := by
      have := h.fits.entry he
      rw [VectorIndex.maxLevel] at this
      omega
    simp [bind, Except.bind, Record.entryPoint?_entryPoint hlevel, readable, pure, Except.pure]

theorem count (h : Shows config store d g) : d.count = .ok (g.count.getD 0) := by
  have hget : d.get d.keys.count = .ok (g.stored .count) := h.get_bytes .count
  rw [Draft.count, hget, Graph.stored]
  cases hn : g.count with
  | none => rfl
  | some n => simp [bind, Except.bind, Record.count?_count (h.fits.count hn), readable]

end Shows

theorem foldl_overlay (s : Store) (changes : List Change) :
    changes.foldl overlay s.entries = (s.write changes).entries := by
  induction changes generalizing s with
  | nil => rfl
  | cons c changes ih =>
    have hfirst : overlay s.entries c = (s.apply c).entries := by
      obtain ⟨key, value⟩ := c
      cases value <;> rfl
    rw [List.foldl_cons, hfirst, ih (s.apply c)]
    rfl

theorem scan_spec (d : Draft) (hscan : d.store.faults.scan = none) (lead : Bytes) :
    ∃ entries, d.scan lead = .ok entries ∧ Ascending entries ∧ ∀ key value,
      (key, value) ∈ entries ↔ key.startsWith lead = true ∧ d.peek key = some value := by
  have hstored := ByteMap.ascending_scan d.store.content lead
  refine ⟨_, ?_, (Store.write ⟨_, hstored⟩ (d.pending.scan lead)).ascending, fun key value => ?_⟩
  · rw [scan, StoreHandle.scan, hscan]
    exact congrArg Except.ok (foldl_overlay ⟨_, hstored⟩ _)
  · rw [ByteMap.mem_entries_iff, Store.find?_write _ (ByteMap.ascending_scan d.pending lead),
      ByteMap.find?, ByteMap.findIn_scan, ByteMap.findIn_scan, peek]
    split
    · next hlead => simp [hlead]
    · next hlead => simp [hlead]

namespace Shows

theorem startsWith_lead {key : Bytes} {k : KeySpace} (h : key.startsWith k.nodeLead = true) :
    key.startsWith k.lead = true := by
  rw [Bytes.startsWith_iff] at h ⊢
  exact (List.prefix_append k.lead _).trans h

theorem scan_nodes (h : Shows config store d g) :
    d.scan d.keys.nodeLead = .ok (g.ids.map fun id => (d.keys.node id, Record.level (g.level id))) := by
  obtain ⟨entries, hscan, hascending, hmem⟩ :=
    scan_spec d (h.store_eq ▸ h.scannable) d.keys.nodeLead
  have hsorted : Ascending (g.ids.map fun id => (d.keys.node id, Record.level (g.level id))) := by
    refine List.pairwise_map.mpr (h.fits.sorted.imp fun {a b} hab => ?_)
    rw [KeySpace.order_node]
    exact hab
  rw [hscan]
  refine congrArg Except.ok (ByteMap.entries_ext hascending hsorted fun e => ?_)
  obtain ⟨key, value⟩ := e
  rw [hmem, List.mem_map]
  constructor
  · rintro ⟨hlead, hpeek⟩
    obtain ⟨name, rfl⟩ := h.named key value (startsWith_lead hlead) hpeek
    obtain ⟨id, rfl⟩ := KeySpace.startsWith_nodeLead_iff.mp hlead
    rw [h.found, Graph.stored] at hpeek
    split at hpeek
    · next hid => exact ⟨id, hid, by rw [← Option.some_inj.mp hpeek]; rfl⟩
    · cases hpeek
  · rintro ⟨id, hid, heq⟩
    obtain ⟨rfl, rfl⟩ := Prod.mk.inj heq
    refine ⟨KeySpace.startsWith_nodeLead_iff.mpr ⟨id, rfl⟩, ?_⟩
    exact (h.found (.node id)).trans (if_pos hid)

theorem foldlM_nodes {keys : KeySpace} {ids : List String}
    {step : Option EntryPoint → Bytes × Bytes → Except VectorError (Option EntryPoint)}
    (hstep : ∀ best, ∀ id ∈ ids, step best (keys.node id, Record.level (g.level id)) =
      .ok (higher best ⟨id, g.level id⟩)) (best : Option EntryPoint) :
    (ids.map fun id => (keys.node id, Record.level (g.level id))).foldlM step best =
      .ok (ids.foldl (fun best id => higher best ⟨id, g.level id⟩) best) := by
  induction ids generalizing best with
  | nil => rfl
  | cons id ids ih =>
    rw [List.map_cons, List.foldlM_cons, List.foldl_cons, hstep best id List.mem_cons_self]
    exact ih (fun best i hi => hstep best i (List.mem_cons_of_mem _ hi)) _

theorem highestNode (h : Shows config store d g) : d.highestNode = .ok g.highestNode := by
  rw [Draft.highestNode, h.scan_nodes]
  refine foldlM_nodes (fun best id hid => ?_) none
  have hlevel := Record.level?_level (h.level_lt hid)
  simp only [KeySpace.idOfNode?_node, hlevel]
  rfl

end Shows

def Gives (config : VectorConfig) (store : StoreHandle) (result : Except VectorError Draft)
    (g : Graph) : Prop :=
  ∃ d, result = .ok d ∧ Shows config store d g

namespace Shows

/-- Drafts over the same store under the same settings. -/
structure SameBase (d d' : Draft) : Prop where
  store : d'.store = d.store
  keys : d'.keys = d.keys
  dimension : d'.dimension = d.dimension
  metric : d'.metric = d.metric

theorem update {g' : Graph} {changed : Draft} (h : Shows config store d g)
    (base : SameBase d changed) (hfound : ∀ k, changed.peek (d.keys.bytes k) = g'.stored k)
    (hother : ∀ b, (∀ k, b ≠ d.keys.bytes k) → changed.peek b = d.peek b) (hfits : g'.Fits config)
    (hadjacency : changed.adjacencyChange = g'.adjacencyChange)
    (hcount : changed.countChange = g'.countChange) : Shows config store changed g' where
  store_eq := base.store.trans h.store_eq
  gettable := h.gettable
  scannable := h.scannable
  keys_eq := base.keys.trans h.keys_eq
  dimension_eq := base.dimension.trans h.dimension_eq
  metric_eq := base.metric.trans h.metric_eq
  found k := by rw [base.keys, hfound]
  named b value hlead hpeek := by
    rw [base.keys] at hlead ⊢
    by_cases hkey : ∃ k, b = d.keys.bytes k
    · exact hkey
    · rw [hother b fun k heq => hkey ⟨k, heq⟩] at hpeek
      exact h.named b value hlead hpeek
  fits := hfits
  adjacencyChange_eq := hadjacency
  countChange_eq := hcount

theorem change {key : GraphKey} {value : Option Bytes} {g' : Graph} {changed : Draft}
    (h : Shows config store d g) (base : SameBase d changed)
    (hpeek : ∀ b, changed.peek b = if b = d.keys.bytes key then value else d.peek b)
    (hstored : ∀ k, g'.stored k = if k = key then value else g.stored k) (hfits : g'.Fits config)
    (hadjacency : changed.adjacencyChange = g'.adjacencyChange)
    (hcount : changed.countChange = g'.countChange) : Shows config store changed g' := by
  refine h.update base (fun k => ?_) (fun b hb => ?_) hfits hadjacency hcount
  · rw [hpeek, hstored, h.found]
    simp only [KeySpace.bytes_inj]
  · rw [hpeek, if_neg (hb key)]

theorem stored_setNeighbors (g : Graph) (layer : Nat) (id : String) (ids : List String)
    (k : GraphKey) : (g.setNeighbors layer id ids).stored k = if k = .neighbors layer id then
      if ids = [] then none else some (Record.neighbors ids) else g.stored k := by
  by_cases hk : k = .neighbors layer id
  · subst hk
    simp [Graph.stored, Graph.setNeighbors]
  · rw [if_neg hk]
    cases k with
    | neighbors l i =>
      have hne : ¬(l = layer ∧ i = id) := by simpa using hk
      simp [Graph.stored, Graph.setNeighbors, hne]
    | _ => rfl

theorem setNeighbors (h : Shows config store d g) (layer : Nat) (id : String) (ids : List String) :
    Gives config store (d.setNeighbors layer id ids) (g.setNeighbors layer id ids) := by
  have hfits : (g.setNeighbors layer id ids).Fits config :=
    h.fits.congr (Graph.sameNodes_setNeighbors g layer id ids)
  rw [Draft.setNeighbors, h.neighbors]
  refine ⟨_, rfl, ?_⟩
  cases ids with
  | nil =>
    refine h.change ⟨rfl, rfl, rfl, rfl⟩ (fun b => ?_) (stored_setNeighbors g layer id []) hfits ?_
      h.countChange_eq
    · exact peek_delete d (d.keys.bytes (.neighbors layer id)) b
    · exact congrArg (· + _) h.adjacencyChange_eq
  | cons n ns =>
    refine h.change ⟨rfl, rfl, rfl, rfl⟩ (fun b => ?_) (stored_setNeighbors g layer id (n :: ns))
      hfits ?_ h.countChange_eq
    · exact peek_put d (d.keys.bytes (.neighbors layer id)) b _
    · exact congrArg (· + _) h.adjacencyChange_eq

theorem addNeighbor (h : Shows config store d g) (layer : Nat) (a b : String) :
    Gives config store (d.addNeighbor layer a b) (g.addNeighbor layer a b) := by
  rw [Draft.addNeighbor, h.neighbors, Graph.addNeighbor]
  show Gives config store (if _ then _ else _) _
  split
  · exact ⟨d, rfl, h⟩
  · exact h.setNeighbors layer a _

theorem dropNeighbor (h : Shows config store d g) (layer : Nat) (a b : String) :
    Gives config store (d.dropNeighbor layer a b) (g.dropNeighbor layer a b) := by
  rw [Draft.dropNeighbor, h.neighbors, Graph.dropNeighbor]
  show Gives config store (if _ then _ else _) _
  split
  · exact ⟨d, rfl, h⟩
  · exact h.setNeighbors layer a _

theorem setEntryPoint (h : Shows config store d g) {e : Option EntryPoint}
    (he : ∀ {e'}, e = some e' → e'.level ≤ VectorIndex.maxLevel) :
    Shows config store (d.setEntryPoint e) (g.setEntryPoint e) := by
  have hstored : ∀ k, (g.setEntryPoint e).stored k =
      if k = .entryPoint then e.map Record.entryPoint else g.stored k := by
    intro k
    cases k <;> rfl
  cases e with
  | none =>
    exact h.change ⟨rfl, rfl, rfl, rfl⟩ (peek_delete d (d.keys.bytes .entryPoint)) hstored
      (h.fits.setEntryPoint he) h.adjacencyChange_eq h.countChange_eq
  | some e =>
    exact h.change ⟨rfl, rfl, rfl, rfl⟩ (fun b => peek_put d (d.keys.bytes .entryPoint) b _) hstored
      (h.fits.setEntryPoint he) h.adjacencyChange_eq h.countChange_eq

/-- A draft that differs from one that shows a graph in the keys of one node only, and the graph with
these changes, which is then counted. -/
theorem adjustCount {changed : Draft} {g' : Graph} (h : Shows config store d g)
    (base : SameBase d changed) (hpeek : ∀ k, k ≠ .count → changed.peek (d.keys.bytes k) = g'.stored k)
    (hcountKey : changed.peek (d.keys.bytes .count) = d.peek (d.keys.bytes .count))
    (hcount : g'.count = g.count)
    (hother : ∀ b, (∀ k, b ≠ d.keys.bytes k) → changed.peek b = d.peek b) {change : Int}
    (hfits : (g'.adjustCount change).Fits config)
    (hadjacency : changed.adjacencyChange = g'.adjacencyChange)
    (hchange : changed.countChange = g'.countChange) :
    Gives config store (changed.adjustCount change) (g'.adjustCount change) := by
  have hcounted : changed.count = .ok (g'.count.getD 0) := by
    have hget : changed.get changed.keys.count = .ok (g.stored .count) := by
      rw [get_eq _ (by rw [base.store, h.store_eq]; exact h.gettable), base.keys]
      exact congrArg Except.ok (hcountKey.trans (h.found .count))
    have hread := h.count
    have hold : d.get d.keys.count = .ok (g.stored .count) := h.get_bytes .count
    rw [hcount, ← hread, Draft.count, Draft.count, hget, hold]
  have hkey : changed.keys.count = d.keys.bytes .count := congrArg KeySpace.count base.keys
  rw [Draft.adjustCount, hcounted]
  refine ⟨_, rfl, ?_⟩
  refine h.update ⟨base.store, base.keys, base.dimension, base.metric⟩ (fun k => ?_) (fun b hb => ?_)
    hfits hadjacency (congrArg (· + change) hchange)
  · refine (peek_put changed changed.keys.count (d.keys.bytes k) _).trans ?_
    rw [hkey]
    by_cases hk : k = .count
    · subst hk
      exact if_pos rfl
    · rw [if_neg fun heq => hk (KeySpace.bytes_inj.mp heq), hpeek k hk]
      cases k with
      | count => exact absurd rfl hk
      | _ => rfl
  · refine (peek_put changed changed.keys.count b _).trans ?_
    rw [hkey, if_neg (hb .count), hother b hb]

theorem putNode (h : Shows config store d g) (id : String) {v : Embedding} {level : Nat}
    (hlevel : level ≤ VectorIndex.maxLevel) (hv : VectorIndex.checkVector config v = .ok ()) :
    Gives config store (d.putNode id v level) (g.putNode id v level) := by
  have hpeek : ∀ b, ((d.put (d.keys.vector id) (Embedding.encode v)).put (d.keys.node id)
      (Record.level level)).peek b = if b = d.keys.bytes (.node id) then some (Record.level level)
        else if b = d.keys.bytes (.vector id) then some (Embedding.encode v) else d.peek b := by
    intro b
    rw [peek_put, peek_put]
    rfl
  have hfits : (g.putNode id v level).Fits config := h.fits.putNode hlevel hv
  rw [Graph.putNode] at hfits ⊢
  rw [Draft.putNode]
  have base : SameBase d ((d.put (d.keys.vector id) (Embedding.encode v)).put (d.keys.node id)
      (Record.level level)) := ⟨rfl, rfl, rfl, rfl⟩
  refine h.adjustCount base (fun k hk => ?_) ?_ ?_ (fun b hb => ?_)
    hfits h.adjacencyChange_eq h.countChange_eq
  · rw [hpeek, h.found]
    simp only [KeySpace.bytes_inj]
    cases k with
    | vector i =>
      by_cases hi : i = id
      · simp [hi, Graph.stored, Graph.mem_insertId]
      · simp [hi, Graph.stored, Graph.mem_insertId]
    | node i =>
      by_cases hi : i = id
      · simp [hi, Graph.stored, Graph.mem_insertId]
      · simp [hi, Graph.stored, Graph.mem_insertId]
    | count => exact absurd rfl hk
    | _ => simp [Graph.stored]
  · rw [hpeek]
    simp only [KeySpace.bytes_inj]
    simp
  · rfl
  · rw [hpeek, if_neg (hb _), if_neg (hb _)]

theorem removeNode (h : Shows config store d g) (id : String) :
    Gives config store (d.removeNode id) (g.removeNode id) := by
  have hpeek : ∀ b, ((d.delete (d.keys.vector id)).delete (d.keys.node id)).peek b =
      if b = d.keys.bytes (.node id) then none
        else if b = d.keys.bytes (.vector id) then none else d.peek b := by
    intro b
    rw [peek_delete, peek_delete]
    rfl
  have hfits : (g.removeNode id).Fits config := h.fits.removeNode
  rw [Graph.removeNode] at hfits ⊢
  rw [Draft.removeNode]
  have base : SameBase d ((d.delete (d.keys.vector id)).delete (d.keys.node id)) :=
    ⟨rfl, rfl, rfl, rfl⟩
  refine h.adjustCount base (fun k hk => ?_) ?_ ?_ (fun b hb => ?_)
    hfits h.adjacencyChange_eq h.countChange_eq
  · rw [hpeek, h.found]
    simp only [KeySpace.bytes_inj]
    cases k with
    | vector i =>
      by_cases hi : i = id
      · simp [hi, Graph.stored]
      · simp [hi, Graph.stored]
    | node i =>
      by_cases hi : i = id
      · simp [hi, Graph.stored]
      · simp [hi, Graph.stored]
    | count => exact absurd rfl hk
    | _ => simp [Graph.stored]
  · rw [hpeek]
    simp only [KeySpace.bytes_inj]
    simp
  · rfl
  · rw [hpeek, if_neg (hb _), if_neg (hb _)]

end Shows

theorem Gives.bind {result : Except VectorError Draft} {next : Draft → Except VectorError Draft}
    {g' : Graph} (h : Gives config store result g)
    (hnext : ∀ d, Shows config store d g → Gives config store (next d) g') :
    Gives config store (result >>= next) g' := by
  obtain ⟨d, rfl, hd⟩ := h
  exact hnext d hd

theorem Shows.link (h : Shows config store d g) (layer : Nat) (a b : String) :
    Gives config store (d.link layer a b) (g.link layer a b) :=
  (h.addNeighbor layer a b).bind fun _ hd => hd.addNeighbor layer b a

theorem Shows.unlink (h : Shows config store d g) (layer : Nat) (a b : String) :
    Gives config store (d.unlink layer a b) (g.unlink layer a b) :=
  (h.dropNeighbor layer a b).bind fun _ hd => hd.dropNeighbor layer b a

theorem gives_foldlM {α : Type} {step : Draft → α → Except VectorError Draft}
    {shown : Graph → α → Graph} {motive : Graph → Prop} {xs : List α}
    (hstep : ∀ d g, Shows config store d g → motive g → ∀ x ∈ xs,
      Gives config store (step d x) (shown g x) ∧ motive (shown g x))
    (h : Shows config store d g) (hg : motive g) :
    Gives config store (xs.foldlM step d) (xs.foldl shown g) := by
  induction xs generalizing d g with
  | nil => exact ⟨d, rfl, h⟩
  | cons x xs ih =>
    obtain ⟨hgives, hmotive⟩ := hstep d g h hg x List.mem_cons_self
    rw [List.foldlM_cons, List.foldl_cons]
    exact hgives.bind fun _ hd =>
      ih (fun d g hd hg y hy => hstep d g hd hg y (List.mem_cons_of_mem _ hy)) hd hmotive

end Draft

end HybridSearch

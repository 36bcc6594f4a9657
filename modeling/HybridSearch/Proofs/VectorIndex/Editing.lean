import HybridSearch.Proofs.VectorIndex.Draft
import Mathlib.Algebra.Group.Nat.Defs
import Mathlib.Algebra.Ring.Int.Defs

/-!
# What an edit changes

A draft looks up what is found once its batch has been written. An edit changes what is looked up under its own
keys only, and it changes the number of neighbour entries by what it writes down; the number of nodes too, unless
it hits zero from below.
-/
namespace HybridSearch

namespace Draft

variable {d d' : Draft}

def Readable (d : Draft) : Prop := d.store.faults.get = none ∧ d.store.faults.scan = none

structure SameReads (d d' : Draft) : Prop where
  keys : d'.keys = d.keys
  dimension : d'.dimension = d.dimension
  metric : d'.metric = d.metric
  get : ∀ key, d'.get key = d.get key
  scan : ∀ lead, d'.scan lead = d.scan lead

namespace SameReads

variable (h : SameReads d d')
include h

theorem level (id : String) : d'.level id = d.level id := by
  rw [Draft.level, Draft.level, h.keys, h.get]

theorem vector (id : String) : d'.vector id = d.vector id := by
  rw [Draft.vector, Draft.vector, h.keys, h.get, h.dimension]

theorem distance (query : Embedding) (id : String) : d'.distance query id = d.distance query id := by
  rw [Draft.distance, Draft.distance, h.vector, h.metric]

theorem distanceBetween (a b : String) : d'.distanceBetween a b = d.distanceBetween a b := by
  simp only [Draft.distanceBetween, h.vector, h.distance]

theorem neighbors (layer : ℕ) (id : String) : d'.neighbors layer id = d.neighbors layer id := by
  rw [Draft.neighbors, Draft.neighbors, h.keys, h.get]

theorem entryPoint : d'.entryPoint = d.entryPoint := by
  rw [Draft.entryPoint, Draft.entryPoint, h.keys, h.get]

theorem count : d'.count = d.count := by
  rw [Draft.count, Draft.count, h.keys, h.get]

theorem highestNode : d'.highestNode = d.highestNode := by
  rw [Draft.highestNode, Draft.highestNode, h.keys, h.scan]

theorem adjacencyEntries : d'.adjacencyEntries = d.adjacencyEntries := by
  rw [Draft.adjacencyEntries, Draft.adjacencyEntries, h.keys, h.scan]

end SameReads

theorem scan_congr (hd : d.Readable) (hd' : d'.Readable) {lead : Bytes}
    (h : ∀ key, key.startsWith lead = true → d'.peek key = d.peek key) : d'.scan lead = d.scan lead := by
  obtain ⟨entries, hscan, hsorted, hmem⟩ := d.scan_spec hd.2 lead
  obtain ⟨entries', hscan', hsorted', hmem'⟩ := d'.scan_spec hd'.2 lead
  rw [hscan, hscan', ByteMap.entries_ext hsorted' hsorted fun e => ?_]
  rw [hmem, hmem']
  exact and_congr_right fun hlead => by rw [h _ hlead]

/-- A draft that has been changed at one of its keys. -/
structure Sets (d d' : Draft) (key : GraphKey) (value : Option Bytes) : Prop where
  base : Shows.SameBase d d'
  peek : ∀ b, d'.peek b = if b = d.keys.bytes key then value else d.peek b

theorem sets_put (d : Draft) (key : GraphKey) (value : Bytes) :
    d.Sets (d.put (d.keys.bytes key) value) key (some value) :=
  ⟨⟨rfl, rfl, rfl, rfl⟩, fun _ => peek_put _ _ _ _⟩

theorem sets_delete (d : Draft) (key : GraphKey) : d.Sets (d.delete (d.keys.bytes key)) key none :=
  ⟨⟨rfl, rfl, rfl, rfl⟩, fun _ => peek_delete _ _ _⟩

theorem Readable.of_base (hd : d.Readable) (h : Shows.SameBase d d') : d'.Readable := by
  rw [Readable, h.store]
  exact hd

variable {key : GraphKey} {value : Option Bytes}

theorem Sets.get_self (h : d.Sets d' key value) (hd : d.Readable) :
    d'.get (d'.keys.bytes key) = .ok value := by
  rw [get_eq d' (hd.of_base h.base).1, h.peek, h.base.keys, if_pos rfl]

theorem Sets.get_of_ne (h : d.Sets d' key value) (hd : d.Readable) {other : GraphKey} (hne : other ≠ key) :
    d'.get (d'.keys.bytes other) = d.get (d.keys.bytes other) := by
  rw [get_eq d' (hd.of_base h.base).1, get_eq d hd.1, h.peek, h.base.keys,
    if_neg fun heq => hne (KeySpace.bytes_inj.mp heq)]

theorem Sets.vector_of_ne (h : d.Sets d' key value) (hd : d.Readable) {id : String}
    (hne : GraphKey.vector id ≠ key) : d'.vector id = d.vector id := by
  have hget : d'.get (d'.keys.vector id) = d.get (d.keys.vector id) := h.get_of_ne hd hne
  rw [vector, vector, hget, h.base.dimension]

theorem Sets.count_of_ne (h : d.Sets d' key value) (hd : d.Readable) (hne : GraphKey.count ≠ key) :
    d'.count = d.count := by
  have hget : d'.get d'.keys.count = d.get d.keys.count := h.get_of_ne hd hne
  rw [count, count, hget]

theorem Sets.vector {id : String} {v : Embedding} (h : d.Sets d' (.vector id) (some (Embedding.encode v)))
    (hd : d.Readable) (hv : v.length = d.dimension) : d'.vector id = .ok v := by
  have hget : d'.get (d'.keys.vector id) = .ok (some (Embedding.encode v)) := h.get_self hd
  rw [Draft.vector, hget, h.base.dimension, ← hv]
  simp only [bind, Except.bind, Embedding.decode_encode]
  rfl

theorem Sets.count {n : ℕ} (h : d.Sets d' .count (some (Record.count n))) (hd : d.Readable)
    (hn : n < 0x10000000000000000) : d'.count = .ok n := by
  have hget : d'.get d'.keys.count = .ok (some (Record.count n)) := h.get_self hd
  rw [Draft.count, hget]
  simp [bind, Except.bind, Record.count?_count hn, readable]

def total : List (Bytes × Bytes) → Except VectorError ℕ
  | [] => .ok 0
  | e :: rest => do
    let ids ← readable (.unreadableNeighborsAt e.1) (Record.neighbors? e.2)
    return ids.length + (← total rest)

def listLength (key : Bytes) : Option Bytes → Except VectorError ℕ
  | none => .ok 0
  | some value => (readable (.unreadableNeighborsAt key) (Record.neighbors? value)).map List.length

def moved (figure : Except VectorError ℕ) (change : ℤ) : Except VectorError ℤ :=
  figure.map fun n => (n : ℤ) + change

theorem moved_add {x y : Except VectorError ℕ} {a b : ℤ} (h : moved x a = moved y b) (c : ℤ) :
    moved x (a + c) = moved y (b + c) := by
  have hshift : ∀ (z : Except VectorError ℕ) (k : ℤ), moved z (k + c) = (moved z k).map (· + c) := by
    intro z k
    cases z with
    | error e => rfl
    | ok n => exact congrArg Except.ok (Int.add_assoc _ _ _).symm
  rw [hshift, hshift, h]

theorem adjacencyEntries_eq (d : Draft) :
    d.adjacencyEntries = d.scan d.keys.neighborsLead >>= total := by
  have hfold : ∀ (entries : List (Bytes × Bytes)) (before : ℕ), entries.foldlM (fun total e => do
      let ids ← readable (.unreadableNeighborsAt e.1) (Record.neighbors? e.2)
      return total + ids.length) before = (total entries).map (before + ·) := by
    intro entries
    induction entries with
    | nil => exact fun _ => rfl
    | cons e rest ih =>
      intro before
      rw [List.foldlM_cons, total]
      cases readable (.unreadableNeighborsAt e.1) (Record.neighbors? e.2) with
      | error cause => rfl
      | ok ids =>
        refine (ih (before + ids.length)).trans ?_
        cases total rest with
        | error cause => rfl
        | ok n => exact congrArg Except.ok (Nat.add_assoc _ _ _)
  rw [adjacencyEntries]
  refine bind_congr_of_ok fun entries _ => (hfold entries 0).trans ?_
  cases total entries with
  | error cause => rfl
  | ok n => exact congrArg Except.ok (Nat.zero_add n)

theorem total_eq_filter {entries : List (Bytes × Bytes)} (hs : Ascending entries) {key : Bytes} {n : ℕ}
    (hkey : listLength key (ByteMap.findIn key entries) = .ok n) :
    total entries = (total (entries.filter fun e => decide (e.1 ≠ key))).map (n + ·) := by
  induction entries with
  | nil =>
    obtain rfl := Except.ok.inj hkey
    rfl
  | cons e rest ih =>
    obtain ⟨k, value⟩ := e
    have hlater := (List.pairwise_cons.mp hs).1
    rw [ByteMap.findIn] at hkey
    by_cases hk : k = key
    · subst hk
      have hnone : rest.filter (fun e => decide (e.1 ≠ k)) = rest := by
        refine List.filter_eq_self.mpr fun e he => decide_eq_true ?_
        rintro rfl
        exact Bytes.order_lt_irrefl _ (hlater e he)
      rw [if_pos rfl, listLength] at hkey
      obtain ⟨ids, hids, rfl⟩ := exists_of_map_ok hkey
      rw [List.filter_cons_of_neg (by simp), hnone, total, hids]
      cases total rest <;> rfl
    · rw [if_neg hk] at hkey
      rw [List.filter_cons_of_pos (by simpa using hk), total, total, ih (List.Pairwise.of_cons hs) hkey]
      cases readable (.unreadableNeighborsAt k) (Record.neighbors? value) with
      | error cause => rfl
      | ok ids =>
        cases total (rest.filter fun e => decide (e.1 ≠ key)) with
        | error cause => rfl
        | ok m => exact congrArg Except.ok (Nat.add_left_comm _ _ _)

theorem Sets.adjacencyEntries_of_ne (h : d.Sets d' key value) (hd : d.Readable)
    (hne : ∀ layer id, key ≠ .neighbors layer id) : d'.adjacencyEntries = d.adjacencyEntries := by
  rw [adjacencyEntries, adjacencyEntries, h.base.keys,
    scan_congr hd (hd.of_base h.base) fun b hb => ?_]
  rw [h.peek, if_neg]
  rintro rfl
  obtain ⟨layer, id, rfl⟩ := KeySpace.startsWith_neighborsLead_iff.mp hb
  exact hne layer id rfl

theorem Sets.adjacencyEntries {layer : ℕ} {id : String} (h : d.Sets d' (.neighbors layer id) value)
    (hd : d.Readable) {before after : ℕ}
    (hbefore : listLength (d.keys.neighbors layer id) (d.peek (d.keys.neighbors layer id)) = .ok before)
    (hafter : listLength (d.keys.neighbors layer id) value = .ok after) :
    moved d'.adjacencyEntries (-after) = moved d.adjacencyEntries (-before) := by
  obtain ⟨entries, hscan, hsorted, hmem⟩ := d.scan_spec hd.2 d.keys.neighborsLead
  obtain ⟨entries', hscan', hsorted', hmem'⟩ := d'.scan_spec (hd.of_base h.base).2 d.keys.neighborsLead
  have hlead : (d.keys.neighbors layer id).startsWith d.keys.neighborsLead = true :=
    KeySpace.startsWith_neighborsLead_iff.mpr ⟨layer, id, rfl⟩
  have hfound : ∀ {entries : List (Bytes × Bytes)} {found : Option Bytes}, Ascending entries →
      (∀ value, (d.keys.neighbors layer id, value) ∈ entries ↔ found = some value) →
      ByteMap.findIn (d.keys.neighbors layer id) entries = found := by
    intro entries found hs hiff
    refine Option.ext fun v => ?_
    rw [← hiff v]
    exact ⟨ByteMap.mem_of_findIn, ByteMap.findIn_of_mem hs⟩
  have hself : d'.peek (d.keys.neighbors layer id) = value := (h.peek _).trans (if_pos rfl)
  have hcounted : listLength (d.keys.neighbors layer id) (ByteMap.findIn (d.keys.neighbors layer id) entries) =
      .ok before := by
    rw [hfound hsorted fun v => (hmem _ v).trans (and_iff_right hlead)]
    exact hbefore
  have hcounted' : listLength (d.keys.neighbors layer id) (ByteMap.findIn (d.keys.neighbors layer id) entries') =
      .ok after := by
    rw [hfound hsorted' fun v => (hmem' _ v).trans (and_iff_right hlead), hself]
    exact hafter
  -- without the list both sums are the same
  have hothers : entries'.filter (fun e => decide (e.1 ≠ d.keys.neighbors layer id)) =
      entries.filter fun e => decide (e.1 ≠ d.keys.neighbors layer id) := by
    refine ByteMap.entries_ext (List.Pairwise.filter _ hsorted') (List.Pairwise.filter _ hsorted) fun e => ?_
    rw [List.mem_filter, List.mem_filter, hmem, hmem', decide_eq_true_iff]
    refine and_congr_left fun hne => ?_
    rw [(h.peek e.1).trans (if_neg hne)]
  rw [adjacencyEntries_eq, adjacencyEntries_eq, h.base.keys, hscan, hscan']
  show moved (total entries') (-after) = moved (total entries) (-before)
  rw [total_eq_filter hsorted hcounted, total_eq_filter hsorted' hcounted', hothers]
  cases total (entries.filter fun e => decide (e.1 ≠ d.keys.neighbors layer id)) with
  | error cause => rfl
  | ok n =>
    refine congrArg Except.ok ?_
    show ((after + n : ℕ) : ℤ) + -after = ((before + n : ℕ) : ℤ) + -before
    omega

/-- Neighbours or the entry point have been edited: the nodes are as they were, and the number of neighbour
entries has changed by what is written down. -/
structure Rewires (d d' : Draft) : Prop where
  base : Shows.SameBase d d'
  vector : ∀ id, d'.vector id = d.vector id
  adjacency : moved d'.adjacencyEntries (-d'.adjacencyChange) = moved d.adjacencyEntries (-d.adjacencyChange)
  count : d'.count = d.count
  countChange : d'.countChange = d.countChange

theorem Shows.SameBase.trans {d d' d'' : Draft} (h : Shows.SameBase d d')
    (h' : Shows.SameBase d' d'') : Shows.SameBase d d'' :=
  ⟨h'.store.trans h.store, h'.keys.trans h.keys, h'.dimension.trans h.dimension, h'.metric.trans h.metric⟩

theorem Rewires.refl (d : Draft) : d.Rewires d := ⟨⟨rfl, rfl, rfl, rfl⟩, fun _ => rfl, rfl, rfl, rfl⟩

theorem Rewires.trans {d'' : Draft} (h : d.Rewires d') (h' : d'.Rewires d'') : d.Rewires d'' where
  base := h.base.trans h'.base
  vector id := (h'.vector id).trans (h.vector id)
  adjacency := h'.adjacency.trans h.adjacency
  count := h'.count.trans h.count
  countChange := h'.countChange.trans h.countChange

theorem Sets.rewires (h : d.Sets d' key value) (hd : d.Readable) (hvector : ∀ id, GraphKey.vector id ≠ key)
    (hcount : GraphKey.count ≠ key)
    (hadjacency : moved d'.adjacencyEntries (-d'.adjacencyChange) =
      moved d.adjacencyEntries (-d.adjacencyChange))
    (hchange : d'.countChange = d.countChange) : d.Rewires d' :=
  ⟨h.base, fun id => h.vector_of_ne hd (hvector id), hadjacency, h.count_of_ne hd hcount, hchange⟩

theorem listLength_of_neighbors (hd : d.Readable) {layer : ℕ} {id : String} {ids : List String}
    (h : d.neighbors layer id = .ok ids) :
    listLength (d.keys.neighbors layer id) (d.peek (d.keys.neighbors layer id)) = .ok ids.length := by
  rw [neighbors, get_eq d hd.1] at h
  cases hpeek : d.peek (d.keys.neighbors layer id) with
  | none =>
    rw [hpeek] at h
    rw [← Except.ok.inj h]
    rfl
  | some bytes =>
    rw [hpeek] at h
    cases hread : Record.neighbors? bytes with
    | none =>
      have hcorrupted : readable (.unreadableNeighbors id layer) (Record.neighbors? bytes) = .ok ids := h
      rw [hread] at hcorrupted
      cases hcorrupted
    | some found =>
      have hreadable : readable (.unreadableNeighbors id layer) (Record.neighbors? bytes) = .ok ids := h
      rw [hread] at hreadable
      rw [listLength, hread, ← Except.ok.inj hreadable]
      rfl

theorem exists_of_setNeighbors {layer : ℕ} {id : String} {ids : List String}
    (h : d.setNeighbors layer id ids = .ok d') : ∃ before, d.neighbors layer id = .ok before ∧
      d.Sets d' (.neighbors layer id) (if ids.isEmpty then none else some (Record.neighbors ids)) ∧
      d'.adjacencyChange = d.adjacencyChange + (ids.length - before.length) ∧
      d'.countChange = d.countChange := by
  obtain ⟨before, hbefore, h⟩ := exists_of_bind_ok h
  obtain rfl := Except.ok.inj h
  cases ids with
  | nil =>
    have hsets := d.sets_delete (.neighbors layer id)
    exact ⟨before, hbefore, ⟨⟨rfl, rfl, rfl, rfl⟩, hsets.peek⟩, rfl, rfl⟩
  | cons n ns =>
    have hsets := d.sets_put (.neighbors layer id) (Record.neighbors (n :: ns))
    exact ⟨before, hbefore, ⟨⟨rfl, rfl, rfl, rfl⟩, hsets.peek⟩, rfl, rfl⟩

theorem listLength_neighbors (key : Bytes) (ids : List String) :
    listLength key (if ids.isEmpty then none else some (Record.neighbors ids)) = .ok ids.length := by
  cases ids with
  | nil => rfl
  | cons n ns =>
    rw [List.isEmpty_cons, if_neg Bool.false_ne_true, listLength, Record.neighbors?_neighbors]
    rfl

theorem rewires_setNeighbors (hd : d.Readable) {layer : ℕ} {id : String} {ids : List String}
    (h : d.setNeighbors layer id ids = .ok d') : d.Rewires d' := by
  obtain ⟨before, hbefore, hsets, hadjacency, hcount⟩ := exists_of_setNeighbors h
  have hmoved := moved_add (hsets.adjacencyEntries hd (listLength_of_neighbors hd hbefore)
    (listLength_neighbors _ ids)) (before.length - d.adjacencyChange)
  have hnew : -(ids.length : ℤ) + (before.length - d.adjacencyChange) = -d'.adjacencyChange := by omega
  have hold : -(before.length : ℤ) + (before.length - d.adjacencyChange) = -d.adjacencyChange := by omega
  rw [hnew, hold] at hmoved
  exact hsets.rewires hd (fun _ => nofun) nofun hmoved hcount

theorem rewires_addNeighbor (hd : d.Readable) {layer : ℕ} {a b : String}
    (h : d.addNeighbor layer a b = .ok d') : d.Rewires d' := by
  obtain ⟨ids, -, h⟩ := exists_of_bind_ok h
  split at h
  · obtain rfl := Except.ok.inj h
    exact .refl d
  · exact rewires_setNeighbors hd h

theorem rewires_dropNeighbor (hd : d.Readable) {layer : ℕ} {a b : String}
    (h : d.dropNeighbor layer a b = .ok d') : d.Rewires d' := by
  obtain ⟨ids, -, h⟩ := exists_of_bind_ok h
  dsimp only at h
  split at h
  · obtain rfl := Except.ok.inj h
    exact .refl d
  · exact rewires_setNeighbors hd h

theorem rewires_link (hd : d.Readable) {layer : ℕ} {a b : String} (h : d.link layer a b = .ok d') :
    d.Rewires d' := by
  obtain ⟨middle, hfirst, hsecond⟩ := exists_of_bind_ok h
  have hmiddle := rewires_addNeighbor hd hfirst
  exact hmiddle.trans (rewires_addNeighbor (hd.of_base hmiddle.base) hsecond)

theorem rewires_unlink (hd : d.Readable) {layer : ℕ} {a b : String} (h : d.unlink layer a b = .ok d') :
    d.Rewires d' := by
  obtain ⟨middle, hfirst, hsecond⟩ := exists_of_bind_ok h
  have hmiddle := rewires_dropNeighbor hd hfirst
  exact hmiddle.trans (rewires_dropNeighbor (hd.of_base hmiddle.base) hsecond)

theorem rewires_setEntryPoint (hd : d.Readable) (e : Option EntryPoint) : d.Rewires (d.setEntryPoint e) := by
  have hsets : d.Sets (d.setEntryPoint e) .entryPoint (e.map Record.entryPoint) := by
    cases e with
    | none => exact d.sets_delete .entryPoint
    | some e => exact d.sets_put .entryPoint (Record.entryPoint e)
  refine hsets.rewires hd (fun _ => nofun) nofun ?_ (by cases e <;> rfl)
  rw [hsets.adjacencyEntries_of_ne hd fun _ _ => nofun]
  cases e <;> rfl

/-- A node has been put in or taken out and counted: no list of neighbours and no other node has changed. -/
structure Recounts (d d' : Draft) (id : String) (change : ℤ) : Prop where
  base : Shows.SameBase d d'
  vector : ∀ other, other ≠ id → d'.vector other = d.vector other
  adjacency : d'.adjacencyEntries = d.adjacencyEntries
  adjacencyChange : d'.adjacencyChange = d.adjacencyChange
  count : ∃ n, d.count = .ok n ∧ d'.count = .ok (signedWord (signedWord n + change)).toNat
  countChange : d'.countChange = d.countChange + change

theorem exists_of_adjustCount {change : ℤ} (h : d.adjustCount change = .ok d') : ∃ n, d.count = .ok n ∧
    d.Sets d' .count (some (Record.count (signedWord (signedWord n + change)).toNat)) ∧
    d'.adjacencyChange = d.adjacencyChange ∧ d'.countChange = d.countChange + change := by
  obtain ⟨n, hn, h⟩ := exists_of_bind_ok h
  obtain rfl := Except.ok.inj h
  have hsets := d.sets_put .count (Record.count (signedWord (signedWord n + change)).toNat)
  exact ⟨n, hn, ⟨⟨rfl, rfl, rfl, rfl⟩, hsets.peek⟩, rfl, rfl⟩

theorem recounts_adjustCount {d₁ d₂ : Draft} (hd : d.Readable) {id : String} {bytes level : Option Bytes}
    {change : ℤ} (hbytes : d.Sets d₁ (.vector id) bytes) (hlevel : d₁.Sets d₂ (.node id) level)
    (hadjacency : d₂.adjacencyChange = d.adjacencyChange) (hcount : d₂.countChange = d.countChange)
    (h : d₂.adjustCount change = .ok d') : d.Recounts d' id change := by
  have hd₁ := hd.of_base hbytes.base
  have hd₂ := hd₁.of_base hlevel.base
  obtain ⟨n, hn, hsets, hadjacency', hcount'⟩ := exists_of_adjustCount h
  refine ⟨(hbytes.base.trans hlevel.base).trans hsets.base, fun other hne => ?_, ?_,
    hadjacency'.trans hadjacency, ⟨n, ?_, ?_⟩, hcount'.trans (congrArg (· + change) hcount)⟩
  · rw [hsets.vector_of_ne hd₂ nofun, hlevel.vector_of_ne hd₁ nofun,
      hbytes.vector_of_ne hd fun heq => hne (GraphKey.vector.inj heq)]
  · rw [hsets.adjacencyEntries_of_ne hd₂ fun _ _ => nofun, hlevel.adjacencyEntries_of_ne hd₁ fun _ _ => nofun,
      hbytes.adjacencyEntries_of_ne hd fun _ _ => nofun]
  · rw [← hn, hlevel.count_of_ne hd₁ nofun, hbytes.count_of_ne hd nofun]
  · exact hsets.count hd₂ (Graph.signedWord_lt _)

theorem recounts_putNode (hd : d.Readable) {id : String} {v : Embedding} {level : ℕ}
    (h : d.putNode id v level = .ok d') : d.Recounts d' id 1 :=
  recounts_adjustCount hd (d.sets_put (.vector id) _) (Draft.sets_put _ (.node id) _) rfl rfl h

theorem recounts_removeNode (hd : d.Readable) {id : String} (h : d.removeNode id = .ok d') :
    d.Recounts d' id (-1) :=
  recounts_adjustCount hd (d.sets_delete (.vector id)) (Draft.sets_delete _ (.node id)) rfl rfl h

theorem vector_of_putNode (hd : d.Readable) {id : String} {v : Embedding} {level : ℕ}
    (hv : v.length = d.dimension) (h : d.putNode id v level = .ok d') : d'.vector id = .ok v := by
  have hput := d.sets_put (.vector id) (Embedding.encode v)
  have hnode := Draft.sets_put (d.put (d.keys.vector id) (Embedding.encode v)) (.node id) (Record.level level)
  have hd₁ := hd.of_base hput.base
  obtain ⟨n, -, hsets, -⟩ := exists_of_adjustCount h
  rw [hsets.vector_of_ne (hd₁.of_base hnode.base) nofun]
  exact (hnode.vector_of_ne hd₁ nofun).trans (hput.vector hd hv)

/-- A count that reaches zero from a negative number or is stopped there. -/
def HitsZeroFromBelow (n : ℕ) (change : ℤ) : Prop :=
  let next := signedWord (signedWord n + change)
  next < 0 ∨ next = 0 ∧ signedWord n < 0

instance (n : ℕ) (change : ℤ) : Decidable (HitsZeroFromBelow n change) :=
  inferInstanceAs (Decidable (_ ∨ _))

theorem toNat_signedWord {n : ℕ} {change : ℤ} (hn : n < 0x10000000000000000) (hstep : change.natAbs ≤ 1)
    (h : ¬ HitsZeroFromBelow n change) : ((signedWord (signedWord n + change)).toNat : ℤ) = n + change := by
  rw [HitsZeroFromBelow] at h
  simp only [signedWord, Int.bmod_def] at h ⊢
  omega

theorem toNat_bytes_lt (b : Bytes) : b.toNat < 256 ^ b.length := by
  induction b with
  | nil => exact Nat.one_pos
  | cons first rest ih =>
    have hfirst := first.toNat_lt
    rw [Bytes.toNat, List.length_cons, Nat.pow_succ]
    omega

theorem count_lt {n : ℕ} (h : d.count = .ok n) : n < 0x10000000000000000 := by
  obtain ⟨found, -, h⟩ := exists_of_bind_ok h
  cases found with
  | none =>
    rw [← Except.ok.inj h]
    decide
  | some bytes =>
    have hread : readable (.countLength bytes.length) (Record.count? bytes) = .ok n := h
    have hbound := toNat_bytes_lt bytes
    rw [Record.count?] at hread
    split at hread
    · next hlength =>
      rw [hlength] at hbound
      rw [← Except.ok.inj hread]
      exact hbound
    · cases hread

theorem Recounts.moved_count {id : String} {change : ℤ} (h : d.Recounts d' id change)
    (hstep : change.natAbs ≤ 1) (hzero : ∀ n ∈ d.count.toOption, ¬ HitsZeroFromBelow n change) :
    moved d'.count (-d'.countChange) = moved d.count (-d.countChange) := by
  obtain ⟨n, hn, hnext⟩ := h.count
  have hmove := toNat_signedWord (count_lt hn) hstep (hzero n (by rw [hn]; exact rfl))
  rw [hn, hnext, h.countChange]
  refine congrArg Except.ok ?_
  show ((signedWord (signedWord n + change)).toNat : ℤ) + -(d.countChange + change) = n + -d.countChange
  omega

end Draft

end HybridSearch

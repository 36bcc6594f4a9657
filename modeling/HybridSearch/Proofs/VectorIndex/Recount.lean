import HybridSearch.Proofs.VectorIndex.Tally
import Mathlib.Algebra.GroupWithZero.Nat
import Mathlib.Algebra.Order.BigOperators.Group.List
import Mathlib.Algebra.Order.Group.Nat
import Mathlib.Data.String.Basic

/-!
# Recounting a store

What opening an index counts in a store that holds a graph: the stored count, the keys of nodes and the
lengths of the stored neighbour lists are the figures of the graph. A store that a machine word can address
has room for fewer nodes and entries than the figures can tell.
-/
namespace HybridSearch

namespace Store

def byteCount (s : Store) : ℕ := (s.entries.map fun e => e.1.length + e.2.length).sum

def Addressable (s : Store) : Prop := s.byteCount < 0x10000000000000000

instance (s : Store) : Decidable s.Addressable := inferInstanceAs (Decidable (_ < _))

theorem sum_scan_le_byteCount (s : Store) (lead : Bytes) {f : Bytes × Bytes → ℕ}
    (hf : ∀ e ∈ s.scan lead, f e ≤ e.1.length + e.2.length) :
    ((s.scan lead).map f).sum ≤ s.byteCount := by
  have hle := List.sum_le_sum hf
  have hsub : (s.scan lead).Sublist s.entries := by
    rw [ByteMap.scan_eq_filter]
    exact List.filter_sublist
  have hall := (hsub.map fun e => e.1.length + e.2.length).sum_le_sum fun _ _ => Nat.zero_le _
  exact hle.trans hall

end Store

theorem length_le_utf8Len (cs : List Char) : cs.length ≤ String.utf8Len cs := by
  induction cs with
  | nil => exact Nat.le_refl 0
  | cons c cs ih =>
    have hpos := c.utf8Size_pos
    rw [String.utf8Len_cons, List.length_cons]
    omega

theorem length_compactItems (ids : List String) :
    ids.length ≤ (Json.compactItems (ids.map .text)).length := by
  induction ids with
  | nil => exact Nat.zero_le _
  | cons id ids ih =>
    have htext : 1 ≤ (Json.textLiteral id).length := by simp [Json.textLiteral]
    cases ids with
    | nil =>
      rw [List.map_singleton, Json.compactItems, Json.compactChars, List.length_append,
        List.length_singleton, List.length_singleton]
      omega
    | cons next ids =>
      have hitems : Json.compactItems ((id :: next :: ids).map .text) =
          Json.textLiteral id ++ ',' :: Json.compactItems ((next :: ids).map .text) := rfl
      calc (next :: ids).length + 1
        _ ≤ (',' :: Json.compactItems ((next :: ids).map .text)).length := Nat.succ_le_succ ih
        _ ≤ (Json.compactItems ((id :: next :: ids).map .text)).length := by
          rw [hitems, List.length_append]
          exact Nat.le_add_left _ _

theorem Record.length_neighbors (ids : List String) : ids.length ≤ (Record.neighbors ids).length := by
  have hitems := length_compactItems ids
  have hchars := length_le_utf8Len (Json.compactChars (.list (ids.map .text)))
  rw [Record.neighbors, Record.encode, Json.compact, Bytes.length_ofString,
    String.utf8ByteSize_ofList]
  rw [Json.compactChars, List.length_cons] at hchars
  rw [Json.compactChars]
  omega

theorem Draft.foldlM_lengths {entries : List (Bytes × Bytes)}
    {step : ℕ → Bytes × Bytes → Except VectorError ℕ} {f : Bytes × Bytes → ℕ}
    (hstep : ∀ total, ∀ e ∈ entries, step total e = .ok (total + f e)) (total : ℕ) :
    entries.foldlM step total = .ok (total + (entries.map f).sum) := by
  induction entries generalizing total with
  | nil => rfl
  | cons e entries ih =>
    rw [List.foldlM_cons, hstep total e List.mem_cons_self, List.map_cons, List.sum_cons,
      ← Nat.add_assoc]
    exact ih (fun total e he => hstep total e (List.mem_cons_of_mem _ he)) _

namespace VectorIndex

variable {config : VectorConfig} {content : Store} {store : StoreHandle} {g : Graph}

theorem scan_start (hscan : store.faults.scan = none) (lead : Bytes) :
    (Draft.start config store).scan lead = .ok (store.content.scan lead) := by
  rw [Draft.scan]
  show (Draft.ofStore (store.scan lead) >>= _) = _
  rw [StoreHandle.scan, hscan]
  rfl

theorem Holds.scan_nodes (h : Holds config content g) :
    content.scan (KeySpace.ofPrefix config.keyPrefix).nodeLead = g.ids.map fun id =>
      ((KeySpace.ofPrefix config.keyPrefix).node id, Record.level (g.level id)) := by
  have hshows : Draft.Shows config { content } (Draft.start config { content }) g.settled :=
    Holds.shows_start h rfl rfl
  have hscan : (Draft.start config { content }).scan (KeySpace.ofPrefix config.keyPrefix).nodeLead =
      .ok (content.scan (KeySpace.ofPrefix config.keyPrefix).nodeLead) :=
    scan_start rfl _
  exact Except.ok.inj (hscan.symm.trans hshows.scan_nodes)

theorem Holds.length_ids_lt (h : Holds config content g) (hsize : content.Addressable) :
    g.ids.length < 0x8000000000000000 := by
  have hkeys := content.sum_scan_le_byteCount (KeySpace.ofPrefix config.keyPrefix).nodeLead
    (f := fun _ => 2) (by
      intro e he
      rw [h.scan_nodes] at he
      obtain ⟨id, -, rfl⟩ := List.mem_map.mp he
      have hlead : 5 = (Bytes.ofString "meta:").length := by decide
      simp only [KeySpace.node, KeySpace.nodeLead, List.length_append, ← hlead]
      omega)
  rw [h.scan_nodes, List.map_map] at hkeys
  have hsum : (g.ids.map fun _ => 2).sum = 2 * g.ids.length := by
    rw [List.map_const', List.sum_replicate, Nat.nsmul_eq_mul, Nat.mul_comm]
  have hlt : content.byteCount < 0x10000000000000000 := hsize
  have hle : (g.ids.map fun _ => 2).sum ≤ content.byteCount := hkeys
  omega

def listLength (e : Bytes × Bytes) : ℕ := ((Record.neighbors? e.2).getD []).length

theorem Holds.mem_scan_neighbors (h : Holds config content g) {e : Bytes × Bytes} :
    e ∈ content.scan (KeySpace.ofPrefix config.keyPrefix).neighborsLead ↔
      ∃ layer id, g.neighbors layer id ≠ [] ∧
        e = ((KeySpace.ofPrefix config.keyPrefix).neighbors layer id,
          Record.neighbors (g.neighbors layer id)) := by
  obtain ⟨key, value⟩ := e
  rw [ByteMap.mem_scan_iff]
  constructor
  · rintro ⟨hlead, hfound⟩
    have hprefix : key.startsWith (KeySpace.ofPrefix config.keyPrefix).lead = true := by
      rw [Bytes.startsWith_iff] at hlead ⊢
      exact (List.prefix_append _ _).trans hlead
    obtain ⟨name, rfl⟩ := h.named key value hprefix hfound
    obtain ⟨layer, id, rfl⟩ := KeySpace.startsWith_neighborsLead_iff.mp hlead
    rw [h.found, Graph.stored] at hfound
    split at hfound
    · cases hfound
    · next hne =>
      obtain rfl := Option.some.inj hfound
      exact ⟨layer, id, hne, rfl⟩
  · rintro ⟨layer, id, hne, heq⟩
    obtain ⟨rfl, rfl⟩ := Prod.mk.inj heq
    have hlead : ((KeySpace.ofPrefix config.keyPrefix).bytes (.neighbors layer id)).startsWith
        (KeySpace.ofPrefix config.keyPrefix).neighborsLead = true :=
      KeySpace.startsWith_neighborsLead_iff.mpr ⟨layer, id, rfl⟩
    exact ⟨hlead, (h.found (.neighbors layer id)).trans (if_neg hne)⟩

theorem Holds.sum_listLength (h : Holds config content g) :
    ((content.scan (KeySpace.ofPrefix config.keyPrefix).neighborsLead).map listLength).sum =
      g.entries := by
  have hnodup := ByteMap.nodup_of_ascending
    (ByteMap.ascending_scan content (KeySpace.ofPrefix config.keyPrefix).neighborsLead)
  let entryAt : ℕ × String → Bytes × Bytes := fun p =>
    ((KeySpace.ofPrefix config.keyPrefix).neighbors p.1 p.2, Record.neighbors (g.neighbors p.1 p.2))
  have hscan : (content.scan (KeySpace.ofPrefix config.keyPrefix).neighborsLead).toFinset =
      (g.places.filter fun p => g.neighbors p.1 p.2 ≠ []).image entryAt := by
    ext e
    rw [List.mem_toFinset, h.mem_scan_neighbors, Finset.mem_image]
    constructor
    · rintro ⟨layer, id, hne, rfl⟩
      have hplace := h.sound.wired.mem_places h.sound.fits layer id hne
      exact ⟨(layer, id), Finset.mem_filter.mpr ⟨hplace, hne⟩, rfl⟩
    · rintro ⟨p, hp, rfl⟩
      exact ⟨p.1, p.2, (Finset.mem_filter.mp hp).2, rfl⟩
  have hinjective : Function.Injective entryAt := by
    intro p q heq
    have hkey : (KeySpace.ofPrefix config.keyPrefix).bytes (.neighbors p.1 p.2) =
        (KeySpace.ofPrefix config.keyPrefix).bytes (.neighbors q.1 q.2) := congrArg Prod.fst heq
    obtain ⟨hlayer, hid⟩ := GraphKey.neighbors.inj (KeySpace.bytes_inj.mp hkey)
    exact Prod.ext hlayer hid
  have hlength : ∀ p, listLength (entryAt p) = (g.neighbors p.1 p.2).length := by
    intro p
    rw [listLength, Record.neighbors?_neighbors]
    rfl
  rw [← List.sum_toFinset listLength hnodup, hscan,
    Finset.sum_image hinjective.injOn, Graph.entries, Finset.sum_filter]
  refine Finset.sum_congr rfl fun p _ => ?_
  split
  · exact hlength p
  · next hnil =>
    rw [not_ne_iff.mp hnil]
    rfl

theorem Holds.entries_lt (h : Holds config content g) (hsize : content.Addressable) :
    g.entries < 0x10000000000000000 := by
  rw [← h.sum_listLength]
  refine Nat.lt_of_le_of_lt (content.sum_scan_le_byteCount _ ?_) hsize
  intro e he
  obtain ⟨layer, id, -, rfl⟩ := h.mem_scan_neighbors.mp he
  have hlength := Record.length_neighbors (g.neighbors layer id)
  rw [listLength, Record.neighbors?_neighbors]
  exact hlength.trans (Nat.le_add_left _ _)

theorem Holds.adjacencyEntries_start (h : Holds config store.content g)
    (hscan : store.faults.scan = none) :
    (Draft.start config store).adjacencyEntries = .ok g.entries := by
  rw [Draft.adjacencyEntries]
  show ((Draft.start config store).scan (KeySpace.ofPrefix config.keyPrefix).neighborsLead >>= _) = _
  rw [scan_start hscan, ← h.sum_listLength]
  refine (Draft.foldlM_lengths (f := listLength) (fun total e he => ?_) 0).trans ?_
  · obtain ⟨layer, id, -, rfl⟩ := h.mem_scan_neighbors.mp he
    rw [listLength, Record.neighbors?_neighbors]
    rfl
  · rw [Nat.zero_add]

end VectorIndex

end HybridSearch

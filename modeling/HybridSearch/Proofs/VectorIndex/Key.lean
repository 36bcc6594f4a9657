import HybridSearch.Proofs.Bytes
import HybridSearch.Proofs.Store.Contents
import HybridSearch.VectorIndex.Key

/-!
# Keys of the stored graph are unambiguous

`GraphKey` names what an index stores, whatever its prefix. Under one prefix different names give
different keys, also when ids contain colons or look like other keys.
-/
namespace HybridSearch

/-- What a key is for. -/
inductive GraphKey where
  | vector (id : String)
  | node (id : String)
  | neighbors (layer : Nat) (id : String)
  | entryPoint
  | count
  deriving DecidableEq, Repr

namespace KeySpace

def bytes (k : KeySpace) : GraphKey → Bytes
  | .vector id => k.vector id
  | .node id => k.node id
  | .neighbors layer id => k.neighbors layer id
  | .entryPoint => k.entryPoint
  | .count => k.count

theorem toNat_of_mem_toDigits {n : Nat} {c : Char} (h : c ∈ Nat.toDigits 10 n) :
    48 ≤ c.toNat ∧ c.toNat ≤ 57 :=
  Char.isDigit_iff_toNat.mp (Nat.isDigit_of_mem_toDigits (by decide) (by decide) h)

theorem toNat_ofNat_digit {n : Nat} {c : Char} (h : c ∈ Nat.toDigits 10 n) :
    (UInt8.ofNat c.toNat).toNat = c.toNat := by
  have := toNat_of_mem_toDigits h
  rw [UInt8.toNat_ofNat']
  omega

theorem map_digits (n : Nat) :
    (digits n).map (fun b => Char.ofNat b.toNat) = Nat.toDigits 10 n := by
  rw [digits, List.map_map]
  refine (List.map_congr_left fun c hc => ?_).trans (List.map_id _)
  simp [toNat_ofNat_digit hc]

theorem digits_injective {m n : Nat} (h : digits m = digits n) : m = n := by
  have hchars : Nat.toDigits 10 m = Nat.toDigits 10 n := by rw [← map_digits, h, map_digits]
  simpa using congrArg (Nat.ofDigitChars 10 · 0) hchars

theorem colon_notMem_digits (n : Nat) : (58 : UInt8) ∉ digits n := by
  intro h
  obtain ⟨c, hc, heq⟩ := List.mem_map.mp h
  have hrange := toNat_of_mem_toDigits hc
  have hbyte := toNat_ofNat_digit hc
  rw [heq] at hbyte
  have hcolon : (58 : UInt8).toNat = 58 := rfl
  omega

theorem append_cons_inj {s : UInt8} {a b x y : Bytes} (ha : s ∉ a) (hb : s ∉ b)
    (h : a ++ s :: x = b ++ s :: y) : a = b ∧ x = y := by
  induction a generalizing b with
  | nil =>
    cases b with
    | nil => exact ⟨rfl, (List.cons.inj h).2⟩
    | cons c cs => exact absurd ((List.cons.inj h).1 ▸ List.mem_cons_self) hb
  | cons c cs ih =>
    cases b with
    | nil => exact absurd ((List.cons.inj h).1 ▸ List.mem_cons_self) ha
    | cons e es =>
      obtain ⟨hce, hrest⟩ := List.cons.inj h
      obtain ⟨hab, hxy⟩ := ih (List.not_mem_of_not_mem_cons ha) (List.not_mem_of_not_mem_cons hb)
        hrest
      exact ⟨by rw [hce, hab], hxy⟩

def tail : GraphKey → Bytes
  | .vector id => Bytes.ofString "vector:" ++ Bytes.ofString id
  | .node id => Bytes.ofString "meta:" ++ Bytes.ofString id
  | .neighbors layer id =>
    Bytes.ofString "neighbors:" ++ (digits layer ++ 58 :: Bytes.ofString id)
  | .entryPoint => Bytes.ofString "entrypoint"
  | .count => Bytes.ofString "count"

theorem bytes_eq (k : KeySpace) (key : GraphKey) : k.bytes key = k.lead ++ tail key := by
  have hcolon : Bytes.ofString ":" = [58] := rfl
  cases key <;>
    simp [bytes, tail, vector, node, nodeLead, neighbors, layerLead, neighborsLead, entryPoint,
      count, hcolon]

/-- Names of different kinds differ in the first byte behind the prefix. -/
def kindByte : GraphKey → UInt8
  | .vector _ => 118
  | .node _ => 109
  | .neighbors _ _ => 110
  | .entryPoint => 101
  | .count => 99

theorem head?_tail (key : GraphKey) : (tail key).head? = some (kindByte key) := by
  cases key <;> rfl

theorem tail_injective {a b : GraphKey} (h : tail a = tail b) : a = b := by
  have hkind : kindByte a = kindByte b :=
    Option.some_inj.mp (by rw [← head?_tail, h, head?_tail])
  cases a <;> cases b <;> simp [kindByte] at hkind
  case vector.vector x y =>
    rw [Bytes.ofString_injective (List.append_cancel_left h)]
  case node.node x y =>
    rw [Bytes.ofString_injective (List.append_cancel_left h)]
  case neighbors.neighbors l x m y =>
    obtain ⟨hl, hx⟩ := append_cons_inj (colon_notMem_digits l) (colon_notMem_digits m)
      (List.append_cancel_left h)
    rw [digits_injective hl, Bytes.ofString_injective hx]
  case entryPoint.entryPoint => rfl
  case count.count => rfl

theorem bytes_inj {k : KeySpace} {a b : GraphKey} : k.bytes a = k.bytes b ↔ a = b := by
  refine ⟨fun h => ?_, congrArg _⟩
  rw [bytes_eq, bytes_eq] at h
  exact tail_injective (List.append_cancel_left h)

theorem startsWith_lead (k : KeySpace) (key : GraphKey) :
    (k.bytes key).startsWith k.lead = true := by
  rw [bytes_eq]
  exact Bytes.startsWith_append _ _

theorem kindByte_of_startsWith {k : KeySpace} {key : GraphKey} {lead : Bytes} {first : UInt8}
    (hlead : lead.head? = some first) (h : (k.bytes key).startsWith (k.lead ++ lead) = true) :
    kindByte key = first := by
  rw [Bytes.startsWith_iff, bytes_eq, List.prefix_append_right_inj] at h
  obtain ⟨rest, hrest⟩ := h
  have hkind := head?_tail key
  rw [← hrest, List.head?_append, hlead] at hkind
  exact (Option.some_inj.mp hkind).symm

theorem startsWith_nodeLead_iff {k : KeySpace} {key : GraphKey} :
    (k.bytes key).startsWith k.nodeLead = true ↔ ∃ id, key = .node id := by
  constructor
  · intro h
    have hkind : kindByte key = 109 := kindByte_of_startsWith rfl h
    cases key with
    | node id => exact ⟨id, rfl⟩
    | _ => simp [kindByte] at hkind
  · rintro ⟨id, rfl⟩
    exact Bytes.startsWith_append _ _

/-- The keys of neighbour lists are the only ones that start like keys of neighbour lists. -/
theorem startsWith_neighborsLead_iff {k : KeySpace} {key : GraphKey} :
    (k.bytes key).startsWith k.neighborsLead = true ↔ ∃ layer id, key = .neighbors layer id := by
  constructor
  · intro h
    have hkind : kindByte key = 110 := kindByte_of_startsWith rfl h
    cases key with
    | neighbors layer id => exact ⟨layer, id, rfl⟩
    | _ => simp [kindByte] at hkind
  · rintro ⟨layer, id, rfl⟩
    simp only [bytes, neighbors, layerLead, List.append_assoc]
    exact Bytes.startsWith_append _ _

@[simp]
theorem idOfNode?_node (k : KeySpace) (id : String) : k.idOfNode? (k.node id) = some id := by
  have hs : (k.node id).startsWith k.nodeLead = true := Bytes.startsWith_append _ _
  rw [idOfNode?, if_pos hs, node, List.drop_left]
  exact Bytes.toString?_ofString id

theorem idOfNode?_eq_some_iff {k : KeySpace} {key : Bytes} {id : String} :
    k.idOfNode? key = some id ↔ key = k.node id := by
  refine ⟨fun h => ?_, fun h => h ▸ idOfNode?_node k id⟩
  rw [idOfNode?] at h
  split at h
  · next hlead =>
    obtain ⟨rest, rfl⟩ := Bytes.startsWith_iff.mp hlead
    rw [List.drop_left] at h
    rw [node, Bytes.eq_ofString_of_toString? h]
  · cases h

theorem order_node (k : KeySpace) (a b : String) :
    Bytes.order (k.node a) (k.node b) = String.byteOrder a b :=
  Bytes.order_append_append _ _ _

/-- What the keys under one prefix tell apart: each says what it is for, those of nodes and of neighbour lists
stand by themselves, and the ids of nodes can be read back and are in the order of their keys. -/
structure Unambiguous (k : KeySpace) : Prop where
  injective : Function.Injective k.bytes
  nodes : ∀ key, k.nodeLead <+: k.bytes key ↔ ∃ id, key = .node id
  neighbors : ∀ key, k.neighborsLead <+: k.bytes key ↔ ∃ layer id, key = .neighbors layer id
  readBack : ∀ key id, k.idOfNode? key = some id ↔ key = k.node id
  ordered : ∀ a b, Bytes.order (k.node a) (k.node b) = Bytes.order (Bytes.ofString a) (Bytes.ofString b)

/-- Whatever the prefix and the ids, no key can be taken for another. -/
theorem unambiguous (k : KeySpace) : k.Unambiguous where
  injective _ _ h := bytes_inj.mp h
  nodes _ := Bytes.startsWith_iff.symm.trans startsWith_nodeLead_iff
  neighbors _ := Bytes.startsWith_iff.symm.trans startsWith_neighborsLead_iff
  readBack _ _ := idOfNode?_eq_some_iff
  ordered := k.order_node

def vectorLead (k : KeySpace) : Bytes := k.lead ++ Bytes.ofString "vector:"

/-- The id in a key of an embedding, unless it is not a text. -/
def idOfVector? (k : KeySpace) (key : Bytes) : Option String :=
  if key.startsWith k.vectorLead then Bytes.toString? (key.drop k.vectorLead.length) else none

theorem startsWith_vectorLead_iff {k : KeySpace} {key : GraphKey} :
    (k.bytes key).startsWith k.vectorLead = true ↔ ∃ id, key = .vector id := by
  constructor
  · intro h
    have hkind : kindByte key = 118 := kindByte_of_startsWith rfl h
    cases key with
    | vector id => exact ⟨id, rfl⟩
    | _ => simp [kindByte] at hkind
  · rintro ⟨id, rfl⟩
    exact Bytes.startsWith_append _ _

@[simp]
theorem idOfVector?_vector (k : KeySpace) (id : String) : k.idOfVector? (k.vector id) = some id := by
  have hs : (k.vector id).startsWith k.vectorLead = true := Bytes.startsWith_append _ _
  rw [idOfVector?, if_pos hs, vector, ← vectorLead, List.drop_left]
  exact Bytes.toString?_ofString id

theorem order_vector (k : KeySpace) (a b : String) :
    Bytes.order (k.vector a) (k.vector b) = String.byteOrder a b :=
  Bytes.order_append_append _ _ _

end KeySpace

end HybridSearch

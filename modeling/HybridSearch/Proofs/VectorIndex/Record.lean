import HybridSearch.Proofs.Json.ReadBack
import HybridSearch.Proofs.VectorIndex.Key
import HybridSearch.VectorIndex.Record
import HybridSearch.Embedding

/-!
# Stored records read back

Each record of the graph is decoded to what was encoded. Levels and counts have to fit in the words that
they are stored in.
-/
namespace HybridSearch

namespace Record

theorem decode?_encode {α : Type} (decoder : Decoder α) {j : Json} (h : j.isPlain = true) :
    decode? decoder (encode j) = decoder documentDepth j.toDatum := by
  rw [decode?, encode, Json.readBytes?, Bytes.toString?_ofString, Option.bind_some,
    Json.read?_compact h, Option.bind_some]

theorem isPlain_ofNat {n : Nat} (h : n < 0x10000000000000000) : (Json.ofNat n).isPlain = true := by
  simp [Json.ofNat, Json.isPlain, Number.isWord]
  omega

theorem natural_ofNat {n : Nat} (h : n < 0x10000000000000000) (depth : Nat) :
    Decoder.natural depth (Json.ofNat n).toDatum = some n := by
  have hword : (0 : Int) ≤ n ∧ (n : Int) < 0x10000000000000000 := by omega
  rw [Json.ofNat, Json.toDatum, Decoder.natural, if_pos hword, Int.toNat_natCast]

theorem required_eq {α : Type} {f : Fields} {name : String} {d : Datum} (decode : Decoder α)
    (h : f.given.lookup name = some d) : f.required name decode = decode f.depth d := by
  rw [Fields.required, h, Option.bind_some]

theorem level?_level {n : Nat} (h : n < 0x10000000000000000) : level? (level n) = some n := by
  have hplain : (Json.object [("level", Json.ofNat n)]).isPlain = true := by
    simp [Json.isPlain, Json.arePlainMembers, isPlain_ofNat h]
  have hfields : Fields.decode? ["level"] documentDepth
      (Json.object [("level", Json.ofNat n)]).toDatum =
        some ⟨127, [("level", (Json.ofNat n).toDatum)]⟩ := rfl
  rw [level?, level, decode?_encode _ hplain, levelDecoder, hfields, Option.bind_eq_bind,
    Option.bind_some, required_eq _ rfl]
  exact natural_ofNat h _

theorem entryPoint?_entryPoint {e : EntryPoint} (h : e.level < 0x10000000000000000) :
    entryPoint? (entryPoint e) = some e := by
  have hplain : (Json.object [("id", .text e.id), ("level", Json.ofNat e.level)]).isPlain = true := by
    simp [Json.isPlain, Json.arePlainMembers, isPlain_ofNat h]
  have hfields : Fields.decode? ["id", "level"] documentDepth
      (Json.object [("id", .text e.id), ("level", Json.ofNat e.level)]).toDatum =
        some ⟨127, [("id", .text e.id), ("level", (Json.ofNat e.level).toDatum)]⟩ := rfl
  rw [entryPoint?, entryPoint, decode?_encode _ hplain, entryPointDecoder, hfields,
    Option.bind_eq_bind, Option.bind_some, required_eq Decoder.string rfl,
    required_eq Decoder.natural rfl, natural_ofNat h]
  rfl

theorem arePlain_text (ids : List String) : Json.arePlain (ids.map .text) = true := by
  induction ids with
  | nil => rfl
  | cons id ids ih => simp [Json.arePlain, Json.isPlain, ih]

theorem mapM_string (depth : Nat) (ids : List String) :
    (Json.toData (ids.map .text)).mapM (Decoder.string depth) = some ids := by
  induction ids with
  | nil => rfl
  | cons id ids ih => simp [Json.toData, Json.toDatum, Decoder.string, ih]

@[simp]
theorem neighbors?_neighbors (ids : List String) : neighbors? (neighbors ids) = some ids := by
  rw [neighbors?, neighbors, decode?_encode _ (by rw [Json.isPlain]; exact arePlain_text ids)]
  simp [Json.toDatum, Decoder.list, documentDepth, mapM_string]

theorem toNat_ofUInt64 (w : UInt64) : Bytes.toNat (Bytes.ofUInt64 w) = w.toNat := by
  have h := w.toNat_lt
  simp [Bytes.ofUInt64, Bytes.toNat, Nat.shiftRight_eq_div_pow]
  omega

theorem count?_count {n : Nat} (h : n < 0x10000000000000000) : count? (count n) = some n := by
  have hlength : (Bytes.ofUInt64 (UInt64.ofNat n)).length = 8 := rfl
  rw [count?, count, if_pos hlength, toNat_ofUInt64, UInt64.toNat_ofNat_of_lt' h]

end Record

namespace Embedding

theorem length_encode (v : Embedding) : (encode v).length = v.length * 8 := by
  induction v with
  | nil => rfl
  | cons x v ih =>
    rw [encode, List.flatMap_cons, List.length_append, ← encode, ih, List.length_cons]
    simp only [Bytes.ofUInt64, List.length_cons, List.length_nil]
    omega

theorem decodeWords_encode (v : Embedding) : decodeWords (encode v) = v := by
  induction v with
  | nil => rfl
  | cons x v ih =>
    have hword := Record.toNat_ofUInt64 x.bits
    rw [Bytes.ofUInt64] at hword
    rw [encode, List.flatMap_cons, ← encode, Bytes.ofUInt64]
    simp only [List.cons_append, List.nil_append, decodeWords, hword, ih, UInt64.ofNat_toNat]

theorem decode_encode (v : Embedding) : decode (encode v) v.length = .ok v := by
  rw [decode, if_pos (length_encode v), decodeWords_encode]

end Embedding

end HybridSearch

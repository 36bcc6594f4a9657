import HybridSearch.Proofs.VectorIndex.Record
import Mathlib.Algebra.Group.Nat.Defs

/-!
# Embeddings and byte strings

The embeddings of a dimension and the byte strings of eight times that length are one thing written in two ways.
Decoding undoes encoding bit for bit, encoding undoes decoding, and bytes of any other length are refused.
-/
namespace HybridSearch

namespace Bytes

theorem toNat_lt (bs : Bytes) : toNat bs < 256 ^ bs.length := by
  induction bs with
  | nil => exact Nat.one_pos
  | cons b bs ih =>
    have hb := b.toNat_lt
    rw [toNat, List.length_cons, pow_succ]
    omega

theorem eq_of_toNat_eq {as bs : Bytes} (hlength : as.length = bs.length) (h : toNat as = toNat bs) :
    as = bs := by
  induction as generalizing bs with
  | nil => exact (List.length_eq_zero_iff.mp hlength.symm).symm
  | cons a as ih =>
    cases bs with
    | nil => cases hlength
    | cons b bs =>
      have ha := a.toNat_lt
      have hb := b.toNat_lt
      rw [toNat, toNat] at h
      have hfirst : a = b := UInt8.toNat_inj.mp (by omega)
      have hrest : as = bs := ih (Nat.succ.inj hlength) (by omega)
      rw [hfirst, hrest]

theorem ofUInt64_toNat {bs : Bytes} (h : bs.length = 8) : ofUInt64 (UInt64.ofNat (toNat bs)) = bs := by
  have hlt := toNat_lt bs
  rw [h] at hlt
  refine eq_of_toNat_eq h.symm ?_
  rw [Record.toNat_ofUInt64, UInt64.toNat_ofNat_of_lt' hlt]

end Bytes

namespace Embedding

variable {b : Bytes} {dimension : Nat}

theorem decodeWords_append {word : Bytes} (h : word.length = 8) (rest : Bytes) :
    decodeWords (word ++ rest) = ⟨UInt64.ofNat (Bytes.toNat word)⟩ :: decodeWords rest := by
  match word, h with
  | [_, _, _, _, _, _, _, _], _ => rfl

theorem encode_decodeWords (h : b.length = dimension * 8) :
    (decodeWords b).length = dimension ∧ encode (decodeWords b) = b := by
  induction dimension generalizing b with
  | zero =>
    obtain rfl := List.length_eq_zero_iff.mp (h.trans (Nat.zero_mul 8))
    exact ⟨rfl, rfl⟩
  | succ dimension ih =>
    have hword : (b.take 8).length = 8 := by
      rw [List.length_take]
      omega
    obtain ⟨hlength, hrest⟩ := ih (b := b.drop 8) (by rw [List.length_drop]; omega)
    have hdecode := decodeWords_append hword (b.drop 8)
    rw [List.take_append_drop] at hdecode
    refine ⟨by rw [hdecode, List.length_cons, hlength], ?_⟩
    rw [hdecode, encode, List.flatMap_cons, ← encode, Bytes.ofUInt64_toNat hword, hrest,
      List.take_append_drop]

theorem decode_eq_error_iff :
    decode b dimension = .error ⟨dimension * 8, b.length⟩ ↔ b.length ≠ dimension * 8 := by
  rw [decode]
  split
  · next h => simp [h]
  · next h => simp [h]

/-- An embedding is read back as it was, whatever the bits of its components. Bytes are refused, with the
length asked for and theirs, exactly when they are too few or too many; otherwise they are what the embedding
that is read from them is stored as. -/
theorem codec (v : Embedding) (b : Bytes) (dimension : Nat) :
    decode (encode v) v.length = .ok v ∧
    (decode b dimension = .error ⟨dimension * 8, b.length⟩ ↔ b.length ≠ dimension * 8) ∧
    ((∃ w, decode b dimension = .ok w ∧ w.length = dimension ∧ encode w = b) ↔
      b.length = dimension * 8) := by
  refine ⟨decode_encode v, decode_eq_error_iff, ?_, fun h => ?_⟩
  · rintro ⟨w, -, rfl, rfl⟩
    exact length_encode w
  · exact ⟨decodeWords b, if_pos h, encode_decodeWords h⟩

/-- The lowest byte comes first, and the sign and the payload of a NaN are kept. -/
example : encode [Binary64.one, ⟨0xfff0000000000123⟩] =
    [0, 0, 0, 0, 0, 0, 0xf0, 0x3f, 0x23, 0x01, 0, 0, 0, 0, 0xf0, 0xff] := by decide

end Embedding

end HybridSearch

import HybridSearch.Bytes

/-!
# Texts as bytes

A text is its bytes: different texts have different ones, the bytes of a text put together from two are
those of the two, and what is left of the bytes of a text behind those of another is a text again.
-/
namespace HybridSearch

namespace Bytes

theorem length_ofString (s : String) : (ofString s).length = s.utf8ByteSize := by
  rw [ofString, Array.length_toList]
  rfl

@[simp]
theorem toString?_ofString (s : String) : toString? (ofString s) = some s := by
  have hb : (⟨(ofString s).toArray⟩ : ByteArray) = s.toByteArray := by simp [ofString]
  rw [toString?, hb, String.fromUTF8?, dif_pos s.isValidUTF8]
  rfl

theorem ofString_injective {s t : String} (h : ofString s = ofString t) : s = t :=
  Option.some_inj.mp (by rw [← toString?_ofString s, h, toString?_ofString])

theorem eq_ofString_of_toString? {b : Bytes} {s : String} (h : toString? b = some s) : b = ofString s := by
  rw [toString?, String.fromUTF8?] at h
  split at h
  · obtain rfl := Option.some_inj.mp h
    simp [ofString, String.fromUTF8]
  · cases h

theorem ofString_append (s t : String) : ofString (s ++ t) = ofString s ++ ofString t := by
  simp [ofString]

theorem isValidUTF8_of_append (chars : List Char) (b : ByteArray)
    (h : (chars.utf8Encode ++ b).IsValidUTF8) : b.IsValidUTF8 := by
  induction chars with
  | nil => simpa using h
  | cons c chars ih =>
    rw [List.utf8Encode_cons, ByteArray.append_assoc] at h
    exact ih (ByteArray.isValidUTF8_utf8Encode_singleton_append_iff.mp h)

theorem exists_text_of_append {s t : String} {rest : Bytes} (h : ofString t = ofString s ++ rest) :
    ∃ u, rest = ofString u := by
  have harray : s.toByteArray ++ ⟨rest.toArray⟩ = t.toByteArray := by
    apply ByteArray.ext
    apply Array.ext'
    simpa [ofString] using h.symm
  have hvalid : (⟨rest.toArray⟩ : ByteArray).IsValidUTF8 := by
    refine isValidUTF8_of_append s.toList _ ?_
    rw [String.utf8Encode_toList, harray]
    exact t.isValidUTF8
  exact ⟨.ofByteArray _ hvalid, by simp [ofString]⟩

end Bytes

theorem String.byteOrder_eq_iff {a b : String} : String.byteOrder a b = .eq ↔ a = b :=
  Bytes.order_eq_iff.trans ⟨Bytes.ofString_injective, congrArg _⟩

end HybridSearch

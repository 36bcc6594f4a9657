import HybridSearch.Config.TextConfig
import HybridSearch.Proofs.Text.Words
import Mathlib.Data.String.Basic

/-!
# Accepted settings of the text index

The checks of the text index accept a short prefix of letters, digits and underscores, and a tokenizer whose
words name one that is known. Nothing but such characters and white space is left in an accepted tokenizer.
-/
namespace HybridSearch

namespace TextConfig

def IsPlain (c : Char) : Prop :=
  ('a' ≤ c ∧ c ≤ 'z') ∨ ('A' ≤ c ∧ c ≤ 'Z') ∨ ('0' ≤ c ∧ c ≤ '9') ∨ c = '_'

def IsBase : List (List Char) → Prop
  | [] => False
  | base :: arguments =>
    (base = "unicode61".toList ∨ base = "ascii".toList) ∧ ∀ word ∈ arguments, ∀ c ∈ word, IsPlain c

/-- The words of a tokenizer: the stemmer alone, or a known tokenizer, which the stemmer may stand
before. -/
inductive NamesTokenizer : List (List Char) → Prop
  | stemmer : NamesTokenizer ["porter".toList]
  | base {words : List (List Char)} (h : IsBase words) : NamesTokenizer words
  | stemmed {words : List (List Char)} (h : IsBase words) : NamesTokenizer ("porter".toList :: words)

structure Accepted (c : TextConfig) : Prop where
  prefixLength : 1 ≤ c.tablePrefix.length ∧ c.tablePrefix.length ≤ 64
  prefixChars : ∀ ch ∈ c.tablePrefix.toList, IsPlain ch
  tokenizer : NamesTokenizer (Text.splitWords c.tokenizer.toList)

theorem isNameChar_iff {c : Char} : isNameChar c = true ↔ IsPlain c := by
  simp [isNameChar, Text.isAsciiAlphanumeric, IsPlain, or_assoc]

theorem isBase_cons_iff {base : List Char} {arguments : List (List Char)} :
    IsBase (base :: arguments) ↔
      baseTokenizers.contains base = true ∧ arguments.all (·.all isNameChar) = true := by
  simp only [IsBase, baseTokenizers, List.map_cons, List.map_nil, List.contains_iff_mem, List.mem_cons,
    List.not_mem_nil, or_false, List.all_eq_true, isNameChar_iff]

theorem not_isBase_stemmer (words : List (List Char)) : ¬IsBase (stemmer :: words) := by
  rintro ⟨hbase | hbase, -⟩ <;> exact absurd hbase (by decide)

/-- The stemmer is the only first word that has a say in where the base tokenizer stands. -/
theorem isBase_baseAndArguments_iff (words : List (List Char)) :
    IsBase ((baseAndArguments words).1 :: (baseAndArguments words).2) ↔ NamesTokenizer words := by
  cases words with
  | nil =>
    rw [isBase_cons_iff]
    refine ⟨fun h => absurd h.1 (by decide), fun h => ?_⟩
    cases h with
    | base h => cases h
  | cons word rest =>
    rw [baseAndArguments.eq_def]
    dsimp only
    split
    · next hword =>
      subst hword
      cases rest with
      | nil => exact ⟨fun _ => .stemmer, fun _ => isBase_cons_iff.mpr (by decide)⟩
      | cons base arguments =>
        refine ⟨.stemmed, fun h => ?_⟩
        cases h with
        | base h => exact absurd h (not_isBase_stemmer _)
        | stemmed h => exact h
    · next hword =>
      refine ⟨.base, fun h => ?_⟩
      cases h with
      | stemmer => exact absurd rfl hword
      | base h => exact h
      | stemmed h => exact absurd rfl hword

theorem validateTokenizer_eq_ok_iff {tokenizer : String} :
    validateTokenizer tokenizer = .ok () ↔ NamesTokenizer (Text.splitWords tokenizer.toList) := by
  rw [← isBase_baseAndArguments_iff, isBase_cons_iff, validateTokenizer]
  cases hbase : baseTokenizers.contains (baseAndArguments (Text.splitWords tokenizer.toList)).1 with
  | false => simp only [hbase, Bool.not_false, if_true, reduceCtorEq, Bool.false_eq_true, false_and]
  | true =>
    cases harguments : (baseAndArguments (Text.splitWords tokenizer.toList)).2.all (·.all isNameChar) with
    | false =>
      simp only [hbase, harguments, Bool.not_true, Bool.not_false, if_true, Bool.false_eq_true, if_false,
        reduceCtorEq, and_false]
    | true => simp only [hbase, harguments, Bool.not_true, Bool.false_eq_true, if_false, and_self]

theorem IsPlain.utf8Size {c : Char} (h : IsPlain c) : c.utf8Size = 1 := by
  rw [← isNameChar_iff, isNameChar, Bool.or_eq_true, beq_iff_eq] at h
  rcases h with h | rfl
  · have hlt := Text.toNat_lt_of_isAsciiAlphanumeric h
    exact Char.utf8Size_eq_one_iff.mpr (Nat.le_of_lt_succ hlt)
  · rfl

theorem utf8Len_of_isPlain {cs : List Char} (h : ∀ c ∈ cs, IsPlain c) : String.utf8Len cs = cs.length := by
  induction cs with
  | nil => rfl
  | cons c cs ih =>
    obtain ⟨hc, hcs⟩ := List.forall_mem_cons.mp h
    rw [String.utf8Len_cons, ih hcs, hc.utf8Size, List.length_cons]

theorem utf8ByteSize_of_isPlain {s : String} (h : ∀ c ∈ s.toList, IsPlain c) :
    s.utf8ByteSize = s.length := by
  rw [← String.length_toList, ← utf8Len_of_isPlain h, ← String.utf8ByteSize_ofList, String.ofList_toList]

theorem validate_eq_ok_iff {c : TextConfig} : c.validate = .ok () ↔ c.Accepted := by
  constructor
  · intro h
    rw [validate] at h
    split at h
    · cases h
    next hlength =>
    split at h
    · cases h
    next hchars =>
    simp only [Bool.or_eq_true, String.isEmpty_iff, decide_eq_true_eq, not_or, Nat.not_lt] at hlength
    simp only [Bool.not_eq_true', Bool.not_eq_false, List.all_eq_true, isNameChar_iff] at hchars
    rw [utf8ByteSize_of_isPlain hchars] at hlength
    have hpos : 1 ≤ c.tablePrefix.length :=
      Nat.one_le_iff_ne_zero.mpr fun hzero => hlength.1 (String.length_eq_zero_iff.mp hzero)
    exact ⟨⟨hpos, hlength.2⟩, hchars, validateTokenizer_eq_ok_iff.mp h⟩
  · rintro ⟨⟨hpos, hshort⟩, hchars, htokenizer⟩
    have hnonempty : c.tablePrefix ≠ "" := by
      rintro hempty
      rw [hempty] at hpos
      cases hpos
    rw [validate, if_neg, if_neg, validateTokenizer_eq_ok_iff.mpr htokenizer]
    · simpa only [Bool.not_eq_true', Bool.not_eq_false, List.all_eq_true, isNameChar_iff] using hchars
    · simp only [Bool.or_eq_true, String.isEmpty_iff, decide_eq_true_eq, not_or, Nat.not_lt]
      rw [utf8ByteSize_of_isPlain hchars]
      exact ⟨hnonempty, hshort⟩

theorem isPlain_of_all {text : List Char} (h : text.all isNameChar = true) : ∀ c ∈ text, IsPlain c :=
  fun c hc => isNameChar_iff.mp (List.all_eq_true.mp h c hc)

theorem IsBase.isPlain {words : List (List Char)} (h : IsBase words) :
    ∀ word ∈ words, ∀ c ∈ word, IsPlain c := by
  cases words with
  | nil => cases h
  | cons base arguments =>
    obtain ⟨hbase, harguments⟩ := h
    refine List.forall_mem_cons.mpr ⟨?_, harguments⟩
    rcases hbase with rfl | rfl
    · exact isPlain_of_all (by decide)
    · exact isPlain_of_all (by decide)

theorem NamesTokenizer.isPlain {words : List (List Char)} (h : NamesTokenizer words) :
    ∀ word ∈ words, ∀ c ∈ word, IsPlain c := by
  have hstemmer : ∀ c ∈ TextConfig.stemmer, IsPlain c := isPlain_of_all (by decide)
  cases h with
  | stemmer => exact List.forall_mem_singleton.mpr hstemmer
  | base h => exact h.isPlain
  | stemmed h => exact List.forall_mem_cons.mpr ⟨hstemmer, h.isPlain⟩

theorem Accepted.mem_tokenizer {c : TextConfig} (h : c.Accepted) {ch : Char}
    (hch : ch ∈ c.tokenizer.toList) : IsPlain ch ∨ Text.isWhitespace ch = true := by
  rcases Text.isWhitespace_or_mem_splitWords hch with hblank | ⟨word, hword, hmem⟩
  · exact .inr hblank
  · exact .inl (h.tokenizer.isPlain word hword ch hmem)

end TextConfig

end HybridSearch

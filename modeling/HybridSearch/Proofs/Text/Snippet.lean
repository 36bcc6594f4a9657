import HybridSearch.Proofs.Bytes
import HybridSearch.Proofs.Text.Words
import Mathlib.Data.List.TakeWhile
import Mathlib.Data.String.Basic

/-!
# Snippets

A text that is too long is cut at the last offset within the limit that lies between two characters, and then in
front of the last space of what is left, if there is one. Something of the text is always shown: it begins with a
character that is not white space, and there is room for any character.
-/
namespace HybridSearch.Text

/-- The text without the white space at its two ends. -/
structure Trimmed (cs text : List Char) : Prop where
  around : ∃ front back, cs = front ++ text ++ back ∧ isBlank front = true ∧ isBlank back = true
  first : ∀ c ∈ text.head?, isWhitespace c = false
  last : ∀ c ∈ text.getLast?, isWhitespace c = false

theorem isBlank_takeWhile (cs : List Char) : isBlank (cs.takeWhile isWhitespace) = true :=
  List.all_eq_true.mpr fun _ hc => List.mem_takeWhile_imp hc

theorem exists_trimEnd (cs : List Char) : ∃ back, cs = trimEnd cs ++ back ∧ isBlank back = true := by
  refine ⟨(cs.reverse.takeWhile isWhitespace).reverse, ?_, ?_⟩
  · rw [trimEnd, ← List.reverse_append, List.takeWhile_append_dropWhile, List.reverse_reverse]
  · rw [isBlank, List.all_reverse]
    exact isBlank_takeWhile cs.reverse

theorem trimmed_trim (cs : List Char) : Trimmed cs (trim cs) := by
  obtain ⟨back, hback, hblank⟩ := exists_trimEnd (trimStart cs)
  refine ⟨⟨cs.takeWhile isWhitespace, back, ?_, isBlank_takeWhile cs, hblank⟩, fun c hc => ?_, fun c hc => ?_⟩
  · rw [List.append_assoc, trim, ← hback, trimStart, List.takeWhile_append_dropWhile]
  · have hfirst : c ∈ (trimStart cs).head? := by
      rw [hback, List.head?_append, ← trim, Option.mem_def.mp hc]
      rfl
    exact head?_dropWhile_eq_false cs c hfirst
  · rw [trim, trimEnd, List.getLast?_reverse] at hc
    exact head?_dropWhile_eq_false _ c hc

theorem byteLength_eq (cs : List Char) : byteLength cs = String.utf8Len cs := by
  induction cs with
  | nil => rfl
  | cons c cs ih =>
    rw [String.utf8Len_cons, ← ih, Nat.add_comm]
    rfl

theorem takeBytes_isPrefix (limit : Nat) (cs : List Char) : takeBytes limit cs <+: cs := by
  induction cs generalizing limit with
  | nil => exact List.prefix_rfl
  | cons c cs ih =>
    rw [takeBytes]
    split
    · exact (List.prefix_cons_inj c).mpr (ih _)
    · exact List.nil_prefix

theorem utf8Len_takeBytes_le (limit : Nat) (cs : List Char) : String.utf8Len (takeBytes limit cs) ≤ limit := by
  induction cs generalizing limit with
  | nil => simp [takeBytes]
  | cons c cs ih =>
    rw [takeBytes]
    split
    · have hrest := ih (limit - c.utf8Size)
      rw [String.utf8Len_cons]
      omega
    · simp

theorem prefix_takeBytes {limit : Nat} {start cs : List Char} (hstart : start <+: cs)
    (hfits : String.utf8Len start ≤ limit) : start <+: takeBytes limit cs := by
  induction cs generalizing limit start with
  | nil => exact hstart
  | cons c cs ih =>
    cases start with
    | nil => exact List.nil_prefix
    | cons d start =>
      obtain ⟨rfl, hrest⟩ := List.cons_prefix_cons.mp hstart
      rw [String.utf8Len_cons] at hfits
      rw [takeBytes, if_pos (by omega)]
      exact (List.prefix_cons_inj d).mpr (ih hrest (by omega))

theorem takeBytes_ne_nil {limit : Nat} (hlimit : 4 ≤ limit) {cs : List Char} (hne : cs ≠ []) :
    takeBytes limit cs ≠ [] := by
  cases cs with
  | nil => exact absurd rfl hne
  | cons c cs =>
    have hsize := c.utf8Size_le_four
    rw [takeBytes, if_pos (by omega)]
    exact List.cons_ne_nil _ _

/-- The last offset within the limit that lies between two characters of a text, or at one of its ends. -/
structure CutsAt (limit : Nat) (text : String) (offset : Nat) : Prop where
  valid : String.Pos.Raw.IsValid text ⟨offset⟩
  le : offset ≤ limit
  last : ∀ i, String.Pos.Raw.IsValid text ⟨i⟩ → i ≤ limit → i ≤ offset

theorem cutsAt_takeBytes (limit : Nat) (text : String) :
    CutsAt limit text (String.utf8Len (takeBytes limit text.toList)) := by
  refine ⟨?_, utf8Len_takeBytes_le limit _, fun i hi hle => ?_⟩
  · rw [String.Pos.Raw.isValid_iff_exists_take_toList]
    refine ⟨(takeBytes limit text.toList).length, ?_⟩
    rw [← List.prefix_iff_eq_take.mp (takeBytes_isPrefix limit _), String.utf8ByteSize_ofList]
  · obtain ⟨n, hn⟩ := String.Pos.Raw.isValid_iff_exists_take_toList.mp hi
    rw [String.utf8ByteSize_ofList] at hn
    rw [show i = _ from hn] at hle ⊢
    exact String.utf8Len_le_of_prefix (prefix_takeBytes (List.take_prefix n _) hle)

theorem toString?_take (limit : Nat) (text : String) :
    Bytes.toString? ((Bytes.ofString text).take (String.utf8Len (takeBytes limit text.toList))) =
      some (String.ofList (takeBytes limit text.toList)) := by
  obtain ⟨rest, hrest⟩ := takeBytes_isPrefix limit text.toList
  have htext : text = String.ofList (takeBytes limit text.toList) ++ String.ofList rest := by
    rw [← String.ofList_append, hrest, String.ofList_toList]
  have hbytes := Bytes.ofString_append (String.ofList (takeBytes limit text.toList)) (String.ofList rest)
  have hlength := Bytes.length_ofString (String.ofList (takeBytes limit text.toList))
  rw [← htext] at hbytes
  rw [String.utf8ByteSize_ofList] at hlength
  rw [hbytes, List.take_left' hlength, Bytes.toString?_ofString]

theorem beforeLastSpace_of_mem {cs : List Char} (h : ' ' ∈ cs) :
    ∃ after, cs = beforeLastSpace cs ++ ' ' :: after ∧ ' ' ∉ after := by
  obtain ⟨after, before, hsplit, hafter⟩ := List.eq_append_cons_of_mem (List.mem_reverse.mpr h)
  have hskip : ∀ c ∈ after, decide (c ≠ ' ') = true := by
    intro c hc
    simpa using fun heq : c = ' ' => hafter (heq ▸ hc)
  have hdrop : cs.reverse.dropWhile (· ≠ ' ') = ' ' :: before := by
    rw [hsplit, List.dropWhile_append_of_pos hskip]
    rfl
  refine ⟨after.reverse, ?_, by simpa using hafter⟩
  rw [beforeLastSpace, hdrop]
  simpa using congrArg List.reverse hsplit

theorem beforeLastSpace_of_notMem {cs : List Char} (h : ' ' ∉ cs) : beforeLastSpace cs = cs := by
  have hdrop : cs.reverse.dropWhile (· ≠ ' ') = [] := by
    rw [List.dropWhile_eq_nil_iff]
    intro c hc
    simpa using fun heq : c = ' ' => h (heq ▸ List.mem_reverse.mp hc)
  rw [beforeLastSpace, hdrop]

theorem exists_beforeLastSpace (cs : List Char) : ∃ after, cs = beforeLastSpace cs ++ after := by
  by_cases h : ' ' ∈ cs
  · obtain ⟨after, hcut, -⟩ := beforeLastSpace_of_mem h
    exact ⟨_, hcut⟩
  · exact ⟨[], by rw [beforeLastSpace_of_notMem h, List.append_nil]⟩

theorem beforeLastSpace_ne_nil {cs : List Char} (hne : cs ≠ []) (hfirst : cs.head? ≠ some ' ') :
    beforeLastSpace cs ≠ [] := by
  by_cases h : ' ' ∈ cs
  · obtain ⟨after, hcut, -⟩ := beforeLastSpace_of_mem h
    intro hnil
    rw [hnil, List.nil_append] at hcut
    exact hfirst (by rw [hcut]; rfl)
  · rwa [beforeLastSpace_of_notMem h]

/-- What is shown of a text that is too long: a beginning of at most `limit` bytes that ends between two
characters. It ends in front of the last space of the text up to the cut, or at the cut where there is no
space. -/
structure Shortened (limit : Nat) (text head : String) : Prop where
  ne_empty : head ≠ ""
  start : ∃ rest, text = head ++ rest
  size_le : head.utf8ByteSize ≤ limit
  boundary : head.rawEndPos.IsValid text
  broken : ∃ offset cut, CutsAt limit text offset ∧
    Bytes.toString? ((Bytes.ofString text).take offset) = some cut ∧
    if ' ' ∈ cut.toList then ∃ after, cut = head ++ " " ++ after ∧ ' ' ∉ after.toList else head = cut

theorem shortened_takeBytes {limit : Nat} (hlimit : 4 ≤ limit) {text : String} (hne : text ≠ "")
    (hfirst : ∀ c ∈ text.toList.head?, isWhitespace c = false) :
    Shortened limit text (String.ofList (beforeLastSpace (takeBytes limit text.toList))) := by
  generalize hcut : takeBytes limit text.toList = cut
  obtain ⟨rest, hrest⟩ : cut <+: text.toList := hcut ▸ takeBytes_isPrefix limit _
  obtain ⟨after, hafter⟩ := exists_beforeLastSpace cut
  have hcutne : cut ≠ [] := hcut ▸ takeBytes_ne_nil hlimit (by simpa using hne)
  have hcutfirst : cut.head? ≠ some ' ' := by
    intro hspace
    have hblank := hfirst ' ' (by rw [← hrest, List.head?_append, hspace]; rfl)
    exact absurd hblank (by decide)
  have hstart : text = String.ofList (beforeLastSpace cut) ++ String.ofList (after ++ rest) := by
    rw [← String.ofList_append, ← List.append_assoc, ← hafter, hrest, String.ofList_toList]
  refine ⟨?_, ⟨_, hstart⟩, ?_, ?_, ?_⟩
  · simpa using beforeLastSpace_ne_nil hcutne hcutfirst
  · rw [String.utf8ByteSize_ofList]
    calc String.utf8Len (beforeLastSpace cut) ≤ String.utf8Len cut :=
          String.utf8Len_le_of_prefix ⟨after, hafter.symm⟩
      _ ≤ limit := hcut ▸ utf8Len_takeBytes_le limit _
  · exact String.Pos.Raw.isValid_iff_exists_append.mpr ⟨_, _, hstart, rfl⟩
  · refine ⟨String.utf8Len cut, String.ofList cut, ?_, ?_, ?_⟩
    · exact hcut ▸ cutsAt_takeBytes limit text
    · exact hcut ▸ toString?_take limit text
    · rw [String.toList_ofList]
      split
      · next hspace =>
        obtain ⟨behind, hbehind, hnone⟩ := beforeLastSpace_of_mem hspace
        refine ⟨String.ofList behind, ?_, by simpa using hnone⟩
        apply String.toList_injective
        simpa using hbehind
      · next hspace => rw [beforeLastSpace_of_notMem hspace]

/-- A snippet is the trimmed text if it has at most 200 bytes, and a beginning of it with three dots otherwise. -/
theorem snippet_shortens (content : String) : ∃ text : String, Trimmed content.toList text.toList ∧
    if text.utf8ByteSize ≤ 200 then snippet 200 content.toList = text.toList
    else ∃ head, Shortened 200 text head ∧ snippet 200 content.toList = head.toList ++ ['.', '.', '.'] := by
  have htrimmed := trimmed_trim content.toList
  refine ⟨String.ofList (trim content.toList), by rwa [String.toList_ofList], ?_⟩
  rw [String.utf8ByteSize_ofList, ← byteLength_eq]
  split
  · next hshort => rw [String.toList_ofList, snippet, if_pos hshort]
  · next hlong =>
    have hne : String.ofList (trim content.toList) ≠ "" := by
      intro hempty
      have hnil : trim content.toList = [] := by simpa using hempty
      exact hlong (by rw [hnil]; decide)
    have hfirst := htrimmed.first
    rw [← String.toList_ofList (l := trim content.toList)] at hfirst
    refine ⟨_, shortened_takeBytes (by decide) hne hfirst, ?_⟩
    rw [snippet, if_neg hlong, String.toList_ofList, String.toList_ofList]

/-- Where the limit falls within a character of two bytes, none of it is shown. -/
example : snippet 5 (List.replicate 20 'é') = ['é', 'é', '.', '.', '.'] := by decide

end HybridSearch.Text

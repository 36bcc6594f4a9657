import HybridSearch.Json.Printer
import HybridSearch.Json.Reader

/-!
# Written JSON reads back

A value without doubles, whose whole numbers fit in sixty-four bits, is read back from its compact form
as it was written. What follows the value is left unread.
-/
namespace HybridSearch.Json

theorem skipBlanks_cons {c : Char} (h : isBlank c = false) (cs : List Char) :
    skipBlanks (c :: cs) = c :: cs := by
  simp [skipBlanks, h]

theorem hex4?_control {n : Nat} (h : n < 0x20) :
    hex4? '0' '0' (Bytes.hexDigit (n / 16)) (Bytes.hexDigit (n % 16)) = some n := by
  have hall : ∀ n : Fin 0x20,
      hex4? '0' '0' (Bytes.hexDigit (n.val / 16)) (Bytes.hexDigit (n.val % 16)) = some n.val := by
    decide
  exact hall ⟨n, h⟩

theorem readUnits?_shortEscape {e c : Char} (he : shortEscape? e = some c) (hu : e ≠ 'u')
    (cs : List Char) :
    readUnits? ('\\' :: e :: cs) =
      (readUnits? cs).map fun (units, rest) => (c.toNat :: units, rest) := by
  rw [readUnits?, he]
  · cases readUnits? cs <;> rfl
  · intro _ _ _ _ _ h
    exact absurd h hu

theorem readUnits?_plainChar {c : Char} (hquote : c ≠ '"') (hescape : c ≠ '\\')
    (hcontrol : ¬c.toNat < 0x20) (cs : List Char) :
    readUnits? (c :: cs) = (readUnits? cs).map fun (units, rest) => (c.toNat :: units, rest) := by
  rw [readUnits?, if_neg hquote, if_neg (not_or.mpr ⟨hcontrol, hescape⟩)]
  · cases readUnits? cs <;> rfl
  · intro _ _ _ _ _ h
    exact absurd h hescape
  · intro _ _ h
    exact absurd h hescape

theorem readUnits?_escapedChar (c : Char) (cs : List Char) :
    readUnits? (escapedChar c ++ cs) =
      (readUnits? cs).map fun (units, rest) => (c.toNat :: units, rest) := by
  unfold escapedChar
  split
  · subst_vars; exact readUnits?_shortEscape rfl (by decide) cs
  split
  · subst_vars; exact readUnits?_shortEscape rfl (by decide) cs
  split
  · subst_vars; exact readUnits?_shortEscape rfl (by decide) cs
  split
  · subst_vars; exact readUnits?_shortEscape rfl (by decide) cs
  split
  · subst_vars; exact readUnits?_shortEscape rfl (by decide) cs
  split
  · subst_vars; exact readUnits?_shortEscape rfl (by decide) cs
  split
  · subst_vars; exact readUnits?_shortEscape rfl (by decide) cs
  split
  · next h =>
    simp only [List.cons_append, List.nil_append, readUnits?, hex4?_control h]
    cases readUnits? cs <;> rfl
  · next hq hb _ _ _ _ _ hc => exact readUnits?_plainChar hq hb hc cs

theorem readUnits?_escaped (cs rest : List Char) :
    readUnits? (cs.flatMap escapedChar ++ '"' :: rest) = some (cs.map Char.toNat, rest) := by
  induction cs with
  | nil => simp [readUnits?]
  | cons c cs ih => simp [readUnits?_escapedChar, ih]

theorem not_surrogate (c : Char) :
    isHighSurrogate c.toNat = false ∧ isLowSurrogate c.toNat = false := by
  have hvalid := c.valid
  simp only [UInt32.isValidChar, Nat.isValidChar] at hvalid
  have htoNat : c.toNat = c.val.toNat := rfl
  simp [isHighSurrogate, isLowSurrogate]
  omega

theorem joinUnits?_chars (cs : List Char) : joinUnits? (cs.map Char.toNat) = some cs := by
  induction cs with
  | nil => rfl
  | cons c cs ih =>
    obtain ⟨hhigh, hlow⟩ := not_surrogate c
    cases cs with
    | nil => simp [joinUnits?, hhigh, hlow]
    | cons next cs =>
      rw [List.map_cons] at ih
      simp [joinUnits?, hhigh, hlow, ih]

theorem readText?_literal (s : String) (rest : List Char) :
    readText? (s.toList.flatMap escapedChar ++ '"' :: rest) = some (some s, rest) := by
  simp [readText?, readUnits?_escaped, joinUnits?_chars]

/-- What may follow a value: nothing, or the comma or bracket of what it stands in. -/
def EndsValue : List Char → Prop
  | [] => True
  | c :: _ => c = ',' ∨ c = ']' ∨ c = '\x7d'

theorem digits_append {ds rest : List Char} (hds : ∀ c ∈ ds, c.isDigit = true)
    (hrest : EndsValue rest) : Numeral.digits (ds ++ rest) = (ds, rest) := by
  have hstop : rest.takeWhile Char.isDigit = [] ∧ rest.dropWhile Char.isDigit = rest := by
    cases rest with
    | nil => simp
    | cons c cs => rcases hrest with rfl | rfl | rfl <;> simp [Char.isDigit]
  rw [Numeral.digits, List.takeWhile_append_of_pos hds, List.dropWhile_append_of_pos hds,
    hstop.1, hstop.2, List.append_nil]

theorem digitsValue_toDigits (n : Nat) : digitsValue (Nat.toDigits 10 n) = n := by
  have h := Nat.ofDigitChars_ten_toDigits (n := n)
  rwa [Nat.ofDigitChars_eq_foldl] at h

theorem isDigit_of_mem_toDigits {n : Nat} {c : Char} (h : c ∈ Nat.toDigits 10 n) :
    c.isDigit = true :=
  Nat.isDigit_of_mem_toDigits (by decide) (by decide) h

theorem head?_toDigits {n : Nat} (h : 0 < n) : (Nat.toDigits 10 n).head? ≠ some '0' := by
  induction n using Nat.strongRecOn with
  | ind n ih =>
    by_cases hn : n < 10
    · have hall : ∀ n : Fin 10, 0 < n.val → n.val.digitChar ≠ '0' := by decide
      rw [Nat.toDigits_of_lt_base hn]
      simpa using hall ⟨n, hn⟩ h
    · have hshorter := ih (n / 10) (by omega) (by omega)
      rw [Nat.toDigits_of_base_le (by decide) (by omega)]
      cases hds : Nat.toDigits 10 (n / 10) with
      | nil => exact absurd hds Nat.toDigits_ne_nil
      | cons c cs => simpa [hds] using hshorter

theorem readWhole?_toDigits (n : Nat) {rest : List Char} (hrest : EndsValue rest) :
    Numeral.readWhole? (Nat.toDigits 10 n ++ rest) = some (Nat.toDigits 10 n, rest) := by
  rw [Numeral.readWhole?, digits_append (fun c => isDigit_of_mem_toDigits) hrest]
  split
  · next heq => exact absurd (Prod.mk.inj heq).1 Nat.toDigits_ne_nil
  · next heq =>
    have hds := (Prod.mk.inj heq).1
    rcases Nat.eq_zero_or_pos n with rfl | hn
    · rw [Nat.toDigits_zero] at hds
      simp at hds
    · exact absurd (by rw [hds]; rfl) (head?_toDigits hn)
  · next heq => simp_all

theorem readFraction?_of_ends {rest : List Char} (hrest : EndsValue rest) :
    Numeral.readFraction? rest = some (none, rest) := by
  cases rest with
  | nil => rfl
  | cons c cs => rcases hrest with rfl | rfl | rfl <;> rfl

theorem readExponent?_of_ends {rest : List Char} (hrest : EndsValue rest) :
    Numeral.readExponent? rest = some (none, rest) := by
  cases rest with
  | nil => rfl
  | cons c cs => rcases hrest with rfl | rfl | rfl <;> rfl

theorem exists_digit (n : Nat) :
    ∃ c cs, Nat.toDigits 10 n = c :: cs ∧ c.isDigit = true := by
  cases h : Nat.toDigits 10 n with
  | nil => exact absurd h Nat.toDigits_ne_nil
  | cons c cs =>
    exact ⟨c, cs, rfl, isDigit_of_mem_toDigits (n := n) (by rw [h]; exact List.mem_cons_self)⟩

theorem read?_toDigits (n : Nat) {rest : List Char} (hrest : EndsValue rest) :
    Numeral.read? (Nat.toDigits 10 n ++ rest) = some (⟨false, Nat.toDigits 10 n, none, none⟩, rest) := by
  obtain ⟨c, cs, hds, hc⟩ := exists_digit n
  rw [Numeral.read?]
  · simp [readWhole?_toDigits n hrest, readFraction?_of_ends hrest, readExponent?_of_ends hrest]
  · intro after heq
    rw [hds] at heq
    obtain ⟨rfl, -⟩ := List.cons.inj heq
    exact absurd hc (by decide)

theorem read?_negative (n : Nat) {rest : List Char} (hrest : EndsValue rest) :
    Numeral.read? ('-' :: (Nat.toDigits 10 n ++ rest)) =
      some (⟨true, Nat.toDigits 10 n, none, none⟩, rest) := by
  simp [Numeral.read?, readWhole?_toDigits n hrest, readFraction?_of_ends hrest,
    readExponent?_of_ends hrest]

end HybridSearch.Json

namespace HybridSearch

/-- Whether a number is whole and fits in sixty-four bits. -/
def Number.isWord : Number → Bool
  | .whole n => -0x8000000000000000 ≤ n && n < 0x10000000000000000
  | .real _ => false

namespace Json

theorem value?_toDigits {n : Nat} (h : n < 0x10000000000000000) :
    (⟨false, Nat.toDigits 10 n, none, none⟩ : Numeral).value? = some (.whole n) := by
  have hvalue : (⟨false, Nat.toDigits 10 n, none, none⟩ : Numeral).wholeValue? = some (n : Int) := by
    rw [Numeral.wholeValue?, digitsValue_toDigits]
    exact if_pos h
  rw [Numeral.value?, hvalue]
  rfl

theorem value?_negative {n : Nat} (h : n + 1 ≤ 0x8000000000000000) :
    (⟨true, Nat.toDigits 10 (n + 1), none, none⟩ : Numeral).value? = some (.whole (.negSucc n)) := by
  have hvalue : (⟨true, Nat.toDigits 10 (n + 1), none, none⟩ : Numeral).wholeValue? =
      some (.negSucc n) := by
    have hword : 0 < n + 1 ∧ n + 1 ≤ 0x8000000000000000 := ⟨Nat.succ_pos n, h⟩
    rw [Numeral.wholeValue?, digitsValue_toDigits]
    exact if_pos hword
  rw [Numeral.value?, hvalue]
  rfl

theorem readNumber?_numberText {n : Number} (h : n.isWord = true) {rest : List Char}
    (hrest : EndsValue rest) :
    readNumber? (numberText n ++ rest) = some (.number (some n), rest) := by
  cases n with
  | real x => simp [Number.isWord] at h
  | whole n =>
    simp only [Number.isWord, Bool.and_eq_true, decide_eq_true_eq] at h
    cases n with
    | ofNat n =>
      have hn : n < 0x10000000000000000 := by
        have hint : Int.ofNat n = (n : Int) := rfl
        omega
      rw [numberText, readNumber?, read?_toDigits n hrest]
      simp only [Option.map_some, value?_toDigits hn]
      rfl
    | negSucc n =>
      have hn : n + 1 ≤ 0x8000000000000000 := by omega
      rw [numberText, readNumber?, List.cons_append, read?_negative (n + 1) hrest]
      simp only [Option.map_some, value?_negative hn]

mutual

/-- Whether all numbers of a value are whole and fit in sixty-four bits. -/
def isPlain : Json → Bool
  | .null | .bool _ | .text _ => true
  | .number n => n.isWord
  | .list items => arePlain items
  | .object members => arePlainMembers members

def arePlain : List Json → Bool
  | [] => true
  | item :: rest => isPlain item && arePlain rest

def arePlainMembers : List (String × Json) → Bool
  | [] => true
  | (_, item) :: rest => isPlain item && arePlainMembers rest

end

mutual

def toDatum : Json → Datum
  | .null => .null
  | .bool b => .bool b
  | .number n => .number (some n)
  | .text s => .text (some s)
  | .list items => .list (toData items)
  | .object members => .record (toNamedData members)

def toData : List Json → List Datum
  | [] => []
  | item :: rest => toDatum item :: toData rest

def toNamedData : List (String × Json) → List (Option String × Datum)
  | [] => []
  | (name, item) :: rest => (some name, toDatum item) :: toNamedData rest

end

theorem numberText_head {n : Number} (h : n.isWord = true) :
    ∃ c cs, numberText n = c :: cs ∧ (c.isDigit = true ∨ c = '-') := by
  cases n with
  | real x => simp [Number.isWord] at h
  | whole n =>
    cases n with
    | ofNat n =>
      obtain ⟨c, cs, hds, hc⟩ := exists_digit n
      exact ⟨c, cs, hds, .inl hc⟩
    | negSucc n => exact ⟨_, _, rfl, .inr rfl⟩

theorem isBlank_of_numeral {c : Char} (h : c.isDigit = true ∨ c = '-') : isBlank c = false := by
  refine Bool.eq_false_iff.mpr fun hc => ?_
  simp only [isBlank, Bool.or_eq_true, decide_eq_true_eq] at hc
  rcases hc with ((rfl | rfl) | rfl) | rfl <;> simp [Char.isDigit] at h

/-- Nothing is written with a leading blank, and no value starts like the end of a list. -/
theorem compactChars_head {j : Json} (h : j.isPlain = true) :
    ∃ c cs, compactChars j = c :: cs ∧ isBlank c = false ∧ c ≠ ']' := by
  cases j with
  | null => exact ⟨'n', "ull".toList, by rw [compactChars]; rfl, by decide, by decide⟩
  | bool b =>
    cases b with
    | true => exact ⟨'t', "rue".toList, by rw [compactChars]; rfl, by decide, by decide⟩
    | false => exact ⟨'f', "alse".toList, by rw [compactChars]; rfl, by decide, by decide⟩
  | number n =>
    rw [isPlain] at h
    obtain ⟨c, cs, hds, hc⟩ := numberText_head h
    refine ⟨c, cs, by rw [compactChars, hds], isBlank_of_numeral hc, ?_⟩
    rintro rfl
    simp [Char.isDigit] at hc
  | text s => exact ⟨_, _, by rw [compactChars, textLiteral]; rfl, by decide, by decide⟩
  | list items => exact ⟨_, _, by rw [compactChars], by decide, by decide⟩
  | object members => exact ⟨_, _, by rw [compactChars], by decide, by decide⟩

theorem readValue?_numberText {n : Number} (h : n.isWord = true) {rest : List Char}
    (hrest : EndsValue rest) (fuel : Nat) :
    readValue? (fuel + 1) (numberText n ++ rest) = some (.number (some n), rest) := by
  have hread := readNumber?_numberText h hrest
  obtain ⟨c, cs, hds, hc⟩ := numberText_head h
  rw [hds, List.cons_append] at hread ⊢
  rw [readValue?, skipBlanks_cons (isBlank_of_numeral hc)]
  split <;> simp_all [Char.isDigit]

theorem textLiteral_append (s : String) (rest : List Char) :
    textLiteral s ++ rest = '"' :: (s.toList.flatMap escapedChar ++ '"' :: rest) := by
  simp [textLiteral]

theorem readValue?_textLiteral (s : String) (rest : List Char) (fuel : Nat) :
    readValue? (fuel + 1) (textLiteral s ++ rest) = some (.text (some s), rest) := by
  rw [textLiteral_append, readValue?, skipBlanks_cons (by decide)]
  simp [readText?_literal]

theorem readValue?_list {c : Char} (hblank : isBlank c = false) (hclose : c ≠ ']')
    (cs : List Char) (fuel : Nat) :
    readValue? (fuel + 1) ('[' :: c :: cs) =
      (readItems? fuel (c :: cs)).map fun (items, rest) => (.list items, rest) := by
  rw [readValue?, skipBlanks_cons (by decide)]
  simp only [skipBlanks_cons hblank]
  split
  · next heq => exact absurd (List.cons.inj heq).1 hclose
  · rfl

theorem readValue?_object (cs : List Char) (fuel : Nat) :
    readValue? (fuel + 1) ('\x7b' :: '"' :: cs) =
      (readMembers? fuel ('"' :: cs)).map fun (members, rest) => (.record members, rest) := by
  rw [readValue?, skipBlanks_cons (by decide)]
  simp only [skipBlanks_cons (show isBlank '"' = false by decide)]
  rfl

mutual

/-- A plain value is read back from its compact form, however it goes on behind it. -/
theorem readValue?_compactChars : ∀ (j : Json), j.isPlain = true → ∀ (fuel : Nat) (rest : List Char),
    j.compactChars.length < fuel → EndsValue rest →
      readValue? fuel (j.compactChars ++ rest) = some (j.toDatum, rest)
  | .null, _, fuel + 1, rest, _, _ => by
    rw [compactChars, toDatum]
    exact rfl
  | .bool true, _, fuel + 1, rest, _, _ => by
    rw [compactChars, toDatum]
    exact rfl
  | .bool false, _, fuel + 1, rest, _, _ => by
    rw [compactChars, toDatum]
    exact rfl
  | .number n, h, fuel + 1, rest, _, hrest => by
    rw [isPlain] at h
    rw [compactChars, toDatum]
    exact readValue?_numberText h hrest fuel
  | .text s, _, fuel + 1, rest, _, _ => by
    rw [compactChars, toDatum]
    exact readValue?_textLiteral s rest fuel
  | .list [], _, fuel + 1, rest, _, _ => by
    rw [compactChars, toDatum, compactItems, toData]
    exact rfl
  | .list (item :: items), h, fuel + 1, rest, hfuel, _ => by
    rw [isPlain] at h
    rw [compactChars, List.length_cons] at hfuel
    have hitems := readItems?_compactItems item items h fuel rest (by omega)
    rw [compactChars, toDatum, List.cons_append]
    have hitem : item.isPlain = true := by
      rw [arePlain, Bool.and_eq_true] at h
      exact h.1
    obtain ⟨c, cs, hhead, hblank, hclose⟩ := compactChars_head hitem
    have hstart : ∃ tail, compactItems (item :: items) ++ rest = c :: tail := by
      cases items <;> simp [compactItems, hhead]
    obtain ⟨tail, htail⟩ := hstart
    rw [htail] at hitems ⊢
    rw [readValue?_list hblank hclose, hitems]
    rfl
  | .object [], _, fuel + 1, rest, _, _ => by
    rw [compactChars, toDatum, compactMembers, toNamedData]
    exact rfl
  | .object (member :: members), h, fuel + 1, rest, hfuel, _ => by
    rw [isPlain] at h
    rw [compactChars, List.length_cons] at hfuel
    have hmembers := readMembers?_compactMembers member members h fuel rest (by omega)
    rw [compactChars, toDatum, List.cons_append]
    have hstart : ∃ tail, compactMembers (member :: members) ++ rest = '"' :: tail := by
      obtain ⟨name, item⟩ := member
      cases members <;> simp [compactMembers, textLiteral]
    obtain ⟨tail, htail⟩ := hstart
    rw [htail] at hmembers ⊢
    rw [readValue?_object, hmembers]
    rfl

theorem readItems?_compactItems : ∀ (item : Json) (items : List Json),
    arePlain (item :: items) = true → ∀ (fuel : Nat) (rest : List Char),
      (compactItems (item :: items)).length < fuel →
        readItems? fuel (compactItems (item :: items) ++ rest) =
          some (toData (item :: items), rest)
  | item, [], h, fuel + 1, rest, hfuel => by
    rw [arePlain, Bool.and_eq_true] at h
    rw [compactItems, List.length_append, List.length_singleton] at hfuel
    have hitem := readValue?_compactChars item h.1 fuel (']' :: rest) (by omega) (by simp [EndsValue])
    rw [compactItems, List.append_assoc, List.singleton_append, readItems?, hitem]
    exact rfl
  | item, next :: items, h, fuel + 1, rest, hfuel => by
    rw [arePlain, Bool.and_eq_true] at h
    rw [compactItems, List.length_append, List.length_cons] at hfuel
    have hitem := readValue?_compactChars item h.1 fuel
      (',' :: (compactItems (next :: items) ++ rest)) (by omega) (by simp [EndsValue])
    have hitems := readItems?_compactItems next items h.2 fuel rest (by omega)
    rw [compactItems, List.append_assoc, List.cons_append, readItems?, hitem]
    simp [skipBlanks, isBlank, hitems, toData]

theorem readMembers?_compactMembers : ∀ (member : String × Json) (members : List (String × Json)),
    arePlainMembers (member :: members) = true → ∀ (fuel : Nat) (rest : List Char),
      (compactMembers (member :: members)).length < fuel →
        readMembers? fuel (compactMembers (member :: members) ++ rest) =
          some (toNamedData (member :: members), rest)
  | (name, item), [], h, fuel + 1, rest, hfuel => by
    rw [arePlainMembers, Bool.and_eq_true] at h
    simp only [compactMembers, List.length_append, List.length_cons] at hfuel
    have hitem := readValue?_compactChars item h.1 fuel ('\x7d' :: rest) (by omega)
      (by simp [EndsValue])
    simp [compactMembers, textLiteral_append, readMembers?, skipBlanks, isBlank, readText?_literal,
      hitem, toNamedData]
  | (name, item), next :: members, h, fuel + 1, rest, hfuel => by
    rw [arePlainMembers, Bool.and_eq_true] at h
    simp only [compactMembers, List.length_append, List.length_cons] at hfuel
    have hitem := readValue?_compactChars item h.1 fuel
      (',' :: (compactMembers (next :: members) ++ rest)) (by omega) (by simp [EndsValue])
    have hmembers := readMembers?_compactMembers next members h.2 fuel rest (by omega)
    simp [compactMembers, textLiteral_append, readMembers?, skipBlanks, isBlank, readText?_literal,
      hitem, hmembers, toNamedData]

end

theorem read?_compact {j : Json} (h : j.isPlain = true) : read? j.compact = some j.toDatum := by
  have hvalue := readValue?_compactChars j h (j.compactChars.length + 1) [] (by omega) trivial
  rw [List.append_nil] at hvalue
  rw [read?, compact, String.toList_ofList, readChars?, hvalue]
  rfl

end Json

end HybridSearch

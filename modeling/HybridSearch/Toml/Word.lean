import HybridSearch.Bytes
import HybridSearch.Datum
import HybridSearch.Number.Decimal

/-!
# Unquoted values in TOML

Booleans, whole numbers, other numbers, dates and times. A date or a time becomes a record with a field
that nobody asks for.
-/
namespace HybridSearch.Toml

/-- Digits with single underscores between them; gives the digits alone. -/
def groupedDigits? (isDigit : Char → Bool) : List Char → Option (List Char)
  | [] => none
  | [c] => if isDigit c then some [c] else none
  | c :: '_' :: cs => if isDigit c then (groupedDigits? isDigit cs).map (c :: ·) else none
  | c :: cs => if isDigit c then (groupedDigits? isDigit cs).map (c :: ·) else none

/-- A whole number has a value within sixty-four bits, and is refused beyond a hundred and
twenty-eight. -/
def wholeDatum? (n : Int) : Option Datum :=
  if -0x80000000000000000000000000000000 ≤ n ∧ n < 0x100000000000000000000000000000000 then
    some (.number (if -0x8000000000000000 ≤ n ∧ n < 0x10000000000000000 then some (.whole n) else none))
  else none

def isDigitOf (radix : Nat) (c : Char) : Bool :=
  match Bytes.hexValue? c with
  | some n => n < radix
  | none => false

def valueInRadix (radix : Nat) (ds : List Char) : Nat :=
  ds.foldl (fun n c => radix * n + (Bytes.hexValue? c).getD 0) 0

/-- Digits of another radix than ten, after the letter that names it. -/
def readRadix? (radix : Nat) (cs : List Char) : Option Datum := do
  wholeDatum? (valueInRadix radix (← groupedDigits? (isDigitOf radix) cs))

def isPlainNumeral : List Char → Bool
  | '0' :: _ :: _ => false
  | _ => true

/-- The digits after a point, if there is one, and the rest. -/
def readFraction? : List Char → Option (List Char × List Char)
  | '.' :: cs => do
    let ds ← groupedDigits? Char.isDigit (cs.takeWhile fun c => c.isDigit || c == '_')
    return (ds, cs.dropWhile fun c => c.isDigit || c == '_')
  | cs => some ([], cs)

def splitSign : List Char → Bool × List Char
  | '-' :: cs => (true, cs)
  | '+' :: cs => (false, cs)
  | cs => (false, cs)

/-- The exponent that the rest of a numeral writes, zero for none. -/
def readExponent? : List Char → Option Int
  | [] => some 0
  | c :: cs =>
    if c = 'e' ∨ c = 'E' then do
      let (negative, cs) := splitSign cs
      let e := digitsValue (← groupedDigits? Char.isDigit cs)
      return if negative then -(e : Int) else e
    else none

def realDatum (negative : Bool) (x : Binary64) : Datum :=
  .number (some (.real (if negative then x.neg else x)))

/-- A double; one that is too large is refused. -/
def readReal? (negative : Bool) (whole rest : List Char) : Option Datum := do
  let (fraction, rest) ← readFraction? rest
  let e ← readExponent? rest
  let x := Binary64.ofDecimal (digitsValue (whole ++ fraction)) (e - fraction.length)
  if x.isInfinite then none else return realDatum negative x

def readDecimal? (negative : Bool) (cs : List Char) : Option Datum := do
  let whole ← groupedDigits? Char.isDigit (cs.takeWhile fun c => c.isDigit || c == '_')
  if !isPlainNumeral whole then none
  else match cs.dropWhile fun c => c.isDigit || c == '_' with
    | [] => wholeDatum? (if negative then -(digitsValue whole : Int) else digitsValue whole)
    | rest => readReal? negative whole rest

def readNumber? (cs : List Char) : Option Datum :=
  match cs with
  | '0' :: 'x' :: ds => readRadix? 16 ds
  | '0' :: 'o' :: ds => readRadix? 8 ds
  | '0' :: 'b' :: ds => readRadix? 2 ds
  | cs =>
    let (negative, magnitude) := splitSign cs
    if magnitude = "inf".toList then some (realDatum negative Binary64.infinity)
    else if magnitude = "nan".toList then some (realDatum negative Binary64.nan)
    else readDecimal? negative magnitude

/-- A number of exactly `count` digits. -/
def readDigits? (count : Nat) (cs : List Char) : Option (Nat × List Char) :=
  let ds := cs.take count
  if ds.length = count ∧ ds.all Char.isDigit then some (digitsValue ds, cs.drop count) else none

def readMark? (mark : Char) : List Char → Option (List Char)
  | c :: cs => if c = mark then some cs else none
  | [] => none

def isLeapYear (year : Nat) : Bool := year % 4 == 0 && (year % 100 != 0 || year % 400 == 0)

def daysIn (year month : Nat) : Nat :=
  if month = 2 then if isLeapYear year then 29 else 28
  else if [4, 6, 9, 11].contains month then 30
  else 31

def readDate? (cs : List Char) : Option (List Char) := do
  let (year, cs) ← readDigits? 4 cs
  let (month, cs) ← readDigits? 2 (← readMark? '-' cs)
  let (day, cs) ← readDigits? 2 (← readMark? '-' cs)
  if 1 ≤ month ∧ month ≤ 12 ∧ 1 ≤ day ∧ day ≤ daysIn year month then return cs else none

/-- What follows the seconds of a time, which may be missing and may have a fraction. -/
def readSeconds? : List Char → Option (List Char)
  | ':' :: cs => do
    let (second, cs) ← readDigits? 2 cs
    if 60 < second then none
    else match cs with
      | '.' :: cs =>
        if (cs.takeWhile Char.isDigit).isEmpty then none else return cs.dropWhile Char.isDigit
      | cs => return cs
  | cs => some cs

def readClock? (cs : List Char) : Option (List Char) := do
  let (hour, cs) ← readDigits? 2 cs
  let (minute, cs) ← readDigits? 2 (← readMark? ':' cs)
  if hour ≤ 23 ∧ minute ≤ 59 then return cs else none

def readTime? (cs : List Char) : Option (List Char) := do readSeconds? (← readClock? cs)

/-- The offset from universal time, up to the end; it may be missing. -/
def isOffset : List Char → Bool
  | [] => true
  | ['Z'] => true
  | ['z'] => true
  | '+' :: cs => readClock? cs == some []
  | '-' :: cs => readClock? cs == some []
  | _ => false

def isTimeWithOffset (cs : List Char) : Bool :=
  match readTime? cs with
  | some rest => isOffset rest
  | none => false

/-- A date, a time, or both. -/
def isMoment (cs : List Char) : Bool :=
  match readDate? cs with
  | some [] => true
  | some (c :: rest) => (c = 'T' || c = 't' || c = ' ') && isTimeWithOffset rest
  | none => readTime? cs == some []

def readWord? (cs : List Char) : Option Datum :=
  if cs = "true".toList then some (.bool true)
  else if cs = "false".toList then some (.bool false)
  else if isMoment cs then some (.record [(some "datetime", .text (some (String.ofList cs)))])
  else readNumber? cs

end HybridSearch.Toml

import HybridSearch.Datum
import HybridSearch.Number.Decimal

/-!
# Numerals in JSON

The grammar of a JSON number, and the value it is read as. A numeral without fraction and exponent
is a whole number when it fits in sixty-four bits. Any other is a double: the first digits that fit
in sixty-four bits are rounded to a double, which is then multiplied or divided by a power of ten,
so the result can be one place off the nearest double.
-/
namespace HybridSearch.Json

/-- A number as it is written; `exponent` holds whether it is negative, and its digits. -/
structure Numeral where
  negative : Bool
  whole : List Char
  fraction : Option (List Char)
  exponent : Option (Bool × List Char)
  deriving DecidableEq, Repr

namespace Numeral

def digits (cs : List Char) : List Char × List Char :=
  (cs.takeWhile Char.isDigit, cs.dropWhile Char.isDigit)

def readWhole? (cs : List Char) : Option (List Char × List Char) :=
  match digits cs with
  | ([], _) => none
  | ('0' :: _ :: _, _) => none
  | (ds, rest) => some (ds, rest)

def readFraction? : List Char → Option (Option (List Char) × List Char)
  | '.' :: cs =>
    match digits cs with
    | ([], _) => none
    | (ds, rest) => some (some ds, rest)
  | cs => some (none, cs)

def readExponent? (cs : List Char) : Option (Option (Bool × List Char) × List Char) :=
  match cs with
  | [] => some (none, [])
  | c :: after =>
    if c = 'e' ∨ c = 'E' then
      let (negative, rest) := match after with
        | '-' :: rest => (true, rest)
        | '+' :: rest => (false, rest)
        | rest => (false, rest)
      match digits rest with
      | ([], _) => none
      | (ds, rest) => some (some (negative, ds), rest)
    else some (none, cs)

/-- Reads the longest numeral at the start of the text. -/
def read? (cs : List Char) : Option (Numeral × List Char) := do
  let (negative, cs) := match cs with
    | '-' :: rest => (true, rest)
    | rest => (false, rest)
  let (whole, cs) ← readWhole? cs
  let (fraction, cs) ← readFraction? cs
  let (exponent, cs) ← readExponent? cs
  return (⟨negative, whole, fraction, exponent⟩, cs)

/-- The significand read so far, and how many digits went into it. -/
structure Significand where
  value : Nat
  used : Nat
  full : Bool

/-- Takes digits while the value stays below `2 ^ 64`; the first that does not fit ends it. -/
def Significand.push (s : Significand) (c : Char) : Significand :=
  let next := 10 * s.value + (c.toNat - '0'.toNat)
  if s.full || 0x10000000000000000 ≤ next then { s with full := true } else ⟨next, s.used + 1, false⟩

def powerOfTen (e : Nat) : Binary64 := Binary64.ofDecimal 1 e

/-- `x * 10 ^ e` for `e ≥ 0`, refused when it is not finite. -/
def scaleUp? (x : Binary64) (e : Nat) : Option Binary64 :=
  if 308 < e then if x.numEq Binary64.zero then some x else none
  else
    let y := x * powerOfTen e
    if y.isInfinite then none else some y

/-- `x / 10 ^ e`, by steps of at most `10 ^ 308`; two such steps make every significand zero. -/
def scaleDown (x : Binary64) (e : Nat) : Binary64 :=
  if e ≤ 308 then x / powerOfTen e
  else x / powerOfTen 308 / powerOfTen (min (e - 308) 308)

def scaleBy? (x : Binary64) : Int → Option Binary64
  | .ofNat e => scaleUp? x e
  | .negSucc e => some (scaleDown x (e + 1))

/-- The written exponent, or nothing when it does not fit in thirty-one bits. -/
def writtenExponent? (n : Numeral) : Option Int :=
  match n.exponent with
  | none => some 0
  | some (negative, ds) =>
    let e := digitsValue ds
    if 0x80000000 ≤ e then none else some (if negative then -(e : Int) else e)

/-- The digits before the point that do not fit count as a power of ten, and digits after the point
continue the significand for as long as they fit. -/
def magnitude? (n : Numeral) : Option Binary64 :=
  let whole := n.whole.foldl Significand.push ⟨0, 0, false⟩
  let both := (n.fraction.getD []).foldl Significand.push ⟨whole.value, 0, false⟩
  let shift : Int := (n.whole.length - whole.used : Nat) - (both.used : Int)
  match n.writtenExponent? with
  | some e => scaleBy? (Binary64.ofNat both.value) (shift + e)
  | none =>
    let negativeExponent := (n.exponent.map (·.1)).getD false
    if both.value ≠ 0 ∧ !negativeExponent then none else some Binary64.zero

def isWhole (n : Numeral) : Bool := n.fraction.isNone && n.exponent.isNone

/-- The whole number that the numeral writes, when it fits in sixty-four bits. Minus zero is no whole
number. -/
def wholeValue? (n : Numeral) : Option Int :=
  let v := digitsValue n.whole
  if n.negative then if 0 < v ∧ v ≤ 0x8000000000000000 then some (-(v : Int)) else none
  else if v < 0x10000000000000000 then some v else none

def value? (n : Numeral) : Option Number :=
  match if n.isWhole then n.wholeValue? else none with
  | some v => some (.whole v)
  | none => n.magnitude?.map fun x => .real (if n.negative then x.neg else x)

end Numeral

end HybridSearch.Json

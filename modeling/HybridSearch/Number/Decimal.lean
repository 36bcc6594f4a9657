import HybridSearch.Number.Binary64

/-!
# Decimal text of double-precision numbers

`shortest` finds the fewest digits that read back as the same double and, of those, the nearest
decimal; `rounded` keeps a given number of places of the exact value. Both work on the exact
fraction that a double stands for. `plain` and `fixed` are the two written forms, and `read?` reads
decimal text to the nearest double.
-/
namespace HybridSearch

inductive Tie where
  | up
  | even
  deriving DecidableEq, Repr

/-- `num / den` rounded to the nearest integer. -/
def roundedQuotient (tie : Tie) (num den : Nat) : Nat :=
  let q := num / den
  let r := num % den
  if 2 * r < den then q
  else if den < 2 * r then q + 1
  else match tie with
    | .up => q + 1
    | .even => q + q % 2

/-- The number `significand * 10 ^ exponent`. -/
structure Decimal where
  significand : Nat
  exponent : Int
  deriving DecidableEq, Repr

namespace Decimal

def digits (d : Decimal) : List Char := Nat.toDigits 10 d.significand

/-- How many digits stand before the point; zero or less when the number starts with `0.`. -/
def point (d : Decimal) : Int := d.digits.length + d.exponent

/-- Moves trailing zeros of the significand into the exponent; `fuel` bounds their number. -/
def dropZeros : Nat → Decimal → Decimal
  | 0, d => d
  | fuel + 1, d =>
    if d.significand % 10 = 0 ∧ d.significand ≠ 0 then
      dropZeros fuel ⟨d.significand / 10, d.exponent + 1⟩
    else d

def zeros (n : Nat) : List Char := List.replicate n '0'

/-- Digits with a point between them and no exponent. A whole number has no point. -/
def positional (d : Decimal) : List Char :=
  let ds := d.digits
  let p := d.point
  if p ≤ 0 then '0' :: '.' :: zeros (-p).toNat ++ ds
  else if ds.length ≤ p then ds ++ zeros (p.toNat - ds.length)
  else ds.take p.toNat ++ '.' :: ds.drop p.toNat

end Decimal

namespace Binary64

/-- A finite double is `mantissa * 2 ^ scale`, the sign apart. -/
def mantissa (x : Binary64) : Nat :=
  if x.exponentField = 0 then x.fractionField else x.fractionField + 0x10000000000000

def scale (x : Binary64) : Int :=
  if x.exponentField = 0 then -1074 else x.exponentField - 1075

/-- The magnitude of a finite double as an exact fraction, the numerator counted in quarters of the
last place. -/
def quarters (x : Binary64) : Nat × Nat :=
  let q := x.scale - 2
  (4 * x.mantissa * Nat.pow 2 q.toNat, Nat.pow 2 (-q).toNat)

/-- How many digits the magnitude `num / den` has before its point; zero or less counts the zeros
that follow the point. -/
def leadingPlaces (num den : Nat) : Int :=
  if den ≤ num then (Nat.toDigits 10 (num / den)).length
  else match (List.range 400).find? (fun k => den ≤ num * Nat.pow 10 (k + 1)) with
    | some k => -(k : Int)
    | none => 0

/-- The reals that round to a double, between its two neighbours' midpoints: the numerators of both
ends over the denominator of `quarters`, and whether the ends belong to it. -/
structure Neighbourhood where
  low : Nat
  high : Nat
  closed : Bool

def neighbourhood (x : Binary64) : Neighbourhood :=
  let unit := Nat.pow 2 (x.scale - 2).toNat
  let below := if x.fractionField = 0 ∧ 1 < x.exponentField then 1 else 2
  ⟨(4 * x.mantissa - below) * unit, (4 * x.mantissa + 2) * unit, x.mantissa % 2 == 0⟩

def Neighbourhood.contains (n : Neighbourhood) (num : Nat → Nat) (candidate : Nat) : Bool :=
  if n.closed then num n.low ≤ candidate && candidate ≤ num n.high
  else num n.low < candidate && candidate < num n.high

/-- The decimal of `count` digits nearest to `x` that still rounds to it, if there is one. -/
def withDigits? (tie : Tie) (x : Binary64) (count : Nat) : Option Decimal :=
  let (num, den) := x.quarters
  let shift : Int := count - leadingPlaces num den
  let up := Nat.pow 10 shift.toNat
  let unit := den * Nat.pow 10 (-shift).toNat
  let fits := fun c => x.neighbourhood.contains (· * up) (c * unit)
  let floor := num * up / unit
  if fits floor && fits (floor + 1) then some ⟨roundedQuotient tie (num * up) unit, -shift⟩
  else if fits floor then some ⟨floor, -shift⟩
  else if fits (floor + 1) then some ⟨floor + 1, -shift⟩
  else none

/-- The fewest digits that read back as `x`; seventeen always do. -/
def shortest (tie : Tie) (x : Binary64) : Decimal :=
  if x.mantissa = 0 then ⟨0, 0⟩
  else match (List.range 17).findSome? (fun k => x.withDigits? tie (k + 1)) with
    | some d => d.dropZeros 20
    | none => ⟨0, 0⟩

/-- The magnitude in units of `10 ^ -places`, a half going to the even neighbour. -/
def rounded (places : Nat) (x : Binary64) : Nat :=
  let (num, den) := x.quarters
  roundedQuotient .even (num * Nat.pow 10 places) den

def signed (x : Binary64) (magnitude : List Char) : String :=
  String.ofList (if x.isNegative then '-' :: magnitude else magnitude)

/-- Shortest digits without an exponent: `10`, `0.0000001`, `-0`. -/
def plain (x : Binary64) : String :=
  if x.isNaN then "NaN"
  else if x.isInfinite then x.signed "inf".toList
  else x.signed (x.shortest .up).positional

/-- Exactly `places` digits after the point. -/
def fixed (places : Nat) (x : Binary64) : String :=
  if x.isNaN then "NaN"
  else if x.isInfinite then x.signed "inf".toList
  else
    let ds := Nat.toDigits 10 (x.rounded places)
    let padded := Decimal.zeros (places + 1 - ds.length) ++ ds
    let whole := padded.take (padded.length - places)
    let fraction := padded.drop (padded.length - places)
    x.signed (if places = 0 then whole else whole ++ '.' :: fraction)

end Binary64

def digitsValue (ds : List Char) : Nat :=
  ds.foldl (fun n c => 10 * n + (c.toNat - '0'.toNat)) 0

namespace Binary64

/-- The exponent part of a decimal numeral: `e` or `E`, an optional sign and at least one digit;
nothing stands for zero. -/
def readExponent? : List Char → Option Int
  | [] => some 0
  | c :: rest =>
    if c = 'e' ∨ c = 'E' then
      let (negative, ds) := match rest with
        | '-' :: ds => (true, ds)
        | '+' :: ds => (false, ds)
        | ds => (false, ds)
      if ds.isEmpty || !ds.all Char.isDigit then none
      else some (if negative then -(digitsValue ds : Int) else digitsValue ds)
    else none

/-- An unsigned decimal numeral: digits with an optional point, digits on at least one side of it,
and an optional exponent. -/
def readNumeral? (cs : List Char) : Option Binary64 :=
  let whole := cs.takeWhile Char.isDigit
  let (fraction, rest) := match cs.dropWhile Char.isDigit with
    | '.' :: after => (after.takeWhile Char.isDigit, after.dropWhile Char.isDigit)
    | after => ([], after)
  if whole.isEmpty && fraction.isEmpty then none
  else (readExponent? rest).map fun e =>
    ofDecimal (digitsValue (whole ++ fraction)) (e - fraction.length)

/-- Reads a decimal number, or `inf`, `infinity` and `nan` in any case, with an optional sign. -/
def read? (s : String) : Option Binary64 :=
  let (negative, cs) := match s.toList with
    | '-' :: cs => (true, cs)
    | '+' :: cs => (false, cs)
    | cs => (false, cs)
  let lower := String.ofList (cs.map Char.toLower)
  let magnitude :=
    if lower == "inf" || lower == "infinity" then some infinity
    else if lower == "nan" then some nan
    else readNumeral? cs
  if negative then magnitude.map neg else magnitude

end Binary64

end HybridSearch

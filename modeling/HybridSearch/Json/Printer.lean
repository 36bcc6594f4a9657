import HybridSearch.Json.Value
import HybridSearch.Number.Decimal

/-!
# Writing JSON

`compact` writes no blanks, `pretty` indents by two spaces. A double is written with the fewest
digits that read back, positionally when its first digit stands between five places after the point
and fifteen before, otherwise with an exponent; it never looks like a whole number. A double that is
not finite is written as null.
-/
namespace HybridSearch

def Binary64.jsonText (x : Binary64) : List Char :=
  if !x.isFinite then "null".toList
  else
    let d := x.shortest .even
    let first := d.point - 1
    let magnitude :=
      if d.significand = 0 then "0.0".toList
      else if -5 ≤ first ∧ first ≤ 15 then
        let ds := d.positional
        if ds.contains '.' then ds else ds ++ ".0".toList
      else
        let mantissa := match d.digits with
          | [] => []
          | [c] => [c]
          | c :: cs => c :: '.' :: cs
        let sign := if 0 ≤ first then '+' else '-'
        mantissa ++ 'e' :: sign :: Nat.toDigits 10 first.natAbs
    if x.isNegative then '-' :: magnitude else magnitude

namespace Json

def numberText : Number → List Char
  | .whole (.ofNat n) => Nat.toDigits 10 n
  | .whole (.negSucc n) => '-' :: Nat.toDigits 10 (n + 1)
  | .real x => x.jsonText

def escapedChar (c : Char) : List Char :=
  if c = '"' then ['\\', '"']
  else if c = '\\' then ['\\', '\\']
  else if c = '\n' then ['\\', 'n']
  else if c = '\r' then ['\\', 'r']
  else if c = '\t' then ['\\', 't']
  else if c = '\x08' then ['\\', 'b']
  else if c = '\x0c' then ['\\', 'f']
  else if c.toNat < 0x20 then
    ['\\', 'u', '0', '0', Bytes.hexDigit (c.toNat / 16), Bytes.hexDigit (c.toNat % 16)]
  else [c]

def textLiteral (s : String) : List Char := '"' :: s.toList.flatMap escapedChar ++ ['"']

mutual

def compactChars : Json → List Char
  | .null => "null".toList
  | .bool b => if b then "true".toList else "false".toList
  | .number n => numberText n
  | .text s => textLiteral s
  | .list items => '[' :: compactItems items
  | .object members => '\x7b' :: compactMembers members

/-- The items with commas between them, and the closing bracket. -/
def compactItems : List Json → List Char
  | [] => [']']
  | [item] => compactChars item ++ [']']
  | item :: next :: rest => compactChars item ++ ',' :: compactItems (next :: rest)

def compactMembers : List (String × Json) → List Char
  | [] => ['\x7d']
  | [(name, item)] => textLiteral name ++ ':' :: compactChars item ++ ['\x7d']
  | (name, item) :: next :: rest =>
    textLiteral name ++ ':' :: compactChars item ++ ',' :: compactMembers (next :: rest)

end

def compact (j : Json) : String := String.ofList j.compactChars

def newLine (indent : Nat) : List Char := '\n' :: List.replicate (2 * indent) ' '

mutual

def prettyChars (indent : Nat) : Json → List Char
  | .list (item :: rest) => '[' :: prettyItems (indent + 1) (item :: rest)
  | .object (member :: rest) => '\x7b' :: prettyMembers (indent + 1) (member :: rest)
  | .list [] => ['[', ']']
  | .object [] => ['\x7b', '\x7d']
  | .null => "null".toList
  | .bool b => if b then "true".toList else "false".toList
  | .number n => numberText n
  | .text s => textLiteral s

def prettyItems (indent : Nat) : List Json → List Char
  | [] => newLine (indent - 1) ++ [']']
  | [item] => newLine indent ++ prettyChars indent item ++ newLine (indent - 1) ++ [']']
  | item :: next :: rest =>
    newLine indent ++ prettyChars indent item ++ ',' :: prettyItems indent (next :: rest)

def prettyMembers (indent : Nat) : List (String × Json) → List Char
  | [] => newLine (indent - 1) ++ ['\x7d']
  | [(name, item)] =>
    newLine indent ++ textLiteral name ++ ':' :: ' ' :: prettyChars indent item ++
      newLine (indent - 1) ++ ['\x7d']
  | (name, item) :: next :: rest =>
    newLine indent ++ textLiteral name ++ ':' :: ' ' :: prettyChars indent item ++
      ',' :: prettyMembers indent (next :: rest)

end

def pretty (j : Json) : String := String.ofList (j.prettyChars 0)

end Json

end HybridSearch

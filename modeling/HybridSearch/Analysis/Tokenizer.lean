import HybridSearch.Analysis.Category
import HybridSearch.Analysis.Folding
import HybridSearch.Analysis.Stemmer
import HybridSearch.Text.Characters

/-!
# Tokenizers

A tokenizer cuts a text into runs of token characters and folds them. There are two: one knows the
categories of Unicode, the other takes every character beyond ASCII for a letter. Both can be told that
other characters are token characters or separators, and both can have their tokens stemmed.

A specification names the tokenizer and gives its arguments in pairs, as words between spaces.
-/
namespace HybridSearch.Analysis

/-- A token, folded, as bytes. -/
abbrev Token := Bytes

/-- Settings of the tokenizer that knows Unicode. `ascii` overrides the class of ASCII characters, the
first entry of a character deciding; the class of a character in `flipped` is turned over. -/
structure UnicodeOptions where
  removal : DiacriticRemoval := .singleMarks
  categories : List String := ["Ll", "Lm", "Lo", "Lt", "Lu", "Nd", "Nl", "No", "Co"]
  ascii : List (Char × Bool) := []
  flipped : List Char := []
  deriving DecidableEq, Repr, Inhabited

inductive BaseTokenizer where
  | unicode (options : UnicodeOptions)
  | ascii (overrides : List (Char × Bool))
  deriving DecidableEq, Repr, Inhabited

structure Tokenizer where
  stems : Bool
  base : BaseTokenizer
  deriving DecidableEq, Repr, Inhabited

def isAscii (c : Char) : Bool := c.toNat < 0x80

namespace UnicodeOptions

/-- The class by category; a character without one is a token character, and so is none of ASCII's
first. -/
def classOf (o : UnicodeOptions) (c : Char) : Bool :=
  if c.toNat = 0 then false
  else match category? c with
    | none => true
    | some category => o.categories.contains category

def isTokenChar (o : UnicodeOptions) (c : Char) : Bool :=
  if isAscii c then (o.ascii.lookup c).getD (o.classOf c)
  else o.classOf c != o.flipped.contains c

def continuesToken (o : UnicodeOptions) (c : Char) : Bool := o.isTokenChar c || isCombiningMark c

/-- Makes one character a token character or a separator. -/
def override (isToken : Bool) (o : UnicodeOptions) (c : Char) : UnicodeOptions :=
  if isAscii c then { o with ascii := (c, isToken) :: o.ascii }
  else if o.classOf c != isToken && !isCombiningMark c then { o with flipped := c :: o.flipped }
  else o

end UnicodeOptions

/-- The class of an ASCII character under overrides; every other character is a token character. -/
def isAsciiTokenChar (overrides : List (Char × Bool)) (c : Char) : Bool :=
  !isAscii c || (overrides.lookup c).getD (Text.isAsciiAlphanumeric c)

/-- The maximal runs that start with one kind of character and go on with another; `run` is the
current one reversed. -/
def runs (starts continues : Char → Bool) : Option (List Char) → List Char → List (List Char)
  | none, [] => []
  | some run, [] => [run.reverse]
  | none, c :: cs => runs starts continues (if starts c then some [c] else none) cs
  | some run, c :: cs =>
    if continues c then runs starts continues (some (c :: run)) cs
    else run.reverse :: runs starts continues none cs

/-- Longer tokens are cut. -/
def maxTokenLength : Nat := 32768

def tokenOf (folded : List Char) : Token := Bytes.ofString (String.ofList folded)

def BaseTokenizer.tokens : BaseTokenizer → List Char → List Token
  | .unicode o, cs =>
    (runs o.isTokenChar o.continuesToken none cs).map fun run =>
      tokenOf (run.flatMap (fold o.removal))
  | .ascii overrides, cs =>
    (runs (isAsciiTokenChar overrides) (isAsciiTokenChar overrides) none cs).map fun run =>
      tokenOf (run.map Char.toLower)

def Tokenizer.tokens (t : Tokenizer) (text : String) : List Token :=
  let base := t.base.tokens text.toList
  (if t.stems then base.map Stemmer.stem else base).map (·.take maxTokenLength)

inductive TokenizerFault where
  | malformed
  | unknownName (name : String)
  | badArguments
  deriving DecidableEq, Repr

def TokenizerFault.message : TokenizerFault → String
  | .malformed => "parse error in tokenize directive"
  | .unknownName name => "no such tokenizer: " ++ name
  | .badArguments => "error in tokenizer constructor"

def isSpecChar (c : Char) : Bool :=
  Text.isAsciiAlphanumeric c || c == '_' || c.toNat == 0x1a || !isAscii c

/-- The words between spaces, each made of word characters; `word` holds the current one reversed. -/
def specWordsFrom (word : List Char) : List Char → Option (List String)
  | [] => some (if word.isEmpty then [] else [String.ofList word.reverse])
  | c :: cs =>
    if c = ' ' then
      if word.isEmpty then specWordsFrom [] cs
      else (specWordsFrom [] cs).map (String.ofList word.reverse :: ·)
    else if isSpecChar c then specWordsFrom (c :: word) cs
    else none

def specWords? (spec : String) : Option (List String) := specWordsFrom [] spec.toList

/-- Arguments by name and value; none may be left over. -/
def argumentPairs? : List String → Option (List (String × String))
  | [] => some []
  | [_] => none
  | name :: value :: rest => (argumentPairs? rest).map ((name.toLower, value) :: ·)

/-- Two-letter codes that a category argument may have; the last of the letters stands for no
character at all. -/
def categoryCodes : List String :=
  ["Cc", "Cf", "Cn", "Cs", "Co", "Ll", "Lm", "Lo", "Lt", "Lu", "LC", "Mc", "Me", "Mn", "Nd", "Nl",
    "No", "Pc", "Pd", "Pe", "Pf", "Pi", "Po", "Ps", "Sc", "Sk", "Sm", "So", "Zl", "Zp", "Zs"]

def categoryOf? (value : String) : Option String :=
  let code := String.ofList (value.toList.take 2)
  if categoryCodes.contains code then some code else none

def removalOf? (value : String) : Option DiacriticRemoval :=
  match value with
  | "0" => some .none
  | "1" => some .singleMarks
  | "2" => some .allMarks
  | _ => none

/-- The last category argument decides, before the others are looked at. -/
def withCategories? (arguments : List (String × String)) : Option UnicodeOptions :=
  match arguments.reverse.lookup "categories" with
  | none => some {}
  | some value => (categoryOf? value).map fun code => { categories := [code] }

def unicodeArgument? (o : UnicodeOptions) (a : String × String) : Option UnicodeOptions :=
  match a.1 with
  | "remove_diacritics" => (removalOf? a.2).map fun removal => { o with removal }
  | "tokenchars" => some (a.2.toList.foldl (UnicodeOptions.override true) o)
  | "separators" => some (a.2.toList.foldl (UnicodeOptions.override false) o)
  | "categories" => some o
  | _ => none

def asciiArgument? (overrides : List (Char × Bool)) (a : String × String) :
    Option (List (Char × Bool)) :=
  match a.1 with
  | "tokenchars" => some ((a.2.toList.map fun c => (c, true)).reverse ++ overrides)
  | "separators" => some ((a.2.toList.map fun c => (c, false)).reverse ++ overrides)
  | _ => none

def baseOf (name : String) (arguments : List String) : Except TokenizerFault BaseTokenizer :=
  let built := match name.toLower with
    | "unicode61" => some do
      let pairs ← argumentPairs? arguments
      let o ← pairs.foldlM unicodeArgument? (← withCategories? pairs)
      return BaseTokenizer.unicode o
    | "ascii" => some do
      return BaseTokenizer.ascii (← (← argumentPairs? arguments).foldlM asciiArgument? [])
    | _ => none
  match built with
  | none => .error (.unknownName name)
  | some none => .error .badArguments
  | some (some base) => .ok base

/-- The tokenizer of a specification. A stemmer's first argument names the tokenizer below it; whatever
is wrong with that one, it is the stemmer that has bad arguments. -/
def Tokenizer.ofSpec (spec : String) : Except TokenizerFault Tokenizer :=
  match specWords? spec with
  | none => .error .malformed
  | some [] => .ok ⟨false, .unicode {}⟩
  | some (name :: arguments) =>
    if name.toLower = "porter" then
      let (base, rest) := match arguments with
        | [] => ("unicode61", [])
        | base :: rest => (base, rest)
      match baseOf base rest with
      | .ok base => .ok ⟨true, base⟩
      | .error _ => .error .badArguments
    else (baseOf name arguments).map fun base => ⟨false, base⟩

end HybridSearch.Analysis

import HybridSearch.Bytes

/-!
# English stems

The suffix stripping of Porter, on bytes. Each step has a list of suffixes; the first that the word ends
in decides, and its replacement is made if the stem before it meets a condition. The measure of a stem
is how often a vowel is followed by a consonant. Words under three or over sixty-four bytes have no
stem of their own.
-/
namespace HybridSearch.Analysis.Stemmer

def letter (c : Char) : UInt8 := UInt8.ofNat c.toNat

/-- A vowel; `y` is one where the context says so. -/
def isVowel (yCounts : Bool) (b : UInt8) : Bool :=
  b == letter 'a' || b == letter 'e' || b == letter 'i' || b == letter 'o' || b == letter 'u' ||
    (yCounts && b == letter 'y')

/-- Which letters are consonants; `y` after a consonant is a vowel. -/
def consonantsFrom : Bool → Bytes → List Bool
  | _, [] => []
  | previous, b :: rest =>
    let consonant := !isVowel previous b
    consonant :: consonantsFrom consonant rest

def consonants (stem : Bytes) : List Bool := consonantsFrom false stem

def turns : List Bool → Nat
  | false :: true :: rest => turns (true :: rest) + 1
  | _ :: rest => turns rest
  | [] => 0

def measure (stem : Bytes) : Nat := turns (consonants stem)

/-- A vowel anywhere, `y` counting as one after the first letter. -/
def hasVowel : Bytes → Bool
  | [] => false
  | first :: rest => isVowel false first || rest.any (isVowel true)

/-- The stem ends in consonant, vowel, consonant, the last one not `w`, `x` or `y`. -/
def endsInShortSyllable (stem : Bytes) : Bool :=
  match stem.getLast? with
  | none => false
  | some last =>
    last != letter 'w' && last != letter 'x' && last != letter 'y' &&
      (consonants stem).reverse.take 3 == [true, false, true]

def endsInSOrT (stem : Bytes) : Bool :=
  match stem.getLast? with
  | none => false
  | some last => last == letter 's' || last == letter 't'

/-- A suffix, what replaces it, and when. -/
structure Rule where
  suffix : String
  replacement : String
  condition : Bytes → Bool

/-- The stem before a suffix that is not the whole word. -/
def stemBefore? (word : Bytes) (suffix : String) : Option Bytes :=
  let s := Bytes.ofString suffix
  if s.length < word.length && s.isSuffixOf word then some (word.take (word.length - s.length))
  else none

/-- The word after the first rule whose suffix it has, if the stem meets its condition. -/
def replaced? (rules : List Rule) (word : Bytes) : Option Bytes :=
  match rules.findSome? fun r => (stemBefore? word r.suffix).map fun stem => (r, stem) with
  | some (r, stem) =>
    if r.condition stem then some (stem ++ Bytes.ofString r.replacement) else none
  | none => none

def applyRules (rules : List Rule) (word : Bytes) : Bytes := (replaced? rules word).getD word

def whenMeasured (suffix replacement : String) : Rule :=
  ⟨suffix, replacement, fun stem => 0 < measure stem⟩

def whenLong (suffix : String) : Rule := ⟨suffix, "", fun stem => 1 < measure stem⟩

def always (suffix replacement : String) : Rule := ⟨suffix, replacement, fun _ => true⟩

def dropPlural (word : Bytes) : Bytes :=
  match word.reverse with
  | s :: e :: rest =>
    if s == letter 's' then
      if e == letter 'e' then
        let long := match rest with
          | i :: _ :: _ => i == letter 'i' || ([letter 's', letter 's'].isPrefixOf rest &&
              2 < rest.length)
          | _ => false
        word.take (word.length - if long then 2 else 1)
      else if e == letter 's' then word
      else word.take (word.length - 1)
    else word
  | _ => word

def pastRules : List Rule :=
  [whenMeasured "eed" "ee", ⟨"ed", "", hasVowel⟩, ⟨"ing", "", hasVowel⟩]

def completionRules : List Rule := [always "at" "ate", always "bl" "ble", always "iz" "ize"]

/-- Gives a shortened stem a proper ending: a silent `e`, or one consonant for two. -/
def complete (word : Bytes) : Bytes :=
  match replaced? completionRules word with
  | some w => w
  | none =>
    match word.reverse with
    | last :: before :: _ =>
      if !isVowel false last && last != letter 'l' && last != letter 's' && last != letter 'z' &&
          last == before then word.dropLast
      else if measure word = 1 && endsInShortSyllable word then word ++ [letter 'e']
      else word
    | _ => word

def dropPast (word : Bytes) : Bytes :=
  match replaced? pastRules word with
  | none => word
  | some w => if (stemBefore? word "eed").isSome then w else complete w

/-- A final `y` after a vowel further ahead. -/
def softenY (word : Bytes) : Bytes :=
  if word.getLast? == some (letter 'y') && hasVowel word.dropLast then
    word.dropLast ++ [letter 'i']
  else word

def doubleSuffixRules : List Rule :=
  [whenMeasured "ational" "ate", whenMeasured "tional" "tion", whenMeasured "enci" "ence",
    whenMeasured "anci" "ance", whenMeasured "izer" "ize", whenMeasured "logi" "log",
    whenMeasured "bli" "ble", whenMeasured "alli" "al", whenMeasured "entli" "ent",
    whenMeasured "eli" "e", whenMeasured "ousli" "ous", whenMeasured "ization" "ize",
    whenMeasured "ation" "ate", whenMeasured "ator" "ate", whenMeasured "alism" "al",
    whenMeasured "iveness" "ive", whenMeasured "fulness" "ful", whenMeasured "ousness" "ous",
    whenMeasured "aliti" "al", whenMeasured "iviti" "ive", whenMeasured "biliti" "ble"]

def adjectiveRules : List Rule :=
  [whenMeasured "ical" "ic", whenMeasured "ness" "", whenMeasured "icate" "ic",
    whenMeasured "iciti" "ic", whenMeasured "ful" "", whenMeasured "ative" "",
    whenMeasured "alize" "al"]

def finalRules : List Rule :=
  [whenLong "al", whenLong "ance", whenLong "ence", whenLong "er", whenLong "ic",
    whenLong "able", whenLong "ible", whenLong "ant", whenLong "ement", whenLong "ment",
    whenLong "ent", ⟨"ion", "", fun stem => endsInSOrT stem && 1 < measure stem⟩,
    whenLong "ou", whenLong "ism", whenLong "ate", whenLong "iti", whenLong "ous",
    whenLong "ive", whenLong "ize"]

/-- A silent `e` at the end. -/
def dropSilentE (word : Bytes) : Bytes :=
  let stem := word.dropLast
  if word.getLast? == some (letter 'e') &&
      (1 < measure stem || (measure stem == 1 && !endsInShortSyllable stem)) then stem
  else word

/-- One `l` for two at the end of a long word. -/
def dropDoubleL (word : Bytes) : Bytes :=
  if [letter 'l', letter 'l'].isSuffixOf word && 1 < measure word.dropLast then word.dropLast
  else word

def stem (word : Bytes) : Bytes :=
  if word.length < 3 ∨ 64 < word.length then word
  else
    let singular := softenY (dropPast (dropPlural word))
    let plain := applyRules finalRules (applyRules adjectiveRules
      (applyRules doubleSuffixRules singular))
    dropDoubleL (dropSilentE plain)

end HybridSearch.Analysis.Stemmer

/-!
# Arguments

Arguments are options and words. An option has a long name behind two dashes and may have a letter behind
one; letters may be joined, and a value follows its option in the same argument or in the next. Behind
two lone dashes all arguments are words. The first thing that is wrong, or that asks for help or for the
version, decides.
-/
namespace HybridSearch

/-- What an option takes, and whether it may be given again. -/
structure OptionSpec where
  name : String
  letter : Option Char := none
  takesValue : Bool := false
  repeats : Bool := false
  /-- Whether a negative number may follow as the value. -/
  takesNegative : Bool := false
  accepts : String → Bool := fun _ => true

/-- The options and the words of a command; of the words, the first `required` must be given. -/
structure ArgumentSpec where
  options : List OptionSpec
  words : List (String → Bool) := []
  required : Nat := 0

inductive ArgumentStop where
  | refused
  | help
  | version
  deriving DecidableEq, Repr

/-- Options with their values, and words, in the order given. -/
structure Arguments where
  options : List (String × String) := []
  words : List String := []
  deriving DecidableEq, Repr, Inhabited

namespace Arguments

def has (a : Arguments) (name : String) : Bool := a.options.any (·.1 == name)

def value? (a : Arguments) (name : String) : Option String := a.options.reverse.lookup name

def values (a : Arguments) (name : String) : List String :=
  (a.options.filter (·.1 == name)).map (·.2)

def addOption (a : Arguments) (o : OptionSpec) (value : String) : Except ArgumentStop Arguments :=
  if o.name = "help" then .error .help
  else if o.name = "version" then .error .version
  else if (a.has o.name && !o.repeats) || !o.accepts value then .error .refused
  else .ok { a with options := a.options ++ [(o.name, value)] }

def addWord (spec : ArgumentSpec) (a : Arguments) (word : String) : Except ArgumentStop Arguments :=
  match spec.words[a.words.length]? with
  | none => .error .refused
  | some accepts =>
    if accepts word then .ok { a with words := a.words ++ [word] } else .error .refused

inductive Form where
  | word
  | endOfOptions
  | long (name : String) (value : Option String)
  | letters (cs : List Char)

def formOf (argument : String) : Form :=
  match argument.toList with
  | ['-', '-'] => .endOfOptions
  | '-' :: '-' :: cs =>
    let name := String.ofList (cs.takeWhile (· ≠ '='))
    match cs.dropWhile (· ≠ '=') with
    | [] => .long name none
    | _ :: value => .long name (some (String.ofList value))
  | '-' :: c :: cs => .letters (c :: cs)
  | _ => .word

/-- The digits of a number, with at most one point and one exponent behind the first digit. -/
def isNumeral (seenPoint seenExponent isFirst : Bool) : List Char → Bool
  | [] => true
  | c :: cs =>
    if c.isDigit then isNumeral seenPoint seenExponent false cs
    else if c = '.' then !isFirst && !seenPoint && !seenExponent && isNumeral true seenExponent false cs
    else if c = 'e' ∨ c = 'E' then
      !isFirst && !seenExponent && !cs.isEmpty && isNumeral seenPoint true false cs
    else false

/-- Whether an argument can be the value of an option before it. -/
def isValueOf (o : OptionSpec) (argument : String) : Bool :=
  match formOf argument with
  | .word => true
  | .letters cs => o.takesNegative && isNumeral false false true cs
  | _ => false

/-- Reads joined letters; an option that still wants its value is returned. -/
def addLetters (spec : ArgumentSpec) (a : Arguments) :
    List Char → Except ArgumentStop (Arguments × Option OptionSpec)
  | [] => .ok (a, none)
  | c :: cs =>
    match spec.options.find? (·.letter == some c) with
    | none => .error .refused
    | some o =>
      if o.takesValue then
        match cs with
        | [] => .ok (a, some o)
        | '=' :: value => (a.addOption o (String.ofList value)).map (·, none)
        | value => (a.addOption o (String.ofList value)).map (·, none)
      else do addLetters spec (← a.addOption o "") cs

/-- A long option; one that still wants its value is returned. -/
def addLong (spec : ArgumentSpec) (a : Arguments) (name : String) (value : Option String) :
    Except ArgumentStop (Arguments × Option OptionSpec) :=
  match spec.options.find? (·.name == name) with
  | none => .error .refused
  | some o =>
    match o.takesValue, value with
    | true, none => .ok (a, some o)
    | true, some v => (a.addOption o v).map (·, none)
    | false, none => (a.addOption o "").map (·, none)
    | false, some _ => .error .refused

/-- Reads arguments, up to the first word if `stops`. `wanting` is an option whose value comes next. Gives
the arguments that are left. -/
def readFrom (spec : ArgumentSpec) (stops : Bool) (a : Arguments) :
    Option OptionSpec → List String → Except ArgumentStop (Arguments × List String)
  | some _, [] => .error .refused
  | some o, argument :: rest => do
    if isValueOf o argument then readFrom spec stops (← a.addOption o argument) none rest
    else throw .refused
  | none, [] => .ok (a, [])
  | none, argument :: rest => do
    match formOf argument with
    | .word =>
      if stops then return (a, argument :: rest)
      else readFrom spec stops (← a.addWord spec argument) none rest
    | .endOfOptions =>
      if stops then throw .refused
      else return (← rest.foldlM (addWord spec) a, [])
    | .long name value =>
      let (a, wanting) ← a.addLong spec name value
      readFrom spec stops a wanting rest
    | .letters cs =>
      let (a, wanting) ← a.addLetters spec cs
      readFrom spec stops a wanting rest

/-- The arguments before the first word, and the others. -/
def readLeading (spec : ArgumentSpec) (arguments : List String) :
    Except ArgumentStop (Arguments × List String) :=
  readFrom spec true {} none arguments

def read (spec : ArgumentSpec) (arguments : List String) : Except ArgumentStop Arguments := do
  let (a, _) ← readFrom spec false {} none arguments
  if a.words.length < spec.required then throw .refused else return a

end Arguments

end HybridSearch

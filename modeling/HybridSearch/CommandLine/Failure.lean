import HybridSearch.Engine.Error

/-!
# Failures of commands

What a command could not do, with the causes underneath, outermost first. In a report the causes stand on
lines of their own, numbered when there are several; further lines of a cause are set in below it.
-/
namespace HybridSearch

structure Failure where
  message : String
  causes : List String := []
  deriving DecidableEq, Repr, Inhabited

namespace Failure

def ofEngine (message : String) (e : EngineError) : Failure := ⟨message, e.message :: e.causes⟩

def chain (f : Failure) : String := ": ".intercalate (f.message :: f.causes)

def causeMargin : List Char := List.replicate 4 ' '

def numberedMargin : List Char := List.replicate 7 ' '

def setIn (margin : List Char) (cs : List Char) : List Char :=
  cs.flatMap fun c => if c = '\n' then '\n' :: margin else [c]

def causeLines (causes : List String) : List (List Char) :=
  match causes with
  | [cause] => [causeMargin ++ setIn causeMargin cause.toList]
  | causes => causes.zipIdx.map fun (cause, number) =>
    causeMargin ++ (toString number ++ ": ").toList ++ setIn numberedMargin cause.toList

def report (f : Failure) : String :=
  let causes := if f.causes.isEmpty then []
    else "\n\nCaused by:".toList ++ (causeLines f.causes).flatMap ('\n' :: ·)
  "Error: " ++ f.message ++ String.ofList causes ++ "\n"

end Failure

end HybridSearch

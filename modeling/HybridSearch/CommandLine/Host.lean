import HybridSearch.Number.Binary64

/-!
# The host of a program

What commands need of the machine they run on, in any monad: files of text by path, the time, and
random numbers.
-/
namespace HybridSearch

/-- Why a file operation failed, with the number that the system gives it. -/
structure FileFault where
  reason : String
  code : Nat
  deriving DecidableEq, Repr

namespace FileFault

def notFound : FileFault := ⟨"No such file or directory", 2⟩

def alreadyExists : FileFault := ⟨"File exists", 17⟩

def notDirectory : FileFault := ⟨"Not a directory", 20⟩

def isDirectory : FileFault := ⟨"Is a directory", 21⟩

def message (f : FileFault) : String := f.reason ++ " (os error " ++ toString f.code ++ ")"

/-- Nothing has the path, as opposed to something that cannot be read. -/
def isAbsence (f : FileFault) : Bool := f.code == 2 || f.code == 20

end FileFault

/-- `makeDirectory` also makes the directories above; `samples` gives so many samples of the standard
exponential distribution, the same ones each time for the same seed. -/
structure Host (m : Type → Type) where
  readText : String → m (Except FileFault String)
  writeText : String → String → m (Except FileFault Unit)
  makeDirectory : String → m (Except FileFault Unit)
  milliseconds : m Nat
  samples : Option Nat → Nat → m (List Binary64)

def pathIn (directory name : String) : String :=
  if directory.isEmpty || directory.endsWith "/" then directory ++ name else directory ++ "/" ++ name

end HybridSearch

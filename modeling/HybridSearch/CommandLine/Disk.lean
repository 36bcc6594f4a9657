import HybridSearch.CommandLine.Host

/-!
# A disk in memory

Files and directories below a working directory, for programs that run without a machine. A path is taken
apart into names; the absolute name of the working directory stands for no names at all, and any other
absolute path lies outside.
-/
namespace HybridSearch

abbrev Place := List String

structure Disk where
  workingDirectory : String
  files : List (Place × String) := []
  directories : List Place := []
  samples : List Binary64 := []
  deriving Repr, Inhabited

namespace Disk

def step (place : Place) (name : String) : Place :=
  if name.isEmpty || name == "." then place
  else if name == ".." then place.dropLast
  else place ++ [name]

def namesOf (path : String) : Place := (path.splitOn "/").foldl step []

/-- What stands before all names of a path outside the working directory. -/
def outside : String := "/"

def placeOf (d : Disk) (path : String) : Place :=
  let root := d.workingDirectory ++ "/"
  if path == d.workingDirectory then []
  else if path.startsWith root then namesOf (String.ofList (path.toList.drop root.length))
  else if path.startsWith "/" then outside :: namesOf path
  else namesOf path

def hasFile (d : Disk) (place : Place) : Bool := d.files.any (·.1 == place)

/-- A directory exists when it was made or when something lies below it. -/
def hasDirectory (d : Disk) (place : Place) : Bool :=
  place.isEmpty || place == [outside] || d.directories.any (place.isPrefixOf ·) ||
    d.files.any fun f => place.isPrefixOf f.1 && f.1 != place

/-- Whether a file stands where the path needs a directory. -/
def isBlocked (d : Disk) (place : Place) : Bool :=
  (List.range place.length).any fun n => d.hasFile (place.take n)

def read (d : Disk) (path : String) : Except FileFault String :=
  let place := d.placeOf path
  match d.files.lookup place with
  | some text => if path.endsWith "/" then .error .notDirectory else .ok text
  | none =>
    if d.isBlocked place then .error .notDirectory
    else if d.hasDirectory place then .error .isDirectory
    else .error .notFound

def write (d : Disk) (path text : String) : Except FileFault Disk :=
  let place := d.placeOf path
  if d.isBlocked place then .error .notDirectory
  else if d.hasDirectory place then .error .isDirectory
  else if !d.hasDirectory place.dropLast then .error .notFound
  else .ok { d with files := (place, text) :: d.files.filter (·.1 != place) }

def makeDirectory (d : Disk) (path : String) : Except FileFault Disk :=
  let place := d.placeOf path
  if d.isBlocked place then .error .notDirectory
  else if d.hasFile place then .error .alreadyExists
  else .ok { d with directories := place :: d.directories }

/-- Keeps the disk as it was when an operation fails. -/
def update (operation : Disk → Except FileFault Disk) : StateM Disk (Except FileFault Unit) := fun d =>
  match operation d with
  | .ok d => (.ok (), d)
  | .error fault => (.error fault, d)

/-- A host without a clock and with the samples of the disk. -/
def host : Host (StateM Disk) where
  readText path := fun d => (d.read path, d)
  writeText path text := update (·.write path text)
  makeDirectory path := update (·.makeDirectory path)
  milliseconds := pure 0
  samples _ count := fun d => (d.samples.take count, d)

end Disk

end HybridSearch

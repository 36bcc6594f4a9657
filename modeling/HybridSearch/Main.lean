import HybridSearch.CommandLine.Program
import Std.Time.DateTime.Timestamp

/-!
# The command line

Runs the program on the machine: files, the clock, random numbers and the standard streams.
-/
namespace HybridSearch.Main

def faultOf : IO.Error → FileFault
  | .noFileOrDirectory .. => .notFound
  | .alreadyExists .. => .alreadyExists
  | .inappropriateType _ code reason => if code.toNat = 21 then .isDirectory else ⟨reason, code.toNat⟩
  | e => ⟨toString e, 0⟩

def attempt {α : Type} (operation : IO α) : IO (Except FileFault α) := do
  match ← operation.toBaseIO with
  | .ok a => return .ok a
  | .error e => return .error (faultOf e)

/-- Samples of the standard exponential distribution from uniform ones. -/
def exponentials : Nat → StdGen → List Binary64
  | 0, _ => []
  | count + 1, gen =>
    let (n, gen) := randNat gen 1 0x20000000000000
    (Binary64.ofNat n / Binary64.ofNat 0x20000000000000).ln.neg :: exponentials count gen

def samples (seed : Option Nat) (count : Nat) : IO (List Binary64) := do
  let seed ← match seed with
    | some seed => pure seed
    | none => IO.rand 0 0x80000000
  return exponentials count (mkStdGen seed)

def host : Host IO where
  readText path := attempt (IO.FS.readFile path)
  writeText path text := attempt (IO.FS.writeFile path text)
  makeDirectory path := attempt (IO.FS.createDirAll path)
  milliseconds := do
    return (← Std.Time.Timestamp.now).toMillisecondsSinceUnixEpoch.toInt.toNat
  samples := samples

def environment : IO Environment := do
  let home := (← IO.getEnv "HOME").map (pathIn · ".local/share")
  let shared := (← IO.getEnv "XDG_DATA_HOME") <|> home
  return {
    dataDirectory := ← IO.getEnv "TESSERA_DATA_DIR"
    standardDirectory := shared.map (pathIn · Program.name) }

end HybridSearch.Main

def main (arguments : List String) : IO UInt32 := do
  let result ← HybridSearch.Program.run HybridSearch.Main.host (← HybridSearch.Main.environment) arguments
  IO.print result.output
  IO.eprint result.errors
  return result.code.toUInt32

import HybridSearch.Config.EngineConfig
import HybridSearch.Config.TextConfig
import HybridSearch.Config.VectorConfig
import HybridSearch.Toml.Reader

/-!
# Settings files

A settings file is a TOML document with a section for the engine and one for each index. What it does not
say has its standard value. The engine's settings are checked first, then those of the text index, then
those of the vector index.
-/
namespace HybridSearch

structure Settings where
  engine : EngineConfig := {}
  text : TextConfig := {}
  vector : VectorConfig := {}
  deriving DecidableEq, Repr, Inhabited

namespace Settings

inductive Fault where
  | malformed
  | engine (fault : EngineConfig.Fault)
  | text (fault : TextConfig.Fault)
  | vector (fault : VectorConfig.Fault)
  deriving DecidableEq, Repr

/-- A section may be an array of its first settings; what the array holds beyond them is ignored. -/
def cutTo (names : List String) : Datum → Datum
  | .list items => .list (items.take names.length)
  | d => d

/-- A choice may also be the only key of a table, with an empty array or table for its value. -/
def namedChoice : Datum → Datum
  | .record [(some name, .list [])] => .text (some name)
  | .record [(some name, .record [])] => .text (some name)
  | d => d

def namedMetric (m : Option String × Datum) : Option String × Datum :=
  if m.1 = some "distance" then (m.1, namedChoice m.2) else m

/-- The vector section with the name of the metric for the metric, its second setting. -/
def vectorSection : Datum → Datum
  | .record members => .record (members.map namedMetric)
  | .list (dimension :: metric :: rest) => .list (dimension :: namedChoice metric :: rest)
  | d => d

def decode? : Decoder Settings := fun depth d => do
  let f ← Fields.decode? ["engine", "text", "vector"] depth d
  return {
    engine := ← f.orElse "engine" {} fun depth d =>
      EngineConfig.decode? depth (cutTo EngineConfig.fieldNames d)
    text := ← f.orElse "text" {} fun depth d =>
      TextConfig.decode? depth (cutTo TextConfig.fieldNames d)
    vector := ← f.orElse "vector" {} fun depth d =>
      VectorConfig.decode? depth (vectorSection (cutTo VectorConfig.fieldNames d)) }

def validate (s : Settings) : Except Fault Unit := do
  s.engine.validate.mapError .engine
  s.text.validate.mapError .text
  s.vector.validate.mapError .vector

def parse (source : String) : Except Fault Settings :=
  match (Toml.read? source).bind (decode? documentDepth) with
  | none => .error .malformed
  | some s => s.validate.map fun _ => s

end Settings

end HybridSearch

import WireScribe.Sink
import WireScribe.Value

/-!
# WireScribe.Value.Write — writing a value by its own shape

Without a schema a container announces the tags of its first element or entry,
and `void` when it has none. A record writes its fields one after the other with
no frame around them, and a script makes its calls.
-/

namespace WireScribe

/-- The tag announced for a run of values: that of the first, `void` for none. -/
def headWireType : List Value → WireType
  | [] => .void
  | v :: _ => v.wireType

namespace Value

variable {σ : Type} [Sink σ]

mutual

/-- Writes a value with no schema at hand. -/
def write : Value → EStateM Oversize σ Unit
  | datum d => Sink.write (.datum d)
  | seq kind items => do
    Sink.write (.seqBegin kind (headWireType items) items.length)
    writeItems items
    Sink.write (.seqEnd kind)
  | map entries => do
    Sink.write (.mapBegin (headWireType (entries.map Prod.fst))
      (headWireType (entries.map Prod.snd)) entries.length)
    writeEntries entries
    Sink.write .mapEnd
  | record _ fields => writeFields fields
  | script calls => Sink.writeAll calls

/-- Writes elements in order. -/
def writeItems : List Value → EStateM Oversize σ Unit
  | [] => pure ()
  | v :: rest => do
    v.write
    writeItems rest

/-- Writes entries in order, each key before its value. -/
def writeEntries : List (Value × Value) → EStateM Oversize σ Unit
  | [] => pure ()
  | (k, v) :: rest => do
    k.write
    v.write
    writeEntries rest

/-- Writes the values of fields in order; their numbers do not reach the wire. -/
def writeFields : List (Int16 × Value) → EStateM Oversize σ Unit
  | [] => pure ()
  | (_, v) :: rest => do
    v.write
    writeFields rest

end

end Value

end WireScribe

import WireScribe.Call

/-!
# WireScribe.Value — values in memory

A `Value` is what a program writes: a scalar, a list or a set, a map, or a
struct. Lists and sets keep their elements, and maps their entries, in the order
in which they are written. A struct is either a `record` with numbered fields or
a `script`, a struct that writes itself by a fixed run of calls.
-/

namespace WireScribe

/-- The outermost form of a value. -/
inductive Shape where
  | datum (kind : DatumKind)
  | seq (kind : SeqKind)
  | map
  | struct
deriving Repr, DecidableEq

namespace Shape

/-- The shape's name in messages. -/
def name : Shape → String
  | datum kind => kind.name
  | seq kind => kind.name
  | map => "map"
  | struct => "struct"

/-- The tag that announces values of this shape. -/
def wireType : Shape → WireType
  | datum kind => kind.wireType
  | seq kind => kind.wireType
  | map => .map
  | struct => .struct

end Shape

/-- A value that can be written. -/
inductive Value where
  | datum (d : Datum)
  | seq (kind : SeqKind) (items : List Value)
  | map (entries : List (Value × Value))
  | record (name : String) (fields : List (Int16 × Value))
  | script (calls : List Call)
deriving Repr

namespace Value

/-- The outermost form. -/
def shape : Value → Shape
  | datum d => .datum d.kind
  | seq kind _ => .seq kind
  | map _ => .map
  | record _ _ => .struct
  | script _ => .struct

/-- The tag that announces the value. -/
def wireType (v : Value) : WireType := v.shape.wireType

/-- The number of elements or entries of a container. -/
def size? : Value → Option Nat
  | seq _ items => some items.length
  | map entries => some entries.length
  | _ => none

end Value

end WireScribe

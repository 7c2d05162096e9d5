import WireScribe.WireType

/-!
# WireScribe.Datum — what a single scalar write carries

A `Datum` is one scalar as it goes to the wire. Integers have the width of
their kind, a double is kept as its 64 IEEE-754 bits (so that every NaN payload
survives), and binary data is a list of bytes. `DatumKind` names the eight
kinds.
-/

namespace WireScribe

/-- The kinds of scalar that the wire format distinguishes in its calls. -/
inductive DatumKind where
  | bool
  | byte
  | i16
  | i32
  | i64
  | double
  | string
  | binary
deriving Repr, DecidableEq

namespace DatumKind

/-- The kind's name in messages. -/
def name : DatumKind → String
  | bool => "bool"
  | byte => "byte"
  | i16 => "i16"
  | i32 => "i32"
  | i64 => "i64"
  | double => "double"
  | string => "string"
  | binary => "binary"

/-- The tag that announces elements of this kind. Text and bytes share one. -/
def wireType : DatumKind → WireType
  | bool => .bool
  | byte => .byte
  | i16 => .i16
  | i32 => .i32
  | i64 => .i64
  | double => .double
  | string => .string
  | binary => .string

end DatumKind

/-- A scalar on its way to the wire. -/
inductive Datum where
  | bool (b : Bool)
  | byte (n : Int8)
  | i16 (n : Int16)
  | i32 (n : Int32)
  | i64 (n : Int64)
  /-- A double, by its IEEE-754 bits. -/
  | double (bits : UInt64)
  | string (s : String)
  | binary (bytes : List UInt8)
deriving Repr, DecidableEq

/-- The kind of a scalar. -/
def Datum.kind : Datum → DatumKind
  | .bool _ => .bool
  | .byte _ => .byte
  | .i16 _ => .i16
  | .i32 _ => .i32
  | .i64 _ => .i64
  | .double _ => .double
  | .string _ => .string
  | .binary _ => .binary

end WireScribe

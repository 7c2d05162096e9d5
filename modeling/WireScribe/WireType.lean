/-!
# WireScribe.WireType — the type tags of the wire

A container announces the types of its elements by one-byte tags. This module
lists the tags with their codes and names:

1. **Codes**: `code` is the byte on the wire, `ofCode?` reads it back.
2. **Names**: `name` is the upper-case name of the format, `variantName` the
   name generated code refers to.
-/

namespace WireScribe

/-- A type tag of the wire format. -/
inductive WireType where
  | stop
  | void
  | bool
  | byte
  | double
  | i16
  | i32
  | i64
  | string
  | struct
  | map
  | set
  | list
deriving Repr, DecidableEq

namespace WireType

/-- Every tag, in the order of the codes. -/
def all : List WireType :=
  [stop, void, bool, byte, double, i16, i32, i64, string, struct, map, set, list]

/-- The byte that stands for the tag; 5, 7 and 9 are not used. -/
def code : WireType → UInt8
  | stop => 0
  | void => 1
  | bool => 2
  | byte => 3
  | double => 4
  | i16 => 6
  | i32 => 8
  | i64 => 10
  | string => 11
  | struct => 12
  | map => 13
  | set => 14
  | list => 15

/-- The tag a byte stands for, if any. -/
def ofCode? (c : UInt8) : Option WireType :=
  all.find? (·.code == c)

/-- The tag's name in the format. -/
def name : WireType → String
  | stop => "STOP"
  | void => "VOID"
  | bool => "BOOL"
  | byte => "BYTE"
  | double => "DOUBLE"
  | i16 => "I16"
  | i32 => "I32"
  | i64 => "I64"
  | string => "STRING"
  | struct => "STRUCT"
  | map => "MAP"
  | set => "SET"
  | list => "LIST"

/-- The tag's name inside generated code. -/
def variantName : WireType → String
  | stop => "Stop"
  | void => "Void"
  | bool => "Bool"
  | byte => "Byte"
  | double => "Double"
  | i16 => "I16"
  | i32 => "I32"
  | i64 => "I64"
  | string => "String"
  | struct => "Struct"
  | map => "Map"
  | set => "Set"
  | list => "List"

/-- Lists, sets and maps hold further values. -/
def isContainer : WireType → Bool
  | list | set | map => true
  | _ => false

/-- A code reads back as the tag it was written for. -/
theorem ofCode?_code (w : WireType) : ofCode? w.code = some w := by
  cases w <;> rfl

end WireType

end WireScribe

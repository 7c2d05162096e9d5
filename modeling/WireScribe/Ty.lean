import WireScribe.Call

/-!
# WireScribe.Ty — the types of a schema

A type is a scalar, a container of types, a struct known by its name, or a bare
name that nothing has resolved yet. `text` is its notation in the schema
language, and `wireType` the tag that announces values of the type.
-/

namespace WireScribe

/-- The scalar types of a schema. `i8` and `byte` are two names of one kind of
datum. -/
inductive Scalar where
  | bool
  | i8
  | byte
  | i16
  | i32
  | i64
  | double
  | string
  | binary
deriving Repr, DecidableEq

namespace Scalar

/-- Every scalar type. -/
def all : List Scalar := [bool, i8, byte, i16, i32, i64, double, string, binary]

/-- The scalar's name in a schema. -/
def name : Scalar → String
  | bool => "bool"
  | i8 => "i8"
  | byte => "byte"
  | i16 => "i16"
  | i32 => "i32"
  | i64 => "i64"
  | double => "double"
  | string => "string"
  | binary => "binary"

/-- The kind of datum that a scalar type holds. -/
def kind : Scalar → DatumKind
  | bool => .bool
  | i8 => .byte
  | byte => .byte
  | i16 => .i16
  | i32 => .i32
  | i64 => .i64
  | double => .double
  | string => .string
  | binary => .binary

/-- The scalar with a given name. -/
def ofName? (s : String) : Option Scalar := all.find? (·.name == s)

/-- A name belongs to one scalar. -/
theorem ofName?_name (s : Scalar) : ofName? s.name = some s := by
  cases s <;> rfl

end Scalar

/-- A type of a schema. -/
inductive Ty where
  | scalar (s : Scalar)
  | seq (kind : SeqKind) (elem : Ty)
  | map (key value : Ty)
  | struct (name : String)
  /-- A name that has not been resolved to a type. -/
  | named (name : String)
deriving Repr, DecidableEq

/-- The outermost form of a type. -/
inductive Tag where
  | scalar (s : Scalar)
  | seq (kind : SeqKind)
  | map
  | struct
  | custom
deriving Repr, DecidableEq

namespace Tag

/-- Every tag. -/
def all : List Tag :=
  Scalar.all.map scalar ++ [seq .list, seq .set, map, struct, custom]

/-- The tag's name. -/
def name : Tag → String
  | scalar s => s.name
  | seq kind => kind.name
  | map => "map"
  | struct => "struct"
  | custom => "custom"

/-- The tag with a given name. -/
def ofName? (s : String) : Option Tag := all.find? (·.name == s)

/-- A name belongs to one tag. -/
theorem ofName?_name (tag : Tag) : ofName? tag.name = some tag := by
  cases tag with
  | scalar s => cases s <;> rfl
  | seq kind => cases kind <;> rfl
  | map => rfl
  | struct => rfl
  | custom => rfl

/-- Lists, sets and maps hold further values. -/
def isContainer : Tag → Bool
  | seq _ | map => true
  | _ => false

/-- Whether one datum is all there is to a value. -/
def isScalar : Tag → Bool
  | scalar _ => true
  | _ => false

end Tag

/-- What can be wrong with a type. -/
inductive SchemaError where
  | unresolved (name : String)
  | nestingTooDeep (depth limit : Nat)
deriving Repr, DecidableEq

/-- What is reported for a type that is wrong. -/
def SchemaError.message : SchemaError → String
  | unresolved name => s!"unresolved type reference '{name}'"
  | nestingTooDeep depth limit =>
    s!"container nesting depth {depth} exceeds limit {limit}"

namespace Ty

/-- The outermost form. -/
def tag : Ty → Tag
  | scalar s => .scalar s
  | seq kind _ => .seq kind
  | map _ _ => .map
  | struct _ => .struct
  | named _ => .custom

/-- The type in schema notation. -/
def text : Ty → String
  | scalar s => s.name
  | seq kind elem => kind.name ++ "<" ++ elem.text ++ ">"
  | map key value => "map<" ++ key.text ++ "," ++ value.text ++ ">"
  | struct name => name
  | named name => name

/-- The tag that announces values of the type. A name has none before it is
resolved. -/
def wireType : Ty → Except SchemaError WireType
  | scalar s => .ok s.kind.wireType
  | seq kind _ => .ok kind.wireType
  | map _ _ => .ok .map
  | struct _ => .ok .struct
  | named name => .error (.unresolved name)

/-- The greatest number of containers that enclose one another. -/
def depth : Ty → Nat
  | seq _ elem => elem.depth + 1
  | map key value => max key.depth value.depth + 1
  | _ => 0

/-- The first unresolved name, keys before values. -/
def unresolved? : Ty → Option String
  | seq _ elem => elem.unresolved?
  | map key value => key.unresolved?.or value.unresolved?
  | named name => some name
  | _ => none

/-- Checks a type before use: its nesting against a limit, if there is one, and
then that every name in it is resolved. -/
def validate (limit : Option Nat) (ty : Ty) : Except SchemaError Unit := do
  if let some limit := limit then
    if limit < ty.depth then
      throw (.nestingTooDeep ty.depth limit)
  match ty.unresolved? with
  | some name => throw (.unresolved name)
  | none => return ()

end Ty

end WireScribe

import WireScribe.Access
import WireScribe.Call

/-!
# WireScribe.Instr — write programs

A write program is a list of instructions: call a method of the writer, loop
over a container, or let a struct write itself.

1. **Methods**: the methods of a writer, with their names and arities.
2. **Instructions**: arguments, loop binders and the instructions themselves.
3. **Traces**: the methods a program mentions, in order.
-/

namespace WireScribe

/-! ## Methods -/

/-- A method of the writer. -/
inductive Method where
  | datum (kind : DatumKind)
  | seqBegin (kind : SeqKind)
  | seqEnd (kind : SeqKind)
  | mapBegin
  | mapEnd
deriving Repr, DecidableEq

/-- The member that counts the elements: a list has a length, a set a size. -/
def SeqKind.sizeKind : SeqKind → SizeKind
  | list => .length
  | set => .size

namespace Method

/-- Every method. -/
def all : List Method :=
  [datum .bool, datum .byte, datum .i16, datum .i32, datum .i64, datum .double,
    datum .string, datum .binary, seqBegin .list, seqEnd .list, seqBegin .set,
    seqEnd .set, mapBegin, mapEnd]

/-- The method's name in the writer's contract. -/
def contractName : Method → String
  | datum .bool => "writeBool"
  | datum .byte => "writeByte"
  | datum .i16 => "writeI16"
  | datum .i32 => "writeI32"
  | datum .i64 => "writeI64"
  | datum .double => "writeDouble"
  | datum .string => "writeString"
  | datum .binary => "writeBinary"
  | seqBegin .list => "writeListBegin"
  | seqEnd .list => "writeListEnd"
  | seqBegin .set => "writeSetBegin"
  | seqEnd .set => "writeSetEnd"
  | mapBegin => "writeMapBegin"
  | mapEnd => "writeMapEnd"

/-- The method's name in generated code. -/
def codeName : Method → String
  | datum .bool => "write_bool"
  | datum .byte => "write_byte"
  | datum .i16 => "write_i16"
  | datum .i32 => "write_i32"
  | datum .i64 => "write_i64"
  | datum .double => "write_double"
  | datum .string => "write_string"
  | datum .binary => "write_binary"
  | seqBegin .list => "write_list_begin"
  | seqEnd .list => "write_list_end"
  | seqBegin .set => "write_set_begin"
  | seqEnd .set => "write_set_end"
  | mapBegin => "write_map_begin"
  | mapEnd => "write_map_end"

/-- The number of arguments: the scalar, the element tag and the size, the two
tags of a map and the size, or nothing. -/
def arity : Method → Nat
  | datum _ => 1
  | seqBegin _ => 2
  | mapBegin => 3
  | seqEnd _ | mapEnd => 0

/-- Text and bytes are handed over by reference. -/
def takesBorrowed : Method → Bool
  | datum .string | datum .binary => true
  | _ => false

/-- The method with a given contract name. -/
def ofContractName? (s : String) : Option Method := all.find? (·.contractName == s)

/-- A contract name belongs to one method. -/
theorem ofContractName?_contractName (m : Method) :
    ofContractName? m.contractName = some m := by
  cases m with
  | datum kind => cases kind <;> rfl
  | seqBegin kind => cases kind <;> rfl
  | seqEnd kind => cases kind <;> rfl
  | mapBegin => rfl
  | mapEnd => rfl

end Method

/-! ## Instructions -/

/-- An argument of a call. -/
inductive Argument where
  | value (a : Access)
  | wire (w : WireType)
  | size (target : Access) (kind : SizeKind)
deriving Repr, DecidableEq

/-- An argument as text. -/
def Argument.text : Argument → String
  | value a => a.text
  | wire w => w.name
  | size target kind => target.sizeText kind

/-- What a loop binds on each turn. -/
inductive Binder where
  | elements (b : Binding)
  | entries (key value : Binding)
deriving Repr, DecidableEq

/-- A step of a write program. -/
inductive Instr where
  | invoke (m : Method) (args : List Argument)
  | loop (target : Access) (binder : Binder) (body : List Instr)
  /-- The struct at the path writes itself. -/
  | delegate (target : Access)
deriving Repr

/-- A write program. -/
abbrev Program := List Instr

/-! ## Traces -/

mutual

/-- The methods that an instruction mentions; a delegation counts as `write`, and
a loop's body once. -/
def Instr.methods : Instr → List String
  | .invoke m _ => [m.contractName]
  | .loop _ _ body => methodsOf body
  | .delegate _ => ["write"]

/-- The methods that a program mentions, in order. -/
def methodsOf : List Instr → List String
  | [] => []
  | i :: rest => i.methods ++ methodsOf rest

end

end WireScribe

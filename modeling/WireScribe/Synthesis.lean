import WireScribe.GenError
import WireScribe.Instr

/-!
# WireScribe.Synthesis — from a type to its write program

A scalar is one call and a struct is left to itself. A container is an opening
marker with the tags and the size, a loop whose body writes one element or
entry, and a closing marker. A loop binds names of the depth at which it stands,
so nested loops never share a name.
-/

namespace WireScribe

/-- A container inside `depth` others is one level deeper, and may have to stay
within a limit. -/
def checkDepth (limit : Option Nat) (depth : Nat) : Except GenError Unit :=
  match limit with
  | some limit =>
    if limit < depth + 1 then .error (.nestingTooDeep (depth + 1) limit) else .ok ()
  | none => .ok ()

/-- The tag that a container announces for its elements. A name that has none makes
the type unsupported, and any other complaint about the type is passed on. -/
def Ty.elementWireType (ty : Ty) : Except GenError WireType :=
  match ty.wireType with
  | .ok w => .ok w
  | .error (.unresolved _) => .error (.unsupportedType ty.text)
  | .error e => .error (.schema e)

namespace Ty

/-- The program that writes the value at a path inside `depth` loops. -/
def programAt (limit : Option Nat) : Ty → Access → Nat → Except GenError Program
  | scalar s, a, _ => .ok [.invoke (.datum s.kind) [.value a]]
  | seq kind elem, a, depth => do
    checkDepth limit depth
    let wire ← elem.elementWireType
    let item : Binding := ⟨.element, depth⟩
    let body ← elem.programAt limit (.bound item) (depth + 1)
    return [.invoke (.seqBegin kind) [.wire wire, .size a kind.sizeKind],
      .loop a (.elements item) body,
      .invoke (.seqEnd kind) []]
  | map key value, a, depth => do
    checkDepth limit depth
    let keyWire ← key.elementWireType
    let valueWire ← value.elementWireType
    let k : Binding := ⟨.key, depth⟩
    let v : Binding := ⟨.value, depth⟩
    let keyBody ← key.programAt limit (.bound k) (depth + 1)
    let valueBody ← value.programAt limit (.bound v) (depth + 1)
    return [.invoke .mapBegin [.wire keyWire, .wire valueWire, .size a .size],
      .loop a (.entries k v) (keyBody ++ valueBody),
      .invoke .mapEnd []]
  | struct _, a, _ => .ok [.delegate a]
  | named name, _, _ => .error (.unsupportedType name)

/-- The program that writes the value at a path. -/
def program (limit : Option Nat) (ty : Ty) (a : Access) : Except GenError Program :=
  ty.programAt limit a 0

end Ty

/-- The method that writes a scalar with the given tag. -/
def Tag.method? : Tag → Option Method
  | .scalar s => some (.datum s.kind)
  | _ => none

/-- The call that writes a scalar with the given tag; other tags have none. -/
def Tag.program (tag : Tag) (a : Access) : Except GenError Program :=
  match tag.method? with
  | some m => .ok [.invoke m [.value a]]
  | none => .error (.unsupportedType tag.name)

end WireScribe

import WireScribe.Code
import WireScribe.Config
import WireScribe.Instr
import WireScribe.Synthesis

/-!
# WireScribe.Rendering — write programs as code

1. **Places**: a path becomes a place, such as `self . xs`, or a reference, the
   name that a loop binds. A scalar is read through a reference, and text and
   bytes are borrowed from a place.
2. **Statements**: each instruction becomes a statement on the configured writer.
3. **Implementations**: the fields of a struct in order, inside the frame that
   makes the struct writable.
-/

namespace WireScribe

/-- An identifier as code. -/
def Ident.code (i : Ident) : Code := .word i.text

/-- Segments as code, with `::` between them. From the first angle bracket on they are
taken over as they are. -/
def segmentsCode : List Segment → List Code
  | [] => []
  | [⟨i, none⟩] => [i.code]
  | ⟨i, none⟩ :: s :: rest => i.code :: .word "::" :: segmentsCode (s :: rest)
  | ⟨i, some a⟩ :: rest =>
    let run := .run (a.enclosed ++ ledTokens rest)
    if a.led then [i.code, .word "::", run] else [i.code, run]

/-- A path as code. -/
def Path.code (p : Path) : List Code :=
  if p.rooted then .word "::" :: segmentsCode p.segments else segmentsCode p.segments

/-- An item below a path. -/
def Path.item (p : Path) (name : String) : List Code :=
  p.code ++ [.word "::", .word name]

/-! ## Places -/

/-- A path to a value as code: variables and fields have to be identifiers. -/
def Access.code : Access → Except GenError (List Code)
  | .var name => do
    let i ← variableIdent name
    return [i.code]
  | .field base name => do
    let base ← base.code
    let i ← plainIdent name
    return base ++ [.word ".", i.code]
  | .bound b => .ok [.word b.ident]

/-- Whether the path is a name that a loop binds, which is a reference. -/
def Access.isReference (a : Access) : Bool := a.binding?.isSome

/-- A reference to the value at a path. -/
def Access.borrowed (a : Access) : Except GenError (List Code) := do
  let c ← a.code
  return if a.isReference then c else .word "&" :: c

/-- The value at a path, as an argument that is taken by value. -/
def Access.copied (a : Access) : Except GenError (List Code) := do
  let c ← a.code
  return if a.isReference then .word "*" :: c else c

/-! ## Statements -/

/-- An argument of a method as code. -/
def Argument.code (cfg : Config) (m : Method) : Argument → Except GenError (List Code)
  | .value a => if m.takesBorrowed then a.borrowed else a.copied
  | .wire w => .ok (cfg.wireTypePath.item w.variantName)
  | .size target _ => do
    return (← target.code) ++ [.word ".", .word "len", .parens []]

/-- Arguments as code, with commas between them. -/
def argumentsCode (cfg : Config) (m : Method) : List Argument → Except GenError (List Code)
  | [] => .ok []
  | [arg] => arg.code cfg m
  | arg :: arg' :: rest => do
    let c ← arg.code cfg m
    let cs ← argumentsCode cfg m (arg' :: rest)
    return c ++ .word "," :: cs

/-- What a loop binds, as a pattern. -/
def Binder.code : Binder → Code
  | .elements b => .word b.ident
  | .entries key value => .parens [.word key.ident, .word ",", .word value.ident]

/-- How a statement that may fail ends. -/
def orFail : List Code := [.word "?", .word ";"]

mutual

/-- An instruction as code. -/
def Instr.code (cfg : Config) : Instr → Except GenError (List Code)
  | .invoke m args => do
    let args ← argumentsCode cfg m args
    return [cfg.writer.code, .word ".", .word m.codeName, .parens args] ++ orFail
  | .loop target binder body => do
    let target ← target.code
    let body ← programCode cfg body
    return [.word "for", binder.code, .word "in"] ++ target ++
      [.word ".", .word "iter", .parens [], .braces body]
  | .delegate target => do
    let target ← target.borrowed
    return cfg.runtimePath.item "Writable" ++
      [.word "::", .word "write", .parens (target ++ [.word ",", cfg.writer.code])] ++ orFail

/-- A program as code. -/
def programCode (cfg : Config) : List Instr → Except GenError (List Code)
  | [] => .ok []
  | i :: rest => do
    let c ← i.code cfg
    let cs ← programCode cfg rest
    return c ++ cs

end

/-- The text of a program in code. -/
def renderProgram (cfg : Config) (p : Program) : Except GenError String := do
  return codeText (← programCode cfg p)

/-! ## Implementations -/

/-- A field of a struct. -/
structure Field where
  name : String
  ty : Ty
deriving Repr, DecidableEq

/-- The code that writes the fields in order. Each field is turned into a
program and then into code before the next one is looked at. -/
def fieldsCode (cfg : Config) : List Field → Except GenError (List Code)
  | [] => .ok []
  | f :: rest => do
    let p ← f.ty.program cfg.maxDepth (.selfField f.name)
    let c ← programCode cfg p
    let cs ← fieldsCode cfg rest
    return c ++ cs

/-- The writer's parameter: a struct with no fields leaves it unused, which an
underscore in front says. -/
def writerParameter (cfg : Config) (fields : List Field) : Code :=
  if fields.isEmpty then .word ("_" ++ cfg.writer.name) else cfg.writer.code

/-- The frame that makes a struct writable, around the body of its method. -/
def implementation (cfg : Config) (name : Ident) (parameter : Code) (body : List Code) :
    List Code :=
  let signature :=
    [.word "fn", .word "write",
      .parens ([.word "&", .word "self", .word ",", parameter, .word ":", .word "&",
        .word "mut", .word "dyn"] ++ cfg.runtimePath.item "ProtocolWriter"),
      .word "->"] ++ cfg.runtimePath.item "Result" ++
      [.word "<", .parens [], .word ">"]
  let method := signature ++ [.braces (body ++ [.word "Ok", .parens [.parens []]])]
  .word "impl" :: cfg.runtimePath.item "Writable" ++
    [.word "for", name.code, .braces method]

/-- The text of the code that makes a struct writable. -/
def renderStruct (cfg : Config) (name : String) (fields : List Field) :
    Except GenError String := do
  let name ← plainIdent name
  let body ← fieldsCode cfg fields
  return codeText (implementation cfg name (writerParameter cfg fields) body)

end WireScribe

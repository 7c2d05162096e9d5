import WireScribe.Environment
import WireScribe.Instr
import WireScribe.Value.Write

/-!
# WireScribe.Evaluation — running a write program

1. **Errors**: what can go wrong, by cause.
2. **Operands**: `Method.call` turns a method and its arguments into a call on
   the writer.
3. **Runs**: `Instr.run` carries out one instruction. A loop makes each item in
   turn the current one under its name and forgets the name at its end. What was
   written before a failure stays written.
-/

namespace WireScribe

/-! ## Errors -/

/-- The forms of an argument. -/
inductive ArgumentKind where
  | value
  | wire
  | size
deriving Repr, DecidableEq

/-- The form's name in messages. -/
def ArgumentKind.name : ArgumentKind → String
  | value => "value"
  | wire => "wire type"
  | size => "size"

/-- The form of an argument. -/
def Argument.kind : Argument → ArgumentKind
  | value _ => .value
  | wire _ => .wire
  | size _ _ => .size

/-- What an instruction asks for. -/
inductive Wanted where
  | datum (kind : DatumKind)
  | struct
  | container
  | listOrSet
  | map
  | argument (kind : ArgumentKind)
deriving Repr, DecidableEq

/-- What is wanted, in messages. -/
def Wanted.name : Wanted → String
  | datum kind => kind.name
  | struct => "struct"
  | container => "container"
  | listOrSet => "list or set"
  | map => "map"
  | argument kind => kind.name

/-- What stands there instead. -/
inductive Found where
  | value (shape : Shape)
  | argument (kind : ArgumentKind)
deriving Repr, DecidableEq

/-- What is found, in messages. -/
def Found.name : Found → String
  | value shape => shape.name
  | argument kind => kind.name

/-- Why a run fails. -/
inductive EvalError where
  | unbound (path : String)
  | typeMismatch (expected : Wanted) (found : Found)
  | arity (m : Method) (found : Nat)
  /-- The writer refused a call. -/
  | protocol (e : Oversize)
deriving Repr, DecidableEq

/-- What is reported. -/
def EvalError.message : EvalError → String
  | unbound path => s!"unbound access expression '{path}'"
  | typeMismatch expected found =>
    s!"type mismatch: expected {expected.name}, found {found.name}"
  | arity m found =>
    s!"malformed call to {m.contractName}: expected {m.arity} arguments, found {found}"
  | protocol e => s!"protocol error: {e.message}"

/-! ## Operands -/

/-- The value at a path: the current item of a loop for a bound name, else what
the environment holds. -/
def resolve (env : Environment) (scope : Scope) (a : Access) : Except EvalError Value :=
  let found :=
    match a with
    | .bound b => scope.get? b
    | a => env.get? a.text
  match found with
  | some v => .ok v
  | none => .error (.unbound a.text)

/-- A scalar of the wanted kind. -/
def Argument.datum (env : Environment) (scope : Scope) (kind : DatumKind) :
    Argument → Except EvalError Datum
  | .value a => do
    let v ← resolve env scope a
    match v with
    | .datum d =>
      if d.kind = kind then return d
      else throw (.typeMismatch (.datum kind) (.value v.shape))
    | _ => throw (.typeMismatch (.datum kind) (.value v.shape))
  | arg => .error (.typeMismatch (.argument .value) (.argument arg.kind))

/-- A tag. -/
def Argument.wireType : Argument → Except EvalError WireType
  | .wire w => .ok w
  | arg => .error (.typeMismatch (.argument .wire) (.argument arg.kind))

/-- The size of a container. -/
def Argument.count (env : Environment) (scope : Scope) : Argument → Except EvalError Nat
  | .size target _ => do
    let v ← resolve env scope target
    match v.size? with
    | some n => return n
    | none => throw (.typeMismatch .container (.value v.shape))
  | arg => .error (.typeMismatch (.argument .size) (.argument arg.kind))

/-- The call that a method makes with its arguments, which are looked at from
left to right. -/
def Method.call (env : Environment) (scope : Scope) (m : Method) (args : List Argument) :
    Except EvalError Call :=
  match m, args with
  | .datum kind, [x] => do
    return .datum (← x.datum env scope kind)
  | .seqBegin kind, [elem, size] => do
    return .seqBegin kind (← elem.wireType) (← size.count env scope)
  | .seqEnd kind, [] => .ok (.seqEnd kind)
  | .mapBegin, [key, value, size] => do
    return .mapBegin (← key.wireType) (← value.wireType) (← size.count env scope)
  | .mapEnd, [] => .ok .mapEnd
  | m, args => .error (.arity m args.length)

/-! ## Runs -/

variable {σ : Type}

/-- A computation that does not touch the writer. -/
def attempt {α : Type} (x : Except EvalError α) : EStateM EvalError σ α := fun s =>
  match x with
  | .ok a => .ok a s
  | .error e => .error e s

/-- Work on the writer, whose refusals become failures of the run. -/
def onWriter (x : EStateM Oversize σ Unit) : EStateM EvalError σ Unit :=
  x.adaptExcept .protocol

variable [Sink σ]

mutual

/-- Carries out an instruction and gives the scope in which the next one runs. -/
def Instr.run (env : Environment) : Instr → Scope → EStateM EvalError σ Scope
  | .invoke m args, scope => do
    let c ← attempt (m.call env scope args)
    onWriter (Sink.write c)
    return scope
  | .loop target binder body, scope => do
    let v ← attempt (resolve env scope target)
    match binder, v with
    | .elements b, .seq _ items => do
      let scope ← items.foldlM (fun scope item => runAll env body (scope.insert b item)) scope
      return scope.erase b
    | .entries key value, .map entries => do
      let scope ← entries.foldlM (fun scope entry =>
        runAll env body ((scope.insert key entry.1).insert value entry.2)) scope
      return (scope.erase key).erase value
    | .elements _, v => throw (.typeMismatch .listOrSet (.value v.shape))
    | .entries _ _, v => throw (.typeMismatch .map (.value v.shape))
  | .delegate target, scope => do
    let v ← attempt (resolve env scope target)
    if v.shape = .struct then
      onWriter v.write
      return scope
    else
      throw (.typeMismatch .struct (.value v.shape))

/-- Carries out instructions in order, up to the first that fails. -/
def runAll (env : Environment) : List Instr → Scope → EStateM EvalError σ Scope
  | [], scope => return scope
  | i :: rest, scope => do
    let scope ← i.run env scope
    runAll env rest scope

end

/-- Runs a program on a writer, with no loop under way. -/
def execute (env : Environment) (p : Program) : EStateM EvalError σ Unit := do
  let _ ← runAll env p {}

end WireScribe

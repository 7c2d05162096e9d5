import WireScribe.Proofs.Replay

/-!
# WireScribe.Proofs.LexicalScope — loop names by lexical scoping

In lexical scoping an instruction sees the items of the loops around it and
nothing else, and a name stands for the item of the innermost of them that binds
it. A run keeps the items of its loops in one scope that is carried from
instruction to instruction, and the end of a loop takes the loop's names out of it.

1. **Lexical runs**: `Lexical.execute` hands each instruction a stack of turns.
   A loop runs its body with a turn on top and leaves the stack as it was.
2. **Operands**: an instruction reads at most one path, and nothing but the value
   at this path ties it to the scope.
3. **Probing runs**: a lexical run that notes the names which ended loops have
   taken, and stops where an instruction reads one that a loop around it binds.
-/

namespace WireScribe

/-! ## Lexical runs -/

/-- A turn has an item for a name exactly if it binds the name. -/
theorem Turn.lookup_eq_none_iff {turn : Turn} {b : Binding} :
    turn.reverse.lookup b = none ↔ b ∉ turn.map Prod.fst := by
  simp only [List.lookup_eq_none_iff, List.mem_reverse, List.mem_map, bne_iff_ne, ne_eq]
  constructor
  · rintro h ⟨e, he, rfl⟩
    exact h e he rfl
  · intro h e he hb
    exact h ⟨e, he, hb.symm⟩

namespace Scope

/-- The stack of turns inside one more turn. -/
def push (stack : Scope) (turn : Turn) : Scope := ⟨turn.reverse ++ stack.entries⟩

/-- The innermost turn that binds a name has its item, the last one if it binds
the name twice. -/
theorem get?_push (stack : Scope) (turn : Turn) (b : Binding) :
    (stack.push turn).get? b = (turn.reverse.lookup b).or (stack.get? b) := by
  rw [get?, push, List.lookup_append]
  rfl

theorem get?_push_of_not_mem {turn : Turn} {b : Binding} (hb : b ∉ turn.map Prod.fst)
    (stack : Scope) : (stack.push turn).get? b = stack.get? b := by
  rw [get?_push, Turn.lookup_eq_none_iff.mpr hb, Option.none_or]

end Scope

namespace Lexical

variable {σ : Type} [Sink σ]

mutual

/-- Carries out an instruction inside a stack of turns. -/
def run (env : Environment) : Instr → Scope → EStateM EvalError σ Unit
  | .invoke m args, stack => do
    let c ← attempt (m.call env stack args)
    onWriter (Sink.write c)
  | .loop target binder body, stack => do
    let v ← attempt (resolve env stack target)
    match binder.turns? v with
    | some turns => turns.forM fun turn => runAll env body (stack.push turn)
    | none => throw (.typeMismatch binder.wanted (.value v.shape))
  | .delegate target, stack => do
    let v ← attempt (resolve env stack target)
    if v.shape = .struct then onWriter v.write
    else throw (.typeMismatch .struct (.value v.shape))

/-- Carries out instructions in order, each inside the same stack of turns. -/
def runAll (env : Environment) : List Instr → Scope → EStateM EvalError σ Unit
  | [], _ => return ()
  | i :: rest, stack => do
    run env i stack
    runAll env rest stack

end

/-- Runs a program on a writer, inside no turn. -/
def execute (env : Environment) (p : Program) : EStateM EvalError σ Unit := runAll env p {}

mutual

theorem run_replayed (env : Environment) : (i : Instr) → (stack : Scope) →
    Replayed EvalError.protocol fun _ _ => run env i stack
  | .invoke m args, stack => by
    simp only [run, ← Sink.writeAll_singleton]
    exact (Replayed.attempt _).bind fun c => Replayed.onWriter_writeAll [c]
  | .loop target binder body, stack => by
    simp only [run]
    refine (Replayed.attempt _).bind fun v => ?_
    cases binder.turns? v with
    | some turns => exact Replayed.forM (fun turn => runAll_replayed env body _) turns
    | none => exact Replayed.of_finish (.error _) fun _ _ _ => rfl
  | .delegate target, stack => by
    simp only [run, Value.write_eq_writeAll]
    refine (Replayed.attempt _).bind fun v => ?_
    by_cases hv : v.shape = .struct
    · simp only [if_pos hv]
      exact Replayed.onWriter_writeAll v.calls
    · simp only [if_neg hv]
      exact Replayed.of_finish (.error _) fun _ _ _ => rfl

theorem runAll_replayed (env : Environment) : (is : List Instr) → (stack : Scope) →
    Replayed EvalError.protocol fun _ _ => runAll env is stack
  | [], _ => Replayed.of_finish (.ok ()) fun _ _ _ => rfl
  | i :: rest, stack => by
    simp only [runAll]
    exact (run_replayed env i stack).bind fun _ => runAll_replayed env rest stack

end

end Lexical

/-! ## Operands -/

/-- The path that a call reads, if it gets as far as reading one. -/
def Method.operand? : Method → List Argument → Option Access
  | .datum _, [.value a] => some a
  | .seqBegin _, [.wire _, .size a _] => some a
  | .mapBegin, [.wire _, .wire _, .size a _] => some a
  | _, _ => none

/-- The path that an instruction reads in its scope. -/
def Instr.operand? : Instr → Option Access
  | .invoke m args => m.operand? args
  | .loop target _ _ => some target
  | .delegate target => some target

/-- A call depends on the scope by its operand only. -/
theorem Method.call_congr {env : Environment} {scope stack : Scope} {m : Method}
    {args : List Argument}
    (h : ∀ a, m.operand? args = some a → resolve env scope a = resolve env stack a) :
    m.call env scope args = m.call env stack args := by
  unfold Method.call
  split
  case h_1 kind x =>
    cases x with
    | value a => simp only [Argument.datum, h a rfl]
    | _ => rfl
  case h_2 kind elem size =>
    cases elem with
    | wire w =>
      cases size with
      | size a k => simp only [Argument.count, h a rfl]
      | _ => rfl
    | _ => rfl
  case h_4 key value size =>
    cases key with
    | wire w =>
      cases value with
      | wire w' =>
        cases size with
        | size a k => simp only [Argument.count, h a rfl]
        | _ => rfl
      | _ => rfl
    | _ => rfl
  all_goals rfl

/-- A call whose operand has no value fails as the operand does. -/
theorem Method.call_of_unresolved {env : Environment} {scope : Scope} {m : Method}
    {args : List Argument} {a : Access} {e : EvalError} (ha : m.operand? args = some a)
    (he : resolve env scope a = .error e) : m.call env scope args = .error e := by
  unfold Method.operand? at ha
  split at ha
  case h_4 => cases ha
  all_goals
    cases ha
    simp [Method.call, Argument.datum, Argument.count, Argument.wireType, he, bind, Except.bind]

/-- An instruction whose operand has no value fails before it writes anything. -/
theorem Instr.run_of_unresolved {σ : Type} [Sink σ] {env : Environment} {scope : Scope}
    {i : Instr} {a : Access} {e : EvalError} (ha : i.operand? = some a)
    (he : resolve env scope a = .error e) (s : σ) : i.run env scope s = .error e s := by
  cases i with
  | invoke m args =>
    have hcall : m.call env scope args = .error e := Method.call_of_unresolved ha he
    rw [Instr.run, hcall]
    rfl
  | loop target binder body =>
    cases ha
    rw [Instr.run, he]
    rfl
  | delegate target =>
    cases ha
    rw [Instr.run, he]
    rfl

/-! ## Probing runs -/

/-- Why a probing run stops early. -/
inductive Stop where
  | failed (e : EvalError)
  /-- The name is read where its item is lost. -/
  | lost (b : Binding)
deriving Repr, DecidableEq

/-- The name that an operand reads in vain: its item is lost, though a loop of the
stack binds it. -/
def lostName? (stack : Scope) (lost : List Binding) : Option Access → Option Binding
  | some (.bound b) => if b ∈ lost ∧ (stack.get? b).isSome then some b else none
  | _ => none

theorem lostName?_eq_some_iff {stack : Scope} {lost : List Binding} {operand : Option Access}
    {b : Binding} : lostName? stack lost operand = some b ↔
      operand = some (.bound b) ∧ b ∈ lost ∧ (stack.get? b).isSome := by
  unfold lostName?
  split
  case h_1 c =>
    simp only [Option.some.injEq, Access.bound.injEq]
    constructor
    · intro h
      split at h
      case isTrue hlost =>
        cases h
        exact ⟨rfl, hlost⟩
      case isFalse => cases h
    · rintro ⟨rfl, hlost⟩
      rw [if_pos hlost]
  case h_2 hnot =>
    constructor
    · intro h
      cases h
    · rintro ⟨rfl, -⟩
      exact (hnot b rfl).elim

namespace Lexical

variable {σ : Type}

/-- Stops at an operand that reads a lost name. -/
def heed (stack : Scope) (lost : List Binding) (operand : Option Access) : EStateM Stop σ Unit :=
  match lostName? stack lost operand with
  | some b => throw (.lost b)
  | none => return ()

theorem heed_of_none {stack : Scope} {lost : List Binding} {operand : Option Access}
    (h : lostName? stack lost operand = none) :
    (heed stack lost operand : EStateM Stop σ Unit) = pure () := by
  rw [heed, h]

variable [Sink σ]

mutual

/-- Carries out an instruction inside a stack of turns, and keeps count of the lost
names: those for which a loop that binds them has ended since a turn last bound
them. -/
def probe (env : Environment) : Instr → Scope → List Binding → EStateM Stop σ (List Binding)
  | .invoke m args, stack, lost => do
    heed stack lost (m.operand? args)
    (run env (.invoke m args) stack).adaptExcept .failed
    return lost
  | .loop target binder body, stack, lost => do
    heed stack lost (some target)
    let v ← (attempt (resolve env stack target)).adaptExcept .failed
    match binder.turns? v with
    | some turns => do
      let lost ← turns.foldlM (fun lost turn =>
        probeAll env body (stack.push turn) (lost.filter (· ∉ binder.names))) lost
      return binder.names ++ lost
    | none => throw (.failed (.typeMismatch binder.wanted (.value v.shape)))
  | .delegate target, stack, lost => do
    heed stack lost (some target)
    (run env (.delegate target) stack).adaptExcept .failed
    return lost

/-- Carries out instructions in order, up to the first that stops. -/
def probeAll (env : Environment) :
    List Instr → Scope → List Binding → EStateM Stop σ (List Binding)
  | [], _, lost => return lost
  | i :: rest, stack, lost => do
    let lost ← probe env i stack lost
    probeAll env rest stack lost

end

/-- Run lexically, the program comes to an instruction that reads the name where
its item is lost, and has brought the writer to the second state by then. -/
def Loses (env : Environment) (p : Program) (s : σ) (b : Binding) (s' : σ) : Prop :=
  probeAll env p {} [] s = .error (.lost b) s'

theorem probe_of_lost {env : Environment} {i : Instr} {stack : Scope} {lost : List Binding}
    {b : Binding} (h : lostName? stack lost i.operand? = some b) (s : σ) :
    probe env i stack lost s = .error (.lost b) s := by
  have hheed : heed stack lost i.operand? s = .error (.lost b) s := by rw [heed, h]; rfl
  cases i with
  | invoke m args => rw [probe]; exact bind_of_error hheed
  | loop target binder body => rw [probe]; exact bind_of_error hheed
  | delegate target => rw [probe]; exact bind_of_error hheed

end Lexical

end WireScribe

import WireScribe.Proofs.Loop

/-!
# WireScribe.Proofs.Replay — an action is its calls, replayed

A writer sees nothing of an action but its calls. So what an action does to any
writer is settled by the calls it makes and by how it ends.

1. **Traces**: a `Trace` holds the calls of an action and its outcome, and
   `Trace.on` hands them to a writer, up to the first call that is refused.
2. **Replayed actions**: an action is `Replayed` when one trace says what it does
   on every writer. Sequencing and loops keep this.
3. **Values and runs**: a value that writes itself and a program that runs are
   replayed actions. The trace of a value is `Value.calls`.
-/

namespace WireScribe

variable {ε σ α β : Type}

/-! ## Traces -/

/-- The calls of an action, with its outcome once all of them are taken. -/
structure Trace (ε α : Type) where
  calls : List Call
  outcome : Except ε α

/-- An outcome reached in a state. -/
def finish (out : Except ε α) (s : σ) : EStateM.Result ε σ α :=
  match out with
  | .ok a => .ok a s
  | .error e => .error e s

theorem finish_inj {out out' : Except ε α} {s s' : σ} (h : finish out s = finish out' s') :
    out = out' ∧ s = s' := by
  cases out <;> cases out' <;> simp_all [finish]

theorem attempt_eq_finish (x : Except EvalError α) (s : σ) : attempt x s = finish x s := by
  cases x <;> rfl

theorem attempt_ok (a : α) : (attempt (.ok a) : EStateM EvalError σ α) = pure a := rfl

theorem adaptExcept_pure {ε' : Type} (f : ε → ε') (a : α) :
    (pure a : EStateM ε σ α).adaptExcept f = pure a := rfl

theorem attempt_of_ok {x : Except EvalError α} {a : α} (h : x = .ok a) (s : σ) :
    attempt x s = .ok a s := by
  rw [h]
  rfl

theorem bind_of_ok {x : EStateM ε σ α} {f : α → EStateM ε σ β} {a : α} {s s' : σ}
    (h : x s = .ok a s') : (x >>= f) s = f a s' := by
  show EStateM.bind x f s = f a s'
  simp only [EStateM.bind, h]

theorem bind_of_error {x : EStateM ε σ α} {f : α → EStateM ε σ β} {e : ε} {s s' : σ}
    (h : x s = .error e s') : (x >>= f) s = .error e s' := by
  show EStateM.bind x f s = .error e s'
  simp only [EStateM.bind, h]

variable [Sink σ]

theorem Sink.writeAll_singleton (c : Call) :
    (writeAll [c] : EStateM Oversize σ Unit) = write c := by
  simp only [writeAll, bind_pure_unit]

/-- Two runs of calls go to a writer one after the other. -/
theorem Sink.writeAll_append (cs ds : List Call) :
    (writeAll (cs ++ ds) : EStateM Oversize σ Unit) = (do writeAll cs; writeAll ds) := by
  induction cs with
  | nil => rfl
  | cons c cs ih => simp only [List.cons_append, writeAll, ih, bind_assoc]

/-- Hands the calls of a trace to a writer; a refusal ends the action there. -/
def Trace.on (refused : Oversize → ε) (t : Trace ε α) : EStateM ε σ α := fun s =>
  match Sink.writeAll t.calls s with
  | .ok _ s' => finish t.outcome s'
  | .error e s' => .error (refused e) s'

/-- A recording keeps every call of a trace, whatever the outcome. -/
@[simp] theorem Trace.on_recording (refused : Oversize → ε) (t : Trace ε α) (r : Recording) :
    t.on refused r = finish t.outcome ⟨r.calls ++ t.calls⟩ := by
  simp [Trace.on]

/-! ## Replayed actions -/

/-- One trace says what the action does on every writer. -/
def Replayed (refused : Oversize → ε) (x : ∀ (σ : Type) [Sink σ], EStateM ε σ α) : Prop :=
  ∃ t : Trace ε α, ∀ (σ : Type) [Sink σ] (s : σ), x σ s = t.on refused s

namespace Replayed

variable {refused : Oversize → ε}

/-- An action that leaves the writer alone. -/
theorem of_finish {x : ∀ (σ : Type) [Sink σ], EStateM ε σ α} (out : Except ε α)
    (h : ∀ (σ : Type) [Sink σ] (s : σ), x σ s = finish out s) : Replayed refused x :=
  ⟨⟨[], out⟩, fun σ _ s => h σ s⟩

/-- The calls of the first action come before those of the second, and a failure
of the first is the end of both. -/
theorem bind {x : ∀ (σ : Type) [Sink σ], EStateM ε σ α}
    {f : ∀ (σ : Type) [Sink σ], α → EStateM ε σ β} (hx : Replayed refused x)
    (hf : ∀ a, Replayed refused fun σ _ => f σ a) :
    Replayed refused fun σ _ => x σ >>= f σ := by
  obtain ⟨⟨cs, out⟩, hx⟩ := hx
  cases out with
  | error e =>
    -- the second action is never reached, so its calls are no part of the trace
    refine ⟨⟨cs, .error e⟩, fun σ _ s => ?_⟩
    show (x σ >>= f σ) s = _
    cases h : Sink.writeAll cs s with
    | ok u s' =>
      have hxs : x σ s = .error e s' := by rw [hx, Trace.on, h]; rfl
      rw [bind_of_error hxs, Trace.on, h]
      rfl
    | error e' s' =>
      have hxs : x σ s = .error (refused e') s' := by rw [hx, Trace.on, h]
      rw [bind_of_error hxs, Trace.on, h]
  | ok a =>
    obtain ⟨⟨ds, out⟩, hf⟩ := hf a
    refine ⟨⟨cs ++ ds, out⟩, fun σ _ s => ?_⟩
    show (x σ >>= f σ) s = _
    have hfs : ∀ s' : σ, f σ a s' = Trace.on refused ⟨ds, out⟩ s' := hf σ
    rw [Trace.on, Sink.writeAll_append]
    cases h : Sink.writeAll cs s with
    | ok u s' =>
      have hxs : x σ s = .ok a s' := by rw [hx, Trace.on, h]; rfl
      rw [bind_of_ok hxs, bind_of_ok h, hfs, Trace.on]
    | error e' s' =>
      have hxs : x σ s = .error (refused e') s' := by rw [hx, Trace.on, h]
      rw [bind_of_error hxs, bind_of_error h]

/-- What a fresh recording was left with says what the action does on any other
writer. -/
theorem eq_on {x : ∀ (σ : Type) [Sink σ], EStateM ε σ α} (hx : Replayed refused x)
    {out : Except ε α} {cs : List Call} (h : x Recording {} = finish out ⟨cs⟩)
    (σ : Type) [Sink σ] (s : σ) : x σ s = Trace.on refused ⟨cs, out⟩ s := by
  obtain ⟨t, hx⟩ := hx
  rw [hx Recording {}, Trace.on_recording] at h
  obtain ⟨hout, hcalls⟩ := finish_inj h
  have ht : t = ⟨cs, out⟩ := by
    cases t
    simp_all
  rw [hx σ s, ht]

/-- A loop whose turns are replayed. -/
theorem foldlM {f : ∀ (σ : Type) [Sink σ], β → α → EStateM ε σ β}
    (hf : ∀ b a, Replayed refused fun σ _ => f σ b a) (xs : List α) (b : β) :
    Replayed refused fun σ _ => xs.foldlM (f σ) b := by
  induction xs generalizing b with
  | nil => exact of_finish (.ok b) fun _ _ _ => rfl
  | cons a xs ih =>
    simp only [List.foldlM_cons]
    exact (hf b a).bind ih

/-- A loop that carries nothing from turn to turn. -/
theorem forM {f : ∀ (σ : Type) [Sink σ], α → EStateM ε σ Unit}
    (hf : ∀ a, Replayed refused fun σ _ => f σ a) (xs : List α) :
    Replayed refused fun σ _ => xs.forM (f σ) := by
  induction xs with
  | nil => exact of_finish (.ok ()) fun _ _ _ => rfl
  | cons a xs ih =>
    simp only [List.forM]
    exact (hf a).bind fun _ => ih

end Replayed

/-! ## Values and runs -/

namespace Value

mutual

/-- The calls that a value makes when it writes itself. -/
def calls : Value → List Call
  | datum d => [.datum d]
  | seq kind items =>
    .seqBegin kind (headWireType items) items.length :: (itemCalls items ++ [.seqEnd kind])
  | map entries =>
    .mapBegin (headWireType (entries.map Prod.fst)) (headWireType (entries.map Prod.snd))
      entries.length :: (entryCalls entries ++ [.mapEnd])
  | record _ fields => fieldCalls fields
  | script cs => cs

/-- The calls of elements, in order. -/
def itemCalls : List Value → List Call
  | [] => []
  | v :: rest => v.calls ++ itemCalls rest

/-- The calls of entries, each key before its value. -/
def entryCalls : List (Value × Value) → List Call
  | [] => []
  | (k, v) :: rest => k.calls ++ (v.calls ++ entryCalls rest)

/-- The calls of fields, in order. -/
def fieldCalls : List (Int16 × Value) → List Call
  | [] => []
  | (_, v) :: rest => v.calls ++ fieldCalls rest

end

mutual

/-- A value writes itself by its calls, on every writer. -/
theorem write_eq_writeAll : (v : Value) →
    (v.write : EStateM Oversize σ Unit) = Sink.writeAll v.calls
  | datum d => by simp only [write, calls, Sink.writeAll_singleton]
  | seq kind items => by
    simp only [write, calls, Sink.writeAll, Sink.writeAll_append, bind_pure_unit,
      writeItems_eq_writeAll items]
  | map entries => by
    simp only [write, calls, Sink.writeAll, Sink.writeAll_append, bind_pure_unit,
      writeEntries_eq_writeAll entries]
  | record _ fields => by simp only [write, calls, writeFields_eq_writeAll fields]
  | script cs => by simp only [write, calls]

theorem writeItems_eq_writeAll : (items : List Value) →
    (writeItems items : EStateM Oversize σ Unit) = Sink.writeAll (itemCalls items)
  | [] => rfl
  | v :: rest => by
    simp only [writeItems, itemCalls, Sink.writeAll_append, write_eq_writeAll v,
      writeItems_eq_writeAll rest]

theorem writeEntries_eq_writeAll : (entries : List (Value × Value)) →
    (writeEntries entries : EStateM Oversize σ Unit) = Sink.writeAll (entryCalls entries)
  | [] => rfl
  | (k, v) :: rest => by
    simp only [writeEntries, entryCalls, Sink.writeAll_append, write_eq_writeAll k,
      write_eq_writeAll v, writeEntries_eq_writeAll rest]

theorem writeFields_eq_writeAll : (fields : List (Int16 × Value)) →
    (writeFields fields : EStateM Oversize σ Unit) = Sink.writeAll (fieldCalls fields)
  | [] => rfl
  | (_, v) :: rest => by
    simp only [writeFields, fieldCalls, Sink.writeAll_append, write_eq_writeAll v,
      writeFields_eq_writeAll rest]

end

end Value

namespace Replayed

theorem writeAll (cs : List Call) : Replayed id fun _ _ => Sink.writeAll cs := by
  refine ⟨⟨cs, .ok ()⟩, fun σ _ s => ?_⟩
  show Sink.writeAll cs s = _
  rw [Trace.on]
  cases Sink.writeAll cs s <;> rfl

theorem onWriter_writeAll (cs : List Call) :
    Replayed EvalError.protocol fun _ _ => onWriter (Sink.writeAll cs) := by
  refine ⟨⟨cs, .ok ()⟩, fun σ _ s => ?_⟩
  show (Sink.writeAll cs).adaptExcept EvalError.protocol s = _
  rw [EStateM.adaptExcept, Trace.on]
  cases Sink.writeAll cs s <;> rfl

theorem attempt (x : Except EvalError α) :
    Replayed EvalError.protocol fun _ _ => WireScribe.attempt x :=
  of_finish x fun _ _ s => attempt_eq_finish x s

end Replayed

theorem Value.write_replayed (v : Value) : Replayed id fun _ _ => v.write := by
  simp only [Value.write_eq_writeAll]
  exact Replayed.writeAll v.calls

mutual

/-- What an instruction does to a writer is settled by its calls and its outcome. -/
theorem Instr.run_replayed (env : Environment) : (i : Instr) → (scope : Scope) →
    Replayed EvalError.protocol fun _ _ => i.run env scope
  | .invoke m args, scope => by
    simp only [Instr.run, ← Sink.writeAll_singleton]
    refine (Replayed.attempt _).bind fun c => (Replayed.onWriter_writeAll [c]).bind fun _ => ?_
    exact Replayed.of_finish (.ok scope) fun _ _ _ => rfl
  | .loop target binder body, scope => by
    simp only [Instr.run_loop]
    refine (Replayed.attempt _).bind fun v => ?_
    cases binder.turns? v with
    | some turns =>
      refine (Replayed.foldlM (fun scope turn => ?_) turns scope).bind fun scope => ?_
      · exact runAll_replayed env body (scope.enter turn)
      · exact Replayed.of_finish (.ok (scope.leave binder.names)) fun _ _ _ => rfl
    | none => exact Replayed.of_finish (.error _) fun _ _ _ => rfl
  | .delegate target, scope => by
    simp only [Instr.run, Value.write_eq_writeAll]
    refine (Replayed.attempt _).bind fun v => ?_
    by_cases hv : v.shape = .struct
    · simp only [if_pos hv]
      refine (Replayed.onWriter_writeAll v.calls).bind fun _ => ?_
      exact Replayed.of_finish (.ok scope) fun _ _ _ => rfl
    · simp only [if_neg hv]
      exact Replayed.of_finish (.error _) fun _ _ _ => rfl

/-- The same of instructions in a row. -/
theorem runAll_replayed (env : Environment) : (is : List Instr) → (scope : Scope) →
    Replayed EvalError.protocol fun _ _ => runAll env is scope
  | [], scope => Replayed.of_finish (.ok scope) fun _ _ _ => rfl
  | i :: rest, scope => by
    simp only [runAll]
    exact (i.run_replayed env scope).bind fun scope' => runAll_replayed env rest scope'

end

theorem execute_replayed (env : Environment) (p : Program) :
    Replayed EvalError.protocol fun _ _ => execute env p :=
  (runAll_replayed env p {}).bind fun _ => Replayed.of_finish (.ok ()) fun _ _ _ => rfl

end WireScribe

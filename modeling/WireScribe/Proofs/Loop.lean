import WireScribe.Evaluation

/-!
# WireScribe.Proofs.Loop — loops by their turns

A loop over elements and a loop over entries differ only in the names that a
turn binds. `Binder.turns?` lists the turns of either loop over a value, and
`Instr.run_loop` says what a loop does in terms of them.
-/

namespace WireScribe

/-- The items that one turn of a loop makes current, in order. -/
abbrev Turn := List (Binding × Value)

namespace Binder

/-- The names that a loop binds. -/
def names : Binder → List Binding
  | elements b => [b]
  | entries key value => [key, value]

/-- The turns of a loop over a value, if the loop is one for such values. -/
def turns? : Binder → Value → Option (List Turn)
  | elements b, .seq _ items => some (items.map fun item => [(b, item)])
  | entries key value, .map es =>
    some (es.map fun entry => [(key, entry.1), (value, entry.2)])
  | _, _ => none

/-- The values that a loop is for. -/
def wanted : Binder → Wanted
  | elements _ => .listOrSet
  | entries _ _ => .map

/-- A turn binds the names of its loop, in their order. -/
theorem turn_cases {binder : Binder} {v : Value} {turns : List Turn}
    (hturns : binder.turns? v = some turns) {turn : Turn} (hturn : turn ∈ turns) :
    (∃ b x, binder = elements b ∧ turn = [(b, x)]) ∨
      ∃ k w x y, binder = entries k w ∧ turn = [(k, x), (w, y)] := by
  cases binder with
  | elements b =>
    cases v with
    | seq kind items =>
      cases hturns
      obtain ⟨item, -, rfl⟩ := List.mem_map.mp hturn
      exact .inl ⟨b, item, rfl, rfl⟩
    | _ => cases hturns
  | entries key value =>
    cases v with
    | map es =>
      cases hturns
      obtain ⟨entry, -, rfl⟩ := List.mem_map.mp hturn
      exact .inr ⟨key, value, entry.1, entry.2, rfl, rfl⟩
    | _ => cases hturns

end Binder

namespace Scope

/-- The scope inside a turn. -/
def enter (scope : Scope) (turn : Turn) : Scope :=
  turn.foldl (fun scope e => scope.insert e.1 e.2) scope

/-- The scope after a loop. -/
def leave (scope : Scope) (names : List Binding) : Scope := names.foldl erase scope

end Scope

variable {σ : Type} [Sink σ]

/-- Programs in a row run one after the other. -/
theorem runAll_append (env : Environment) (p q : List Instr) (scope : Scope) :
    (runAll env (p ++ q) scope : EStateM EvalError σ Scope) =
      (do let scope ← runAll env p scope; runAll env q scope) := by
  induction p generalizing scope with
  | nil => simp [runAll]
  | cons i p ih => simp [runAll, ih]

/-- A loop takes its turns one after the other, each in the scope that the one
before it left, and forgets its names at the end. -/
theorem Instr.run_loop (env : Environment) (target : Access) (binder : Binder)
    (body : List Instr) (scope : Scope) :
    ((Instr.loop target binder body).run env scope : EStateM EvalError σ Scope) = (do
      let v ← attempt (resolve env scope target)
      match binder.turns? v with
      | some turns => do
        let scope ← turns.foldlM (fun scope turn => runAll env body (scope.enter turn)) scope
        return scope.leave binder.names
      | none => throw (.typeMismatch binder.wanted (.value v.shape))) := by
  rw [Instr.run]
  congr 1
  funext v
  cases binder with
  | elements b =>
    cases v with
    | seq kind items => simp only [Binder.turns?, List.foldlM_map]; rfl
    | _ => rfl
  | entries key value =>
    cases v with
    | map es => simp only [Binder.turns?, List.foldlM_map]; rfl
    | _ => rfl

end WireScribe

import WireScribe.Proofs.LostNames

/-!
# WireScribe.Proofs.Composition — programs in a row

A run keeps the items of its loops in one scope from the first instruction to the
last. A program that is run by itself starts with an empty scope. The two come to the
same because a successful run leaves no name behind that it did not find.

1. **Successful runs**: a sequence of two actions succeeds when both do.
2. **Names in a scope**: what entering and leaving a loop does to them.
3. **Names after a run**: one instruction adds none, hence neither does a program.
4. **Composition**: a program of two parts does what its parts do one after the other.
-/

namespace WireScribe

variable {σ : Type}

/-! ## Successful runs -/

theorem estate_bind_eq_ok_iff {ε α β : Type} {x : EStateM ε σ α} {f : α → EStateM ε σ β}
    {b : β} {s s' : σ} :
    (x >>= f) s = .ok b s' ↔ ∃ a t, x s = .ok a t ∧ f a t = .ok b s' := by
  constructor
  · intro h
    cases hx : x s with
    | ok a t =>
      rw [bind_of_ok hx] at h
      exact ⟨a, t, rfl, h⟩
    | error e t =>
      rw [bind_of_error hx] at h
      cases h
  · rintro ⟨a, t, hx, hf⟩
    rw [bind_of_ok hx, hf]

/-! ## Names in a scope -/

namespace Scope

/-- A turn brings the names of its loop and no others. -/
theorem Within.enter {scope : Scope} {around : List Binding} {turn : Turn}
    (h : scope.Within around) (hturn : turn.map Prod.fst ⊆ around) :
    (scope.enter turn).Within around := by
  intro b hb
  by_cases hname : b ∈ turn.map Prod.fst
  · exact hturn hname
  · rw [get?_enter, Turn.lookup_eq_none_iff.mpr hname, Option.none_or] at hb
    exact h b hb

/-- The end of a loop takes its names. -/
theorem Within.leave {scope : Scope} {around names : List Binding}
    (h : scope.Within (names ++ around)) : (scope.leave names).Within around := by
  intro b hb
  rw [get?_leave] at hb
  split at hb
  · cases hb
  · rename_i hname
    rcases List.mem_append.mp (h b hb) with hin | haround
    · exact absurd hin hname
    · exact haround

/-- A scope without names is empty. -/
theorem Within.eq_empty {scope : Scope} (h : scope.Within []) : scope = {} := by
  obtain ⟨entries⟩ := scope
  cases entries with
  | nil => rfl
  | cons e rest =>
    have hhead : (get? ⟨e :: rest⟩ e.1).isSome := by simp [get?]
    exact absurd (h e.1 hhead) List.not_mem_nil

end Scope

/-! ## Names after a run -/

variable [Sink σ] {around : List Binding}

/-- The turns of a loop, if its body leaves no new name behind. -/
theorem within_of_turns {env : Environment} {body : List Instr}
    (hbody : ∀ {scope scope' : Scope} {s s' : σ}, scope.Within around →
      runAll env body scope s = .ok scope' s' → scope'.Within around)
    (turns : List Turn) (hturns : ∀ turn ∈ turns, turn.map Prod.fst ⊆ around)
    {scope scope' : Scope} {s s' : σ} (hscope : scope.Within around)
    (hrun : turns.foldlM (fun scope turn => runAll env body (scope.enter turn)) scope s =
      .ok scope' s') : scope'.Within around := by
  induction turns generalizing scope s with
  | nil =>
    cases hrun
    exact hscope
  | cons turn turns ih =>
    rw [List.foldlM_cons, estate_bind_eq_ok_iff] at hrun
    obtain ⟨scope₁, s₁, hturn, hrest⟩ := hrun
    have henter := hscope.enter (hturns turn List.mem_cons_self)
    have hlater := fun t ht => hturns t (List.mem_cons_of_mem turn ht)
    exact ih hlater (hbody henter hturn) hrest

mutual

/-- An instruction that succeeds leaves no new name behind. -/
theorem Instr.within_of_run (env : Environment) : (i : Instr) → {around : List Binding} →
    {scope scope' : Scope} → {s s' : σ} → scope.Within around →
    i.run env scope s = .ok scope' s' → scope'.Within around
  | .invoke m args, _, scope, scope', s, s', hscope, hrun => by
    simp only [Instr.run, estate_bind_eq_ok_iff] at hrun
    obtain ⟨c, _, -, _, _, -, hlast⟩ := hrun
    cases hlast
    exact hscope
  | .loop target binder body, around, scope, scope', s, s', hscope, hrun => by
    rw [Instr.run_loop, estate_bind_eq_ok_iff] at hrun
    obtain ⟨v, s₁, -, hrun⟩ := hrun
    cases hturns : binder.turns? v with
    | none =>
      rw [hturns] at hrun
      cases hrun
    | some turns =>
      simp only [hturns, estate_bind_eq_ok_iff] at hrun
      obtain ⟨scope₂, s₂, hfold, hlast⟩ := hrun
      cases hlast
      -- inside the loop its own names count as names around
      have hstart : scope.Within (binder.names ++ around) :=
        fun b hb => List.mem_append_right _ (hscope b hb)
      have hnames : ∀ turn ∈ turns, turn.map Prod.fst ⊆ binder.names ++ around := by
        intro turn hturn
        rw [Binder.names_of_turn hturns hturn]
        exact List.subset_append_left _ _
      have hend := within_of_turns (runAll_within env body) turns hnames hstart hfold
      exact hend.leave
  | .delegate target, _, scope, scope', s, s', hscope, hrun => by
    rw [Instr.run, estate_bind_eq_ok_iff] at hrun
    obtain ⟨v, s₁, -, hrun⟩ := hrun
    by_cases hv : v.shape = .struct
    · rw [if_pos hv, estate_bind_eq_ok_iff] at hrun
      obtain ⟨_, _, -, hlast⟩ := hrun
      cases hlast
      exact hscope
    · rw [if_neg hv] at hrun
      cases hrun

/-- The same of instructions in a row. -/
theorem runAll_within (env : Environment) : (is : List Instr) → {around : List Binding} →
    {scope scope' : Scope} → {s s' : σ} → scope.Within around →
    runAll env is scope s = .ok scope' s' → scope'.Within around
  | [], _, scope, scope', s, s', hscope, hrun => by
    cases hrun
    exact hscope
  | i :: rest, _, scope, scope', s, s', hscope, hrun => by
    rw [runAll, estate_bind_eq_ok_iff] at hrun
    obtain ⟨scope₁, s₁, hfirst, hrest⟩ := hrun
    exact runAll_within env rest (i.within_of_run env hscope hfirst) hrest

end

/-- A program that succeeds ends with no loop under way, as it began. -/
theorem scope_empty_of_runAll {env : Environment} {p : Program} {scope : Scope} {s s' : σ}
    (h : runAll env p {} s = .ok scope s') : scope = {} := by
  have hempty : ({} : Scope).Within [] := fun b hb => by cases hb
  exact (runAll_within env p hempty h).eq_empty

/-! ## Composition -/

/-- On every writer, and in every state of it, a program of two parts does what the
first part does and then, only if that succeeds, what the second part does by itself in
the same environment. -/
theorem execute_append (env : Environment) (p q : Program) (s : σ) :
    execute env (p ++ q) s =
      match execute env p s with
      | .ok _ s' => execute env q s'
      | .error e s' => .error e s' := by
  have hwhole : execute env (p ++ q) s =
      (do let scope ← runAll env p {}; let _ ← runAll env q scope : EStateM EvalError σ Unit) s := by
    simp only [execute, runAll_append, bind_assoc]
  rw [hwhole]
  cases hp : runAll env p {} s with
  | ok scope s' =>
    have hfirst : execute env p s = .ok () s' := by
      rw [execute, bind_of_ok hp]
      rfl
    -- the second part starts in the scope that it would have by itself
    rw [bind_of_ok hp, hfirst, scope_empty_of_runAll hp]
    rfl
  | error e s' =>
    have hfirst : execute env p s = .error e s' := by rw [execute, bind_of_error hp]
    rw [bind_of_error hp, hfirst]

end WireScribe

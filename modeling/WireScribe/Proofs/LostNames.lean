import WireScribe.Proofs.LexicalScope

/-!
# WireScribe.Proofs.LostNames — where a run departs from lexical scoping

A run and the lexical run differ in one place. Where a nested loop binds a name
that a loop around it has bound already, its end takes the name away from the outer
loop too, up to the outer loop's next turn.

1. **Tracking**: the scope of a run is the stack of turns less the lost names.
   `Tracks.enter` and `Tracks.leave` say so of the start of a turn and of the end of
   a loop.
2. **Agreement**: one instruction keeps the scope on track, hence so does a program.
   A run is the lexical one up to the first read of a lost name.
3. **Unshadowed programs**: where no loop takes the name of a loop around it,
   nothing is lost.
-/

namespace WireScribe

/-! ## Tracking -/

namespace Scope

theorem get?_enter (scope : Scope) (turn : Turn) (b : Binding) :
    (scope.enter turn).get? b = (turn.reverse.lookup b).or (scope.get? b) := by
  induction turn generalizing scope with
  | nil => simp [enter]
  | cons e turn ih =>
    obtain ⟨c, v⟩ := e
    have hcons : scope.enter ((c, v) :: turn) = (scope.insert c v).enter turn := rfl
    rw [hcons, ih, get?_insert, List.reverse_cons, List.lookup_append, Option.or_assoc]
    by_cases hb : b = c
    · simp [hb]
    · have hne : (b == c) = false := by simpa using hb
      simp [hb, List.lookup_cons, hne]

theorem get?_leave (scope : Scope) (names : List Binding) (b : Binding) :
    (scope.leave names).get? b = if b ∈ names then none else scope.get? b := by
  induction names generalizing scope with
  | nil => simp [leave]
  | cons c names ih =>
    have hcons : scope.leave (c :: names) = (scope.erase c).leave names := rfl
    rw [hcons, ih, get?_erase]
    by_cases hc : b = c <;> simp [hc]

end Scope

/-- The names of a turn are those of its loop. -/
theorem Binder.names_of_turn {binder : Binder} {v : Value} {turns : List Turn}
    (hturns : binder.turns? v = some turns) {turn : Turn} (hturn : turn ∈ turns) :
    turn.map Prod.fst = binder.names := by
  rcases turn_cases hturns hturn with ⟨b, x, rfl, rfl⟩ | ⟨k, w, x, y, rfl, rfl⟩
  · rfl
  · rfl

/-- The scope of a run is the stack of turns less the lost names, as far as other
names than the given ones go. -/
def Tracks (names : List Binding) (stack : Scope) (lost : List Binding) (scope : Scope) : Prop :=
  ∀ b ∉ names, scope.get? b = if b ∈ lost then none else stack.get? b

namespace Tracks

variable {names : List Binding} {scope stack : Scope} {lost : List Binding} {turn : Turn}

/-- A turn brings the names of its loop back. -/
theorem enter (h : Tracks names stack lost scope) (hturn : turn.map Prod.fst = names) :
    Tracks [] (stack.push turn) (lost.filter (· ∉ names)) (scope.enter turn) := by
  intro b _
  rw [Scope.get?_enter, Scope.get?_push]
  by_cases hb : b ∈ names
  · have hlookup : turn.reverse.lookup b ≠ none := by
      rw [ne_eq, Turn.lookup_eq_none_iff, hturn]
      simpa using hb
    obtain ⟨v, hv⟩ := Option.ne_none_iff_exists'.mp hlookup
    simp [hv, hb]
  · rw [← hturn] at hb
    have hscope := h b (hturn ▸ hb)
    rw [Turn.lookup_eq_none_iff.mpr hb, Option.none_or, Option.none_or, hscope]
    simp [← hturn, hb]

/-- Between two turns the names of the loop are left open: the one before may have
lost them, and the next brings them back. -/
theorem exit (h : Tracks [] (stack.push turn) lost scope) (hturn : turn.map Prod.fst = names) :
    Tracks names stack lost scope := by
  intro b hb
  rw [← hturn] at hb
  rw [h b List.not_mem_nil, Scope.get?_push_of_not_mem hb]

/-- The end of a loop takes its names. -/
theorem leave (h : Tracks names stack lost scope) :
    Tracks [] stack (names ++ lost) (scope.leave names) := by
  intro b _
  rw [Scope.get?_leave]
  by_cases hb : b ∈ names
  · simp [hb]
  · simp [hb, h b hb]

theorem weaken (h : Tracks [] stack lost scope) : Tracks names stack lost scope :=
  fun b _ => h b List.not_mem_nil

/-- A lost name has no value in the run. -/
theorem resolve_of_lost (h : Tracks [] stack lost scope) {b : Binding} (hb : b ∈ lost)
    (env : Environment) : resolve env scope (.bound b) = .error (.unbound b.ident) := by
  have hget : scope.get? b = none := by rw [h b List.not_mem_nil, if_pos hb]
  simp only [resolve, hget]
  rfl

/-- An operand that reads no lost name has the value of the lexical run. -/
theorem resolve_eq (h : Tracks [] stack lost scope) {a : Access}
    (ha : lostName? stack lost (some a) = none) (env : Environment) :
    resolve env scope a = resolve env stack a := by
  cases a with
  | bound b =>
    have hget : scope.get? b = stack.get? b := by
      rw [h b List.not_mem_nil]
      by_cases hb : b ∈ lost
      · -- no loop around binds the name, so it has no item on either side
        have hnone : stack.get? b = none := by simpa [lostName?, hb] using ha
        rw [if_pos hb, hnone]
      · rw [if_neg hb]
    simp only [resolve, hget]
  | var name => rfl
  | field base name => rfl

end Tracks

/-! ## Agreement -/

/-- A result whose recording goes on from an earlier one. -/
def Extends (r : Recording) (res : EStateM.Result EvalError Recording Unit) : Prop :=
  ∃ out cs, res = finish out ⟨r.calls ++ cs⟩

theorem Replayed.extends {refused : Oversize → EvalError}
    {x : ∀ (σ : Type) [Sink σ], EStateM EvalError σ Unit} (hx : Replayed refused x)
    (r : Recording) : Extends r (x Recording r) := by
  obtain ⟨t, ht⟩ := hx
  exact ⟨t.outcome, t.calls, by rw [ht, Trace.on_recording]⟩

theorem Extends.bind {r s : Recording} {x y : EStateM EvalError Recording Unit}
    (hx : Extends r (x s)) (hy : ∀ s', Extends s' (y s')) :
    Extends r ((x >>= fun _ => y) s) := by
  obtain ⟨out, cs, hx⟩ := hx
  cases out with
  | error e => exact ⟨.error e, cs, bind_of_error hx⟩
  | ok u =>
    obtain ⟨out, ds, hy⟩ := hy ⟨r.calls ++ cs⟩
    refine ⟨out, cs ++ ds, ?_⟩
    rw [bind_of_ok hx, hy, List.append_assoc]

/-- The results of a probing run, of the run itself and of the lexical run. They
end alike unless the probing run comes to a lost name. There the run fails for want
of the name, and the lexical run goes on from the same recording. -/
inductive Concur {α β : Type} (R : α → β → Prop) : EStateM.Result Stop Recording α →
    EStateM.Result EvalError Recording β → EStateM.Result EvalError Recording Unit → Prop
  | ok {a b r} (h : R a b) : Concur R (.ok a r) (.ok b r) (.ok () r)
  | failed {e r} : Concur R (.error (.failed e) r) (.error e r) (.error e r)
  | lost {b r res} (h : Extends r res) :
    Concur R (.error (.lost b) r) (.error (.unbound b.ident) r) res

namespace Concur

variable {α β γ δ : Type} {R : α → β → Prop} {S : γ → δ → Prop}

theorem bind {x : EStateM Stop Recording α} {y : EStateM EvalError Recording β}
    {z z' : EStateM EvalError Recording Unit} {f : α → EStateM Stop Recording γ}
    {g : β → EStateM EvalError Recording δ} {r : Recording}
    (h : Concur R (x r) (y r) (z r))
    (hnext : ∀ a b s, R a b → Concur S (f a s) (g b s) (z' s))
    (hgrow : ∀ s, Extends s (z' s)) :
    Concur S ((x >>= f) r) ((y >>= g) r) ((z >>= fun _ => z') r) := by
  generalize hx : x r = rx at h
  generalize hy : y r = ry at h
  generalize hz : z r = rz at h
  cases h with
  | ok hab =>
    rw [bind_of_ok hx, bind_of_ok hy, bind_of_ok hz]
    exact hnext _ _ _ hab
  | failed =>
    rw [bind_of_error hx, bind_of_error hy, bind_of_error hz]
    exact .failed
  | lost hext =>
    rw [bind_of_error hx, bind_of_error hy]
    rw [← hz] at hext
    exact .lost (hext.bind hgrow)

theorem map {x : EStateM Stop Recording α} {y : EStateM EvalError Recording β}
    {z : EStateM EvalError Recording Unit} {f : α → γ} {g : β → δ} {r : Recording}
    (h : Concur R (x r) (y r) (z r)) (hfg : ∀ a b, R a b → S (f a) (g b)) :
    Concur S ((do let a ← x; return f a : EStateM Stop Recording γ) r)
      ((do let b ← y; return g b : EStateM EvalError Recording δ) r) (z r) := by
  rw [← bind_pure_unit (x := z)]
  apply h.bind
  · intro a b s hab
    exact .ok (hfg a b hab)
  · intro s
    exact ⟨.ok (), [], by rw [List.append_nil]; rfl⟩

/-- Three runs of one action. -/
theorem of_adapt (x : EStateM EvalError Recording Unit) (r : Recording) :
    Concur (fun _ _ => True) (x.adaptExcept .failed r) (x r) (x r) := by
  rw [EStateM.adaptExcept]
  cases x r with
  | ok u s => exact .ok trivial
  | error e s => exact .failed

end Concur

namespace Lexical

variable {env : Environment} {scope stack : Scope} {lost : List Binding}

/-- An instruction that reads a lost name. -/
theorem concur_of_lost {i : Instr} {b : Binding} (h : Tracks [] stack lost scope)
    (hb : lostName? stack lost i.operand? = some b) (r : Recording) :
    Concur (Tracks [] stack) (probe env i stack lost r) (i.run env scope r) (run env i stack r) := by
  obtain ⟨hoperand, hmem, -⟩ := lostName?_eq_some_iff.mp hb
  have hrun : i.run env scope r = .error (.unbound b.ident) r :=
    Instr.run_of_unresolved hoperand (h.resolve_of_lost hmem env) r
  rw [probe_of_lost hb, hrun]
  -- the lexical run may come to anything from here, but it keeps what is recorded
  exact .lost ((run_replayed env i stack).extends r)

/-- The turns of a loop, if its body runs as in the lexical run. -/
theorem concur_turns {body : List Instr} {names : List Binding}
    (hbody : ∀ {scope stack : Scope} {lost : List Binding} (r : Recording),
      Tracks [] stack lost scope → Concur (Tracks [] stack) (probeAll env body stack lost r)
        (WireScribe.runAll env body scope r) (runAll env body stack r))
    (turns : List Turn) (hturns : ∀ turn ∈ turns, turn.map Prod.fst = names)
    (h : Tracks names stack lost scope) (r : Recording) :
    Concur (Tracks names stack)
      (turns.foldlM (fun lost turn =>
        probeAll env body (stack.push turn) (lost.filter (· ∉ names))) lost r)
      (turns.foldlM (fun scope turn => WireScribe.runAll env body (scope.enter turn)) scope r)
      (turns.forM (fun turn => runAll env body (stack.push turn)) r) := by
  -- between turns only the names of other loops are on track, which is all that
  -- the next turn and the end of the loop ask for
  induction turns generalizing scope lost r with
  | nil => exact .ok h
  | cons turn turns ih =>
    have hturn := hturns turn List.mem_cons_self
    have hrest := fun turn' hturn' => hturns turn' (List.mem_cons_of_mem turn hturn')
    simp only [List.foldlM_cons, List.forM]
    apply (hbody r (h.enter hturn)).bind
    · intro lost scope r htracks
      exact ih hrest (Tracks.exit htracks hturn) r
    · exact (Replayed.forM (fun turn => runAll_replayed env body _) turns).extends

mutual

/-- One instruction: the scope of the run keeps tracking the stack of turns, and
the three runs concur. -/
theorem concur_run (env : Environment) : (i : Instr) → {scope stack : Scope} →
    {lost : List Binding} → (r : Recording) → Tracks [] stack lost scope →
    Concur (Tracks [] stack) (probe env i stack lost r) (i.run env scope r) (run env i stack r)
  | .invoke m args, scope, stack, lost, r, h => by
    cases hlost : lostName? stack lost (m.operand? args) with
    | some b => exact concur_of_lost (i := .invoke m args) h hlost r
    | none =>
      -- the operand has its lexical value, and the rest of the call is the same
      have hcall : m.call env scope args = m.call env stack args := by
        apply Method.call_congr
        intro a ha
        rw [ha] at hlost
        exact h.resolve_eq hlost env
      have hrun : (Instr.invoke m args).run env scope =
          (do run env (.invoke m args) stack; return scope : EStateM EvalError Recording Scope) := by
        simp only [Instr.run, run, hcall, bind_assoc]
      rw [probe, heed_of_none hlost, pure_bind, hrun]
      exact (Concur.of_adapt _ r).map fun _ _ _ => h
  | .loop target binder body, scope, stack, lost, r, h => by
    cases hlost : lostName? stack lost (some target) with
    | some b => exact concur_of_lost (i := .loop target binder body) h hlost r
    | none =>
      rw [probe, heed_of_none hlost, pure_bind, Instr.run_loop, run, h.resolve_eq hlost env]
      cases resolve env stack target with
      | error e => exact .failed
      | ok v =>
        simp only [attempt_ok, adaptExcept_pure, pure_bind]
        cases hturns : binder.turns? v with
        | none => exact .failed
        | some turns =>
          have hnames := fun turn (hturn : turn ∈ turns) => Binder.names_of_turn hturns hturn
          apply (concur_turns (concur_runAll env body) turns hnames h.weaken r).map
          intro lost scope htracks
          exact htracks.leave
  | .delegate target, scope, stack, lost, r, h => by
    cases hlost : lostName? stack lost (some target) with
    | some b => exact concur_of_lost (i := .delegate target) h hlost r
    | none =>
      have hrun : (Instr.delegate target).run env scope =
          (do run env (.delegate target) stack; return scope : EStateM EvalError Recording Scope) := by
        simp only [Instr.run, run, h.resolve_eq hlost env, bind_assoc]
        congr 1
        funext v
        by_cases hv : v.shape = .struct
        · simp only [if_pos hv]
        · simp only [if_neg hv]
          rfl
      rw [probe, heed_of_none hlost, pure_bind, hrun]
      exact (Concur.of_adapt _ r).map fun _ _ _ => h

/-- Instructions in a row. -/
theorem concur_runAll (env : Environment) : (is : List Instr) → {scope stack : Scope} →
    {lost : List Binding} → (r : Recording) → Tracks [] stack lost scope →
    Concur (Tracks [] stack) (probeAll env is stack lost r) (WireScribe.runAll env is scope r)
      (runAll env is stack r)
  | [], _, _, _, r, h => .ok h
  | i :: rest, scope, stack, lost, r, h => by
    rw [probeAll, WireScribe.runAll, runAll]
    apply (concur_run env i r h).bind
    · intro lost scope r htracks
      exact concur_runAll env rest r htracks
    · exact (runAll_replayed env rest stack).extends

end

end Lexical

theorem execute_concurs (env : Environment) (p : Program) (r : Recording) :
    Concur (fun _ _ => True) (Lexical.probeAll env p {} [] r) (execute env p r)
      (Lexical.execute env p r) := by
  have htracks : Tracks [] {} [] {} := fun b _ => rfl
  have h := (Lexical.concur_runAll env p r htracks).map
    (S := fun _ _ => True) (f := id) (g := fun _ => ()) fun _ _ _ => trivial
  simpa only [execute, Lexical.execute, id, bind_pure] using h

/-! ## Unshadowed programs -/

mutual

/-- No loop of the instruction binds a name of the given ones, or one of a loop
around it. -/
def Instr.Unshadowed (around : List Binding) : Instr → Prop
  | .loop _ binder body =>
    (∀ b ∈ binder.names, b ∉ around) ∧ Unshadowed (binder.names ++ around) body
  | _ => True

/-- The same of every instruction of a program. -/
def Unshadowed (around : List Binding) : List Instr → Prop
  | [] => True
  | i :: rest => i.Unshadowed around ∧ Unshadowed around rest

end

/-- None of the names around is lost. -/
def Spared (around lost : List Binding) : Prop := ∀ b ∈ around, b ∉ lost

/-- The names of a stack of turns are among the given ones. -/
def Scope.Within (stack : Scope) (around : List Binding) : Prop :=
  ∀ b, (stack.get? b).isSome → b ∈ around

theorem Scope.Within.push {stack : Scope} {around names : List Binding} {turn : Turn}
    (h : stack.Within around) (hturn : turn.map Prod.fst = names) :
    (stack.push turn).Within (names ++ around) := by
  intro b hb
  rw [List.mem_append]
  by_cases hname : b ∈ names
  · exact .inl hname
  · rw [← hturn] at hname
    rw [Scope.get?_push_of_not_mem hname] at hb
    exact .inr (h b hb)

/-- Where nothing around is lost, no operand reads a lost name. -/
theorem Spared.lostName?_eq_none {stack : Scope} {around lost : List Binding}
    (h : Spared around lost) (hstack : stack.Within around) (operand : Option Access) :
    lostName? stack lost operand = none := by
  rw [Option.eq_none_iff_forall_ne_some]
  intro b hb
  obtain ⟨-, hlost, hsome⟩ := lostName?_eq_some_iff.mp hb
  exact h b (hstack b hsome) hlost

/-- A probing run that comes to no lost name, and loses none of those around. -/
inductive Spares {σ : Type} (around : List Binding) :
    EStateM.Result Stop σ (List Binding) → Prop
  | ok {lost s} (h : Spared around lost) : Spares around (.ok lost s)
  | failed {e s} : Spares around (.error (.failed e) s)

theorem Spares.bind {σ : Type} {around around' : List Binding}
    {x : EStateM Stop σ (List Binding)} {f : List Binding → EStateM Stop σ (List Binding)} {s : σ}
    (h : Spares around (x s)) (hnext : ∀ lost s, Spared around lost → Spares around' (f lost s)) :
    Spares around' ((x >>= f) s) := by
  generalize hx : x s = rx at h
  cases h with
  | ok hlost =>
    rw [bind_of_ok hx]
    exact hnext _ _ hlost
  | failed =>
    rw [bind_of_error hx]
    exact .failed

theorem Spares.of_adapt {σ : Type} {around lost : List Binding} (h : Spared around lost)
    (x : EStateM EvalError σ Unit) (s : σ) :
    Spares around ((do x.adaptExcept .failed; return lost : EStateM Stop σ (List Binding)) s) := by
  cases hx : x s with
  | ok u s' =>
    have hadapt : x.adaptExcept Stop.failed s = .ok () s' := by rw [EStateM.adaptExcept, hx]
    rw [bind_of_ok hadapt]
    exact .ok h
  | error e s' =>
    have hadapt : x.adaptExcept Stop.failed s = .error (.failed e) s' := by
      rw [EStateM.adaptExcept, hx]
    rw [bind_of_error hadapt]
    exact .failed

namespace Lexical

variable {σ : Type} [Sink σ] {env : Environment} {stack : Scope} {around lost : List Binding}

/-- The turns of a loop, if its body spares the names of the loop and those around. -/
theorem spares_turns {body : List Instr} {names : List Binding}
    (hbody : ∀ {stack : Scope} {lost : List Binding} (s : σ), stack.Within (names ++ around) →
      Spared (names ++ around) lost → Spares (names ++ around) (probeAll env body stack lost s))
    (turns : List Turn) (hturns : ∀ turn ∈ turns, turn.map Prod.fst = names)
    (hstack : stack.Within around) (hlost : Spared around lost) (s : σ) :
    Spares around (turns.foldlM (fun lost turn =>
      probeAll env body (stack.push turn) (lost.filter (· ∉ names))) lost s) := by
  induction turns generalizing lost s with
  | nil => exact .ok hlost
  | cons turn turns ih =>
    -- inside the turn the names of the loop count as names around
    have hfilter : Spared (names ++ around) (lost.filter (· ∉ names)) := by
      intro b hb hmem
      obtain ⟨hmem, hname⟩ := List.mem_filter.mp hmem
      rcases List.mem_append.mp hb with hin | haround
      · simp [hin] at hname
      · exact hlost b haround hmem
    rw [List.foldlM_cons]
    apply (hbody s (hstack.push (hturns turn List.mem_cons_self)) hfilter).bind
    intro lost s hlost
    have hrest := fun turn' hturn' => hturns turn' (List.mem_cons_of_mem turn hturn')
    exact ih hrest (fun b hb => hlost b (List.mem_append_right names hb)) s

mutual

theorem spares_probe (env : Environment) : (i : Instr) → {around : List Binding} →
    {stack : Scope} → {lost : List Binding} → (s : σ) → i.Unshadowed around →
    stack.Within around → Spared around lost → Spares around (probe env i stack lost s)
  | .invoke m args, _, stack, lost, s, _, hstack, hlost => by
    rw [probe, heed_of_none (hlost.lostName?_eq_none hstack _), pure_bind]
    exact Spares.of_adapt hlost _ s
  | .loop target binder body, around, stack, lost, s, hi, hstack, hlost => by
    rw [probe, heed_of_none (hlost.lostName?_eq_none hstack _), pure_bind]
    cases resolve env stack target with
    | error e => exact .failed
    | ok v =>
      rw [attempt_ok, adaptExcept_pure, pure_bind]
      cases hturns : binder.turns? v with
      | none => exact .failed
      | some turns =>
        rw [Instr.Unshadowed] at hi
        have hnames := fun turn (hturn : turn ∈ turns) => Binder.names_of_turn hturns hturn
        apply (spares_turns (fun s hstack hlost => spares_probeAll env body s hi.2 hstack hlost)
          turns hnames hstack hlost s).bind
        intro lost s hlost
        -- the end of the loop takes its own names, none of which is a name around
        refine .ok fun b hb hmem => ?_
        rcases List.mem_append.mp hmem with hname | hmem
        · exact hi.1 b hname hb
        · exact hlost b hb hmem
  | .delegate target, _, stack, lost, s, _, hstack, hlost => by
    rw [probe, heed_of_none (hlost.lostName?_eq_none hstack _), pure_bind]
    exact Spares.of_adapt hlost _ s

theorem spares_probeAll (env : Environment) : (is : List Instr) → {around : List Binding} →
    {stack : Scope} → {lost : List Binding} → (s : σ) → Unshadowed around is →
    stack.Within around → Spared around lost → Spares around (probeAll env is stack lost s)
  | [], _, _, _, _, _, _, hlost => .ok hlost
  | i :: rest, _, stack, lost, s, his, hstack, hlost => by
    rw [Unshadowed] at his
    rw [probeAll]
    apply (spares_probe env i s his.1 hstack hlost).bind
    intro lost s hlost
    exact spares_probeAll env rest s his.2 hstack hlost

end

/-- An unshadowed program loses no name. -/
theorem not_loses_of_unshadowed {p : Program} (hp : Unshadowed [] p) (env : Environment) (s : σ)
    (b : Binding) (s' : σ) : ¬ Loses env p s b s' := by
  intro hloses
  have hspares : Spares [] (probeAll env p {} [] s) :=
    spares_probeAll env p s hp (fun b hb => by cases hb) (fun b hb => by cases hb)
  rw [Loses] at hloses
  rw [hloses] at hspares
  cases hspares

end Lexical

/-! ## Runs against lexical scoping -/

/-- A run is the lexical one up to the first instruction that reads a lost name, and
fails there for want of it. So the two give the same result exactly if none is
read, or the lexical run happens to fail there with the same report. No name is
lost if no loop takes the name of a loop around it. -/
theorem execute_lexical_up_to_lost_name (env : Environment) (p : Program) (r : Recording) :
    (execute env p r = Lexical.execute env p r ↔ ∀ b r', Lexical.Loses env p r b r' →
      Lexical.execute env p r = .error (.unbound b.ident) r') ∧
    (∀ b r', Lexical.Loses env p r b r' → execute env p r = .error (.unbound b.ident) r' ∧
      ∃ out cs, Lexical.execute env p r = finish out ⟨r'.calls ++ cs⟩) ∧
    (Unshadowed [] p → ∀ b r', ¬ Lexical.Loses env p r b r') := by
  have hlost : ∀ b r', Lexical.Loses env p r b r' →
      execute env p r = .error (.unbound b.ident) r' ∧ Extends r' (Lexical.execute env p r) := by
    intro b r' hloses
    have h := execute_concurs env p r
    rw [Lexical.Loses] at hloses
    rw [hloses] at h
    generalize execute env p r = run at h
    cases h with
    | lost hext => exact ⟨rfl, hext⟩
  refine ⟨⟨?_, ?_⟩, hlost, fun hp => Lexical.not_loses_of_unshadowed hp env r⟩
  · intro heq b r' hloses
    rw [← heq]
    exact (hlost b r' hloses).1
  · intro hsame
    have h := execute_concurs env p r
    generalize hprobe : Lexical.probeAll env p {} [] r = probed at h
    generalize hrun : execute env p r = run at h ⊢
    generalize hlex : Lexical.execute env p r = lex at h ⊢
    cases h with
    | ok => rfl
    | failed => rfl
    | lost hext => rw [← hlex, hsame _ _ hprobe]

/-- The inner loop is over nothing, yet its end takes the outer loop's item. -/
theorem empty_inner_loop_takes_outer_item :
    let b : Binding := ⟨.element, 0⟩
    let p : Program := [.loop (.var "xs") (.elements b)
      [.loop (.var "ys") (.elements b) [], .invoke (.datum .i32) [.value (.bound b)]]]
    let env := (({} : Environment).bind "xs" (.seq .list [.datum (.i32 1)])).bind "ys" (.seq .list [])
    execute env p ({} : Recording) = .error (.unbound "__elem_0") {} ∧
      Lexical.execute env p ({} : Recording) = .ok () ⟨[.datum (.i32 1)]⟩ := by
  intro b p env
  have hloses : Lexical.Loses env p ({} : Recording) b {} := rfl
  have hident : b.ident = "__elem_0" := by decide
  rw [← hident]
  exact ⟨((execute_lexical_up_to_lost_name env p {}).2.1 b {} hloses).1, rfl⟩

end WireScribe

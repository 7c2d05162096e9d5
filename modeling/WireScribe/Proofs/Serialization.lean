import WireScribe.Proofs.Replay
import WireScribe.Proofs.Synthesis

/-!
# WireScribe.Proofs.Serialization — programs write what their type says

1. **Fitting**: `Ty.Fits` says which values a type takes.
2. **Serialization**: `Ty.calls` writes a value by its type, with no program in
   between.
3. **Scopes**: a program inside `depth` loops finds a scope whose names are all
   shallower, and leaves that scope as it was.
4. **Runs**: the program of a type makes the calls of the serialization.
-/

namespace WireScribe

namespace Ty

/-! ## Fitting -/

/-- The values that a type takes, given which of lists and sets may stand where the
type says list or set. A struct type takes every struct. -/
def FitsUpTo (admits : SeqKind → SeqKind → Prop) : Ty → Value → Prop
  | scalar s, .datum d => d.kind = s.kind
  | seq kind elem, .seq kind' items =>
    admits kind kind' ∧ ∀ v ∈ items, elem.FitsUpTo admits v
  | map key value, .map entries =>
    ∀ e ∈ entries, key.FitsUpTo admits e.1 ∧ value.FitsUpTo admits e.2
  | struct _, .record _ _ => True
  | struct _, .script _ => True
  | _, _ => False

/-- A list type and a set type both take lists and sets. -/
def Fits : Ty → Value → Prop := FitsUpTo fun _ _ => True

/-- A list type takes lists only, and a set type sets only. -/
def FitsExactly : Ty → Value → Prop := FitsUpTo Eq

theorem FitsUpTo.mono {admits admits' : SeqKind → SeqKind → Prop}
    (hadmits : ∀ k k', admits k k' → admits' k k') {ty : Ty} {v : Value}
    (h : ty.FitsUpTo admits v) : ty.FitsUpTo admits' v := by
  induction ty generalizing v with
  | scalar s => cases v <;> exact h
  | seq kind elem ih =>
    cases v with
    | seq kind' items => exact ⟨hadmits _ _ h.1, fun v hv => ih (h.2 v hv)⟩
    | _ => exact h
  | map key value ihk ihv =>
    cases v with
    | map entries => exact fun e he => ⟨ihk (h e he).1, ihv (h e he).2⟩
    | _ => exact h
  | struct name => cases v <;> exact h
  | named name => exact h

theorem FitsExactly.fits {ty : Ty} {v : Value} (h : ty.FitsExactly v) : ty.Fits v :=
  FitsUpTo.mono (fun _ _ _ => trivial) h

theorem shape_of_fits_struct {name : String} {v : Value} (h : (struct name).Fits v) :
    v.shape = .struct := by
  cases v with
  | record _ _ => rfl
  | script _ => rfl
  | _ => exact h.elim

/-! ## Serialization -/

/-- Writes a value by its type: a scalar is one call, a container is its elements
or entries in order between two markers, and a struct makes its own calls. -/
def calls : Ty → Value → List Call
  | scalar _, .datum d => [.datum d]
  | seq kind elem, .seq _ items =>
    .seqBegin kind elem.announced items.length ::
      (items.flatMap elem.calls ++ [.seqEnd kind])
  | map key value, .map entries =>
    .mapBegin key.announced value.announced entries.length ::
      (entries.flatMap (fun e => key.calls e.1 ++ value.calls e.2) ++ [.mapEnd])
  | struct _, v => v.calls
  | _, _ => []

end Ty

/-! ## Scopes -/

namespace Scope

/-- Every name of the scope is of a loop inside fewer than `depth` others. -/
def Below (depth : Nat) (scope : Scope) : Prop := ∀ e ∈ scope.entries, e.1.depth < depth

theorem erase_of_below {scope : Scope} {b : Binding} (h : scope.Below b.depth) :
    scope.erase b = scope := by
  have hkeep : scope.entries.filter (·.1 != b) = scope.entries := by
    rw [List.filter_eq_self]
    intro e he
    have hne : e.1 ≠ b := fun hb => Nat.lt_irrefl _ (hb ▸ h e he)
    simpa using hne
  rw [erase, hkeep]

/-- A loop that stands inside `depth` others has new names. -/
theorem leave_of_below {scope : Scope} {depth : Nat} (h : scope.Below depth)
    {names : List Binding} (hnames : ∀ b ∈ names, b.depth = depth) :
    scope.leave names = scope := by
  induction names with
  | nil => rfl
  | cons b names ih =>
    have hb : scope.erase b = scope := by
      apply erase_of_below
      rw [hnames b List.mem_cons_self]
      exact h
    rw [leave, List.foldl_cons, hb]
    exact ih fun c hc => hnames c (List.mem_cons_of_mem _ hc)

theorem Below.insert {scope : Scope} {b : Binding} {depth : Nat} (h : scope.Below depth)
    (hb : b.depth < depth) (v : Value) : (scope.insert b v).Below depth := by
  intro e he
  rcases List.mem_cons.mp he with rfl | he
  · exact hb
  · exact h e (List.mem_filter.mp he).1

/-- The body of such a loop stands one loop deeper. -/
theorem Below.enter {scope : Scope} {depth : Nat} (h : scope.Below depth) (turn : Turn)
    (hturn : ∀ e ∈ turn, e.1.depth = depth) : (scope.enter turn).Below (depth + 1) := by
  have hdeeper : scope.Below (depth + 1) := fun e he => Nat.lt_succ_of_lt (h e he)
  clear h
  induction turn generalizing scope with
  | nil => exact hdeeper
  | cons e turn ih =>
    have he : e.1.depth < depth + 1 := by
      rw [hturn e List.mem_cons_self]
      exact Nat.lt_succ_self depth
    exact ih (fun c hc => hturn c (List.mem_cons_of_mem _ hc)) (hdeeper.insert he e.2)

/-- A turn takes the place of the one before it. -/
theorem enter_enter {binder : Binder} {v : Value} {turns : List Turn}
    (hturns : binder.turns? v = some turns) {t u : Turn} (ht : t ∈ turns) (hu : u ∈ turns)
    (scope : Scope) : (scope.enter t).enter u = scope.enter u := by
  rcases Binder.turn_cases hturns ht with ⟨b, x, rfl, rfl⟩ | ⟨k, w, x, y, rfl, rfl⟩
  · rcases Binder.turn_cases hturns hu with ⟨_, x', hb, rfl⟩ | ⟨_, _, _, _, hb, _⟩
    · cases hb
      simp [enter, insert, erase]
    · cases hb
  · rcases Binder.turn_cases hturns hu with ⟨_, _, hb, _⟩ | ⟨_, _, x', y', hb, rfl⟩
    · cases hb
    · cases hb
      by_cases hkw : k = w
      · subst hkw
        simp [enter, insert, erase]
      · simp [enter, insert, erase, List.filter_filter, hkw, Ne.symm hkw, Bool.and_comm,
          Bool.and_left_comm]

/-- The end of a loop undoes its last turn. -/
theorem leave_enter {binder : Binder} {v : Value} {turns : List Turn}
    (hturns : binder.turns? v = some turns) {t : Turn} (ht : t ∈ turns) (scope : Scope) :
    (scope.enter t).leave binder.names = scope.leave binder.names := by
  rcases Binder.turn_cases hturns ht with ⟨b, x, rfl, rfl⟩ | ⟨k, w, x, y, rfl, rfl⟩
  · simp [enter, leave, Binder.names, insert, erase]
  · by_cases hkw : k = w
    · subst hkw
      simp [enter, leave, Binder.names, insert, erase]
    · simp [enter, leave, Binder.names, insert, erase, List.filter_filter, hkw, Ne.symm hkw,
        Bool.and_comm, Bool.and_left_comm]

/-- The scopes that a loop in `scope` passes through between its turns. -/
def Between (scope : Scope) (turns : List Turn) (acc : Scope) : Prop :=
  acc = scope ∨ ∃ t ∈ turns, acc = scope.enter t

theorem Between.enter_eq {binder : Binder} {v : Value} {turns : List Turn}
    (hturns : binder.turns? v = some turns) {scope acc : Scope} (h : scope.Between turns acc)
    {t : Turn} (ht : t ∈ turns) : acc.enter t = scope.enter t := by
  rcases h with rfl | ⟨u, hu, rfl⟩
  · rfl
  · exact enter_enter hturns hu ht scope

theorem Between.leave_eq {binder : Binder} {v : Value} {turns : List Turn}
    (hturns : binder.turns? v = some turns) {scope acc : Scope} (h : scope.Between turns acc) :
    acc.leave binder.names = scope.leave binder.names := by
  rcases h with rfl | ⟨t, ht, rfl⟩
  · rfl
  · exact leave_enter hturns ht scope

end Scope

/-! ## Runs -/

section Runs

variable {env : Environment} {scope : Scope}

theorem resolve_bound {b : Binding} {v : Value} (h : scope.get? b = some v) :
    resolve env scope (.bound b) = .ok v := by
  simp only [resolve, h]

theorem resolve_of_get? {a : Access} {v : Value} (ha : a.binding? = none)
    (h : env.get? a.text = some v) : resolve env scope a = .ok v := by
  cases a with
  | bound b => cases ha
  | var name => simp only [resolve, h]
  | field base name => simp only [resolve, h]

theorem run_invoke {m : Method} {args : List Argument} {c : Call}
    (h : m.call env scope args = .ok c) (r : Recording) :
    (Instr.invoke m args).run env scope r = .ok scope ⟨r.calls ++ [c]⟩ := by
  rw [Instr.run, h]
  rfl

/-- The turns of a loop make their calls one after the other, if each of them
leaves its scope alone. -/
theorem foldlM_turns {ι : Type} {binder : Binder} {body : List Instr} {v : Value}
    {items : List ι} {turn : ι → Turn} {calls : ι → List Call}
    (hturns : binder.turns? v = some (items.map turn))
    (hbody : ∀ i ∈ items, ∀ r : Recording, runAll env body (scope.enter (turn i)) r =
      .ok (scope.enter (turn i)) ⟨r.calls ++ calls i⟩)
    {rest : List ι} (hrest : rest ⊆ items) {acc : Scope}
    (hacc : scope.Between (items.map turn) acc) (r : Recording) :
    ∃ acc', scope.Between (items.map turn) acc' ∧
      (rest.map turn).foldlM (fun acc t => runAll env body (acc.enter t)) acc r =
        .ok acc' ⟨r.calls ++ rest.flatMap calls⟩ := by
  -- on the turns still to come: whichever turn came before, the next one starts in
  -- the scope that it would have as the first
  induction rest generalizing acc r with
  | nil => exact ⟨acc, hacc, by simp [pure, EStateM.pure]⟩
  | cons i rest ih =>
    have hi : i ∈ items := hrest List.mem_cons_self
    have hturn : turn i ∈ items.map turn := List.mem_map_of_mem hi
    have hsub : rest ⊆ items := fun j hj => hrest (List.mem_cons_of_mem _ hj)
    obtain ⟨acc', hacc', hrun⟩ := ih hsub (.inr ⟨_, hturn, rfl⟩) ⟨r.calls ++ calls i⟩
    refine ⟨acc', hacc', ?_⟩
    rw [List.map_cons, List.foldlM_cons, hacc.enter_eq hturns hturn, bind_of_ok (hbody i hi r),
      hrun]
    simp

/-- A loop makes the calls of its turns and leaves the scope alone, provided that
each turn does and that the names of the loop are new. -/
theorem run_loop_of_turns {ι : Type} {target : Access} {binder : Binder} {body : List Instr}
    {v : Value} {items : List ι} {turn : ι → Turn} {calls : ι → List Call}
    (hv : resolve env scope target = .ok v) (hturns : binder.turns? v = some (items.map turn))
    (hnew : scope.leave binder.names = scope)
    (hbody : ∀ i ∈ items, ∀ r : Recording, runAll env body (scope.enter (turn i)) r =
      .ok (scope.enter (turn i)) ⟨r.calls ++ calls i⟩) (r : Recording) :
    (Instr.loop target binder body).run env scope r =
      .ok scope ⟨r.calls ++ items.flatMap calls⟩ := by
  obtain ⟨acc, hacc, hrun⟩ := foldlM_turns hturns hbody (fun _ h => h) (.inl rfl) r
  rw [Instr.run_loop, bind_of_ok (attempt_of_ok hv r)]
  simp only [hturns]
  rw [bind_of_ok hrun, hacc.leave_eq hturns, hnew]
  rfl

/-- Markers around a loop. -/
theorem runAll_container {opening closing : Method} {args : List Argument} {c d : Call}
    {loop : Instr} {cs : List Call} (hopen : opening.call env scope args = .ok c)
    (hloop : ∀ r : Recording, loop.run env scope r = .ok scope ⟨r.calls ++ cs⟩)
    (hclose : closing.call env scope [] = .ok d) (r : Recording) :
    runAll env [.invoke opening args, loop, .invoke closing []] scope r =
      .ok scope ⟨r.calls ++ c :: (cs ++ [d])⟩ := by
  simp only [runAll]
  rw [bind_of_ok (run_invoke hopen r), bind_of_ok (hloop _), bind_of_ok (run_invoke hclose _)]
  simp [pure, EStateM.pure]

/-- The program of a type, inside `depth` loops, makes the calls of the
serialization and leaves the scope alone. -/
theorem runAll_programAt {limit : Option Nat} {ty : Ty} {a : Access} {depth : Nat}
    {p : Program} (hp : ty.programAt limit a depth = .ok p) {v : Value}
    (hscope : scope.Below depth) (hv : resolve env scope a = .ok v) (hfit : ty.Fits v)
    (r : Recording) : runAll env p scope r = .ok scope ⟨r.calls ++ ty.calls v⟩ := by
  induction ty generalizing a depth p scope v r with
  | scalar s =>
    cases v with
    | datum d =>
      cases hp
      have hcall : (Method.datum s.kind).call env scope [.value a] = .ok (.datum d) := by
        have hkind : d.kind = s.kind := hfit
        simp [Method.call, Argument.datum, hv, hkind, bind, Except.bind, pure, Except.pure]
      simp only [runAll]
      rw [bind_of_ok (run_invoke hcall r)]
      rfl
    | _ => exact hfit.elim
  | seq kind elem ih =>
    cases v with
    | seq kind' items =>
      obtain ⟨-, wire, body, hwire, hbody, rfl⟩ := Ty.programAt_seq_eq_ok_iff.mp hp
      have hopen : (Method.seqBegin kind).call env scope [.wire wire, .size a kind.sizeKind] =
          .ok (.seqBegin kind elem.announced items.length) := by
        rw [Ty.announced_of_wireType hwire]
        simp [Method.call, Argument.wireType, Argument.count, hv, Value.size?, bind, Except.bind,
          pure, Except.pure]
      refine runAll_container hopen (run_loop_of_turns hv rfl ?_ ?_) rfl r
      · exact Scope.leave_of_below hscope (by simp [Binder.names])
      · intro item hitem r
        -- the body stands one loop deeper and finds the item under the new name
        have hitemScope := hscope.enter [(⟨.element, depth⟩, item)] (by simp)
        exact ih hbody hitemScope (resolve_bound (by simp [Scope.enter])) (hfit.2 item hitem) r
    | _ => exact hfit.elim
  | map key value ihk ihv =>
    cases v with
    | map entries =>
      obtain ⟨-, keyWire, valueWire, keyBody, valueBody, hkw, hvw, hkb, hvb, rfl⟩ :=
        Ty.programAt_map_eq_ok_iff.mp hp
      have hopen : Method.mapBegin.call env scope [.wire keyWire, .wire valueWire, .size a .size] =
          .ok (.mapBegin key.announced value.announced entries.length) := by
        rw [Ty.announced_of_wireType hkw, Ty.announced_of_wireType hvw]
        simp [Method.call, Argument.wireType, Argument.count, hv, Value.size?, bind, Except.bind,
          pure, Except.pure]
      refine runAll_container hopen (run_loop_of_turns hv rfl ?_ ?_) rfl r
      · exact Scope.leave_of_below hscope (by simp [Binder.names])
      · intro entry hentry r
        obtain ⟨hkfit, hvfit⟩ := hfit entry hentry
        have hentryScope := hscope.enter
          [(⟨.key, depth⟩, entry.1), (⟨.value, depth⟩, entry.2)] (by simp)
        -- the key's part leaves the scope alone, so the value's part still finds its name
        rw [runAll_append, bind_of_ok (ihk hkb hentryScope
          (resolve_bound (by simp [Scope.enter])) hkfit r)]
        rw [ihv hvb hentryScope (resolve_bound (by simp [Scope.enter])) hvfit]
        simp
    | _ => exact hfit.elim
  | struct name =>
    cases hp
    have hshape : v.shape = .struct := Ty.shape_of_fits_struct hfit
    have hrun : (Instr.delegate a).run env scope r = .ok scope ⟨r.calls ++ v.calls⟩ := by
      rw [Instr.run, bind_of_ok (attempt_of_ok hv r), if_pos hshape, Value.write_eq_writeAll]
      simp [onWriter, EStateM.adaptExcept, bind, EStateM.bind, pure, EStateM.pure]
    simp only [runAll]
    rw [bind_of_ok hrun]
    -- the serialization of a struct is what it writes itself, whatever its form
    cases v with
    | record _ _ => rfl
    | script _ => rfl
    | _ => exact hfit.elim
  | named name => cases hp

/-- A program of a type makes the calls of the serialization, with whatever a
recording held before them. -/
theorem execute_program {limit : Option Nat} {ty : Ty} {a : Access} {p : Program}
    (hp : ty.program limit a = .ok p) (ha : a.binding? = none) {v : Value}
    (hv : env.get? a.text = some v) (hfit : ty.Fits v) (r : Recording) :
    execute env p r = .ok () ⟨r.calls ++ ty.calls v⟩ := by
  have hempty : ({} : Scope).Below 0 := fun _ he => nomatch he
  rw [execute, bind_of_ok (runAll_programAt hp hempty (resolve_of_get? ha hv) hfit r)]
  rfl

end Runs

/-- A resolved type has a program at every variable and field, and on a value that
fits the type the program succeeds and adds the serialization of the value to
whatever a recording held. -/
theorem program_writes_serialization (ty : Ty) (a : Access) (env : Environment) (v : Value)
    (r : Recording) (hty : ty.Resolved) (ha : a.binding? = none)
    (hv : env.get? a.text = some v) (hfit : ty.Fits v) :
    ∃ p, ty.program none a = .ok p ∧
      execute env p r = .ok () ⟨r.calls ++ ty.calls v⟩ := by
  obtain ⟨p, hp⟩ := Ty.exists_programAt hty a 0
  exact ⟨p, hp, execute_program hp ha hv hfit r⟩

/-- A set of maps where the type says list, with a struct that brings a stray
marker of its own. -/
theorem rows_write_serialization :
    let ty : Ty := .seq .list (.map (.scalar .string) (.struct "Point"))
    let rows : Value :=
      .seq .set [.map [(.datum (.string "a"), .script [.mapEnd])], .map []]
    let env : Environment := ({} : Environment).bind "self.rows" rows
    ∃ p, ty.program none (.selfField "rows") = .ok p ∧
      execute env p (⟨[.seqEnd .set]⟩ : Recording) =
        .ok () ⟨[.seqEnd .set, .seqBegin .list .map 2, .mapBegin .string .struct 1,
          .datum (.string "a"), .mapEnd, .mapEnd, .mapBegin .string .struct 0, .mapEnd,
          .seqEnd .list]⟩ := by
  intro ty rows env
  have hfit : ty.Fits rows := by
    simp [ty, rows, Ty.Fits, Ty.FitsUpTo, Datum.kind, Scalar.kind]
  exact program_writes_serialization ty (.selfField "rows") env rows ⟨[.seqEnd .set]⟩
    ⟨trivial, trivial⟩ rfl rfl hfit

end WireScribe

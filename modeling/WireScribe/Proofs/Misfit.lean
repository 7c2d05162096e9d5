import WireScribe.Proofs.Serialization

/-!
# WireScribe.Proofs.Misfit — where a run stops on a value of the wrong type

1. **Visits**: `Ty.visits` lists the values inside a value in the order in which they are
   written, each with its type and with the calls that come before it.
2. **Misfits**: a value that has another shape than its type admits. A value fits its type
   exactly if there is no misfit in it.
3. **Reports**: what is reported of a misfit, and the marker that still goes out before.
4. **Runs**: a program makes the calls up to the first misfit and stops there.
-/

namespace WireScribe

/-! ## Visits -/

/-- A value inside another one, as writing comes to it. -/
structure Visit where
  /-- The calls that writing makes before. -/
  before : List Call
  /-- The type that is asked for. -/
  ty : Ty
  value : Value

namespace Visit

/-- The visit with more calls in front. -/
def after (cs : List Call) (x : Visit) : Visit := { x with before := cs ++ x.before }

/-- Visits, and behind the calls of the same things further visits. -/
def andThen (xs : List Visit) (cs : List Call) (ys : List Visit) : List Visit :=
  xs ++ ys.map (after cs)

/-- The visits of things that are written in a row. -/
def inRow {α : Type} (visits : α → List Visit) (calls : α → List Call) : List α → List Visit
  | [] => []
  | a :: rest => andThen (visits a) (calls a) (inRow visits calls rest)

end Visit

/-- The values inside a value in the order in which they are written: a container comes
before its elements, and a key before its value. -/
def Ty.visits : Ty → Value → List Visit
  | seq kind elem, .seq kind' items =>
    Visit.andThen [⟨[], seq kind elem, .seq kind' items⟩]
      [.seqBegin kind elem.announced items.length]
      (Visit.inRow elem.visits elem.calls items)
  | map key value, .map entries =>
    Visit.andThen [⟨[], map key value, .map entries⟩]
      [.mapBegin key.announced value.announced entries.length]
      (Visit.inRow (fun e => Visit.andThen (key.visits e.1) (key.calls e.1) (value.visits e.2))
        (fun e => key.calls e.1 ++ value.calls e.2) entries)
  | ty, v => [⟨[], ty, v⟩]

namespace Visit

theorem before_isPrefix_andThen {xs ys : List Visit} {cs ds : List Call}
    (hxs : ∀ x ∈ xs, x.before <+: cs) (hys : ∀ y ∈ ys, y.before <+: ds) :
    ∀ x ∈ andThen xs cs ys, x.before <+: cs ++ ds := by
  intro x hx
  rcases List.mem_append.mp hx with hhere | hlater
  · exact (hxs x hhere).trans (List.prefix_append cs ds)
  · obtain ⟨y, hy, rfl⟩ := List.mem_map.mp hlater
    exact (List.prefix_append_right_inj cs).mpr (hys y hy)

theorem before_isPrefix_inRow {α : Type} {visits : α → List Visit} {calls : α → List Call}
    (hvisits : ∀ a, ∀ x ∈ visits a, x.before <+: calls a) (items : List α) :
    ∀ x ∈ inRow visits calls items, x.before <+: items.flatMap calls := by
  induction items with
  | nil => exact fun x hx => nomatch hx
  | cons a rest ih =>
    rw [List.flatMap_cons]
    exact before_isPrefix_andThen (hvisits a) ih

end Visit

/-- The calls before a visit are the first calls of the serialization. -/
theorem Ty.before_isPrefix_calls (ty : Ty) (v : Value) :
    ∀ x ∈ ty.visits v, x.before <+: ty.calls v := by
  induction ty generalizing v with
  | scalar s => simp [visits]
  | seq kind elem ih =>
    cases v with
    | seq kind' items =>
      have hopen : ∀ x ∈ [(⟨[], seq kind elem, .seq kind' items⟩ : Visit)],
          x.before <+: [.seqBegin kind elem.announced items.length] := by
        simp
      intro x hx
      rw [visits] at hx
      have hbody := Visit.before_isPrefix_andThen hopen (Visit.before_isPrefix_inRow ih items) x hx
      exact hbody.trans (List.prefix_append _ [Call.seqEnd kind])
    | _ => simp [visits]
  | map key value ihk ihv =>
    cases v with
    | map entries =>
      have hopen : ∀ x ∈ [(⟨[], map key value, .map entries⟩ : Visit)],
          x.before <+: [.mapBegin key.announced value.announced entries.length] := by
        simp
      have hentry := fun e : Value × Value =>
        Visit.before_isPrefix_andThen (ihk e.1) (ihv e.2)
      intro x hx
      rw [visits] at hx
      have hbody :=
        Visit.before_isPrefix_andThen hopen (Visit.before_isPrefix_inRow hentry entries) x hx
      exact hbody.trans (List.prefix_append _ [Call.mapEnd])
    | _ => simp [visits]
  | struct name => simp [visits]
  | named name => simp [visits]

/-! ## Misfits -/

/-- Whether a value of the given shape may stand where the type is asked for, as far as the
outermost form goes. A list type and a set type both admit lists and sets. -/
def Ty.admits : Ty → Shape → Bool
  | scalar s, .datum kind => kind = s.kind
  | seq _ _, .seq _ => true
  | map _ _, .map => true
  | struct _, .struct => true
  | _, _ => false

/-- Whether the value has another shape than its type admits. -/
def Visit.isMisfit (x : Visit) : Bool := !x.ty.admits x.value.shape

/-- The first value, in the order of writing, whose shape does not match its type. -/
def Ty.misfit? (ty : Ty) (v : Value) : Option Visit := (ty.visits v).find? Visit.isMisfit

namespace Visit

theorem find?_andThen (xs : List Visit) (cs : List Call) (ys : List Visit) :
    (andThen xs cs ys).find? isMisfit =
      (xs.find? isMisfit).or ((ys.find? isMisfit).map (after cs)) := by
  rw [andThen, List.find?_append, List.find?_map]
  rfl

theorem find?_inRow_eq_none_iff {α : Type} {visits : α → List Visit} {calls : α → List Call}
    {items : List α} :
    (inRow visits calls items).find? isMisfit = none ↔
      ∀ a ∈ items, (visits a).find? isMisfit = none := by
  induction items with
  | nil => simp [inRow]
  | cons a rest ih =>
    rw [inRow, find?_andThen, Option.or_eq_none_iff, Option.map_eq_none_iff, ih,
      List.forall_mem_cons]

end Visit

namespace Ty

theorem misfit?_seq (kind kind' : SeqKind) (elem : Ty) (items : List Value) :
    (seq kind elem).misfit? (.seq kind' items) =
      ((Visit.inRow elem.visits elem.calls items).find? Visit.isMisfit).map
        (.after [.seqBegin kind elem.announced items.length]) := by
  rw [misfit?, visits, Visit.find?_andThen]
  rfl

theorem misfit?_map (key value : Ty) (entries : List (Value × Value)) :
    (map key value).misfit? (.map entries) =
      ((Visit.inRow
        (fun e => Visit.andThen (key.visits e.1) (key.calls e.1) (value.visits e.2))
        (fun e => key.calls e.1 ++ value.calls e.2) entries).find? Visit.isMisfit).map
        (.after [.mapBegin key.announced value.announced entries.length]) := by
  rw [misfit?, visits, Visit.find?_andThen]
  rfl

/-- A value of the wrong shape is itself the first misfit. -/
theorem misfit?_of_not_admits {ty : Ty} {v : Value} (h : ty.admits v.shape = false) :
    ty.misfit? v = some ⟨[], ty, v⟩ := by
  have hself : Visit.isMisfit ⟨[], ty, v⟩ = true := by rw [Visit.isMisfit, h]; rfl
  have hvisits : ty.visits v = [⟨[], ty, v⟩] := by
    unfold visits
    split
    · cases h
    · cases h
    · rfl
  rw [misfit?, hvisits, List.find?_cons_of_pos hself]

/-- A value fits its type exactly if there is no misfit in it. -/
theorem misfit?_eq_none_iff {ty : Ty} {v : Value} : ty.misfit? v = none ↔ ty.Fits v := by
  induction ty generalizing v with
  | scalar s =>
    cases v <;> simp [misfit?, visits, Visit.isMisfit, admits, Value.shape, Fits, FitsUpTo]
  | seq kind elem ih =>
    cases v with
    | seq kind' items =>
      rw [misfit?_seq, Option.map_eq_none_iff, Visit.find?_inRow_eq_none_iff]
      simp only [Fits, FitsUpTo, true_and]
      exact forall₂_congr fun x _ => ih
    | _ => simp [misfit?, visits, Visit.isMisfit, admits, Value.shape, Fits, FitsUpTo]
  | map key value ihk ihv =>
    cases v with
    | map entries =>
      rw [misfit?_map, Option.map_eq_none_iff, Visit.find?_inRow_eq_none_iff]
      simp only [Visit.find?_andThen, Option.or_eq_none_iff, Option.map_eq_none_iff]
      exact forall₂_congr fun e _ => and_congr ihk ihv
    | _ => simp [misfit?, visits, Visit.isMisfit, admits, Value.shape, Fits, FitsUpTo]
  | struct name =>
    cases v <;> simp [misfit?, visits, Visit.isMisfit, admits, Value.shape, Fits, FitsUpTo]
  | named name => cases v <;> simp [misfit?, visits, Visit.isMisfit, admits, Fits, FitsUpTo]

end Ty

/-! ## Reports -/

namespace Ty

/-- What is wanted instead of a value of the given shape. Of a container type the size is
asked first, which every container has. -/
def wanted : Ty → Shape → Wanted
  | scalar s, _ => .datum s.kind
  | seq _ _, .map => .listOrSet
  | seq _ _, _ => .container
  | map _ _, .seq _ => .map
  | map _ _, _ => .container
  | _, _ => .struct

/-- The marker that goes out before a container of the wrong kind is noticed. -/
def marker : Ty → Value → List Call
  | seq kind elem, .map entries => [.seqBegin kind elem.announced entries.length]
  | map key value, .seq _ items => [.mapBegin key.announced value.announced items.length]
  | _, _ => []

end Ty

namespace Visit

/-- What is reported of a misfit. -/
def report (x : Visit) : EvalError :=
  .typeMismatch (x.ty.wanted x.value.shape) (.value x.value.shape)

/-- The calls that a run makes before it reports the misfit. -/
def made (x : Visit) : List Call := x.before ++ x.ty.marker x.value

theorem made_after (cs : List Call) (x : Visit) : (x.after cs).made = cs ++ x.made :=
  List.append_assoc cs x.before (x.ty.marker x.value)

end Visit

/-! ## Runs -/

/-- The action makes the calls up to the misfit and stops with its report. -/
def StopsAt {α : Type} (x : EStateM EvalError Recording α) (m : Visit) : Prop :=
  ∀ r : Recording, x r = .error m.report ⟨r.calls ++ m.made⟩

namespace StopsAt

variable {α β : Type} {x : EStateM EvalError Recording α} {f : α → EStateM EvalError Recording β}
  {m : Visit}

theorem bind (h : StopsAt x m) : StopsAt (x >>= f) m :=
  fun r => bind_of_error (h r)

/-- Calls that are made before come before the misfit. -/
theorem bind_of_ok {a : α} {cs : List Call} (hx : ∀ r : Recording, x r = .ok a ⟨r.calls ++ cs⟩)
    (h : StopsAt (f a) m) : StopsAt (x >>= f) (m.after cs) := by
  intro r
  rw [WireScribe.bind_of_ok (hx r), h, Visit.made_after, List.append_assoc]
  rfl

/-- Of two actions in a row the first one stops at its own first misfit, and the second one
comes to its own if there is none before. -/
theorem andThen {a : α} {xs ys : List Visit} {cs : List Call}
    (hok : xs.find? Visit.isMisfit = none → ∀ r : Recording, x r = .ok a ⟨r.calls ++ cs⟩)
    (hx : ∀ m, xs.find? Visit.isMisfit = some m → StopsAt x m)
    (hf : ∀ m, ys.find? Visit.isMisfit = some m → StopsAt (f a) m)
    (hm : (Visit.andThen xs cs ys).find? Visit.isMisfit = some m) : StopsAt (x >>= f) m := by
  rw [Visit.find?_andThen] at hm
  cases hfirst : xs.find? Visit.isMisfit with
  | some m' =>
    rw [hfirst] at hm
    cases hm
    exact (hx m hfirst).bind
  | none =>
    rw [hfirst, Option.none_or, Option.map_eq_some_iff] at hm
    obtain ⟨m', hm', rfl⟩ := hm
    exact (hf m' hm').bind_of_ok (hok hfirst)

end StopsAt

section Runs

variable {env : Environment} {scope : Scope}

/-- The turns of a loop, if each of them either makes its calls and leaves its scope alone or
stops at its first misfit. -/
theorem stopsAt_turns {ι : Type} {binder : Binder} {body : List Instr} {v : Value}
    {items : List ι} {turn : ι → Turn} {calls : ι → List Call} {visits : ι → List Visit}
    (hturns : binder.turns? v = some (items.map turn))
    (hok : ∀ i ∈ items, (visits i).find? Visit.isMisfit = none → ∀ r : Recording,
      runAll env body (scope.enter (turn i)) r = .ok (scope.enter (turn i)) ⟨r.calls ++ calls i⟩)
    (hstop : ∀ i ∈ items, ∀ m, (visits i).find? Visit.isMisfit = some m →
      StopsAt (runAll env body (scope.enter (turn i))) m)
    {rest : List ι} (hrest : rest ⊆ items) {acc : Scope}
    (hacc : scope.Between (items.map turn) acc) {m : Visit}
    (hm : (Visit.inRow visits calls rest).find? Visit.isMisfit = some m) :
    StopsAt ((rest.map turn).foldlM (fun acc t => runAll env body (acc.enter t)) acc) m := by
  induction rest generalizing acc m with
  | nil => cases hm
  | cons i rest ih =>
    have hi : i ∈ items := hrest List.mem_cons_self
    have hturn : turn i ∈ items.map turn := List.mem_map_of_mem hi
    have hsub : rest ⊆ items := fun j hj => hrest (List.mem_cons_of_mem _ hj)
    rw [List.map_cons, List.foldlM_cons, hacc.enter_eq hturns hturn]
    exact .andThen (hok i hi) (hstop i hi) (fun m hm => ih hsub (.inr ⟨_, hturn, rfl⟩) hm) hm

/-- A loop that comes to a misfit. -/
theorem stopsAt_loop {ι : Type} {target : Access} {binder : Binder} {body : List Instr}
    {v : Value} {items : List ι} {turn : ι → Turn} {calls : ι → List Call}
    {visits : ι → List Visit} (hv : resolve env scope target = .ok v)
    (hturns : binder.turns? v = some (items.map turn))
    (hok : ∀ i ∈ items, (visits i).find? Visit.isMisfit = none → ∀ r : Recording,
      runAll env body (scope.enter (turn i)) r = .ok (scope.enter (turn i)) ⟨r.calls ++ calls i⟩)
    (hstop : ∀ i ∈ items, ∀ m, (visits i).find? Visit.isMisfit = some m →
      StopsAt (runAll env body (scope.enter (turn i))) m) {m : Visit}
    (hm : (Visit.inRow visits calls items).find? Visit.isMisfit = some m) :
    StopsAt ((Instr.loop target binder body).run env scope) m := by
  intro r
  have hfold := stopsAt_turns hturns hok hstop (fun _ h => h) (.inl rfl) hm
  rw [Instr.run_loop, bind_of_ok (attempt_of_ok hv r)]
  simp only [hturns]
  exact hfold.bind r

/-- A container that comes to a misfit inside, behind its opening marker. -/
theorem stopsAt_container {opening : Method} {args : List Argument} {c : Call} {loop : Instr}
    {rest : List Instr} {m : Visit} (hopen : opening.call env scope args = .ok c)
    (hloop : StopsAt (loop.run env scope) m) :
    StopsAt (runAll env (.invoke opening args :: loop :: rest) scope) (m.after [c]) := by
  rw [runAll]
  apply StopsAt.bind_of_ok (run_invoke hopen)
  rw [runAll]
  exact hloop.bind

/-- The opening marker of a list or set asks for the size of what stands at the path. -/
theorem call_seqBegin {a : Access} {v : Value} (hv : resolve env scope a = .ok v)
    (kind : SeqKind) (w : WireType) (k : SizeKind) :
    (Method.seqBegin kind).call env scope [.wire w, .size a k] =
      match v.size? with
      | some n => .ok (.seqBegin kind w n)
      | none => .error (.typeMismatch .container (.value v.shape)) := by
  simp only [Method.call, Argument.wireType, Argument.count, hv, bind, Except.bind]
  cases v.size? <;> rfl

theorem call_mapBegin {a : Access} {v : Value} (hv : resolve env scope a = .ok v)
    (kw vw : WireType) (k : SizeKind) :
    Method.mapBegin.call env scope [.wire kw, .wire vw, .size a k] =
      match v.size? with
      | some n => .ok (.mapBegin kw vw n)
      | none => .error (.typeMismatch .container (.value v.shape)) := by
  simp only [Method.call, Argument.wireType, Argument.count, hv, bind, Except.bind]
  cases v.size? <;> rfl

theorem runAll_of_call_error {m : Method} {args : List Argument} {e : EvalError}
    (h : m.call env scope args = .error e) (rest : List Instr) (r : Recording) :
    runAll env (.invoke m args :: rest) scope r = .error e r := by
  have hrun : (Instr.invoke m args).run env scope r = .error e r := by
    rw [Instr.run, h]
    rfl
  rw [runAll, bind_of_error hrun]

/-- A loop over a container of the wrong kind fails behind the opening marker. -/
theorem runAll_of_turns_none {opening : Method} {args : List Argument} {c : Call} {a : Access}
    {v : Value} {binder : Binder} {body rest : List Instr}
    (hopen : opening.call env scope args = .ok c) (hv : resolve env scope a = .ok v)
    (hturns : binder.turns? v = none) (r : Recording) :
    runAll env (.invoke opening args :: .loop a binder body :: rest) scope r =
      .error (.typeMismatch binder.wanted (.value v.shape)) ⟨r.calls ++ [c]⟩ := by
  have hloop : ∀ r : Recording, (Instr.loop a binder body).run env scope r =
      .error (.typeMismatch binder.wanted (.value v.shape)) r := by
    intro r
    rw [Instr.run_loop, bind_of_ok (attempt_of_ok hv r), hturns]
    rfl
  rw [runAll, bind_of_ok (run_invoke hopen r), runAll, bind_of_error (hloop _)]

/-- A program stops at once on a value of the wrong shape. -/
theorem stopsAt_of_not_admits {limit : Option Nat} {ty : Ty} {a : Access} {depth : Nat}
    {p : Program} (hp : ty.programAt limit a depth = .ok p) {v : Value}
    (hv : resolve env scope a = .ok v) (hshape : ty.admits v.shape = false) {m : Visit}
    (hm : ty.misfit? v = some m) : StopsAt (runAll env p scope) m := by
  rw [Ty.misfit?_of_not_admits hshape] at hm
  cases hm
  intro r
  cases ty with
  | scalar s =>
    cases hp
    have hcall : (Method.datum s.kind).call env scope [.value a] =
        .error (.typeMismatch (.datum s.kind) (.value v.shape)) := by
      cases v with
      | datum d =>
        have hkind : d.kind ≠ s.kind := of_decide_eq_false hshape
        simp [Method.call, Argument.datum, hv, hkind, bind, Except.bind, throw, throwThe,
          MonadExceptOf.throw]
      | _ => simp only [Method.call, Argument.datum, hv]; rfl
    rw [runAll_of_call_error hcall]
    simp [Visit.report, Visit.made, Ty.wanted, Ty.marker]
  | seq kind elem =>
    obtain ⟨-, wire, body, hwire, -, rfl⟩ := Ty.programAt_seq_eq_ok_iff.mp hp
    have hopen := call_seqBegin hv kind wire kind.sizeKind
    cases v with
    | seq kind' items => cases hshape
    | map entries =>
      rw [Ty.seqProgram, runAll_of_turns_none hopen hv rfl, ← Ty.announced_of_wireType hwire]
      rfl
    | _ =>
      rw [Ty.seqProgram, runAll_of_call_error hopen]
      simp [Visit.report, Visit.made, Ty.wanted, Ty.marker, Value.shape]
  | map key value =>
    obtain ⟨-, kw, vw, keyBody, valueBody, hkw, hvw, -, -, rfl⟩ :=
      Ty.programAt_map_eq_ok_iff.mp hp
    have hopen := call_mapBegin hv kw vw .size
    cases v with
    | map entries => cases hshape
    | seq kind items =>
      rw [Ty.mapProgram, runAll_of_turns_none hopen hv rfl, ← Ty.announced_of_wireType hkw,
        ← Ty.announced_of_wireType hvw]
      rfl
    | _ =>
      rw [Ty.mapProgram, runAll_of_call_error hopen]
      simp [Visit.report, Visit.made, Ty.wanted, Ty.marker, Value.shape]
  | struct name =>
    cases hp
    have hstruct : v.shape ≠ .struct := by
      intro h
      rw [h] at hshape
      cases hshape
    have hrun : (Instr.delegate a).run env scope r =
        .error (.typeMismatch .struct (.value v.shape)) r := by
      rw [Instr.run, bind_of_ok (attempt_of_ok hv r), if_neg hstruct]
      rfl
    rw [runAll, bind_of_error hrun]
    simp [Visit.report, Visit.made, Ty.wanted, Ty.marker]
  | named name => cases hp

/-- The program of a type, inside `depth` loops, stops at the first misfit. -/
theorem stopsAt_programAt {limit : Option Nat} {ty : Ty} {a : Access} {depth : Nat} {p : Program}
    (hp : ty.programAt limit a depth = .ok p) {v : Value} (hscope : scope.Below depth)
    (hv : resolve env scope a = .ok v) {m : Visit} (hm : ty.misfit? v = some m) :
    StopsAt (runAll env p scope) m := by
  induction ty generalizing a depth p scope v m with
  | scalar s =>
    cases hshape : (Ty.scalar s).admits v.shape with
    | false => exact stopsAt_of_not_admits hp hv hshape hm
    | true => simp [Ty.misfit?, Ty.visits, Visit.isMisfit, hshape] at hm
  | seq kind elem ih =>
    cases v with
    | seq kind' items =>
      obtain ⟨-, wire, body, hwire, hbody, rfl⟩ := Ty.programAt_seq_eq_ok_iff.mp hp
      have hopen := call_seqBegin hv kind wire kind.sizeKind
      rw [Ty.misfit?_seq, Option.map_eq_some_iff] at hm
      obtain ⟨m, hinside, rfl⟩ := hm
      rw [Ty.announced_of_wireType hwire]
      have hitemScope := fun item =>
        hscope.enter [((⟨.element, depth⟩ : Binding), item)] (by simp)
      have hitem : ∀ item, resolve env (scope.enter [((⟨.element, depth⟩ : Binding), item)])
          (.bound ⟨.element, depth⟩) = .ok item :=
        fun item => resolve_bound (by simp [Scope.enter])
      refine stopsAt_container hopen (stopsAt_loop hv rfl ?_ ?_ hinside)
      · intro item _ hnone
        have hfit : elem.Fits item := Ty.misfit?_eq_none_iff.mp hnone
        exact runAll_programAt hbody (hitemScope item) (hitem item) hfit
      · intro item _ m hm
        exact ih hbody (hitemScope item) (hitem item) hm
    | _ => exact stopsAt_of_not_admits hp hv rfl hm
  | map key value ihk ihv =>
    cases v with
    | map entries =>
      obtain ⟨-, kw, vw, keyBody, valueBody, hkw, hvw, hkb, hvb, rfl⟩ :=
        Ty.programAt_map_eq_ok_iff.mp hp
      have hopen := call_mapBegin hv kw vw .size
      rw [Ty.misfit?_map, Option.map_eq_some_iff] at hm
      obtain ⟨m, hinside, rfl⟩ := hm
      rw [Ty.announced_of_wireType hkw, Ty.announced_of_wireType hvw]
      let turn := fun e : Value × Value =>
        [((⟨.key, depth⟩ : Binding), e.1), ((⟨.value, depth⟩ : Binding), e.2)]
      have hentryScope := fun e => hscope.enter (turn e) (by simp [turn])
      have hkey : ∀ e, resolve env (scope.enter (turn e)) (.bound ⟨.key, depth⟩) = .ok e.1 :=
        fun e => resolve_bound (by simp [turn, Scope.enter])
      have hvalue : ∀ e, resolve env (scope.enter (turn e)) (.bound ⟨.value, depth⟩) = .ok e.2 :=
        fun e => resolve_bound (by simp [turn, Scope.enter])
      have hkeyRun := fun e (hnone : key.misfit? e.1 = none) =>
        runAll_programAt hkb (hentryScope e) (hkey e) (Ty.misfit?_eq_none_iff.mp hnone)
      refine stopsAt_container hopen (stopsAt_loop hv rfl ?_ ?_ hinside)
      · intro e _ hnone r
        rw [Visit.find?_andThen, Option.or_eq_none_iff, Option.map_eq_none_iff] at hnone
        have hvalueFit : value.Fits e.2 := Ty.misfit?_eq_none_iff.mp hnone.2
        rw [runAll_append, bind_of_ok (hkeyRun e hnone.1 r),
          runAll_programAt hvb (hentryScope e) (hvalue e) hvalueFit, List.append_assoc]
      · intro e _ m hm
        -- the key's part comes first, and the value's part finds the same scope
        rw [runAll_append]
        exact .andThen (hkeyRun e) (fun m hm => ihk hkb (hentryScope e) (hkey e) hm)
          (fun m hm => ihv hvb (hentryScope e) (hvalue e) hm) hm
    | _ => exact stopsAt_of_not_admits hp hv rfl hm
  | struct name =>
    cases hshape : (Ty.struct name).admits v.shape with
    | false => exact stopsAt_of_not_admits hp hv hshape hm
    | true => simp [Ty.misfit?, Ty.visits, Visit.isMisfit, hshape] at hm
  | named name => cases hp

end Runs

/-- On a value that does not fit its type the program of the type fails with a type mismatch.
It is reported of the first value in the order of writing whose shape does not match its
type. A recording then holds what it held before, the calls of the serialization up to that
value, and a marker for it if it is a container of the wrong kind. -/
theorem program_stops_at_first_misfit (ty : Ty) (a : Access) (env : Environment) (v : Value)
    (r : Recording) (hty : ty.Resolved) (ha : a.binding? = none)
    (hv : env.get? a.text = some v) (hfit : ¬ ty.Fits v) :
    ∃ p m, ty.program none a = .ok p ∧ ty.misfit? v = some m ∧ m.before <+: ty.calls v ∧
      execute env p r =
        .error (.typeMismatch (m.ty.wanted m.value.shape) (.value m.value.shape))
          ⟨r.calls ++ (m.before ++ m.ty.marker m.value)⟩ := by
  obtain ⟨p, hp⟩ := Ty.exists_programAt hty a 0
  have hsome : ty.misfit? v ≠ none := fun hnone => hfit (Ty.misfit?_eq_none_iff.mp hnone)
  obtain ⟨m, hm⟩ := Option.ne_none_iff_exists'.mp hsome
  refine ⟨p, m, hp, hm, ty.before_isPrefix_calls v m (List.mem_of_find?_eq_some hm), ?_⟩
  have hempty : ({} : Scope).Below 0 := fun _ he => nomatch he
  have hstops := stopsAt_programAt hp hempty (resolve_of_get? ha hv) hm
  exact hstops.bind r

/-- A map where a set is asked for, as the second value of a map, with another misfit behind
it. Its size has gone out as that of a set by the time it is noticed. -/
theorem rows_stop_at_inner_map :
    let ty : Ty := .seq .list (.map (.scalar .string) (.seq .set (.scalar .i8)))
    let row : Value := .map [(.datum (.string "a"), .seq .list [.datum (.byte 1)]),
      (.datum (.string "b"), .map [])]
    let rows : Value := .seq .list [row, .datum (.bool true)]
    let env : Environment := ({} : Environment).bind "self.rows" rows
    ∃ p, ty.program none (.selfField "rows") = .ok p ∧
      execute env p (⟨[.mapEnd]⟩ : Recording) =
        .error (.typeMismatch .listOrSet (.value .map))
          ⟨[.mapEnd, .seqBegin .list .map 2, .mapBegin .string .set 2, .datum (.string "a"),
            .seqBegin .set .byte 1, .datum (.byte 1), .seqEnd .set, .datum (.string "b"),
            .seqBegin .set .byte 0]⟩ := by
  intro ty row rows env
  have hfit : ¬ ty.Fits rows := by simp [ty, row, rows, Ty.Fits, Ty.FitsUpTo]
  obtain ⟨p, m, hp, hm, -, hrun⟩ := program_stops_at_first_misfit ty (.selfField "rows") env rows
    ⟨[.mapEnd]⟩ ⟨trivial, trivial⟩ rfl rfl hfit
  cases hm
  exact ⟨p, hp, hrun⟩

end WireScribe

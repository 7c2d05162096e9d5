import WireScribe.Proofs.NestingLimit

/-!
# WireScribe.Proofs.NoProgram — why a type has no program

Synthesis can stop at the limit on nesting, at a tag that an element does not have, or at
a bare name, and a type may hold many causes of both kinds. Whichever comes first, the
report names a cause that is there.

1. **Bare names**: `Ty.names` lists them, in the order in which validation looks for one.
2. **Failures of a container**: its own level is too deep, or one of its parts fails.
3. **Causes**: the two causes, and how a cause in a part is one in the container.
4. **Reports**: what synthesis and validation report when there are causes of one kind.
-/

namespace WireScribe

/-! ## Bare names -/

namespace Ty

/-- The bare names in a type, keys before values. -/
def names : Ty → List String
  | seq _ elem => elem.names
  | map key value => key.names ++ value.names
  | named name => [name]
  | _ => []

theorem head?_names (ty : Ty) : ty.names.head? = ty.unresolved? := by
  induction ty with
  | scalar s => rfl
  | seq kind elem ih => exact ih
  | map key value ihk ihv => rw [names, List.head?_append, ihk, ihv, unresolved?]
  | struct name => rfl
  | named name => rfl

theorem names_eq_nil_iff {ty : Ty} : ty.names = [] ↔ ty.Resolved := by
  rw [← unresolved?_eq_none_iff, ← head?_names, List.head?_eq_none_iff]

end Ty

/-! ## Failures of a container -/

theorem checkDepth_eq_error_iff {limit : Option Nat} {depth : Nat} {e : GenError} :
    checkDepth limit depth = .error e ↔
      ∃ l ∈ limit, l < depth + 1 ∧ e = .nestingTooDeep (depth + 1) l := by
  cases limit with
  | none => simp [checkDepth]
  | some l =>
    by_cases hlt : l < depth + 1
    · rw [checkDepth, if_pos hlt]
      constructor
      · intro h
        exact ⟨l, rfl, hlt, (Except.error.inj h).symm⟩
      · rintro ⟨_, hl, -, rfl⟩
        cases hl
        rfl
    · rw [checkDepth, if_neg hlt]
      constructor
      · intro h
        cases h
      · rintro ⟨_, hl, hlt', -⟩
        cases hl
        exact absurd hlt' hlt

namespace Ty

variable {limit : Option Nat} {depth : Nat} {a : Access} {e : GenError}

/-- Only a bare name has no tag, and it has no program for the same reason. -/
theorem programAt_of_elementWireType {ty : Ty} (h : ty.elementWireType = .error e) :
    ty.programAt limit a depth = .error e := by
  cases ty with
  | named name =>
    cases h
    rfl
  | _ => cases h

theorem programAt_seq_error {kind : SeqKind} {elem : Ty}
    (h : (seq kind elem).programAt limit a depth = .error e) :
    checkDepth limit depth = .error e ∨ checkDepth limit depth = .ok () ∧
      elem.programAt limit (.bound ⟨.element, depth⟩) (depth + 1) = .error e := by
  simp only [programAt, except_bind_eq_error_iff] at h
  rcases h with hcheck | ⟨_, hroom, hwire | ⟨wire, -, hbody | ⟨body, -, hdone⟩⟩⟩
  · exact .inl hcheck
  · exact .inr ⟨hroom, programAt_of_elementWireType hwire⟩
  · exact .inr ⟨hroom, hbody⟩
  · cases hdone

theorem programAt_map_error {key value : Ty}
    (h : (map key value).programAt limit a depth = .error e) :
    checkDepth limit depth = .error e ∨ checkDepth limit depth = .ok () ∧
      (key.programAt limit (.bound ⟨.key, depth⟩) (depth + 1) = .error e ∨
        value.programAt limit (.bound ⟨.value, depth⟩) (depth + 1) = .error e) := by
  simp only [programAt, except_bind_eq_error_iff] at h
  rcases h with hcheck | ⟨_, hroom, hkw | ⟨kw, -, hvw | ⟨vw, -, hkb | ⟨keyBody, -, hvb |
    ⟨valueBody, -, hdone⟩⟩⟩⟩⟩
  · exact .inl hcheck
  · exact .inr ⟨hroom, .inl (programAt_of_elementWireType hkw)⟩
  · exact .inr ⟨hroom, .inr (programAt_of_elementWireType hvw)⟩
  · exact .inr ⟨hroom, .inl hkb⟩
  · exact .inr ⟨hroom, .inr hvb⟩
  · cases hdone

/-! ## Causes -/

/-- The error names a cause that the type has inside `depth` containers: a bare name in
it, or a container past the limit. The first container past a limit is always one level
past it. -/
inductive HasCause (limit : Option Nat) (depth : Nat) (ty : Ty) : GenError → Prop where
  | unsupported {name : String} (hname : name ∈ ty.names) :
    HasCause limit depth ty (.unsupportedType name)
  | tooDeep {l : Nat} (hl : l ∈ limit) (hdeep : ¬ ty.Within limit depth) :
    HasCause limit depth ty (.nestingTooDeep (l + 1) l)

/-- A cause in a part of a container is one in the container. -/
theorem HasCause.of_part {part whole : Ty} (h : part.HasCause limit (depth + 1) e)
    (hnames : part.names ⊆ whole.names)
    (hwithin : whole.Within limit depth → part.Within limit (depth + 1)) :
    whole.HasCause limit depth e := by
  cases h with
  | unsupported hname => exact .unsupported (hnames hname)
  | tooDeep hl hdeep => exact .tooDeep hl fun hwhole => hdeep (hwithin hwhole)

/-- A container that is stopped at its own level, where all levels around it had room. -/
theorem HasCause.of_checkDepth {ty : Ty} (h : checkDepth limit depth = .error e)
    (haround : ∀ l ∈ limit, depth ≤ l)
    (hwithin : ty.Within limit depth → ∀ l ∈ limit, depth + 1 ≤ l) :
    ty.HasCause limit depth e := by
  obtain ⟨l, hl, hlt, rfl⟩ := checkDepth_eq_error_iff.mp h
  have hdepth : depth = l := by
    have hle := haround l hl
    omega
  rw [hdepth]
  refine .tooDeep hl fun hroom => ?_
  rw [← hdepth] at hroom
  have hle := hwithin hroom l hl
  omega

/-- Whatever synthesis fails with inside `depth` containers that have room is a cause. -/
theorem hasCause_of_programAt {ty : Ty} (haround : ∀ l ∈ limit, depth ≤ l)
    (h : ty.programAt limit a depth = .error e) : ty.HasCause limit depth e := by
  induction ty generalizing a depth with
  | scalar s => cases h
  | seq kind elem ih =>
    rcases programAt_seq_error h with hcheck | ⟨hroom, helem⟩
    · exact .of_checkDepth hcheck haround fun hwithin => (within_seq_iff.mp hwithin).1
    · have hcause := ih (checkDepth_eq_ok_iff.mp hroom) helem
      exact hcause.of_part (List.Subset.refl _) fun hwithin => (within_seq_iff.mp hwithin).2
  | map key value ihk ihv =>
    rcases programAt_map_error h with hcheck | ⟨hroom, hkey | hvalue⟩
    · exact .of_checkDepth hcheck haround fun hwithin => (within_map_iff.mp hwithin).1
    · have hcause := ihk (checkDepth_eq_ok_iff.mp hroom) hkey
      exact hcause.of_part (List.subset_append_left _ _)
        fun hwithin => (within_map_iff.mp hwithin).2.1
    · have hcause := ihv (checkDepth_eq_ok_iff.mp hroom) hvalue
      exact hcause.of_part (List.subset_append_right _ _)
        fun hwithin => (within_map_iff.mp hwithin).2.2
  | struct name => cases h
  | named name =>
    cases h
    exact .unsupported List.mem_cons_self

/-! ## Reports -/

theorem hasCause_of_program {ty : Ty} (h : ty.program limit a = .error e) :
    ty.HasCause limit 0 e :=
  hasCause_of_programAt (fun _ _ => Nat.zero_le _) h

/-- A type that is not resolved or has no room fails. -/
theorem exists_program_error {ty : Ty} (a : Access)
    (h : ¬ (ty.Resolved ∧ ty.Within limit 0)) : ∃ e, ty.program limit a = .error e := by
  cases hp : ty.program limit a with
  | ok p => exact absurd (exists_programAt_iff.mp ⟨p, hp⟩) h
  | error e => exact ⟨e, rfl⟩

theorem validate_of_unresolved {ty : Ty} {name : String} (hdepth : ∀ l ∈ limit, ty.depth ≤ l)
    (hname : ty.unresolved? = some name) : ty.validate limit = .error (.unresolved name) := by
  cases limit with
  | none =>
    simp only [validate, hname]
    rfl
  | some l =>
    have hle : ¬ l < ty.depth := Nat.not_lt.mpr (hdepth l rfl)
    rw [validate, if_neg hle, hname]
    rfl

end Ty

/-- When a type has no program, the report is a bare name that occurs in the type, or the
depth one past a limit that the type exceeds, and nothing else. A resolved type that is too
deep fails with that depth, while validation reports the depth of the whole type. A type
within the limit that has bare names fails with one of them, and validation reports the
first. -/
theorem program_failure_names_cause (ty : Ty) (a : Access) (limit : Option Nat) :
    (∀ e, ty.program limit a = .error e →
      (∃ name ∈ ty.names, e = .unsupportedType name) ∨
      ∃ l, limit = some l ∧ l < ty.depth ∧ e = .nestingTooDeep (l + 1) l) ∧
    (∀ l, limit = some l → ty.Resolved → l < ty.depth →
      ty.program limit a = .error (.nestingTooDeep (l + 1) l) ∧
      ty.validate limit = .error (.nestingTooDeep ty.depth l)) ∧
    (¬ ty.Resolved → (∀ l, limit = some l → ty.depth ≤ l) →
      (∃ name ∈ ty.names, ty.program limit a = .error (.unsupportedType name)) ∧
      ∃ name, ty.names.head? = some name ∧ ty.validate limit = .error (.unresolved name)) := by
  refine ⟨?_, ?_, ?_⟩
  · intro e he
    cases Ty.hasCause_of_program he with
    | unsupported hname => exact .inl ⟨_, hname, rfl⟩
    | @tooDeep l hl hdeep =>
      refine .inr ⟨l, hl, ?_, rfl⟩
      rw [Ty.within_zero_iff, Option.mem_def.mp hl] at hdeep
      simpa using hdeep
  · rintro l rfl hresolved hdepth
    refine ⟨?_, Ty.validate_of_lt_depth hdepth⟩
    have hdeep : ¬ ty.Within (some l) 0 := by
      rw [Ty.within_zero_iff]
      exact fun h => absurd (h l rfl) (Nat.not_le.mpr hdepth)
    obtain ⟨e, he⟩ := Ty.exists_program_error a fun h => hdeep h.2
    cases Ty.hasCause_of_program he with
    | unsupported hname =>
      rw [Ty.names_eq_nil_iff.mpr hresolved] at hname
      cases hname
    | tooDeep hl _ =>
      cases hl
      exact he
  · intro hnames hdepth
    have hfails : ∃ e, ty.program limit a = .error e :=
      Ty.exists_program_error a fun h => hnames h.1
    obtain ⟨e, he⟩ := hfails
    constructor
    · cases Ty.hasCause_of_program he with
      | unsupported hname => exact ⟨_, hname, he⟩
      | tooDeep _ hdeep => exact absurd (Ty.within_zero_iff.mpr hdepth) hdeep
    · rw [← Ty.unresolved?_eq_none_iff, ← ne_eq, Option.ne_none_iff_exists'] at hnames
      obtain ⟨name, hname⟩ := hnames
      rw [Ty.head?_names]
      exact ⟨name, hname, Ty.validate_of_unresolved hdepth hname⟩

/-- Three containers where one is allowed, and two bare names of which synthesis meets the
second one first. -/
theorem deep_map_and_two_names_reported :
    let deep : Ty := .map (.scalar .string) (.seq .list (.seq .set (.struct "Point")))
    let aliased : Ty := .map (.seq .list (.named "Key")) (.named "Row")
    (deep.program (some 1) (.var "xs") = .error (.nestingTooDeep 2 1) ∧
      deep.validate (some 1) = .error (.nestingTooDeep 3 1)) ∧
    (aliased.program none (.var "xs") = .error (.unsupportedType "Row") ∧
      "Row" ∈ aliased.names) ∧
    (∃ name ∈ aliased.names, aliased.program (some 2) (.var "xs") =
      .error (.unsupportedType name)) ∧
    aliased.validate (some 2) = .error (.unresolved "Key") := by
  intro deep aliased
  obtain ⟨-, hdeep, -⟩ := program_failure_names_cause deep (.var "xs") (some 1)
  obtain ⟨hcause, -, -⟩ := program_failure_names_cause aliased (.var "xs") none
  obtain ⟨-, -, hnames⟩ := program_failure_names_cause aliased (.var "xs") (some 2)
  have hrow : aliased.program none (.var "xs") = .error (.unsupportedType "Row") := rfl
  have hunresolved : ¬ aliased.Resolved := by decide
  have hwithin : ∀ l, some 2 = some l → aliased.depth ≤ l := by
    rintro l hl
    cases hl
    decide
  obtain ⟨hprogram, name, hname, hvalidate⟩ := hnames hunresolved hwithin
  cases hname
  refine ⟨hdeep 1 rfl (by decide) (by decide), ⟨hrow, ?_⟩, hprogram, hvalidate⟩
  rcases hcause _ hrow with ⟨name, hmem, heq⟩ | ⟨l, hl, -⟩
  · cases heq
    exact hmem
  · cases hl

end WireScribe

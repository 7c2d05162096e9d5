import WireScribe.Proofs.Synthesis

/-!
# WireScribe.Proofs.NestingLimit — the limit on nesting, seen from both sides

Validation measures the nesting of a whole type and then looks for unresolved
names. Synthesis counts the containers on its way down and meets an unresolved name
wherever it asks for a tag. Both succeed on the same types.

1. **Room**: `Ty.Within` says that a type inside `depth` containers stays within a
   limit, and splits over the parts of a container as synthesis does.
2. **Validation and synthesis**: either succeeds exactly on the resolved types
   within the limit.
3. **The guard**: a limit decides whether there is a program, and not which.
-/

namespace WireScribe

/-! ## Room -/

theorem checkDepth_eq_ok_iff {limit : Option Nat} {depth : Nat} :
    checkDepth limit depth = .ok () ↔ ∀ l ∈ limit, depth + 1 ≤ l := by
  cases limit with
  | none => simp [checkDepth]
  | some l =>
    rw [checkDepth]
    split
    · rename_i hlt
      constructor
      · exact fun h => nomatch h
      · intro h
        have hle := h l rfl
        omega
    · rename_i hle
      constructor
      · intro _ k hk
        cases hk
        omega
      · exact fun _ => rfl

namespace Ty

/-- The type stays within the limit when `depth` containers enclose it. A type that
is no container adds nothing to them, so it has room everywhere. -/
def Within (limit : Option Nat) (depth : Nat) (ty : Ty) : Prop :=
  ∀ l ∈ limit, ty.depth = 0 ∨ depth + ty.depth ≤ l

theorem within_of_depth_eq_zero {ty : Ty} (h : ty.depth = 0) (limit : Option Nat)
    (depth : Nat) : ty.Within limit depth :=
  fun _ _ => .inl h

/-- At the outermost level the depth of the type is all that counts. -/
theorem within_zero_iff {limit : Option Nat} {ty : Ty} :
    ty.Within limit 0 ↔ ∀ l ∈ limit, ty.depth ≤ l := by
  refine forall₂_congr fun l _ => ?_
  omega

/-- A list or set has room if its own level has, and its elements have one level
further down. -/
theorem within_seq_iff {limit : Option Nat} {depth : Nat} {kind : SeqKind} {elem : Ty} :
    (seq kind elem).Within limit depth ↔
      (∀ l ∈ limit, depth + 1 ≤ l) ∧ elem.Within limit (depth + 1) := by
  cases limit with
  | none => simp [Within]
  | some l =>
    simp only [Within, Option.mem_some_iff, forall_eq', Ty.depth]
    omega

/-- For a map the deeper of the two parts decides. -/
theorem within_map_iff {limit : Option Nat} {depth : Nat} {key value : Ty} :
    (map key value).Within limit depth ↔
      (∀ l ∈ limit, depth + 1 ≤ l) ∧ key.Within limit (depth + 1) ∧
        value.Within limit (depth + 1) := by
  cases limit with
  | none => simp [Within]
  | some l =>
    simp only [Within, Option.mem_some_iff, forall_eq', Ty.depth]
    omega

/-! ## Validation and synthesis -/

theorem unresolved?_eq_none_iff {ty : Ty} : ty.unresolved? = none ↔ ty.Resolved := by
  induction ty with
  | scalar s => simp [unresolved?, Resolved]
  | seq kind elem ih => simpa [unresolved?, Resolved] using ih
  | map key value ihk ihv => simp [unresolved?, Resolved, ihk, ihv]
  | struct name => simp [unresolved?, Resolved]
  | named name => simp [unresolved?, Resolved]

theorem validate_of_lt_depth {ty : Ty} {l : Nat} (h : l < ty.depth) :
    ty.validate (some l) = .error (.nestingTooDeep ty.depth l) := by
  rw [validate, if_pos h]
  rfl

theorem validate_eq_ok_iff {limit : Option Nat} {ty : Ty} :
    ty.validate limit = .ok () ↔ ty.Resolved ∧ ty.Within limit 0 := by
  rw [within_zero_iff, ← unresolved?_eq_none_iff]
  cases limit with
  | none => cases hname : ty.unresolved? <;> simp [validate, hname, pure, Except.pure]
  | some l =>
    -- the depth is looked at before the names, and either alone fails the type
    by_cases hdepth : l < ty.depth
    · simp [validate_of_lt_depth hdepth, hdepth]
    · have hle : ty.depth ≤ l := Nat.le_of_not_lt hdepth
      cases hname : ty.unresolved? <;>
        simp [validate, hname, hdepth, hle, pure, Except.pure]

/-- Inside `depth` containers there is a program exactly for a resolved type that
has room there. -/
theorem exists_programAt_iff {limit : Option Nat} {ty : Ty} {a : Access} {depth : Nat} :
    (∃ p, ty.programAt limit a depth = .ok p) ↔ ty.Resolved ∧ ty.Within limit depth := by
  induction ty generalizing a depth with
  | scalar s => exact iff_of_true ⟨_, rfl⟩ ⟨trivial, within_of_depth_eq_zero rfl _ _⟩
  | seq kind elem ih =>
    rw [within_seq_iff, ← checkDepth_eq_ok_iff]
    constructor
    · rintro ⟨p, hp⟩
      obtain ⟨hroom, wire, body, -, hbody, -⟩ := programAt_seq_eq_ok_iff.mp hp
      obtain ⟨hresolved, hwithin⟩ := ih.mp ⟨body, hbody⟩
      exact ⟨hresolved, hroom, hwithin⟩
    · rintro ⟨hresolved, hroom, hwithin⟩
      obtain ⟨body, hbody⟩ := ih.mpr ⟨hresolved, hwithin⟩
      -- a resolved element also has the tag that the opening marker asks for
      exact ⟨_, programAt_seq_eq_ok_iff.mpr
        ⟨hroom, _, body, wireType_of_resolved hresolved, hbody, rfl⟩⟩
  | map key value ihk ihv =>
    rw [within_map_iff, ← checkDepth_eq_ok_iff]
    constructor
    · rintro ⟨p, hp⟩
      obtain ⟨hroom, _, _, keyBody, valueBody, -, -, hkb, hvb, -⟩ :=
        programAt_map_eq_ok_iff.mp hp
      obtain ⟨hkey, hkeyWithin⟩ := ihk.mp ⟨keyBody, hkb⟩
      obtain ⟨hvalue, hvalueWithin⟩ := ihv.mp ⟨valueBody, hvb⟩
      exact ⟨⟨hkey, hvalue⟩, hroom, hkeyWithin, hvalueWithin⟩
    · rintro ⟨⟨hkey, hvalue⟩, hroom, hkeyWithin, hvalueWithin⟩
      obtain ⟨keyBody, hkb⟩ := ihk.mpr ⟨hkey, hkeyWithin⟩
      obtain ⟨valueBody, hvb⟩ := ihv.mpr ⟨hvalue, hvalueWithin⟩
      exact ⟨_, programAt_map_eq_ok_iff.mpr
        ⟨hroom, _, _, keyBody, valueBody, wireType_of_resolved hkey,
          wireType_of_resolved hvalue, hkb, hvb, rfl⟩⟩
  | struct name => exact iff_of_true ⟨_, rfl⟩ ⟨trivial, within_of_depth_eq_zero rfl _ _⟩
  | named name =>
    refine iff_of_false ?_ fun h => h.1
    rintro ⟨p, hp⟩
    cases hp

/-! ## The guard -/

/-- A program found under a limit is the one found without it. -/
theorem programAt_none_of_programAt {limit : Option Nat} {ty : Ty} {a : Access} {depth : Nat}
    {p : Program} (hp : ty.programAt limit a depth = .ok p) :
    ty.programAt none a depth = .ok p := by
  induction ty generalizing a depth p with
  | scalar s => exact hp
  | seq kind elem ih =>
    obtain ⟨-, wire, body, hwire, hbody, rfl⟩ := programAt_seq_eq_ok_iff.mp hp
    exact programAt_seq_eq_ok_iff.mpr ⟨rfl, wire, body, hwire, ih hbody, rfl⟩
  | map key value ihk ihv =>
    obtain ⟨-, kw, vw, keyBody, valueBody, hkw, hvw, hkb, hvb, rfl⟩ :=
      programAt_map_eq_ok_iff.mp hp
    exact programAt_map_eq_ok_iff.mpr
      ⟨rfl, kw, vw, keyBody, valueBody, hkw, hvw, ihk hkb, ihv hvb, rfl⟩
  | struct name => exact hp
  | named name => cases hp

end Ty

/-- Under any limit, or none, a type has a program exactly if it passes validation
with that limit, and the program is then the one that it has without a limit. -/
theorem program_exists_iff_validate (ty : Ty) (a : Access) (limit : Option Nat) :
    ((∃ p, ty.program limit a = .ok p) ↔ ty.validate limit = .ok ()) ∧
      ∀ p, ty.program limit a = .ok p → ty.program none a = .ok p :=
  ⟨Ty.exists_programAt_iff.trans Ty.validate_eq_ok_iff.symm,
    fun _ hp => Ty.programAt_none_of_programAt hp⟩

/-- Three containers inside one another, the deepest below the value of a map: a
limit of three lets the program through as it is, and a limit of two stops it. -/
theorem program_at_the_limit :
    let ty : Ty := .map (.seq .set (.scalar .i8)) (.seq .list (.seq .set (.struct "Point")))
    (∃ p, ty.program (some 3) (.var "xs") = .ok p ∧ ty.program none (.var "xs") = .ok p) ∧
      ¬ ∃ p, ty.program (some 2) (.var "xs") = .ok p := by
  intro ty
  obtain ⟨hiff, hsame⟩ := program_exists_iff_validate ty (.var "xs") (some 3)
  obtain ⟨p, hp⟩ := hiff.mpr rfl
  refine ⟨⟨p, hp, hsame p hp⟩, fun h => ?_⟩
  have hvalid := (program_exists_iff_validate ty (.var "xs") (some 2)).1.mp h
  cases hvalid

end WireScribe

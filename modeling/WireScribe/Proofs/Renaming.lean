import WireScribe.Proofs.NestingLimit

/-!
# WireScribe.Proofs.Renaming — the body of a loop as a program of its own

The program of a container holds in its loop what writes one element. That is the
program which the type of the elements has by itself, under other names: a loop name
stands for the variable, and every loop in it is one loop further in.

1. **Renamings**: what a change of variables and loop names does to a program.
2. **Renamed programs**: synthesis commutes with a renaming that keeps the order of the
   loops.
3. **Bodies**: the two renamings, one after the other, that lead from the program of an
   element to the body of a loop.
-/

namespace WireScribe

/-! ## Renamings -/

/-- A change of names: the path that a variable becomes, and the name that a loop name
becomes. Fields keep their names. -/
structure Renaming where
  ofVar : String → Access
  ofBinding : Binding → Binding

def Access.rename (ρ : Renaming) : Access → Access
  | var name => ρ.ofVar name
  | field base name => field (base.rename ρ) name
  | bound b => bound (ρ.ofBinding b)

def Argument.rename (ρ : Renaming) : Argument → Argument
  | value a => value (a.rename ρ)
  | wire w => wire w
  | size target kind => size (target.rename ρ) kind

def Binder.rename (ρ : Renaming) : Binder → Binder
  | elements b => elements (ρ.ofBinding b)
  | entries key value => entries (ρ.ofBinding key) (ρ.ofBinding value)

mutual

/-- The instruction under other names, both those that it reads and those that it binds. -/
def Instr.rename (ρ : Renaming) : Instr → Instr
  | .invoke m args => .invoke m (args.map (Argument.rename ρ))
  | .loop target binder body =>
    .loop (target.rename ρ) (binder.rename ρ) (renameAll ρ body)
  | .delegate target => .delegate (target.rename ρ)

/-- A program under other names. -/
def renameAll (ρ : Renaming) : List Instr → List Instr
  | [] => []
  | i :: rest => i.rename ρ :: renameAll ρ rest

end

theorem renameAll_append (ρ : Renaming) (p q : List Instr) :
    renameAll ρ (p ++ q) = renameAll ρ p ++ renameAll ρ q := by
  induction p with
  | nil => simp [renameAll]
  | cons i rest ih => simp [renameAll, ih]

namespace Renaming

/-- Every loop name becomes that of a loop one further in. -/
def deeper : Renaming where
  ofVar := .var
  ofBinding b := ⟨b.role, b.depth + 1⟩

/-- The variable `x` becomes the loop name `b`. -/
def replace (x : String) (b : Binding) : Renaming where
  ofVar y := if y = x then .bound b else .var y
  ofBinding c := c

/-- The loop names from `depth` on become those from `depth'` on, in their order. -/
def Carries (ρ : Renaming) (depth depth' : Nat) : Prop :=
  ∀ role k, ρ.ofBinding ⟨role, depth + k⟩ = ⟨role, depth' + k⟩

namespace Carries

variable {ρ : Renaming} {depth depth' : Nat} (h : ρ.Carries depth depth')

include h

theorem ofBinding_eq (role : Role) : ρ.ofBinding ⟨role, depth⟩ = ⟨role, depth'⟩ := h role 0

theorem succ : ρ.Carries (depth + 1) (depth' + 1) := by
  intro role k
  have hk := h role (1 + k)
  rwa [← Nat.add_assoc, ← Nat.add_assoc] at hk

end Carries

theorem deeper_carries (depth : Nat) : deeper.Carries depth (depth + 1) := by
  intro role k
  rw [deeper, Nat.add_right_comm]

theorem replace_carries (x : String) (b : Binding) (depth : Nat) :
    (replace x b).Carries depth depth := by
  intro role k
  rfl

end Renaming

/-! ## Renamed programs -/

theorem Access.rename_bound {ρ : Renaming} {depth depth' : Nat} (hρ : ρ.Carries depth depth')
    (role : Role) : (Access.bound ⟨role, depth⟩).rename ρ = .bound ⟨role, depth'⟩ := by
  rw [Access.rename, hρ.ofBinding_eq]

namespace Ty

variable {ρ : Renaming} {depth depth' : Nat} {a : Access}

theorem renameAll_seqProgram (hρ : ρ.Carries depth depth') (kind : SeqKind) (wire : WireType)
    (body : Program) :
    renameAll ρ (seqProgram kind wire a depth body) =
      seqProgram kind wire (a.rename ρ) depth' (renameAll ρ body) := by
  simp [seqProgram, renameAll, Instr.rename, Argument.rename, Binder.rename, hρ.ofBinding_eq]

theorem renameAll_mapProgram (hρ : ρ.Carries depth depth') (keyWire valueWire : WireType)
    (body : Program) :
    renameAll ρ (mapProgram keyWire valueWire a depth body) =
      mapProgram keyWire valueWire (a.rename ρ) depth' (renameAll ρ body) := by
  simp [mapProgram, renameAll, Instr.rename, Argument.rename, Binder.rename, hρ.ofBinding_eq]

/-- A renamed program is the program for the renamed path, at the depth to which the
renaming carries its loops. -/
theorem programAt_rename {ty : Ty} {p : Program} (hρ : ρ.Carries depth depth')
    (hp : ty.programAt none a depth = .ok p) :
    ty.programAt none (a.rename ρ) depth' = .ok (renameAll ρ p) := by
  induction ty generalizing a depth depth' p with
  | scalar s =>
    cases hp
    rfl
  | seq kind elem ih =>
    obtain ⟨-, wire, body, hwire, hbody, rfl⟩ := programAt_seq_eq_ok_iff.mp hp
    have hinner := ih hρ.succ hbody
    rw [Access.rename_bound hρ] at hinner
    rw [renameAll_seqProgram hρ]
    exact programAt_seq_eq_ok_iff.mpr ⟨rfl, wire, _, hwire, hinner, rfl⟩
  | map key value ihk ihv =>
    obtain ⟨-, kw, vw, keyBody, valueBody, hkw, hvw, hkb, hvb, rfl⟩ :=
      programAt_map_eq_ok_iff.mp hp
    have hkey := ihk hρ.succ hkb
    have hvalue := ihv hρ.succ hvb
    rw [Access.rename_bound hρ] at hkey hvalue
    rw [renameAll_mapProgram hρ, renameAll_append]
    exact programAt_map_eq_ok_iff.mpr ⟨rfl, kw, vw, _, _, hkw, hvw, hkey, hvalue, rfl⟩
  | struct name =>
    cases hp
    rfl
  | named name => cases hp

theorem resolved_of_programAt {limit : Option Nat} {ty : Ty} {p : Program}
    (hp : ty.programAt limit a depth = .ok p) : ty.Resolved :=
  (exists_programAt_iff.mp ⟨p, hp⟩).1

end Ty

/-! ## Bodies -/

/-- What a program for the variable `x` is inside a loop that binds `b` for it: first all
its loop names move one loop further in, then `b` takes the place of `x`. -/
def underLoop (x : String) (b : Binding) (p : Program) : Program :=
  renameAll (.replace x b) (renameAll .deeper p)

/-- The part of an outermost loop that deals with one of its names is the program of a
variable, moved under the loop. -/
theorem Ty.programAt_bound_eq_ok_iff (x : String) (role : Role) {ty : Ty} {p : Program} :
    ty.programAt none (.bound ⟨role, 0⟩) 1 = .ok p ↔
      ∃ q, ty.program none (.var x) = .ok q ∧ p = underLoop x ⟨role, 0⟩ q := by
  have hunder : ∀ q, ty.program none (.var x) = .ok q →
      ty.programAt none (.bound ⟨role, 0⟩) 1 = .ok (underLoop x ⟨role, 0⟩ q) := by
    intro q hq
    have hdeeper := programAt_rename (Renaming.deeper_carries 0) hq
    have hreplaced := programAt_rename (Renaming.replace_carries x ⟨role, 0⟩ 1) hdeeper
    have hpath : ((Access.var x).rename .deeper).rename (.replace x ⟨role, 0⟩) =
        .bound ⟨role, 0⟩ := if_pos rfl
    rw [hpath] at hreplaced
    exact hreplaced
  constructor
  · intro hp
    -- the type is resolved, so it has a program for the variable as well
    obtain ⟨q, hq⟩ := exists_programAt (resolved_of_programAt hp) (.var x) 0
    have hsame := hunder q hq
    rw [hp] at hsame
    exact ⟨q, hq, Except.ok.inj hsame⟩
  · rintro ⟨q, hq, rfl⟩
    exact hunder q hq

/-- With no limit on nesting, and whatever variable is taken for the elements: a list or
set has a program exactly if its element type has one for the variable, and a map exactly
if its key type and its value type have. The body of the loop is then the program of the
elements under the loop, and for a map that of the keys followed by that of the values. -/
theorem loop_body_is_program_under_loop (kind : SeqKind) (elem key value : Ty) (a : Access)
    (x : String) :
    (∀ p, (Ty.seq kind elem).program none a = .ok p ↔
      ∃ q, elem.program none (.var x) = .ok q ∧
        p = Ty.seqProgram kind elem.announced a 0 (underLoop x ⟨.element, 0⟩ q)) ∧
    (∀ p, (Ty.map key value).program none a = .ok p ↔
      ∃ q r, key.program none (.var x) = .ok q ∧ value.program none (.var x) = .ok r ∧
        p = Ty.mapProgram key.announced value.announced a 0
          (underLoop x ⟨.key, 0⟩ q ++ underLoop x ⟨.value, 0⟩ r)) := by
  constructor
  · intro p
    rw [Ty.program, Ty.programAt_seq_eq_ok_iff]
    constructor
    · rintro ⟨-, wire, body, hwire, hbody, rfl⟩
      obtain ⟨q, hq, rfl⟩ := (Ty.programAt_bound_eq_ok_iff x .element).mp hbody
      rw [Ty.announced_of_wireType hwire]
      exact ⟨q, hq, rfl⟩
    · rintro ⟨q, hq, rfl⟩
      have hbody := (Ty.programAt_bound_eq_ok_iff x .element).mpr ⟨q, hq, rfl⟩
      have hwire := Ty.wireType_of_resolved (Ty.resolved_of_programAt hq)
      exact ⟨rfl, _, _, hwire, hbody, rfl⟩
  · intro p
    rw [Ty.program, Ty.programAt_map_eq_ok_iff]
    constructor
    · rintro ⟨-, kw, vw, keyBody, valueBody, hkw, hvw, hkb, hvb, rfl⟩
      obtain ⟨q, hq, rfl⟩ := (Ty.programAt_bound_eq_ok_iff x .key).mp hkb
      obtain ⟨r, hr, rfl⟩ := (Ty.programAt_bound_eq_ok_iff x .value).mp hvb
      rw [Ty.announced_of_wireType hkw, Ty.announced_of_wireType hvw]
      exact ⟨q, r, hq, hr, rfl⟩
    · rintro ⟨q, r, hq, hr, rfl⟩
      have hkb := (Ty.programAt_bound_eq_ok_iff x .key).mpr ⟨q, hq, rfl⟩
      have hvb := (Ty.programAt_bound_eq_ok_iff x .value).mpr ⟨r, hr, rfl⟩
      have hkw := Ty.wireType_of_resolved (Ty.resolved_of_programAt hq)
      have hvw := Ty.wireType_of_resolved (Ty.resolved_of_programAt hr)
      exact ⟨rfl, _, _, _, _, hkw, hvw, hkb, hvb, rfl⟩

end WireScribe

import WireScribe.Synthesis

/-!
# WireScribe.Proofs.Synthesis — the programs of a type

1. **Resolved types**: a type with no bare name in it has a tag at every node.
2. **Shapes**: what a program of a container looks like, given the programs of
   its parts.
3. **Existence**: a resolved type has a program when nesting is not limited.
-/

namespace WireScribe

/-- A sequence of two computations succeeds when both do. -/
theorem except_bind_eq_ok_iff {ε α β : Type} {x : Except ε α} {f : α → Except ε β} {b : β} :
    x >>= f = .ok b ↔ ∃ a, x = .ok a ∧ f a = .ok b := by
  cases x <;> simp [bind, Except.bind]

/-- It fails when the first one does, or the second one on what the first one gives. -/
theorem except_bind_eq_error_iff {ε α β : Type} {x : Except ε α} {f : α → Except ε β} {e : ε} :
    x >>= f = .error e ↔ x = .error e ∨ ∃ a, x = .ok a ∧ f a = .error e := by
  cases x <;> simp [bind, Except.bind]

namespace Ty

/-! ## Resolved types -/

/-- No part of the type is a bare name. -/
def Resolved : Ty → Prop
  | scalar _ => True
  | seq _ elem => elem.Resolved
  | map key value => key.Resolved ∧ value.Resolved
  | struct _ => True
  | named _ => False

instance decidableResolved : (ty : Ty) → Decidable ty.Resolved
  | scalar _ => inferInstanceAs (Decidable True)
  | seq _ elem => decidableResolved elem
  | map key value =>
    have := decidableResolved key
    have := decidableResolved value
    inferInstanceAs (Decidable (_ ∧ _))
  | struct _ => inferInstanceAs (Decidable True)
  | named _ => inferInstanceAs (Decidable False)

/-- The tag that announces values of the type. A bare name has no values that
could be announced, and `void` stands in for its tag. -/
def announced (ty : Ty) : WireType :=
  match ty.wireType with
  | .ok w => w
  | .error _ => .void

theorem announced_of_wireType {ty : Ty} {w : WireType} (h : ty.wireType = .ok w) :
    ty.announced = w := by
  rw [announced, h]

theorem wireType_of_resolved {ty : Ty} (h : ty.Resolved) : ty.wireType = .ok ty.announced := by
  cases ty with
  | named name => exact h.elim
  | _ => rfl

/-! ## Shapes -/

theorem elementWireType_eq_ok_iff {ty : Ty} {w : WireType} :
    ty.elementWireType = .ok w ↔ ty.wireType = .ok w := by
  cases ty <;> simp [elementWireType, wireType]

/-- The program around the body of a loop over elements. -/
def seqProgram (kind : SeqKind) (wire : WireType) (a : Access) (depth : Nat) (body : Program) :
    Program :=
  [.invoke (.seqBegin kind) [.wire wire, .size a kind.sizeKind],
    .loop a (.elements ⟨.element, depth⟩) body,
    .invoke (.seqEnd kind) []]

/-- The program around the body of a loop over entries. -/
def mapProgram (keyWire valueWire : WireType) (a : Access) (depth : Nat) (body : Program) :
    Program :=
  [.invoke .mapBegin [.wire keyWire, .wire valueWire, .size a .size],
    .loop a (.entries ⟨.key, depth⟩ ⟨.value, depth⟩) body,
    .invoke .mapEnd []]

theorem programAt_seq_eq_ok_iff {limit : Option Nat} {kind : SeqKind} {elem : Ty} {a : Access}
    {depth : Nat} {p : Program} :
    (seq kind elem).programAt limit a depth = .ok p ↔
      checkDepth limit depth = .ok () ∧ ∃ wire body, elem.wireType = .ok wire ∧
        elem.programAt limit (.bound ⟨.element, depth⟩) (depth + 1) = .ok body ∧
        p = seqProgram kind wire a depth body := by
  simp only [programAt, except_bind_eq_ok_iff, elementWireType_eq_ok_iff, pure, Except.pure,
    Except.ok.injEq, seqProgram]
  grind

theorem programAt_map_eq_ok_iff {limit : Option Nat} {key value : Ty} {a : Access}
    {depth : Nat} {p : Program} :
    (map key value).programAt limit a depth = .ok p ↔
      checkDepth limit depth = .ok () ∧ ∃ keyWire valueWire keyBody valueBody,
        key.wireType = .ok keyWire ∧ value.wireType = .ok valueWire ∧
        key.programAt limit (.bound ⟨.key, depth⟩) (depth + 1) = .ok keyBody ∧
        value.programAt limit (.bound ⟨.value, depth⟩) (depth + 1) = .ok valueBody ∧
        p = mapProgram keyWire valueWire a depth (keyBody ++ valueBody) := by
  simp only [programAt, except_bind_eq_ok_iff, elementWireType_eq_ok_iff, pure, Except.pure,
    Except.ok.injEq, mapProgram]
  grind

/-! ## Existence -/

/-- A resolved type has a program at every path and depth. -/
theorem exists_programAt {ty : Ty} (h : ty.Resolved) (a : Access) (depth : Nat) :
    ∃ p, ty.programAt none a depth = .ok p := by
  induction ty generalizing a depth with
  | scalar s => exact ⟨_, rfl⟩
  | seq kind elem ih =>
    obtain ⟨body, hbody⟩ := ih h (.bound ⟨.element, depth⟩) (depth + 1)
    exact ⟨_, programAt_seq_eq_ok_iff.mpr
      ⟨rfl, _, body, wireType_of_resolved h, hbody, rfl⟩⟩
  | map key value ihk ihv =>
    obtain ⟨keyBody, hkb⟩ := ihk h.1 (.bound ⟨.key, depth⟩) (depth + 1)
    obtain ⟨valueBody, hvb⟩ := ihv h.2 (.bound ⟨.value, depth⟩) (depth + 1)
    exact ⟨_, programAt_map_eq_ok_iff.mpr
      ⟨rfl, _, _, keyBody, valueBody, wireType_of_resolved h.1, wireType_of_resolved h.2,
        hkb, hvb, rfl⟩⟩
  | struct name => exact ⟨_, rfl⟩
  | named name => exact h.elim

end Ty

end WireScribe

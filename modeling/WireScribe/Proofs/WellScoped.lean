import WireScribe.Proofs.Loop
import WireScribe.Proofs.ReservedNames

/-!
# WireScribe.Proofs.WellScoped — the names in the program of a type

1. **Places**: `Inside` says which loops an instruction of a program stands in.
2. **Loop names by depth**: a loop that `depth` others enclose binds names of that depth.
3. **Instructions of a type**: one lemma says what an instruction in the program of a type
   can be. The body of a loop again holds instructions of types, one loop deeper.
4. **Scoping**: what follows from this for every place of a program, by going down from
   loop to loop.
-/

namespace WireScribe

/-! ## Places -/

/-- The path that an argument goes by. -/
def Argument.path? : Argument → Option Access
  | value a => some a
  | wire _ => none
  | size target _ => some target

namespace Instr

/-- The paths that an instruction reads: values, containers whose size it takes, and what
it loops over or delegates to. -/
def reads : Instr → List Access
  | invoke _ args => args.filterMap Argument.path?
  | loop target _ _ => [target]
  | delegate target => [target]

/-- The names that an instruction binds. -/
def binds : Instr → List Binding
  | loop _ binder _ => binder.names
  | _ => []

end Instr

/-- The instruction stands somewhere in the program, in the bodies of the given loops and
of no others. The innermost loop comes first. -/
inductive Inside (p : Program) : List Binder → Instr → Prop where
  | top {i : Instr} (hi : i ∈ p) : Inside p [] i
  | body {around : List Binder} {target : Access} {binder : Binder} {body : Program} {i : Instr}
      (hloop : Inside p around (.loop target binder body)) (hi : i ∈ body) :
    Inside p (binder :: around) i

/-! ## Loop names by depth -/

/-- The binder is that of a loop which `depth` others enclose. -/
def Binder.OfDepth (depth : Nat) (binder : Binder) : Prop :=
  binder = .elements ⟨.element, depth⟩ ∨ binder = .entries ⟨.key, depth⟩ ⟨.value, depth⟩

namespace Binder.OfDepth

variable {depth : Nat} {binder : Binder} (h : binder.OfDepth depth)

include h

theorem depth_eq {b : Binding} (hb : b ∈ binder.names) : b.depth = depth := by
  rcases h with rfl | rfl
  · simp only [names, List.mem_singleton] at hb
    rw [hb]
  · simp only [names, List.mem_cons, List.not_mem_nil, or_false] at hb
    rcases hb with rfl | rfl <;> rfl

theorem nodup : binder.names.Nodup := by
  rcases h with rfl | rfl <;> simp [names]

end Binder.OfDepth

/-! ## Instructions of a type -/

/-- The instruction belongs to the program that some type has at the path `a`, inside
`depth` loops. -/
def OfType (limit : Option Nat) (a : Access) (depth : Nat) (i : Instr) : Prop :=
  ∃ (ty : Ty) (p : Program), ty.programAt limit a depth = .ok p ∧ i ∈ p

namespace OfType

variable {limit : Option Nat} {a : Access} {depth : Nat}

/-- What an instruction of a type can be: one that reads the path and nothing else, and if
it is a loop, then one with the names of its depth around instructions of types for these
names. -/
theorem cases {i : Instr} (h : OfType limit a depth i) :
    (∀ x ∈ i.reads, x = a) ∧
    ∀ target binder body, i = .loop target binder body → binder.OfDepth depth ∧
      ∀ j ∈ body, ∃ b ∈ binder.names, OfType limit (.bound b) (depth + 1) j := by
  obtain ⟨ty, p, hp, hi⟩ := h
  cases ty with
  | scalar s =>
    cases hp
    rw [List.mem_singleton.mp hi]
    exact ⟨by simp [Instr.reads, Argument.path?], by simp⟩
  | seq kind elem =>
    obtain ⟨-, wire, body, -, hbody, rfl⟩ := Ty.programAt_seq_eq_ok_iff.mp hp
    simp only [Ty.seqProgram, List.mem_cons, List.not_mem_nil, or_false] at hi
    rcases hi with rfl | rfl | rfl
    · exact ⟨by simp [Instr.reads, Argument.path?], by simp⟩
    · refine ⟨by simp [Instr.reads], ?_⟩
      intro target binder body' h
      cases h
      refine ⟨.inl rfl, fun j hj => ?_⟩
      exact ⟨⟨.element, depth⟩, List.mem_cons_self, elem, body, hbody, hj⟩
    · exact ⟨by simp [Instr.reads], by simp⟩
  | map key value =>
    obtain ⟨-, kw, vw, keyBody, valueBody, -, -, hkb, hvb, rfl⟩ :=
      Ty.programAt_map_eq_ok_iff.mp hp
    simp only [Ty.mapProgram, List.mem_cons, List.not_mem_nil, or_false] at hi
    rcases hi with rfl | rfl | rfl
    · exact ⟨by simp [Instr.reads, Argument.path?], by simp⟩
    · refine ⟨by simp [Instr.reads], ?_⟩
      intro target binder body' h
      cases h
      refine ⟨.inr rfl, fun j hj => ?_⟩
      -- the parts for the key and for the value keep to one name each
      rcases List.mem_append.mp hj with hkey | hvalue
      · exact ⟨⟨.key, depth⟩, List.mem_cons_self, key, keyBody, hkb, hkey⟩
      · exact ⟨⟨.value, depth⟩, List.mem_cons_of_mem _ List.mem_cons_self, value, valueBody, hvb,
          hvalue⟩
    · exact ⟨by simp [Instr.reads], by simp⟩
  | struct name =>
    cases hp
    rw [List.mem_singleton.mp hi]
    exact ⟨by simp [Instr.reads], by simp⟩
  | named name => cases hp

theorem reads_eq {i : Instr} (h : OfType limit a depth i) {x : Access} (hx : x ∈ i.reads) :
    x = a :=
  h.cases.1 x hx

theorem binder_ofDepth {target : Access} {binder : Binder} {body : Program}
    (h : OfType limit a depth (.loop target binder body)) : binder.OfDepth depth :=
  (h.cases.2 target binder body rfl).1

theorem of_mem_body {target : Access} {binder : Binder} {body : Program}
    (h : OfType limit a depth (.loop target binder body)) {j : Instr} (hj : j ∈ body) :
    ∃ b ∈ binder.names, OfType limit (.bound b) (depth + 1) j :=
  (h.cases.2 target binder body rfl).2 j hj

end OfType

/-! ## Scoping -/

/-- What a program for the path `a` may read inside the given loops: the path itself outside
all loops, and a name of the innermost loop inside. -/
def Readable (a : Access) : List Binder → Access → Prop
  | [], x => x = a
  | binder :: _, x => ∃ b ∈ binder.names, x = .bound b

namespace Inside

variable {limit : Option Nat} {ty : Ty} {a : Access} {p : Program}
  (hp : ty.program limit a = .ok p) {around : List Binder} {i : Instr}

include hp

/-- At every place stands an instruction of some type, for a path that may be read there. -/
theorem ofType (hi : Inside p around i) :
    ∃ x, Readable a around x ∧ OfType limit x around.length i := by
  induction hi with
  | top hi => exact ⟨a, rfl, ty, p, hp, hi⟩
  | body _ hi ih =>
    obtain ⟨x, -, hloop⟩ := ih
    obtain ⟨b, hb, hj⟩ := hloop.of_mem_body hi
    exact ⟨.bound b, ⟨b, hb, rfl⟩, hj⟩

/-- The names that a loop adds to those of the loops around it are new. -/
theorem nodup_append_names {target : Access} {binder : Binder} {body : Program}
    (hi : Inside p around (.loop target binder body))
    (hlt : ∀ b ∈ around.flatMap Binder.names, b.depth < around.length)
    (hnodup : (around.flatMap Binder.names).Nodup) :
    (binder.names ++ around.flatMap Binder.names).Nodup := by
  obtain ⟨x, -, hloop⟩ := hi.ofType hp
  have hbinder := hloop.binder_ofDepth
  rw [List.nodup_append]
  refine ⟨hbinder.nodup, hnodup, ?_⟩
  rintro b hb c hc rfl
  have hdepth := hlt b hc
  rw [hbinder.depth_eq hb] at hdepth
  omega

/-- The loops around a place have names of fewer loops than there are, all different. -/
theorem names_around (hi : Inside p around i) :
    (∀ b ∈ around.flatMap Binder.names, b.depth < around.length) ∧
      (around.flatMap Binder.names).Nodup := by
  induction hi with
  | top _ => simp
  | @body around target binder body i hloop _ ih =>
    obtain ⟨hlt, hnodup⟩ := ih
    refine ⟨?_, hloop.nodup_append_names hp hlt hnodup⟩
    intro b hb
    obtain ⟨x, -, htype⟩ := hloop.ofType hp
    rw [List.flatMap_cons, List.mem_append] at hb
    rw [List.length_cons]
    rcases hb with hb | hb
    · rw [htype.binder_ofDepth.depth_eq hb]
      omega
    · have hdepth := hlt b hb
      omega

/-- No name occurs twice on the way down to an instruction, its own names included. -/
theorem nodup_names (hi : Inside p around i) :
    (i.binds ++ around.flatMap Binder.names).Nodup := by
  obtain ⟨hlt, hnodup⟩ := hi.names_around hp
  cases i with
  | invoke m args => exact hnodup
  | loop target binder body => exact hi.nodup_append_names hp hlt hnodup
  | delegate target => exact hnodup

end Inside

/-- At every place of the program of a type, whatever limit it was made under: a loop binds
names of the number of loops around it, one for elements or a key and a value for entries;
an instruction reads nothing but the given path outside all loops, and nothing but names of
the innermost loop inside; and the identifiers of all loops on the way to it, its own
included, differ from one another. -/
theorem program_well_scoped (limit : Option Nat) (ty : Ty) (a : Access) (p : Program)
    (hp : ty.program limit a = .ok p) (around : List Binder) (i : Instr)
    (hi : Inside p around i) :
    (∀ target binder body, i = .loop target binder body →
      binder = .elements ⟨.element, around.length⟩ ∨
      binder = .entries ⟨.key, around.length⟩ ⟨.value, around.length⟩) ∧
    (∀ x ∈ i.reads, Readable a around x) ∧
    ((i.binds ++ around.flatMap Binder.names).map Binding.ident).Nodup := by
  obtain ⟨x, hreadable, htype⟩ := hi.ofType hp
  refine ⟨?_, ?_, ?_⟩
  · rintro target binder body rfl
    exact htype.binder_ofDepth
  · intro y hy
    rw [htype.reads_eq hy]
    exact hreadable
  · have hnames := hi.nodup_names hp
    exact List.pairwise_map.mpr (hnames.imp fun hne heq => hne (Binding.ident_inj heq))

/-- A call inside three loops, the middle one over the entries of a map. -/
theorem innermost_call_well_scoped :
    let ty : Ty := .seq .set (.map (.scalar .string) (.seq .list (.scalar .i32)))
    let around : List Binder := [.elements ⟨.element, 2⟩, .entries ⟨.key, 1⟩ ⟨.value, 1⟩,
      .elements ⟨.element, 0⟩]
    let call : Instr := .invoke (.datum .i32) [.value (.bound ⟨.element, 2⟩)]
    ∃ p, ty.program (some 3) (.selfField "rows") = .ok p ∧ Inside p around call ∧
      (∀ x ∈ call.reads, Readable (.selfField "rows") around x) ∧
      ["__elem_2", "__key_1", "__value_1", "__elem_0"].Nodup := by
  intro ty around call
  have hinside : ∀ p, ty.program (some 3) (.selfField "rows") = .ok p → Inside p around call := by
    intro p hp
    cases hp
    apply Inside.body
    · apply Inside.body
      · apply Inside.body
        · exact .top (List.mem_cons_of_mem _ List.mem_cons_self)
        · exact List.mem_cons_of_mem _ List.mem_cons_self
      · exact List.mem_append_right _ (List.mem_cons_of_mem _ List.mem_cons_self)
    · exact List.mem_cons_self
  obtain ⟨-, hreads, hnames⟩ := program_well_scoped (some 3) ty (.selfField "rows") _ rfl around
    call (hinside _ rfl)
  exact ⟨_, rfl, hinside _ rfl, hreads, hnames⟩

end WireScribe

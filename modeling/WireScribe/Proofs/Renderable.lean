import WireScribe.Proofs.WellScoped

/-!
# WireScribe.Proofs.Renderable — which programs can be rendered

Rendering goes through the paths of a program in the order in which it writes them, and
through each path from its variable to its last field. It stops at the first name that
cannot stand in code. In the program of a type only the given path can hold such a name.

1. **Failures**: computations that fail alike, and the first failure in a list.
2. **Components**: a path fails at the first of its names that is not acceptable.
3. **Paths**: a program fails at the first of its paths that does.
4. **Programs of a type**: they fail as the path does that they are made for.
-/

namespace WireScribe

/-! ## Failures -/

section

variable {ε α β γ δ : Type}

/-- The two computations fail together and with the same error. -/
def FailsLike (x : Except ε α) (y : Except ε β) : Prop := ∀ e, x = .error e ↔ y = .error e

namespace FailsLike

variable {x : Except ε α} {y : Except ε β}

theorem refl (x : Except ε α) : FailsLike x x := fun _ => Iff.rfl

theorem ok (a : α) (b : β) : FailsLike (.ok a : Except ε α) (.ok b) := by
  intro e
  simp

theorem error (e : ε) : FailsLike (.error e : Except ε α) (.error e : Except ε β) := by
  intro e'
  simp

theorem symm (h : FailsLike x y) : FailsLike y x := fun e => (h e).symm

theorem trans {z : Except ε γ} (h : FailsLike x y) (h' : FailsLike y z) : FailsLike x z :=
  fun e => (h e).trans (h' e)

/-- Both succeed, or neither does. -/
theorem exists_ok_iff (h : FailsLike x y) : (∃ a, x = .ok a) ↔ ∃ b, y = .ok b := by
  cases x with
  | ok a =>
    cases y with
    | ok b => simp
    | error e => exact absurd ((h e).mpr rfl) (by simp)
  | error e =>
    rw [(h e).mp rfl]
    simp

theorem bind (h : FailsLike x y) {f : α → Except ε γ} {g : β → Except ε δ}
    (hfg : ∀ a b, FailsLike (f a) (g b)) : FailsLike (x >>= f) (y >>= g) := by
  cases x with
  | ok a =>
    obtain ⟨b, rfl⟩ := h.exists_ok_iff.mp ⟨a, rfl⟩
    exact hfg a b
  | error e =>
    rw [(h e).mp rfl]
    exact .error e

/-- What is made of a result does not matter. -/
theorem map_left (h : FailsLike x y) (f : α → γ) :
    FailsLike (x >>= fun a => pure (f a)) y := by
  intro e
  rw [← h e, except_bind_eq_error_iff]
  constructor
  · rintro (hx | ⟨a, -, hdone⟩)
    · exact hx
    · cases hdone
  · exact .inl

end FailsLike

/-- Going through the list with `f`, the first element that fails is `x`, with the error
`e`. -/
def FirstFailure (f : α → Except ε β) (xs : List α) (x : α) (e : ε) : Prop :=
  ∃ before after, xs = before ++ x :: after ∧ (∀ y ∈ before, ∃ b, f y = .ok b) ∧
    f x = .error e

theorem firstFailure_cons_iff {f : α → Except ε β} {y x : α} {xs : List α} {e : ε} :
    FirstFailure f (y :: xs) x e ↔
      (y = x ∧ f y = .error e) ∨ (∃ b, f y = .ok b) ∧ FirstFailure f xs x e := by
  constructor
  · rintro ⟨before, after, hsplit, hbefore, hx⟩
    cases before with
    | nil =>
      cases hsplit
      exact .inl ⟨rfl, hx⟩
    | cons z before =>
      cases hsplit
      rw [List.forall_mem_cons] at hbefore
      exact .inr ⟨hbefore.1, before, after, rfl, hbefore.2, hx⟩
  · rintro (⟨rfl, hy⟩ | ⟨hy, before, after, rfl, hbefore, hx⟩)
    · exact ⟨[], xs, rfl, List.forall_mem_nil _, hy⟩
    · exact ⟨y :: before, after, rfl, List.forall_mem_cons.mpr ⟨hy, hbefore⟩, hx⟩

/-- A list fails with the first of its elements that does. -/
theorem mapM_eq_error_iff {f : α → Except ε β} {xs : List α} {e : ε} :
    xs.mapM f = .error e ↔ ∃ x, FirstFailure f xs x e := by
  induction xs with
  | nil =>
    constructor
    · intro h
      cases h
    · rintro ⟨x, before, after, hsplit, -⟩
      cases before <;> cases hsplit
  | cons y xs ih =>
    rw [List.mapM_cons, except_bind_eq_error_iff]
    simp only [except_bind_eq_error_iff, firstFailure_cons_iff, ih]
    constructor
    · rintro (hy | ⟨b, hb, ⟨x, hx⟩ | ⟨bs, -, hdone⟩⟩)
      · exact ⟨y, .inl ⟨rfl, hy⟩⟩
      · exact ⟨x, .inr ⟨⟨b, hb⟩, hx⟩⟩
      · cases hdone
    · rintro ⟨x, ⟨rfl, hy⟩ | ⟨⟨b, hb⟩, hx⟩⟩
      · exact .inl hy
      · exact .inr ⟨b, hb, .inl ⟨x, hx⟩⟩

/-- A list succeeds if all its elements do. -/
theorem exists_mapM_eq_ok_iff {f : α → Except ε β} {xs : List α} :
    (∃ ys, xs.mapM f = .ok ys) ↔ ∀ x ∈ xs, ∃ y, f x = .ok y := by
  induction xs with
  | nil => exact iff_of_true ⟨[], rfl⟩ (List.forall_mem_nil _)
  | cons x xs ih =>
    rw [List.forall_mem_cons, ← ih, List.mapM_cons]
    simp only [except_bind_eq_ok_iff]
    constructor
    · rintro ⟨_, y, hy, ys, hys, -⟩
      exact ⟨⟨y, hy⟩, ys, hys⟩
    · rintro ⟨⟨y, hy⟩, ys, hys⟩
      exact ⟨_, y, hy, ys, hys, rfl⟩

/-- Two computations in a row fail like a list of two parts, if each does like its part. -/
theorem FailsLike.append {x : Except ε α} {y : Except ε β} {f : γ → Except ε δ}
    {xs ys : List γ} (hx : FailsLike x (xs.mapM f)) (hy : FailsLike y (ys.mapM f))
    {κ : Type} (g : α → β → κ) :
    FailsLike (do let a ← x; let b ← y; pure (g a b)) ((xs ++ ys).mapM f) := by
  rw [List.mapM_append]
  exact hx.bind fun a zs => hy.bind fun b ws => .ok _ _

theorem failsLike_mapM_singleton (f : α → Except ε β) (x : α) : FailsLike (f x) ([x].mapM f) := by
  rw [List.mapM_cons, List.mapM_nil]
  exact ((FailsLike.refl (f x)).map_left _).symm

end

/-! ## Components -/

/-- A name of a path, at the start or behind a dot. -/
inductive Component where
  | start (text : String)
  | member (text : String)
deriving Repr, DecidableEq

namespace Component

/-- The name as it is given. -/
def text : Component → String
  | start text => text
  | member text => text

/-- The identifier that stands for the name, if it is acceptable at its place: `self` may
start a path, and a name with two underscores in front may not. -/
def ident : Component → Except GenError Ident
  | start text => variableIdent text
  | member text => plainIdent text

end Component

theorem plainIdent_error {text : String} {e : GenError} (h : plainIdent text = .error e) :
    ∃ fault, e = .invalidIdentifier text fault := by
  rw [plainIdent] at h
  cases hi : Ident.ofText text with
  | ok i =>
    rw [hi] at h
    cases h
  | error fault =>
    rw [hi] at h
    cases h
    exact ⟨fault, rfl⟩

theorem variableIdent_error {text : String} {e : GenError} (h : variableIdent text = .error e) :
    ∃ fault, e = .invalidIdentifier text fault := by
  rw [variableIdent, unreservedIdent] at h
  split at h
  · cases h
  · split at h
    · cases h
      exact ⟨_, rfl⟩
    · exact plainIdent_error h

/-- A name that is not acceptable is the one that the error shows. -/
theorem Component.ident_error {c : Component} {e : GenError} (h : c.ident = .error e) :
    ∃ fault, e = .invalidIdentifier c.text fault := by
  cases c with
  | start text => exact variableIdent_error h
  | member text => exact plainIdent_error h

/-- The names of a path from left to right. A loop name is not given from outside. -/
def Access.components : Access → List Component
  | .var name => [.start name]
  | .field base name => base.components ++ [.member name]
  | .bound _ => []

theorem Access.code_failsLike (a : Access) :
    FailsLike a.code (a.components.mapM Component.ident) := by
  induction a with
  | var name => exact (failsLike_mapM_singleton Component.ident (.start name)).map_left _
  | field base name ih =>
    exact ih.append (failsLike_mapM_singleton Component.ident (.member name)) _
  | bound b => exact .ok _ _

/-! ## Paths -/

mutual

/-- The paths in an instruction, in the order in which rendering comes to them. -/
def Instr.paths : Instr → List Access
  | .invoke _ args => args.flatMap (·.path?.toList)
  | .loop target _ body => target :: pathsOf body
  | .delegate target => [target]

/-- The paths in a program. -/
def pathsOf : List Instr → List Access
  | [] => []
  | i :: rest => i.paths ++ pathsOf rest

end

theorem pathsOf_append (p q : List Instr) : pathsOf (p ++ q) = pathsOf p ++ pathsOf q := by
  induction p with
  | nil => rfl
  | cons i rest ih => simp [pathsOf, ih]

theorem Access.borrowed_failsLike (a : Access) : FailsLike a.borrowed a.code :=
  (FailsLike.refl a.code).map_left _

theorem Access.copied_failsLike (a : Access) : FailsLike a.copied a.code :=
  (FailsLike.refl a.code).map_left _

theorem Argument.code_failsLike (cfg : Config) (m : Method) (arg : Argument) :
    FailsLike (arg.code cfg m) (arg.path?.toList.mapM Access.code) := by
  cases arg with
  | value a =>
    refine FailsLike.trans ?_ (failsLike_mapM_singleton Access.code a)
    rw [Argument.code]
    split
    · exact a.borrowed_failsLike
    · exact a.copied_failsLike
  | wire w => exact .ok _ _
  | size target kind => exact (failsLike_mapM_singleton Access.code target).map_left _

theorem argumentsCode_failsLike (cfg : Config) (m : Method) (args : List Argument) :
    FailsLike (argumentsCode cfg m args)
      ((args.flatMap (·.path?.toList)).mapM Access.code) := by
  fun_induction argumentsCode cfg m args with
  | case1 => exact .ok _ _
  | case2 arg =>
    rw [List.flatMap_singleton]
    exact arg.code_failsLike cfg m
  | case3 arg arg' rest ih =>
    rw [List.flatMap_cons]
    exact (arg.code_failsLike cfg m).append ih _

mutual

/-- An instruction fails with the first of its paths that does. -/
theorem Instr.code_failsLike (cfg : Config) : (i : Instr) →
    FailsLike (i.code cfg) (i.paths.mapM Access.code)
  | .invoke m args => by
    rw [Instr.code, Instr.paths]
    exact (argumentsCode_failsLike cfg m args).map_left _
  | .loop target binder body => by
    rw [Instr.code, Instr.paths]
    exact (failsLike_mapM_singleton Access.code target).append
      (programCode_failsLike cfg body) _
  | .delegate target => by
    rw [Instr.code, Instr.paths]
    exact (target.borrowed_failsLike.trans
      (failsLike_mapM_singleton Access.code target)).map_left _

/-- A program fails with the first of its paths that does. -/
theorem programCode_failsLike (cfg : Config) : (p : List Instr) →
    FailsLike (programCode cfg p) ((pathsOf p).mapM Access.code)
  | [] => .ok _ _
  | i :: rest => by
    rw [programCode, pathsOf]
    exact (i.code_failsLike cfg).append (programCode_failsLike cfg rest) _

end

theorem renderProgram_failsLike (cfg : Config) (p : Program) :
    FailsLike (renderProgram cfg p) (programCode cfg p) := by
  unfold renderProgram
  exact (FailsLike.refl (programCode cfg p)).map_left codeText

/-! ## Programs of a type -/

namespace Ty

theorem pathsOf_seqProgram (kind : SeqKind) (wire : WireType) (a : Access) (depth : Nat)
    (body : Program) : pathsOf (seqProgram kind wire a depth body) = a :: a :: pathsOf body := by
  simp [seqProgram, pathsOf, Instr.paths, Argument.path?]

theorem pathsOf_mapProgram (keyWire valueWire : WireType) (a : Access) (depth : Nat)
    (body : Program) :
    pathsOf (mapProgram keyWire valueWire a depth body) = a :: a :: pathsOf body := by
  simp [mapProgram, pathsOf, Instr.paths, Argument.path?]

variable {limit : Option Nat} {ty : Ty} {a : Access} {depth : Nat} {p : Program}

/-- The program of a type comes to its path before any other. -/
theorem pathsOf_programAt (hp : ty.programAt limit a depth = .ok p) :
    ∃ rest, pathsOf p = a :: rest := by
  cases ty with
  | scalar s =>
    cases hp
    exact ⟨[], rfl⟩
  | seq kind elem =>
    obtain ⟨-, wire, body, -, -, rfl⟩ := programAt_seq_eq_ok_iff.mp hp
    exact ⟨_, pathsOf_seqProgram kind wire a depth body⟩
  | map key value =>
    obtain ⟨-, kw, vw, keyBody, valueBody, -, -, -, -, rfl⟩ := programAt_map_eq_ok_iff.mp hp
    exact ⟨_, pathsOf_mapProgram kw vw a depth (keyBody ++ valueBody)⟩
  | struct name =>
    cases hp
    exact ⟨[], rfl⟩
  | named name => cases hp

theorem loopName_of_or {x : Access} {b : Binding} (h : x = .bound b ∨ ∃ c, x = .bound c) :
    ∃ c, x = .bound c := by
  rcases h with rfl | hloop
  · exact ⟨b, rfl⟩
  · exact hloop

/-- The program of a type holds no other paths than its own and loop names. -/
theorem mem_pathsOf_programAt (hp : ty.programAt limit a depth = .ok p) {x : Access}
    (hx : x ∈ pathsOf p) : x = a ∨ ∃ b, x = .bound b := by
  induction ty generalizing a depth p with
  | scalar s =>
    cases hp
    exact .inl (List.mem_singleton.mp hx)
  | seq kind elem ih =>
    obtain ⟨-, wire, body, -, hbody, rfl⟩ := programAt_seq_eq_ok_iff.mp hp
    rw [pathsOf_seqProgram, List.mem_cons, List.mem_cons] at hx
    rcases hx with rfl | rfl | hx
    · exact .inl rfl
    · exact .inl rfl
    · exact .inr (loopName_of_or (ih hbody hx))
  | map key value ihk ihv =>
    obtain ⟨-, kw, vw, keyBody, valueBody, -, -, hkb, hvb, rfl⟩ :=
      programAt_map_eq_ok_iff.mp hp
    rw [pathsOf_mapProgram, pathsOf_append, List.mem_cons, List.mem_cons, List.mem_append] at hx
    rcases hx with rfl | rfl | hkey | hvalue
    · exact .inl rfl
    · exact .inl rfl
    · exact .inr (loopName_of_or (ihk hkb hkey))
    · exact .inr (loopName_of_or (ihv hvb hvalue))
  | struct name =>
    cases hp
    exact .inl (List.mem_singleton.mp hx)
  | named name => cases hp

/-- The program of a type fails to render as its path does. -/
theorem programCode_failsLike_path (cfg : Config) (hp : ty.programAt limit a depth = .ok p) :
    FailsLike (programCode cfg p) a.code := by
  refine (programCode_failsLike cfg p).trans fun e => ?_
  rw [mapM_eq_error_iff]
  constructor
  · rintro ⟨x, before, after, hsplit, -, hx⟩
    have hmem : x ∈ pathsOf p := by simp [hsplit]
    rcases mem_pathsOf_programAt hp hmem with rfl | ⟨b, rfl⟩
    · exact hx
    · -- a loop name can always be rendered
      cases hx
  · intro ha
    obtain ⟨rest, hpaths⟩ := pathsOf_programAt hp
    rw [hpaths]
    exact ⟨a, [], rest, rfl, List.forall_mem_nil _, ha⟩

end Ty

/-- Under every configuration, the programs of two types for one path can be rendered both
or not at all. If not, both fail with one error, which shows the first name of the path,
from left to right, that is not acceptable at its place. -/
theorem rendering_depends_on_path_alone (cfg : Config) (a : Access) (ty ty' : Ty)
    (p p' : Program) (hp : ty.program cfg.maxDepth a = .ok p)
    (hp' : ty'.program cfg.maxDepth a = .ok p') :
    ((∃ text, renderProgram cfg p = .ok text) ↔ ∃ text, renderProgram cfg p' = .ok text) ∧
    ∀ e, renderProgram cfg p = .error e →
      renderProgram cfg p' = .error e ∧
      ∃ c fault, FirstFailure Component.ident a.components c e ∧
        e = .invalidIdentifier c.text fault := by
  have hpath := (renderProgram_failsLike cfg p).trans (Ty.programCode_failsLike_path cfg hp)
  have hpath' := (renderProgram_failsLike cfg p').trans (Ty.programCode_failsLike_path cfg hp')
  have hsame := hpath.trans hpath'.symm
  refine ⟨hsame.exists_ok_iff, fun e he => ⟨(hsame e).mp he, ?_⟩⟩
  have hnames := ((hpath.trans a.code_failsLike) e).mp he
  obtain ⟨c, hc⟩ := mapM_eq_error_iff.mp hnames
  obtain ⟨before, after, hsplit, hbefore, hfails⟩ := hc
  obtain ⟨fault, hfault⟩ := Component.ident_error hfails
  exact ⟨c, fault, ⟨before, after, hsplit, hbefore, hfails⟩, hfault⟩

theorem plainIdent_type :
    plainIdent "type" = .error (.invalidIdentifier "type" (.keyword "type")) := by
  have htokens : tokens? "type" = some [.ident ⟨false, "type"⟩] := by decide +kernel
  rw [plainIdent, Ident.ofText, htokens]
  rfl

/-- A field is named by a keyword, and the field below it by no identifier at all: the call
for a number and the loop for a map both stop at the keyword. -/
theorem keyword_field_stops_rendering :
    let a : Access := .field (.selfField "type") "a-b"
    let e : GenError := .invalidIdentifier "type" (.keyword "type")
    ∃ p p', (Ty.scalar .i32).program none a = .ok p ∧
      (Ty.map (.scalar .string) (.seq .list (.struct "Point"))).program none a = .ok p' ∧
      renderProgram {} p = .error e ∧ renderProgram {} p' = .error e ∧
      ∃ c : Component, c.text = "type" ∧ FirstFailure Component.ident a.components c e := by
  intro a e
  have hself : variableIdent "self" = .ok ⟨false, "self"⟩ := if_pos rfl
  have hrender : renderProgram {} [.invoke (.datum .i32) [.value a]] = .error e := by
    simp only [renderProgram, programCode, Instr.code, argumentsCode, Argument.code,
      Access.copied, a, Access.selfField, Access.code, hself, plainIdent_type]
    rfl
  obtain ⟨-, hfails⟩ := rendering_depends_on_path_alone {} a (.scalar .i32)
    (.map (.scalar .string) (.seq .list (.struct "Point"))) _ _ rfl rfl
  obtain ⟨hother, c, fault, hfirst, hshown⟩ := hfails e hrender
  have hname : c.text = "type" := (GenError.invalidIdentifier.inj hshown).1.symm
  exact ⟨_, _, rfl, rfl, hrender, hother, c, hname, hfirst⟩

end WireScribe

import WireScribe.Proofs.Synthesis

/-!
# WireScribe.Proofs.MethodTrace — the trace of a program tells its type

A trace is a flat list of words. Loops, paths and tags leave nothing in it, and the key
and the value of a map follow one another with no mark in between. It can be read all the
same, because its first word tells the form of the type, and each part shows where it ends.

1. **Words**: no two steps of a program appear under one word.
2. **Traces**: `Ty.trace` is the trace of every program of a type.
3. **Outlines**: `Ty.outline` forgets what no trace shows.
4. **Reading**: a trace with anything behind it is that of one outline only.
-/

namespace WireScribe

/-! ## Words -/

theorem Method.contractName_inj {m m' : Method} (h : m.contractName = m'.contractName) :
    m = m' := by
  have hfound := congrArg ofContractName? h
  rw [ofContractName?_contractName, ofContractName?_contractName] at hfound
  exact Option.some.inj hfound

/-- The word under which a step appears: the name of its method, or `write` for a
delegation, which has none. -/
def traceWord : Option Method → String
  | some m => m.contractName
  | none => "write"

/-- Every name of a method goes on after `write`. -/
theorem Method.contractName_ne_write (m : Method) : m.contractName ≠ "write" := by
  have hall : ∀ m ∈ all, m.contractName ≠ "write" := by decide
  have hfound := ofContractName?_contractName m
  exact hall m (List.mem_of_find?_eq_some hfound)

theorem traceWord_inj {m m' : Option Method} (h : traceWord m = traceWord m') : m = m' := by
  cases m with
  | none =>
    cases m' with
    | none => rfl
    | some m' => exact absurd h.symm m'.contractName_ne_write
  | some m =>
    cases m' with
    | none => exact absurd h m.contractName_ne_write
    | some m' => exact congrArg some (Method.contractName_inj h)

/-! ## Traces -/

theorem methodsOf_append (p q : Program) : methodsOf (p ++ q) = methodsOf p ++ methodsOf q := by
  induction p with
  | nil => simp [methodsOf]
  | cons i rest ih => simp [methodsOf, ih]

namespace Ty

/-- The words of a type: a container has its markers around the words of its parts. -/
def trace : Ty → List String
  | scalar s => [traceWord (some (.datum s.kind))]
  | seq kind elem =>
    traceWord (some (.seqBegin kind)) :: (elem.trace ++ [traceWord (some (.seqEnd kind))])
  | map key value =>
    traceWord (some .mapBegin) :: (key.trace ++ (value.trace ++ [traceWord (some .mapEnd)]))
  | struct _ => [traceWord none]
  | named _ => []

/-- A program shows the words of its type, wherever it stands and whatever it writes. -/
theorem methodsOf_programAt {limit : Option Nat} {ty : Ty} {a : Access} {depth : Nat}
    {p : Program} (hp : ty.programAt limit a depth = .ok p) : methodsOf p = ty.trace := by
  induction ty generalizing a depth p with
  | scalar s =>
    cases hp
    simp [methodsOf, Instr.methods, trace, traceWord]
  | seq kind elem ih =>
    obtain ⟨-, wire, body, -, hbody, rfl⟩ := programAt_seq_eq_ok_iff.mp hp
    simp [seqProgram, methodsOf, Instr.methods, trace, traceWord, ih hbody]
  | map key value ihk ihv =>
    obtain ⟨-, kw, vw, keyBody, valueBody, -, -, hkb, hvb, rfl⟩ := programAt_map_eq_ok_iff.mp hp
    simp [mapProgram, methodsOf, Instr.methods, methodsOf_append, trace, traceWord, ihk hkb,
      ihv hvb]
  | struct name =>
    cases hp
    simp [methodsOf, Instr.methods, trace, traceWord]
  | named name => cases hp

end Ty

/-! ## Outlines -/

/-- The scalar by which a kind of datum is known. -/
def DatumKind.scalar : DatumKind → Scalar
  | bool => .bool
  | byte => .byte
  | i16 => .i16
  | i32 => .i32
  | i64 => .i64
  | double => .double
  | string => .string
  | binary => .binary

/-- The scalar with `byte` for `i8`. -/
def Scalar.plain : Scalar → Scalar
  | i8 => byte
  | s => s

theorem Scalar.kind_plain (s : Scalar) : s.plain.kind = s.kind := by
  cases s <;> rfl

theorem Scalar.scalar_kind (s : Scalar) : s.kind.scalar = s.plain := by
  cases s <;> rfl

namespace Ty

/-- The type with `byte` for `i8` and without the names of structs. -/
def outline : Ty → Ty
  | scalar s => scalar s.plain
  | seq kind elem => seq kind elem.outline
  | map key value => map key.outline value.outline
  | struct _ => struct ""
  | named name => named name

/-- What an outline forgets is in no trace. -/
theorem trace_outline (ty : Ty) : ty.outline.trace = ty.trace := by
  induction ty with
  | scalar s => rw [outline, trace, trace, s.kind_plain]
  | seq kind elem ih => rw [outline, trace, trace, ih]
  | map key value ihk ihv => rw [outline, trace, trace, ihk, ihv]
  | struct name => rfl
  | named name => rfl

/-! ## Reading -/

/-- The step that a type starts with. -/
def opening : Ty → Option Method
  | scalar s => some (.datum s.kind)
  | seq kind _ => some (.seqBegin kind)
  | map _ _ => some .mapBegin
  | struct _ => none
  | named _ => none

theorem trace_eq_cons {ty : Ty} (h : ty.Resolved) :
    ∃ rest, ty.trace = traceWord ty.opening :: rest := by
  cases ty with
  | named name => exact h.elim
  | _ => exact ⟨_, rfl⟩

/-- Traces that agree at their first word open with the same step. -/
theorem opening_eq {s t : Ty} (hs : s.Resolved) (ht : t.Resolved) {r r' : List String}
    (h : s.trace ++ r = t.trace ++ r') : s.opening = t.opening := by
  obtain ⟨rest, hrest⟩ := trace_eq_cons hs
  obtain ⟨rest', hrest'⟩ := trace_eq_cons ht
  rw [hrest, hrest'] at h
  exact traceWord_inj (List.cons.inj h).1

/-- A trace shows the outline of its type, and where it ends. -/
theorem trace_append_inj {s t : Ty} (hs : s.Resolved) (ht : t.Resolved) {r r' : List String}
    (h : s.trace ++ r = t.trace ++ r') : s.outline = t.outline ∧ r = r' := by
  induction s generalizing t r r' with
  | scalar s =>
    have hopen := opening_eq hs ht h
    cases t with
    | scalar s' =>
      have hkind : s.kind = s'.kind := by
        injection Option.some.inj hopen
      refine ⟨?_, (List.cons.inj h).2⟩
      rw [outline, outline, ← s.scalar_kind, ← s'.scalar_kind, hkind]
    | named name => exact ht.elim
    | _ => cases hopen
  | seq kind elem ih =>
    have hopen := opening_eq hs ht h
    cases t with
    | seq kind' elem' =>
      obtain rfl : kind = kind' := by
        injection Option.some.inj hopen
      simp only [trace, List.cons_append, List.append_assoc, List.cons.injEq, true_and] at h
      -- the element ends where its own trace says, and so in front of the same end marker
      have hresolved : elem'.Resolved := ht
      obtain ⟨helem, hend⟩ := ih hs hresolved h
      refine ⟨?_, (List.cons.inj hend).2⟩
      rw [outline, outline, helem]
    | named name => exact ht.elim
    | _ => cases hopen
  | map key value ihk ihv =>
    have hopen := opening_eq hs ht h
    cases t with
    | map key' value' =>
      simp only [trace, List.cons_append, List.append_assoc, List.cons.injEq, true_and] at h
      -- nothing parts the key from the value but the end that the key itself shows
      obtain ⟨hkey, hrest⟩ := ihk hs.1 ht.1 h
      obtain ⟨hvalue, hend⟩ := ihv hs.2 ht.2 hrest
      refine ⟨?_, (List.cons.inj hend).2⟩
      rw [outline, outline, hkey, hvalue]
    | named name => exact ht.elim
    | _ => cases hopen
  | struct name =>
    have hopen := opening_eq hs ht h
    cases t with
    | struct name' => exact ⟨rfl, (List.cons.inj h).2⟩
    | named name => exact ht.elim
    | _ => cases hopen
  | named name => exact hs.elim

theorem trace_eq_iff {s t : Ty} (hs : s.Resolved) (ht : t.Resolved) :
    s.trace = t.trace ↔ s.outline = t.outline := by
  constructor
  · intro h
    have happend : s.trace ++ [] = t.trace ++ [] := by rw [h]
    exact (trace_append_inj hs ht happend).1
  · intro h
    rw [← trace_outline s, ← trace_outline t, h]

end Ty

/-- Two types without bare names have programs at all paths, and the traces of these are
equal exactly if the types differ in nothing but `i8` for `byte` and names of structs. -/
theorem trace_tells_type (s t : Ty) (a b : Access) (hs : s.Resolved) (ht : t.Resolved) :
    ∃ p q, s.program none a = .ok p ∧ t.program none b = .ok q ∧
      (methodsOf p = methodsOf q ↔ s.outline = t.outline) := by
  obtain ⟨p, hp⟩ := Ty.exists_programAt hs a 0
  obtain ⟨q, hq⟩ := Ty.exists_programAt ht b 0
  refine ⟨p, q, hp, hq, ?_⟩
  rw [Ty.methodsOf_programAt hp, Ty.methodsOf_programAt hq]
  exact Ty.trace_eq_iff hs ht

/-- A map whose key is a map gives the same trace under other names of its scalars and
structs, and another trace once the inner map is its value. -/
theorem nested_map_traces :
    let byKey : Ty := .map (.map (.scalar .i8) (.struct "Point")) (.seq .set (.scalar .byte))
    let renamed : Ty := .map (.map (.scalar .byte) (.struct "Size")) (.seq .set (.scalar .i8))
    let byValue : Ty := .map (.scalar .i8) (.map (.struct "Point") (.seq .set (.scalar .byte)))
    ∃ p q r, byKey.program none (.var "xs") = .ok p ∧
      renamed.program none (.selfField "ys") = .ok q ∧
      byValue.program none (.var "xs") = .ok r ∧
      methodsOf p = methodsOf q ∧ methodsOf p ≠ methodsOf r := by
  intro byKey renamed byValue
  obtain ⟨p, q, hp, hq, hsame⟩ := trace_tells_type byKey renamed (.var "xs") (.selfField "ys")
    (by decide) (by decide)
  obtain ⟨p', r, hp', hr, hother⟩ := trace_tells_type byKey byValue (.var "xs") (.var "xs")
    (by decide) (by decide)
  obtain rfl : p = p' := Except.ok.inj (hp.symm.trans hp')
  refine ⟨p, q, r, hp, hq, hr, hsame.mpr (by decide), fun heq => ?_⟩
  exact absurd (hother.mp heq) (by decide)

end WireScribe

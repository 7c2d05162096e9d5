import WireScribe.Proofs.ReadBack

/-!
# WireScribe.Proofs.Schemaless — values that write themselves

With no schema a container takes its tags from its first element or entry, and
`void` if there is none.

1. **Inside a value**: `Value.Everywhere` carries a property to every value inside a
   value. Records only and homogeneous containers are properties of this kind.
2. **With and without a type**: both ways of writing make the same calls, but for
   the tags of empty containers.
3. **Homogeneous values**: the first element speaks for all, so the tags in the
   bytes are enough to read the value back.
-/

namespace WireScribe

/-! ## Inside a value -/

namespace Value

/-- The property holds of the value and of every value inside it, at any depth. -/
inductive Everywhere (P : Value → Prop) : Value → Prop where
  | datum {d : Datum} (here : P (.datum d)) : Everywhere P (.datum d)
  | seq {kind : SeqKind} {items : List Value} (here : P (.seq kind items))
      (inside : ∀ v ∈ items, Everywhere P v) : Everywhere P (.seq kind items)
  | map {entries : List (Value × Value)} (here : P (.map entries))
      (keys : ∀ e ∈ entries, Everywhere P e.1) (values : ∀ e ∈ entries, Everywhere P e.2) :
    Everywhere P (.map entries)
  | record {name : String} {fields : List (Int16 × Value)} (here : P (.record name fields))
      (inside : ∀ f ∈ fields, Everywhere P f.2) : Everywhere P (.record name fields)
  | script {cs : List Call} (here : P (.script cs)) : Everywhere P (.script cs)

section

variable {P : Value → Prop}

@[simp] theorem everywhere_datum {d : Datum} : Everywhere P (.datum d) ↔ P (.datum d) :=
  ⟨fun | .datum here => here, .datum⟩

@[simp] theorem everywhere_seq {kind : SeqKind} {items : List Value} :
    Everywhere P (.seq kind items) ↔ P (.seq kind items) ∧ ∀ v ∈ items, v.Everywhere P :=
  ⟨fun | .seq here inside => ⟨here, inside⟩, fun h => .seq h.1 h.2⟩

@[simp] theorem everywhere_map {entries : List (Value × Value)} :
    Everywhere P (.map entries) ↔
      P (.map entries) ∧ ∀ e ∈ entries, e.1.Everywhere P ∧ e.2.Everywhere P :=
  ⟨fun | .map here keys values => ⟨here, fun e he => ⟨keys e he, values e he⟩⟩,
    fun h => .map h.1 (fun e he => (h.2 e he).1) fun e he => (h.2 e he).2⟩

@[simp] theorem everywhere_record {name : String} {fields : List (Int16 × Value)} :
    Everywhere P (.record name fields) ↔
      P (.record name fields) ∧ ∀ f ∈ fields, f.2.Everywhere P :=
  ⟨fun | .record here inside => ⟨here, inside⟩, fun h => .record h.1 h.2⟩

end

/-- Every struct in the value is a record, also among the fields of records. -/
def RecordsOnly : Value → Prop := Everywhere fun v => ∀ cs, v ≠ script cs

/-- All values of a list have the same tag. -/
def SameTag (vs : List Value) : Prop := ∀ u ∈ vs, ∀ v ∈ vs, u.wireType = v.wireType

/-- The elements of a list or set have one tag, as have the keys and the values of a
map. A struct is not uniform. -/
def Uniform : Value → Prop
  | datum _ => True
  | seq _ items => SameTag items
  | map entries => SameTag (entries.map Prod.fst) ∧ SameTag (entries.map Prod.snd)
  | record _ _ => False
  | script _ => False

/-- There is no struct in the value, and every container in it is uniform. -/
def Homogeneous : Value → Prop := Everywhere Uniform

theorem SameTag.headWireType_eq {vs : List Value} (h : SameTag vs) :
    ∀ v ∈ vs, v.wireType = headWireType vs := by
  intro v hv
  cases vs with
  | nil => cases hv
  | cons u rest => exact h v hv u List.mem_cons_self

theorem itemCalls_eq_flatMap (items : List Value) : itemCalls items = items.flatMap calls := by
  induction items with
  | nil => rfl
  | cons v rest ih => rw [itemCalls, ih, List.flatMap_cons]

theorem entryCalls_eq_flatMap (entries : List (Value × Value)) :
    entryCalls entries = entries.flatMap fun e => e.1.calls ++ e.2.calls := by
  induction entries with
  | nil => rfl
  | cons e rest ih => rw [entryCalls, ih, List.flatMap_cons, List.append_assoc]

theorem fieldCalls_eq_flatMap (fields : List (Int16 × Value)) :
    fieldCalls fields = fields.flatMap fun f => f.2.calls := by
  induction fields with
  | nil => rfl
  | cons f rest ih => rw [fieldCalls, ih, List.flatMap_cons]

end Value

/-! ## With and without a type -/

namespace Call

/-- The call with `void` for every tag that a container of size zero announces. -/
def voidEmpty : Call → Call
  | seqBegin kind _ 0 => .seqBegin kind .void 0
  | mapBegin _ _ 0 => .mapBegin .void .void 0
  | c => c

/-- A tag that all elements have is the one announced without a schema, once it is
erased for want of elements. -/
theorem voidEmpty_seqBegin {kind : SeqKind} {w : WireType} {items : List Value}
    (h : ∀ v ∈ items, v.wireType = w) :
    (seqBegin kind w items.length).voidEmpty =
      seqBegin kind (headWireType items) items.length := by
  cases items with
  | nil => rfl
  | cons v rest =>
    have hw : v.wireType = w := h v List.mem_cons_self
    rw [headWireType, hw]
    rfl

theorem voidEmpty_mapBegin {kw vw : WireType} {entries : List (Value × Value)}
    (h : ∀ e ∈ entries, e.1.wireType = kw ∧ e.2.wireType = vw) :
    (mapBegin kw vw entries.length).voidEmpty =
      mapBegin (headWireType (entries.map Prod.fst)) (headWireType (entries.map Prod.snd))
        entries.length := by
  cases entries with
  | nil => rfl
  | cons e rest =>
    obtain ⟨hkw, hvw⟩ := h e List.mem_cons_self
    rw [List.map_cons, List.map_cons, headWireType, headWireType, hkw, hvw]
    rfl

end Call

/-- A value without scripts announces `void` for its empty containers by itself. -/
theorem Value.RecordsOnly.voidEmpty_calls {v : Value} (h : v.RecordsOnly) :
    v.calls.map Call.voidEmpty = v.calls := by
  induction h with
  | datum _ => rfl
  | @seq kind items _ _ ih =>
    have hopen : (Call.seqBegin kind (headWireType items) items.length).voidEmpty =
        .seqBegin kind (headWireType items) items.length := by
      cases items <;> rfl
    have hitems : (itemCalls items).map Call.voidEmpty = itemCalls items := by
      rw [itemCalls_eq_flatMap, List.map_flatMap]
      exact List.flatMap_congr ih
    rw [calls, List.map_cons, List.map_append, hopen, hitems]
    rfl
  | @map entries _ _ _ ihk ihv =>
    have hopen : (Call.mapBegin (headWireType (entries.map Prod.fst))
        (headWireType (entries.map Prod.snd)) entries.length).voidEmpty =
        .mapBegin (headWireType (entries.map Prod.fst))
          (headWireType (entries.map Prod.snd)) entries.length := by
      cases entries <;> rfl
    have hentries : (entryCalls entries).map Call.voidEmpty = entryCalls entries := by
      rw [entryCalls_eq_flatMap, List.map_flatMap]
      refine List.flatMap_congr fun e he => ?_
      rw [List.map_append, ihk e he, ihv e he]
    rw [calls, List.map_cons, List.map_append, hopen, hentries]
    rfl
  | record _ _ ih =>
    rw [calls, fieldCalls_eq_flatMap, List.map_flatMap]
    exact List.flatMap_congr ih
  | @script cs here => exact absurd rfl (here cs)

namespace Ty

/-- A value of the very kind that the type names has the tag of the type. -/
theorem FitsExactly.wireType_eq {ty : Ty} {v : Value} (h : ty.FitsExactly v) :
    v.wireType = ty.announced := by
  cases ty with
  | scalar s =>
    cases v with
    | datum d => exact congrArg DatumKind.wireType h
    | _ => exact h.elim
  | seq kind elem =>
    cases v with
    | seq kind' items => exact congrArg SeqKind.wireType h.1.symm
    | _ => exact h.elim
  | map key value =>
    cases v with
    | map entries => rfl
    | _ => exact h.elim
  | struct name =>
    cases v with
    | record _ _ => rfl
    | script _ => rfl
    | _ => exact h.elim
  | named name => exact h.elim

/-- The calls by type are the calls without one, once the tags of empty containers
are erased. -/
theorem FitsExactly.voidEmpty_calls {ty : Ty} {v : Value} (hfit : ty.FitsExactly v)
    (hrec : v.RecordsOnly) : (ty.calls v).map Call.voidEmpty = v.calls := by
  induction ty generalizing v with
  | scalar s =>
    cases v with
    | datum d => rfl
    | _ => exact hfit.elim
  | seq kind elem ih =>
    cases v with
    | seq kind' items =>
      obtain ⟨rfl, hitems⟩ := hfit
      obtain ⟨-, hinside⟩ := Value.everywhere_seq.mp hrec
      have hopen : (Call.seqBegin kind elem.announced items.length).voidEmpty =
          .seqBegin kind (headWireType items) items.length :=
        Call.voidEmpty_seqBegin fun v hv => FitsExactly.wireType_eq (hitems v hv)
      have hbody : (items.flatMap elem.calls).map Call.voidEmpty = Value.itemCalls items := by
        rw [Value.itemCalls_eq_flatMap, List.map_flatMap]
        exact List.flatMap_congr fun v hv => ih (hitems v hv) (hinside v hv)
      rw [Ty.calls, Value.calls, List.map_cons, List.map_append, hopen, hbody]
      rfl
    | _ => exact hfit.elim
  | map key value ihk ihv =>
    cases v with
    | map entries =>
      obtain ⟨-, hinside⟩ := Value.everywhere_map.mp hrec
      have hopen := Call.voidEmpty_mapBegin fun e he =>
        ⟨FitsExactly.wireType_eq (hfit e he).1, FitsExactly.wireType_eq (hfit e he).2⟩
      have hbody : (entries.flatMap fun e => key.calls e.1 ++ value.calls e.2).map
          Call.voidEmpty = Value.entryCalls entries := by
        rw [Value.entryCalls_eq_flatMap, List.map_flatMap]
        refine List.flatMap_congr fun e he => ?_
        obtain ⟨hkey, hvalue⟩ := hinside e he
        rw [List.map_append, ihk (hfit e he).1 hkey, ihv (hfit e he).2 hvalue]
      rw [Ty.calls, Value.calls, List.map_cons, List.map_append, hopen, hbody]
      rfl
    | _ => exact hfit.elim
  | struct name =>
    -- a record writes itself either way, and has announced `void` already
    cases v with
    | record _ _ => exact hrec.voidEmpty_calls
    | script _ => exact hrec.voidEmpty_calls
    | _ => exact hfit.elim
  | named name => exact hfit.elim

end Ty

/-- Writing a value by its type and writing it without one make the same calls, but
for the tags of empty containers: a resolved type has a program, the program
succeeds on a value of the very kind that the type names, and its calls are those
of the value once these tags are erased. -/
theorem typed_calls_void_to_schemaless (ty : Ty) (a : Access) (env : Environment) (v : Value)
    (hty : ty.Resolved) (ha : a.binding? = none) (hv : env.get? a.text = some v)
    (hfit : ty.FitsExactly v) (hrec : v.RecordsOnly) :
    ∃ p cs, ty.program none a = .ok p ∧ execute env p ({} : Recording) = .ok () ⟨cs⟩ ∧
      v.write ({} : Recording) = .ok () ⟨cs.map Call.voidEmpty⟩ := by
  obtain ⟨p, hp⟩ := Ty.exists_programAt hty a 0
  refine ⟨p, ty.calls v, hp, execute_program hp ha hv hfit.fits {}, ?_⟩
  rw [hfit.voidEmpty_calls hrec, Value.write_eq_writeAll, Sink.writeAll_recording]
  rfl

/-- Rows with an empty map among them, and a record with a list of mixed elements and
an empty set. The type knows the tags of the empty map, and nothing knows those of
the empty set. -/
theorem rows_void_to_schemaless :
    let ty : Ty := .seq .list (.map (.scalar .string) (.struct "Point"))
    let point : Value := .record "Point"
      [(1, .seq .list [.datum (.i32 3), .datum (.bool true)]), (2, .seq .set [])]
    let rows : Value := .seq .list [.map [(.datum (.string "a"), point)], .map []]
    let env : Environment := ({} : Environment).bind "rows" rows
    let inner : List Call := [.datum (.string "a"), .seqBegin .list .i32 2, .datum (.i32 3),
      .datum (.bool true), .seqEnd .list, .seqBegin .set .void 0, .seqEnd .set]
    (∃ p, ty.program none (.var "rows") = .ok p ∧
      execute env p ({} : Recording) =
        .ok () ⟨.seqBegin .list .map 2 :: .mapBegin .string .struct 1 ::
          (inner ++ [.mapEnd, .mapBegin .string .struct 0, .mapEnd, .seqEnd .list])⟩) ∧
    rows.write ({} : Recording) =
      .ok () ⟨.seqBegin .list .map 2 :: .mapBegin .string .struct 1 ::
        (inner ++ [.mapEnd, .mapBegin .void .void 0, .mapEnd, .seqEnd .list])⟩ := by
  intro ty point rows env inner
  have hfit : ty.FitsExactly rows := by
    simp [ty, rows, point, Ty.FitsExactly, Ty.FitsUpTo, Datum.kind, Scalar.kind]
  have hrec : rows.RecordsOnly := by simp [rows, point, Value.RecordsOnly]
  obtain ⟨p, cs, hp, hrun, hwrite⟩ := typed_calls_void_to_schemaless ty (.var "rows") env rows
    ⟨trivial, trivial⟩ rfl rfl hfit hrec
  cases hp
  cases hrun
  exact ⟨⟨_, rfl, rfl⟩, hwrite⟩

/-! ## Homogeneous values -/

/-- The tags that a homogeneous value announces are those of what follows. -/
theorem Value.Homogeneous.tagged {v : Value} (h : v.Homogeneous) : Tagged v v.calls := by
  induction h with
  | datum _ => exact .datum _
  | seq here _ ih =>
    -- the announced tag is that of the first element, hence of every element
    rw [calls, itemCalls_eq_flatMap]
    exact .seq (.of_forall fun v hv => ⟨SameTag.headWireType_eq here v hv, ih v hv⟩)
  | map here _ _ ihk ihv =>
    rw [calls, entryCalls_eq_flatMap]
    refine .map (.of_forall fun e he => ⟨⟨?_, ihk e he⟩, ?_, ihv e he⟩)
    · exact SameTag.headWireType_eq here.1 e.1 (List.mem_map_of_mem he)
    · exact SameTag.headWireType_eq here.2 e.2 (List.mem_map_of_mem he)
  | record here _ _ => exact here.elim
  | script here => exact here.elim

/-- The bytes that a value leaves in a fresh buffer are those of its calls, none of
which is oversize. -/
theorem Value.bytes_of_write {v : Value} {bs : List UInt8}
    (h : v.write ({} : Buffer) = .ok () ⟨bs⟩) :
    (∀ c ∈ v.calls, c.oversize? = none) ∧ bs = v.calls.flatMap Call.encode := by
  rw [write_eq_writeAll] at h
  have hfits := Buffer.fits_of_writeAll h
  rw [Buffer.writeAll_of_fits hfits] at h
  cases h
  exact ⟨hfits, rfl⟩

/-- Bytes written without a schema are self-describing where containers are
homogeneous: wherever they end, those of values with a common tag stand for one
value, up to the texts in it. -/
theorem schemaless_bytes_determine_value (v₁ v₂ : Value) (bs₁ bs₂ s₁ s₂ : List UInt8)
    (hv₁ : v₁.Homogeneous) (hv₂ : v₂.Homogeneous) (hwire : v₁.wireType = v₂.wireType)
    (hbs₁ : v₁.write ({} : Buffer) = .ok () ⟨bs₁⟩)
    (hbs₂ : v₂.write ({} : Buffer) = .ok () ⟨bs₂⟩) (h : bs₁ ++ s₁ = bs₂ ++ s₂) :
    s₁ = s₂ ∧ v₁.plain = v₂.plain := by
  obtain ⟨hsize₁, rfl⟩ := Value.bytes_of_write hbs₁
  obtain ⟨hsize₂, rfl⟩ := Value.bytes_of_write hbs₂
  -- the common tag picks one reader for both
  have hread₁ := hv₁.tagged.readsBack v₁ _ hsize₁
  have hread₂ := hv₂.tagged.readsBack v₂ _ hsize₂
  rw [hwire] at hread₁
  exact hread₁.unique hread₂ h

/-- Lists of one list that no type has, as their inner lists differ in their tags. A
text in one of them stands for its bytes. -/
theorem mixed_rows_share_bytes :
    let v₁ : Value := .seq .list
      [.seq .list [.datum (.i16 (-2))], .seq .list [.datum (.string "é")], .seq .list []]
    let v₂ : Value := .seq .list
      [.seq .list [.datum (.i16 (-2))], .seq .list [.datum (.binary [0xc3, 0xa9])], .seq .list []]
    let bs : List UInt8 := [15, 0, 0, 0, 3, 6, 0, 0, 0, 1, 0xff, 0xfe,
      11, 0, 0, 0, 1, 0, 0, 0, 2, 0xc3, 0xa9, 1, 0, 0, 0, 0]
    v₁.write ({} : Buffer) = .ok () ⟨bs⟩ ∧ v₂.write ({} : Buffer) = .ok () ⟨bs⟩ ∧
      v₁.plain = v₂.plain := by
  intro v₁ v₂ bs
  have hhom₁ : v₁.Homogeneous := by
    simp [v₁, Value.Homogeneous, Value.Uniform, Value.SameTag, Value.wireType, Value.shape]
  have hhom₂ : v₂.Homogeneous := by
    simp [v₂, Value.Homogeneous, Value.Uniform, Value.SameTag, Value.wireType, Value.shape]
  have hbs₁ : v₁.write ({} : Buffer) = .ok () ⟨bs⟩ := rfl
  have hbs₂ : v₂.write ({} : Buffer) = .ok () ⟨bs⟩ := rfl
  have hsame := schemaless_bytes_determine_value v₁ v₂ bs bs [9] [9] hhom₁ hhom₂ rfl hbs₁ hbs₂ rfl
  exact ⟨hbs₁, hbs₂, hsame.2⟩

end WireScribe

import WireScribe.Proofs.Serialization
import WireScribe.Proofs.WireFormat

/-!
# WireScribe.Proofs.ReadBack — bytes determine what was written

The tags in the bytes are enough to read a value back, with no schema at hand. A
text comes back as its UTF-8 bytes, because texts and byte strings share a tag.

1. **Reader**: `read` takes a value with a given tag off the front of bytes.
2. **Tagged calls**: `Tagged` holds of calls whose opening markers announce the
   tags of what follows. Such calls are read back.
3. **Typed bytes**: a program of a type makes tagged calls, so its bytes end
   where the value does and determine it.
-/

namespace WireScribe

/-! ## Reader -/

/-- Takes something off the front of bytes, and gives it with the rest. -/
abbrev Reader (α : Type) := List UInt8 → Option (α × List UInt8)

/-- The next bytes, as many as asked for. -/
def readBytes (n : Nat) : Reader (List UInt8) := fun bs =>
  if n ≤ bs.length then some (bs.take n, bs.drop n) else none

/-- A number of a given width. -/
def readNumber (width : Nat) : Reader Nat := fun bs => do
  let (front, bs) ← readBytes width bs
  return (unsigned front, bs)

/-- A tag. -/
def readTag : Reader WireType
  | [] => none
  | b :: bs => do
    let w ← WireType.ofCode? b
    return (w, bs)

/-- A given number of things in a row. -/
def readMany {α : Type} (item : Reader α) : Nat → Reader (List α)
  | 0, bs => some ([], bs)
  | n + 1, bs => do
    let (x, bs) ← item bs
    let (xs, bs) ← readMany item n bs
    return (x :: xs, bs)

/-- Two things in a row. -/
def readPair {α β : Type} (first : Reader α) (second : Reader β) : Reader (α × β) := fun bs => do
  let (x, bs) ← first bs
  let (y, bs) ← second bs
  return ((x, y), bs)

/-- A scalar that is a number of a given width. -/
def readWord (width : Nat) (f : Nat → Datum) : Reader Datum := fun bs => do
  let (n, bs) ← readNumber width bs
  return (f n, bs)

/-- A scalar with a given tag. -/
def readDatum : WireType → Reader Datum
  | .bool => readWord 1 fun n => .bool (n != 0)
  | .byte => readWord 1 fun n => .byte (Int8.ofNat n)
  | .i16 => readWord 2 fun n => .i16 (Int16.ofNat n)
  | .i32 => readWord 4 fun n => .i32 (Int32.ofNat n)
  | .i64 => readWord 8 fun n => .i64 (Int64.ofNat n)
  | .double => readWord 8 fun n => .double (UInt64.ofNat n)
  | .string => fun bs => do
    let (n, bs) ← readNumber 4 bs
    let (bytes, bs) ← readBytes n bs
    return (.binary bytes, bs)
  | _ => fun _ => none

/-- A list or a set, given how values are read by their tags. -/
def readSeq (item : WireType → Reader Value) (kind : SeqKind) : Reader Value := fun bs => do
  let (tag, bs) ← readTag bs
  let (n, bs) ← readNumber 4 bs
  let (items, bs) ← readMany (item tag) n bs
  return (.seq kind items, bs)

/-- A map, given how values are read by their tags. -/
def readMap (item : WireType → Reader Value) : Reader Value := fun bs => do
  let (keyTag, bs) ← readTag bs
  let (valueTag, bs) ← readTag bs
  let (n, bs) ← readNumber 4 bs
  let (entries, bs) ← readMany (readPair (item keyTag) (item valueTag)) n bs
  return (.map entries, bs)

/-- A value with a given tag and fewer than `fuel` containers inside one another. -/
def read : Nat → WireType → Reader Value
  | 0, _ => fun _ => none
  | fuel + 1, .list => readSeq (read fuel) .list
  | fuel + 1, .set => readSeq (read fuel) .set
  | fuel + 1, .map => readMap (read fuel)
  | _ + 1, w => fun bs => do
    let (d, bs) ← readDatum w bs
    return (.datum d, bs)

theorem readBytes_append (front rest : List UInt8) :
    readBytes front.length (front ++ rest) = some (front, rest) := by
  simp [readBytes]

theorem readNumber_bigEndian (width n : Nat) (rest : List UInt8) :
    readNumber width (bigEndian width n ++ rest) = some (n % 256 ^ width, rest) := by
  have h := readBytes_append (bigEndian width n) rest
  rw [length_bigEndian] at h
  simp [readNumber, h, unsigned_bigEndian]

theorem readNumber_encodeSize {n : Nat} (h : n ≤ maxSize) (rest : List UInt8) :
    readNumber 4 (encodeSize n ++ rest) = some (n, rest) := by
  have hn : n % 256 ^ 4 = n := by
    have hmax : n ≤ 2147483647 := h
    exact Nat.mod_eq_of_lt (by norm_num; omega)
  rw [encodeSize, readNumber_bigEndian, hn]

theorem readTag_code (w : WireType) (rest : List UInt8) :
    readTag (w.code :: rest) = some (w, rest) := by
  simp [readTag, WireType.ofCode?_code]

/-! ## Tagged calls -/

/-- A scalar with its text, if it is one, as UTF-8 bytes. -/
def Datum.plain : Datum → Datum
  | .string s => .binary (utf8 s)
  | d => d

namespace Value

mutual

/-- A value with every text in it as UTF-8 bytes. Structs stay as they are. -/
def plain : Value → Value
  | datum d => .datum d.plain
  | seq kind items => .seq kind (plainItems items)
  | map entries => .map (plainEntries entries)
  | v => v

/-- The same of elements. -/
def plainItems : List Value → List Value
  | [] => []
  | v :: rest => v.plain :: plainItems rest

/-- The same of entries. -/
def plainEntries : List (Value × Value) → List (Value × Value)
  | [] => []
  | (k, v) :: rest => (k.plain, v.plain) :: plainEntries rest

end

theorem plainItems_eq_map (items : List Value) : plainItems items = items.map plain := by
  induction items with
  | nil => rfl
  | cons v rest ih => rw [plainItems, ih, List.map_cons]

theorem plainEntries_eq_map (entries : List (Value × Value)) :
    plainEntries entries = entries.map fun e => (e.1.plain, e.2.plain) := by
  induction entries with
  | nil => rfl
  | cons e rest ih => rw [plainEntries, ih, List.map_cons]

end Value

mutual

/-- Calls that write a value and announce the tags of its elements. A container
with no elements may announce any tag. -/
inductive Tagged : Value → List Call → Prop where
  | datum (d : Datum) : Tagged (.datum d) [.datum d]
  | seq {kind : SeqKind} {w : WireType} {items : List Value} {cs : List Call}
      (h : TaggedItems w items cs) :
    Tagged (.seq kind items) (.seqBegin kind w items.length :: (cs ++ [.seqEnd kind]))
  | map {kw vw : WireType} {entries : List (Value × Value)} {cs : List Call}
      (h : TaggedEntries kw vw entries cs) :
    Tagged (.map entries) (.mapBegin kw vw entries.length :: (cs ++ [.mapEnd]))

/-- Calls that write elements with a common tag. -/
inductive TaggedItems : WireType → List Value → List Call → Prop where
  | nil (w : WireType) : TaggedItems w [] []
  | cons {w : WireType} {v : Value} {rest : List Value} {cs ds : List Call}
      (hw : v.wireType = w) (h : Tagged v cs) (hrest : TaggedItems w rest ds) :
    TaggedItems w (v :: rest) (cs ++ ds)

/-- Calls that write entries with a common tag of the keys and one of the values. -/
inductive TaggedEntries : WireType → WireType → List (Value × Value) → List Call → Prop where
  | nil (kw vw : WireType) : TaggedEntries kw vw [] []
  | cons {kw vw : WireType} {k v : Value} {rest : List (Value × Value)} {cs ds es : List Call}
      (hkw : k.wireType = kw) (hvw : v.wireType = vw) (hk : Tagged k cs) (hv : Tagged v ds)
      (hrest : TaggedEntries kw vw rest es) :
    TaggedEntries kw vw ((k, v) :: rest) (cs ++ ds ++ es)

end

/-- Elements that have a common tag and write themselves by tagged calls do so in a
row. -/
theorem TaggedItems.of_forall {w : WireType} {calls : Value → List Call} {items : List Value}
    (h : ∀ v ∈ items, v.wireType = w ∧ Tagged v (calls v)) :
    TaggedItems w items (items.flatMap calls) := by
  induction items with
  | nil => exact .nil w
  | cons v rest ih =>
    obtain ⟨⟨hw, hv⟩, hrest⟩ := List.forall_mem_cons.mp h
    exact .cons hw hv (ih hrest)

/-- The same of entries, whose keys have one common tag and whose values another. -/
theorem TaggedEntries.of_forall {kw vw : WireType} {keyCalls valueCalls : Value → List Call}
    {entries : List (Value × Value)}
    (h : ∀ e ∈ entries, (e.1.wireType = kw ∧ Tagged e.1 (keyCalls e.1)) ∧
      e.2.wireType = vw ∧ Tagged e.2 (valueCalls e.2)) :
    TaggedEntries kw vw entries
      (entries.flatMap fun e => keyCalls e.1 ++ valueCalls e.2) := by
  induction entries with
  | nil => exact .nil kw vw
  | cons e rest ih =>
    obtain ⟨⟨⟨hkw, hk⟩, hvw, hv⟩, hrest⟩ := List.forall_mem_cons.mp h
    exact .cons hkw hvw hk hv (ih hrest)

theorem readSeq_of_parts {item : WireType → Reader Value} {kind : SeqKind} {tag : WireType}
    {n : Nat} {items : List Value} {bs bs₁ bs₂ rest : List UInt8}
    (htag : readTag bs = some (tag, bs₁)) (hn : readNumber 4 bs₁ = some (n, bs₂))
    (hitems : readMany (item tag) n bs₂ = some (items, rest)) :
    readSeq item kind bs = some (.seq kind items, rest) := by
  simp [readSeq, htag, hn, hitems]

theorem readMap_of_parts {item : WireType → Reader Value} {keyTag valueTag : WireType}
    {n : Nat} {entries : List (Value × Value)} {bs bs₁ bs₂ bs₃ rest : List UInt8}
    (hkey : readTag bs = some (keyTag, bs₁)) (hvalue : readTag bs₁ = some (valueTag, bs₂))
    (hn : readNumber 4 bs₂ = some (n, bs₃))
    (hentries : readMany (readPair (item keyTag) (item valueTag)) n bs₃ = some (entries, rest)) :
    readMap item bs = some (.map entries, rest) := by
  simp [readMap, hkey, hvalue, hn, hentries]

theorem readWord_bigEndian (width n : Nat) (f : Nat → Datum) (rest : List UInt8) :
    readWord width f (bigEndian width n ++ rest) = some (f (n % 256 ^ width), rest) := by
  simp [readWord, readNumber_bigEndian]

/-- A word of whole bytes is read back. -/
theorem readWord_bitVec (width : Nat) (x : BitVec (8 * width)) (f : Nat → Datum)
    (rest : List UInt8) :
    readWord width f (bigEndian width x.toNat ++ rest) = some (f x.toNat, rest) := by
  have hx : x.toNat < 256 ^ width := by
    have hlt := x.isLt
    rwa [Nat.pow_mul] at hlt
  rw [readWord_bigEndian, Nat.mod_eq_of_lt hx]

/-- A scalar is read back by its tag. -/
theorem readDatum_encode {d : Datum} (h : (Call.datum d).oversize? = none) (rest : List UInt8) :
    readDatum d.kind.wireType (d.encode ++ rest) = some (d.plain, rest) := by
  have hsize : ∀ kind n, (Call.datum d).size? = some (kind, n) → n ≤ maxSize := by
    intro kind n hn
    simpa [Call.oversize?, hn] using h
  cases d with
  | bool b => cases b <;> rfl
  | byte n =>
    have hword := readWord_bitVec 1 n.toBitVec (fun n => .byte (Int8.ofNat n)) rest
    have hn : Int8.ofNat n.toBitVec.toNat = n := by simp [Int8.ofNat]
    rwa [hn] at hword
  | i16 n =>
    have hword := readWord_bitVec 2 n.toBitVec (fun n => .i16 (Int16.ofNat n)) rest
    have hn : Int16.ofNat n.toBitVec.toNat = n := by simp [Int16.ofNat]
    rwa [hn] at hword
  | i32 n =>
    have hword := readWord_bitVec 4 n.toBitVec (fun n => .i32 (Int32.ofNat n)) rest
    have hn : Int32.ofNat n.toBitVec.toNat = n := by simp [Int32.ofNat]
    rwa [hn] at hword
  | i64 n =>
    have hword := readWord_bitVec 8 n.toBitVec (fun n => .i64 (Int64.ofNat n)) rest
    have hn : Int64.ofNat n.toBitVec.toNat = n := by simp [Int64.ofNat]
    rwa [hn] at hword
  | double bits =>
    have hword := readWord_bitVec 8 bits.toBitVec (fun n => .double (UInt64.ofNat n)) rest
    have hn : UInt64.ofNat bits.toBitVec.toNat = bits := by simp
    rwa [hn] at hword
  | string s =>
    have hnum := readNumber_encodeSize (hsize _ _ rfl) (utf8 s ++ rest)
    simp [Datum.kind, DatumKind.wireType, readDatum, Datum.encode, encodeBytes, hnum,
      readBytes_append, Datum.plain]
  | binary bytes =>
    have hnum := readNumber_encodeSize (hsize _ _ rfl) (bytes ++ rest)
    simp [Datum.kind, DatumKind.wireType, readDatum, Datum.encode, encodeBytes, hnum,
      readBytes_append, Datum.plain]

theorem read_datumTag (fuel : Nat) (kind : DatumKind) :
    read (fuel + 1) kind.wireType = fun bs => do
      let (d, bs) ← readDatum kind.wireType bs
      return (.datum d, bs) := by
  cases kind <;> rfl

theorem read_seqTag (fuel : Nat) (kind : SeqKind) :
    read (fuel + 1) kind.wireType = readSeq (read fuel) kind := by
  cases kind <;> rfl

/-- With enough fuel, a reader takes the bytes of the calls off the front, leaves
whatever follows them and gives `x`. -/
def ReadsBack {α : Type} (reader : Nat → Reader α) (cs : List Call) (x : α) : Prop :=
  ∃ n, ∀ fuel, n ≤ fuel → ∀ rest,
    reader fuel (cs.flatMap Call.encode ++ rest) = some (x, rest)

namespace ReadsBack

theorem datum {d : Datum} (h : (Call.datum d).oversize? = none) :
    ReadsBack (fun fuel => read fuel d.kind.wireType) [.datum d] (.datum d.plain) := by
  refine ⟨1, fun fuel hfuel rest => ?_⟩
  obtain ⟨fuel, rfl⟩ := Nat.exists_eq_add_of_le' hfuel
  simp [read_datumTag, Call.encode, readDatum_encode h rest]

theorem seq {kind : SeqKind} {w : WireType} {n : Nat} {cs : List Call} {items : List Value}
    (h : ReadsBack (fun fuel => readMany (read fuel w) n) cs items) (hn : n ≤ maxSize) :
    ReadsBack (fun fuel => read fuel kind.wireType)
      (.seqBegin kind w n :: (cs ++ [.seqEnd kind])) (.seq kind items) := by
  obtain ⟨m, h⟩ := h
  refine ⟨m + 1, fun fuel hfuel rest => ?_⟩
  obtain ⟨fuel, rfl⟩ := Nat.exists_eq_add_of_le' (Nat.le_of_add_left_le hfuel)
  have hitems := h fuel (Nat.le_of_succ_le_succ hfuel) rest
  have hbytes : (Call.seqBegin kind w n :: (cs ++ [.seqEnd kind])).flatMap Call.encode ++ rest =
      w.code :: (encodeSize n ++ (cs.flatMap Call.encode ++ rest)) := by
    simp [Call.encode]
  have hnum := readNumber_encodeSize hn (cs.flatMap Call.encode ++ rest)
  show read (fuel + 1) kind.wireType _ = _
  rw [hbytes, read_seqTag]
  exact readSeq_of_parts (readTag_code w _) hnum hitems

theorem map {kw vw : WireType} {n : Nat} {cs : List Call} {entries : List (Value × Value)}
    (h : ReadsBack (fun fuel => readMany (readPair (read fuel kw) (read fuel vw)) n) cs entries)
    (hn : n ≤ maxSize) :
    ReadsBack (fun fuel => read fuel .map) (.mapBegin kw vw n :: (cs ++ [.mapEnd]))
      (.map entries) := by
  obtain ⟨m, h⟩ := h
  refine ⟨m + 1, fun fuel hfuel rest => ?_⟩
  obtain ⟨fuel, rfl⟩ := Nat.exists_eq_add_of_le' (Nat.le_of_add_left_le hfuel)
  have hentries := h fuel (Nat.le_of_succ_le_succ hfuel) rest
  have hbytes : (Call.mapBegin kw vw n :: (cs ++ [.mapEnd])).flatMap Call.encode ++ rest =
      kw.code :: vw.code :: (encodeSize n ++ (cs.flatMap Call.encode ++ rest)) := by
    simp [Call.encode]
  have hnum := readNumber_encodeSize hn (cs.flatMap Call.encode ++ rest)
  show readMap (read fuel) _ = _
  rw [hbytes]
  exact readMap_of_parts (readTag_code kw _) (readTag_code vw _) hnum hentries

theorem many_nil {α : Type} {reader : Nat → Reader α} :
    ReadsBack (fun fuel => readMany (reader fuel) 0) [] [] :=
  ⟨0, fun _ _ _ => rfl⟩

theorem many_cons {α : Type} {reader : Nat → Reader α} {n : Nat} {cs ds : List Call} {x : α}
    {xs : List α} (hx : ReadsBack reader cs x)
    (hxs : ReadsBack (fun fuel => readMany (reader fuel) n) ds xs) :
    ReadsBack (fun fuel => readMany (reader fuel) (n + 1)) (cs ++ ds) (x :: xs) := by
  obtain ⟨k, hx⟩ := hx
  obtain ⟨m, hxs⟩ := hxs
  -- the first reader sees the bytes of the second as part of what follows
  refine ⟨max k m, fun fuel hfuel rest => ?_⟩
  have hfirst := hx fuel (by omega) (ds.flatMap Call.encode ++ rest)
  have hrest := hxs fuel (by omega) rest
  simp [readMany, hfirst, hrest]

theorem pair {α β : Type} {first : Nat → Reader α} {second : Nat → Reader β}
    {cs ds : List Call} {x : α} {y : β} (hx : ReadsBack first cs x)
    (hy : ReadsBack second ds y) :
    ReadsBack (fun fuel => readPair (first fuel) (second fuel)) (cs ++ ds) (x, y) := by
  obtain ⟨k, hx⟩ := hx
  obtain ⟨m, hy⟩ := hy
  refine ⟨max k m, fun fuel hfuel rest => ?_⟩
  have hfirst := hx fuel (by omega) (ds.flatMap Call.encode ++ rest)
  have hsecond := hy fuel (by omega) rest
  simp [readPair, hfirst, hsecond]

/-- What one reader gives back from the same bytes is the same, and so is what it
leaves. -/
theorem unique {α : Type} {reader : Nat → Reader α} {cs ds : List Call} {x y : α}
    (hx : ReadsBack reader cs x) (hy : ReadsBack reader ds y) {s t : List UInt8}
    (h : cs.flatMap Call.encode ++ s = ds.flatMap Call.encode ++ t) : s = t ∧ x = y := by
  obtain ⟨k, hx⟩ := hx
  obtain ⟨m, hy⟩ := hy
  have hleft := hx (max k m) (by omega) s
  have hright := hy (max k m) (by omega) t
  rw [h, hright] at hleft
  cases hleft
  exact ⟨rfl, rfl⟩

end ReadsBack

mutual

/-- Tagged calls are read back by the tag of the value. -/
theorem Tagged.readsBack : (v : Value) → (cs : List Call) → Tagged v cs →
    (∀ c ∈ cs, c.oversize? = none) →
    ReadsBack (fun fuel => read fuel v.wireType) cs v.plain
  | .datum d, _, .datum _, hfit => .datum (hfit _ List.mem_cons_self)
  | .seq kind items, _, .seq h, hfit => by
    have hsize : items.length ≤ maxSize := by
      have hopen := hfit _ List.mem_cons_self
      simpa [Call.oversize?, Call.size?] using hopen
    have hitems := fun c hc =>
      hfit c (List.mem_cons_of_mem _ (List.mem_append_left _ hc))
    exact .seq (h.readsBack items _ _ hitems) hsize
  | .map entries, _, .map h, hfit => by
    have hsize : entries.length ≤ maxSize := by
      have hopen := hfit _ List.mem_cons_self
      simpa [Call.oversize?, Call.size?] using hopen
    have hentries := fun c hc =>
      hfit c (List.mem_cons_of_mem _ (List.mem_append_left _ hc))
    exact .map (h.readsBack entries _ _ _ hentries) hsize

theorem TaggedItems.readsBack : (items : List Value) → (w : WireType) → (cs : List Call) →
    TaggedItems w items cs → (∀ c ∈ cs, c.oversize? = none) →
    ReadsBack (fun fuel => readMany (read fuel w) items.length) cs (Value.plainItems items)
  | [], _, _, .nil _, _ => .many_nil
  | v :: rest, _, _, .cons hw h hrest, hfit => by
    subst hw
    rw [List.forall_mem_append] at hfit
    exact .many_cons (h.readsBack v _ hfit.1) (hrest.readsBack rest _ _ hfit.2)

theorem TaggedEntries.readsBack : (entries : List (Value × Value)) → (kw vw : WireType) →
    (cs : List Call) → TaggedEntries kw vw entries cs → (∀ c ∈ cs, c.oversize? = none) →
    ReadsBack (fun fuel => readMany (readPair (read fuel kw) (read fuel vw)) entries.length) cs
      (Value.plainEntries entries)
  | [], _, _, _, .nil _ _, _ => .many_nil
  | (k, v) :: rest, _, _, _, .cons hkw hvw hk hv hrest, hfit => by
    subst hkw hvw
    rw [List.forall_mem_append, List.forall_mem_append] at hfit
    exact .many_cons (.pair (hk.readsBack k _ hfit.1.1) (hv.readsBack v _ hfit.1.2))
      (hrest.readsBack rest _ _ _ hfit.2)

end

/-! ## Typed bytes -/

/-- Lists with the same image are the same, if the map tells their members apart. -/
theorem eq_of_map_eq_map {α β : Type} {f : α → β} {xs ys : List α} (h : xs.map f = ys.map f)
    (hinj : ∀ x ∈ xs, ∀ y ∈ ys, f x = f y → x = y) : xs = ys := by
  induction xs generalizing ys with
  | nil => simpa using h.symm
  | cons x xs ih =>
    cases ys with
    | nil => simp at h
    | cons y ys =>
      obtain ⟨hhead, htail⟩ := List.cons.inj h
      have hxs := ih htail fun a ha b hb =>
        hinj a (List.mem_cons_of_mem _ ha) b (List.mem_cons_of_mem _ hb)
      rw [hinj x List.mem_cons_self y List.mem_cons_self hhead, hxs]

theorem utf8_inj {s t : String} (h : utf8 s = utf8 t) : s = t :=
  String.toByteArray_inj.mp (ByteArray.ext (Array.toList_inj.mp h))

theorem Datum.eq_of_plain_eq {d e : Datum} (hkind : d.kind = e.kind) (h : d.plain = e.plain) :
    d = e := by
  cases d with
  | string s =>
    cases e with
    | string t =>
      have hbytes : utf8 s = utf8 t := by simpa [plain] using h
      rw [utf8_inj hbytes]
    | _ => cases hkind
  | _ =>
    cases e with
    | string t => cases hkind
    | _ => exact h

namespace Ty

/-- Scalars and containers only: no part of the type is a struct or a bare name. -/
def Concrete : Ty → Prop
  | scalar _ => True
  | seq _ elem => elem.Concrete
  | map key value => key.Concrete ∧ value.Concrete
  | struct _ => False
  | named _ => False

/-- A value of the very kind that the type names has the tag of the type, and its
serialization announces the tags of its elements. -/
theorem FitsExactly.tagged {ty : Ty} (hty : ty.Concrete) {v : Value} (h : ty.FitsExactly v) :
    v.wireType = ty.announced ∧ Tagged v (ty.calls v) := by
  induction ty generalizing v with
  | scalar s =>
    cases v with
    | datum d =>
      have hkind : d.kind = s.kind := h
      exact ⟨congrArg DatumKind.wireType hkind, .datum d⟩
    | _ => exact h.elim
  | seq kind elem ih =>
    cases v with
    | seq kind' items =>
      obtain ⟨rfl, hitems⟩ := h
      -- all elements fit one type, so they share the tag that is announced
      exact ⟨rfl, .seq (.of_forall fun v hv => ih hty (hitems v hv))⟩
    | _ => exact h.elim
  | map key value ihk ihv =>
    cases v with
    | map entries =>
      refine ⟨rfl, .map (.of_forall fun e he => ?_)⟩
      exact ⟨ihk hty.1 (h e he).1, ihv hty.2 (h e he).2⟩
    | _ => exact h.elim
  | struct name => exact hty.elim
  | named name => exact hty.elim

/-- Values of one type that differ at most in texts and their bytes are the same. -/
theorem FitsExactly.eq_of_plain_eq {ty : Ty} (hty : ty.Concrete) {v w : Value}
    (hv : ty.FitsExactly v) (hw : ty.FitsExactly w) (h : v.plain = w.plain) : v = w := by
  induction ty generalizing v w with
  | scalar s =>
    cases v with
    | datum d =>
      cases w with
      | datum e =>
        have hkind : d.kind = e.kind := Eq.trans hv (Eq.symm hw)
        have hplain : d.plain = e.plain := by simpa [Value.plain] using h
        rw [Datum.eq_of_plain_eq hkind hplain]
      | _ => exact hw.elim
    | _ => exact hv.elim
  | seq kind elem ih =>
    cases v with
    | seq kv vs =>
      cases w with
      | seq kw ws =>
        obtain ⟨rfl, hvs⟩ := hv
        obtain ⟨rfl, hws⟩ := hw
        have hplain : vs.map Value.plain = ws.map Value.plain := by
          simpa [Value.plain, Value.plainItems_eq_map] using h
        rw [eq_of_map_eq_map hplain fun v hv w hw => ih hty (hvs v hv) (hws w hw)]
      | _ => exact hw.elim
    | _ => exact hv.elim
  | map key value ihk ihv =>
    cases v with
    | map vs =>
      cases w with
      | map ws =>
        have hplain := h
        simp only [Value.plain, Value.plainEntries_eq_map, Value.map.injEq] at hplain
        have hentries : vs = ws := by
          apply eq_of_map_eq_map hplain
          intro x hx y hy hxy
          have hkey := ihk hty.1 (hv x hx).1 (hw y hy).1 (congrArg Prod.fst hxy)
          have hvalue := ihv hty.2 (hv x hx).2 (hw y hy).2 (congrArg Prod.snd hxy)
          exact Prod.ext hkey hvalue
        rw [hentries]
      | _ => exact hw.elim
    | _ => exact hv.elim
  | struct name => exact hty.elim
  | named name => exact hty.elim

/-- The bytes that a program of the type leaves in a fresh buffer, run with the
value at a variable or field. -/
def Writes (ty : Ty) (v : Value) (bs : List UInt8) : Prop :=
  ∃ (a : Access) (env : Environment) (p : Program), a.binding? = none ∧
    env.get? a.text = some v ∧ ty.program none a = .ok p ∧
    execute env p ({} : Buffer) = .ok () ⟨bs⟩

/-- Such bytes are those of the serialization, none of whose calls is oversize. -/
theorem Writes.eq_encode {ty : Ty} {v : Value} {bs : List UInt8} (h : ty.Writes v bs)
    (hfit : ty.Fits v) :
    (∀ c ∈ ty.calls v, c.oversize? = none) ∧ bs = (ty.calls v).flatMap Call.encode := by
  obtain ⟨a, env, p, ha, hv, hp, hrun⟩ := h
  have hrec : execute env p ({} : Recording) = finish (.ok ()) ⟨ty.calls v⟩ :=
    execute_program hp ha hv hfit {}
  rw [(execute_replayed env p).eq_on hrec Buffer {}] at hrun
  obtain ⟨hsize, hbytes⟩ := Trace.bytes_of_on_eq_ok hrun
  exact ⟨hsize, congrArg Buffer.bytes hbytes⟩

end Ty

/-- Bytes written by type are self-describing: wherever they end, and whatever
types with a common tag they were written by, they stand for one value up to the
texts in it, and for one value outright when the type is the same. -/
theorem typed_bytes_determine_value (ty₁ ty₂ : Ty) (v₁ v₂ : Value) (bs₁ bs₂ s₁ s₂ : List UInt8)
    (hty₁ : ty₁.Concrete) (hty₂ : ty₂.Concrete) (hwire : ty₁.wireType = ty₂.wireType)
    (hfit₁ : ty₁.FitsExactly v₁) (hfit₂ : ty₂.FitsExactly v₂)
    (hbs₁ : ty₁.Writes v₁ bs₁) (hbs₂ : ty₂.Writes v₂ bs₂) (h : bs₁ ++ s₁ = bs₂ ++ s₂) :
    s₁ = s₂ ∧ v₁.plain = v₂.plain ∧ (ty₁ = ty₂ → v₁ = v₂) := by
  obtain ⟨hsize₁, rfl⟩ := hbs₁.eq_encode hfit₁.fits
  obtain ⟨hsize₂, rfl⟩ := hbs₂.eq_encode hfit₂.fits
  obtain ⟨hw₁, htag₁⟩ := hfit₁.tagged hty₁
  obtain ⟨hw₂, htag₂⟩ := hfit₂.tagged hty₂
  -- one tag, hence one reader for both
  have hw : v₂.wireType = v₁.wireType := by rw [hw₁, hw₂, Ty.announced, Ty.announced, hwire]
  have hread₁ := htag₁.readsBack v₁ _ hsize₁
  have hread₂ := htag₂.readsBack v₂ _ hsize₂
  rw [hw] at hread₂
  obtain ⟨hs, hplain⟩ := hread₁.unique hread₂ h
  refine ⟨hs, hplain, ?_⟩
  rintro rfl
  exact hfit₁.eq_of_plain_eq hty₁ hfit₂ hplain

/-- A map from texts and one from byte strings leave the same bytes, and stand for
one value but for the text. -/
theorem texts_and_bytes_share_bytes :
    let ty₁ : Ty := .map (.scalar .string) (.seq .list (.scalar .i16))
    let ty₂ : Ty := .map (.scalar .binary) (.seq .list (.scalar .i16))
    let v₁ : Value := .map [(.datum (.string "é"), .seq .list [.datum (.i16 (-2))])]
    let v₂ : Value := .map [(.datum (.binary [0xc3, 0xa9]), .seq .list [.datum (.i16 (-2))])]
    let bs : List UInt8 :=
      [11, 15, 0, 0, 0, 1, 0, 0, 0, 2, 0xc3, 0xa9, 6, 0, 0, 0, 1, 0xff, 0xfe]
    ty₁.Writes v₁ bs ∧ ty₂.Writes v₂ bs ∧ v₁.plain = v₂.plain := by
  intro ty₁ ty₂ v₁ v₂ bs
  have hbs₁ : ty₁.Writes v₁ bs := ⟨.var "x", ({} : Environment).bind "x" v₁, _, rfl, rfl, rfl, rfl⟩
  have hbs₂ : ty₂.Writes v₂ bs := ⟨.var "x", ({} : Environment).bind "x" v₂, _, rfl, rfl, rfl, rfl⟩
  have hfit₁ : ty₁.FitsExactly v₁ := by
    simp [ty₁, v₁, Ty.FitsExactly, Ty.FitsUpTo, Datum.kind, Scalar.kind]
  have hfit₂ : ty₂.FitsExactly v₂ := by
    simp [ty₂, v₂, Ty.FitsExactly, Ty.FitsUpTo, Datum.kind, Scalar.kind]
  have hsame := typed_bytes_determine_value ty₁ ty₂ v₁ v₂ bs bs [9] [9] ⟨trivial, trivial⟩
    ⟨trivial, trivial⟩ rfl hfit₁ hfit₂ hbs₁ hbs₂ rfl
  exact ⟨hbs₁, hbs₂, hsame.2.1⟩

end WireScribe

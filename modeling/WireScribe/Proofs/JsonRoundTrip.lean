import WireScribe.Ty.Json
import WireScribe.Ty.OfJson

/-!
# WireScribe.Proofs.JsonRoundTrip — types survive their JSON form

1. **Strings**: a quoted text is read as the text, whatever its characters.
2. **Tokens**: what the readers of names, colons and keys do where these stand.
3. **Fields**: one turn of the reader of an object.
4. **Types**: `Ty.jsonDepth` counts the objects that enclose one another. A type is read
   back exactly if there are no more of them than the reader admits.
-/

namespace WireScribe

namespace JsonText

open Text

/-! ## Strings -/

/-- A unit that is no half of a pair stands for its own character. -/
theorem join?_unit {n : Nat} (h : n < 0xd800) (ps : List Piece) :
    join? (.unit n :: ps) = (join? ps).map (Char.ofNat n :: ·) := by
  have hhigh : isHighSurrogate n = false := by
    simp [isHighSurrogate]
    omega
  have hlow : isLowSurrogate n = false := by
    simp [isLowSurrogate]
    omega
  cases ps with
  | nil => simp [join?, hhigh, hlow]
  | cons p ps => cases p <;> simp [join?, hhigh, hlow]

theorem pieces?_unit {a b c d : Char} {n : Nat} (h : unit? a b c d = some n)
    (rest : List Char) :
    pieces? ('\\' :: 'u' :: a :: b :: c :: d :: rest) = consPiece (.unit n) (pieces? rest) := by
  simp only [pieces?, h]

/-- Four digits, of which the first two are zeros, give back a number below 32. -/
theorem unit?_hex {n : Nat} (h : n < 0x20) :
    (n < 0x10 → hex n = [Nat.digitChar n] ∧ unit? '0' '0' '0' (Nat.digitChar n) = some n) ∧
      (0x10 ≤ n → hex n = ['1', Nat.digitChar (n - 0x10)] ∧
        unit? '0' '0' '1' (Nat.digitChar (n - 0x10)) = some n) := by
  revert n
  decide

/-- A written character is read as one part of a string, which stands for it. -/
theorem escapeChar_read (c : Char) :
    ∃ p, (∀ rest, pieces? (escapeChar c ++ rest) = consPiece p (pieces? rest)) ∧
      ∀ ps, join? (p :: ps) = (join? ps).map (c :: ·) := by
  have hchar : ∀ (c : Char) (ps : List Piece), join? (.char c :: ps) = (join? ps).map (c :: ·) :=
    fun _ _ => rfl
  fun_cases escapeChar c with
  | case1 | case2 | case3 | case4 | case5 | case6 | case7 =>
    exact ⟨.char _, fun _ => rfl, hchar _⟩
  | case8 c _ _ _ _ _ _ _ hlt =>
    obtain ⟨hdigits, hunit⟩ := (unit?_hex (by omega)).1 hlt
    refine ⟨.unit c.toNat, fun rest => ?_, fun ps => ?_⟩
    · rw [hdigits]
      exact pieces?_unit hunit rest
    · rw [join?_unit (by omega), Char.ofNat_toNat]
  | case9 c _ _ _ _ _ _ _ hge hlt =>
    obtain ⟨hdigits, hunit⟩ := (unit?_hex hlt).2 (by omega)
    refine ⟨.unit c.toNat, fun rest => ?_, fun ps => ?_⟩
    · rw [hdigits]
      exact pieces?_unit hunit rest
    · rw [join?_unit (by omega), Char.ofNat_toNat]
  | case10 c hquote hslash _ _ _ _ _ _ hge =>
    refine ⟨.char c, fun rest => ?_, hchar c⟩
    rw [List.singleton_append, pieces?, if_neg hge]
    · exact hquote
    · intro _ _ _ _ _ hc _
      exact hslash hc
    · intro _ _ hc _
      exact hslash hc

/-- A text is read back from between its quotes, whatever follows. -/
theorem string?_escaped (s : String) (rest : List Char) :
    string? (s.toList.flatMap escapeChar ++ '"' :: rest) = some (s, rest) := by
  have hpieces : ∀ cs : List Char, ∃ ps,
      pieces? (cs.flatMap escapeChar ++ '"' :: rest) = some (ps, rest) ∧ join? ps = some cs := by
    intro cs
    induction cs with
    | nil => exact ⟨[], rfl, rfl⟩
    | cons c cs ih =>
      obtain ⟨ps, hps, hjoin⟩ := ih
      obtain ⟨p, hread, hfirst⟩ := escapeChar_read c
      refine ⟨p :: ps, ?_, ?_⟩
      · rw [List.flatMap_cons, List.append_assoc, hread, hps, consPiece]
      · rw [hfirst, hjoin, Option.map_some]
  obtain ⟨ps, hps, hjoin⟩ := hpieces s.toList
  simp [string?, hps, hjoin]

theorem skipSpace_cons {c : Char} (h : isSpace c = false) (rest : List Char) :
    skipSpace (c :: rest) = c :: rest := by
  simp [skipSpace, h]

theorem quote_append (s : String) (rest : List Char) :
    quote s ++ rest = '"' :: (s.toList.flatMap escapeChar ++ '"' :: rest) := by
  simp [quote]

end JsonText

open JsonText

/-! ## Tokens -/

theorem readName_quote (s : String) (rest : List Char) :
    readName (quote s ++ rest) = .ok (s, rest) := by
  rw [quote_append]
  show orMalformed (string? _) = _
  rw [string?_escaped, orMalformed]

theorem readString_quote (s : String) (rest : List Char) :
    readString (quote s ++ rest) = .ok (s, rest) := by
  rw [quote_append]
  show orMalformed (string? _) = _
  rw [string?_escaped, orMalformed]

theorem readColon_colon (rest : List Char) : readColon (':' :: rest) = .ok rest := rfl

theorem readKey_first (s : String) (rest : List Char) :
    readKey true (quote s ++ rest) = .ok (some s, rest) := by
  show (readName (quote s ++ rest) >>= fun found => .ok (some found.1, found.2)) = _
  rw [readName_quote]
  rfl

theorem readKey_next (s : String) (rest : List Char) :
    readKey false (',' :: (quote s ++ rest)) = .ok (some s, rest) := by
  show (readName (quote s ++ rest) >>= fun found => .ok (some found.1, found.2)) = _
  rw [readName_quote]
  rfl

theorem readKey_brace (first : Bool) (rest : List Char) :
    readKey first ('\x7d' :: rest) = .ok (none, '\x7d' :: rest) := rfl

theorem readForm_name (form : Form) : readForm form.name = .ok form := by
  rw [readForm, Form.ofName?_name]

/-! ## Fields -/

section Fields

variable {σ : Type} {member : σ → String → Except JsonFault (JsonReader σ)} {first : Bool}
  {known : σ} {cs : List Char}

/-- At the closing brace nothing more becomes known. -/
theorem readFields_brace (rest : List Char) :
    readFields member first known ('\x7d' :: rest) = .ok (known, '\x7d' :: rest) := by
  rw [readFields, readKey_brace]

variable {name : String} {content : List Char} {read : JsonReader σ}

/-- A field whose value can be read leaves the rest of the fields to be read. -/
theorem readFields_of_read (hkey : readKey first cs = .ok (some name, ':' :: content))
    (hmember : member known name = .ok read) {known' : σ} {rest : List Char}
    (hread : read content = .ok (known', rest)) (hlt : rest.length < cs.length) :
    readFields member first known cs = readFields member false known' rest := by
  rw [readFields, hkey]
  simp [hmember, readColon_colon, bind, Except.bind, hread, hlt]

/-- A field whose value cannot be read fails them all. -/
theorem readFields_of_error (hkey : readKey first cs = .ok (some name, ':' :: content))
    (hmember : member known name = .ok read) {e : JsonFault} (hread : read content = .error e) :
    readFields member first known cs = .error e := by
  rw [readFields, hkey]
  simp [hmember, readColon_colon, bind, Except.bind, hread]

end Fields

/-! ## Types -/

/-- How many objects enclose one another in the JSON of a type. The content of `map`
and of `struct` is an object of its own. -/
def Ty.jsonDepth : Ty → Nat
  | .scalar _ => 0
  | .seq _ elem => elem.jsonDepth + 1
  | .map key value => max key.jsonDepth value.jsonDepth + 2
  | .struct _ => 2
  | .named _ => 1

theorem jsonObject_append (key : String) (content rest : List Char) :
    jsonObject key content ++ rest =
      '\x7b' :: (quote key ++ ':' :: (content ++ '\x7d' :: rest)) := by
  simp [jsonObject]

/-- The reader for what stands one more object further down. -/
def deeperReader : Nat → Option (JsonReader Ty)
  | 0 => none
  | levels + 1 => some (readTy levels)

/-- With no level left there is no object. -/
theorem readTy_zero_object (key : String) (content rest : List Char) :
    readTy 0 (jsonObject key content ++ rest) = .error .malformed := by
  rw [jsonObject_append, readTy]
  rfl

/-- An object is read as its form reads the content, up to the closing brace. -/
theorem readTy_object (levels : Nat) (form : Form) (content rest : List Char) :
    readTy (levels + 1) (jsonObject form.name content ++ rest) = do
      let (ty, more) ← readFormContent (readTy levels) (deeperReader levels) form
        (content ++ '\x7d' :: rest)
      return (ty, ← readObjectEnd more) := by
  rw [jsonObject_append, readTy, skipSpace_cons (by decide)]
  simp only [readName_quote, readForm_name, readColon_colon, bind, Except.bind]
  cases levels <;> rfl

/-- With so many levels left, the type is read back off the front of a text if they
are enough, and the text is refused otherwise. -/
def Ty.ReadsBack (levels : Nat) (ty : Ty) : Prop :=
  ∀ rest, readTy levels (ty.jsonChars ++ rest) =
    if ty.jsonDepth ≤ levels then .ok (ty, rest) else .error .malformed

/-- A type whose JSON is an object is read back if its content is, one level further
down. -/
theorem readsBack_object {ty : Ty} (form : Form) {content : List Char}
    (hchars : ty.jsonChars = jsonObject form.name content) (hdepth : 0 < ty.jsonDepth)
    (hcontent : ∀ levels more,
      readFormContent (readTy levels) (deeperReader levels) form (content ++ '\x7d' :: more) =
        if ty.jsonDepth ≤ levels + 1 then .ok (ty, '\x7d' :: more) else .error .malformed)
    (levels : Nat) : ty.ReadsBack levels := by
  intro rest
  rw [hchars]
  cases levels with
  | zero => rw [readTy_zero_object, if_neg (by omega)]
  | succ levels =>
    rw [readTy_object, hcontent]
    split
    · rfl
    · rfl

/-- A `map` object is read back if both of its parts are, the key first. -/
theorem readMapObject_parts {levels : Nat} {key value : Ty} (hkey : key.ReadsBack levels)
    (hvalue : value.ReadsBack levels) (rest : List Char) :
    readMapObject (readTy levels) (quote "key" ++ ':' :: (key.jsonChars ++
      ',' :: (quote "value" ++ ':' :: (value.jsonChars ++ '\x7d' :: rest)))) =
        if max key.jsonDepth value.jsonDepth ≤ levels then .ok (.map key value, rest)
        else .error .malformed := by
  rw [readMapObject]
  by_cases hk : key.jsonDepth ≤ levels
  · -- the key is known, and the value decides
    have hread : ∀ more, readTy levels (key.jsonChars ++ more) = .ok (key, more) := by
      intro more
      rw [hkey, if_pos hk]
    rw [readFields_of_read (readKey_first _ _) rfl (by rw [hread]; rfl) (by simp; omega)]
    by_cases hv : value.jsonDepth ≤ levels
    · rw [if_pos (by omega),
        readFields_of_read (readKey_next _ _) rfl (by rw [hvalue, if_pos hv]; rfl) (by simp; omega),
        readFields_brace]
      rfl
    · rw [if_neg (by omega),
        readFields_of_error (readKey_next _ _) rfl (by rw [hvalue, if_neg hv]; rfl)]
      rfl
  · rw [if_neg (by omega),
      readFields_of_error (readKey_first _ _) rfl (by rw [hkey, if_neg hk]; rfl)]
    rfl

/-- A `struct` object gives the name. -/
theorem readStructObject_name (name : String) (rest : List Char) :
    readStructObject (quote "name" ++ ':' :: (quote name ++ '\x7d' :: rest)) =
      .ok (.struct name, rest) := by
  rw [readStructObject,
    readFields_of_read (readKey_first _ _) rfl (by rw [readString_quote]; rfl) (by simp; omega),
    readFields_brace]
  rfl

/-- The name of a scalar is all there is to it. -/
theorem readTy_scalar (levels : Nat) (s : Scalar) (rest : List Char) :
    readTy levels (quote s.name ++ rest) = .ok (.scalar s, rest) := by
  have hform : readForm s.name = .ok (.scalar s) := readForm_name (.scalar s)
  rw [quote_append, readTy, skipSpace_cons (by decide)]
  simp only [string?_escaped, orMalformed, hform, bind, Except.bind]
  rfl

/-- Every type is read back wherever its depth allows. -/
theorem Ty.readsBack (ty : Ty) (levels : Nat) : ty.ReadsBack levels := by
  induction ty generalizing levels with
  | scalar s =>
    intro rest
    rw [jsonDepth, if_pos (Nat.zero_le levels)]
    exact readTy_scalar levels s rest
  | seq kind elem ih =>
    refine readsBack_object (.seq kind) rfl (by simp [jsonDepth]) ?_ levels
    intro levels more
    rw [readFormContent, ih levels, jsonDepth]
    simp only [Nat.add_le_add_iff_right]
    split
    · rfl
    · rfl
  | map key value ihk ihv =>
    refine readsBack_object .map rfl (by simp [jsonDepth]) ?_ levels
    intro levels more
    cases levels with
    | zero => rfl
    | succ levels =>
      simp only [List.cons_append, List.append_assoc, List.nil_append]
      show readMapObject (readTy levels) _ = _
      rw [readMapObject_parts (ihk levels) (ihv levels), jsonDepth]
      simp only [Nat.add_le_add_iff_right]
  | struct name =>
    refine readsBack_object .struct rfl (by simp [jsonDepth]) ?_ levels
    intro levels more
    cases levels with
    | zero => rfl
    | succ levels =>
      rw [jsonObject_append, jsonDepth, if_pos (by omega)]
      exact readStructObject_name name _
  | named name =>
    refine readsBack_object .named rfl (by simp [jsonDepth]) ?_ levels
    intro levels more
    rw [readFormContent, readString_quote, jsonDepth, if_pos (by omega)]
    rfl

/-- Whatever the names in it, a type is read back from its JSON exactly, unless more
than 127 objects enclose one another there. In that case nothing is read. -/
theorem json_read_back (ty : Ty) :
    Ty.ofJson ty.json = if ty.jsonDepth ≤ 127 then .ok ty else .error .malformed := by
  have hread := ty.readsBack maxLevels []
  rw [List.append_nil] at hread
  rw [Ty.ofJson, Ty.json, String.toList_ofList, hread, maxLevels]
  split <;> rfl

end WireScribe

import WireScribe.JsonText.Skip
import WireScribe.Ty

/-!
# WireScribe.Ty.OfJson — types read from JSON

A text is read from left to right, straight into a type, and reading stops at the
first fault.

1. **Faults**: a text that is no JSON, or JSON that is no type.
2. **Tokens**: strings, colons, ends of objects and arrays.
3. **Contents**: what stands behind the name of a form.
4. **Types**: objects and arrays may enclose one another 127 times.
-/

namespace WireScribe

/-! ## Faults -/

/-- What stands in the text where something else was due. -/
inductive JsonFound where
  | integer (n : Int)
  /-- A number that is no integer, by the bits of its double. -/
  | floating (bits : UInt64)
  | boolean (b : Bool)
  | string (s : String)
  | null
  | sequence
  | map
deriving Repr, DecidableEq

/-- What was found, in words. -/
def JsonFound.message : JsonFound → String
  | integer n => s!"integer `{n}`"
  | floating bits => s!"floating point `{JsonText.doubleLayout.text bits}`"
  | boolean b => s!"boolean `{b}`"
  | string s => s!"string {Text.quoted s}"
  | null => "null"
  | sequence => "sequence"
  | map => "map"

/-- What was due. -/
inductive JsonDue where
  /-- Nothing, behind the name of a scalar. -/
  | unit
  | string
  /-- The content of `map`. -/
  | mapContent
  /-- The content of `struct`. -/
  | structContent
deriving Repr, DecidableEq

/-- What was due, in words. -/
def JsonDue.message : JsonDue → String
  | unit => "unit"
  | string => "a string"
  | mapContent => "struct variant TypeDescriptor::Map"
  | structContent => "struct StructRef"

/-- The forms of a type, by name. -/
inductive Form where
  | scalar (s : Scalar)
  | seq (kind : SeqKind)
  | map
  | struct
  | named
deriving Repr, DecidableEq

namespace Form

/-- Every form. -/
def all : List Form :=
  Scalar.all.map scalar ++ [seq .list, seq .set, map, struct, named]

/-- The form's name. -/
def name : Form → String
  | scalar s => s.name
  | seq kind => kind.name
  | map => "map"
  | struct => "struct"
  | named => "named"

/-- The form with a given name. -/
def ofName? (s : String) : Option Form := all.find? (·.name == s)

/-- A name belongs to one form. -/
theorem ofName?_name (form : Form) : ofName? form.name = some form := by
  cases form with
  | scalar s => cases s <;> rfl
  | seq kind => cases kind <;> rfl
  | map => rfl
  | struct => rfl
  | named => rfl

end Form

/-- Why a text is not a type. -/
inductive JsonFault where
  /-- The text is not JSON, nests too deep, or goes on behind the type. -/
  | malformed
  | unknownForm (name : String)
  /-- A form that needs content stands alone. -/
  | noContent (form : Form)
  | wrongType (found : JsonFound) (due : JsonDue)
  | missingField (name : String)
  | duplicateField (name : String)
  /-- An array with too few elements. -/
  | tooShort (length : Nat) (due : JsonDue)
deriving Repr, DecidableEq

/-- What was due where an array stands for the content, in words. -/
def JsonDue.arrayMessage : JsonDue → String
  | mapContent => mapContent.message ++ " with 2 elements"
  | structContent => structContent.message ++ " with 1 element"
  | due => due.message

/-- What is reported; for a text that is no JSON nothing more is said. -/
def JsonFault.message? : JsonFault → Option String
  | malformed => none
  | unknownForm name =>
    let known := Form.all.map fun f => s!"`{f.name}`"
    some (s!"unknown variant `{name}`, expected one of " ++ String.intercalate ", " known)
  | noContent .map => some "invalid type: unit variant, expected struct variant"
  | noContent _ => some "invalid type: unit variant, expected newtype variant"
  | wrongType found due => some s!"invalid type: {found.message}, expected {due.message}"
  | missingField name => some s!"missing field `{name}`"
  | duplicateField name => some s!"duplicate field `{name}`"
  | tooShort length due => some s!"invalid length {length}, expected {due.arrayMessage}"

/-! ## Tokens -/

open JsonText

/-- Reads something off the front of a text. -/
abbrev JsonReader (α : Type) := List Char → Except JsonFault (α × List Char)

/-- Reads a part whose only fault is that it is malformed. -/
def orMalformed {α : Type} : Option α → Except JsonFault α
  | some a => .ok a
  | none => .error .malformed

/-- The fault when something else stands at the front of a text. A scalar there is
read first, and may be malformed itself. -/
def wrongType (due : JsonDue) (cs : List Char) : JsonFault :=
  let found :=
    match cs with
    | '[' :: _ => some .sequence
    | '\x7b' :: _ => some .map
    | '"' :: rest => (string? rest).map fun (s, _) => .string s
    | 'n' :: rest => (afterWord? "ull".toList rest).map fun _ => .null
    | 't' :: rest => (afterWord? "rue".toList rest).map fun _ => .boolean true
    | 'f' :: rest => (afterWord? "alse".toList rest).map fun _ => .boolean false
    | cs =>
      match (numeral? cs).bind fun (n, _) => n.quantity? with
      | some (.integer n) => some (.integer n)
      | some (.double bits) => some (.floating bits)
      | none => none
  match found with
  | some found => .wrongType found due
  | none => .malformed

/-- Reads a string where a value is due. -/
def readString : JsonReader String := fun cs =>
  match skipSpace cs with
  | '"' :: rest => orMalformed (string? rest)
  | cs => .error (wrongType .string cs)

/-- Reads the name of a member. Nothing but a string can name one. -/
def readName : JsonReader String := fun cs =>
  match skipSpace cs with
  | '"' :: rest => orMalformed (string? rest)
  | _ => .error .malformed

/-- Reads the colon behind a key. -/
def readColon (cs : List Char) : Except JsonFault (List Char) :=
  match skipSpace cs with
  | ':' :: rest => .ok rest
  | _ => .error .malformed

/-- Reads the brace that closes an object. -/
def readObjectEnd (cs : List Char) : Except JsonFault (List Char) :=
  match skipSpace cs with
  | '\x7d' :: rest => .ok rest
  | _ => .error .malformed

/-- Reads the bracket that closes an array. -/
def readArrayEnd (cs : List Char) : Except JsonFault (List Char) :=
  match skipSpace cs with
  | ']' :: rest => .ok rest
  | _ => .error .malformed

/-- Reads the next key of an object, or finds that the object ends. -/
def readKey (first : Bool) (cs : List Char) : Except JsonFault (Option String × List Char) :=
  let key : JsonReader (Option String) := fun cs => do
    let (name, rest) ← readName cs
    return (some name, rest)
  match skipSpace cs with
  | '\x7d' :: rest => .ok (none, '\x7d' :: rest)
  | ',' :: rest => if first then .error .malformed else key rest
  | cs => if first then key cs else .error .malformed

/-- Goes to the next element of an array, or finds that the array ends. -/
def nextElement (first : Bool) (cs : List Char) : Except JsonFault (Bool × List Char) :=
  match skipSpace cs with
  | [] => .error .malformed
  | ']' :: rest => .ok (false, ']' :: rest)
  | ',' :: rest =>
    if first then .ok (true, ',' :: rest)
    else
      match skipSpace rest with
      | [] | ']' :: _ => .error .malformed
      | rest => .ok (true, rest)
  | cs => if first then .ok (true, cs) else .error .malformed

/-! ## Contents -/

/-- Reads what stands behind the name of a scalar: `null`. -/
def readUnit (cs : List Char) : Except JsonFault (List Char) :=
  match skipSpace cs with
  | 'n' :: rest => orMalformed (afterWord? "ull".toList rest)
  | cs => .error (wrongType .unit cs)

/-- Reads the fields of an object up to its closing brace. `member` says how a
field with a given name is read into what is known so far, or why it may not
stand there, which is settled before its value is looked at. Every turn uses up a
part of the text. -/
def readFields {σ : Type} (member : σ → String → Except JsonFault (JsonReader σ))
    (first : Bool) (known : σ) (cs : List Char) : Except JsonFault (σ × List Char) :=
  match readKey first cs with
  | .error e => .error e
  | .ok (none, rest) => .ok (known, rest)
  | .ok (some name, rest) =>
    match member known name with
    | .error e => .error e
    | .ok read =>
      match readColon rest >>= read with
      | .error e => .error e
      | .ok (known, rest) =>
        if rest.length < cs.length then readFields member false known rest
        else .error .malformed
termination_by cs.length

/-- Passes over a field that says nothing about the type. -/
def skipMember {σ : Type} (known : σ) : JsonReader σ := fun cs => do
  return (known, ← orMalformed (skipValue? cs))

/-- The fields of a `map` object: a key type and a value type. -/
def mapMember (read : JsonReader Ty) (known : Option Ty × Option Ty) (name : String) :
    Except JsonFault (JsonReader (Option Ty × Option Ty)) :=
  if name = "key" then
    if known.1.isSome then .error (.duplicateField name)
    else .ok fun cs => do
      let (ty, rest) ← read cs
      return ((some ty, known.2), rest)
  else if name = "value" then
    if known.2.isSome then .error (.duplicateField name)
    else .ok fun cs => do
      let (ty, rest) ← read cs
      return ((known.1, some ty), rest)
  else .ok (skipMember known)

/-- Reads a `map` object from behind its opening brace. -/
def readMapObject (read : JsonReader Ty) : JsonReader Ty := fun cs => do
  let (known, rest) ← readFields (mapMember read) true (none, none) cs
  match known with
  | (some key, some value) => return (.map key value, ← readObjectEnd rest)
  | (none, _) => throw (.missingField "key")
  | (some _, none) => throw (.missingField "value")

/-- Reads a `map` array from behind its opening bracket: the key type and the
value type. -/
def readMapArray (read : JsonReader Ty) : JsonReader Ty := fun cs => do
  let (more, rest) ← nextElement true cs
  if !more then throw (.tooShort 0 .mapContent)
  let (key, rest) ← read rest
  let (more, rest) ← nextElement false rest
  if !more then throw (.tooShort 1 .mapContent)
  let (value, rest) ← read rest
  return (.map key value, ← readArrayEnd rest)

/-- The field of a `struct` object: a name. -/
def structMember (known : Option String) (name : String) :
    Except JsonFault (JsonReader (Option String)) :=
  if name = "name" then
    if known.isSome then .error (.duplicateField name)
    else .ok fun cs => do
      let (s, rest) ← readString cs
      return (some s, rest)
  else .ok (skipMember known)

/-- Reads a `struct` object from behind its opening brace. -/
def readStructObject : JsonReader Ty := fun cs => do
  let (known, rest) ← readFields structMember true none cs
  match known with
  | some name => return (.struct name, ← readObjectEnd rest)
  | none => throw (.missingField "name")

/-- Reads a `struct` array from behind its opening bracket: the name. -/
def readStructArray : JsonReader Ty := fun cs => do
  let (more, rest) ← nextElement true cs
  if !more then throw (.tooShort 0 .structContent)
  let (s, rest) ← readString rest
  return (.struct s, ← readArrayEnd rest)

/-- Reads content that is an object or an array, each by its own reader, and each
one level deeper: `none` says that no level is left. -/
def readContent (due : JsonDue) (object array : Option (JsonReader Ty)) : JsonReader Ty :=
  fun cs =>
    match skipSpace cs with
    | '\x7b' :: rest =>
      match object with
      | some read => read rest
      | none => .error .malformed
    | '[' :: rest =>
      match array with
      | some read => read rest
      | none => .error .malformed
    | cs => .error (wrongType due cs)

/-! ## Types -/

/-- The form with a given name. -/
def readForm (name : String) : Except JsonFault Form :=
  match Form.ofName? name with
  | some form => .ok form
  | none => .error (.unknownForm name)

/-- Reads what stands behind the name of a form, with `inner` for a type that
stands there itself and `deeper` for types inside one more object or array. -/
def readFormContent (inner : JsonReader Ty) (deeper : Option (JsonReader Ty)) (form : Form) :
    JsonReader Ty :=
  fun cs =>
    match form with
    | .scalar s => do return (.scalar s, ← readUnit cs)
    | .seq kind => do
      let (elem, rest) ← inner cs
      return (.seq kind elem, rest)
    | .map =>
      readContent .mapContent
        (deeper.map readMapObject) (deeper.map readMapArray) cs
    | .struct =>
      readContent .structContent
        (deeper.map fun _ => readStructObject) (deeper.map fun _ => readStructArray) cs
    | .named => do
      let (s, rest) ← readString cs
      return (.named s, rest)

/-- Reads a type inside which `levels` further objects or arrays may be open. -/
def readTy (levels : Nat) : JsonReader Ty := fun cs =>
  match skipSpace cs with
  | '"' :: rest => do
    let (name, rest) ← orMalformed (string? rest)
    match ← readForm name with
    | .scalar s => return (.scalar s, rest)
    | form => throw (.noContent form)
  | '\x7b' :: rest =>
    match levels with
    | 0 => .error .malformed
    | inner + 1 => do
      let (name, rest) ← readName rest
      let form ← readForm name
      let rest ← readColon rest
      let deeper :=
        match inner with
        | 0 => none
        | deeper + 1 => some (readTy deeper)
      let (ty, rest) ← readFormContent (readTy inner) deeper form rest
      return (ty, ← readObjectEnd rest)
  | _ => .error .malformed

/-- How many objects and arrays may enclose one another. -/
def maxLevels : Nat := 127

/-- Reads a whole text as a type. -/
def Ty.ofJson (text : String) : Except JsonFault Ty := do
  let (ty, rest) ← readTy maxLevels text.toList
  match skipSpace rest with
  | [] => return ty
  | _ => throw .malformed

end WireScribe

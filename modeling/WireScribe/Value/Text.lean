import WireScribe.Decimal.Shortest
import WireScribe.Text.Basic
import WireScribe.Value

/-!
# WireScribe.Value.Text — values as diagnostic text

A value is shown as its kind with the content in parentheses, such as
`I32(3)` or `List([Bool(true)])`. What a struct holds is not shown inside a
value; a record on its own shows its name and fields.
-/

namespace WireScribe

/-- Doubles are positional from 0.0001 up to below 10^16 and have an exponent
without a plus sign outside; of two equally near decimals the larger is taken. -/
def Value.doubleLayout : Decimal.Layout where
  positionalFrom := -4
  positionalBelow := 16
  signed := false
  tie := .up

/-- Texts in square brackets, separated by commas. -/
def bracketed (texts : List String) : String :=
  "[" ++ String.intercalate ", " texts ++ "]"

/-- A scalar as text. -/
def Datum.text : Datum → String
  | .bool b => s!"Bool({b})"
  | .byte n => s!"Byte({n.toInt})"
  | .i16 n => s!"I16({n.toInt})"
  | .i32 n => s!"I32({n.toInt})"
  | .i64 n => s!"I64({n.toInt})"
  | .double bits => s!"Double({Value.doubleLayout.text bits})"
  | .string s => s!"String({Text.quoted s})"
  | .binary bytes => "Binary(" ++ bracketed (bytes.map fun b => toString b.toNat) ++ ")"

namespace Value

/-- The name that introduces a list or a set. -/
def seqName : SeqKind → String
  | .list => "List"
  | .set => "Set"

mutual

/-- A value as text. -/
def text : Value → String
  | datum d => d.text
  | seq kind items => seqName kind ++ "(" ++ bracketed (itemTexts items) ++ ")"
  | map entries => "Map(" ++ bracketed (entryTexts entries) ++ ")"
  | record _ _ => "Struct(..)"
  | script _ => "Struct(..)"

/-- Elements as texts, in order. -/
def itemTexts : List Value → List String
  | [] => []
  | v :: rest => v.text :: itemTexts rest

/-- Entries as texts, in order. -/
def entryTexts : List (Value × Value) → List String
  | [] => []
  | (k, v) :: rest => ("(" ++ k.text ++ ", " ++ v.text ++ ")") :: entryTexts rest

end

/-- A record on its own as text. -/
def recordText (name : String) (fields : List (Int16 × Value)) : String :=
  let shown := fields.map fun (id, v) => s!"({id.toInt}, {v.text})"
  "Record \x7b name: " ++ Text.quoted name ++ ", fields: " ++ bracketed shown ++ " \x7d"

end Value

end WireScribe

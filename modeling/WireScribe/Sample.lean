import WireScribe.Access
import WireScribe.Ty
import WireScribe.Value

/-!
# WireScribe.Sample — types and values of any size

Families of types and values that grow with a parameter, for measuring.
-/

namespace WireScribe.Sample

/-- A 32-bit integer, or the greatest one for a number beyond it. -/
def clamped (n : Nat) : Value := .datum (.i32 (Int32.ofNat (min n 2147483647)))

/-- Lists of lists down to a given depth, with integers at the bottom. -/
def nestedLists : Nat → Ty
  | 0 => .scalar .i32
  | depth + 1 => .seq .list (nestedLists depth)

/-- The type of a table: rows that map names to points. -/
def rowsType : Ty := .seq .list (.map (.scalar .string) (.struct "Point"))

/-- The point at a row and a column. -/
def point (row column : Nat) : Value :=
  .record "Point" [(1, clamped row), (2, clamped column)]

/-- A table with the given number of rows and columns. -/
def rows (count width : Nat) : Value :=
  .seq .list <| (List.range count).map fun row =>
    .map <| (List.range width).map fun column =>
      (.datum (.string s!"k{column}"), point row column)

/-- The path under which the table is written. -/
def rowsAccess : Access := .var "rows"

/-- The integers below a number, in order. -/
def intList (length : Nat) : Value := .seq .list ((List.range length).map clamped)

end WireScribe.Sample

import WireScribe.JsonText.Number
import WireScribe.JsonText.Quote

/-!
# WireScribe.JsonText.Skip — passing over a value

A value of no interest still has to be well formed. It is read token by token
with the open brackets on a stack, so it may nest to any depth, and its strings
may hold halves of surrogate pairs.
-/

namespace WireScribe.JsonText

/-- The characters between tokens. -/
def isSpace (c : Char) : Bool := c == ' ' || c == '\n' || c == '\t' || c == '\r'

/-- Drops the blanks in front. -/
def skipSpace (cs : List Char) : List Char := cs.dropWhile isSpace

/-- What follows a given word. -/
def afterWord? : List Char → List Char → Option (List Char)
  | [], cs => some cs
  | w :: ws, c :: cs => if w = c then afterWord? ws cs else none
  | _ :: _, [] => none

/-- A token. -/
inductive Mark where
  | openArray
  | closeArray
  | openObject
  | closeObject
  | comma
  | colon
  | string
  /-- A number or one of the words `null`, `true` and `false`. -/
  | atom
deriving Repr, DecidableEq

/-- The token at the front of a text, with what follows it. -/
def mark? : List Char → Option (Mark × List Char)
  | [] => none
  | '[' :: rest => some (.openArray, rest)
  | ']' :: rest => some (.closeArray, rest)
  | '\x7b' :: rest => some (.openObject, rest)
  | '\x7d' :: rest => some (.closeObject, rest)
  | ',' :: rest => some (.comma, rest)
  | ':' :: rest => some (.colon, rest)
  | '"' :: rest => (pieces? rest).map fun (_, rest) => (.string, rest)
  | 'n' :: rest => (afterWord? "ull".toList rest).map (.atom, ·)
  | 't' :: rest => (afterWord? "rue".toList rest).map (.atom, ·)
  | 'f' :: rest => (afterWord? "alse".toList rest).map (.atom, ·)
  | cs => (numeral? cs).map fun (_, rest) => (.atom, rest)

/-- What may come next. -/
inductive Due where
  | value
  | valueOrClose
  | name
  | nameOrClose
  | colon
  | commaOrClose
deriving Repr, DecidableEq

/-- An open bracket. -/
inductive Bracket where
  | array
  | object
deriving Repr, DecidableEq

/-- Where reading stands after a token. -/
inductive Progress where
  | finished
  | reading (due : Due) (stack : List Bracket)
deriving Repr, DecidableEq

/-- A value has just ended inside the open brackets. -/
def ended : List Bracket → Progress
  | [] => .finished
  | stack => .reading .commaOrClose stack

/-- Takes in a token. -/
def advance? : Due → List Bracket → Mark → Option Progress
  | .value, stack, .openArray | .valueOrClose, stack, .openArray =>
    some (.reading .valueOrClose (.array :: stack))
  | .value, stack, .openObject | .valueOrClose, stack, .openObject =>
    some (.reading .nameOrClose (.object :: stack))
  | .value, stack, .string | .valueOrClose, stack, .string => some (ended stack)
  | .value, stack, .atom | .valueOrClose, stack, .atom => some (ended stack)
  | .valueOrClose, .array :: stack, .closeArray => some (ended stack)
  | .nameOrClose, .object :: stack, .closeObject => some (ended stack)
  | .name, stack, .string | .nameOrClose, stack, .string => some (.reading .colon stack)
  | .colon, stack, .colon => some (.reading .value stack)
  | .commaOrClose, .array :: stack, .comma => some (.reading .value (.array :: stack))
  | .commaOrClose, .object :: stack, .comma => some (.reading .name (.object :: stack))
  | .commaOrClose, .array :: stack, .closeArray => some (ended stack)
  | .commaOrClose, .object :: stack, .closeObject => some (ended stack)
  | _, _, _ => none

/-- Reads on until the value ends. Every token uses up a part of the text. -/
def skipFrom? (due : Due) (stack : List Bracket) (cs : List Char) : Option (List Char) :=
  match mark? (skipSpace cs) with
  | some (m, rest) =>
    match advance? due stack m with
    | some .finished => some rest
    | some (.reading due stack) =>
      if rest.length < cs.length then skipFrom? due stack rest else none
    | none => none
  | none => none
termination_by cs.length

/-- What follows the value at the front of a text. -/
def skipValue? (cs : List Char) : Option (List Char) := skipFrom? .value [] cs

end WireScribe.JsonText

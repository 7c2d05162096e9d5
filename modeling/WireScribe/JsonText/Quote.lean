import WireScribe.Text.Basic

/-!
# WireScribe.JsonText.Quote — strings in JSON

1. **Writing**: `quote` escapes the quote, the backslash and the control
   characters below U+0020.
2. **Reading**: `pieces?` takes a string apart into characters and escaped 16-bit
   units, and `join?` puts pairs of surrogates together. A unit that is half of a
   pair has no meaning alone.
-/

namespace WireScribe.JsonText

/-! ## Writing -/

/-- How a character is written inside a string. -/
def escapeChar (c : Char) : List Char :=
  match c with
  | '"' => ['\\', '"']
  | '\\' => ['\\', '\\']
  | '\x08' => ['\\', 'b']
  | '\x0c' => ['\\', 'f']
  | '\n' => ['\\', 'n']
  | '\r' => ['\\', 'r']
  | '\t' => ['\\', 't']
  | c =>
    if c.toNat < 0x10 then ['\\', 'u', '0', '0', '0'] ++ Text.hex c.toNat
    else if c.toNat < 0x20 then ['\\', 'u', '0', '0'] ++ Text.hex c.toNat
    else [c]

/-- A text as a JSON string. -/
def quote (s : String) : List Char :=
  '"' :: (s.toList.flatMap escapeChar ++ ['"'])

/-! ## Reading -/

/-- A part of a string. -/
inductive Piece where
  | char (c : Char)
  /-- A 16-bit unit, given by four digits. -/
  | unit (n : Nat)
deriving Repr, DecidableEq

/-- The value of a hexadecimal digit. -/
def hexValue? (c : Char) : Option Nat :=
  if '0' ≤ c && c ≤ '9' then some (c.toNat - '0'.toNat)
  else if 'a' ≤ c && c ≤ 'f' then some (c.toNat - 'a'.toNat + 10)
  else if 'A' ≤ c && c ≤ 'F' then some (c.toNat - 'A'.toNat + 10)
  else none

/-- The unit that four digits give. -/
def unit? (a b c d : Char) : Option Nat :=
  match hexValue? a, hexValue? b, hexValue? c, hexValue? d with
  | some a, some b, some c, some d => some (((a * 16 + b) * 16 + c) * 16 + d)
  | _, _, _, _ => none

/-- The character that a letter after a backslash stands for. -/
def shortEscape? : Char → Option Char
  | '"' => some '"'
  | '\\' => some '\\'
  | '/' => some '/'
  | 'b' => some '\x08'
  | 'f' => some '\x0c'
  | 'n' => some '\n'
  | 'r' => some '\r'
  | 't' => some '\t'
  | _ => none

/-- Puts a part in front of those that follow. -/
def consPiece (p : Piece) : Option (List Piece × List Char) → Option (List Piece × List Char)
  | some (ps, rest) => some (p :: ps, rest)
  | none => none

/-- The parts of a string, from behind its opening quote, with what follows the
closing one. Control characters have to be escaped. -/
def pieces? : List Char → Option (List Piece × List Char)
  | [] => none
  | '"' :: rest => some ([], rest)
  | '\\' :: 'u' :: a :: b :: c :: d :: rest =>
    match unit? a b c d with
    | some n => consPiece (.unit n) (pieces? rest)
    | none => none
  | '\\' :: c :: rest =>
    match shortEscape? c with
    | some c => consPiece (.char c) (pieces? rest)
    | none => none
  | c :: rest => if c.toNat < 0x20 then none else consPiece (.char c) (pieces? rest)

/-- Whether a unit is the first half of a pair. -/
def isHighSurrogate (n : Nat) : Bool := 0xd800 ≤ n && n < 0xdc00

/-- Whether a unit is the second half of a pair. -/
def isLowSurrogate (n : Nat) : Bool := 0xdc00 ≤ n && n < 0xe000

/-- The characters of a string's parts, unless half of a pair stands alone. -/
def join? : List Piece → Option (List Char)
  | [] => some []
  | .char c :: rest => (join? rest).map (c :: ·)
  | .unit n :: .unit m :: rest =>
    if isHighSurrogate n then
      if isLowSurrogate m then
        let c := Char.ofNat ((n - 0xd800) * 0x400 + (m - 0xdc00) + 0x10000)
        (join? rest).map (c :: ·)
      else none
    else if isLowSurrogate n then none
    else (join? (.unit m :: rest)).map (Char.ofNat n :: ·)
  | .unit n :: rest =>
    if isHighSurrogate n || isLowSurrogate n then none
    else (join? rest).map (Char.ofNat n :: ·)

/-- Reads a string from behind its opening quote. -/
def string? (cs : List Char) : Option (String × List Char) :=
  match pieces? cs with
  | some (ps, rest) => (join? ps).map fun s => (String.ofList s, rest)
  | none => none

end WireScribe.JsonText

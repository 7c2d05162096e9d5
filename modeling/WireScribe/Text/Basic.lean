import WireScribe.Text.Printable

/-!
# WireScribe.Text.Basic — characters and quoted text

1. **Ranges**: a class of characters is listed as ranges of code points.
2. **Blanks**: the characters that only separate tokens. They have the Unicode
   property White_Space, or are one of the two direction marks U+200E and U+200F.
3. **Quoted text**: a text between double quotes. The quote, the backslash and every
   character that is not printable are escaped; all others stand for themselves.
-/

namespace WireScribe.Text

/-- Whether a code point lies in one of the ranges. -/
def inRanges (ranges : List (Nat × Nat)) (n : Nat) : Bool :=
  ranges.any fun (low, high) => low ≤ n && n ≤ high

/-- A character that only separates tokens. -/
def isBlank (c : Char) : Bool :=
  let n := c.toNat
  (0x09 ≤ n && n ≤ 0x0d) || n == 0x20 || n == 0x85 || n == 0xa0 || n == 0x1680 ||
    (0x2000 ≤ n && n ≤ 0x200a) || n == 0x200e || n == 0x200f || n == 0x2028 ||
    n == 0x2029 || n == 0x202f || n == 0x205f || n == 0x3000

/-! ## Quoted text -/

/-- A character that can be shown as it is. -/
def isPrintable (c : Char) : Bool :=
  if c.toNat < 0x7f then 0x20 ≤ c.toNat
  else !inRanges unmarkedRanges c.toNat && !inRanges joiningRanges c.toNat

/-- The lower-case hexadecimal digits of a number, with no padding. -/
def hex (n : Nat) : List Char := Nat.toDigits 16 n

/-- How a character is written between double quotes. -/
def escapeChar (c : Char) : List Char :=
  match c with
  | '"' => ['\\', '"']
  | '\\' => ['\\', '\\']
  | '\n' => ['\\', 'n']
  | '\r' => ['\\', 'r']
  | '\t' => ['\\', 't']
  | '\x00' => ['\\', '0']
  | c => if isPrintable c then [c] else ['\\', 'u', '\x7b'] ++ hex c.toNat ++ ['\x7d']

/-- A text between double quotes. -/
def quoted (s : String) : String :=
  String.ofList ('"' :: (s.toList.flatMap escapeChar ++ ['"']))

end WireScribe.Text

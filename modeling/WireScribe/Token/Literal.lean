import WireScribe.Text.IdentChar

/-!
# WireScribe.Token.Literal — where a literal ends

Each function takes the text at which a literal may begin and gives what follows
the literal, or nothing if no literal stands there.

1. **Words**: identifiers, which also serve as suffixes of literals.
2. **Quoted literals**: texts, byte strings and C strings, with escapes or raw,
   and single characters and bytes.
3. **Numbers**: integers in four bases, and decimals with a point or an
   exponent.
-/

namespace WireScribe.Literal

open Text

/-! ## Words -/

/-- The word at the front of a text, with what follows it. -/
def word? : List Char → Option (List Char × List Char)
  | c :: rest =>
    if isIdentStart c then
      some (c :: rest.takeWhile isIdentContinue, rest.dropWhile isIdentContinue)
    else none
  | [] => none

/-- What follows an optional suffix. -/
def dropSuffix (cs : List Char) : List Char :=
  match word? cs with
  | some (_, rest) => rest
  | none => cs

/-- What follows a given beginning. -/
def after? : List Char → List Char → Option (List Char)
  | [], cs => some cs
  | p :: ps, c :: cs => if p = c then after? ps cs else none
  | _ :: _, [] => none

/-! ## Quoted literals -/

/-- The value of a hexadecimal digit. -/
def hexDigit? (c : Char) : Option Nat :=
  if c.isDigit then some (c.toNat - '0'.toNat)
  else if 'a' ≤ c && c ≤ 'f' then some (c.toNat - 'a'.toNat + 10)
  else if 'A' ≤ c && c ≤ 'F' then some (c.toNat - 'A'.toNat + 10)
  else none

/-- What may stand between the quotes of a literal. -/
structure Quoting where
  /-- Whether a character may stand for itself. -/
  plain : Char → Bool
  /-- Whether a backslash may precede a character. -/
  escaped : Char → Bool
  /-- Whether two digits after `\x` are in order. -/
  byte : Nat → Nat → Bool
  /-- Whether a code point may be given as `\u` with braces. -/
  codePoint : Nat → Bool

/-- A text holds any character, and `\x` reaches no further than ASCII. -/
def Quoting.text : Quoting where
  plain _ := true
  escaped c := ['n', 'r', 't', '\\', '\x27', '"', '0'].contains c
  byte high _ := high < 8
  codePoint _ := true

/-- A byte string holds ASCII, and `\x` reaches every byte. -/
def Quoting.bytes : Quoting where
  plain c := c.toNat < 0x80
  escaped c := ['n', 'r', 't', '\\', '\x27', '"', '0'].contains c
  byte _ _ := true
  codePoint _ := false

/-- A C string holds everything but NUL. -/
def Quoting.terminated : Quoting where
  plain c := c != '\x00'
  escaped c := ['n', 'r', 't', '\\', '\x27', '"'].contains c
  byte high low := high != 0 || low != 0
  codePoint n := n != 0

/-- Reads the digits of a braced code point after the opening brace: one to six
of them, with underscores anywhere but in front. -/
def codePoint? (count value : Nat) : List Char → Option (Nat × List Char)
  | [] => none
  | c :: rest =>
    if c = '\x7d' then
      if count > 0 && value.isValidChar then some (value, rest) else none
    else if c = '_' then
      if count > 0 then codePoint? count value rest else none
    else
      match hexDigit? c with
      | some d => if count = 6 then none else codePoint? (count + 1) (value * 16 + d) rest
      | none => none

/-- What follows the escape after a backslash. -/
def escape? (q : Quoting) : List Char → Option (List Char)
  | 'x' :: high :: low :: rest =>
    match hexDigit? high, hexDigit? low with
    | some h, some l => if q.byte h l then some rest else none
    | _, _ => none
  | 'u' :: '\x7b' :: rest =>
    match codePoint? 0 0 rest with
    | some (n, rest) => if q.codePoint n then some rest else none
    | none => none
  | c :: rest => if q.escaped c then some rest else none
  | [] => none

/-- What follows the blanks after a backslash at the end of a line. A carriage
return counts only in front of a newline. -/
def continuation? : List Char → Option (List Char)
  | '\r' :: '\n' :: rest => continuation? rest
  | '\r' :: _ => none
  | c :: rest => if c = '\n' || c = ' ' || c = '\t' then continuation? rest else some (c :: rest)
  | [] => none

/-- What follows the closing quote of a literal with escapes. -/
def cooked? (q : Quoting) (cs : List Char) : Option (List Char) :=
  match cs with
  | [] => none
  | '"' :: rest => some (dropSuffix rest)
  | '\r' :: '\n' :: rest => cooked? q rest
  | '\r' :: _ => none
  | '\\' :: rest =>
    let next :=
      match rest with
      | '\n' :: _ | '\r' :: _ => continuation? rest
      | _ => escape? q rest
    match next with
    | some next => if next.length ≤ rest.length then cooked? q next else none
    | none => none
  | c :: rest => if q.plain c then cooked? q rest else none
termination_by cs.length

/-- What follows the closing quote of a raw literal that `hashes` number signs
frame. -/
def rawBody? (q : Quoting) (hashes : List Char) : List Char → Option (List Char)
  | [] => none
  | '"' :: rest =>
    match after? hashes rest with
    | some rest => some (dropSuffix rest)
    | none => rawBody? q hashes rest
  | '\r' :: '\n' :: rest => rawBody? q hashes rest
  | '\r' :: _ => none
  | c :: rest => if q.plain c then rawBody? q hashes rest else none

/-- What follows a raw literal, from the number signs on. There are at most 255
of them. -/
def raw? (q : Quoting) (cs : List Char) : Option (List Char) :=
  let hashes := cs.takeWhile (· == '#')
  match cs.dropWhile (· == '#') with
  | '"' :: rest => if hashes.length ≤ 255 then rawBody? q hashes rest else none
  | _ => none

/-- What follows a single quoted character, from behind its opening quote. -/
def single? (q : Quoting) (cs : List Char) : Option (List Char) :=
  let next :=
    match cs with
    | '\\' :: rest => escape? q rest
    | c :: rest => if q.plain c then some rest else none
    | [] => none
  match next with
  | some ('\x27' :: rest) => some (dropSuffix rest)
  | _ => none

/-- What follows a quoted literal. -/
def quoted? (cs : List Char) : Option (List Char) :=
  match cs with
  | '"' :: rest => cooked? .text rest
  | 'r' :: rest => raw? .text rest
  | 'b' :: '"' :: rest => cooked? .bytes rest
  | 'b' :: 'r' :: rest => raw? .bytes rest
  | 'c' :: '"' :: rest => cooked? .terminated rest
  | 'c' :: 'r' :: rest => raw? .terminated rest
  | 'b' :: '\x27' :: rest => single? .bytes rest
  | '\x27' :: rest => single? .text rest
  | _ => none

/-! ## Numbers -/

/-- What follows a run of decimal digits and underscores. -/
def dropDigits (cs : List Char) : List Char :=
  cs.dropWhile fun c => c.isDigit || c == '_'

/-- What follows an exponent, from behind its mark: one sign before the digits,
at least one digit, underscores anywhere. -/
def exponent? (signed valued : Bool) : List Char → Option (List Char)
  | [] => if valued then some [] else none
  | c :: rest =>
    if c = '+' || c = '-' then
      if valued then some (c :: rest)
      else if signed then none
      else exponent? true valued rest
    else if c.isDigit then exponent? signed true rest
    else if c = '_' then exponent? signed valued rest
    else if valued then some (c :: rest)
    else none

/-- What follows a decimal with a point or an exponent. A point that a second
point or a word follows belongs to no number, and a mark with no exponent behind
it is left to the suffix. -/
def float? (cs : List Char) : Option (List Char) :=
  match cs with
  | [] => none
  | c :: _ =>
    if !c.isDigit then none
    else
      match dropDigits cs with
      | '.' :: rest =>
        if rest.head?.any fun c => c == '.' || isIdentStart c then none
        else
          match dropDigits rest with
          | 'e' :: more => (exponent? false false more).or (some ('e' :: more))
          | 'E' :: more => (exponent? false false more).or (some ('E' :: more))
          | more => some more
      | 'e' :: more => exponent? false false more
      | 'E' :: more => exponent? false false more
      | _ => none

/-- What follows the digits of an integer; `fresh` says that none has been read.
A decimal digit beyond the base is an error, a letter beyond it ends the number,
and an underscore may stand in front only after the mark of a base. -/
def integer? (base : Nat) (fresh : Bool) : List Char → Option (List Char)
  | [] => if fresh then none else some []
  | c :: rest =>
    if c = '_' then
      if fresh && base = 10 then none else integer? base fresh rest
    else
      match hexDigit? c with
      | some d =>
        if d < base then integer? base false rest
        else if c.isDigit || fresh then none
        else some (c :: rest)
      | none => if fresh then none else some (c :: rest)

/-- What follows an integer in one of the four bases. -/
def int? (cs : List Char) : Option (List Char) :=
  match cs with
  | '0' :: 'x' :: rest => integer? 16 true rest
  | '0' :: 'o' :: rest => integer? 8 true rest
  | '0' :: 'b' :: rest => integer? 2 true rest
  | cs => integer? 10 true cs

/-- What follows the suffix of a number, which must end where a word could. -/
def afterNumber? (cs : List Char) : Option (List Char) :=
  let rest := dropSuffix cs
  if rest.head?.any isIdentContinue then none else some rest

/-- What follows a number. -/
def number? (cs : List Char) : Option (List Char) :=
  match (float? cs).bind afterNumber? with
  | some rest => some rest
  | none => (int? cs).bind afterNumber?

/-- What follows a literal. -/
def literal? (cs : List Char) : Option (List Char) :=
  match quoted? cs with
  | some rest => some rest
  | none => number? cs

end WireScribe.Literal

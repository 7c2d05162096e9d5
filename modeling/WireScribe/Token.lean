import WireScribe.Ident

/-!
# WireScribe.Token — the tokens of a name

A text that should be an identifier or a path is read as tokens first. The two ends
of a bracketed group are tokens of their own. Tokens in a row have a text, which is
how they stand in generated code.
-/

namespace WireScribe

/-- The brackets that delimit a group. -/
inductive Delimiter where
  | paren
  | bracket
  | brace
deriving Repr, DecidableEq

namespace Delimiter

/-- How a group opens. -/
def openText : Delimiter → String
  | paren => "("
  | bracket => "["
  | brace => "\x7b"

/-- How a group closes. -/
def closeText : Delimiter → String
  | paren => ")"
  | bracket => "]"
  | brace => "\x7d"

/-- The group that a character opens. -/
def ofOpen? : Char → Option Delimiter
  | '(' => some paren
  | '[' => some bracket
  | '\x7b' => some brace
  | _ => none

/-- The group that a character closes. -/
def ofClose? : Char → Option Delimiter
  | ')' => some paren
  | ']' => some bracket
  | '\x7d' => some brace
  | _ => none

end Delimiter

/-- A token. -/
inductive Token where
  | ident (i : Ident)
  /-- A punctuation character; `joint` says that another one follows it with
  nothing in between. -/
  | punct (c : Char) (joint : Bool)
  | literal (text : String)
  | opening (d : Delimiter)
  | closing (d : Delimiter)
deriving Repr, DecidableEq

namespace Token

/-- A token as it is written. -/
def text : Token → String
  | ident i => i.text
  | punct c _ => String.singleton c
  | literal text => text
  | opening d => d.openText
  | closing d => d.closeText

/-- Whether two neighbours are written with nothing in between. Parentheses and
brackets hug their content, and braces keep a space on either side. -/
def glued : Token → Token → Bool
  | _, closing d => d != .brace
  | opening d, _ => d != .brace
  | punct _ joint, _ => joint
  | _, _ => false

end Token

/-- The text of tokens in a row. -/
def tokensText : List Token → String
  | [] => ""
  | [t] => t.text
  | t :: u :: rest =>
    t.text ++ (if t.glued u then "" else " ") ++ tokensText (u :: rest)

end WireScribe

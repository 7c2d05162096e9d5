import WireScribe.Token

/-!
# WireScribe.Code — generated code as tokens

Generated code is a list of tokens in which parentheses and braces nest. Its
text puts one space between neighbours. Parentheses hug their content, and braces
keep a space on either side. Tokens that a configured path brings along stand in it
as one run, with their own spacing.
-/

namespace WireScribe

/-- A token of generated code. -/
inductive Code where
  | word (text : String)
  | parens (body : List Code)
  | braces (body : List Code)
  /-- Tokens that are taken over as they are. -/
  | run (tokens : List Token)
deriving Repr

mutual

/-- The text of a token. -/
def Code.text : Code → String
  | .word text => text
  | .parens body => "(" ++ codeText body ++ ")"
  | .braces [] => "\x7b \x7d"
  | .braces (c :: rest) => "\x7b " ++ codeText (c :: rest) ++ " \x7d"
  | .run tokens => tokensText tokens

/-- The text of tokens in a row. -/
def codeText : List Code → String
  | [] => ""
  | [c] => c.text
  | c :: d :: rest => c.text ++ " " ++ codeText (d :: rest)

end

end WireScribe

/-!
# WireScribe.Ident — identifiers of generated code

An identifier is a word, or a raw word, which is marked with `r#` and may be
spelled like a keyword. Names come from outside as text, and a text can fail to be
an identifier for one of the reasons of `NameFault`.
-/

namespace WireScribe

/-- An identifier as it stands in code. -/
structure Ident where
  /-- Whether the identifier carries the mark `r#`. -/
  raw : Bool := false
  name : String
deriving Repr, DecidableEq

namespace Ident

/-- The identifier as it is spelled. -/
def text (i : Ident) : String := if i.raw then "r#" ++ i.name else i.name

/-- The words that are not identifiers unless they are raw. -/
def keywords : List String :=
  ["_", "abstract", "as", "async", "await", "become", "box", "break", "const", "continue",
    "crate", "do", "dyn", "else", "enum", "extern", "false", "final", "fn", "for", "if",
    "impl", "in", "let", "loop", "macro", "match", "mod", "move", "mut", "override", "priv",
    "pub", "ref", "return", "Self", "self", "static", "struct", "super", "trait", "true",
    "try", "type", "typeof", "unsafe", "unsized", "use", "virtual", "where", "while",
    "yield"]

/-- Whether the identifier is spelled like a keyword. -/
def isKeyword (i : Ident) : Bool := !i.raw && keywords.contains i.name

/-- The words that stay special even when marked as raw. -/
def neverRaw : List String := ["_", "super", "self", "Self", "crate"]

/-- The keywords that may stand in a path. -/
def pathKeywords : List String := ["super", "self", "crate", "try", "Self"]

/-- Whether the identifier may be a segment of a path. -/
def isSegment (i : Ident) : Bool :=
  !i.isKeyword || pathKeywords.contains i.name

/-- The keywords of paths behind which no generic arguments stand. -/
def bareKeywords : List String := ["super", "self", "crate", "try"]

/-- Whether a segment with this identifier may have generic arguments. -/
def takesArguments (i : Ident) : Bool := i.raw || !bareKeywords.contains i.name

end Ident

/-- Why a text is not the name it should be. -/
inductive NameFault where
  /-- It starts like the names that loops bind. -/
  | reserved
  /-- It does not split into tokens. -/
  | lexical
  /-- An identifier should follow, and the text ends. -/
  | missing
  | keyword (word : String)
  | notIdentifier
  /-- Something follows that does not belong to the name. -/
  | trailing
  /-- The generic arguments of a path cannot be read. -/
  | arguments (reason : String)
deriving Repr, DecidableEq

/-- The reason in words. -/
def NameFault.message : NameFault → String
  | reserved => "the '__' prefix is reserved for loop bindings"
  | lexical => "cannot parse string into token stream"
  | missing => "unexpected end of input, expected identifier"
  | keyword word => s!"expected identifier, found keyword `{word}`"
  | notIdentifier => "expected identifier"
  | trailing => "unexpected token"
  | arguments reason => reason

end WireScribe

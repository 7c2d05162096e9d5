import WireScribe.Text.Basic
import WireScribe.Token
import WireScribe.Token.Literal

/-!
# WireScribe.Token.Scan — from text to tokens

Blanks and comments separate tokens and are dropped, except that a documentation
comment stands for the tokens of an attribute. What is left is read from
left to right, a bracket before a literal before a punctuation character before
an identifier, and the brackets have to match. A byte order mark in front of the text
does not count.
-/

namespace WireScribe

open Text Literal

/-! ## Comments -/

/-- What follows a comment that runs to the end of the line; the newline itself
stays. -/
def dropLine : List Char → List Char
  | [] => []
  | '\n' :: rest => '\n' :: rest
  | _ :: rest => dropLine rest

/-- The text of a comment that runs to the end of the line. A carriage return in front
of the newline belongs to the end. -/
def lineText : List Char → List Char
  | [] => []
  | '\n' :: _ => []
  | '\r' :: '\n' :: _ => []
  | c :: rest => c :: lineText rest

/-- What follows a comment in which `depth` further comments are open. -/
def dropBlock? : Nat → List Char → Option (List Char)
  | _, [] => none
  | depth, '/' :: '*' :: rest => dropBlock? (depth + 1) rest
  | 0, '*' :: '/' :: rest => some rest
  | depth + 1, '*' :: '/' :: rest => dropBlock? depth rest
  | depth, _ :: rest => dropBlock? depth rest

/-- Which item a documentation comment is about. -/
inductive DocTarget where
  /-- The item behind the comment. -/
  | next
  /-- The item around the comment. -/
  | enclosing
deriving Repr, DecidableEq

/-- The target of a comment that runs to the end of the line, by what follows its
two slashes. Four slashes document nothing. -/
def docLine? : List Char → Option DocTarget
  | '!' :: _ => some .enclosing
  | '/' :: '/' :: _ => none
  | '/' :: _ => some .next
  | _ => none

/-- The target of a comment that has an end mark, by what follows its slash and
star. Three stars, or the end mark at once, document nothing. -/
def docBlock? : List Char → Option DocTarget
  | '!' :: _ => some .enclosing
  | '*' :: '*' :: _ => none
  | '*' :: '/' :: _ => none
  | '*' :: _ => some .next
  | _ => none

/-- How an attribute starts: a number sign, and an exclamation mark if it is about the
enclosing item. -/
def DocTarget.signs : DocTarget → List Token
  | next => [.punct '#' false]
  | enclosing => [.punct '#' false, .punct '!' false]

/-- The attribute that a documentation comment stands for, with its text as a
literal. -/
def DocTarget.attribute (target : DocTarget) (text : List Char) : List Token :=
  target.signs ++
    [.opening .bracket, .ident ⟨false, "doc"⟩, .punct '=' false,
      .literal (quoted (String.ofList text)), .closing .bracket]

/-- Whether a carriage return stands anywhere but in front of a newline. -/
def hasBareReturn : List Char → Bool
  | [] => false
  | '\r' :: '\n' :: rest => hasBareReturn rest
  | '\r' :: _ => true
  | _ :: rest => hasBareReturn rest

/-- What a comment with a given text stands for. Bare carriage returns have no
place in documentation. -/
def comment? (target : Option DocTarget) (text : List Char) : Option (List Token) :=
  match target with
  | none => some []
  | some target => if hasBareReturn text then none else some (target.attribute text)

/-- Reads a comment to the end of the line, from behind its two slashes. The mark of
documentation is not part of its text. -/
def lineComment? (cs : List Char) : Option (List Token × List Char) :=
  (comment? (docLine? cs) ((lineText cs).drop 1)).map (·, dropLine cs)

/-- Reads a comment up to its end mark, from behind its slash and star. Neither the mark
of documentation nor the end mark is part of its text. -/
def blockComment? (cs : List Char) : Option (List Token × List Char) :=
  match dropBlock? 0 cs with
  | some rest =>
    (comment? (docBlock? cs) ((cs.take (cs.length - rest.length - 2)).drop 1)).map (·, rest)
  | none => none

/-! ## Single tokens -/

/-- The punctuation characters. -/
def punctuation : List Char := "~!@#$%^&*-=+|;:,<.>/?'".toList

/-- Whether a text goes on with a punctuation character that opens no comment. -/
def startsPunct : List Char → Bool
  | '/' :: '/' :: _ => false
  | '/' :: '*' :: _ => false
  | c :: _ => punctuation.contains c
  | [] => false

/-- The identifier at the front of a text. -/
def ident? : List Char → Option (Ident × List Char)
  | 'r' :: '#' :: rest =>
    match word? rest with
    | some (w, rest) =>
      let name := String.ofList w
      if Ident.neverRaw.contains name then none else some (⟨true, name⟩, rest)
    | none => none
  | cs =>
    match word? cs with
    | some (w, rest) => some (⟨false, String.ofList w⟩, rest)
    | none => none

/-- The beginnings that promise a literal: where none stands, there is no
identifier either. -/
def literalMarks : List (List Char) :=
  ["r\"", "r#\"", "r##", "b\"", "b'", "br\"", "br#", "c\"", "cr\"", "cr#"].map String.toList

/-- Whether a quote may stand as punctuation: in front of an identifier that
neither a quote nor, unless it is raw, a number sign follows. -/
def isLabel (rest : List Char) : Bool :=
  match ident? rest with
  | some (_, '\x27' :: _) => false
  | some (i, '#' :: _) => i.raw
  | some _ => true
  | none => false

/-- The punctuation at the front of a text. -/
def punct? (cs : List Char) : Option (Token × List Char) :=
  match cs with
  | [] => none
  | c :: rest =>
    if !startsPunct cs then none
    else if c = '\x27' then
      if isLabel rest then some (.punct c true, rest) else none
    else some (.punct c (startsPunct rest), rest)

/-- The token at the front of a text that starts with no blank, comment or
bracket. -/
def token? (cs : List Char) : Option (Token × List Char) :=
  match literal? cs with
  | some rest => some (.literal (String.ofList (cs.take (cs.length - rest.length))), rest)
  | none =>
    match punct? cs with
    | some found => some found
    | none =>
      if literalMarks.any fun mark => (after? mark cs).isSome then none
      else
        match ident? cs with
        | some (i, rest) => some (.ident i, rest)
        | none => none

/-- The mark of a literal that has no text of its own. It counts as a literal,
although it looks like a group around a comment. -/
def lostLiteral : String := "(/*ERROR*/)"

/-- Reads one bracket, or the mark of a lost literal. -/
def bracket? (cs : List Char) : Option (Token × List Char) :=
  match cs with
  | [] => none
  | c :: rest =>
    match after? lostLiteral.toList cs, Delimiter.ofOpen? c, Delimiter.ofClose? c with
    | some rest, _, _ => some (.literal lostLiteral, rest)
    | none, some d, _ => some (.opening d, rest)
    | none, none, some d => some (.closing d, rest)
    | none, none, none => none

/-! ## Whole texts -/

/-- Reads one blank, comment, bracket or token. -/
def lexeme? (cs : List Char) : Option (List Token × List Char) :=
  match cs with
  | [] => none
  | '/' :: '/' :: rest => lineComment? rest
  | '/' :: '*' :: rest => blockComment? rest
  | c :: rest =>
    if isBlank c then some ([], rest)
    else
      match bracket? cs with
      | some (t, rest) => some ([t], rest)
      | none =>
        match token? cs with
        | some (t, rest) => some ([t], rest)
        | none => none

/-- Splits a text into tokens. Every step uses up a part of the text. -/
def lexemes? (cs : List Char) : Option (List Token) :=
  if cs.isEmpty then some []
  else
    match lexeme? cs with
    | some (found, rest) =>
      if rest.length < cs.length then
        match lexemes? rest with
        | some more => some (found ++ more)
        | none => none
      else none
    | none => none
termination_by cs.length

/-- Whether the brackets match, inside the groups that are open. -/
def balanced : List Delimiter → List Token → Bool
  | opened, [] => opened.isEmpty
  | opened, .opening d :: rest => balanced (d :: opened) rest
  | [], .closing _ :: _ => false
  | d :: opened, .closing e :: rest => d = e && balanced opened rest
  | opened, _ :: rest => balanced opened rest

/-- The tokens of a text, unless it cannot be split into tokens or its brackets do not
match. -/
def tokens? (text : String) : Option (List Token) :=
  let cs :=
    match text.toList with
    | '\ufeff' :: rest => rest
    | cs => cs
  match lexemes? cs with
  | some ts => if balanced [] ts then some ts else none
  | none => none

end WireScribe

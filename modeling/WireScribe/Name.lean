import WireScribe.GenError
import WireScribe.Token.Scan

/-!
# WireScribe.Name — reading identifiers

A field, a struct and the writer are named by exactly one identifier; a variable may
also be `self`. The names that loops bind start with two underscores, so the text of a
variable or of the writer must not.
-/

namespace WireScribe

/-- The identifier at the front of the tokens, unless it is a keyword. -/
def headIdent : List Token → Except NameFault (Ident × List Token)
  | [] => .error .missing
  | .ident i :: rest => if i.isKeyword then .error (.keyword i.name) else .ok (i, rest)
  | _ :: _ => .error .notIdentifier

/-- Reads tokens as a single identifier. -/
def Ident.ofTokens (ts : List Token) : Except NameFault Ident :=
  match headIdent ts with
  | .ok (i, []) => .ok i
  | .ok (_, _ :: _) => .error .trailing
  | .error e => .error e

/-- Reads a text as a single identifier. -/
def Ident.ofText (text : String) : Except NameFault Ident :=
  match tokens? text with
  | some ts => Ident.ofTokens ts
  | none => .error .lexical

/-- Marks the text in which a fault lies. -/
def inText {α : Type} (text : String) : Except NameFault α → Except GenError α
  | .ok a => .ok a
  | .error fault => .error (.invalidIdentifier text fault)

/-- Reads the name of a field or a struct. -/
def plainIdent (text : String) : Except GenError Ident :=
  inText text (Ident.ofText text)

/-- How the names that loops bind start. -/
def reservedStart : String := "__"

/-- Reads a name that must not start like the names that loops bind. -/
def unreservedIdent (text : String) : Except GenError Ident :=
  if reservedStart.isPrefixOf text then .error (.invalidIdentifier text .reserved)
  else plainIdent text

/-- Reads the name of a variable. -/
def variableIdent (text : String) : Except GenError Ident :=
  if text = "self" then .ok ⟨false, "self"⟩ else unreservedIdent text

end WireScribe

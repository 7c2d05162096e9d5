import WireScribe.Ident
import WireScribe.Ty

/-!
# WireScribe.GenError — why no program or code comes out

`GenError` lists everything that stops the way from a type to generated code: a
type that has no write program, or a name that cannot stand in code.
-/

namespace WireScribe

/-- Why no program or code comes out. -/
inductive GenError where
  | unsupportedType (name : String)
  | nestingTooDeep (depth limit : Nat)
  | invalidIdentifier (text : String) (fault : NameFault)
  | schema (e : SchemaError)
deriving Repr, DecidableEq

/-- What is reported. -/
def GenError.message : GenError → String
  | unsupportedType name =>
    s!"unsupported type '{name}': not implemented by the write synthesizer"
  | nestingTooDeep depth limit =>
    s!"container nesting depth {depth} exceeds limit {limit}"
  | invalidIdentifier text fault => s!"invalid identifier '{text}': {fault.message}"
  | schema e => s!"schema error: {e.message}"

end WireScribe

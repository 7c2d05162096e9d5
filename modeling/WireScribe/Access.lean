/-!
# WireScribe.Access — how a program reaches a value

An access path starts at a variable or at a name that a loop binds, and goes
down through fields. Loop names are told apart by their role and by the number
of loops around the one that binds them. `Access.text` is the dotted notation
under which an environment knows the path.
-/

namespace WireScribe

/-- What a loop binds: the element of a list or set, or the key and the value of
a map entry. -/
inductive Role where
  | element
  | key
  | value
deriving Repr, DecidableEq

/-- A name bound by a loop that `depth` other loops enclose. -/
structure Binding where
  role : Role
  depth : Nat
deriving Repr, DecidableEq

/-- The identifier of a bound name. -/
def Binding.ident (b : Binding) : String :=
  match b.role with
  | .element => s!"__elem_{b.depth}"
  | .key => s!"__key_{b.depth}"
  | .value => s!"__value_{b.depth}"

/-- A path to a value. -/
inductive Access where
  | var (name : String)
  | field (base : Access) (name : String)
  | bound (b : Binding)
deriving Repr, DecidableEq

namespace Access

/-- A field of the struct that is being written. -/
def selfField (name : String) : Access := field (var "self") name

/-- The path in dotted notation. -/
def text : Access → String
  | var name => name
  | field base name => base.text ++ "." ++ name
  | bound b => b.ident

/-- The loop name that the path consists of, if it is one. -/
def binding? : Access → Option Binding
  | bound b => some b
  | _ => none

end Access

/-- The member that gives the size of a container. -/
inductive SizeKind where
  | length
  | size
deriving Repr, DecidableEq

/-- The member's name. -/
def SizeKind.name : SizeKind → String
  | length => "length"
  | size => "size"

/-- The size of the container at a path, in dotted notation. -/
def Access.sizeText (a : Access) (kind : SizeKind) : String := a.text ++ "." ++ kind.name

end WireScribe

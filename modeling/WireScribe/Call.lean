import WireScribe.Datum

/-!
# WireScribe.Call — the calls a writer receives

Writing a value is a sequence of calls: one per scalar, and a pair of markers
around the elements of each container. The opening marker announces the
elements' tags and their number.
-/

namespace WireScribe

/-- The two containers that hold a run of elements. -/
inductive SeqKind where
  | list
  | set
deriving Repr, DecidableEq

namespace SeqKind

/-- The kind's name in messages and type texts. -/
def name : SeqKind → String
  | list => "list"
  | set => "set"

/-- The tag of a container of this kind. -/
def wireType : SeqKind → WireType
  | list => .list
  | set => .set

end SeqKind

/-- One call on a writer. -/
inductive Call where
  | datum (d : Datum)
  | seqBegin (kind : SeqKind) (elem : WireType) (size : Nat)
  | seqEnd (kind : SeqKind)
  | mapBegin (key value : WireType) (size : Nat)
  | mapEnd
deriving Repr, DecidableEq

/-- The things whose size goes to the wire. -/
inductive Sized where
  | string
  | binary
  | seq (kind : SeqKind)
  | map
deriving Repr, DecidableEq

/-- The name of a sized thing in messages. -/
def Sized.name : Sized → String
  | .string => "string"
  | .binary => "binary"
  | .seq kind => kind.name
  | .map => "map"

/-- A size that does not fit the signed 32-bit field it is written to. -/
structure Oversize where
  kind : Sized
  size : Nat
deriving Repr, DecidableEq

/-- The largest size that fits its field. -/
def maxSize : Nat := 2147483647

/-- What is reported for an oversize call. -/
def Oversize.message (e : Oversize) : String :=
  s!"{e.kind.name} size {e.size} exceeds the maximum of {maxSize}"

/-- The UTF-8 bytes of a text. -/
def utf8 (s : String) : List UInt8 := s.toByteArray.data.toList

namespace Call

/-- The size that a call announces, with what it counts. -/
def size? : Call → Option (Sized × Nat)
  | .datum (.string s) => some (.string, (utf8 s).length)
  | .datum (.binary bytes) => some (.binary, bytes.length)
  | .datum _ => none
  | .seqBegin kind _ size => some (.seq kind, size)
  | .seqEnd _ => none
  | .mapBegin _ _ size => some (.map, size)
  | .mapEnd => none

/-- The complaint about a call that announces too large a size. -/
def oversize? (c : Call) : Option Oversize :=
  match c.size? with
  | some (kind, size) => if maxSize < size then some ⟨kind, size⟩ else none
  | none => none

end Call

end WireScribe

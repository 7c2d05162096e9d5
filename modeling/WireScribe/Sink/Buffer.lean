import WireScribe.Sink

/-!
# WireScribe.Sink.Buffer — the binary wire format

1. **Encoding**: `Call.encode` gives the bytes of a call. Integers are
   big-endian and two's complement, a size is a 32-bit integer, a text or a
   byte string follows its length, a marker that opens a container is its tags
   and its size, and a marker that closes one takes no bytes.
2. **Writer**: `Buffer` appends the bytes of each call and refuses a call whose
   size does not fit its field.
-/

namespace WireScribe

/-! ## Encoding -/

/-- The low `width` bytes of a number, the highest first. -/
def bigEndian : Nat → Nat → List UInt8
  | 0, _ => []
  | width + 1, n => UInt8.ofNat (n >>> (8 * width)) :: bigEndian width n

/-- The bytes of a number fill its width. -/
theorem length_bigEndian (width n : Nat) : (bigEndian width n).length = width := by
  induction width with
  | zero => rfl
  | succ width ih => simp [bigEndian, ih]

/-- A size takes four bytes. -/
def encodeSize (n : Nat) : List UInt8 := bigEndian 4 n

/-- Bytes behind their number. -/
def encodeBytes (bytes : List UInt8) : List UInt8 := encodeSize bytes.length ++ bytes

/-- The bytes of a scalar; a text is its UTF-8 bytes. -/
def Datum.encode : Datum → List UInt8
  | .bool b => [if b then 1 else 0]
  | .byte n => bigEndian 1 n.toUInt8.toNat
  | .i16 n => bigEndian 2 n.toUInt16.toNat
  | .i32 n => bigEndian 4 n.toUInt32.toNat
  | .i64 n => bigEndian 8 n.toUInt64.toNat
  | .double bits => bigEndian 8 bits.toNat
  | .string s => encodeBytes (utf8 s)
  | .binary bytes => encodeBytes bytes

/-- The bytes of a call. -/
def Call.encode : Call → List UInt8
  | .datum d => d.encode
  | .seqBegin _ elem size => elem.code :: encodeSize size
  | .seqEnd _ => []
  | .mapBegin key value size => key.code :: value.code :: encodeSize size
  | .mapEnd => []

/-! ## Writer -/

/-- A writer of the binary format. -/
structure Buffer where
  /-- The bytes so far. -/
  bytes : List UInt8 := []
deriving Repr, DecidableEq

namespace Buffer

/-- The number of bytes so far. -/
def size (b : Buffer) : Nat := b.bytes.length

/-- Whether nothing has been written. -/
def isEmpty (b : Buffer) : Bool := b.bytes.isEmpty

/-- Starts over. -/
def clear (_ : Buffer) : Buffer := {}

instance : Sink Buffer where
  accept c b :=
    match c.oversize? with
    | some e => .error e
    | none => .ok ⟨b.bytes ++ c.encode⟩

/-- A call of proper size adds its bytes. -/
theorem write_of_fits {c : Call} (h : c.oversize? = none) (b : Buffer) :
    Sink.write c b = .ok () ⟨b.bytes ++ c.encode⟩ := by
  simp [Sink.write, Sink.accept, h]

/-- An oversize call is refused and adds nothing. -/
theorem write_of_oversize {c : Call} {e : Oversize} (h : c.oversize? = some e) (b : Buffer) :
    Sink.write c b = .error e b := by
  simp [Sink.write, Sink.accept, h]

end Buffer

end WireScribe

import Mathlib.Data.List.Forall2
import Mathlib.Tactic.Ring
import WireScribe.Proofs.Replay
import WireScribe.Sink.Buffer

/-!
# WireScribe.Proofs.WireFormat — the bytes of a run

The wire format is stated here on its own, by what bytes mean, and the binary
writer is shown to keep to it.

1. **Numbers**: `unsigned` and `signed` read bytes as numbers, the highest byte
   first and in two's complement.
2. **Format**: `Call.Encodes` relates a call to its bytes, and `Call.Oversized`
   lists the calls that have none, with what is reported for them.
3. **Image**: what an action leaves in a buffer is the image of what it leaves in
   a recording, up to the first oversize call.
-/

namespace WireScribe

/-! ## Numbers -/

/-- The number that bytes stand for, the highest byte first. -/
def unsigned : List UInt8 → Nat
  | [] => 0
  | b :: bs => b.toNat * 256 ^ bs.length + unsigned bs

/-- The number that bytes stand for in two's complement. -/
def signed (bs : List UInt8) : Int := Int.bmod (unsigned bs) (256 ^ bs.length)

theorem unsigned_lt (bs : List UInt8) : unsigned bs < 256 ^ bs.length := by
  induction bs with
  | nil => simp [unsigned]
  | cons b bs ih =>
    have hb : b.toNat + 1 ≤ 256 := b.toNat_lt
    calc unsigned (b :: bs)
        < b.toNat * 256 ^ bs.length + 256 ^ bs.length := Nat.add_lt_add_left ih _
      _ = (b.toNat + 1) * 256 ^ bs.length := by ring
      _ ≤ 256 * 256 ^ bs.length := Nat.mul_le_mul_right _ hb
      _ = 256 ^ (b :: bs).length := by rw [List.length_cons]; ring

/-- Bytes of one width are told apart by their number. -/
theorem unsigned_inj {bs cs : List UInt8} (hlen : bs.length = cs.length)
    (h : unsigned bs = unsigned cs) : bs = cs := by
  induction bs generalizing cs with
  | nil => exact (List.length_eq_zero_iff.mp hlen.symm).symm
  | cons b bs ih =>
    cases cs with
    | nil => simp at hlen
    | cons c cs =>
      have hlen' : bs.length = cs.length := by simpa using hlen
      have hbs := unsigned_lt bs
      have hcs := unsigned_lt cs
      simp only [unsigned, hlen'] at h hbs
      -- the first byte is the quotient and the rest the remainder
      have hpos : 0 < 256 ^ cs.length := Nat.pow_pos (by decide)
      have hhead : b.toNat = c.toNat := by
        have hdiv := congrArg (· / 256 ^ cs.length) h
        simpa only [Nat.mul_comm _ (256 ^ cs.length), Nat.mul_add_div hpos,
          Nat.div_eq_of_lt hbs, Nat.div_eq_of_lt hcs, Nat.add_zero] using hdiv
      have htail : unsigned bs = unsigned cs := by rw [hhead] at h; omega
      rw [UInt8.toNat_inj.mp hhead, ih hlen' htail]

theorem signed_inj {bs cs : List UInt8} (hlen : bs.length = cs.length)
    (h : signed bs = signed cs) : bs = cs := by
  apply unsigned_inj hlen
  have hbs := unsigned_lt bs
  have hcs := unsigned_lt cs
  rw [signed, signed, hlen] at h
  -- the signed numbers agree up to the modulus, and both unsigned ones lie below it
  have hmod := congrArg (· % ((256 ^ cs.length : Nat) : Int)) h
  simp only [Int.bmod_emod] at hmod
  rw [hlen] at hbs
  rw [← Int.natCast_mod, ← Int.natCast_mod, Nat.mod_eq_of_lt hbs, Nat.mod_eq_of_lt hcs] at hmod
  exact Int.ofNat.inj hmod

theorem unsigned_bigEndian (width n : Nat) : unsigned (bigEndian width n) = n % 256 ^ width := by
  induction width with
  | zero => simp [bigEndian, unsigned, Nat.mod_one]
  | succ width ih =>
    have hshift : n >>> (8 * width) = n / 256 ^ width := by
      rw [Nat.shiftRight_eq_div_pow, Nat.pow_mul]
    rw [bigEndian, unsigned, ih, length_bigEndian, Nat.mod_pow_succ, hshift]
    simp only [UInt8.toNat_ofNat']
    ring

theorem signed_bigEndian (width n : Nat) :
    signed (bigEndian width n) = Int.bmod n (256 ^ width) := by
  rw [signed, unsigned_bigEndian, length_bigEndian, Int.natCast_mod, Int.emod_bmod]

theorem signed_encodeSize {n : Nat} (h : n ≤ maxSize) : signed (encodeSize n) = n := by
  rw [encodeSize, signed_bigEndian]
  have hmax : (n : Int) ≤ 2147483647 := by exact_mod_cast h
  apply Int.bmod_eq_of_le_mul_two
  · norm_num; omega
  · norm_num; omega

/-! ## Format -/

/-- Bytes of a given width that hold a number in two's complement. -/
def HoldsSigned (width : Nat) (z : Int) (bs : List UInt8) : Prop :=
  bs.length = width ∧ signed bs = z

theorem HoldsSigned.unique {width : Nat} {z : Int} {bs cs : List UInt8}
    (hbs : HoldsSigned width z bs) (hcs : HoldsSigned width z cs) : bs = cs :=
  signed_inj (hbs.1.trans hcs.1.symm) (hbs.2.trans hcs.2.symm)

/-- A word of whole bytes holds its own signed number. -/
theorem holdsSigned_bigEndian (width : Nat) (x : BitVec (8 * width)) :
    HoldsSigned width x.toInt (bigEndian width x.toNat) := by
  refine ⟨length_bigEndian _ _, ?_⟩
  rw [signed_bigEndian, BitVec.toInt_eq_toNat_bmod, Nat.pow_mul]

theorem holdsSigned_encodeSize {n : Nat} (h : n ≤ maxSize) : HoldsSigned 4 n (encodeSize n) :=
  ⟨length_bigEndian _ _, signed_encodeSize h⟩

namespace Call

/-- The bytes that the format has for a call. -/
inductive Encodes : Call → List UInt8 → Prop where
  | bool (b : Bool) : Encodes (.datum (.bool b)) [if b then 1 else 0]
  | byte {n : Int8} {bs : List UInt8} (h : HoldsSigned 1 n.toInt bs) :
    Encodes (.datum (.byte n)) bs
  | i16 {n : Int16} {bs : List UInt8} (h : HoldsSigned 2 n.toInt bs) :
    Encodes (.datum (.i16 n)) bs
  | i32 {n : Int32} {bs : List UInt8} (h : HoldsSigned 4 n.toInt bs) :
    Encodes (.datum (.i32 n)) bs
  | i64 {n : Int64} {bs : List UInt8} (h : HoldsSigned 8 n.toInt bs) :
    Encodes (.datum (.i64 n)) bs
  | double {bits : UInt64} {bs : List UInt8} (hlen : bs.length = 8)
      (h : unsigned bs = bits.toNat) :
    Encodes (.datum (.double bits)) bs
  | string {s : String} {size : List UInt8} (h : HoldsSigned 4 (utf8 s).length size) :
    Encodes (.datum (.string s)) (size ++ utf8 s)
  | binary {bytes size : List UInt8} (h : HoldsSigned 4 bytes.length size) :
    Encodes (.datum (.binary bytes)) (size ++ bytes)
  | seqBegin {kind : SeqKind} {elem : WireType} {n : Nat} {size : List UInt8}
      (h : HoldsSigned 4 n size) :
    Encodes (.seqBegin kind elem n) (elem.code :: size)
  | seqEnd (kind : SeqKind) : Encodes (.seqEnd kind) []
  | mapBegin {key value : WireType} {n : Nat} {size : List UInt8} (h : HoldsSigned 4 n size) :
    Encodes (.mapBegin key value n) (key.code :: value.code :: size)
  | mapEnd : Encodes .mapEnd []

/-- The calls whose size has no room in its field, with what is reported. -/
inductive Oversized : Call → Oversize → Prop where
  | string {s : String} (h : 2147483647 < (utf8 s).length) :
    Oversized (.datum (.string s)) ⟨.string, (utf8 s).length⟩
  | binary {bytes : List UInt8} (h : 2147483647 < bytes.length) :
    Oversized (.datum (.binary bytes)) ⟨.binary, bytes.length⟩
  | seqBegin {kind : SeqKind} {elem : WireType} {n : Nat} (h : 2147483647 < n) :
    Oversized (.seqBegin kind elem n) ⟨.seq kind, n⟩
  | mapBegin {key value : WireType} {n : Nat} (h : 2147483647 < n) :
    Oversized (.mapBegin key value n) ⟨.map, n⟩

theorem oversize?_eq_some_iff {c : Call} {e : Oversize} :
    c.oversize? = some e ↔ c.Oversized e := by
  constructor
  · intro h
    cases c with
    | datum d =>
      cases d with
      | string s =>
        obtain ⟨hn, rfl⟩ : maxSize < (utf8 s).length ∧ _ = e := by
          simpa [oversize?, size?] using h
        exact .string hn
      | binary bytes =>
        obtain ⟨hn, rfl⟩ : maxSize < bytes.length ∧ _ = e := by
          simpa [oversize?, size?] using h
        exact .binary hn
      | _ => simp [oversize?, size?] at h
    | seqBegin kind elem n =>
      obtain ⟨hn, rfl⟩ : maxSize < n ∧ _ = e := by simpa [oversize?, size?] using h
      exact .seqBegin hn
    | mapBegin key value n =>
      obtain ⟨hn, rfl⟩ : maxSize < n ∧ _ = e := by simpa [oversize?, size?] using h
      exact .mapBegin hn
    | _ => simp [oversize?, size?] at h
  · intro h
    cases h <;> simp_all [oversize?, size?, maxSize]

theorem oversize?_eq_none_iff {c : Call} : c.oversize? = none ↔ ∀ e, ¬ c.Oversized e := by
  simp only [← oversize?_eq_some_iff, ← Option.eq_none_iff_forall_ne_some]

theorem Encodes.unique {c : Call} {bs cs : List UInt8} (hbs : c.Encodes bs)
    (hcs : c.Encodes cs) : bs = cs := by
  cases hbs with
  | bool b => cases hcs; rfl
  | byte h => cases hcs with | byte h' => exact h.unique h'
  | i16 h => cases hcs with | i16 h' => exact h.unique h'
  | i32 h => cases hcs with | i32 h' => exact h.unique h'
  | i64 h => cases hcs with | i64 h' => exact h.unique h'
  | double hlen h =>
    cases hcs with
    | double hlen' h' => exact unsigned_inj (hlen.trans hlen'.symm) (h.trans h'.symm)
  | string h => cases hcs with | string h' => rw [h.unique h']
  | binary h => cases hcs with | binary h' => rw [h.unique h']
  | seqBegin h => cases hcs with | seqBegin h' => rw [h.unique h']
  | seqEnd kind => cases hcs; rfl
  | mapBegin h => cases hcs with | mapBegin h' => rw [h.unique h']
  | mapEnd => cases hcs; rfl

/-- A call that is not oversize is written as the format has it. -/
theorem encodes_encode {c : Call} (h : c.oversize? = none) : c.Encodes c.encode := by
  have hsize : ∀ kind n, c.size? = some (kind, n) → n ≤ maxSize := by
    intro kind n hn
    simpa [oversize?, hn] using h
  cases c with
  | datum d =>
    cases d with
    | bool b => exact .bool b
    | byte n => exact .byte (holdsSigned_bigEndian 1 n.toBitVec)
    | i16 n => exact .i16 (holdsSigned_bigEndian 2 n.toBitVec)
    | i32 n => exact .i32 (holdsSigned_bigEndian 4 n.toBitVec)
    | i64 n => exact .i64 (holdsSigned_bigEndian 8 n.toBitVec)
    | double bits =>
      refine .double (length_bigEndian _ _) ?_
      show unsigned (bigEndian 8 bits.toNat) = bits.toNat
      rw [unsigned_bigEndian]
      exact Nat.mod_eq_of_lt bits.toNat_lt
    | string s => exact .string (holdsSigned_encodeSize (hsize _ _ rfl))
    | binary bytes => exact .binary (holdsSigned_encodeSize (hsize _ _ rfl))
  | seqBegin kind elem n => exact .seqBegin (holdsSigned_encodeSize (hsize _ _ rfl))
  | seqEnd kind => exact .seqEnd kind
  | mapBegin key value n => exact .mapBegin (holdsSigned_encodeSize (hsize _ _ rfl))
  | mapEnd => exact .mapEnd

/-- The format leaves the writer no choice. -/
theorem forall₂_encodes_iff {cs : List Call} {chunks : List (List UInt8)}
    (h : ∀ c ∈ cs, c.oversize? = none) :
    List.Forall₂ Encodes cs chunks ↔ chunks = cs.map encode := by
  constructor
  · intro hall
    induction hall with
    | nil => rfl
    | cons hc _ ih =>
      rw [List.map_cons, ← ih fun d hd => h d (List.mem_cons_of_mem _ hd),
        hc.unique (encodes_encode (h _ List.mem_cons_self))]
  · rintro rfl
    rw [List.forall₂_map_right_iff, List.forall₂_same]
    exact fun c hc => encodes_encode (h c hc)

end Call

/-! ## Image -/

variable {ε α : Type}

namespace Buffer

/-- Calls of proper size add their bytes. -/
theorem writeAll_of_fits {cs : List Call} (h : ∀ c ∈ cs, c.oversize? = none) (b : Buffer) :
    Sink.writeAll cs b = .ok () ⟨b.bytes ++ cs.flatMap Call.encode⟩ := by
  induction cs generalizing b with
  | nil => simp [Sink.writeAll, pure, EStateM.pure]
  | cons c cs ih =>
    have hc := write_of_fits (h c List.mem_cons_self) b
    rw [Sink.writeAll, bind_of_ok hc, ih fun d hd => h d (List.mem_cons_of_mem _ hd)]
    simp

/-- The first oversize call ends the writing, and the calls before it keep their
bytes. -/
theorem writeAll_of_oversize {pre post : List Call} {c : Call} {e : Oversize}
    (hpre : ∀ d ∈ pre, d.oversize? = none) (hc : c.oversize? = some e) (b : Buffer) :
    Sink.writeAll (pre ++ c :: post) b = .error e ⟨b.bytes ++ pre.flatMap Call.encode⟩ := by
  rw [Sink.writeAll_append, bind_of_ok (writeAll_of_fits hpre b), Sink.writeAll]
  exact bind_of_error (write_of_oversize hc _)

/-- A buffer that takes all calls finds none of them oversize. -/
theorem fits_of_writeAll {cs : List Call} {b b' : Buffer} (h : Sink.writeAll cs b = .ok () b') :
    ∀ c ∈ cs, c.oversize? = none := by
  induction cs generalizing b with
  | nil => exact fun _ hc => nomatch hc
  | cons c cs ih =>
    rw [Sink.writeAll] at h
    cases hc : c.oversize? with
    | some e =>
      rw [bind_of_error (write_of_oversize hc b)] at h
      cases h
    | none =>
      rw [bind_of_ok (write_of_fits hc b)] at h
      exact List.forall_mem_cons.mpr ⟨hc, ih h⟩

end Buffer

/-- A trace that succeeds on a buffer leaves the bytes of all its calls. -/
theorem Trace.bytes_of_on_eq_ok {refused : Oversize → ε} {t : Trace ε α} {b b' : Buffer} {a : α}
    (h : t.on refused b = .ok a b') :
    (∀ c ∈ t.calls, c.oversize? = none) ∧ b' = ⟨b.bytes ++ t.calls.flatMap Call.encode⟩ := by
  rw [Trace.on] at h
  cases hcalls : Sink.writeAll t.calls b with
  | error e s => simp [hcalls] at h
  | ok u s =>
    have hfits := Buffer.fits_of_writeAll hcalls
    rw [Buffer.writeAll_of_fits hfits] at hcalls h
    have hfinish : finish t.outcome _ = finish (.ok a) b' := h
    exact ⟨hfits, (finish_inj hfinish).2.symm⟩

/-- What becomes of a buffer when the same work, done on a fresh recording, ended
with `out` and left the calls `cs`. The chunks are the bytes of single calls, and
the format admits no others. -/
structure IsImage (refused : Oversize → ε) (out : Except ε Unit) (cs : List Call) (b : Buffer)
    (written : EStateM.Result ε Buffer Unit) : Prop where
  /-- Nothing is oversize: the same outcome, and the bytes of every call. -/
  whole : (∀ c ∈ cs, ∀ e, ¬ c.Oversized e) →
    ∃ chunks, (∀ l, List.Forall₂ Call.Encodes cs l ↔ l = chunks) ∧
      written = finish out ⟨b.bytes ++ chunks.flatten⟩
  /-- The first oversize call is reported, and only the calls before it leave
  bytes. -/
  cut : ∀ pre c post e, cs = pre ++ c :: post → (∀ d ∈ pre, ∀ e, ¬ d.Oversized e) →
    c.Oversized e →
    ∃ chunks, (∀ l, List.Forall₂ Call.Encodes pre l ↔ l = chunks) ∧
      written = .error (refused e) ⟨b.bytes ++ chunks.flatten⟩

theorem Trace.isImage (refused : Oversize → ε) (t : Trace ε Unit) (b : Buffer) :
    IsImage refused t.outcome t.calls b (t.on refused b) where
  whole := by
    intro hfit
    have hnone : ∀ c ∈ t.calls, c.oversize? = none :=
      fun c hc => Call.oversize?_eq_none_iff.mpr (hfit c hc)
    refine ⟨t.calls.map Call.encode, fun l => Call.forall₂_encodes_iff hnone, ?_⟩
    rw [Trace.on, Buffer.writeAll_of_fits hnone, List.flatMap_def]
  cut := by
    intro pre c post e hcalls hpre hc
    have hnone : ∀ d ∈ pre, d.oversize? = none :=
      fun d hd => Call.oversize?_eq_none_iff.mpr (hpre d hd)
    refine ⟨pre.map Call.encode, fun l => Call.forall₂_encodes_iff hnone, ?_⟩
    rw [Trace.on, hcalls,
      Buffer.writeAll_of_oversize hnone (Call.oversize?_eq_some_iff.mpr hc), List.flatMap_def]

theorem Replayed.isImage {refused : Oversize → ε}
    {x : ∀ (σ : Type) [Sink σ], EStateM ε σ Unit} (hx : Replayed refused x) (b : Buffer) :
    ∃ out cs, x Recording {} = finish out ⟨cs⟩ ∧ IsImage refused out cs b (x Buffer b) := by
  obtain ⟨t, hx⟩ := hx
  refine ⟨t.outcome, t.calls, ?_, ?_⟩
  · rw [hx, Trace.on_recording]
    rfl
  · rw [hx]
    exact t.isImage refused b

/-- Whatever a program or a value does to a recording, it does the image of it to
a buffer, at any start of the buffer. -/
theorem buffer_is_image_of_recording :
    (∀ (env : Environment) (p : Program) (b : Buffer), ∃ out cs,
      execute env p ({} : Recording) = finish out ⟨cs⟩ ∧
        IsImage EvalError.protocol out cs b (execute env p b)) ∧
    (∀ (v : Value) (b : Buffer), ∃ out cs,
      v.write ({} : Recording) = finish out ⟨cs⟩ ∧ IsImage id out cs b (v.write b)) :=
  ⟨fun env p => (execute_replayed env p).isImage, fun v => v.write_replayed.isImage⟩

end WireScribe

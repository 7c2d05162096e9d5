import WireScribe.Decimal.Shortest

/-!
# WireScribe.JsonText.Number — numbers in JSON

A number is taken apart by its grammar first. A whole number that fits 64 bits,
unsigned or signed, is an integer. Every other number, minus zero included, is a
double: as many digits as fit 64 bits, scaled by a power of ten in one rounded
operation.
-/

namespace WireScribe.JsonText

/-- The digits of a number. -/
structure Numeral where
  negative : Bool
  whole : List Char
  fraction : List Char := []
  /-- The sign and the digits of the exponent. -/
  exponent : Option (Bool × List Char) := none
deriving Repr, DecidableEq

/-- Splits a run of digits off the front of a text. -/
def digits (cs : List Char) : List Char × List Char :=
  (cs.takeWhile Char.isDigit, cs.dropWhile Char.isDigit)

/-- Reads an exponent, if there is one: a mark, an optional sign, and at least one
digit. -/
def exponentPart? (n : Numeral) (cs : List Char) : Option (Numeral × List Char) :=
  let afterMark (cs : List Char) : Option (Numeral × List Char) :=
    let (negative, cs) :=
      match cs with
      | '+' :: rest => (false, rest)
      | '-' :: rest => (true, rest)
      | cs => (false, cs)
    match digits cs with
    | ([], _) => none
    | (ds, rest) => some ({ n with exponent := some (negative, ds) }, rest)
  match cs with
  | 'e' :: rest => afterMark rest
  | 'E' :: rest => afterMark rest
  | cs => some (n, cs)

/-- Reads a fraction, if there is one: a point and at least one digit. -/
def fractionPart? (n : Numeral) (cs : List Char) : Option (Numeral × List Char) :=
  match cs with
  | '.' :: rest =>
    match digits rest with
    | ([], _) => none
    | (ds, rest) => exponentPart? { n with fraction := ds } rest
  | cs => exponentPart? n cs

/-- Reads a number. A zero in front stands alone. -/
def numeral? (cs : List Char) : Option (Numeral × List Char) :=
  let (negative, cs) :=
    match cs with
    | '-' :: rest => (true, rest)
    | cs => (false, cs)
  match digits cs with
  | ([], _) => none
  | ('0' :: _ :: _, _) => none
  | (ds, rest) => fractionPart? { negative, whole := ds } rest

/-- What a number means. -/
inductive Quantity where
  | integer (n : Int)
  /-- A double, by its bits. -/
  | double (bits : UInt64)
deriving Repr, DecidableEq

/-- The value of a digit. -/
def digitValue (c : Char) : Nat := c.toNat - '0'.toNat

/-- The first number that 64 bits do not hold. -/
def wordBound : Nat := 0x10000000000000000

/-- A significand of 64 bits with a decimal exponent. -/
structure Scaled where
  significand : Nat := 0
  exponent : Int := 0
  /-- Whether a digit did not fit. -/
  full : Bool := false

/-- Takes in a digit in front of the point. One that does not fit, and all after
it, count only by their place. -/
def Scaled.pushWhole (s : Scaled) (c : Char) : Scaled :=
  let next := s.significand * 10 + digitValue c
  if s.full || wordBound ≤ next then { s with exponent := s.exponent + 1, full := true }
  else { s with significand := next }

/-- Takes in a digit behind the point. One that does not fit, and all after it,
are dropped. -/
def Scaled.pushFraction (s : Scaled) (c : Char) : Scaled :=
  let next := s.significand * 10 + digitValue c
  if s.full || wordBound ≤ next then { s with full := true }
  else { s with significand := next, exponent := s.exponent - 1 }

/-- The double nearest to a power of ten. -/
def floatTenTo (n : Nat) : Float := Float.ofScientific 1 false n

/-- Divides by a power of ten in steps that a double can hold. -/
def divideByTen (x : Float) (n : Nat) : Float :=
  if n ≤ 308 then x / floatTenTo n
  else if x == 0 then x
  else divideByTen (x / floatTenTo 308) (n - 308)
termination_by n

/-- Scales a significand by a power of ten, unless the result is infinite. -/
def Scaled.toFloat? (s : Scaled) : Option Float :=
  let x := s.significand.toUInt64.toFloat
  if s.exponent < 0 then some (divideByTen x s.exponent.natAbs)
  else if s.exponent ≤ 308 then
    let y := x * floatTenTo s.exponent.toNat
    if y.isInf then none else some y
  else if s.significand = 0 then some x
  else none

/-- The number that digits stand for. -/
def number (ds : List Char) : Nat := ds.foldl (fun n c => n * 10 + digitValue c) 0

/-- The double that a numeral stands for, unless it is out of range. -/
def Numeral.double? (n : Numeral) : Option UInt64 :=
  let whole := n.whole.foldl Scaled.pushWhole {}
  let s := n.fraction.foldl Scaled.pushFraction { whole with full := false }
  let size :=
    match n.exponent with
    | none => s.toFloat?
    | some (down, ds) =>
      let e := number ds
      if e < 0x80000000 then
        Scaled.toFloat? { s with exponent := if down then s.exponent - e else s.exponent + e }
      else if down || s.significand = 0 then some 0
      else none
  size.map fun x => (if n.negative then -x else x).toBits

/-- What a numeral means, unless it is out of range. -/
def Numeral.quantity? (n : Numeral) : Option Quantity :=
  let double := n.double?.map Quantity.double
  if n.fraction.isEmpty && n.exponent.isNone then
    let size := number n.whole
    if n.negative then
      if 0 < size && size ≤ 0x8000000000000000 then some (.integer (-(size : Int))) else double
    else if size < wordBound then some (.integer size)
    else double
  else double

/-- Doubles are positional from 0.00001 up to below 10^16 and have an exponent
with its sign outside; of two equally near decimals the even one is taken. -/
def doubleLayout : Decimal.Layout where
  positionalFrom := -5
  positionalBelow := 16
  signed := true
  tie := .even

end WireScribe.JsonText

/-!
# WireScribe.Decimal.Shortest — the shortest decimal of a double

A finite double is a number `m · 2^q`. Every real that rounds to it lies in an
interval around it, whose ends belong to it when `m` is even. Its shortest
decimal has the fewest digits among the decimals of that interval, and is the
nearest of those.

1. **Bits**: `Bits.decode` splits the 64 bits.
2. **Digits**: `shortest` tests the two neighbours of the value on the grids of
   1, 2, … 17 significant digits, in exact arithmetic.
3. **Layout**: `Layout` says how digits are set out as text.
-/

namespace WireScribe.Decimal

/-! ## Bits -/

/-- A double, taken apart. -/
inductive Decoded where
  | nan
  | infinite (negative : Bool)
  | zero (negative : Bool)
  /-- The number `mantissa · 2^exponent`; `lowest` says that the next double
  towards zero is half as far away as the next one outwards. -/
  | finite (negative : Bool) (mantissa : Nat) (exponent : Int) (lowest : Bool)
deriving Repr, DecidableEq

/-- Takes the 64 bits of a double apart. -/
def decode (bits : UInt64) : Decoded :=
  let n := bits.toNat
  let negative := n >>> 63 == 1
  let biased := (n >>> 52) % 0x800
  let fraction := n % 0x10000000000000
  if biased == 2047 then
    if fraction == 0 then .infinite negative else .nan
  else if biased == 0 then
    if fraction == 0 then .zero negative else .finite negative fraction (-1074) false
  else
    .finite negative (0x10000000000000 + fraction) ((biased : Int) - 1075)
      (fraction == 0 && biased != 1)

/-! ## Digits -/

/-- Which of two equally near decimals is taken. -/
inductive Tie where
  | up
  | even
deriving Repr, DecidableEq

/-- A positive fraction with the interval of its rounding, all over one
denominator. -/
structure Target where
  /-- The lower end. -/
  low : Nat
  /-- The value itself. -/
  value : Nat
  /-- The upper end. -/
  high : Nat
  denominator : Nat
  /-- Whether the ends belong to the interval. -/
  closed : Bool

/-- The interval of the double `mantissa · 2^exponent`, in quarters of its last
place. -/
def Target.ofDouble (mantissa : Nat) (exponent : Int) (lowest : Bool) : Target :=
  let scale := 1 <<< (exponent - 2).toNat
  { low := (4 * mantissa - if lowest then 1 else 2) * scale
    value := 4 * mantissa * scale
    high := (4 * mantissa + 2) * scale
    denominator := 1 <<< (2 - exponent).toNat
    closed := mantissa % 2 == 0 }

/-- A power of ten. -/
def tenTo (n : Nat) : Nat := Nat.pow 10 n

/-- The decimal exponent of the first digit of `value / denominator`. -/
def leadingExponent (value denominator : Nat) : Int :=
  if denominator ≤ value then
    ((Nat.toDigits 10 (value / denominator)).length : Int) - 1
  else
    -- the fewest places by which the point moves to pass the first digit
    let places := (List.range 330).find? fun j => denominator ≤ value * tenTo j
    Int.neg (places.getD 330)

/-- A decimal `coefficient · 10^exponent`. -/
structure Digits where
  coefficient : Nat
  exponent : Int
deriving Repr, DecidableEq

/-- The nearest decimal of the interval among the multiples of `10^exponent`. -/
def Target.nearest? (t : Target) (tie : Tie) (exponent : Int) : Option Digits :=
  let up := tenTo (-exponent).toNat
  let unit := t.denominator * tenTo exponent.toNat
  let inside (c : Nat) : Bool :=
    if t.closed then t.low * up ≤ c * unit && c * unit ≤ t.high * up
    else t.low * up < c * unit && c * unit < t.high * up
  let below := t.value * up / unit
  let above := below + 1
  let toBelow := t.value * up - below * unit
  let toAbove := above * unit - t.value * up
  let takeAbove :=
    if toAbove == toBelow then tie == .up || below % 2 == 1 else toAbove < toBelow
  match inside below, inside above with
  | true, true => some ⟨if takeAbove then above else below, exponent⟩
  | true, false => some ⟨below, exponent⟩
  | false, true => some ⟨above, exponent⟩
  | false, false => none

/-- The shortest decimal that reads back as the double, the nearest of those.
Seventeen digits always suffice. -/
def shortest (tie : Tie) (mantissa : Nat) (exponent : Int) (lowest : Bool) : Digits :=
  let t := Target.ofDouble mantissa exponent lowest
  let first := leadingExponent t.value t.denominator
  ((List.range 17).findSome? fun (i : Nat) => t.nearest? tie (first - i)).getD ⟨0, 0⟩

/-! ## Layout -/

/-- How a double is set out as text. -/
structure Layout where
  /-- The least exponent of the first digit that is written positionally. -/
  positionalFrom : Int
  /-- The first exponent past the positional ones. -/
  positionalBelow : Int
  /-- Whether a plus sign stands in front of an exponent that is not negative. -/
  signed : Bool
  tie : Tie

/-- Digits with a point: at least one digit on either side of it. -/
def positional (digits : List Char) (exponent : Int) : List Char :=
  if exponent < 0 then
    '0' :: '.' :: (List.replicate (-exponent - 1).toNat '0' ++ digits)
  else
    let whole := exponent.toNat + 1
    let padded := digits ++ List.replicate (whole + 1 - digits.length) '0'
    padded.take whole ++ '.' :: padded.drop whole

/-- Digits with an exponent; a lone digit has no point. -/
def scientific (signed : Bool) (digits : List Char) (exponent : Int) : List Char :=
  let coefficient :=
    match digits with
    | d :: e :: rest => d :: '.' :: e :: rest
    | ds => ds
  let sign := if signed && 0 ≤ exponent then ['+'] else []
  coefficient ++ 'e' :: (sign ++ (toString exponent).toList)

/-- The text of a positive decimal. Zeros at the end of the coefficient say
nothing and are left out. -/
def Layout.digits (l : Layout) (d : Digits) : List Char :=
  let all := Nat.toDigits 10 d.coefficient
  let exponent := d.exponent + (all.length : Int) - 1
  let significant := (all.reverse.dropWhile (· == '0')).reverse
  if l.positionalFrom ≤ exponent && exponent < l.positionalBelow then
    positional significant exponent
  else
    scientific l.signed significant exponent

/-- The text of a double. -/
def Layout.text (l : Layout) (bits : UInt64) : String :=
  match decode bits with
  | .nan => "NaN"
  | .infinite negative => if negative then "-inf" else "inf"
  | .zero negative => if negative then "-0.0" else "0.0"
  | .finite negative mantissa exponent lowest =>
    let body := String.ofList (l.digits (shortest l.tie mantissa exponent lowest))
    if negative then "-" ++ body else body

end WireScribe.Decimal

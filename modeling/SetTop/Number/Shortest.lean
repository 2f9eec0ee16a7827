/-!
The fewest decimal digits that identify a double.

A finite positive double is `mant * 2 ^ exp` with natural `mant`. `shortest` looks for the smallest
number of significant digits with which one of the two decimals beside the value is read as the
double, and takes the nearer one if both are. All comparisons are
made on natural numbers, so the result is exact.
-/

namespace SetTop.Number

/-- The positive real `mant * 2 ^ exp`. -/
structure Dyadic where
  mant : Nat
  exp : Int
deriving DecidableEq

/-- A decimal significand: the real `digits * 10 ^ exp`. -/
structure Decimal where
  digits : Nat
  exp : Int
deriving DecidableEq

inductive Parts
  | nan
  | infinite (negative : Bool)
  | finite (negative : Bool) (value : Dyadic)
deriving DecidableEq

def Parts.ofBits (bits : UInt64) : Parts :=
  let n := bits.toNat
  let negative := n / Nat.pow 2 63 == 1
  let biased : Nat := n / Nat.pow 2 52 % Nat.pow 2 11
  let fraction : Nat := n % Nat.pow 2 52
  if biased = 2047 then
    if fraction = 0 then .infinite negative else .nan
  else if biased = 0 then .finite negative ⟨fraction, -1074⟩
  else .finite negative ⟨Nat.pow 2 52 + fraction, (biased : Int) - 1075⟩

def roundHalfEven (num den : Nat) : Nat :=
  let q := num / den
  let r := num % den
  if 2 * r < den || (2 * r == den && q % 2 == 0) then q else q + 1

def decimalLength (n : Nat) : Nat :=
  (Nat.toDigits 10 n).length

/-- The bits of the double nearest to a positive quotient; of two equally near ones the even one.
Those of its exponent and its significand are added up, so that a carry out of the significand goes
into the exponent. Above all finite doubles stands infinity. -/
def nearestBits (num den : Nat) : Nat :=
  -- counted in the smallest double there is
  let num := num * Nat.pow 2 1074
  let exponent := (num / den).log2 + 1 - 53
  min (exponent * Nat.pow 2 52 + roundHalfEven num (den * Nat.pow 2 exponent)) (2047 * Nat.pow 2 52)

/-- The bits of the double nearest to a decimal. Cutting exponents beyond the range of doubles
changes no result. -/
def Decimal.bits (c : Decimal) : Nat :=
  let size : Int := c.exp + decimalLength c.digits
  if c.digits = 0 ∨ size < -400 then 0
  else if size > 400 then 2047 * Nat.pow 2 52
  else if c.exp ≥ 0 then nearestBits (c.digits * Nat.pow 10 c.exp.toNat) 1
  else nearestBits c.digits (Nat.pow 10 (-c.exp).toNat)

namespace Dyadic

variable (d : Dyadic)

def fraction : Nat × Nat :=
  if d.exp ≥ 0 then (d.mant * Nat.pow 2 d.exp.toNat, 1) else (d.mant, Nat.pow 2 (-d.exp).toNat)

def floor : Nat :=
  d.fraction.1 / d.fraction.2

def bits : Nat := (d.exp + 1074).toNat * Nat.pow 2 52 + d.mant

/-- The value with all its digits. -/
def decimal : Decimal :=
  if d.exp ≥ 0 then ⟨d.mant * Nat.pow 2 d.exp.toNat, 0⟩
  -- mant * 2 ^ -s = mant * 5 ^ s * 10 ^ -s
  else ⟨d.mant * Nat.pow 5 (-d.exp).toNat, d.exp⟩

end Dyadic

/-- The decimal exponent of the leading digit: the `k` with
`10 ^ k ≤ value < 10 ^ (k + 1)`. -/
def leadingExponent (d : Dyadic) : Int := d.decimal.exp + decimalLength d.decimal.digits - 1

/-- The point of the grid of spacing `10 ^ exp` that is nearest to the value, or else the one on its
other side, if it is read as the value. -/
def nearestOnGrid? (d : Dyadic) (exp : Int) : Option Decimal :=
  let (num, den) := d.fraction
  let num := if exp ≥ 0 then num else num * Nat.pow 10 (-exp).toNat
  let den := if exp ≥ 0 then den * Nat.pow 10 exp.toNat else den
  let nearest := roundHalfEven num den
  let other := if nearest = num / den then nearest + 1 else num / den
  [⟨nearest, exp⟩, ⟨other, exp⟩].find? (·.bits == d.bits)

/-- The shortest decimal that is read as the value. Seventeen digits always suffice for a double. -/
def shortest (d : Dyadic) : Decimal :=
  if d.mant = 0 then ⟨0, 0⟩
  else
    let lead := leadingExponent d
    ((List.range 17).findSome? fun (n : Nat) => nearestOnGrid? d (lead - n)).getD d.decimal

end SetTop.Number

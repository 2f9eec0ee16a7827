import SetTop.Number.Layout

/-!
Single precision.

`roundToSingle` gives the double that is nearest to its argument among those with a
significand of 24 bits and the exponent range of a 32-bit number, halves to the even
neighbour.
-/

namespace SetTop.Number

def powerOfTwo (k : Int) : Float := Float.ofBits (UInt64.ofNat ((k + 1023).toNat * Nat.pow 2 52))

/-- The double with the value `mant * 2 ^ exp`, for significands of at most 24 bits and exponents
from -149 on. -/
def ofSmallDyadic (d : Dyadic) : Float := Float.ofNat d.mant * powerOfTwo d.exp

def Dyadic.toSingle (d : Dyadic) : Dyadic :=
  let bits : Int := if d.mant = 0 then 0 else (Nat.log2 d.mant : Int) + 1
  let shift := max (bits - 24) (-149 - d.exp)
  if shift ≤ 0 then d
  else ⟨roundHalfEven d.mant (Nat.pow 2 shift.toNat), d.exp + shift⟩

def roundToSingle (x : Float) : Float :=
  match Parts.ofBits x.toBits with
  | .finite negative d =>
    let s := d.toSingle
    let size : Float :=
      if s.mant = 0 then 0.0
      else if 128 ≤ s.exp + Nat.log2 s.mant then 1.0 / 0.0
      else ofSmallDyadic s
    if negative then -size else size
  | _ => x

def ofSingleBits (bits : Nat) : Float :=
  let mant : Nat := bits % Nat.pow 2 23
  let exp : Nat := bits / Nat.pow 2 23 % 256
  let size : Float :=
    if exp = 255 then (if mant = 0 then 1.0 / 0.0 else 0.0 / 0.0)
    else if exp = 0 then ofSmallDyadic ⟨mant, -149⟩
    else ofSmallDyadic ⟨mant + Nat.pow 2 23, (exp : Int) - 150⟩
  if bits / Nat.pow 2 31 = 1 then -size else size

end SetTop.Number

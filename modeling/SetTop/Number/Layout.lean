import SetTop.Number.Shortest

/-!
How numbers are written.

`Layout.plain` is the layout of numbers inside results and messages: positional between `0.0001` and
`10 ^ 16`, with a point in every fractional number, and an exponent of at least two digits outside.
`fixed` writes a set number of places and `compact` at most six significant digits. Halves go to the
even neighbour, judged on the exact value of the double.
-/

namespace SetTop.Number

structure Layout where
  /-- the smallest exponent of the leading digit that is written positionally -/
  lowest : Int
  /-- the first exponent of the leading digit that is written with an exponent mark -/
  limit : Int
  /-- whether a whole number keeps `.0` -/
  keepsPoint : Bool
  /-- the least number of digits in the exponent -/
  exponentWidth : Nat

def Layout.plain : Layout := ⟨-4, 16, true, 2⟩

def zeros (n : Nat) : String := String.ofList (List.replicate n '0')

def padded (width n : Nat) : String :=
  let digits := Nat.toDigits 10 n
  zeros (width - digits.length) ++ String.ofList digits

def exponentText (width : Nat) (e : Int) : String :=
  "e" ++ (if e < 0 then "-" else "+") ++ padded width e.natAbs

def dropTrailingZeros (digits : List Char) : List Char :=
  match (digits.reverse.dropWhile (· == '0')).reverse with
  | [] => digits.take 1
  | kept => kept

/-- The digits `ds` with the point set behind the leading digit of exponent `e`. -/
def positional (keepsPoint : Bool) (ds : List Char) (e : Int) : String :=
  if e < 0 then "0." ++ zeros (-e - 1).toNat ++ String.ofList ds
  else
    let whole := e.toNat + 1
    let front := String.ofList (ds.take whole) ++ zeros (whole - ds.length)
    let back := String.ofList (ds.drop whole)
    if back.isEmpty then (if keepsPoint then front ++ ".0" else front) else front ++ "." ++ back

def scientific (width : Nat) (ds : List Char) (e : Int) : String :=
  let back := String.ofList (ds.drop 1)
  String.ofList (ds.take 1) ++ (if back.isEmpty then "" else "." ++ back) ++ exponentText width e

def Layout.write (l : Layout) (c : Decimal) : String :=
  let all := Nat.toDigits 10 c.digits
  let e := c.exp + all.length - 1
  let ds := dropTrailingZeros all
  if l.lowest ≤ e && e < l.limit then positional l.keepsPoint ds e
  else scientific l.exponentWidth ds e

def plainText (x : Float) : String :=
  match Parts.ofBits x.toBits with
  | .nan => "nan"
  | .infinite negative => if negative then "-inf" else "inf"
  | .finite negative d => (if negative then "-" else "") ++ Layout.plain.write (shortest d)

def Dyadic.fixed (places : Nat) (d : Dyadic) : String :=
  let (num, den) := d.fraction
  let n := roundHalfEven (num * Nat.pow 10 places) den
  let whole := toString (n / Nat.pow 10 places)
  if places = 0 then whole else whole ++ "." ++ padded places (n % Nat.pow 10 places)

def fixed (places : Nat) (x : Float) : String :=
  match Parts.ofBits x.toBits with
  | .nan => "nan"
  | .infinite negative => if negative then "-inf" else "inf"
  | .finite negative d => (if negative then "-" else "") ++ d.fixed places

def Dyadic.significant (count : Nat) (d : Dyadic) : Decimal :=
  let exp := leadingExponent d + 1 - count
  let (num, den) := d.fraction
  let n := if exp ≥ 0 then roundHalfEven num (den * Nat.pow 10 exp.toNat)
    else roundHalfEven (num * Nat.pow 10 (-exp).toNat) den
  ⟨n, exp⟩

/-- At most six significant digits, without trailing zeros, positional between
`0.0001` and a million. -/
def compact (x : Float) : String :=
  match Parts.ofBits x.toBits with
  | .nan => "nan"
  | .infinite negative => if negative then "-inf" else "inf"
  | .finite negative d =>
    let c := if d.mant = 0 then ⟨0, 0⟩ else d.significant 6
    (if negative then "-" else "") ++ (Layout.mk (-4) 6 false 2).write c

end SetTop.Number

import SetTop.Number.Layout

/-!
Numbers as scripts and configuration files give them.

A number is an integer of any size, a finite double, one of the two infinities, or the result of an
undefined operation. An operation of an integer with a double gives a double. The infinities are
constructors of their own, so that arithmetic and order on screen coordinates, which are integers or
infinite, never go through floating point.
-/

namespace SetTop

open Number

inductive Num
  | int (n : Int)
  | real (x : Float)
  | posInf
  | negInf
  | nan

namespace Num

instance : OfNat Num n := ⟨.int n⟩
instance : Coe Int Num := ⟨.int⟩
instance : Coe Nat Num := ⟨fun n => .int n⟩

def ofFloat (x : Float) : Num :=
  match Parts.ofBits x.toBits with
  | .nan => .nan
  | .infinite true => .negInf
  | .infinite false => .posInf
  | .finite .. => .real x

def toFloat : Num → Float
  | .int n => Float.ofInt n
  | .real x => x
  | .posInf => 1.0 / 0.0
  | .negInf => -1.0 / 0.0
  | .nan => 0.0 / 0.0

/-- The double nearest to the number; `none` for an integer beyond the range of doubles. -/
def toFloat? : Num → Option Float
  | .int n =>
    let x := Float.ofInt n
    if x.isInf then none else some x
  | a => some a.toFloat

/-- The text of the number: an integer has no point, a double always shows that it is one. -/
def text : Num → String
  | .int n => toString n
  | .real x => plainText x
  | .posInf => "inf"
  | .negInf => "-inf"
  | .nan => "nan"

def compareIntFloat (n : Int) (x : Float) : Ordering :=
  match Parts.ofBits x.toBits with
  | .finite negative d =>
    let (num, den) := d.fraction
    compare (n * den) (if negative then -(num : Int) else num)
  | _ => .eq

/-- The order of two numbers; an undefined number compares with nothing. -/
def compare? : Num → Num → Option Ordering
  | .nan, _ => none
  | _, .nan => none
  | .int a, .int b => some (compare a b)
  | .negInf, .negInf => some .eq
  | .negInf, _ => some .lt
  | _, .negInf => some .gt
  | .posInf, .posInf => some .eq
  | .posInf, _ => some .gt
  | _, .posInf => some .lt
  | .int a, .real y => some (compareIntFloat a y)
  | .real x, .int b => some (compareIntFloat b x).swap
  | .real x, .real y => some (if x < y then .lt else if y < x then .gt else .eq)

variable (a b : Num)

def lt (a b : Num) : Bool := a.compare? b == some .lt
def gt (a b : Num) : Bool := a.compare? b == some .gt
def le : Bool := a.compare? b == some .lt || a.compare? b == some .eq
def ge : Bool := a.compare? b == some .gt || a.compare? b == some .eq

/-- Equality by value: the integer five and the double five are equal. -/
def eq (a b : Num) : Bool := a.compare? b == some .eq

instance : BEq Num := ⟨eq⟩

def min : Num := if b.lt a then b else a

def max : Num := if b.gt a then b else a

def isTrue (a : Num) : Bool := !(a.eq 0)

def neg : Num → Num
  | .int n => .int (-n)
  | .real x => .real (-x)
  | .posInf => .negInf
  | .negInf => .posInf
  | .nan => .nan

def add : Num → Num → Num
  | .int a, .int b => .int (a + b)
  | .nan, _ => .nan
  | _, .nan => .nan
  | .posInf, .negInf => .nan
  | .negInf, .posInf => .nan
  | .posInf, _ => .posInf
  | _, .posInf => .posInf
  | .negInf, _ => .negInf
  | _, .negInf => .negInf
  | a, b => ofFloat (a.toFloat + b.toFloat)

def sub : Num := a.add b.neg

def mul : Num → Num → Num
  | .int a, .int b => .int (a * b)
  | a, b => ofFloat (a.toFloat * b.toFloat)

/-- The quotient; `none` for a zero divisor. That of two integers is rounded down to one. -/
def div? : Option Num :=
  if b.eq 0 then none
  else match a, b with
    | .int x, .int y => some (.int (x.fdiv y))
    | a, b => some (ofFloat (a.toFloat / b.toFloat))

/-- Joins two numbers. Unless both are integers they are joined as doubles, which have to hold them.
-/
def join? (ofInts : Int → Int → Int) (ofReals : Num → Num → Num) (a b : Num) : Option Num :=
  match a, b with
  | .int x, .int y => some (.int (ofInts x y))
  | a, b => if a.toFloat?.isSome && b.toFloat?.isSome then some (ofReals a b) else none

def add? : Num → Num → Option Num := join? (· + ·) add

def sub? : Num → Num → Option Num := join? (· - ·) sub

def mul? : Num → Num → Option Num := join? (· * ·) mul

/-- The power of two with the given exponent. One beyond the range of doubles is undefined unless it
is whole. -/
def powerOfTwo? : Num → Option Num
  | .int (.ofNat n) => some (.int (Nat.pow 2 n : Nat))
  | .real x =>
    let y := Float.pow 2.0 x
    if y.isInf then none else some (ofFloat y)
  | e => some (ofFloat (Float.pow 2.0 e.toFloat))

instance : Neg Num := ⟨neg⟩
instance : Add Num := ⟨add⟩
instance : Sub Num := ⟨sub⟩
instance : Mul Num := ⟨mul⟩

/-- The integer part, rounded towards zero; `none` when there is none. -/
def truncate? : Num → Option Int
  | .int n => some n
  | .real x =>
    match Parts.ofBits x.toBits with
    | .finite negative d => some (if negative then -(d.floor : Int) else d.floor)
    | _ => none
  | _ => none

end Num

end SetTop

import SetTop.Number.Basic
import SetTop.Text.Basic
import SetTop.Text.Case
import SetTop.Text.Quoted
import SetTop.Text.Word

/-!
Reading numbers.

Blanks around a number are ignored, a sign may stand in front, and single
underscores may separate digits. Digits of other scripts count. A number in
base sixteen may carry the mark `0x`. The words for infinity and for an
undefined number are read as doubles in any case.
-/

namespace SetTop.Number

open Text

def readDigits? (value? : Char → Option Nat) (base : Nat) (cs : List Char) : Option Nat :=
  match cs with
  | [] => none
  | c :: _ => if c = '_' then none else go 0 false cs
where
  go (acc : Nat) (gap : Bool) : List Char → Option Nat
    | [] => if gap then none else some acc
    | '_' :: cs => if gap then none else go acc true cs
    | c :: cs =>
      match value? c with
      | some d => go (acc * base + d) false cs
      | none => none

variable (cs : List Char)

/-- Drops the white space around a number. The four separators of files, groups, records and
units are no part of it. -/
def trim : List Char :=
  let isGap (c : Char) : Bool := isBlank c && !(28 ≤ c.toNat && c.toNat ≤ 31)
  dropEndWhile isGap (cs.dropWhile isGap)

def takeSign : List Char → Bool × List Char
  | '-' :: cs => (true, cs)
  | '+' :: cs => (false, cs)
  | cs => (false, cs)

inductive IntError
  | malformed
  /-- it has more digits than are read -/
  | tooLong (digits : Nat)
deriving DecidableEq

def maxDigits : Nat := 4300

def readIntWithin (limit : Nat) (s : String) : Except IntError Int :=
  let (negative, cs) := takeSign (trim s.toList)
  let length := (cs.takeWhile fun c => c == '_' || isDecimalDigit c).countP (· ≠ '_')
  if length > limit then .error (.tooLong length)
  else match readDigits? digitValue? 10 cs with
    | some n => .ok (if negative then -(n : Int) else n)
    | none => .error .malformed

variable (s : String)

def readInt : Except IntError Int := readIntWithin maxDigits s

def readInt? : Option Int := (readInt s).toOption

def IntError.message : IntError → String
  | .malformed => "invalid literal for int() with base 10: " ++ String.ofList ((quote s).toList.take 200)
  | .tooLong digits =>
    s!"Exceeds the limit ({maxDigits} digits) for integer string conversion: value has {digits} digits; " ++
      "use sys.set_int_max_str_digits() to increase the limit"

def plainHexValue? (c : Char) : Option Nat :=
  if 'a' ≤ c && c ≤ 'f' then some (c.toNat - 87)
  else if 'A' ≤ c && c ≤ 'F' then some (c.toNat - 55)
  else if '0' ≤ c && c ≤ '9' then some (c.toNat - 48)
  else none

def hexValue? (c : Char) : Option Nat := (plainHexValue? c).orElse fun _ => digitValue? c

def readHex? : Option Int :=
  let (negative, cs) := takeSign (trim s.toList)
  let digits := match cs with
    | '0' :: 'x' :: '_' :: rest => rest
    | '0' :: 'X' :: '_' :: rest => rest
    | '0' :: 'x' :: rest => rest
    | '0' :: 'X' :: rest => rest
    | cs => cs
  (readDigits? hexValue? 16 digits).map fun n => if negative then -(n : Int) else n

def digitRun : List Char × List Char :=
  (cs.takeWhile fun c => c == '_' || isDecimalDigit c,
   cs.dropWhile fun c => c == '_' || isDecimalDigit c)

def pointRun : List Char → List Char × List Char
  | '.' :: cs => digitRun cs
  | cs => ([], cs)

def readExponent? : List Char → Option Int
  | [] => some 0
  | c :: cs =>
    if c = 'e' || c = 'E' then
      let (negative, ds) := takeSign cs
      (readDigits? digitValue? 10 ds).map fun n => if negative then -(n : Int) else n
    else none

def Decimal.double (negative : Bool) (c : Decimal) : Float :=
  Float.ofBits (UInt64.ofNat (c.bits + if negative then Nat.pow 2 63 else 0))

def readDecimal? : Option Decimal :=
  let (whole, rest) := digitRun cs
  let (part, rest) := pointRun rest
  if whole.isEmpty && part.isEmpty then none
  else
    let digits? (ds : List Char) : Option Nat :=
      if ds.isEmpty then some 0 else readDigits? digitValue? 10 ds
    match digits? whole, digits? part, readExponent? rest with
    | some a, some b, some e =>
      let places := (part.filter (· ≠ '_')).length
      some ⟨a * Nat.pow 10 places + b, e - places⟩
    | _, _, _ => none

def readFloat? : Option Num :=
  let (negative, cs) := takeSign (trim s.toList)
  let word := String.ofList (lower cs)
  if word == "inf" || word == "infinity" then some (if negative then .negInf else .posInf)
  else if word == "nan" then some .nan
  else (readDecimal? cs).map fun c => Num.ofFloat (c.double negative)

end SetTop.Number

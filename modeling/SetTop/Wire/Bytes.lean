import SetTop.Fault

/-!
Bytes, and numbers written as bytes.
-/

namespace SetTop

abbrev Bytes := List UInt8

namespace Bytes

def ofChars (cs : List Char) : Bytes := cs.map fun c => UInt8.ofNat c.toNat

def ofText (s : String) : Bytes := ofChars s.toList

def toChars (b : Bytes) : List Char := b.map fun x => Char.ofNat x.toNat

def toText (b : Bytes) : String := String.ofList (toChars b)

def byte? (n : Int) : Option UInt8 := if 0 ≤ n ∧ n < 256 then some (UInt8.ofNat n.toNat) else none

def bigEndian? (n : Int) : Option Bytes :=
  if 0 ≤ n ∧ n.toNat < 65536 then some [UInt8.ofNat (n.toNat / 256), UInt8.ofNat (n.toNat % 256)]
  else none

def littleEndian? (n : Int) : Option Bytes := (bigEndian? n).map List.reverse

def readBigEndian? : Bytes → Option Nat
  | a :: b :: _ => some (a.toNat * 256 + b.toNat)
  | _ => none

def readLittleEndian? : Bytes → Option Nat
  | a :: b :: _ => some (b.toNat * 256 + a.toNat)
  | _ => none

end Bytes

def unpackable : Fault := .foreign .packing ""

def fitting {α : Type} (a : Option α) (detail : String := "") : Except Fault α :=
  match a with
  | some a => .ok a
  | none => .error (.foreign .packing detail)

def wrongSize (n : Nat) : Fault := .foreign .packing s!"unpack requires a buffer of {n} bytes"

/-- What travels on a connection: a character for every byte. One above 255 stands for no byte and
cannot be read as a number. -/
abbrev Data := List Char

namespace Data

def bytes (d : Data) : Except Fault Bytes :=
  if d.all (·.toNat < 256) then .ok (Bytes.ofChars d) else .error (.foreign .encoding "")

def pair (d : Data) : Except Fault (Nat × Nat) := do
  match ← d.bytes with
  | [a, b] => return (a.toNat, b.toNat)
  | _ => throw (wrongSize 2)

def bigEndian (d : Data) : Except Fault Nat := do fitting (Bytes.readBigEndian? (← d.bytes))

def littleEndian (d : Data) : Except Fault Nat := do fitting (Bytes.readLittleEndian? (← d.bytes))

end Data

end SetTop

/-!
Bytes written with sixty-four letters.

Three bytes make four letters. A last group of one or two bytes is filled up with equals
signs.
-/

namespace SetTop.Base64

def letters : List Char :=
  "ABCDEFGHIJKLMNOPQRSTUVWXYZabcdefghijklmnopqrstuvwxyz0123456789+/".toList

def letter (n : Nat) : Char := letters.getD n '='

def encode : Bytes → List Char
  | [] => []
  | [a] =>
    let n := a.toNat * 16
    [letter (n / 64), letter (n % 64), '=', '=']
  | [a, b] =>
    let n := (a.toNat * 256 + b.toNat) * 4
    [letter (n / 4096), letter (n / 64 % 64), letter (n % 64), '=']
  | a :: b :: c :: rest =>
    let n := (a.toNat * 256 + b.toNat) * 256 + c.toNat
    letter (n / 262144) :: letter (n / 4096 % 64) :: letter (n / 64 % 64) :: letter (n % 64) ::
      encode rest

end SetTop.Base64

import SetTop.Number.Basic
import SetTop.Number.Single
import SetTop.Webm.Element
import SetTop.Wire.Bytes

/-!
Reading elements.

The first byte of an element's number says how many bytes it has, and so does the first
byte of the length of its data. Everything is read at a place in the file and gives the
place behind it.
-/

namespace SetTop.Webm

variable (file : Bytes)

def readAt (pos count : Nat) : Bytes × Nat :=
  let data := (file.drop pos).take count
  (data, pos + data.length)

def readExactly (pos count : Nat) : Except Fault (Bytes × Nat) :=
  let (data, next) := readAt file pos count
  if data.length = count then .ok (data, next) else .error unpackable

def byteAt (pos : Nat) : Except Fault UInt8 := do
  let (data, _) ← readExactly file pos 1
  return data.headD 0

def bitSet (b : UInt8) (n : Nat) : Bool := b.toNat.testBit n

/-- The number of leading zero bits of a byte, plus one; `none` for zero. -/
def lengthMark? (b : UInt8) : Option Nat :=
  if 128 ≤ b then some 1 else if 64 ≤ b then some 2 else if 32 ≤ b then some 3
  else if 16 ≤ b then some 4 else if 8 ≤ b then some 5 else if 4 ≤ b then some 6
  else if 2 ≤ b then some 7 else if 1 ≤ b then some 8 else none

def idLength (pos : Nat) : Except Fault Nat := do
  match lengthMark? (← byteAt file pos) with
  | some n => if n ≤ 4 then return n else fail .assertion "ReadOneByteForElementIdSize Error"
  | none => fail .assertion "ReadOneByteForElementIdSize Error"

def sizeLength (pos : Nat) : Except Fault Nat := do
  match lengthMark? (← byteAt file pos) with
  | some n => return n
  | none => fail .assertion ""

def idText (data : Bytes) : String :=
  String.join (data.map fun b => String.ofList (Nat.toDigits 16 b.toNat))

def readId (pos count : Nat) : Except Fault (String × Nat) := do
  let (data, next) ← readExactly file pos count
  if data.isEmpty then failBelow .badSyntax
  return (idText data, next)

def hexNumber (s : String) : Nat :=
  s.toList.foldl (fun n c => n * 16 + (if c.isDigit then c.toNat - 48 else c.toNat - 87)) 0

def unmarked (b : UInt8) : Nat :=
  let n := b.toNat
  if 128 ≤ n then n % 128 else if 64 ≤ n then n % 64 else if 32 ≤ n then n % 32
  else if 16 ≤ n then n / 8 % 2 * 8 else if 8 ≤ n then n % 8 else if 4 ≤ n then n % 4
  else if 2 ≤ n then n % 2 else 0

def bigEndian (values : List Nat) : Nat := values.foldl (fun n v => n * 256 + v) 0

def readSize (pos count : Nat) : Except Fault (Nat × Nat) := do
  let (data, next) ← readExactly file pos count
  match data with
  | [] => failBelow .index
  | b :: rest => return (bigEndian (unmarked b :: rest.map (·.toNat)), next)

inductive Value
  | bytes (b : Bytes)
  | text (s : String)
  | real (x : Num)

def realOf (data : Bytes) : Except Fault Num :=
  let bits := bigEndian (data.map (·.toNat))
  if data.length = 4 then .ok (Num.ofFloat (Number.ofSingleBits bits))
  else if data.length = 8 then .ok (Num.ofFloat (Float.ofBits (UInt64.ofNat bits)))
  else failBelow .unboundLocal

def readValue (pos size : Nat) (kind : Kind) : Except Fault (Value × Nat) := do
  match kind with
  | .container => fail .assertion "Data Handling Error"
  | .real =>
    let (data, next) := readAt file pos size
    return (.real (← realOf data), next)
  | .text =>
    let (data, next) ← readExactly file pos size
    return (.text (Bytes.toText data), next)
  | _ =>
    let (data, next) ← readExactly file pos size
    return (.bytes data, next)

/-- The head of an element: its number, where its data start, how long they are, and its own length.
-/
structure Head where
  start : Nat
  idText : String
  size : Nat
  length : Nat

namespace Head

def id (h : Head) : Nat := hexNumber h.idText

def data (h : Head) : Nat := h.start + h.length

end Head

def readHead (pos : Nat) : Except Fault Head := do
  let n ← idLength file pos
  let (text, next) ← readId file pos n
  let m ← sizeLength file next
  let (size, _) ← readSize file next m
  return ⟨pos, text, size, n + m⟩

end SetTop.Webm

import SetTop.Scene.Readings
import SetTop.Webm.Inspect

/-!
Parts of the inspection of a video file, each asked for by itself.
-/

namespace SetTop.Scene

def spelledNatural? (cs : List Char) : Option Nat :=
  let read (value? : Char → Option Nat) (base : Nat) (cs : List Char) : Option Nat :=
    let cs := match cs with
      | '_' :: rest => rest
      | cs => cs
    Number.readDigits? value? base cs
  let below (n : Nat) (c : Char) : Option Nat := (Number.plainHexValue? c).filter (· < n)
  match cs with
  | '0' :: 'x' :: rest | '0' :: 'X' :: rest => read Number.plainHexValue? 16 rest
  | '0' :: 'o' :: rest | '0' :: 'O' :: rest => read (below 8) 8 rest
  | '0' :: 'b' :: rest | '0' :: 'B' :: rest => read (below 2) 2 rest
  | '0' :: rest =>
    (Number.readDigits? (below 10) 10 ('0' :: rest)).filter (· = 0)
  | cs => Number.readDigits? (below 10) 10 cs

def spelled : List Char → Except Fault Int
  | ' ' :: rest | '\t' :: rest => spelled rest
  | '-' :: rest => (spelled rest).map fun n => -n
  | '+' :: rest => spelled rest
  | cs =>
    let word := String.ofList (Text.stripEnd cs)
    match spelledNatural? word.toList with
    | some n => .ok n
    | none =>
      if word == "True" then .ok 1
      else if word == "False" then .ok 0
      else if word == "None" || (Number.readFloat? word).isSome && (word.toList.headD ' ').isDigit then
        failBelow .type
      else match word.toList with
        | c :: rest =>
          if (c.isAlpha || c == '_') && rest.all fun c => c.isAlphanum || c == '_' then
            failBelow .unknownName
          else failBelow .badSyntax
        | [] => failBelow .badSyntax

variable (j : Json)

def wholeNumber : Except Fault Int :=
  match j.number? with
  | some (.int n) => .ok n
  | _ => failBelow .type

def spelledInt : Json → Except Fault Int
  | .text s => spelled s.toList
  | j => wholeNumber j

def wholeNumbers : Json → Except Fault (List Int)
  | .list js => js.mapM wholeNumber
  | _ => failBelow .type

def wordNumber : Except Fault Int := do
  let n ← wholeNumber j
  if (Nat.pow 2 63 : Int) ≤ n ∨ n < -(Nat.pow 2 63 : Int) then failBelow .overflow else return n

def filePlace : Except Fault Nat := do
  let n ← wordNumber j
  if n < 0 then throw (.foreign .value "negative seek value") else return n.toNat

def byteCount : Except Fault Nat := do
  let n ← wordNumber j
  if n < 0 then throw unpackable else return n.toNat

def dataItem (data : Json) (i : Int) : Except Fault Json :=
  let pick (js : List Json) : Except Fault Json :=
    let i := if i < 0 then i + js.length else i
    match if i < 0 then none else js[i.toNat]? with
    | some j => .ok j
    | none => failBelow .index
  match data, sequence? data with
  | .object _, _ => failBelow .key
  | _, some js => pick js
  | _, none => failBelow .type

def widestShift : Int := 100000000000

def isBitSet (data n : Json) : Except Fault Bool := do
  let first ← dataItem data 0
  let n ← wholeNumber n
  if n < 0 then throw (.foreign .value "negative shift count")
  if n > widestShift then failBelow .memory
  let v ← wholeNumber first
  return if n.toNat > v.natAbs.log2 + 1 then decide (v < 0) else v.fdiv (Nat.pow 2 n.toNat) % 2 = 1

def lowFirst (data : Json) : Nat → Except Fault Int
  | 0 => .ok 0
  | n + 1 => do
    let v ← wholeNumber (← dataItem data n)
    return v * Nat.pow 256 n + (← lowFirst data n)

/-- The number that items give, the low one first. A count that counts as nothing gives zero. -/
def lowFirstOf (data count : Json) : Except Fault Int := do
  if !count.isTrue then return 0
  let n ← wholeNumber count
  if n < 0 then
    let _ ← wholeNumber (← dataItem data (n - 1))
    throw (.foreign .value "negative shift count")
  if n > 100000000 then
    let _ ← dataItem data (n - 1)
  lowFirst data n.toNat

/-- The size of a packet, given by items that are added up to the first that is not 255, and the
place behind it. -/
def packetExtent (data : Json) : Nat → Num → Int → Except Fault (Num × Int)
  | 0, _, _ => failBelow .index
  | fuel + 1, sum, i => do
    let item ← dataItem data i
    if Json.same item (.ofInt 255) then packetExtent data fuel (sum + 255) (i + 1)
    else return (← sum.plus (← item.needNumber), i + 1)

def encodeInts (ns : List Int) : Json := .list (ns.map .ofInt)

def encodeValue : Webm.Value → Json
  | .bytes b => encodeInts (Webm.intsOf b)
  | .text s => .list [.text s]
  | .real x => .list [encodeNum x]

def dataKind : Webm.Kind :=
  match j.number? with
  | none => .container
  | some n =>
    if n.eq 1 then .binary
    else if n.eq 2 then .unsigned
    else if n.eq 3 || n.eq 6 then .text
    else if n.eq 4 then .real
    else if n.eq 5 then .date
    else .container

/-- How much data to read: a real number takes all that is left if the size is negative or missing. -/
def dataSize (file : Bytes) (kind : Webm.Kind) (j : Json) : Except Fault Nat := do
  let takesAll := kind == .real || kind == .container
  match j with
  | .null => if takesAll then return file.length else failBelow .type
  | j =>
    let n ← wordNumber j
    if 0 ≤ n then return n.toNat
    if takesAll then return file.length else throw unpackable

def encodePlaced {α : Type} (encode : α → Json) (r : Except Fault (α × Nat)) : Except Fault Json := do
  let (a, next) ← r
  return .list [encode a, .ofNat next]

def videoFilePart (name : String) (file : Bytes) (arguments : List Json) : Act Json := do
  match name, arguments with
  | "GetVersion", [] => return "v0.9.3"
  | "BitSet", [data, n] => Act.ofExcept do return .bool (← isBitSet data n)
  | "ConvertStrNumber", [data] => Act.ofExcept do
    match data with
    | .object (_ :: _) => throw (.foreign .key "0")
    | data =>
      let some js := sequence? data | failBelow .type
      return .ofInt (Webm.convertNumber (← js.mapM spelledInt))
  | "InterpretLittleEndian", [data, n] => Act.ofExcept do return .ofInt (← lowFirstOf data n)
  | "CalculatePacketBlockSize", [n] => Act.ofExcept do
    let (x, y) := Webm.blockSizes (← wholeNumber n)
    return encodeInts [x, y]
  | "CalculatePacketSize", [data, i] => Act.ofExcept do
    let i ← wholeNumber i
    let length := ((sequence? data).getD []).length
    let (x, y) ← packetExtent data (2 * length + 1) 0 i
    return .list [encodeNum x, .ofInt y]
  | "DisplayVP8Data", [data] => Act.ofExcept do
    let some js := sequence? data | failBelow .type
    let front := (js.drop 4).take 3
    match front with
    | [] => failBelow .index
    | first :: _ =>
      let _ ← wholeNumber first
      if front.length < 3 then failBelow .index
      return .text (← Webm.describeFrame (← front.mapM wholeNumber))
  | "DisplayCodecPrivateData", [data, total] =>
    Webm.sayCodecHeaders (← Act.ofExcept (wholeNumbers data)) total.needNumber
    return .null
  | "ReadOneByteForElementIdSize", [pos] => Act.ofExcept do
    let pos ← filePlace pos
    encodePlaced .ofNat ((Webm.idLength file pos).map (·, pos))
  | "ReadOneByteForDataSize", [pos] => Act.ofExcept do
    let pos ← filePlace pos
    encodePlaced .ofNat ((Webm.sizeLength file pos).map (·, pos))
  | "ProcessIdSize", [pos, size] => Act.ofExcept do
    encodePlaced .text (Webm.readId file (← filePlace pos) (← byteCount size))
  | "ProcessDataSize", [pos, size] => Act.ofExcept do
    encodePlaced .ofNat (Webm.readSize file (← filePlace pos) (← byteCount size))
  | "ProcessData", [pos, size, kind] => Act.ofExcept do
    let pos ← filePlace pos
    let kind := dataKind kind
    encodePlaced encodeValue (Webm.readValue file pos (← dataSize file kind size) kind)
  | name, _ =>
    if ["GetVersion", "BitSet", "ConvertStrNumber", "InterpretLittleEndian",
        "CalculatePacketBlockSize", "CalculatePacketSize", "DisplayVP8Data",
        "DisplayCodecPrivateData", "ReadOneByteForElementIdSize", "ReadOneByteForDataSize",
        "ProcessIdSize", "ProcessDataSize", "ProcessData"].contains name then failBelow .type
    else failBelow .attribute

end SetTop.Scene

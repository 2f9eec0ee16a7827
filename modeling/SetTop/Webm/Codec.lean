import SetTop.Session
import SetTop.Webm.Reading

/-!
What the data of tracks say about their coding.
-/

namespace SetTop.Webm

variable (data : List Int)

def valueAt (i : Int) : Except Fault Int :=
  let i := if i < 0 then i + data.length else i
  match if i < 0 then none else data[i.toNat]? with
  | some v => .ok v
  | none => failBelow .index

def convertNumber (values : List Int) : Int := values.foldl (fun n v => n * 256 + v) 0

def littleEndian (data : List Int) : Nat → Except Fault Int
  | 0 => .ok 0
  | n + 1 => do
    let v ← valueAt data n
    return v * Nat.pow 256 n + (← littleEndian data n)

def numberAt (i : Int) : Except Fault Int := do
  let vs ← [i, i + 1, i + 2, i + 3].mapM (valueAt data)
  littleEndian vs 4

/-- The size of a packet, given by values that are added up to the first below 255, and the place
behind it. -/
def packetSize (data : List Int) : Nat → Int → Except Fault (Int × Int)
  | 0, _ => failBelow .index
  | fuel + 1, i => do
    let v ← valueAt data i
    if v = 255 then
      let (size, next) ← packetSize data fuel (i + 1)
      return (size + 255, next)
    else return (v, i + 1)

def blockSizes (n : Int) : Int × Int := (n % 16, n / 16 % 16)

def describeFrame : Except Fault String := do
  let v ← valueAt data 0
  let part ← littleEndian data 3
  let key := if v % 2 = 0 then "Yes" else "No"
  let shown := if v / 16 % 2 = 1 then "Yes" else "No"
  let version := v / 2 % 8 * 2
  return s!"[VP8] key: {key}, ver: {version}, sf: {shown}, pl: {part / 32}"

def codecIndent : String := "\t\t\t\t"

def headerIndent : String := "\t\t\t\t\t"

def sayLine (text : String) : Act Unit := say (text ++ "\n")

def checkName (i : Int) : Act Unit := do
  let vs ← Act.ofExcept (([0, 1, 2, 3, 4, 5] : List Int).mapM fun k => valueAt data (i + k))
  sayLine (headerIndent ++
    (if vs = [118, 111, 114, 98, 105, 115] then "vorbis" else "not valid to vorbis"))

def sayNumber (name : String) (n : Int) (tail : String := " ") : Act Unit :=
  sayLine (headerIndent ++ name ++ " : " ++ toString n ++ tail)

def sayFlag (i : Int) : Act Unit := do
  let v ← Act.ofExcept (valueAt data i)
  sayNumber "Framing Flag" (if v = 0 then 0 else 1) ""

def charsOf (values : List Int) : Except Fault String := do
  let cs ← values.mapM fun v =>
    if 0 ≤ v ∧ v < 256 then .ok (Char.ofNat v.toNat) else failBelow .value
  return String.ofList cs

def slice (start count : Int) : List Int :=
  (data.drop start.toNat).take count.toNat

/-- Describes the first header, which starts at a place: the place of its last value. -/
def sayIdentification (i : Int) : Act Int := do
  sayLine (codecIndent ++ "   [Identification Header]")
  checkName data (i + 1)
  let i := i + 6
  let version ← Act.ofExcept (([1, 2, 3, 4] : List Int).mapM fun k => valueAt data (i + k))
  sayLine (headerIndent ++ "Vorbis version : " ++
    (if version.all (· == 0) then "0" else "non-0"))
  let i := i + 4
  sayNumber "Audio channel" (← Act.ofExcept (valueAt data (i + 1)))
  let i := i + 1
  sayNumber "Sampling rate" (← Act.ofExcept (numberAt data (i + 1)))
  sayNumber "Bitrate maximum" (← Act.ofExcept (numberAt data (i + 5)))
  sayNumber "Bitrate nominal" (← Act.ofExcept (numberAt data (i + 9)))
  sayNumber "Bitrate minimum" (← Act.ofExcept (numberAt data (i + 13)))
  let i := i + 16
  let (low, high) := blockSizes (← Act.ofExcept (valueAt data (i + 1)))
  sayNumber "Block Size 0" (Nat.pow 2 low.toNat)
  sayNumber "Block Size 1" (Nat.pow 2 high.toNat)
  let i := i + 1
  sayFlag data (i + 1)
  return i + 1

def sayComments (data : List Int) : Nat → Int → Act Int
  | 0, i => return i
  | count + 1, i => do
    let size ← Act.ofExcept (numberAt data i)
    sayLine (headerIndent ++ "Comment : ")
    sayLine (headerIndent ++ "\t " ++ (← Act.ofExcept (charsOf (slice data (i + 4) size))))
    sayComments data count (i + 4 + size)

def sayComment (i : Int) : Act Unit := do
  sayLine (codecIndent ++ "   [Comment Header]")
  checkName data (i + 1)
  let i := i + 6
  let size ← Act.ofExcept (numberAt data (i + 1))
  sayNumber "Vendor Length" size
  let i := i + 5
  sayLine (headerIndent ++ "Vendor string : " ++ (← Act.ofExcept (charsOf (slice data i size))))
  let i := i + size
  let count ← Act.ofExcept (numberAt data i)
  let i ← sayComments data count.toNat (i + 4)
  sayFlag data (i + 1)

def sayCodecHeaders (total : Except Fault Num) : Act Unit := do
  let first ← Act.ofExcept (valueAt data 0)
  sayLine (codecIndent ++ s!"Number of packets : {first + 1}")
  let (one, i) ← Act.ofExcept (packetSize data (data.length + 1) 1)
  sayLine (codecIndent ++ s!"First packet size : {one} byte(s)")
  let (two, i) ← Act.ofExcept (packetSize data (data.length + 1) i)
  sayLine (codecIndent ++ s!"Second packet size : {two} byte(s)")
  let three ← Act.ofExcept (do
    (← (← (← (← total).minus (.int i)).minus (.int one)).minus (.int two)).whole)
  sayLine (codecIndent ++ s!"Third packet size : {three} bytes(s)")
  let i ← if (← Act.ofExcept (valueAt data i)) = 1 then sayIdentification data i else pure i
  let i := i + 1
  if (← Act.ofExcept (valueAt data i)) = 3 then sayComment data i

end SetTop.Webm

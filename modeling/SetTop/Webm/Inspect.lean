import SetTop.Webm.Codec

/-!
Listing the elements of a video file.

The header is listed first, then the table of contents, the description, the tracks, the
index and the clusters of the segment. What stands directly in the segment is found by
stepping from element to element.
-/

namespace SetTop.Webm

inductive Output
  | number (n : Int)
  | text (s : String)
  | real (x : Num)

def Output.describe : Output → String
  | .number n => toString n
  | .text s => quote s
  | .real x => x.text

def hexText (n : Nat) : String := "'0x" ++ String.ofList (Nat.toDigits 16 n) ++ "'"

def headLine (indent name : String) (h : Head) (pos : Nat) : String :=
  indent ++ name ++ s!" (head size: {h.length} bytes, data: {h.size} bytes, pos: {pos}, " ++
    hexText pos ++ ")"

def numberOutput (values : Bytes) (clusterName : String) : Output :=
  let n := bigEndian (values.map (·.toNat))
  match partName? n clusterName with
  | some name => .text name
  | none => .number n

/-! ### The file header -/

def headerOutput : Value → Output
  | .bytes [b] => .number b.toNat
  | .bytes values => numberOutput values "cluster"
  | .text s => .text s
  | .real x => .real x

/-- Steps through the header: where its content ends, as far as known, and the place behind it.
Unknown elements are entered. -/
def walkHeader (file : Bytes) (quiet : Bool) : Nat → Nat → Nat → Act (Nat × Nat)
  | 0, limit, pos => return (limit, pos)
  | fuel + 1, limit, pos => do
    let h ← Act.ofExcept (readHead file pos)
    match headerTable.lookup h.id with
    | none => walkHeader file quiet fuel limit h.data
    | some spec =>
      if spec.kind = .container then
        if !quiet then sayLine (headLine "\t\t" spec.name h pos)
        walkHeader file quiet fuel (h.data + h.size) h.data
      else
        let (value, next) ← Act.ofExcept (readValue file h.data h.size spec.kind)
        if !quiet then
          sayLine (headLine "\t\t\t" spec.name h pos ++ " : " ++ (headerOutput value).describe)
        if limit ≤ next then return (limit, next)
        else walkHeader file quiet fuel limit next

/-! ### The parts of a segment -/

def lostPlace : Fault := .foreign .type ""

/-- Reads the head of the part at a place. One that reaches beyond the segment loses the place, and
so does a segment inside the segment. -/
def readPart (file : Bytes) : Nat → Nat → Nat → Except Fault Head
  | 0, _, _ => .error lostPlace
  | fuel + 1, total, pos => do
    let check (pos : Nat) : Except Fault Unit :=
      if pos > total ∧ total ≠ 0 then .error lostPlace else .ok ()
    check pos
    let n ← idLength file pos
    let (text, next) ← readId file pos n
    check next
    let m ← sizeLength file next
    check next
    let (size, behind) ← readSize file next m
    check behind
    let h : Head := ⟨pos, text, size, n + m⟩
    if h.id = segment then
      if behind ≤ size then
        let _ ← readPart file fuel size behind
      .error lostPlace
    else if (segmentTable.lookup h.id).isNone then .error (.failure .assertion "")
    else if behind ≤ total then .ok h
    else .error lostPlace

def readParts (file : Bytes) (total : Nat) : Nat → Nat → Except Fault (List Head)
  | 0, _ => .ok []
  | fuel + 1, pos =>
    if pos ≤ total then do
      let h ← readPart file (file.length + 2) total pos
      return h :: (← readParts file total fuel (h.data + h.size))
    else .ok []

/-! ### Inside a part -/

/-- What is remembered of the tracks: numbers and types, and whether there were four of them. -/
structure TrackMemo where
  slots : List Int := [-1, -1, -1, -1]
  complete : Bool := false

structure Walk where
  pos : Nat
  entered : Bool := false
  time : Int := 0
  slot : Nat := 0
  memo : TrackMemo

def Walk.remember (w : Walk) (v : Int) : Walk :=
  { w with memo := { w.memo with slots := w.memo.slots.set w.slot v }, slot := w.slot + 1 }

def Walk.closeMemo (w : Walk) : Walk :=
  if w.slot = 4 then { w with memo := { w.memo with complete := true }, slot := 0 } else w

structure Block where
  track : Nat
  offset : Nat
  flags : UInt8

def readBlock (file : Bytes) (pos : Nat) : Except Fault Block := do
  let (track, next) ← readSize file pos 1
  let (data, next) ← readExactly file next 2
  return ⟨track, bigEndian (data.map (·.toNat)), ← byteAt file next⟩

namespace Block

def yesNo (b : Bool) : String := if b then "'yes'" else "'no'"

def lacing (b : Block) : String :=
  match b.flags.toNat / 2 % 4 with
  | 1 => "'Xiph lacing'"
  | 2 => "'fixed-size lacing'"
  | 3 => "'EBML lacing'"
  | _ => "'no lacing'"

def describe (b : Block) (time : Int) : String :=
  let key := if bitSet b.flags 7 then "True" else "False"
  s!"\t\t\t  track number : {b.track}, keyframe : {key}, invisible : " ++ yesNo (bitSet b.flags 4) ++
    ", discardable : " ++ yesNo (bitSet b.flags 0) ++ "\n\t\t\t  lace : " ++ b.lacing ++
    s!", time code : {b.offset}, time code(absolute) : {(b.offset : Int) + time}"

end Block

def intsOf (b : Bytes) : List Int := b.map fun x => (x.toNat : Int)

/-- What is shown of a block: the frame of a video track is described once the tracks are known. -/
def blockOutput (memo : TrackMemo) (b : Block) (values : Bytes) : Except Fault Output :=
  if memo.complete && memo.slots[0]? == memo.slots[1]? && b.track == 1 then
    (describeFrame ((intsOf values).drop 4)).map .text
  else .ok (.text "binary")

def sayLeaf (file : Bytes) (part : Nat) (spec : Spec) (h : Head) (w : Walk) : Act Walk := do
  let (value, next) ← Act.ofExcept (readValue file h.data h.size spec.kind)
  let line := headLine "\t\t\t" spec.name h h.start ++ " : "
  let w := { w with entered := false, pos := next }
  match value, spec.kind with
  | .bytes values, .binary =>
    if part = cluster then
      let b ← Act.ofExcept (readBlock file h.data)
      let out ← Act.ofExcept (blockOutput w.memo b values)
      sayLine (line ++ out.describe)
      sayLine (b.describe w.time)
    else if h.id = codecPrivate then
      sayLine line
      sayCodecHeaders (intsOf values) (.ok h.size)
      sayLine "\t\t\tNone"
    else if h.id = padding then sayLine (line ++ "'Void'")
    else sayLine (line ++ (numberOutput values "Cluster").describe)
    return w
  | .bytes [b], _ =>
    let w := if h.id = trackType || h.id = trackNumber then w.remember b.toNat else w
    sayLine (line ++ toString b.toNat)
    return w.closeMemo
  | .bytes values, _ =>
    let n : Int := bigEndian (values.map (·.toNat))
    let w := if part = cluster then { w with time := n } else w
    let w := if h.id = trackType || h.id = trackNumber then w.remember n else w
    sayLine (line ++ toString n)
    return w.closeMemo
  | .text s, _ =>
    sayLine (line ++ quote s)
    return w
  | .real x, _ =>
    sayLine (line ++ x.text)
    return w

/-- Lists the elements of a part up to its end. The flag says whether it does not end in a
container. -/
def sayPart (file : Bytes) (part start stop : Nat) : Nat → Walk → Act (Walk × Bool)
  | 0, w => return (w, true)
  | fuel + 1, w =>
    if stop < w.pos then return (w, false)
    else do
      let h ← Act.ofExcept (readHead file w.pos)
      match (tableFor part).lookup h.id with
      | none =>
        sayLine "\n\t\t>>>Seems invalid WebM file format<<<"
        sayLine ("\t\t at element code [" ++ h.idText ++ "]")
        throw (.exit (.status 1))
      | some spec =>
        if spec.kind = .container then
          sayLine (headLine "\t\t" spec.name h (if w.entered then h.start else start))
          sayPart file part start stop fuel { w with entered := true, pos := h.data }
        else
          let w ← sayLeaf file part spec h w
          if stop ≤ w.pos then return (w, true) else sayPart file part start stop fuel w

/-- Lists the parts from an index on. One that ends in a container is followed by the next. -/
def sayParts (file : Bytes) (part : Nat) : Nat → List Head → Walk → Act TrackMemo
  | _, [], w => return w.memo
  | index, h :: rest, w =>
    if h.id ≠ part then sayParts file part index rest w
    else match index with
      | n + 1 => sayParts file part n rest w
      | 0 => do
        let stop := h.data + h.size
        let (w, ended) ← sayPart file part h.start stop (file.length + 2)
          { w with pos := h.start, entered := false }
        if ended then return w.memo else sayParts file part 0 rest w

def sayClusters (file : Bytes) (parts : List Head) : Nat → Nat → TrackMemo → Act Unit
  | 0, _, _ => pure ()
  | count + 1, index, memo => do
    let memo ← sayParts file cluster index parts { pos := 0, memo := memo }
    sayClusters file parts count (index + 1) memo

def inspect (file : Bytes) : Act Unit := do
  let fuel := file.length + 2
  let (limit, pos) ← walkHeader file true fuel 0 0
  let h ← Act.ofExcept (readHead file pos)
  let parts ← Act.ofExcept (readParts file h.size fuel h.data)
  let _ ← walkHeader file false fuel limit 0
  let memo ← [seekHead, segmentInfo, tracks, cues].foldlM
    (fun memo part => sayParts file part 0 parts { pos := 0, memo := memo }) ({} : TrackMemo)
  sayClusters file parts (parts.countP (·.id == cluster)) 0 memo

end SetTop.Webm

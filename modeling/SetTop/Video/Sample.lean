import SetTop.Image.Basic
import SetTop.Number.Checked

/-!
Samples of video.

A sample is what the capture hands over: bytes, a note about their layout, and the time
of capture. Only samples with three colours per place are pictures; anything else is a
row of bytes. `array` gives the bytes with the extents of their axes, and `frame` the
picture.
-/

namespace SetTop

structure Sample where
  format : Option String := none
  width : Num := 0
  height : Num := 0
  data : Option (Array Nat) := none
  isWritable : Bool := true
  time : Option Num := none

namespace Sample

def withoutBuffer : Fault :=
  .failure .value "sample_borrow_buffer: Provided GstSample doesn't contain a buffer"

def notWritable : Fault :=
  .failure .value "Writable array requested but buffer is not writeable"

def shapeText (shape : List Num) : String :=
  match shape with
  | [n] => "(" ++ n.text ++ ",)"
  | ns => "(" ++ joinText ", " (ns.map Num.text) ++ ")"

def room (shape : List Num) : Except Fault Num :=
  shape.foldlM Num.times 1

/-- The refusal of a number of bytes that the layout does not have room for, or cannot fill. -/
def wrongSize (shape : List Num) (actual : Nat) (size : Num) : Fault :=
  match size.whole with
  | .ok n => .failure .value ("Provided sample is too small for image of shape " ++ shapeText shape ++
      s!".  {actual}B < {n}B.")
  | .error e => e

def extents : List Num → Except Fault (List Nat)
  | [] => .ok []
  | .int n :: rest => do
    let more ← extents rest
    if n < 0 then throw (.foreign .value "negative dimensions are not allowed")
    return n.toNat :: more
  | _ :: _ => .error (.foreign .type "integer argument expected")

def notASample (kind : String) : Fault :=
  .failure .type ("sample_shape must take a Gst.Sample or a numpy.ndarray.  Received a <class '" ++
    kind ++ "'>")

variable (s : Sample)

def isPicture : Bool := s.format == some "BGR" || s.format == some "RGB"

def shape : Except Fault (List Num) :=
  if s.isPicture then .ok [s.height, s.width, 3]
  else match s.data with
    | some d => .ok [.int d.size]
    | none => .error withoutBuffer

/-- The bytes with their extents. Bytes that are to be changed must be writable. -/
def array (writing : Bool := false) : Except Fault (List Nat × Array Nat) := do
  let shape ← s.shape
  let size ← room shape
  match s.data with
  | none => throw withoutBuffer
  | some d =>
    if writing && !s.isWritable then throw notWritable
    if !size.eq (.int d.size) then throw (wrongSize shape d.size size)
    return (← extents shape, d)

def frame (writing : Bool := false) : Except Fault Frame := do
  let (shape, d) ← s.array writing
  match shape with
  | [h, w, c] => return ⟨⟨h, w, some c, d, .byte⟩, s.time⟩
  | _ => return ⟨⟨d.size, 1, none, d, .byte⟩, s.time⟩

def makeWritable : Sample := { s with isWritable := true }

def ofImage (i : Image) (time : Option Num) (writable : Bool := true) : Sample :=
  ⟨some "BGR", .int i.width, .int i.height, some i.values, writable, time⟩

end Sample

end SetTop

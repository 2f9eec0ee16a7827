import SetTop.Wire.Bytes
import SetTop.Wire.Stream

/-!
Messages to and from a networked infrared emitter.

A request is a `#`, the length of its data, its type and its data. A response is the
length of its data, its type and its data. Lengths take two bytes, the high one first.
-/

namespace SetTop.IrBox

def errorType : Nat := 0x01
def powerOn : Nat := 0x05
def powerOff : Nat := 0x06
def instruction : Nat := 0x07
def deviceVersion : Nat := 0x09
def setMemory : Nat := 0x10
def downloadSignal : Nat := 0x11
def outputSignal : Nat := 0x12
def outputAsync : Nat := 0x30
def asyncComplete : Nat := 0x31

def marker : Char := '#'

def request (type : Int) (data : Data) : Except Fault Data := do
  let data ← data.bytes
  let length ← fitting (Bytes.bigEndian? data.length) "'H' format requires 0 <= number <= 65535"
  let type ← fitting (Bytes.byte? type)
  return marker :: Bytes.toChars (length ++ type :: data)

structure Response where
  type : Nat
  data : Data
deriving DecidableEq

def splitResponse (d : Data) : Except StreamEnd (Option (Response × Data)) :=
  match d with
  | high :: low :: type :: rest =>
    if high.toNat < 256 ∧ low.toNat < 256 then
      let length := high.toNat * 256 + low.toNat
      if length ≤ rest.length then
        if (type :: rest.take length).all (·.toNat < 256) then
          .ok (some (⟨type.toNat, rest.take length⟩, rest.drop length))
        else .error .garbled
      else .ok none
    else .error .garbled
  | _ => .ok none

theorem length_lt_of_splitResponse {d rest : Data} {r : Response}
    (h : splitResponse d = .ok (some (r, rest))) : rest.length < d.length := by
  unfold splitResponse at h
  split at h
  · dsimp only at h
    repeat' split at h
    all_goals simp only [Except.ok.injEq, Option.some.injEq, Prod.mk.injEq, reduceCtorEq] at h
    rw [← h.2]
    simp only [List.length_cons, List.length_drop]
    omega
  · simp at h

/-- The next response in a stream, given what was received before; and what is left of both. -/
def nextResponse (buffer : Data) (chunks : List Chunk) :
    Except StreamEnd Response × Data × List Chunk :=
  match splitResponse buffer with
  | .error reason => (.error reason, buffer, chunks)
  | .ok (some (r, rest)) => (.ok r, rest, chunks)
  | .ok none =>
    match chunks with
    | [] => (.error .closed, buffer, [])
    | none :: rest => (.error .paused, buffer, rest)
    | some c :: rest =>
      if c.isEmpty then (.error .closed, buffer, rest)
      else nextResponse (buffer ++ c) rest
termination_by chunks.length

def splitAll (d : Data) : List Response × Except StreamEnd Data :=
  match _h : splitResponse d with
  | .ok (some (r, rest)) =>
    let (more, left) := splitAll rest
    (r :: more, left)
  | .ok none => ([], .ok d)
  | .error reason => ([], .error reason)
termination_by d.length
decreasing_by exact length_lt_of_splitResponse _h

def responsesFrom : Data → List Chunk → List Response × StreamEnd
  | _, [] => ([], .closed)
  | _, none :: _ => ([], .paused)
  | buffer, some c :: rest =>
    if c.isEmpty then ([], .closed)
    else
      match splitAll (buffer ++ c) with
      | (done, .error reason) => (done, reason)
      | (done, .ok buffer) =>
        let (more, reason) := responsesFrom buffer rest
        (done ++ more, reason)

def readResponses (chunks : List Chunk) : Except Fault (List Response) :=
  match responsesFrom [] chunks with
  | (rs, .closed) => .ok rs
  | (_, reason) => .error reason.fault

end SetTop.IrBox

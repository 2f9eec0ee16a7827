import SetTop.Wire.Bytes

/-!
Which client waits for which completion.

A proxy gives every command that it passes on a number of its own, and remembers under it which
client sent the command and under which number. A report of completion is routed by that, and the
record is dropped, whether the report could be delivered or not.
-/

namespace SetTop.IrBox

structure Pending where
  client : Nat
  number : Nat
deriving DecidableEq

/-- The commands whose completion is awaited, by number. A number may be reserved without one. -/
structure Registry where
  /-- the next number to try -/
  counter : Nat := 0
  entries : List (Nat × Option Pending) := []
deriving DecidableEq

def maxNumber : Nat := 65535

namespace Registry

variable (r : Registry)

def has (n : Nat) : Bool := r.entries.any (·.1 == n)

def forget (n : Nat) : Registry := { r with entries := r.entries.filter (·.1 != n) }

/-- The first number from `n` on that is not taken. One that was met on the way is not looked at
again. -/
def firstFree (r : Registry) : Nat → Nat → Nat
  | 0, n => n
  | fuel + 1, n =>
    if r.has n then firstFree { r with entries := r.entries.eraseP (·.1 == n) } fuel (n + 1) else n

/-- A number that is not taken. Counting goes on from the last one, and starts again behind the
largest. -/
def freshNumber : Option (Nat × Registry) :=
  let next := r.firstFree r.entries.length r.counter
  if next ≤ maxNumber then some (next, { r with counter := next + 1 })
  else
    let next := r.firstFree r.entries.length 0
    if next ≤ maxNumber then some (next, { r with counter := next + 1 }) else none

def renumber (data : Data) (number : Int) (littleEndian : Bool) : Except Fault Data := do
  let front ← fitting
    (if littleEndian then Bytes.littleEndian? number else Bytes.bigEndian? number)
  return Bytes.toChars front ++ data.drop 2

def put (n : Nat) (p : Option Pending) : Registry :=
  if r.has n then
    { r with entries := r.entries.map fun (k, v) => if k == n then (k, p) else (k, v) }
  else { r with entries := r.entries ++ [(n, p)] }

def register (client : Nat) (data : Data) : Except Fault (Data × Registry) :=
  match data.bigEndian with
  | .error e => .error e
  | .ok number =>
    match r.freshNumber with
    | none => .error (.foreign .recursion "")
    | some (n, r) =>
      let r := r.put n (some ⟨client, number⟩)
      match renumber data n false with
      | .ok data => .ok (data, r)
      | .error e => .error e

def ackForClient (data : Data) : Except Fault Data :=
  match data.littleEndian with
  | .error e => .error e
  | .ok n =>
    match r.entries.lookup n with
    | none => .error (.foreign .key (toString n))
    | some none => .error (.foreign .type "")
    | some (some p) =>
      match renumber data p.number true with
      | .error e => .error e
      | .ok data => if data.length ≤ 3 then .error (.foreign .index "") else .ok data

inductive Completion
  | malformed
  | unknown (number : Nat)
  | deliver (client : Nat) (message : Data)
  /-- nobody waits for the number -/
  | undeliverable
deriving DecidableEq

def complete (header data : Data) : Completion × Registry :=
  match data.bigEndian with
  | .error _ => (.malformed, r)
  | .ok n =>
    match r.entries.lookup n with
    | none => (.unknown n, r)
    | some none => (.undeliverable, r.forget n)
    | some (some p) =>
      match renumber data p.number false with
      | .ok data => (.deliver p.client (header ++ data), r.forget n)
      | .error _ => (.undeliverable, r.forget n)

end Registry

structure Proxy where
  registry : Registry := {}
  box : Nat := 0
  readers : List (Int × Nat) := []
  verbosity : Nat := 0

end SetTop.IrBox

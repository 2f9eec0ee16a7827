import SetTop.Json.Reading
import SetTop.Session

/-!
Following the state of a test run.

A receiver takes text in pieces of any length and carries out the messages in it line by line. A
line that cannot be understood is counted and left out, but the changes before the one that failed
stay made. A message of another type ends the piece: what follows it there is dropped.
-/

/-!
Messages about the state of a test run.

The state is a structured value. A message names the parts of it that change, each by the
names on the way to it between dots, with their new values. A message is one line.
-/

namespace SetTop.State

abbrev Changes := List (String × Json)

def message (changes : Json) (moment : Moment) : Json :=
  .object [("state_change", .object [("time", .text moment.text), ("changes", changes)])]

def line (message : Json) : String := message.sorted.write ++ "\r\n"

structure Sender where
  text : String := ""
  isOpen : Bool := true
deriving DecidableEq

namespace Sender

variable (s : Sender)

def put (message : Json) : Except Fault Sender :=
  if s.isOpen then
    match message.sorted.obstacle? Json.maxDepth with
    | none => .ok { s with text := s.text ++ line message }
    | some e => .error e
  else .error (.foreign .attribute "'NoneType' object has no attribute 'write'")

/-- Sends changes, which should be an object; without a moment they happen now. -/
def set (changes : Json) (moment : Option Moment := none) : Act Sender := do
  let moment ← match moment with
    | some m => pure m
    | none => now
  Act.ofExcept (s.put (message changes moment))

def close : Except Fault Sender :=
  if s.isOpen then .ok { s with isOpen := false }
  else .error (.foreign .attribute "'NoneType' object has no attribute 'close'")

def testStarting (name file function line : Json) : Act Sender :=
  s.set (.object [("test_run", .object [("current_line", .object []), ("test_case",
    .object [("name", name), ("file", file), ("function", function), ("line", line)])])])

def testEnded : Act Sender := s.set (.object [("test_run", .object [])])

def currentLine (file line : Json) : Act Sender :=
  s.set (.object [("test_run.current_line", .object [("file", file), ("line", line)])])

end Sender

end SetTop.State

namespace SetTop.State

/-- Replaces the part of a value at the end of a way, which must exist apart from its last step. -/
def setAt : List String → Json → Json → Option Json
  | [], _, _ => none
  | [k], value, .object fields => some (.object (Json.putField fields k value))
  | k :: more, value, .object fields =>
    match fields.lookup k with
    | none => none
    | some inner => (setAt more value inner).map fun inner => .object (Json.putField fields k inner)
  | _, _, _ => none

/-- The ways in order of their length, so that a part is replaced before the parts inside it. -/
def inOrder (changes : Changes) : Changes :=
  changes.mergeSort fun a b => a.1.length ≤ b.1.length

def makeChanges (state : Json) : Changes → Json × Bool
  | [] => (state, true)
  | (way, value) :: rest =>
    match setAt (splitAtCharacter '.' way) value state with
    | some state => makeChanges state rest
    | none => (state, false)

inductive Incoming
  | changes (c : Changes)
  | other
  | malformed

def readLine (line : List Char) : Incoming :=
  match Json.read? (String.ofList line) with
  | some (.object [(type, value)]) =>
    if type ≠ "state_change" then .other
    else match value.field? "changes" with
      | some (.object changes) => .changes changes
      | _ => .malformed
  | _ => .malformed

/-- The state as it is known, and the start of a line that has not ended. -/
structure Receiver where
  state : Json := .object []
  pending : List Char := []

namespace Receiver

def obey (r : Receiver) : List (List Char) → Receiver × Nat
  | [] => (r, 0)
  | line :: rest =>
    if line.getLast? ≠ some '\n' then ({ r with pending := line }, 0)
    else match readLine line with
      | .other => (r, 0)
      | .malformed =>
        let (r, failed) := obey r rest
        (r, failed + 1)
      | .changes c =>
        let (state, complete) := makeChanges r.state (inOrder c)
        let (r, failed) := obey { r with state := state } rest
        (r, failed + (if complete then 0 else 1))

def write (r : Receiver) (text : List Char) : Receiver × Nat :=
  obey { r with pending := [] } (Text.lines (r.pending ++ text))

end Receiver

end SetTop.State

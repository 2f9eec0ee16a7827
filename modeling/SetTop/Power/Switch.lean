import SetTop.Fault
import SetTop.Text.Basic

/-!
A power switch on a serial line.

The switch echoes every line it is sent, answers a query, and ends with a prompt. The prompt
comes without a line end, so it stands in front of the next echo. `Port` is the near end of the
line: either such a switch, or lines laid out beforehand.
-/

namespace SetTop

/-- The state of a switch: whether it is on, its unfinished line, and what it has said that was not
read yet. -/
structure Switch where
  isOn : Bool := false
  received : List Char := []
  said : List Char := []
deriving DecidableEq

namespace Switch

def prompt : List Char := "z>".toList

def stateAfter (isOn : Bool) (line : List Char) : Bool :=
  match line with
  | 'p' :: '1' :: '=' :: '0' :: _ => false
  | 'p' :: '1' :: '=' :: '1' :: _ => true
  | _ => isOn

def answer (isOn : Bool) (line : List Char) : List Char :=
  let query := if Text.startsWith line "readio".toList then
      (if isOn then "IO:5\r\n" else "IO:0\r\n").toList
    else []
  line ++ ['\r', '\n'] ++ query ++ prompt

def obey (s : Switch) (line : List Char) : Switch :=
  let isOn := stateAfter s.isOn line
  { s with isOn := isOn, said := s.said ++ answer isOn line }

/-- Sends text to the switch; every line in it that is finished is carried out. -/
def write (s : Switch) (text : List Char) : Switch :=
  let parts := Text.splitAtChar '\n' (s.received ++ text)
  { parts.dropLast.foldl obey s with received := parts.getLastD [] }

def blocked : Fault := .failure .assertion "FakeUsbPower8000 would have blocked"

def readLine (s : Switch) : Except Fault (List Char) × Switch :=
  match Text.cut? '\n' s.said with
  | some (line, rest) => (.ok (line ++ ['\n']), { s with said := rest })
  | none => (.error blocked, s)

end Switch

inductive Port
  | switch (s : Switch)
  | lines (left : List (List Char))
deriving DecidableEq

namespace Port

def write (p : Port) (text : List Char) : Port :=
  match p with
  | .switch s => .switch (s.write text)
  | .lines left => .lines left

def readLine : Port → Except Fault (List Char) × Port
  | .switch s => let (r, s) := s.readLine; (r, .switch s)
  | .lines [] => (.ok [], .lines [])
  | .lines (l :: left) => (.ok l, .lines left)

def setPower (p : Port) (on : Bool) : Except Fault Unit × Port :=
  let p := p.write (if on then "p1=1\n" else "p1=0\n").toList
  let (r, p) := p.readLine
  (r.map fun _ => (), p)

def readState (answer : List Char) : Except Fault Bool :=
  if answer = "IO:5\r\n".toList then .ok true
  else if answer = "IO:0\r\n".toList then .ok false
  else .error (.failure .runtime ("Unexpected response from Aviosys 8800 Pro: \"" ++
    String.ofList (Text.strip answer) ++ "\""))

def getPower (p : Port) : Except Fault Bool × Port :=
  let p := p.write "readio\n".toList
  match p.readLine with
  | (.error e, p) => (.error e, p)
  | (.ok _, p) =>
    let (r, p) := p.readLine
    (r.bind readState, p)

end Port

end SetTop

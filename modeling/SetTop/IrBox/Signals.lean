import SetTop.Number.Reading
import SetTop.Wire.Bytes

/-!
Infrared signals by name.

Each line of a signal file holds a name, the kind of signal and its data in hexadecimal
digits, divided by blanks and tabs. Of a signal that alternates between two forms only
the first is kept.
-/

namespace SetTop.IrBox

abbrev Signals := List (String × Data)

def Signals.put (s : Signals) (name : String) (data : Data) : Signals :=
  if s.any (·.1 == name) then s.map fun (k, v) => if k == name then (k, data) else (k, v)
  else s ++ [(name, data)]

def isGap (c : Char) : Bool := c == '\t' || c == ' '

def cutAtGaps : Nat → List Char → List (List Char)
  | 0, cs => [cs]
  | n + 1, cs =>
    let front := cs.takeWhile (!isGap ·)
    match cs.drop front.length with
    | [] => [front]
    | rest => front :: cutAtGaps n (rest.dropWhile isGap)

def notHexadecimal : Fault := .foreign .base64 ""

def ofPairs : List Char → Except Fault Bytes
  | [] => .ok []
  | a :: b :: rest =>
    match Number.plainHexValue? a, Number.plainHexValue? b with
    | some x, some y => (ofPairs rest).map (UInt8.ofNat (x * 16 + y) :: ·)
    | _, _ => .error notHexadecimal
  | [_] => .error notHexadecimal

def ofHexadecimal (cs : List Char) : Except Fault Bytes :=
  if cs.all (·.toNat < 128) then ofPairs cs
  else .error (.foreign .value "string argument should contain only ASCII characters")

def Signals.addLine (s : Signals) (line : List Char) : Except Fault Signals :=
  match cutAtGaps 4 (Text.stripEnd line) with
  | [name, kind, _, data] =>
    if String.ofList kind == "MOD_SIG" then
      (ofHexadecimal data).map fun b => s.put (String.ofList name) (Bytes.toChars b)
    else .ok s
  | [name, kind, form, _, data] =>
    if String.ofList kind == "DMOD_SIG" && String.ofList form == "signal1" then
      (ofHexadecimal data).map fun b => s.put (String.ofList name) (Bytes.toChars b)
    else .ok s
  | _ => .ok s

def Signals.ofText (text : String) : Except Fault Signals :=
  (Text.lines text.toList).foldlM Signals.addLine []

end SetTop.IrBox

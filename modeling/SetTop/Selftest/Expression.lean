import SetTop.Fault
import SetTop.Number.Reading

/-!
Expressions with places for a frame.

A place is a field in braces, and braces that are meant as such are doubled. A field names the frame
and a way into it, then how the value is shown, behind an exclamation mark, and how it is laid out,
behind a colon. The layout can hold fields of its own, but these none any more.
-/

namespace SetTop.Selftest

inductive Value
  | text (cs : List Char)
  | kind (name : String)
deriving DecidableEq

def invalid {α : Type} (reason : String) : Except Fault α := .error (.foreign .value reason)

def Value.plain : Value → List Char
  | .text cs => cs
  | .kind name => ("<class '" ++ name ++ "'>").toList

def Value.quoted : Value → List Char
  | .text cs => (quote (String.ofList cs)).toList
  | v => v.plain

/-! ### Numbers -/

def largest : Nat := Nat.pow 2 63 - 1

/-- Reads digits of any script from the front on: the number, how many digits it has, and the
rest. -/
def takeNumber (n count : Nat) : List Char → Except Fault (Nat × Nat × List Char)
  | [] => .ok (n, count, [])
  | c :: cs =>
    match Text.digitValue? c with
    | none => .ok (n, count, c :: cs)
    | some d =>
      if n > (largest - d) / 10 then invalid "Too many decimal digits in format string"
      else takeNumber (n * 10 + d) (count + 1) cs

def index? (name : List Char) : Except Fault (Option Nat) := do
  match ← takeNumber 0 0 name with
  | (n, _ + 1, []) => return some n
  | _ => return none

/-! ### The way into a value -/

def Value.item : Value → Option Nat → Except Fault Value
  | .text cs, some n =>
    match cs[n]? with
    | some c => .ok (.text [c])
    | none => .error (.foreign .index "string index out of range")
  | .text _, none => .error (.foreign .type "string indices must be integers")
  | .kind name, _ => .error (.foreign .type s!"type '{name}' is not subscriptable")

def Value.attribute : Value → String → Except Fault Value
  | .text _, "__class__" => .ok (.kind "str")
  | .kind _, "__class__" => .ok (.kind "type")
  | .kind name, "__name__" => .ok (.text name.toList)
  | .kind name, "__qualname__" => .ok (.text name.toList)
  | .kind _, "__module__" => .ok (.text "builtins".toList)
  | _, name => .error (.foreign .attribute name)

/-- Follows a way of attributes and items, which has at most `fuel` steps. -/
def Value.follow : (fuel : Nat) → Value → List Char → Except Fault Value
  | _, v, [] => .ok v
  | 0, v, _ => .ok v
  | fuel + 1, v, '.' :: rest => do
    let (name, rest) := rest.span fun c => c != '.' && c != '['
    if name.isEmpty then invalid "Empty attribute in format string"
    (← v.attribute (String.ofList name)).follow fuel rest
  | fuel + 1, v, '[' :: rest => do
    match Text.cut? ']' rest with
    | none => invalid "Missing ']' in format string"
    | some (name, rest) =>
      let index ← index? name
      if name.isEmpty then invalid "Empty attribute in format string"
      (← v.item index).follow fuel rest
  | _, _, _ => invalid "Only '.' or '[' may follow ']' in format field specifier"

def lookUp (frame name : List Char) : Except Fault Value := do
  let (first, way) := name.span fun c => c != '.' && c != '['
  if (← index? first).isSome || first.isEmpty then
    throw (.foreign .index "Replacement index out of range")
  if first != "frame".toList then throw (.foreign .key (String.ofList first))
  (Value.text frame).follow way.length way

/-! ### Layout -/

def align (side fill : Char) (width : Nat) (cs : List Char) : List Char :=
  let room := width - cs.length
  match side with
  | '>' => List.replicate room fill ++ cs
  | '^' => List.replicate (room / 2) fill ++ cs ++ List.replicate (room - room / 2) fill
  | _ => cs ++ List.replicate room fill

def isSide (c : Char) : Bool := c == '<' || c == '>' || c == '^' || c == '='

def widest : Nat := 100000000000

/-- The side on which a text stands and the character that fills the field up, which need not be
given. -/
def takeSide : List Char → Option Char × Option Char × List Char
  | f :: s :: rest =>
    if isSide s then (some s, some f, rest)
    else if isSide f then (some f, none, s :: rest)
    else (none, none, f :: s :: rest)
  | [s] => if isSide s then (some s, none, []) else (none, none, [s])
  | [] => (none, none, [])

/-- Lays a text out: how it is filled up and where it stands, the width, and how much of it is
shown. -/
def layOut (layout value : List Char) : Except Fault (List Char) := do
  if layout.isEmpty then return value
  let (side, fill, rest) := takeSide layout
  let (fill, rest) := match fill, rest with
    | some f, rest => (f, rest)
    | none, '0' :: more => ('0', more)
    | none, rest => (' ', rest)
  let (width, _, rest) ← takeNumber 0 0 rest
  let (precision, rest) ← match rest with
    | '.' :: more => do
      let (n, count, more) ← takeNumber 0 0 more
      if count = 0 then invalid "Format specifier missing precision"
      pure (some n, more)
    | _ => pure (none, rest)
  if !(rest.isEmpty || rest == ['s']) || side == some '=' then invalid "Invalid format specifier"
  let shown := match precision with
    | some n => value.take n
    | none => value
  if width > widest then failBelow .memory
  return align (side.getD '<') fill width shown

def Value.laidOut (v : Value) (layout : List Char) : Except Fault (List Char) :=
  match v with
  | .text cs => layOut layout cs
  | .kind name =>
    if layout.isEmpty then .ok v.plain
    else .error (.foreign .type s!"unsupported format string passed to {name}.__format__")

/-! ### Fields -/

def takeName : (fuel : Nat) → List Char → Except Fault (List Char × Char × List Char)
  | 0, _ => invalid "expected '\x7d' before end of string"
  | _, [] => invalid "expected '\x7d' before end of string"
  | _, '{' :: _ => invalid "unexpected '\x7b' in field name"
  | fuel + 1, '[' :: rest => do
    let (inside, rest) := rest.span (· != ']')
    let (name, final, rest) ← takeName fuel rest
    return ('[' :: inside ++ name, final, rest)
  | fuel + 1, c :: rest => do
    if c == '}' || c == ':' || c == '!' then return ([], c, rest)
    let (name, final, rest) ← takeName fuel rest
    return (c :: name, final, rest)

def takeLayout (depth : Nat) : List Char → Except Fault (List Char × Bool × List Char)
  | [] => invalid "unmatched '\x7b' in format spec"
  | '{' :: rest => do
    let (layout, _, rest) ← takeLayout (depth + 1) rest
    return ('{' :: layout, true, rest)
  | '}' :: rest => do
    if depth = 0 then return ([], false, rest)
    let (layout, nested, rest) ← takeLayout (depth - 1) rest
    return ('}' :: layout, nested, rest)
  | c :: rest => do
    let (layout, nested, rest) ← takeLayout depth rest
    return (c :: layout, nested, rest)

structure Field where
  name : List Char
  shown : Option Char := none
  layout : List Char := []
  isNested : Bool := false
deriving DecidableEq

def takeField (cs : List Char) : Except Fault (Field × List Char) := do
  match ← takeName cs.length cs with
  | (name, '!', rest) =>
    match rest with
    | [] => invalid "end of string while looking for conversion specifier"
    | shown :: '}' :: rest => return ({ name := name, shown := some shown }, rest)
    | shown :: ':' :: rest =>
      let (layout, nested, rest) ← takeLayout 0 rest
      return (⟨name, some shown, layout, nested⟩, rest)
    | [_] => invalid "unmatched '\x7b' in format spec"
    | _ => invalid "expected ':' after conversion specifier"
  | (name, ':', rest) =>
    let (layout, nested, rest) ← takeLayout 0 rest
    return (⟨name, none, layout, nested⟩, rest)
  | (name, _, rest) => return ({ name := name }, rest)

def Value.shown (v : Value) : Option Char → Except Fault Value
  | none => .ok v
  | some 's' => .ok (.text v.plain)
  | some 'r' => .ok (.text v.quoted)
  | some 'a' => .ok (.text (v.quoted.flatMap Text.asciiEscape))
  | some c => invalid s!"Unknown conversion specifier {c}"

/-- Fills the fields of a text. Layouts that hold fields are filled by `inner`. -/
def fillFields (inner : List Char → Except Fault (List Char)) (frame : List Char) :
    (fuel : Nat) → List Char → Except Fault (List Char)
  | _, [] => .ok []
  | 0, _ => .ok []
  | fuel + 1, '{' :: '{' :: rest => return '{' :: (← fillFields inner frame fuel rest)
  | fuel + 1, '}' :: '}' :: rest => return '}' :: (← fillFields inner frame fuel rest)
  | _, '}' :: _ => invalid "Single '\x7d' encountered in format string"
  | _, ['{'] => invalid "Single '\x7b' encountered in format string"
  | fuel + 1, '{' :: rest => do
    let (field, rest) ← takeField rest
    let value ← (← lookUp frame field.name).shown field.shown
    let layout ← if field.isNested then inner field.layout else pure field.layout
    let here ← value.laidOut layout
    return here ++ (← fillFields inner frame fuel rest)
  | fuel + 1, c :: rest => return c :: (← fillFields inner frame fuel rest)

def fillNested (frame : List Char) : (depth : Nat) → List Char → Except Fault (List Char)
  | 0, _ => invalid "Max string recursion exceeded"
  | depth + 1, cs => fillFields (fillNested frame depth) frame cs.length cs

def withFrame (expression frame : String) : Except Fault String :=
  (fillNested frame.toList 2 expression.toList).map String.ofList

end SetTop.Selftest

import SetTop.Fault
import SetTop.Json.Basic
import SetTop.Number.Reading

/-!
Reading structured values from text.

Each reader takes the front off a list of characters and hands back the rest. The fuel
is the length of the text: every step that goes deeper takes a character first. What is nested
too deep, or has too long an integer in it, can be neither read nor written.
-/

namespace SetTop.Json

def isGap (c : Char) : Bool := c == ' ' || c == '\t' || c == '\n' || c == '\r'

variable (cs : List Char)

def skipGap : List Char := cs.dropWhile isGap

def takeUnit? : List Char → Option (Nat × List Char)
  | a :: b :: c :: d :: rest => do
    let w ← Number.plainHexValue? a
    let x ← Number.plainHexValue? b
    let y ← Number.plainHexValue? c
    let z ← Number.plainHexValue? d
    return (((w * 16 + x) * 16 + y) * 16 + z, rest)
  | _ => none

def isHighUnit (n : Nat) : Bool := 55296 ≤ n && n < 56320

def isLowUnit (n : Nat) : Bool := 56320 ≤ n && n < 57344

/-- The character of an escape, given what follows its `\u`. Two units may make one character. -/
def takeUnicode? : Option (Char × List Char) := do
  let (n, rest) ← takeUnit? cs
  if isHighUnit n then
    match rest with
    | '\\' :: 'u' :: more =>
      match takeUnit? more with
      | some (m, last) =>
        if isLowUnit m then
          return (Char.ofNat (65536 + (n - 55296) * 1024 + (m - 56320)), last)
        else return (Char.ofNat 65533, rest)
      | none => none
    | _ => return (Char.ofNat 65533, rest)
  else if isLowUnit n then return (Char.ofNat 65533, rest)
  else return (Char.ofNat n, rest)

def simpleEscape? : Char → Option Char
  | '"' => some '"'
  | '\\' => some '\\'
  | '/' => some '/'
  | 'b' => some (Char.ofNat 8)
  | 'f' => some (Char.ofNat 12)
  | 'n' => some '\n'
  | 'r' => some '\r'
  | 't' => some '\t'
  | _ => none

def takeText? : Nat → List Char → List Char → Option (String × List Char)
  | 0, _, _ => none
  | fuel + 1, done, cs =>
    match cs with
    | [] => none
    | '"' :: rest => some (String.ofList done.reverse, rest)
    | '\\' :: 'u' :: rest =>
      match takeUnicode? rest with
      | some (c, rest) => takeText? fuel (c :: done) rest
      | none => none
    | '\\' :: c :: rest =>
      match simpleEscape? c with
      | some c => takeText? fuel (c :: done) rest
      | none => none
    | c :: rest => if c.toNat < 32 then none else takeText? fuel (c :: done) rest

def takeDigits : List Char × List Char :=
  (cs.takeWhile Char.isDigit, cs.dropWhile Char.isDigit)

def takeFraction : List Char × List Char :=
  match cs with
  | '.' :: rest =>
    let (ds, more) := takeDigits rest
    if ds.isEmpty then ([], cs) else ('.' :: ds, more)
  | _ => ([], cs)

def takeSign (signs : List Char) : List Char → List Char × List Char
  | [] => ([], [])
  | c :: cs => if signs.contains c then ([c], cs) else ([], c :: cs)

def takeExponent : List Char × List Char :=
  match cs with
  | e :: rest =>
    if e == 'e' || e == 'E' then
      let (sign, digits) := takeSign ['+', '-'] rest
      let (ds, more) := takeDigits digits
      if ds.isEmpty then ([], cs) else (e :: sign ++ ds, more)
    else ([], cs)
  | [] => ([], cs)

/-- The whole part of a number: zero alone, or digits that start with another one. -/
def takeWhole? : Option (List Char × List Char) :=
  match cs with
  | '0' :: rest => some (['0'], rest)
  | _ =>
    let (ds, rest) := takeDigits cs
    if ds.isEmpty then none else some (ds, rest)

/-- A number. One with a fraction or an exponent is a double; an integer has at most `limit`
digits. -/
def takeNumber? (limit : Nat) (cs : List Char) : Option (Num × List Char) := do
  let (sign, digits) := takeSign ['-'] cs
  let (whole, rest) ← takeWhole? digits
  let (fraction, rest) := takeFraction rest
  let (exponent, rest) := takeExponent rest
  if fraction.isEmpty && exponent.isEmpty then
    return (.int (← (Number.readIntWithin limit (String.ofList (sign ++ whole))).toOption), rest)
  else
    return (← Number.readFloat? (String.ofList (sign ++ whole ++ fraction ++ exponent)), rest)

def takeAtom? (limit : Nat) (cs : List Char) : Option (Json × List Char) :=
  let words : List (String × Json) :=
    [("null", .null), ("true", .bool true), ("false", .bool false), ("NaN", .number .nan),
      ("Infinity", .number .posInf), ("-Infinity", .number .negInf)]
  match words.findSome? fun (w, j) => (Text.dropFront? w.toList cs).map (j, ·) with
  | some found => some found
  | none => (takeNumber? limit cs).map fun (n, rest) => (.number n, rest)

mutual

def takeValue? (limit : Nat) : Nat → List Char → Option (Json × List Char)
  | 0, _ => none
  | fuel + 1, cs =>
    match cs with
    | '"' :: rest => (takeText? (rest.length + 1) [] rest).map fun (s, rest) => (.text s, rest)
    | '[' :: rest =>
      match skipGap rest with
      | ']' :: rest => some (.list [], rest)
      | rest => takeItems? limit fuel [] rest
    | '\x7b' :: rest =>
      match skipGap rest with
      | '\x7d' :: rest => some (.object [], rest)
      | rest => takeFields? limit fuel [] rest
    | cs => takeAtom? limit cs

def takeItems? (limit : Nat) : Nat → List Json → List Char → Option (Json × List Char)
  | 0, _, _ => none
  | fuel + 1, done, cs => do
    let (j, rest) ← takeValue? limit fuel cs
    match skipGap rest with
    | ']' :: rest => return (.list (j :: done).reverse, rest)
    | ',' :: rest => takeItems? limit fuel (j :: done) (skipGap rest)
    | _ => none

def takeFields? (limit : Nat) : Nat → List (String × Json) → List Char → Option (Json × List Char)
  | 0, _, _ => none
  | fuel + 1, done, cs => do
    match cs with
    | '"' :: rest =>
      let (key, rest) ← takeText? (rest.length + 1) [] rest
      match skipGap rest with
      | ':' :: rest =>
        let (j, rest) ← takeValue? limit fuel (skipGap rest)
        let done := putField done key j
        match skipGap rest with
        | '\x7d' :: rest => return (.object done, rest)
        | ',' :: rest => takeFields? limit fuel done (skipGap rest)
        | _ => none
      | _ => none
    | _ => none

end

def maxDepth : Nat := 980

def isShallow (limit : Nat) (cs : List Char) : Bool := go 0 false cs
where
  go : Nat → Bool → List Char → Bool
    | _, _, [] => true
    | depth, true, '\\' :: _ :: rest => go depth true rest
    | depth, inText, c :: rest =>
      if c == '"' then go depth (!inText) rest
      else if inText then go depth true rest
      else if c == '[' || c == '\x7b' then depth < limit && go (depth + 1) false rest
      else if c == ']' || c == '\x7d' then go (depth - 1) false rest
      else go depth false rest

mutual

/-- What stops the writing of a value that may be nested `room` deep. -/
def obstacle? (room : Nat) : Json → Option Fault
  | .number (.int n) =>
    if Number.maxDigits < Number.decimalLength n.natAbs then
      some (.foreign .value ("Exceeds the limit (" ++ toString Number.maxDigits ++
        " digits) for integer string conversion"))
    else none
  | .list items =>
    if room = 0 then some (.foreign .recursion "") else itemsObstacle? (room - 1) items
  | .object fields =>
    if room = 0 then some (.foreign .recursion "") else fieldsObstacle? (room - 1) fields
  | _ => none

def itemsObstacle? (room : Nat) : List Json → Option Fault
  | [] => none
  | j :: rest => (obstacle? room j).or (itemsObstacle? room rest)

def fieldsObstacle? (room : Nat) : List (String × Json) → Option Fault
  | [] => none
  | (_, v) :: rest => (obstacle? room v).or (fieldsObstacle? room rest)

end

def read? (s : String) : Option Json := do
  let cs := s.toList
  if !isShallow maxDepth cs then failure
  let (j, rest) ← takeValue? Number.maxDigits (cs.length + 1) (skipGap cs)
  if (skipGap rest).isEmpty then return j else none

end SetTop.Json

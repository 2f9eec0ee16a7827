import SetTop.Number.Basic
import SetTop.Text.Quoted

/-!
Structured values as they travel between programs.

An object keeps its fields in the order in which they were first set. `write` gives the
text of a value, with a blank after commas and colons and with everything outside ASCII
escaped.
-/

namespace SetTop

inductive Json
  | null
  | bool (b : Bool)
  | number (n : Num)
  | text (s : String)
  | list (items : List Json)
  | object (fields : List (String × Json))

namespace Json

instance : Coe String Json := ⟨.text⟩

def ofNat (n : Nat) : Json := .number (.int n)

def ofInt (n : Int) : Json := .number (.int n)

/-- Sets a field; a new one comes last. -/
def putField (fields : List (String × Json)) (key : String) (value : Json) : List (String × Json) :=
  if fields.any (·.1 == key) then
    fields.map fun (k, v) => if k == key then (k, value) else (k, v)
  else fields ++ [(key, value)]

def field? (j : Json) (key : String) : Option Json :=
  match j with
  | .object fields => fields.lookup key
  | _ => none

/-- Whether a value counts as true: null, zero and what is empty do not. -/
def isTrue : Json → Bool
  | .null => false
  | .bool b => b
  | .number n => n.isTrue
  | .text s => !s.isEmpty
  | .list items => !items.isEmpty
  | .object fields => !fields.isEmpty

/-- A code unit behind `\u`. -/
def unitEscape (n : Nat) : List Char := '\\' :: 'u' :: Text.hexDigits 4 n

def escapeChar (c : Char) : List Char :=
  if c == '"' then ['\\', '"']
  else if c == '\\' then ['\\', '\\']
  else if c == '\n' then ['\\', 'n']
  else if c == '\r' then ['\\', 'r']
  else if c == '\t' then ['\\', 't']
  else if c == Char.ofNat 8 then ['\\', 'b']
  else if c == Char.ofNat 12 then ['\\', 'f']
  else if 32 ≤ c.toNat && c.toNat < 127 then [c]
  else if c.toNat < 65536 then unitEscape c.toNat
  else
    let n := c.toNat - 65536
    unitEscape (55296 + n / 1024) ++ unitEscape (56320 + n % 1024)

def writeText (s : String) : String :=
  String.ofList ('"' :: s.toList.flatMap escapeChar ++ ['"'])

def writeNumber : Num → String
  | .posInf => "Infinity"
  | .negInf => "-Infinity"
  | .nan => "NaN"
  | n => n.text

mutual

def write : Json → String
  | .null => "null"
  | .bool true => "true"
  | .bool false => "false"
  | .number n => writeNumber n
  | .text s => writeText s
  | .list items => "[" ++ writeItems items ++ "]"
  | .object fields => "\x7b" ++ writeFields fields ++ "\x7d"

def writeItems : List Json → String
  | [] => ""
  | [j] => write j
  | j :: rest => write j ++ ", " ++ writeItems rest

def writeFields : List (String × Json) → String
  | [] => ""
  | [(k, v)] => writeText k ++ ": " ++ write v
  | (k, v) :: rest => writeText k ++ ": " ++ write v ++ ", " ++ writeFields rest

end

def insertField (field : String × Json) : List (String × Json) → List (String × Json)
  | [] => [field]
  | f :: rest => if field.1 ≤ f.1 then field :: f :: rest else f :: insertField field rest

mutual

def sorted : Json → Json
  | .list items => .list (sortedItems items)
  | .object fields => .object (sortedFields fields)
  | j => j

def sortedItems : List Json → List Json
  | [] => []
  | j :: rest => sorted j :: sortedItems rest

def sortedFields : List (String × Json) → List (String × Json)
  | [] => []
  | (k, v) :: rest => insertField (k, sorted v) (sortedFields rest)

end

mutual

def mapLeaves (number : Num → Json) (text : String → String) : Json → Json
  | .number n => number n
  | .text s => .text (text s)
  | .list items => .list (mapItems number text items)
  | .object fields => .object (mapFields number text fields)
  | j => j

def mapItems (number : Num → Json) (text : String → String) : List Json → List Json
  | [] => []
  | j :: rest => mapLeaves number text j :: mapItems number text rest

def mapFields (number : Num → Json) (text : String → String) :
    List (String × Json) → List (String × Json)
  | [] => []
  | (k, v) :: rest => (text k, mapLeaves number text v) :: mapFields number text rest

end

end Json

end SetTop

/-!
Structured values as messages show them.
-/

namespace SetTop.Json

mutual

def literal : Json → String
  | .null => "None"
  | .bool true => "True"
  | .bool false => "False"
  | .number n => n.text
  | .text s => quote s
  | .list items => "[" ++ literalItems items ++ "]"
  | .object fields => "\x7b" ++ literalFields fields ++ "\x7d"

def literalItems : List Json → String
  | [] => ""
  | [j] => literal j
  | j :: rest => literal j ++ ", " ++ literalItems rest

def literalFields : List (String × Json) → String
  | [] => ""
  | [(k, v)] => quote k ++ ": " ++ literal v
  | (k, v) :: rest => quote k ++ ": " ++ literal v ++ ", " ++ literalFields rest

end

def display : Json → String
  | .text s => s
  | j => j.literal

def kindName : Json → String
  | .null => "NoneType"
  | .bool _ => "bool"
  | .number (.int _) => "int"
  | .number _ => "float"
  | .text _ => "str"
  | .list _ => "list"
  | .object _ => "dict"

end SetTop.Json

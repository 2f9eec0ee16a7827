import SetTop.Fault
import SetTop.Markup.DocType
import SetTop.Markup.Element

/-!
Reading marked-up text.

The reader keeps the elements that are still open on a stack, the innermost first. Comments
and instructions are skipped, names get their namespaces as they are read, and entities are
replaced by their texts, in which elements must be closed that are opened there.
-/

namespace SetTop.Markup

open Text

structure Open where
  name : String
  tag : String
  attributes : List (String × String)
  spaces : List (String × String)
  text : String := ""
  children : List Element := []
  pending : List String := []

namespace Open

def addText (o : Open) (s : String) : Open := { o with pending := s :: o.pending }

/-- Puts the pending text where it belongs: it is the element's own, or the tail of its last
child. -/
def settle (o : Open) : Open :=
  let s := String.join o.pending.reverse
  match o.children with
  | [] => { o with text := s, pending := [] }
  | c :: cs => { o with children := c.addTail s :: cs, pending := [] }

def addChild (o : Open) (e : Element) : Open :=
  let o := o.settle
  { o with children := e :: o.children }

def close (o : Open) : Element :=
  let o := o.settle
  .mk o.tag o.attributes o.text o.children.reverse ""

end Open

def ownSpace (path : String) : String := "http:/" ++ "/www.w3.org/" ++ path

def basicSpace : String := ownSpace "XML/1998/namespace"

/-- How far a document has been read. -/
structure Reader where
  stack : List Open := []
  root : Option Element := none
  replaced : Nat := 0

namespace Reader

def addText (r : Reader) (cs : List Char) : Option Reader :=
  match r.stack with
  | [] => none
  | o :: rest => some { r with stack := o.addText (String.ofList cs) :: rest }

def addElement (r : Reader) (e : Element) : Reader :=
  match r.stack with
  | [] => { r with root := some e }
  | o :: rest => { r with stack := o.addChild e :: rest }

def finish (r : Reader) (name : String) : Option Reader :=
  match r.stack with
  | [] => none
  | o :: rest => if o.name = name then some (addElement { r with stack := rest } o.close) else none

def spaces (r : Reader) : List (String × String) :=
  match r.stack with
  | o :: _ => o.spaces
  | [] => [("xml", basicSpace)]

end Reader

/-! ### Namespaces -/

def shortName? (name : String) : Option String :=
  if name == "xmlns" then some ""
  else (dropFront? "xmlns:".toList name.toList).map String.ofList

def isBinding (short space : String) : Bool :=
  short != "xmlns" && (short.isEmpty || !space.isEmpty) &&
    (short == "xml") == (space == basicSpace) &&
    space != ownSpace "2000/xmlns/" && !space.toList.contains '\x7d'

def bindings? (attributes : List (String × String)) : Option (List (String × String)) :=
  let found := attributes.filterMap fun (k, v) => (shortName? k).map (·, v)
  if found.all fun (short, space) => isBinding short space then some found else none

def inBraces (space name : String) : String :=
  if space.isEmpty then name else "\x7b" ++ space ++ "\x7d" ++ name

/-- A name with its namespace. Attributes without a short name have none. -/
def qualify? (spaces : List (String × String)) (isAttribute : Bool) (name : String) : Option String :=
  match cut? ':' name.toList with
  | none => if isAttribute then some name else some (inBraces ((spaces.lookup "").getD "") name)
  | some (short, rest) =>
    (spaces.lookup (String.ofList short)).map fun s => inBraces s (String.ofList rest)

/-! ### Tags -/

/-- Takes attributes up to the end of a tag: whether the tag closes itself, and what follows. -/
def takeAttributes? : Nat → List Char → Option (List (String × List Char) × Bool × List Char)
  | 0, _ => none
  | _ + 1, '>' :: rest => some ([], false, rest)
  | _ + 1, '/' :: '>' :: rest => some ([], true, rest)
  | fuel + 1, c :: cs =>
    if !isGap c then none
    else match skipGap cs with
      | '>' :: rest => some ([], false, rest)
      | '/' :: '>' :: rest => some ([], true, rest)
      | cs => do
        let (name, rest) ← takeQualified? cs
        let rest ← dropFront? ['='] (skipGap rest)
        let (value, rest) ← match skipGap rest with
          | '"' :: rest => cut? '"' rest
          | '\'' :: rest => cut? '\'' rest
          | _ => none
        let (more, closes, rest) ← takeAttributes? fuel rest
        return ((String.ofList name, value) :: more, closes, rest)
  | _ + 1, [] => none

def areDistinct : List String → Bool
  | [] => true
  | k :: ks => !ks.contains k && areDistinct ks

variable (d : DocType) (cs : List Char)

def attributesOf? (element : String) (given : List (String × List Char)) :
    Option (List (String × String)) := do
  let rules := d.attributes.filter (·.element == element)
  let own ← given.mapM fun (k, cs) => do
    let isPlain := ((rules.find? (·.name == k)).map (·.isPlain)).getD true
    return (k, String.ofList (← d.value? isPlain cs))
  let defaults := rules.filterMap fun r =>
    if own.any (·.1 == r.name) then none else r.default.map fun cs => (r.name, String.ofList cs)
  if areDistinct (own.map (·.1)) then return own ++ defaults else none

def openElement? (outer : List (String × String)) (name : String)
    (given : List (String × List Char)) : Option Open := do
  let attributes ← attributesOf? d name given
  let spaces := (← bindings? attributes) ++ outer
  let own := attributes.filter fun (k, _) => (shortName? k).isNone
  let named ← own.mapM fun (k, v) => do return (← qualify? spaces true k, v)
  if !areDistinct (named.map (·.1)) then none
  return { name := name, tag := ← qualify? spaces false name, attributes := named, spaces := spaces }

def readStart? (r : Reader) (cs : List Char) : Option (Reader × List Char) := do
  let (name, rest) ← takeQualified? cs
  let (given, closes, rest) ← takeAttributes? (rest.length + 1) rest
  let o ← openElement? d r.spaces (String.ofList name) given
  return (if closes then r.addElement o.close else { r with stack := o :: r.stack }, rest)

def readEnd? (r : Reader) (cs : List Char) : Option (Reader × List Char) := do
  let (name, rest) ← takeQualified? cs
  let rest ← dropFront? ['>'] (skipGap rest)
  return (← r.finish (String.ofList name), rest)

/-! ### Content -/

def takeSection? : List Char → Option (List Char × List Char)
  | [] => none
  | ']' :: ']' :: '>' :: cs => some ([], cs)
  | c :: cs => if isLegal c then (takeSection? cs).map fun (a, b) => (c :: a, b) else none

def isPlainText (c : Char) : Bool := c ≠ '<' && c ≠ '&'

def isText : Bool := cs.all isLegal && !hasPart "]]>".toList cs

/-- Reads what comes next inside of an element. Those below `base` on the stack are not to be
closed. -/
def readPiece? (entity : String → Reader → Option Reader) (base : Nat) (r : Reader)
    (cs : List Char) : Option (Reader × List Char) :=
  match cs with
  | '<' :: '!' :: '-' :: '-' :: rest => (skipComment? rest).map (r, ·)
  | '<' :: '!' :: '[' :: 'C' :: 'D' :: 'A' :: 'T' :: 'A' :: '[' :: rest => do
    let (text, rest) ← takeSection? rest
    return (← r.addText text, rest)
  | '<' :: '!' :: _ => none
  | '<' :: '?' :: rest => (skipInstruction? rest).map (r, ·)
  | '<' :: '/' :: rest => if r.stack.length > base then readEnd? r rest else none
  | '<' :: rest => readStart? d r rest
  | '&' :: rest => do
    let (reference, rest) ← takeReference? rest
    match reference with
    | .character c => return (← r.addText [c], rest)
    | .entity name => return (← entity name r, rest)
  | cs =>
    let text := cs.takeWhile isPlainText
    if isText text then (r.addText text).map (·, cs.dropWhile isPlainText) else none

/-- Reads until the root is closed, or, inside of an entity, to the end of the text. -/
def readPieces? (d : DocType) (entity : String → Reader → Option Reader) (base : Nat) :
    Nat → Reader → List Char → Option (Reader × List Char)
  | 0, _, _ => none
  | fuel + 1, r, cs =>
    if r.stack.isEmpty then some (r, cs)
    else if cs.isEmpty then (if base > 0 && r.stack.length = base then some (r, []) else none)
    else do
      let (r, rest) ← readPiece? d entity base r cs
      readPieces? d entity base fuel r rest

/-- Reads an entity in the place of its name. Those in `opened` may not occur; `depth` bounds how
many can be. -/
def readEntity? (d : DocType) : (depth : Nat) → (opened : List String) → String → Reader → Option Reader
  | 0, _, _, _ => none
  | depth + 1, opened, name, r =>
    match predefined.lookup name, d.entities.lookup name with
    | some c, _ => r.addText [c]
    | none, some (.text cs) =>
      let r := { r with replaced := r.replaced + cs.length }
      if opened.contains name || r.replaced > largestText then none
      else
        let base := r.stack.length
        (readPieces? d (readEntity? d depth (name :: opened)) base (cs.length + 1) r cs).map (·.1)
    | none, _ => none

/-! ### Documents -/

def takeSetting? : Option (String × String × List Char) := do
  if skipGap cs == cs then none
  let (name, rest) ← takeName? (skipGap cs)
  let rest ← dropFront? ['='] (skipGap rest)
  let (value, rest) ← match skipGap rest with
    | '"' :: rest => cut? '"' rest
    | '\'' :: rest => cut? '\'' rest
    | _ => none
  if value.all fun c => c.isAlphanum || ['.', '-', '_'].contains c then
    return (String.ofList name, String.ofList value, rest)
  else none

def takeNamed? (name : String) (cs : List Char) : Option String × List Char :=
  match takeSetting? cs with
  | some (k, v, rest) => if k == name then (some v, rest) else (none, cs)
  | none => (none, cs)

/-- Takes the declaration of a document: the encoding, and whether the document stands alone. -/
def takeDeclaration? : Option (Option String × Bool × List Char) := do
  let (version, rest) := takeNamed? "version" cs
  let (encoding, rest) := takeNamed? "encoding" rest
  let (standalone, rest) := takeNamed? "standalone" rest
  let rest ← dropFront? "?>".toList (skipGap rest)
  if version.isNone || ((encoding.map fun e => !(e.toList.head?.any Char.isAlpha)).getD false) then none
  match standalone with
  | none => return (encoding, false, rest)
  | some "yes" => return (encoding, true, rest)
  | some "no" => return (encoding, false, rest)
  | some _ => none

def skipAsides : Nat → List Char → Option (List Char)
  | 0, _ => none
  | fuel + 1, cs =>
    match skipGap cs with
    | '<' :: '!' :: '-' :: '-' :: rest => do skipAsides fuel (← skipComment? rest)
    | '<' :: '?' :: rest => do skipAsides fuel (← skipInstruction? rest)
    | cs => some cs

def takeDocType? : Option (DocType × List Char) :=
  match dropFront? "<!DOCTYPE".toList cs with
  | none => some (d, cs)
  | some rest => do
    if skipGap rest == rest then none
    let (tokens, rest) ← Token.takeAll? (rest.length + 1) false rest
    return (← d.ofTokens? tokens, rest)

def readDocument? (standalone : Bool) (cs : List Char) : Option Element := do
  let cs ← skipAsides (cs.length + 1) cs
  let (d, cs) ← takeDocType? { isStandalone := standalone } cs
  let cs ← skipAsides (cs.length + 1) cs
  let (r, cs) ← readStart? d {} (← dropFront? ['<'] cs)
  let entity := readEntity? d (d.entities.length + 2) []
  let (r, cs) ← readPieces? d entity 0 (cs.length + 2) r cs
  let cs ← skipAsides (cs.length + 1) cs
  if cs.isEmpty then r.root else none

def bytewise : List Char :=
  (String.ofList cs).toUTF8.toList.map fun b => Char.ofNat b.toNat

def malformed : Fault := .foreign .badXml ""

/-- Reads the rest of a document in the encoding that it names. -/
def readEncoded (encoding : Option String) (standalone : Bool) (cs : List Char) : Except Fault Element :=
  let named (names : List String) : Bool :=
    names.contains ((encoding.map fun e => String.ofList (e.toList.map Char.toLower)).getD "utf-8")
  let read (cs : List Char) : Except Fault Element :=
    match readDocument? standalone cs with
    | some e => .ok e
    | none => .error malformed
  if named ["utf-8"] then read cs
  else if named ["us-ascii", "ascii", "utf8", "utf_8"] then
    if cs.all (·.toNat < 128) then read cs else .error malformed
  else if named ["iso-8859-1", "iso8859-1", "iso_8859-1", "latin-1", "latin1", "latin_1"] then read (bytewise cs)
  else if named ["utf-16", "utf-16le", "utf-16be"] then .error malformed
  else failBelow .lookup

def plainLineEnds : List Char → List Char
  | [] => []
  | '\r' :: '\n' :: cs => '\n' :: plainLineEnds cs
  | '\r' :: cs => '\n' :: plainLineEnds cs
  | c :: cs => c :: plainLineEnds cs

def read (s : String) : Except Fault Element :=
  let cs := plainLineEnds s.toList
  let cs := (dropFront? [Char.ofNat 0xFEFF] cs).getD cs
  match dropFront? "<?xml".toList cs with
  | some (c :: rest) =>
    if isNamePart c then readEncoded none false cs
    else match takeDeclaration? (c :: rest) with
      | some (encoding, standalone, rest) => readEncoded encoding standalone rest
      | none => .error malformed
  | _ => readEncoded none false cs

end SetTop.Markup

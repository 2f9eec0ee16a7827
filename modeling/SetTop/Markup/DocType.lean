import SetTop.Markup.Token

/-!
Document types: what a document declares before it starts.

Only two things matter to a reader: the entities, which are texts that can be referred to by name,
and the attributes, which may have defaults and may be of a kind in which blanks do not count. The
first declaration of a name is the one that holds. Declarations that stand elsewhere are not read.
Once there may be some, an entity without a declaration is no error by itself, and further
declarations are not taken into account.
-/

namespace SetTop.Markup

open Text

inductive Entity
  | text (cs : List Char)
  | outside
  | data
deriving DecidableEq

structure AttributeRule where
  element : String
  name : String
  isPlain : Bool
  default : Option (List Char) := none
deriving DecidableEq

structure DocType where
  entities : List (String × Entity) := []
  attributes : List AttributeRule := []
  isPartial : Bool := false
  /-- whether the document says that it needs none of those -/
  isStandalone : Bool := false
  isOpen : Bool := true

/-! ### References -/

inductive Reference
  | character (c : Char)
  | entity (name : String)
deriving DecidableEq

/-- The character with a number, if there is one that may stand in a document. -/
def characterOf? (n : Nat) : Option Char :=
  let c := Char.ofNat n
  if c.toNat = n && isLegal c then some c else none

def digitOf? (base : Nat) (c : Char) : Option Nat :=
  let n := if c.isDigit then c.toNat - '0'.toNat
    else if c.isLower then c.toNat - 'a'.toNat + 10
    else c.toNat - 'A'.toNat + 10
  if c.isAlphanum && n < base then some n else none

def takeNumber? (base : Nat) (cs : List Char) : Option (Nat × List Char) :=
  match cut? ';' cs with
  | some (c :: cs, rest) =>
    (((c :: cs).mapM (digitOf? base)).map fun ds => ds.foldl (fun n d => n * base + d) 0).map (·, rest)
  | _ => none

def takeReference? (cs : List Char) : Option (Reference × List Char) :=
  match cs with
  | '#' :: 'x' :: rest => do
    let (n, rest) ← takeNumber? 16 rest
    return (.character (← characterOf? n), rest)
  | '#' :: rest => do
    let (n, rest) ← takeNumber? 10 rest
    return (.character (← characterOf? n), rest)
  | cs =>
    match takeName? cs with
    | some (name, ';' :: rest) => some (.entity (String.ofList name), rest)
    | _ => none

def predefined : List (String × Char) := [("amp", '&'), ("lt", '<'), ("gt", '>'), ("quot", '"'), ("apos", '\'')]

/-! ### Values of attributes -/

def largestText : Nat := 8388608

/-- The text of a value, and how much room is left in it. Blanks become spaces, unless referred to
by number. -/
def valueWith? (entity : Nat → String → Option (List Char × Nat)) :
    (fuel room : Nat) → List Char → Option (List Char × Nat)
  | _, room, [] => some ([], room)
  | 0, _, _ => none
  | _, 0, _ => none
  | fuel + 1, room + 1, '&' :: cs => do
    let (reference, rest) ← takeReference? cs
    let (front, room) ← match reference with
      | .character c => some ([c], room)
      | .entity name => entity room name
    let (back, room) ← valueWith? entity fuel room rest
    return (front ++ back, room)
  | fuel + 1, room + 1, c :: cs =>
    if c = '<' || !isLegal c then none
    else (valueWith? entity fuel room cs).map fun (back, room) =>
      ((if isGap c then ' ' else c) :: back, room)

namespace DocType

variable (d : DocType)

/-- What is known about an entity. One that may be declared elsewhere is empty. -/
def entity? (name : String) : Option Entity :=
  match d.entities.lookup name with
  | some e => some e
  | none => if d.isPartial && !d.isStandalone then some (.text []) else none

/-- The text of an entity in the value of an attribute. Those in `opened` may not occur; `depth`
bounds how many can be. -/
def entityInValue? (d : DocType) :
    (depth : Nat) → (opened : List String) → (room : Nat) → String → Option (List Char × Nat)
  | 0, _, _, _ => none
  | depth + 1, opened, room, name =>
    match predefined.lookup name with
    | some c => some ([c], room)
    | none =>
      if opened.contains name then none
      else match d.entity? name with
        | some (.text cs) =>
          valueWith? (d.entityInValue? depth (name :: opened)) (cs.length + 1) room cs
        | _ => none

def squeeze (cs : List Char) : List Char :=
  ((splitAtChar ' ' cs).filter (!·.isEmpty)).intersperse [' '] |>.flatten

def value? (isPlain : Bool) (cs : List Char) : Option (List Char) :=
  (valueWith? (d.entityInValue? (d.entities.length + 2) []) (cs.length + 1)
      (cs.length + largestText) cs).map fun (value, _) =>
    if isPlain then value else squeeze value

/-! ### Declarations -/

/-- The text that an entity is declared as. Only characters that are referred to by number are put
in. -/
def entityText? : Nat → List Char → Option (List Char)
  | _, [] => some []
  | 0, _ => none
  | _ + 1, '%' :: _ => none
  | fuel + 1, '&' :: cs => do
    let (reference, rest) ← takeReference? cs
    let more ← entityText? fuel rest
    match reference with
    | .character c => return c :: more
    | .entity name => return '&' :: name.toList ++ ';' :: more
  | fuel + 1, c :: cs => (entityText? fuel cs).map (c :: ·)

def addEntity (name : String) (e : Entity) : DocType :=
  if !d.isOpen || (predefined.lookup name).isSome || (d.entities.lookup name).isSome then d
  else { d with entities := d.entities ++ [(name, e)] }

def addAttribute (r : AttributeRule) : DocType :=
  if !d.isOpen || d.attributes.any fun a => a.element == r.element && a.name == r.name then d
  else { d with attributes := d.attributes ++ [r] }

def insert : DocType := { d with isPartial := true, isOpen := d.isOpen && d.isStandalone }

def isPublic (c : Char) : Bool := c.isAlphanum || " \n\r-'()+,./:=?;!*#@$_%".toList.contains c

/-- Takes the rest of an entity's declaration. `isOwn` is false of texts that are inserted into
declarations. -/
def takeEntity? (isOwn : Bool) (name : String) : List Token → Option (DocType × List Token)
  | .quoted cs :: .closing :: rest =>
    if !d.isOpen then some (d, rest)
    else (entityText? (cs.length + 1) cs).map fun text =>
      (if isOwn then d.addEntity name (.text text) else d, rest)
  | .name "SYSTEM" false :: .quoted _ :: rest => outside d rest
  | .name "PUBLIC" false :: .quoted p :: .quoted _ :: rest => if p.all isPublic then outside d rest else none
  | _ => none
where
  outside (d : DocType) : List Token → Option (DocType × List Token)
    | .closing :: rest => some (if isOwn then d.addEntity name .outside else d, rest)
    | .name "NDATA" false :: .name _ false :: .closing :: rest =>
      if isOwn then some (d.addEntity name .data, rest) else none
    | _ => none

def takeChoices? (isChoice : Token → Bool) : List Token → Option (List Token)
  | choice :: .bar :: rest => if isChoice choice then takeChoices? isChoice rest else none
  | choice :: .rightParen none :: rest => if isChoice choice then some rest else none
  | _ => none

def isName : Token → Bool
  | .name _ _ => true
  | _ => false

def isPlainName : Token → Bool
  | .name _ false => true
  | _ => false

def isWord : Token → Bool
  | .word _ => true
  | t => isName t

/-- Takes the kind of an attribute: whether blanks count in it. -/
def takeKind? : List Token → Option (Bool × List Token)
  | .name "CDATA" false :: rest => some (true, rest)
  | .name "NOTATION" false :: .leftParen :: rest => (takeChoices? isPlainName rest).map (false, ·)
  | .leftParen :: rest => (takeChoices? isWord rest).map (false, ·)
  | .name s false :: rest =>
    if ["ID", "IDREF", "IDREFS", "ENTITY", "ENTITIES", "NMTOKEN", "NMTOKENS"].contains s then
      some (false, rest)
    else none
  | _ => none

def takeDefault? : List Token → Option (Option (List Char) × List Token)
  | .marked "IMPLIED" :: rest => some (none, rest)
  | .marked "REQUIRED" :: rest => some (none, rest)
  | .marked "FIXED" :: .quoted cs :: rest => some (some cs, rest)
  | .quoted cs :: rest => some (some cs, rest)
  | _ => none

/-- Takes the declarations of an element's attributes, of which there are at most `fuel`. -/
def takeAttributes? (element : String) : Nat → DocType → List Token → Option (DocType × List Token)
  | _, d, .closing :: rest => some (d, rest)
  | fuel + 1, d, .name name _ :: rest => do
    let (isPlain, rest) ← takeKind? rest
    let (given, rest) ← takeDefault? rest
    let default ← match given with
      | none => some none
      | some cs => if d.isOpen then (d.value? isPlain cs).map some else some none
    takeAttributes? element fuel (d.addAttribute ⟨element, name, isPlain, default⟩) rest
  | _, _, _ => none

/-- Takes the names of a mixed content, behind the first keyword. Only one without names needs no
mark. -/
def takeMixed? : List Token → Option (List Token)
  | .rightParen none :: rest => some rest
  | rest => names rest
where
  names : List Token → Option (List Token)
    | .rightParen (some '*') :: rest => some rest
    | .bar :: .name _ _ :: rest => names rest
    | _ => none

/-- Takes a content of nested groups. Each open one has its separator, and `expectsItem` tells
whether an item has to follow. -/
def takeGroups? : (expectsItem : Bool) → List (Option Token) → List Token → Option (List Token)
  | _, [], rest => some rest
  | true, groups, .leftParen :: rest => takeGroups? true (none :: groups) rest
  | true, groups, .name _ _ :: rest => takeGroups? false groups rest
  | true, groups, .counted _ :: rest => takeGroups? false groups rest
  | false, _ :: groups, .rightParen _ :: rest => takeGroups? false groups rest
  | false, separator :: groups, token :: rest =>
    if (token = .comma || token = .bar) && separator.getD token = token then
      takeGroups? true (some token :: groups) rest
    else none
  | _, _, _ => none

def takeContent? (tokens : List Token) : Option (List Token) :=
  let rest := match tokens with
    | .name "EMPTY" false :: rest => some rest
    | .name "ANY" false :: rest => some rest
    | .leftParen :: .marked "PCDATA" :: rest => takeMixed? rest
    | .leftParen :: rest => takeGroups? true [none] rest
    | _ => none
  match rest with
  | some (.closing :: rest) => some rest
  | _ => none

def takeNotation? : List Token → Option (List Token)
  | .name "SYSTEM" false :: .quoted _ :: .closing :: rest => some rest
  | .name "PUBLIC" false :: .quoted p :: .closing :: rest => if p.all isPublic then some rest else none
  | .name "PUBLIC" false :: .quoted p :: .quoted _ :: .closing :: rest =>
    if p.all isPublic then some rest else none
  | _ => none

def takeDeclaration? (keyword : String) (tokens : List Token) : Option (DocType × List Token) :=
  match keyword, tokens with
  | "ENTITY", .percent :: .name name false :: rest => d.takeEntity? false name rest
  | "ENTITY", .name name false :: rest => d.takeEntity? true name rest
  | "ATTLIST", .name element _ :: rest => takeAttributes? element rest.length d rest
  | "ELEMENT", .name _ _ :: rest => (takeContent? rest).map (d, ·)
  | "NOTATION", .name _ false :: rest => (takeNotation? rest).map (d, ·)
  | _, _ => none

def takeSubset? : Nat → DocType → List Token → Option DocType
  | _, d, [.rightBracket, .closing] => some d
  | fuel + 1, d, .aside :: rest => takeSubset? fuel d rest
  | fuel + 1, d, .insertion :: rest => takeSubset? fuel d.insert rest
  | fuel + 1, d, .opening keyword :: rest => do
    let (d, rest) ← d.takeDeclaration? keyword rest
    takeSubset? fuel d rest
  | _, _, _ => none

def takeEnd? : List Token → Option DocType
  | [.closing] => some d
  | .leftBracket :: rest => takeSubset? rest.length d rest
  | _ => none

def ofTokens? : List Token → Option DocType
  | .name _ _ :: .name "SYSTEM" false :: .quoted _ :: rest => { d with isPartial := true }.takeEnd? rest
  | .name _ _ :: .name "PUBLIC" false :: .quoted p :: .quoted _ :: rest =>
    if p.all isPublic then { d with isPartial := true }.takeEnd? rest else none
  | .name _ _ :: rest => d.takeEnd? rest
  | _ => none

end DocType

end SetTop.Markup

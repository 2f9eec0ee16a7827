import SetTop.IrBox.Signals
import SetTop.Ocr.Reader
import SetTop.Scene.Setting

/-!
Requests about samples of video and about documents of words.
-/

namespace SetTop.Scene

def encodePhrase : Option (List Ocr.Word) → Except Fault Json
  | none => return .null
  | some [] => return .list []
  | some ws => do
    let regions ← ws.mapM fun w => Ocr.boxAround w.place
    return .object [("words", encodeStrings (ws.map (·.text))),
      ("regions", .list (regions.map encodeRegion?)), ("box", encodeRegion? (← Ocr.boxOf ws))]

variable (j : Json)

def readWords : Except Fault Json := do
  let ws ← Ocr.words (← Markup.read (text (get j "xml")))
  let parts (j : Json) : Except Fault (List Json) :=
    match sequence? j with
    | some js => .ok js
    | none => failBelow .type
  let found ← (items (get j "find")).mapM fun request => do
    match ← parts request with
    | [phrase, caseMatters] =>
      encodePhrase (Ocr.findPhrase ((← parts phrase).map Json.display) caseMatters.isTrue ws)
    | _ => failBelow .value
  return .object [
    ("words", .list (ws.map fun w =>
      .list [.text w.text, encodeOption (fun (e : Markup.Element) => .text e.tag) w.place.head?])),
    ("find", .list found)]

def runWords : Json := attemptOf id (readWords j)

def versionText : Json → Act Json
  | .text out => return .text (← Act.ofExcept (Ocr.versionOf out)).text
  | .null => return .text (((← Ocr.version).map Version.text).getD "None")
  | _ => failBelow .attribute

def runVersions : Json :=
  let (found, _) := (items (get j "outputs")).foldl (fun (acc, s) out =>
    let (o, s) := (versionText out).run s
    (acc ++ [attemptOf id o], s)) ([], session j)
  .list found

def hexBytes : Bytes := (IrBox.ofHexadecimal (text j).toList).toOption.getD []

def encodeHex (data : List Nat) : Json := .text (String.ofList (data.flatMap (Text.hexDigits 2)))

def sample : Sample :=
  let caps := get j "caps"
  { format := text? (get caps "format")
    width := num (get caps "width")
    height := num (get caps "height")
    data := if bool (get j "no_buffer") then none else some ((hexBytes (get j "hex")).map UInt8.toNat).toArray
    isWritable := boolOrTrue j "writable"
    time := num? (get j "t") }

def describeSample : Except Fault Json := do
  let s := sample j
  let caps := get j "caps"
  let isLayout := [get caps "width", get caps "height"].all fun extent => extent.number?.isSome
  if s.isPicture && !isLayout then failBelow .type
  let writing := bool (get j "readwrite")
  let (shape, data) ← s.array writing
  let time := encodeJson (get j "t")
  let copy := match shape with
    | [] => []
    | n :: rest => [("copy", Json.list [encodeShape ((n - 1) :: rest), time])]
  return .object ([("shape", encodeShape shape), ("time", time), ("data", encodeHex data.toList),
    ("writeable", .bool writing)] ++ if bool (get j "copy") then copy else [])

def runSample : Json :=
  match text (get j "f") with
  | "shape" => encodeFault (Sample.notASample (get j "value").kindName)
  | "iterate" =>
    let (found, outcome) := Rig.walk (walkItems (get j "items"))
    let failed := match outcome with
      | .ok () => []
      | .error e => [encodeFault e]
    match found.mapM id with
    | some names => .list (names.map .text ++ failed)
    | none => encodeFault (.foreign .attribute "")
  | _ =>
    if bool (get j "make_writable") then
      let s := sample j
      if s.data.isNone then encodeFault (.foreign .attribute "")
      else .list [.bool s.isWritable, .bool s.makeWritable.isWritable]
    else attemptOf id (describeSample j)

end SetTop.Scene

import SetTop.Matching.Run

/-!
The program that looks for a template in a picture.
-/

namespace SetTop.MatchPicture

def help : String :=
"usage: stbt match [-h] [-v] source_file template_file [match_parameters ...]

Run stbt's image-matching algorithm against a single frame (which you can
capture using `stbt screenshot`).

positional arguments:
  source_file       The screenshot to compare against (you can capture it
                    using 'stbt screenshot')
  template_file     The image to search for
  match_parameters  Parameters for the image processing algorithm. See
                    'MatchParameters' in the stbt API documentation. For
                    example: 'confirm_threshold=0.20')

options:
  -h, --help        show this help message and exit
  -v, --verbose     Dump image processing debug images to ./stbt-debug
                    directory
"

def grammar : Cli.Grammar :=
  { flags := [Cli.helpFlag, Cli.verboseFlag]
    operands := [⟨"source", .one, .text⟩, ⟨"template", .one, .text⟩, ⟨"parameters", .many, .text⟩]
    help := help }

def die {α : Type} (message : String) : Act α := do
  complain ("stbt match: error: " ++ message ++ "\n")
  throw (.exit (.status 1))

def setParameter? (p : MatchParameters) (argument : String) : Option MatchParameters :=
  match splitAtCharacter '=' argument with
  | [name, value] =>
    match name with
    | "match_method" => some { p with matchMethod := value }
    | "match_threshold" => (Number.readFloat? value).map fun v => { p with matchThreshold := .number v }
    | "confirm_method" => some { p with confirmMethod := value }
    | "confirm_threshold" => (Number.readFloat? value).map fun v => { p with confirmThreshold := .number v }
    | "erode_passes" => (Number.readInt? value).map fun n => { p with erodePasses := .ofInt n }
    | _ => none
  | _ => none

def setParameters : MatchParameters → List String → Act MatchParameters
  | p, [] => return p
  | p, argument :: rest =>
    match setParameter? p argument with
    | some p => setParameters p rest
    | none => die s!"Invalid argument '{argument}'"

def search (source : Image) (template : String) (p : MatchParameters) : Act Unit := do
  let outcome ← Act.attempt do
    let t ← loadTemplate (.file (← fullPath template))
    matchFrame t ⟨source, none⟩ p (some Region.all) fun _ => pure ()
  match outcome with
  | .ok r =>
    say ((if r.matched then "Match found" else "No match found. Closest match") ++ ": " ++ r.text ++ "\n")
    throw (.exit (.status (if r.matched then 0 else 1)))
  | .error (.failure .uiTest message) => die message
  | .error e => throw e

def run (arguments : List String) : Act Unit := do
  let items ← Cli.read grammar arguments
  let start ← MatchParameters.configured
  let p ← setParameters start (Cli.operands "parameters" items)
  let source := (Cli.operands "source" items).headD ""
  match ← loadColour source with
  | none => die s!"Invalid image '{source}'"
  | some image =>
    let a := search image ((Cli.operands "template" items).headD "") p
    if Cli.count "verbose" items > 0 then Log.atLevel (some 2) a else a

end SetTop.MatchPicture

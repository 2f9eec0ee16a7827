import SetTop.Cache.Scope
import SetTop.Matching.Run

/-!
The findings of a search as cached results.

A search gives its findings turn by turn: those that are confirmed, and then one that is not.
`Findings.turn` is the search itself, as a function of all that it reads, and `Findings.digest` is
the digest under which its results are kept. A search that saves no pictures is made anew
(`Findings.search`) or answered from the store of the session (`Findings.remembered`).
-/

namespace SetTop.Findings

def encode (confirmed : Bool) (c : Candidate) : Json :=
  .list [.bool confirmed, .list [.number c.region.x, .number c.region.y, .number c.region.right,
    .number c.region.bottom], .bool c.matched, .number c.certainty]

def opened (method : MatchMethod) (template : Image) (pass : Search.FirstPass) : Except Fault Hunt :=
  match pass.broken, pass.reports.getLast? with
  | some b, _ => .error b.fault
  | none, some report => .ok (Hunt.ofReport method template report)
  | none, none => .error (.foreign .runtime "")

def start (levels : Except Fault Nat) (image template : Image) (p : MatchParameters) :
    Except Fault Hunt := do
  MatchRun.checkSizes image template
  match MatchMethod.ofName? p.matchMethod with
  | none => throw (.foreign .key p.matchMethod)
  | some method =>
    opened method template (Search.firstPass method p.thresholdAt (← levels) image template)

variable (image template : Image)

def isConfirmed (p : MatchParameters) (h : Hunt) : Except Fault Bool :=
  if h.candidate.matched then confirmMatch image h.candidate.region template p else .ok false

def turnFrom (image template : Image) (p : MatchParameters) : Nat → Hunt → Turn
  | n, h =>
    match isConfirmed image template p h with
    | .error e => .refuse e
    | .ok confirmed =>
      match n with
      | 0 => .value (encode confirmed h.candidate)
      | n + 1 => if confirmed then turnFrom image template p n h.next else .stop

def turn (levels : Except Fault Nat) (image template : Image) (p : MatchParameters) (n : Nat) : Turn :=
  match start levels image template p with
  | .error e => .refuse e
  | .ok h => turnFrom image template p n h

def function : String := "_find_matches"

def dependsOn : Json := .object [("version", .text "25")]

def arguments (p : MatchParameters) : List (String × Argument) :=
  [("image", .picture image), ("imglog", .album false), ("match_parameters", .parameters p),
    ("template", .picture template)]

def digest (p : MatchParameters) : Except Keyless String :=
  callDigest function dependsOn (arguments image template p)

def check (p : MatchParameters) (n : Nat) (h : Hunt) : Act Bool :=
  if h.candidate.matched then MatchRun.confirm none n image h.candidate template p else pure false

def collectFrom (image template : Image) (p : MatchParameters) :
    Nat → Hunt → List Json → Act (List Json × Option Fault)
  | 0, _, found => return (found, none)
  | limit + 1, h, found => do
    match ← Act.attempt (check image template p found.length h) with
    | .error e => return (found, some e)
    | .ok true => collectFrom image template p limit h.next (found ++ [encode true h.candidate])
    | .ok false => return (found ++ [encode false h.candidate], none)

def search (p : MatchParameters) : Nat → Act (List Json × Option Fault)
  | 0 => return ([], none)
  | limit + 1 => do
    match ← Act.attempt (MatchRun.openHunt none image template p) with
    | .error e => return ([], some e)
    | .ok h => collectFrom image template p (limit + 1) h []

def remembered (p : MatchParameters) (limit : Nat) : Act (List Json × Option Fault) := do
  let levels ← Act.attempt MatchRun.levelCount
  let (found, _, fault) ← Cache.rememberMany function dependsOn (arguments image template p)
    (turn levels image template p) limit
  return (found, fault)

end SetTop.Findings

import SetTop.Files.Search

/-!
Reports about test runs.

Every run has a directory of its own, named for the time at which it started. What is
known about the run stands in files there; a file with `.manual` behind its name takes
precedence over the file itself.
-/

namespace SetTop.Batch

def escapeMarkup (s : String) : String :=
  String.join (s.toList.map fun
    | '&' => "&amp;"
    | '>' => "&gt;"
    | '<' => "&lt;"
    | '\'' => "&#39;"
    | '"' => "&#34;"
    | c => String.ofList [c])

structure RunReport where
  status : Option Int
  duration : String
  failureReason : String
  commit : String
  notes : String
  arguments : String
  testName : String
  hasVideo : Bool
  files : List String
  images : List String
  columns : List (String × List String)
  time : Moment

namespace RunReport

def readFact (dir name : String) : Act String := do
  let path := Path.join dir name
  if ← pathExists (path ++ ".manual") then
    return escapeMarkup (stripText (← fileText (path ++ ".manual")))
  if ← pathExists path then return stripText (← fileText path)
  return ""

def twoDigits (n : Int) : String :=
  if n < 0 then toString n else Number.padded 2 n.toNat

def durationText (seconds : Int) : String :=
  twoDigits (seconds.fdiv 3600) ++ ":" ++ twoDigits ((seconds.fmod 3600).fdiv 60) ++ ":" ++
    twoDigits (seconds.fmod 60)

def factFiles : List String :=
  ["duration", "exit-status", "extra-columns", "failure-reason", "git-commit", "test-args", "test-name"]

def isListed (path : String) : Bool :=
  let name := Path.baseName path
  !factFiles.contains name && !startsWithText name "index.html" &&
    [".jpeg", ".jpg", ".png", ".manual"].all fun ending => !endsWithText path ending

def sortedNames (names : List String) : List String := names.eraseDups.mergeSort fun a b => a ≤ b

variable (dir : String)

def listFiles : Act (List String) := do
  let found ← Files.like (dir ++ "/*")
  return (((found.filter isListed).map Path.baseName).mergeSort fun a b => a ≤ b)

def listImages : Act (List String) := do
  let found ← ["/*.jpeg", "/*.jpg", "/*.png"].mapM fun ending => Files.like (dir ++ ending)
  return sortedNames ((found.flatten.map Path.baseName).filter (· != "thumbnail.jpg"))

def addColumn (columns : List (String × List String)) (name value : String) :
    List (String × List String) :=
  if columns.any (·.1 == name) then
    columns.map fun (k, vs) => if k == name then (k, vs ++ [value]) else (k, vs)
  else columns ++ [(name, [value])]

/-- The columns that a text describes, a line each. Lines without a tab do not count. -/
def readColumns (text : String) : List (String × List String) :=
  (Text.splitLines text.toList).foldl (fun columns line =>
    match Text.cut? '\t' line with
    | some (a, b) => addColumn columns (String.ofList (Text.strip a)) (String.ofList (Text.strip b))
    | none => columns) []

/-- The digits at the front of a name; a zero in `shape` stands for a digit and any other character
for itself. -/
def digitsLike (shape : String) : List Char → Option (List Char) :=
  go shape.toList
where
  go : List Char → List Char → Option (List Char)
    | [], _ => some []
    | '0' :: shape, c :: cs => if Text.isDecimalDigit c then (go shape cs).map (c :: ·) else none
    | s :: shape, c :: cs => if s == c then go shape cs else none
    | _ :: _, [] => none

/-- Whether two digits can be part of a time. Behind the first digits `free` the second may be of
any script. -/
def isPair (free : String) : List Char → Bool
  | [a, b] => a.isDigit && (b.isDigit || free.toList.contains a)
  | _ => false

/-- Whether digits are of the scripts allowed in a date and a time of day. -/
def areReadable (digits : List Char) : Bool :=
  let pair (start : Nat) : List Char := (digits.drop start).take 2
  isPair "" (pair 4) && isPair "12" (pair 6) && isPair "01" (pair 8) &&
    isPair "012345" (pair 10) && isPair "012345" (pair 12)

def timeOf : Except Fault Moment :=
  match digitsLike "0000-00-00_00.00.00" (Path.baseName dir).toList with
  | none => .error (.failure .assertion ("Invalid rundir '" ++ dir ++ "'"))
  | some digits =>
    let number (start count : Nat) : Nat :=
      ((digits.drop start).take count).foldl (fun n c => 10 * n + (Text.digitValue? c).getD 0) 0
    let m : Moment := ⟨number 0 4, number 4 2, number 6 2, number 8 2, number 10 2, number 12 2, 0⟩
    if m.isValid && areReadable digits then .ok m else failBelow .value

def load : Act RunReport := do
  let status := Number.readInt? (← readFact dir "exit-status")
  let seconds := (Number.readInt? (← readFact dir "duration")).getD 0
  let failureReason ← readFact dir "failure-reason"
  let commit ← readFact dir "git-commit"
  let notes ← readFact dir "notes"
  let arguments ← readFact dir "test-args"
  let testName ← readFact dir "test-name"
  let hasVideo ← pathExists (dir ++ "/video.webm")
  let files ← if status.isSome then listFiles dir else pure []
  let images ← if status.isSome then listImages dir else pure []
  let columns := readColumns (← readFact dir "extra-columns")
  let time ← Act.ofExcept (timeOf dir)
  return ⟨status, durationText seconds, failureReason, commit, notes, arguments, testName, hasVideo,
    files, images, columns, time⟩

def tone (r : RunReport) : String :=
  match r.status with
  | none => "muted"
  | some 0 => "success"
  | some 1 => "error"
  | some _ => "warning"

end RunReport

/-! ### The program -/

namespace Report

def usage : String := "Usage: report (index.html | <testrun directory>)"

def die {α : Type} (message : String) : Act α := do
  complain ("report.py: " ++ message ++ "\n")
  throw (.exit (.status 1))

def loadAll (dir : String) : Act (List RunReport) := do
  let found ← Files.like (Path.join dir "????-??-??_??.??.??*/test-name")
  let dirs := (found.map Path.directory).mergeSort fun a b => b ≤ a
  let runs ← dirs.mapM RunReport.load
  if runs.isEmpty then die ("Directory '" ++ dir ++ "' doesn't contain any testruns")
  return runs

/-- The directory of a run that a path names. A line end may follow the name but not precede it. -/
def runDirectory? (path : String) : Option String :=
  let (front, name) := Path.split path
  let bare (tag : List Char) : String := String.ofList (path.toList.take (path.length - tag.length))
  if front.toList.contains '\n' then none
  else match RunReport.digitsLike "0000-00-00_00.00.00" name.toList with
    | none => none
    | some _ =>
      match name.toList.drop 19 with
      | [] => some path
      | ['\n'] => some (bare ['\n'])
      | '-' :: _ :: _ => some path
      | _ => none

def run (arguments : List String) : Act (List RunReport) := do
  match arguments with
  | [] => die usage
  | first :: _ =>
    if first == "-h" || first == "--help" then
      say (usage ++ "\n")
      throw (.exit (.status 0))
  let found ← arguments.mapM fun target => do
    if ← isDirectory target then
      match runDirectory? (← fullPath target) with
      | some dir => return [← RunReport.load dir]
      | none => return []
    else if endsWithText target "index.html" then loadAll (Path.directory target)
    else die ("Invalid target '" ++ target ++ "'")
  return found.flatten

end Report

end SetTop.Batch

import SetTop.Batch.Report
import SetTop.Commands.MatchPicture
import SetTop.Commands.ShowSetting
import SetTop.Scene.Request
import SetTop.Scene.Setting
import SetTop.Selftest.Generation
import SetTop.Television

/-!
Rehearsed runs of the smaller tools.
-/

namespace SetTop.Scene

def runTool (a : Act Unit) (s : Session) : Json := (report (do a; return .null) s).1

def encodeRun (r : Batch.RunReport) : Json :=
  let status : Json := match r.status with
    | some n => .ofInt n
    | none => "still running"
  .object ([("exit_status", status), ("duration", .text r.duration),
    ("failure_reason", .text r.failureReason), ("git_commit", .text r.commit), ("notes", .text r.notes),
    ("test_args", .text r.arguments), ("test_name", .text r.testName),
    ("extra_columns", .list (r.columns.map fun (k, vs) => .list [.text k, encodeStrings vs])),
    ("timestamp", .text (r.time.dateText ++ " " ++ r.time.timeText ":")), ("css_class", .text r.tone)] ++
    (if r.hasVideo then [("video", Json.text "video.webm")] else []) ++
    (if r.status.isSome then [("files", encodeStrings r.files), ("images", encodeStrings r.images)]
      else []))

variable (j : Json)

def runReports : Json :=
  if has j "argv" then
    runTool (do let _ ← Batch.Report.run (← arguments (get j "argv"))) (session j)
  else attempt (encodeRun <$> Batch.RunReport.load (text (get j "dir"))) (session j)

def selftestItem : Except Fault Selftest.Item :=
  match sequence? j with
  | some [name, expressions, always, tried] =>
    let wildcards (j : Json) : List (Option String) := ((sequence? j).getD [.null]).map text?
    let expressions := match sequence? expressions with
      | some js => js.map fun j => (text? j).elim (.error (.foreign .attribute "format")) .ok
      | none => [failBelow .type]
    .ok ⟨name.display, expressions, wildcards always, wildcards tried⟩
  | _ => failBelow .type

def progressLine (width done total : Json) : Except Fault String :=
  match num? width, num? done, num? total with
  | some (.int width), some (.int done), some (.int total) => Selftest.progressLine width done total
  | some _, some _, some total => .error (.foreign (if total.isTrue then .type else .zeroDivision) "")
  | _, _, _ => failBelow .type

def sortedStrings (names : List String) : Json := encodeStrings (names.mergeSort fun a b => a ≤ b)

def selftest : Act Json := do
  let names (refusal : FaultKind) : Act (List String) := do
    (← needItems (get j "names")).mapM fun
      | .text s => return s
      | _ => failBelow refusal
  match text (get j "f") with
  | "identifier" => return .list ((← names .type).map fun n => .bool (Selftest.isIdentifier n))
  | "selftest_filename" => return encodeStrings ((← names .type).map Selftest.fileName)
  | "valid_source_files" => return encodeStrings (← Selftest.validSources (← names .attribute))
  | "progress_line" =>
    match items (get j "args") with
    | [width, n, total] => return .text (← Act.ofExcept (progressLine width n total))
    | _ => failBelow .type
  | "iterate" =>
    let width := (j.field? "width").getD (.ofNat 20)
    match sequence? (get j "items") with
    | none => return .list [encodeFault (.foreign .type ""), "\n"]
    | some work =>
      let (shown, outcome) := Selftest.progressText
        (fun done total => progressLine width (.ofInt done) (.ofInt total)) (work.map Json.display)
      return .list [attemptOf (fun () => .list (work.map encodeJson)) outcome, .text shown]
  | "recursive_glob" =>
    return sortedStrings (← Files.below (← needText (get j "expr")) (textOr j "dir" "."))
  | "prune" =>
    Files.prune (text (get j "dir"))
    return sortedStrings (← Files.directoriesBelow (text (get j "dir")))
  | "write_test" =>
    let (shown, outcome) ← Selftest.writeItem (← Act.ofExcept (selftestItem (get j "item")))
    return .list [attemptOf .ofNat outcome, .text shown]
  | "bare_doctest" =>
    let out := text (get j "out")
    let work ← Act.ofExcept ((items (get j "items")).mapM selftestItem)
    let outcome ← Act.attempt (Selftest.writeTests (text (get j "module")) work out)
    let written ← if ← isFile out then Json.text <$> fileText out else pure .null
    return .list [attemptOf .ofNat outcome, written]
  | "root" =>
    let dir := textOr j "cd" "."
    ensureDirectory dir
    return encodeOption .text (← Selftest.packRoot dir)
  | _ => failBelow .attribute

def timing : Json → Act Selftest.Timing
  | .list (name :: t :: more) => do
    match num? t with
    | some t => return ⟨if more.isEmpty then some name.display else none, t⟩
    | none => failBelow .type
  | .list _ => failBelow .index
  | .text s => failBelow (if s.length < 2 then .index else .type)
  | .object _ => failBelow .key
  | _ => failBelow .type

def runSelftest : Json :=
  if text (get j "f") == "perf" then
    runTool (do
      match get j "log" with
      | .list entries =>
        let log ← entries.mapM timing
        match num? (get j "total") with
        | some total => Selftest.reportTimes log total
        | none => failBelow .type
      | _ => failBelow .attribute) (session j)
  else attempt (selftest j) (session j)

def runProgram : Json :=
  let name := text (get j "script")
  let s := { session j with program := name }
  let words := arguments (get j "argv")
  match name with
  | "stbt-config" => runTool (do ShowSetting.run (← words)) s
  | "stbt-match" => runTool (do MatchPicture.run (← words)) s
  | _ => .null

def runTelevision : Json :=
  if has j "cache_dir" then attempt (Json.text <$> Television.videoDirectory) (session j)
  else
    (report (do
      let description ← match get j "desc" with
        | .text s => pure s
        | _ => failBelow .attribute
      let t ← Act.ofExcept (Television.ofDescription description)
      let video := get j "video"
      t.play (if video.isTrue then video.display else "v")
      t.stop
      return "_AssumeTvDriver") (session j)).1

end SetTop.Scene

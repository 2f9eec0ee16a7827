import SetTop.Scene.Encoding
import SetTop.Scene.Picture

/-!
The bench of a rehearsed run, by description.
-/

namespace SetTop.Scene

variable (j : Json)

def draws : List Draw :=
  (items j).map fun
    | .list js => .permutation (js.map int)
    | j => .number (num j)

def refusal : Option (Nat × String) :=
  if has j "errno" then some (nat (get j "errno"), textOr j "strerror" "failed") else none

def chunk : Json → Option (List Char)
  | .text s => some s.toList
  | _ => none

def chunks : List (Option (List Char)) := (items j).map chunk

def peer : Peer :=
  { refusal := refusal j
    chunks := chunks (get j "recv")
    label := textOr j "label" "sock"
    broken := bool (get j "broken")
    ownName := match get j "name" with
      | .list [a, b] => (text a, int b)
      | _ => ("192.168.0.8", 12345)
    descriptor := intOr j "fd" 3 }

def helper : Helper :=
  { refusal := refusal j
    status := intOr j "status" 0
    output := textOr j "output" ""
    errors := textOr j "stderr" ""
    creates := texts (get j "creates")
    recognised := text? (get j "ocr")
    extension := textOr j "ext" ".txt" }

def snmpReply : SnmpReply :=
  if has j "error" then .failed (text (get j "error"))
  else if bool (get j "missing") then .missing (text? (get j "oid"))
  else .value ((j.field? "value").getD (.number 3)) (text? (get j "oid"))

def cecBus : CecBus :=
  { opens := boolOrTrue j "open"
    adapters := texts (get j "adapters")
    primary := intOr j "primary" 1
    active := (items (get j "active")).map int
    failing := texts (get j "fail") }

def walkItems : List (String ⊕ Int) :=
  (items j).map fun
    | .text name => .inl name
    | code => .inr (([1, 2, 3].find? fun n => Json.same (.ofInt n) code).getD 0)

def rig : Rig :=
  { missing := texts (get j "missing")
    live := textOr j "preroll" "ASYNC" == "NO_PREROLL"
    sources := walkItems (get j "sources")
    keepsTimers := true }

def configText : String :=
  let entries := (fields j).map fun (k, v) =>
    match Text.cutLast? '.' k.toList with
    | some (a, b) => (String.ofList a, String.ofList b, v.display)
    | none => (k, "", v.display)
  let sections := entries.foldl (fun acc (s, _, _) => if acc.contains s then acc else acc ++ [s]) []
  String.join (sections.map fun s =>
    "[" ++ s ++ "]\n" ++ String.join ((entries.filter (·.1 == s)).map fun (_, k, v) =>
      k ++ " = " ++ v ++ "\n"))

def putFile (t : FileTree) (path content : String) : FileTree :=
  let full := Path.absolute workingDirectory path
  let t := t.prepare full
  (t.write full content).toOption.getD t

def session (j : Json) : Session :=
  let names := fields (get j "images")
  let base : FileTree := ⟨[workingDirectory, installDirectory, "/tmp"].map (·, Entry.directory)⟩
  let files := (fields (get j "files")).foldl (fun t (name, content) =>
    putFile t name (text content)) base
  let pictures := (fields (get j "files")).filterMap fun (name, content) =>
    match content with
    | .object _ => some (Path.baseName name, image names content)
    | _ => none
  let environment := [("HOME", workingDirectory ++ "/home")]
  let put (vs : List (String × String)) (k v : String) := vs.filter (·.1 != k) ++ [(k, v)]
  let (files, environment) :=
    if has j "config" then
      let name := textOr j "config_name" "session.conf"
      (putFile files name (configText (get j "config")),
        put environment "STBT_CONFIG_FILE" (workingDirectory ++ "/" ++ name))
    else (files, environment)
  let environment := (fields (get j "env")).foldl (fun vs (k, v) =>
    put vs k (replaceText (text v) "<cwd>" workingDirectory)) environment
  { bench :=
      { clock := numOr j "now" (.real 1000000000.0)
        tick := numOr j "tick" (.real 0.0)
        cwd := workingDirectory
        home := installDirectory
        files := files
        environment := environment
        peers := (items (get j "connections")).map peer
        visitors := (items (get j "accepts")).map peer
        ready := (items (get j "selects")).map fun s => (items s).map int
        draws := draws (get j "random")
        helpers := (items (get j "processes")).map helper
        executables := (fields (get j "executables")).filterMap fun (k, v) => (text? v).map (k, ·)
        statuses := (items (get j "http")).map int
        snmp := (items (get j "snmp")).map snmpReply
        cec := cecBus (get j "cec")
        serial := match get j "serial" with
          | .bool true => .switch {}
          | lines => .lines ((texts lines).map String.toList)
        keys := (items (get j "keys")).map int
        rig := rig j
        storeLimit := natOr j "cache_limit" 1000000000
        terminal := match get j "term_size" with
          | .list [a, b] => (int a, int b)
          | _ => (50, 120) }
    verbosity := num? (get j "debug")
    pictures := pictures }

def names : List (String × Json) := fields (get j "images")

end SetTop.Scene

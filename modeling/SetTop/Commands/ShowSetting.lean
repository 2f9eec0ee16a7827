import SetTop.Cli.Arguments
import SetTop.Config.Store

/-!
The program that prints one value of the configuration.
-/

namespace SetTop.ShowSetting

def help : String :=
"usage: stbt config [-h] section.key

Prints the value of the specified key from the stbt configuration file. See
'configuration' in the stbt(1) man page.

positional arguments:
  section.key  e.g. 'global.source_pipeline' or 'record.control_recorder'

options:
  -h, --help   show this help message and exit

Returns non-zero exit status if the specified key or section isn't found.
"

def grammar : Cli.Grammar :=
  { flags := [Cli.helpFlag], operands := [⟨"name", .one, .text⟩], help := help }

def die {α : Type} (message : String) : Act α := do
  complain ("stbt config: error: " ++ message ++ "\n")
  throw (.exit (.status 1))

def run (arguments : List String) : Act Unit := do
  let items ← Cli.read grammar arguments
  let name := (Cli.operands "name" items).headD ""
  match Text.cutLast? '.' name.toList with
  | none => die "'name' parameter must contain the section and key separated by a dot"
  | some (sectionName, key) =>
    match ← Act.attempt (Config.text (String.ofList sectionName) (String.ofList key)) with
    | .ok value => say (value ++ "\n")
    | .error (.failure .configuration message) => die message
    | .error e => throw e

end SetTop.ShowSetting

import SetTop.Remote.Basic

/-!
Offering any remote control as an infrared daemon.

The relay understands the line that asks to emit a key, has its own control press that
key, and answers as the daemon does.
-/

namespace SetTop.Relay

open Pattern

def commandPattern : Pattern :=
  sequence [text "SEND_ONCE ", group "ctrl" (oneOrMore .word), text " ",
    group "key" (oneOrMore .word)]

def command? (line : List Char) : Option String :=
  (commandPattern.matchStart line).bind (·.group? "key")

def response (request : String) (success : Bool) (data : String := "") : String :=
  let status := if success then "SUCCESS" else "ERROR"
  let lines := splitAtCharacter '\n' data
  let extra := if data.isEmpty then ""
    else "DATA\n" ++ toString lines.length ++ "\n" ++ joinText "\n" lines ++ "\n"
  "BEGIN\n" ++ request ++ "\n" ++ status ++ "\n" ++ extra ++ "END\n"

/-- Sends an answer. A client that has gone away is no error. -/
def respond (link : Nat) (request : String) (success : Bool) (data : String := "") : Act Unit := do
  match ← Act.attempt (Net.send link (response request success data)) with
  | .ok () => pure ()
  | .error e => if e.isOrdinary then pure () else throw e

def debug (text : String) : Act Unit := Log.debug ("stbt-control-relay: " ++ text)

def obey (remote : Remote) (link : Nat) (line : List Char) : Act Unit := do
  let line := Text.dropEndWhile (· == '\n') line
  let request := String.ofList line
  match command? line with
  | none => debug ("Ignoring invalid command: " ++ request)
  | some key =>
    debug ("Received " ++ key)
    match ← Act.attempt (remote.press (.name key)) with
    | .ok () => respond link request true
    | .error e =>
      if !e.isOrdinary then throw e
      debug ("Error pressing key " ++ quote key ++ ": " ++ e.describe)
      respond link request false e.text

/-- Serves clients one after the other; `fuel` bounds their number. -/
def serve (remote : Remote) : Nat → Act Unit
  | 0 => pure ()
  | fuel + 1 => do
    let (link, _) ← Net.accept
    (Text.lines (← Net.drain link)).forM (obey remote link)
    serve remote fuel

def help : String :=
"usage: stbt [-h] [--socket SOCKET] [-v] output

positional arguments:
  output           Remote control configuration to transmit on. Values are the
                   same as stbt run's --control.

options:
  -h, --help       show this help message and exit
  --socket SOCKET  LIRC socket to read remote control presses from (defaults
                   to /var/run/lirc/lircd).
  -v, --verbose    Enable debug output (specify twice to enable GStreamer
                   element dumps to ./stbt-debug directory)

Allows using any of the stbt remote control backends remotely using the lirc
protocol.

Presents the same socket protocol as lircd but sending keypresses using any of
stbt's controls.  This allows for example controlling a roku over its HTTP
interface from some software that only speaks lirc.

Example usage:

    $ stbt control-relay file:example

Listens on `/var/run/lirc/lircd` for lirc clients.  Keypress sent will be
written to the file example.  So

    $ irsend SEND_ONCE stbt KEY_UP

Will write the text \"KEY_UP\" to the file `example`.

    $ stbt control-relay --socket=lircd.sock roku:192.168.1.13

Listens on lircd.sock and will forward keypresses to the roku at 192.168.1.13
using its HTTP protocol.  So

    $ irsend -d lircd.sock SEND_ONCE stbt KEY_OK

Will press KEY_OK on the roku device.
"

def grammar : Cli.Grammar :=
  { flags := [Cli.helpFlag, ⟨"socket", ["--socket"], some .text⟩, Cli.verboseFlag]
    operands := [⟨"output", .one, .text⟩]
    help := help }

def run (arguments : List String) : Act Unit := do
  let (_, items) ← Log.readArguments grammar arguments
  note (.bind (.path ((Cli.value? "socket" items).getD Lirc.defaultSocket)))
  note (.listen 5)
  let remote ← Remote.ofUri ((Cli.operands "output" items).headD "")
  serve remote ((← bench).visitors.length + 1)

end SetTop.Relay

import SetTop.Session
import SetTop.Text.Pattern

/-!
Remote controls and recorders by address.

An address starts with the kind of control, followed by its settings between colons. The
kinds are tried in order. An address needs only start like one of a kind; what follows is
disregarded.
-/

namespace SetTop

open Pattern

def upTo (stops : String) : Pattern := oneOrMore (.except stops)

def digits : Pattern := oneOrMore .digit

def anything : Pattern := oneOrMore .any

def setting (name : String) (p : Pattern) : Pattern := sequence [text ":", group name p]

namespace RemoteUri

def error : Pattern := sequence [text "error", optional (setting "message" (many .any))]

def file : Pattern := sequence [text "file", optional (setting "filename" (upTo ","))]

def irBox : Pattern :=
  sequence [text "irnetbox", setting "hostname" (upTo ":"), optional (setting "port" digits),
    setting "output" digits, setting "config" (upTo ":")]

def lircHost : Pattern :=
  sequence [text "lirc", optional (setting "hostname" (upTo ":/")), setting "port" digits,
    setting "control_name" anything]

def lircSocket : Pattern :=
  sequence [text "lirc:", optional (group "lircd_socket" (upTo ":")),
    setting "control_name" anything]

def none : Pattern := text "none"

def roku : Pattern := sequence [text "roku", setting "hostname" (upTo ":")]

def samsung : Pattern :=
  sequence [text "samsung", setting "hostname" (upTo ":/"), optional (setting "port" digits)]

def test : Pattern := text "test"

def x11 : Pattern :=
  sequence [text "x11:", optional (group "display" (upTo ",")),
    optional (sequence [text ",", optional (group "mapping" anything)])]

def cec : Pattern :=
  sequence [text "hdmi-cec", optional (sequence [setting "device" (upTo ":"),
    optional (sequence [setting "source" (upTo ":"),
      optional (setting "destination" (upTo ":"))])])]

end RemoteUri

namespace RecorderUri

def file : Pattern := sequence [text "file://", group "filename" anything]

def console : Pattern := sequence [text "stbt-control", optional (setting "keymap_file" anything)]

end RecorderUri

/-- The first pattern of a table that an address starts with: what it stands for, and the
settings. -/
def findUri {α : Type} (table : List (Pattern × α)) (uri : String) (fold : Bool) :
    Option (α × Spot) :=
  table.findSome? fun (p, a) => ((if fold then p.caseless else p).matchStart uri.toList).map (a, ·)

def settingNumber (s : String) : Act Int :=
  match Number.readInt s with
  | .ok n => return n
  | .error e => failBelow .value (e.message s)

def settingNumberOr (default : Int) : Option String → Act Int
  | Option.none => return default
  | some s => settingNumber s

end SetTop

import SetTop.Console.Keyboard
import SetTop.Remote.Basic
import SetTop.Text.Fill

/-!
The program that presses remote control keys from the command line or the keyboard.
-/

namespace SetTop.Console

def keymapHelp : String :=
"Keymap File

    A keymap file stores the mappings between keyboard keys and remote control
    keys. One line of the file stores one key mapping in the following format:

            <keyboard key> <remote control key> [<display name>]

    <keyboard key> is an ASCII character or one of the following keywords:

            Space, Enter, Tab, Escape, Up, Down, Left, Right, Backspace,
            PageUp, PageDown, Home, End, Insert, Delete

    Be careful that keywords are case sensitive.

    <remote control key> is the same as in the command line arguments. It
    cannot contain white spaces.

    <display name> is an optional alias for <remote control key> to show in the
    on-screen keymap; e.g. \"m MENU Main Menu\" displays \"Main Menu\" but sends
    the \"MENU\" remote control key when \"m\" is pressed on the PC keyboard. It
    may consist of multiple words but cannot be longer than 15 characters.

    Comments start with '//' (double slash) and last until the end of line.

    Example keymap:

            m       MENU    Main Menu
            Enter   OK
            c       CLOSE   Close     // Go back to live TV

    The keymap file to use can be specified by:

    1. Passing the filename of the keymap to the --keymap=<filename> command
       line argument.
    2. Or setting the configuration value `control.keymap` to the filename of
       the keymap file
    3. Copying it into $XDG_CONFIG_PATH/stbt/control.conf (defaults to
       $HOME/.config/stbt/control.conf).
    "

def keymapFileHelp (defaultFile : String) : String :=
  let text := "Load keymap from KEYMAP file; defaults to " ++ defaultFile ++
    ". See `stbt control --help-keymap` for details."
  let lines := (Text.fill 56 text.toList).map String.ofList
  "  --keymap KEYMAP     " ++ joinText ("\n" ++ String.ofList (List.replicate 22 ' ')) lines ++ "\n"

def help (defaultFile : String) : String :=
"usage: stbt control [-h] [--help-keymap] [--keymap KEYMAP] [--control CONTROL]
                    [remote_control_key]

Send remote control signals using the PC keyboard or from the command line.

positional arguments:
  remote_control_key  The name of a remote control key as in the remote config
                      file (that is /etc/lirc/lircd.conf in case of a LIRC
                      control device). Specifying this argument sends
                      remote_control_key and exits. Omitting this argument
                      brings up the printed keymap.

options:
  -h, --help          show this help message and exit
  --help-keymap       Show description of the keymap file format and exit.
" ++ keymapFileHelp defaultFile ++
"  --control CONTROL   Equivalent to the --control parameter of `stbt run`. See
                      `man stbt` for available remote types and configuration.
"

def grammar (defaultFile : String) : Cli.Grammar :=
  { flags := [Cli.helpFlag, ⟨"help_keymap", ["--help-keymap"], none⟩,
      ⟨"keymap", ["--keymap"], some .text⟩, ⟨"control", ["--control"], some .text⟩]
    operands := [⟨"key", .optional, .text⟩]
    help := help defaultFile }

def pressTyped (remote : Remote) : Nat → Keyboard → Act Unit
  | 0, _ => pure ()
  | fuel + 1, k => do
    match ← k.next with
    | (none, _) => pure ()
    | (some key, k) =>
      remote.press (.name key)
      pressTyped remote fuel k

def run (arguments : List String) : Act Unit := do
  let defaultFile ← Keyboard.defaultFile
  let defaultControl ← Config.text "global" "control"
  let items ← Cli.read (grammar defaultFile) arguments
  if Cli.count "help_keymap" items > 0 then
    say (keymapHelp ++ "\n")
    throw (.exit .none)
  let control := (Cli.value? "control" items).getD defaultControl
  let remote ← Remote.ofUri control
  match Cli.operands "key" items with
  | key :: _ =>
    if key.isEmpty then typed control items defaultFile remote else remote.press (.name key)
  | [] => typed control items defaultFile remote
where
  typed (control : String) (items : List Cli.Item) (defaultFile : String) (remote : Remote) :
      Act Unit := do
    let k ← Keyboard.start control ((Cli.value? "keymap" items).getD defaultFile)
    pressTyped remote ((← bench).keys.length + 1) k

end SetTop.Console

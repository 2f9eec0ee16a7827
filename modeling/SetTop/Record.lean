import SetTop.Device.Basic
import SetTop.Remote.Recorder

/-!
Recording a test script.

Every key that is pressed on the recorder is pressed on the device too and written to the
script. Before the next key the screen is saved, and the script waits for it.
-/

namespace SetTop.Record

def heading : String := "import stbt\n\n\ndef test_that_WRITE_TESTCASE_DESCRIPTION_HERE():\n"

def pressLine (key : String) : String := "    stbt.press('" ++ key ++ "')\n"

def pictureName (count : Nat) (key : String) : String :=
  Number.padded 4 count ++ "-" ++ key ++ "-complete.png"

def waitLine (picture : String) : String := "    stbt.wait_for_match('" ++ picture ++ "')\n"

/-- Saves the screen after the key that was pressed last, and has the script wait for it. -/
def saveScreen (file : String) (count : Nat) (last : Option String) : Act Unit := do
  match last with
  | none => pure ()
  | some key =>
    let picture := pictureName count key
    let f ← Device.frame
    modifyBench fun b => { b with written := b.written ++ [(picture, f.image.shape)] }
    appendText file (waitLine picture)

def isInterrupt : Fault → Bool
  | .failure .keyboardInterrupt _ => true
  | .foreign .keyboardInterrupt _ => true
  | _ => false

def takeKey (d : Device) (file : String) (count : Nat) (last : Option String) (key : String) :
    Act Unit := do
  saveScreen file count last
  appendText file (pressLine key)
  d.press (.name key)

/-- Takes over keys until there are no more, or until someone asks to stop. Every key but the first
takes a frame. -/
def run (d : Device) (file : String) : Nat → Nat → Option String → Recorder → Act Unit
  | 0, count, last, _ => saveScreen file count last
  | fuel + 1, count, last, recorder => do
    match ← Act.attempt recorder.next with
    | .error e => if isInterrupt e then saveScreen file count last else throw e
    | .ok (none, _) => saveScreen file count last
    | .ok (some key, recorder) =>
      match ← Act.attempt (takeKey d file count last key) with
      | .ok () => run d file fuel (count + 1) (some key) recorder
      | .error e => if isInterrupt e then saveScreen file (count + 1) last else throw e

/-- Records a script from a recorder. Without video there is no use in starting. -/
def record (d : Device) (recorder file : String) : Act Unit := do
  let _ ← Device.frame
  appendText file heading
  match ← Act.attempt (Recorder.ofUri recorder) with
  | .error e => if isInterrupt e then saveScreen file 0 none else throw e
  | .ok r => run d file ((← bench).feed.length + 3) 0 none r

end SetTop.Record

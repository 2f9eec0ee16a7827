import SetTop.Logging

/-!
Keys of a remote control.
-/

namespace SetTop

/-- A key, by its name. Few controls know what to do with any other value. -/
inductive Key
  | name (s : String)
  | other (value : Json)

namespace Key

def toJson : Key → Json
  | .name s => .text s
  | .other v => v

def text (k : Key) : String := k.toJson.display

def quoted (k : Key) : String := k.toJson.literal

def asName : Key → Act String
  | .name s => return s
  | .other _ => failBelow .type

def lookup {α : Type} (table : List (String × α)) : Key → Act (Option α)
  | .name s => return table.lookup s
  | .other (.list _) | .other (.object _) => failBelow .type
  | .other _ => return none

/-- Reports that a key was pressed. Only names can be reported. -/
def reportPressed (k : Key) : Act Unit := do
  Log.debug ("Pressed " ++ (← k.asName))

end Key

end SetTop

import SetTop.Session

/-!
Showing videos on a television.

The only driver there is assumes that someone else shows the right video.
-/

namespace SetTop

inductive Television
  | assume
deriving DecidableEq

namespace Television

def ofDescription (description : String) : Except Fault Television :=
  if description == "assume" then .ok .assume
  else .error (.failure .runtime s!"Unknown video driver requested: {description}")

def play (t : Television) (video : String) : Act Unit :=
  match t with
  | .assume => complain s!"Assuming video {video} is playing\n"

def stop (t : Television) : Act Unit :=
  match t with
  | .assume => complain "Assuming videos are no longer playing\n"

def videoDirectory : Act String := do
  let root ← match (← lookupVariable "XDG_CACHE_HOME").filter (!·.isEmpty) with
    | some root => pure root
    | none => match ← lookupVariable "HOME" with
      | some home => pure (home ++ "/.cache")
      | none => failBelow .type
  return root ++ "/stbt/camera-video-cache"

end Television

end SetTop

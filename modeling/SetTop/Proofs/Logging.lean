import SetTop.Logging
import SetTop.Proofs.Act

/-!
Messages are no part of what a program does.

To tell something a program may first have to read its configuration, which can fail. Whether it
does or not, nothing changes but the messages, the level and the configuration as far as they are
known. Once the level is known, telling something does not fail any more.
-/

namespace SetTop

open Act

lemma Act.Moves.foldlM {α β : Type} {R : Session → Session → Prop} [Std.Refl R] [Trans R R R]
    {f : β → α → Act β} (hf : ∀ b x, Moves R (f b x)) (l : List α) (b : β) :
    Moves R (l.foldlM f b) := by
  induction l generalizing b with
  | nil => exact .pure b
  | cons x l ih => exact .bind (hf b x) ih

/-! ### Reading the configuration

Files and variables are only looked at, so that whatever the relation, nothing leaves it.
-/

section Reading

variable {R : Session → Session → Prop} [Std.Refl R] [Trans R R R]

lemma moves_lookupVariable (name : String) : Moves R (lookupVariable name) :=
  .bind .bench fun _ => .pure _

lemma moves_requiredVariable (name : String) : Moves R (requiredVariable name) := by
  refine .bind (moves_lookupVariable name) fun v => ?_
  cases v with
  | some v => exact .pure v
  | none => exact .throw _

lemma moves_wayTo (p : String) : Moves R (wayTo p) := .bind .bench fun _ => .ofExcept _

lemma moves_fileText (p : String) : Moves R (fileText p) := by
  refine .bind (.bind (moves_wayTo p) fun way => ?_) fun _ => .pure _
  exact .bind (.bind .bench fun _ => .pure _) fun _ => .ofExcept _

namespace Config

lemma moves_readInto (s : Settings) (file : String) : Moves R (readInto s file) := by
  refine .bind (.attempt (moves_fileText file)) fun r => ?_
  split
  · exact .ofExcept _
  · exact .pure _
  · exact .throw _

lemma moves_userFile : Moves R userFile := by
  refine .bind (.bind (moves_requiredVariable _) fun _ => ?_) fun _ => .pure _
  exact .bind (moves_lookupVariable _) fun _ => .pure _

lemma moves_customFiles : Moves R customFiles := .bind (moves_lookupVariable _) fun _ => .pure _

lemma moves_load : Moves R load :=
  .bind (.ofExcept _) fun base => .bind moves_userFile fun _ => .bind moves_customFiles fun _ =>
    .foldlM moves_readInto _ base

end Config

end Reading

/-- All stays as it was but messages, level and configuration. -/
def Aside (s s' : Session) : Prop :=
  ∃ settings verbosity err,
    s' = { s with settings := settings, verbosity := verbosity, bench := { s.bench with err := err } }

instance : Std.Refl Aside := ⟨fun _ => ⟨_, _, _, rfl⟩⟩

instance : Trans Aside Aside Aside where
  trans := by
    rintro _ _ _ ⟨_, _, _, rfl⟩ ⟨settings, verbosity, err, rfl⟩
    exact ⟨settings, verbosity, err, rfl⟩

namespace Config

lemma aside_current : Moves Aside current := by
  refine .bind .get fun s => ?_
  split
  · exact .pure _
  · exact .bind moves_load fun _ => .bind (fun _ => ⟨_, _, _, rfl⟩) fun _ => .pure _

lemma aside_getOr {α : Type} (reader : Reader α) (sectionName key : String) (default : Option α) :
    Moves Aside (getOr reader sectionName key default) := by
  refine .bind aside_current fun s => ?_
  split <;> split <;> exact .of_run fun _ => rfl

end Config

namespace Log

lemma aside_level : Moves Aside level := by
  refine .bind .get fun s => ?_
  split
  · exact .pure _
  · refine .bind (Config.aside_getOr _ _ _ _) fun _ => ?_
    exact .bind (fun _ => ⟨_, _, _, rfl⟩) fun _ => .pure _

variable (text : String)

lemma aside_message : Moves Aside (message text) :=
  .bind .get fun _ => fun _ => ⟨_, _, _, rfl⟩

lemma aside_debug : Moves Aside (debug text) :=
  .bind aside_level fun _ => .ite (aside_message text) (.pure ())

lemma aside_detail : Moves Aside (detail text) :=
  .bind aside_level fun _ => .ite (aside_message text) (.pure ())

lemma aside_warn : Moves Aside (warn text) := aside_message _

def Known (s : Session) : Prop := s.verbosity.isSome = true

def StaysKnown (s s' : Session) : Prop := Known s → Known s'

instance : Std.Refl StaysKnown := ⟨fun _ => id⟩

instance : Trans StaysKnown StaysKnown StaysKnown := ⟨fun h₁ h₂ h => h₂ (h₁ h)⟩

variable {s s' : Session}

lemma run_level_of_known (h : Known s) : ∃ v, level.run s = (.ok v, s) := by
  obtain ⟨v, hv⟩ := Option.isSome_iff_exists.1 h
  refine ⟨v, ?_⟩
  rw [level, bind_of_ok (run_get s), hv]
  rfl

lemma known_of_level {v : Num} (h : level.run s = (.ok v, s')) : Known s' := by
  rw [level, bind_of_ok (run_get s)] at h
  cases hv : s.verbosity with
  | some v =>
    rw [hv] at h
    obtain ⟨-, rfl⟩ := Prod.mk.inj h
    rw [Known, hv]
    rfl
  | none =>
    rw [hv] at h
    obtain ⟨_, s₁, -, h⟩ := bind_eq_ok h
    obtain ⟨-, rfl⟩ := Prod.mk.inj h
    rfl

lemma ok_warn (s : Session) : ((warn text).run s).1 = .ok () := rfl

def told (s : Session) (err : String) : Session := { s with bench := { s.bench with err := err } }

lemma run_debug (h : Known s) (text : String) : ∃ err, (debug text).run s = (.ok (), told s err) := by
  obtain ⟨v, hv⟩ := run_level_of_known h
  rw [debug, bind_of_ok hv]
  split
  · exact ⟨_, rfl⟩
  · exact ⟨_, rfl⟩

lemma ok_debug (h : Known s) (text : String) : ((debug text).run s).1 = .ok () := by
  obtain ⟨_, hrun⟩ := run_debug h text
  rw [hrun]

lemma ok_detail (h : Known s) (text : String) : ((detail text).run s).1 = .ok () := by
  obtain ⟨v, hv⟩ := run_level_of_known h
  rw [detail, bind_of_ok hv]
  split <;> rfl

lemma staysKnown_level : Moves StaysKnown level := by
  intro s h
  obtain ⟨v, hv⟩ := run_level_of_known h
  rw [hv]
  exact h

lemma staysKnown_message : Moves StaysKnown (message text) := fun _ h => h

lemma staysKnown_debug : Moves StaysKnown (debug text) :=
  .bind staysKnown_level fun _ => .ite (staysKnown_message text) (.pure ())

lemma staysKnown_detail : Moves StaysKnown (detail text) :=
  .bind staysKnown_level fun _ => .ite (staysKnown_message text) (.pure ())

lemma known_of_debug {text : String} (h : (debug text).run s = (.ok (), s')) : Known s' := by
  obtain ⟨v, s₁, hlevel, h⟩ := bind_eq_ok h
  have hmoves : Moves StaysKnown (if v.gt 0 then message text else pure ()) :=
    .ite (staysKnown_message text) (.pure ())
  exact hmoves.of_run_eq h (known_of_level hlevel)

end Log

/-- So little is to be told that no pictures are saved. -/
def Quiet (s : Session) : Prop := ∃ v, s.verbosity = some v ∧ v.gt 1 = false

namespace Quiet

variable {s : Session} (hs : Quiet s)

include hs

lemma run_level : ∃ v, Log.level.run s = (.ok v, s) ∧ v.gt 1 = false := by
  obtain ⟨v, hv, hgt⟩ := hs
  refine ⟨v, ?_, hgt⟩
  rw [Log.level, bind_of_ok (run_get s), hv]
  rfl

lemma run_detail (text : String) : (Log.detail text).run s = (.ok (), s) := by
  obtain ⟨v, hrun, hgt⟩ := hs.run_level
  rw [Log.detail, bind_of_ok hrun, hgt]
  rfl

lemma run_openAlbum (name : String) (facts : List (String × Json)) :
    (Log.openAlbum name facts).run s = (.ok none, s) := by
  obtain ⟨v, hrun, hgt⟩ := hs.run_level
  rw [Log.openAlbum, bind_of_ok hrun, hgt]
  rfl

lemma known : Log.Known s := by
  obtain ⟨v, hv, -⟩ := hs
  rw [Log.Known, hv]
  rfl

end Quiet

lemma Log.run_savePlain_none (name : String) (image : Image) (s : Session) :
    (Log.savePlain none name image).run s = (.ok (), s) := rfl

end SetTop

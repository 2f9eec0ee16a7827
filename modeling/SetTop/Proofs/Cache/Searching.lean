import SetTop.Proofs.Cache.Key
import SetTop.Proofs.Cache.Readers
import SetTop.Proofs.Logging

/-!
A search is its turns.

A search that saves no pictures tells nothing and changes nothing, and what it gives is a function
of the two pictures, of the parameters and of the number of levels that is configured
(`run_search`). That function is what a store stands in for. It does not look at the order of fields
in the parameters (`turn_sorted`).
-/

namespace SetTop

open Act MatchRun Cache Confirm Search

/-! ### Parameters and the order of fields -/

lemma Json.number?_sorted (j : Json) : j.sorted.number? = j.number? := by
  cases j <;> rfl

namespace MatchParameters

variable (p : MatchParameters)

lemma thresholdAt_sorted : p.sorted.thresholdAt = p.thresholdAt := by
  have hneed : p.matchThreshold.sorted.needNumber = p.matchThreshold.needNumber := by
    rw [Json.needNumber, Json.number?_sorted, Json.needNumber]
  funext level
  simp only [thresholdAt, sorted, hneed]

lemma confirmLimit_sorted : p.sorted.confirmLimit = p.confirmLimit := by
  simp only [confirmLimit, sorted]
  cases p.confirmThreshold <;> rfl

lemma passCount_sorted : p.sorted.passCount = p.passCount := by
  simp only [passCount, sorted, Json.number?_sorted]

end MatchParameters

namespace Findings

variable (levels : Except Fault Nat) (image template : Image) (p : MatchParameters)

lemma start_sorted : start levels image template p.sorted = start levels image template p := by
  unfold start
  rw [p.thresholdAt_sorted]
  rfl

lemma confirmMatch_sorted (r : Region) :
    confirmMatch image r template p.sorted = confirmMatch image r template p := by
  have hgrey (a b : Image) : compareGrey p.sorted a b = compareGrey p a b := by
    unfold compareGrey
    rw [p.confirmLimit_sorted, p.passCount_sorted]
  have hmethod : p.sorted.confirmMethod = p.confirmMethod := rfl
  simp only [confirmMatch, trace, hgrey, hmethod]

lemma isConfirmed_sorted (h : Hunt) :
    isConfirmed image template p.sorted h = isConfirmed image template p h := by
  rw [isConfirmed, isConfirmed, confirmMatch_sorted]

section Turns

variable {image template p} {h : Hunt} {confirmed : Bool}

lemma turnFrom_of_error {e : Fault} (hc : isConfirmed image template p h = .error e) (n : Nat) :
    turnFrom image template p n h = .refuse e := by
  rw [turnFrom, hc]

lemma turnFrom_succ (hc : isConfirmed image template p h = .ok confirmed) (n : Nat) :
    turnFrom image template p (n + 1) h =
      if confirmed then turnFrom image template p n h.next else .stop := by
  rw [turnFrom, hc]

end Turns

lemma turn_sorted : turn levels image template p.sorted = turn levels image template p := by
  have hfrom (n : Nat) (h : Hunt) :
      turnFrom image template p.sorted n h = turnFrom image template p n h := by
    induction n generalizing h with
    | zero => rw [turnFrom, isConfirmed_sorted, turnFrom]
    | succ n ih =>
      have hcheck := isConfirmed_sorted image template p h
      cases hc : isConfirmed image template p h with
      | error e => rw [turnFrom_of_error hc, turnFrom_of_error (hcheck.trans hc)]
      | ok confirmed => rw [turnFrom_succ hc, turnFrom_succ (hcheck.trans hc), ih]
  funext n
  simp only [turn, start_sorted, hfrom]

end Findings

/-! ### Searching without messages -/

namespace MatchRun

variable {s : Session}

lemma run_logStart (hs : Quiet s) (start : LevelStart) (count : Nat) :
    (logStart none start count).run s = (.ok (), s) := by
  obtain ⟨v, hrun, hgt⟩ := hs.run_level
  rw [logStart]
  rw [bind_of_ok (hs.run_detail _), bind_of_ok hrun, hgt]
  exact run_forM fun roi _ => hs.run_detail _

lemma run_saveLevel (start : LevelStart) (m : Heatmap) (s : Session) :
    (saveLevel none start m).run s = (.ok (), s) := rfl

lemma run_logReport (hs : Quiet s) (r : LevelReport) :
    (logReport none r).run s = (.ok (), s) := by
  rw [logReport, bind_of_ok (run_logStart hs _ _), bind_of_ok (run_saveLevel _ _ s),
    logBest, bind_of_ok (hs.run_detail _)]
  split <;> rfl

lemma run_logFirstPass (hs : Quiet s) (pass : Search.FirstPass) :
    (logFirstPass none pass).run s =
      (match pass.broken with
        | none => .ok ()
        | some b => .error b.fault, s) := by
  rw [logFirstPass, bind_of_ok (run_forM fun r _ => run_logReport hs r)]
  cases pass.broken with
  | none => rfl
  | some b =>
    rw [bind_of_ok (run_logStart hs _ _)]
    cases b.heatmap <;> rfl

end MatchRun

/-! ### What the configuration tells -/

/-- Once the configuration is known the action changes nothing, and what it gives depends on the
configuration alone. -/
def Told {α : Type} (settings : Settings) (a : Act α) : Prop :=
  ∃ r, ∀ s : Session, s.settings = some settings → a.run s = (r, s)

namespace Told

variable {α β : Type} {settings : Settings}

lemma of_run {a : Act α} {r : Except Fault α} (h : ∀ s, a.run s = (r, s)) : Told settings a :=
  ⟨r, fun s _ => h s⟩

lemma bind {a : Act α} {f : α → Act β} (ha : Told settings a) (hf : ∀ v, Told settings (f v)) :
    Told settings (a >>= f) := by
  obtain ⟨r, ha⟩ := ha
  cases r with
  | error e => exact ⟨.error e, fun s hs => bind_of_error (ha s hs)⟩
  | ok v =>
    obtain ⟨r, hf⟩ := hf v
    exact ⟨r, fun s hs => (bind_of_ok (ha s hs)).trans (hf s hs)⟩

lemma current : Told settings Config.current := by
  refine ⟨.ok settings, fun s hs => ?_⟩
  rw [Config.current, bind_of_ok (run_get s), hs]
  rfl

lemma getOr (reader : Config.Reader α) (sectionName key : String) (default : Option α) :
    Told settings (Config.getOr reader sectionName key default) := by
  refine current.bind fun s => ?_
  split <;> split <;> exact of_run fun _ => rfl

lemma levelCount : Told settings levelCount := by
  refine (getOr _ _ _ _).bind fun v => ?_
  split
  · split <;> exact of_run fun _ => rfl
  · exact of_run fun _ => rfl

end Told

def levelsIn (settings : Settings) : Except Fault Nat :=
  (levelCount.run { settings := some settings }).1

variable {settings : Settings} {s : Session} {image : Image}

lemma run_levelCount (hs : s.settings = some settings) :
    levelCount.run s = (levelsIn settings, s) := by
  obtain ⟨r, hr⟩ : Told settings levelCount := .levelCount
  rw [levelsIn, hr s hs, hr { settings := some settings } rfl]

lemma MatchRun.run_openHunt (hs : Quiet s) (hsettings : s.settings = some settings)
    (image template : Image) (p : MatchParameters) : (openHunt none image template p).run s =
      (Findings.start (levelsIn settings) image template p, s) := by
  rw [openHunt, Findings.start]
  cases hsizes : checkSizes image template with
  | error e => rfl
  | ok =>
    rw [bind_of_ok (run_ofExcept _ s), bind_of_ok (Log.run_savePlain_none _ _ s),
      bind_of_ok (Log.run_savePlain_none _ _ s), bind_of_ok (hs.run_detail _)]
    cases MatchMethod.ofName? p.matchMethod with
    | none => rfl
    | some method =>
      rw [run_bind, run_levelCount hsettings]
      cases hlevels : levelsIn settings with
      | error e => rfl
      | ok count =>
        change _ = (Findings.opened method template
          (firstPass method p.thresholdAt count image template), s)
        dsimp only
        rw [run_bind, run_logFirstPass hs]
        generalize firstPass method p.thresholdAt count image template = pass
        obtain ⟨reports, broken⟩ := pass
        cases broken with
        | some b => rfl
        | none =>
          dsimp only [Findings.opened]
          cases reports.getLast? <;> rfl

lemma MatchRun.run_guarded_of_ok {α : Type} {album : Option Nat} {a : Act α} {s' : Session} {v : α}
    (h : a.run s = (.ok v, s')) : (guarded album a).run s = (.ok v, s') := by
  rw [guarded, run_bind, run_attempt, h]
  rfl

lemma Findings.start_eq_ok {template : Image} {p : MatchParameters} {method : MatchMethod} {count : Nat}
    {r : LevelReport} (hsizes : checkSizes image template = .ok ())
    (hmethod : MatchMethod.ofName? p.matchMethod = some method)
    (hbroken : (firstPass method p.thresholdAt count image template).broken = none)
    (hlast : (firstPass method p.thresholdAt count image template).reports.getLast? =
      some r) : start (.ok count) image template p = .ok (.ofReport method template r) := by
  rw [start, hsizes, hmethod]
  change opened method template (firstPass method p.thresholdAt count image template) = _
  rw [opened, hbroken, hlast]

lemma MatchRun.run_start (hs : Quiet s) (hsettings : s.settings = some settings) {template : Template}
    {frame : Frame} {params : MatchParameters} {region : Option Region} {own part : Region} {hunt : Hunt}
    (hown : frame.image.region = .ok own) (hpart : Region.intersect (some own) region = some part)
    (hcrop : frame.image.crop (some part) = .ok image)
    (hhunt : Findings.start (levelsIn settings) image template.image params = .ok hunt) :
    (start template frame params region).run s =
      (.ok ⟨none, frame, part, image, template, params, hunt, 0⟩, s) := by
  rw [start, bind_of_ok (hs.run_openAlbum _ _), hown]
  refine run_guarded_of_ok ?_
  rw [hpart, hcrop]
  have hopen := run_openHunt hs hsettings image template.image params
  rw [hhunt] at hopen
  exact bind_of_ok hopen

lemma MatchRun.run_confirm_none (n : Nat) (image : Image) (c : Candidate) (template : Image)
    (p : MatchParameters) (s : Session) :
    (confirm none n image c template p).run s = (confirmMatch image c.region template p, s) := by
  rw [confirm, confirmMatch]
  generalize trace image c.region template p = trace
  rw [bind_of_ok (run_forM fun a _ => Log.run_savePlain_none _ _ s), run_ofExcept]

namespace Findings

variable {image template : Image} {p : MatchParameters} {s : Session}

lemma run_check (n : Nat) (h : Hunt) :
    (check image template p n h).run s = (isConfirmed image template p h, s) := by
  rw [check, isConfirmed]
  split
  · exact run_confirm_none ..
  · rfl

lemma run_collectFrom {limit k : Nat} {h : Hunt} {f : Nat → Turn}
    (hf : ∀ m, f (k + m) = turnFrom image template p m h) (found : List Json) (passed : List Nat) :
    (collectFrom image template p limit h found).run s =
      (.ok ((collectPlain f limit k found passed).1,
        (collectPlain f limit k found passed).2.2), s) := by
  induction limit generalizing k h found passed with
  | zero => rfl
  | succ limit ih =>
    have hk : f k = turnFrom image template p 0 h := hf 0
    rw [collectFrom, bind_of_ok (run_attempt _ s), run_check, collectPlain, hk]
    cases hc : isConfirmed image template p h with
    | error e =>
      rw [turnFrom_of_error hc]
      rfl
    | ok confirmed =>
      rw [turnFrom, hc]
      cases confirmed with
      | true =>
        refine ih (fun m => ?_) _ _
        rw [Nat.add_right_comm, Nat.add_assoc, hf (m + 1), turnFrom_succ hc]
        rfl
      | false =>
        -- The search has ended, and so it stops if it is asked once more.
        have hstop : f (k + 1) = .stop := (hf 1).trans (turnFrom_succ hc 0)
        cases limit with
        | zero => rfl
        | succ limit =>
          dsimp only
          rw [collectPlain, hstop]
          rfl

lemma run_search {settings : Settings} (hs : Quiet s) (hsettings : s.settings = some settings)
    (limit : Nat) : (search image template p limit).run s =
      (.ok (plainAnswer (turn (levelsIn settings) image template p) limit), s) := by
  cases limit with
  | zero => rfl
  | succ limit =>
    rw [search, bind_of_ok (run_attempt _ s), run_openHunt hs hsettings]
    cases hstart : start (levelsIn settings) image template p with
    | error e =>
      have hfirst : turn (levelsIn settings) image template p 0 = .refuse e := by rw [turn, hstart]
      rw [plainAnswer, collectPlain, hfirst]
      rfl
    | ok h =>
      refine run_collectFrom (fun m => ?_) [] []
      rw [turn, hstart, Nat.zero_add]

end Findings

end SetTop

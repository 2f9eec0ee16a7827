import Mathlib.Data.List.Induction
import SetTop.Proofs.Matching.Heatmap
import SetTop.Proofs.Video.Signals

/-!
What is drawn on which frame.

A history of what was asked for and of the frames that were pushed determines what is drawn on the
next frame and what is kept for later ones. The overlay drops what is over as it goes along; since
the times of the frames do not decrease, what was dropped would not be drawn anyway (`shown_kept`).
-/

namespace SetTop

open List SetTop.Num

namespace Num

open Number

variable {x y : Float} {t : Num}

lemma proper_ofFloat (x : Float) : (ofFloat x).Proper := by
  have hunpack : x.toModel.unpack = (Parts.ofBits x.toBits).unpacked := unpack_eq _
  rw [ofFloat]
  cases hparts : Parts.ofBits x.toBits with
  | nan => trivial
  | infinite negative => cases negative <;> trivial
  | finite negative d =>
    change x.toModel.unpack.isFinite = true
    rw [hunpack, hparts, Parts.unpacked]
    split <;> rfl

lemma proper_add (x : Float) (d : Num) : (real x + d).Proper := by
  cases d with
  | int | real => exact proper_ofFloat _
  | posInf | negInf | nan => trivial

lemma ge_mono (hx : x.isFinite = true) (hy : y.isFinite = true) (hle : x ≤ y) (ht : t.Proper)
    (h : (real x).ge t = true) : (real y).ge t = true :=
  (real_ge_iff hy ht).2 (((real_ge_iff hx ht).1 h).mono ((le_iff hx hy).1 hle))

lemma real_lt_iff (ht : t.Proper) : (real x).lt t = true ↔ t ≠ .nan ∧ (real x).ge t = false := by
  rw [lt, ge]
  cases t with
  | nan => simp [compare?]
  | posInf | negInf => simp [compare?]
  | int n =>
    rw [compare?]
    cases (compareIntFloat n x).swap <;> simp
  | real z =>
    rw [compare?]
    split
    · simp
    · split <;> simp

lemma lt_mono (hx : x.isFinite = true) (hy : y.isFinite = true) (hle : x ≤ y) (ht : t.Proper)
    (h : (real y).lt t = true) : (real x).lt t = true := by
  rw [real_lt_iff ht] at h ⊢
  refine ⟨h.1, Bool.eq_false_iff.2 fun hge => ?_⟩
  rw [ge_mono hx hy hle ht hge] at h
  cases h.2

end Num

namespace Overlay

/-- A text or a result is to be drawn, or a frame is pushed. -/
inductive Deed
  | caption (text : String) (duration : Num)
  | mark (time : Num) (region : Option Region) (label : String) (ok : Bool)
  | frame (time : Float)

/-- What can be asked for: durations that a time can be added to, and times that are numbers. -/
def Deed.IsPlain : Deed → Prop
  | .caption _ d => d.toFloat?.isSome = true
  | .mark time .. => time.Proper ∧ time ≠ .nan
  | .frame time => time.isFinite = true

def perform (o : Overlay) : Deed → Overlay
  | .caption text d => o.addCaption text (.number d)
  | .mark time region label ok => o.addMark (some time) region label ok
  | .frame t => (o.push (some (.real t))).2

/-- The overlay after a history. -/
def after (past : List Deed) : Overlay := past.foldl perform {}

/-- The times of the frames. -/
def frames (past : List Deed) : List Float :=
  past.filterMap fun | .frame t => some t | _ => none

/-- The frames come in the order of their times. -/
def IsHistory (past : List Deed) : Prop :=
  (∀ d ∈ past, d.IsPlain) ∧ (frames past).Pairwise (· ≤ ·)

/-! ### Captions -/

/-- The captions of a history. Each starts at the first frame after it. -/
def textsOf : List Deed → List Caption
  | [] => []
  | .caption text d :: later =>
    { text := text, duration := .number d, start := (frames later).head?.map .real } :: textsOf later
  | _ :: later => textsOf later

/-- Whether a frame comes before the end of a caption. -/
def showsAt (t : Float) (c : Caption) : Bool :=
  (real t).lt (c.start.getD (.real t) + c.duration.number?.getD 0)

variable {past : List Deed} {t : Float}

lemma frames_append (past later : List Deed) : frames (past ++ later) = frames past ++ frames later :=
  filterMap_append

lemma textsOf_append (past later : List Deed) : textsOf (past ++ later) =
    (textsOf past).map (fun c => { c with start := c.start.or ((frames later).head?.map .real) }) ++
      textsOf later := by
  induction past with
  | nil => rfl
  | cons d past ih =>
    cases d with
    | caption text d =>
      rw [cons_append, textsOf, textsOf, ih, frames_append, List.head?_append]
      cases (frames past).head? <;> rfl
    | mark | frame => exact ih

lemma isFinite_of_mem_frames {x : Float} (h : ∀ d ∈ past, d.IsPlain) (hx : x ∈ frames past) :
    x.isFinite = true := by
  obtain ⟨d, hd, hframe⟩ := mem_filterMap.1 hx
  cases d with
  | frame y =>
    cases hframe
    exact h _ hd
  | caption | mark => cases hframe

/-- A caption of a history: it starts at a frame, if at all, and has a duration. -/
structure IsText (c : Caption) : Prop where
  kept : c.isLost = false
  start : ∀ a ∈ c.start, ∃ x : Float, a = .real x ∧ x.isFinite = true
  duration : ∃ d : Num, c.duration = .number d ∧ d.toFloat?.isSome = true

lemma isText_of_mem {c : Caption} (h : ∀ d ∈ past, d.IsPlain) (hc : c ∈ textsOf past) :
    IsText c := by
  induction past with
  | nil => cases hc
  | cons d later ih =>
    obtain ⟨hd, hlater⟩ := forall_mem_cons.1 h
    cases d with
    | mark | frame => exact ih hlater hc
    | caption text d =>
      rcases mem_cons.1 hc with rfl | hc
      · refine ⟨rfl, fun a ha => ?_, d, rfl, hd⟩
        obtain ⟨x, hx, rfl⟩ := Option.map_eq_some_iff.1 ha
        exact ⟨x, rfl, isFinite_of_mem_frames hlater (mem_of_mem_head? hx)⟩
      · exact ih hlater hc

lemma isShown_eq {c : Caption} (hc : IsText c) (t : Float) :
    (c.started (some (.real t))).isShown (some (.real t)) =
      .ok (showsAt t (c.started (some (.real t)))) := by
  obtain ⟨hlost, hstart, d, hd, hfloat⟩ := hc
  rcases c with ⟨text, duration, start, lost⟩
  cases hlost
  cases hd
  have hplus (x : Float) : (real x).plus d = .ok (.real x + d) := by
    cases d with
    | int n =>
      change checked (if true && (int n).toFloat?.isSome then _ else none) = _
      rw [hfloat]
      rfl
    | real | posInf | negInf | nan => rfl
  have hshown (x : Float) : Caption.isShown (some (.real t)) ⟨text, .number d, some (.real x), false⟩ =
      .ok ((real t).lt (.real x + d)) := by
    change (plus (.real x) d >>= _) = _
    rw [hplus]
    rfl
  cases start with
  | none => exact hshown t
  | some a =>
    obtain ⟨x, rfl, -⟩ := hstart a rfl
    exact hshown x

lemma shownCaptions_eq {cs : List Caption} (h : ∀ c ∈ cs, IsText c) (t : Float) :
    shownCaptions (some (.real t)) cs =
      .ok ((cs.map (·.started (some (.real t)))).filter (showsAt t)) := by
  induction cs with
  | nil => rfl
  | cons c cs ih =>
    obtain ⟨hc, hcs⟩ := forall_mem_cons.1 h
    rw [shownCaptions, isShown_eq hc, ih hcs, map_cons, filter_cons]
    cases showsAt t (c.started (some (.real t))) <;> rfl

lemma showsAt_mono {c : Caption} {u : Float} (hc : IsText c) (hstart : c.start.isSome = true)
    (ht : t.isFinite = true) (hu : u.isFinite = true) (hle : t ≤ u) (h : showsAt u c = true) :
    showsAt t c = true := by
  obtain ⟨a, ha⟩ := Option.isSome_iff_exists.1 hstart
  obtain ⟨x, rfl, -⟩ := hc.start a ha
  rw [showsAt, ha] at h ⊢
  exact lt_mono ht hu hle (proper_add x _) h

/-! ### Marks -/

/-- Whether a frame has come as far as a time. -/
def reached (time : Num) (past : List Deed) : Bool := (frames past).any fun t => (real t).ge time

/-- The marks of a history that no frame after them has come to. -/
def pendingMarks : List Deed → List Mark
  | [] => []
  | .mark time region label ok :: later =>
    if time.isTrue && !reached time later
    then ⟨time, region, label, Mark.colourFor ok⟩ :: pendingMarks later else pendingMarks later
  | _ :: later => pendingMarks later

lemma pendingMarks_append (past later : List Deed) : pendingMarks (past ++ later) =
    (pendingMarks past).filter (fun m => !reached m.time later) ++ pendingMarks later := by
  induction past with
  | nil => rfl
  | cons d past ih =>
    cases d with
    | caption | frame => exact ih
    | mark time region label ok =>
      have hreached : reached time (past ++ later) = (reached time past || reached time later) := by
        rw [reached, frames_append, any_append]
        rfl
      rw [cons_append, pendingMarks, pendingMarks, hreached, ih]
      cases time.isTrue <;> cases reached time past <;> cases hlater : reached time later <;>
        simp [hlater]

/-! ### Histories -/

/-- What is kept of a history: the captions that have not come to their end, and the marks that no
frame has come to. -/
def kept (past : List Deed) : Overlay :=
  ⟨(textsOf past).filter fun c => c.start.isNone || (frames past).getLast?.all (showsAt · c),
    pendingMarks past⟩

lemma IsHistory.of_append {later : List Deed} (h : IsHistory (past ++ later)) : IsHistory past := by
  obtain ⟨hplain, htimes⟩ := h
  rw [frames_append] at htimes
  exact ⟨(forall_mem_append.1 hplain).1, (pairwise_append.1 htimes).1⟩

lemma shown_kept (h : IsHistory (past ++ [Deed.frame t])) :
    ((kept past).captions.map (·.started (some (.real t)))).filter (showsAt t) =
      (textsOf (past ++ [Deed.frame t])).filter (showsAt t) := by
  have htexts : textsOf (past ++ [Deed.frame t]) = (textsOf past).map (·.started (some (.real t))) := by
    rw [textsOf_append]
    refine (append_nil _).trans (map_congr_left fun c hc => ?_)
    have hlost := (isText_of_mem h.of_append.1 hc).kept
    rcases c with ⟨text, duration, start, lost⟩
    cases hlost
    cases start <;> rfl
  rw [htexts, kept, filter_map, filter_map, filter_filter]
  congr 1
  refine filter_congr fun c hc => ?_
  rw [Function.comp_apply, Bool.and_eq_left_iff_imp]
  intro hshown
  cases hstart : c.start with
  | none => rfl
  | some a =>
    have hcaption := isText_of_mem h.of_append.1 hc
    have hsame : c.started (some (.real t)) = c := by
      have hlost := hcaption.kept
      rcases c with ⟨text, duration, start, lost⟩
      cases hlost
      cases hstart
      rfl
    rw [hsame] at hshown
    rw [Option.isNone_some, Bool.false_or, Option.all_eq_true]
    intro u hu
    obtain ⟨hplain, htimes⟩ := h
    rw [frames_append] at htimes
    have hmem := mem_of_getLast? hu
    refine showsAt_mono hcaption (by rw [hstart]; rfl) (isFinite_of_mem_frames
      (forall_mem_append.1 hplain).1 hmem) ?_ ?_ hshown
    · exact hplain _ (mem_append_right _ (mem_singleton_self _))
    · exact (pairwise_append.1 htimes).2.2 u hmem t (mem_singleton_self t)

lemma captions_kept_frame (past : List Deed) (t : Float) :
    (kept (past ++ [Deed.frame t])).captions = (textsOf (past ++ [Deed.frame t])).filter (showsAt t) := by
  rw [kept]
  refine filter_congr fun c hc => ?_
  have hstart : c.start.isNone = false := by
    rw [textsOf_append] at hc
    obtain ⟨b, -, rfl⟩ := mem_map.1 ((append_nil _) ▸ hc)
    cases hb : b.start <;> simp [frames]
  rw [hstart]
  simp [frames]

lemma push_kept (h : IsHistory (past ++ [Deed.frame t])) : (kept past).push (some (.real t)) =
    (.ok ((textsOf (past ++ [Deed.frame t])).filter (showsAt t),
      (pendingMarks past).filter (·.time.eq (.real t))), kept (past ++ [Deed.frame t])) := by
  have hcaptions (c : Caption) (hc : c ∈ (kept past).captions) : IsText c :=
    isText_of_mem h.of_append.1 (mem_of_mem_filter hc)
  have hmarks : laterMarks (.real t) (pendingMarks past) = pendingMarks (past ++ [Deed.frame t]) := by
    rw [pendingMarks_append]
    refine (filter_congr fun m _ => ?_).trans (append_nil _).symm
    rw [reached]
    simp [frames]
  rw [push, shownCaptions_eq hcaptions, shown_kept h]
  change (_, Overlay.mk _ (laterMarks _ (pendingMarks past))) = _
  rw [hmarks, ← captions_kept_frame]
  rfl

lemma after_eq (h : IsHistory past) : after past = kept past := by
  induction past using List.reverseRecOn with
  | nil => rfl
  | append_singleton past d ih =>
    rw [after, foldl_concat]
    change perform (after past) d = _
    rw [ih h.of_append]
    cases d with
    | caption text d =>
      simp [perform, addCaption, kept, textsOf_append, pendingMarks_append, frames, textsOf,
        pendingMarks, reached]
    | mark time region label ok =>
      simp [perform, addMark, kept, textsOf_append, pendingMarks_append, frames, textsOf,
        pendingMarks, reached]
      split <;> simp
    | frame t => rw [perform, push_kept h]

open Display

/-- The overlay of the session's display is the one after a history. -/
def Holds (past : List Deed) (s : Session) : Prop := s.display.map (·.overlay) = some (after past)

variable {s : Session} {d : Display} {x : Sample}

lemma run_change (hd : s.display = some d) (f : Display → Display) :
    (Display.change f).run s = (.ok (), { s with display := some (f d) }) := by
  change (Except.ok (), { s with display := s.display.map f }) = _
  rw [hd]
  rfl

/-- A text is over, a mark is due and another text is new. -/
def rehearsal : List Deed :=
  [.caption "a" 1, .frame 1, .mark (.real 2) none "m" true, .caption "b" 3]

def rehearsed : Session :=
  { display := some
      { source := { description := "", restarts := false }, made := 0, overlay := after rehearsal } }

end Overlay

end SetTop

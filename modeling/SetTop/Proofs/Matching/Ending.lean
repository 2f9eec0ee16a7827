import SetTop.Proofs.Matching.Closest
import SetTop.Proofs.Matching.Hidden

/-!
How a search ends.

A search delivers results that match and then one that does not. It comes to that one because each
result that matches closes a position that was open (`MatchRun.countP_matched_le`). Where hidden
places reach the threshold nothing is closed, and a search that finds something there goes on for as
long as its candidates are confirmed.
-/

namespace SetTop

open Act Hunt MatchResult List

/-! ### Confirmation -/

namespace Confirm

variable {p : MatchParameters} {limit : Int} {passes h w : Nat} {a : Image}

lemma compareGrey_ok {b : Image} (hlimit : p.confirmLimit = .ok limit)
    (hpasses : p.passCount = .ok passes) (ha : a.IsGrey h w) (hb : b.IsGrey h w) :
    ∃ confirmed, (compareGrey p a b).2 = .ok confirmed := by
  obtain ⟨c, hc, -, -⟩ := ha.exists_combine hb Image.distance
  refine ⟨!((c.threshold limit).erode passes).hasInk, ?_⟩
  rw [compareGrey, Image.absoluteDifference, hc, hlimit, hpasses]
  rfl

lemma normalize_ok (ha : a.IsGrey h w) (hh : 0 < h) (hw : 0 < w) :
    ∃ b, a.normalize = .ok b ∧ b.IsGrey h w := by
  have hsize : ¬a.values.isEmpty = true := by
    rw [Array.isEmpty_iff_size_eq_zero, ha.filled, ha.height, ha.width, ha.depth_eq, Nat.mul_one]
    exact Nat.ne_of_gt (Nat.mul_pos hh hw)
  rw [Image.normalize, if_neg hsize]
  exact ⟨_, rfl, ha.map _⟩

lemma exists_trace {image window template : Image} {region : Region}
    (hlimit : p.confirmLimit = .ok limit) (hpasses : p.passCount = .ok passes)
    (hwindow : image.sliceRegion region = .ok window) (hchannels : window.channels = some 3)
    (htemplate : template.channels = some 3) (hheight : window.height = template.height)
    (hwidth : window.width = template.width) (hrows : 0 < template.height)
    (hcolumns : 0 < template.width) :
    ∃ confirmed, (trace image region template p).2 = .ok confirmed := by
  obtain ⟨a, ha⟩ : ∃ a, window.grey = .ok a := ⟨_, if_pos hchannels⟩
  obtain ⟨b, hb⟩ : ∃ b, template.grey = .ok b := ⟨_, if_pos htemplate⟩
  have hgrey : a.IsGrey template.height template.width := hheight ▸ hwidth ▸ Image.grey_eq_ok ha
  have hgrey' := Image.grey_eq_ok hb
  simp only [trace, hwindow, ha, hb, bind, Except.bind, pure, Except.pure]
  split
  · exact ⟨true, rfl⟩
  · split
    · obtain ⟨a', ha', hgreyA⟩ := normalize_ok hgrey hrows hcolumns
      obtain ⟨b', hb', hgreyB⟩ := normalize_ok hgrey' hrows hcolumns
      simp only [ha', hb']
      exact compareGrey_ok hlimit hpasses hgreyA hgreyB
    · exact compareGrey_ok hlimit hpasses hgrey hgrey'

end Confirm

lemma exists_confirmMatch {image template : Image} {p : MatchParameters} {y x : Nat}
    (hconfirm : p.confirmMethod = "none" ∨
      (∃ limit, p.confirmLimit = .ok limit) ∧ ∃ passes, p.passCount = .ok passes)
    (hchannels : image.channels = some 3) (htemplate : template.channels = some 3)
    (hheight : 0 < template.height) (hwidth : 0 < template.width)
    (hy : y + template.height ≤ image.height) (hx : x + template.width ≤ image.width) :
    ∃ confirmed, confirmMatch image (.ofInts x y (x + template.width) (y + template.height))
      template p = .ok confirmed := by
  rcases hconfirm with hnone | ⟨⟨limit, hlimit⟩, passes, hpasses⟩
  · exact ⟨true, by rw [confirmMatch, Confirm.trace, hnone]; rfl⟩
  have hextent {n a len : Nat} (hle : a + len ≤ n) :
      (Image.interval n (a, a + len)).2 = len := by
    rw [Image.interval_eq (by omega)]
    exact Nat.min_eq_left (by omega)
  have hwindow : image.sliceRegion (.ofInts x y (x + template.width) (y + template.height)) =
      .ok (image.slice (y, y + template.height)
        (x, x + template.width)) := rfl
  exact Confirm.exists_trace hlimit hpasses hwindow hchannels htemplate (hextent hy) (hextent hx)
    hheight hwidth

lemma Hunt.Within.laid {h : Hunt} {height width : Nat} (hw : h.Within height width)
    (hlevel : h.level = 0) : h.Laid :=
  ⟨hlevel, hw.width_pos, hw.height_pos, hw.rows, hw.columns, hw.filled, hw.best⟩

namespace MatchRun

/-! ### Order and number of the results -/

/-- Results in order, of which at most so many are wanted: all match, but for the last one of a
search that has ended. -/
def Orderly (limit : Nat) (rs : List MatchResult) : Standing → Prop
  | .underWay => rs.length = limit ∧ ∀ r ∈ rs, r.matched = true
  | .ended => ∃ found last, rs = found ++ [last] ∧ (∀ r ∈ found, r.matched = true) ∧
      last.matched = false
  | .failed _ => ∀ r ∈ rs, r.matched = true

variable {limit : Nat} {rs : List MatchResult} {standing : Standing} {announce : MatchResult → Act Unit}
  {run : MatchRun} {s s' : Session}

lemma Orderly.cons (h : Orderly limit rs standing) {r : MatchResult} (hr : r.matched = true) :
    Orderly (limit + 1) (r :: rs) standing := by
  cases standing with
  | underWay => exact ⟨congrArg (· + 1) h.1, forall_mem_cons.2 ⟨hr, h.2⟩⟩
  | ended =>
    obtain ⟨found, last, rfl, hfound, hlast⟩ := h
    exact ⟨r :: found, last, rfl, forall_mem_cons.2 ⟨hr, hfound⟩, hlast⟩
  | failed e => exact forall_mem_cons.2 ⟨hr, h⟩

lemma exists_results (announce : MatchResult → Act Unit) (limit : Nat) (run : MatchRun)
    (s : Session) :
    ∃ rs standing s', (run.results announce limit).run s = (.ok (rs, standing), s') := by
  induction limit generalizing run s with
  | zero => exact ⟨[], .underWay, s, rfl⟩
  | succ limit ih =>
    rw [results, run_bind, run_attempt]
    rcases (run.step announce).run s with ⟨e | ⟨result, rest⟩, s₁⟩
    · exact ⟨_, _, _, rfl⟩
    · cases rest with
      | none => exact ⟨_, _, _, rfl⟩
      | some run' =>
        dsimp only
        rw [run_bind, run_attempt]
        rcases (guarded run'.album run'.advance).run s₁ with ⟨e | run'', s₂⟩
        · exact ⟨_, _, _, rfl⟩
        · obtain ⟨rs, standing, s₃, hrs⟩ := ih run'' s₂
          dsimp only
          rw [bind_of_ok hrs]
          exact ⟨_, _, _, rfl⟩

lemma orderly_results (h : (run.results announce limit).run s = (.ok (rs, standing), s')) :
    Orderly limit rs standing := by
  refine results_induction (motive := fun limit _ rs standing => Orderly limit rs standing)
    ?_ ?_ ?_ ?_ ?_ h
  · exact fun _ => ⟨rfl, by simp⟩
  · exact fun _ _ _ => by simp [Orderly]
  · exact fun _ _ result _ _ _ hmatched => ⟨[], result, rfl, by simp, hmatched⟩
  · exact fun _ _ _ _ _ _ _ hmatched => by simpa [Orderly] using hmatched
  · exact fun _ _ _ _ _ _ _ _ _ hmatched _ _ ih => ih.cons hmatched

lemma countP_matched_le (hl : run.hunt.Laid) (hselects : run.hunt.method.Selects run.hunt.threshold)
    (h : (run.results announce limit).run s = (.ok (rs, standing), s')) :
    rs.countP matched ≤ run.hunt.openCount := by
  have hopen {run : MatchRun} {result : MatchResult} {s s' : Session} {rest : Option MatchRun}
      (hl : run.hunt.Laid) (hselects : run.hunt.method.Selects run.hunt.threshold)
      (hstep : (run.step announce).run s = (.ok (result, rest), s'))
      (hmatched : result.matched = true) : run.hunt.next.openCount < run.hunt.openCount := by
    obtain ⟨y, x, ht⟩ := hl.exists_takes
    exact ht.openCount_next_lt hl hselects ((step_eq_ok hstep).1 hmatched)
  refine results_induction (motive := fun _ run rs _ => run.hunt.Laid →
    run.hunt.method.Selects run.hunt.threshold → rs.countP matched ≤ run.hunt.openCount)
    ?_ ?_ ?_ ?_ ?_ h hl hselects
  · simp
  · simp
  · intro limit run result s s' _ hmatched _ _
    simp [hmatched]
  · intro limit run result e s s' hstep hmatched hl hselects
    have hlt := hopen hl hselects hstep hmatched
    rw [countP_cons_of_pos hmatched]
    exact Nat.le_trans (Nat.succ_pos _) hlt
  · intro limit run run' result rs standing s s' hstep hmatched _ hhunt ih hl hselects
    have hlt := hopen hl hselects hstep hmatched
    have hle := ih (hhunt ▸ hl.next) (hhunt ▸ hselects)
    rw [hhunt] at hle
    rw [countP_cons_of_pos hmatched]
    omega

/-! ### A search that saves no pictures -/

def Harmless (announce : MatchResult → Act Unit) : Prop :=
  ∀ r s, Quiet s → ∃ s', (announce r).run s = (.ok (), s') ∧ Quiet s'

/-- So many results match, then one does not, and that is all. -/
def EndsAfter (run : MatchRun) (announce : MatchResult → Act Unit) (s : Session) (n : Nat) : Prop :=
  ∃ found last s', found.length = n ∧ (∀ r ∈ found, r.matched = true) ∧ last.matched = false ∧
    ∀ limit, n < limit → (run.results announce limit).run s = (.ok (found ++ [last], .ended), s')

/-- However many results are wanted, there are that many, and all match. -/
def Endless (run : MatchRun) (announce : MatchResult → Act Unit) (s : Session) : Prop :=
  ∀ limit, ∃ rs s', (run.results announce limit).run s = (.ok (rs, .underWay), s') ∧
    rs.length = limit ∧ ∀ r ∈ rs, r.matched = true

/-- A search that is under way, saves no pictures and can go on. -/
structure Going (run : MatchRun) (level : Nat) (x y : Int) : Prop where
  searches : run.Searches level x y run.image.height run.image.width run.template.image
  largest : run.hunt.best.matched = true → level = 0
  album : run.album = none
  channels : run.image.channels = some 3
  template : run.template.image.channels = some 3
  confirm : run.params.confirmMethod = "none" ∨
    (∃ limit, run.params.confirmLimit = .ok limit) ∧ ∃ passes, run.params.passCount = .ok passes

def advanced (run : MatchRun) : MatchRun :=
  { run with hunt := run.hunt.next, index := run.index + 1 }

lemma run_advance (run : MatchRun) (hs : Quiet s) :
    (guarded run.album run.advance).run s = (.ok run.advanced, s) := by
  refine run_guarded_of_ok ?_
  rw [advance, logBest, bind_of_ok (hs.run_detail _)]
  rfl

def ahead (run : MatchRun) : Nat → MatchRun
  | 0 => run
  | n + 1 => run.advanced.ahead n

lemma ahead_spec (run : MatchRun) (n : Nat) :
    (run.ahead n).hunt = run.hunt.after n ∧ (run.ahead n).image = run.image ∧
      (run.ahead n).template = run.template ∧ (run.ahead n).params = run.params := by
  induction n generalizing run with
  | zero => exact ⟨rfl, rfl, rfl, rfl⟩
  | succ n ih => exact ih run.advanced

def confirmed (run : MatchRun) : Except Fault Bool :=
  Findings.isConfirmed run.image run.template.image run.params run.hunt

lemma confirmed_ahead_iff (run : MatchRun) (k : Nat) :
    (run.ahead k).confirmed = .ok true ↔ (run.hunt.after k).best.matched = true ∧
      confirmMatch run.image (run.hunt.after k).candidate.region run.template.image run.params =
        .ok true := by
  obtain ⟨hhunt, himage, htemplate, hparams⟩ := run.ahead_spec k
  rw [confirmed, Findings.isConfirmed, hhunt, himage, htemplate, hparams]
  split
  · next hmatched => exact ⟨fun h => ⟨hmatched, h⟩, And.right⟩
  · next hmatched =>
    refine ⟨fun h => ?_, fun h => absurd h.1 hmatched⟩
    cases h

lemma EndsAfter.not_endless {n : Nat} (h : run.EndsAfter announce s n) : ¬run.Endless announce s := by
  intro hendless
  obtain ⟨found, last, s', -, -, -, hends⟩ := h
  obtain ⟨rs, s'', hrs, -⟩ := hendless (n + 1)
  rw [hends (n + 1) (Nat.lt_succ_self n)] at hrs
  cases hrs

namespace Going

variable {level : Nat} {x y : Int} (hg : run.Going level x y)

include hg

lemma advanced (hmatched : run.hunt.best.matched = true) :
    run.advanced.Going level x y where
  searches := hg.searches.next rfl rfl
  largest := fun _ => hg.largest hmatched
  album := hg.album
  channels := hg.channels
  template := hg.template
  confirm := hg.confirm

lemma exists_confirmed : ∃ b, run.confirmed = .ok b := by
  rw [confirmed, Findings.isConfirmed]
  split
  · next hmatched =>
    obtain ⟨y', x', -, hregion, hdown, hright⟩ := hg.searches.within.exists_candidate_region
    have hlevel : run.hunt.level = 0 := hg.searches.level.trans (hg.largest hmatched)
    rw [hlevel, roundedUp_zero, roundedUp_zero, hg.searches.height] at hdown
    rw [hlevel, roundedUp_zero, roundedUp_zero, hg.searches.width] at hright
    rw [hlevel, hg.searches.width, hg.searches.height] at hregion
    have hwidth := hg.searches.width ▸ hg.searches.within.width_pos
    have hheight := hg.searches.height ▸ hg.searches.within.height_pos
    rw [hregion]
    exact exists_confirmMatch hg.confirm hg.channels hg.template hheight hwidth hdown hright
  · exact ⟨false, rfl⟩

lemma exists_region :
    ∃ region, run.hunt.candidate.region.translate run.origin.x run.origin.y = .ok region := by
  obtain ⟨y', x', -, hregion, -⟩ := hg.searches.within.exists_candidate_region
  have hw := hg.searches.within.width_pos
  have hh := hg.searches.within.height_pos
  rw [hg.searches.origin]
  exact ⟨_, Region.translate_ofInts (by omega) (by omega) x y⟩

variable (hannounce : Harmless announce) (hs : Quiet s)

include hannounce hs

lemma exists_step {b : Bool} (hb : run.confirmed = .ok b) :
    ∃ result s', (run.step announce).run s = (.ok (result, if b then some run else none), s') ∧
      result.matched = b ∧ Quiet s' := by
  obtain ⟨region, hregion⟩ := hg.exists_region
  obtain ⟨s', htold, hs'⟩ := hannounce (run.resultAt b region) s hs
  exact ⟨_, s', run_step run hg.album hb hregion htold, rfl, hs'⟩

lemma endsAfter_zero (hb : run.confirmed = .ok false) : run.EndsAfter announce s 0 := by
  obtain ⟨result, s', hstep, hmatched, -⟩ := hg.exists_step hannounce hs hb
  refine ⟨[], result, s', rfl, by simp, hmatched, fun limit hlimit => ?_⟩
  obtain ⟨limit, rfl⟩ : ∃ k, limit = k + 1 := ⟨limit - 1, by omega⟩
  rw [results, run_bind, run_attempt, hstep]
  rfl

lemma results_goesOn (hb : run.confirmed = .ok true) :
    ∃ result s', result.matched = true ∧ Quiet s' ∧ ∀ limit rs standing s'',
      (run.advanced.results announce limit).run s' = (.ok (rs, standing), s'') →
      (run.results announce (limit + 1)).run s = (.ok (result :: rs, standing), s'') := by
  obtain ⟨result, s', hstep, hmatched, hs'⟩ := hg.exists_step hannounce hs hb
  refine ⟨result, s', hmatched, hs', fun limit rs standing s'' hrest => ?_⟩
  rw [if_pos rfl] at hstep
  rw [results, run_bind, run_attempt, hstep]
  dsimp only
  rw [run_bind, run_attempt, run_advance run hs']
  dsimp only
  rw [bind_of_ok hrest]
  rfl

lemma endsAfter_or (n : Nat) :
    (∃ m, run.EndsAfter announce s m) ∨ ∀ k, k ≤ n → (run.ahead k).confirmed = .ok true := by
  induction n generalizing run s with
  | zero =>
    obtain ⟨b, hb⟩ := hg.exists_confirmed
    cases b with
    | false => exact .inl ⟨0, hg.endsAfter_zero hannounce hs hb⟩
    | true =>
      refine .inr fun k hk => ?_
      rw [Nat.le_zero.1 hk]
      exact hb
  | succ n ih =>
    obtain ⟨b, hb⟩ := hg.exists_confirmed
    cases b with
    | false => exact .inl ⟨0, hg.endsAfter_zero hannounce hs hb⟩
    | true =>
      obtain ⟨result, s', hmatched, hs', hrest⟩ := hg.results_goesOn hannounce hs hb
      rcases ih (hg.advanced ((run.confirmed_ahead_iff 0).1 hb).1) hs' with ⟨m, hends⟩ | hall
      · obtain ⟨found, last, s'', hlength, hfound, hlast, hends⟩ := hends
        refine .inl ⟨m + 1, result :: found, last, s'', congrArg (· + 1) hlength,
          forall_mem_cons.2 ⟨hmatched, hfound⟩, hlast, fun limit hlimit => ?_⟩
        obtain ⟨limit, rfl⟩ : ∃ k, limit = k + 1 := ⟨limit - 1, by omega⟩
        exact hrest limit _ _ _ (hends limit (by omega))
      · refine .inr fun k hk => ?_
        cases k with
        | zero => exact hb
        | succ k => exact hall k (by omega)

lemma endless_of_confirmed (hall : ∀ k, (run.ahead k).confirmed = .ok true) :
    run.Endless announce s := by
  intro limit
  induction limit generalizing run s with
  | zero => exact ⟨[], s, rfl, rfl, by simp⟩
  | succ limit ih =>
    have hb : run.confirmed = .ok true := hall 0
    obtain ⟨result, s', hmatched, hs', hrest⟩ := hg.results_goesOn hannounce hs hb
    obtain ⟨rs, s'', hrs, hlength, hfound⟩ :=
      ih (hg.advanced ((run.confirmed_ahead_iff 0).1 hb).1) hs' fun k => hall (k + 1)
    exact ⟨result :: rs, s'', hrest limit _ _ _ hrs, congrArg (· + 1) hlength,
      forall_mem_cons.2 ⟨hmatched, hfound⟩⟩

lemma endless_iff : run.Endless announce s ↔ ∀ k, (run.ahead k).confirmed = .ok true := by
  refine ⟨fun hendless k => ?_, hg.endless_of_confirmed hannounce hs⟩
  rcases hg.endsAfter_or hannounce hs k with ⟨m, hends⟩ | hall
  · exact absurd hendless hends.not_endless
  · exact hall k (Nat.le_refl k)

lemma endsAfter_or_endless : (∃ n, run.EndsAfter announce s n) ∨ run.Endless announce s := by
  by_contra hneither
  push Not at hneither
  obtain ⟨hends, hendless⟩ := hneither
  rw [hg.endless_iff hannounce hs] at hendless
  refine hendless fun k => ?_
  rcases hg.endsAfter_or hannounce hs k with ⟨m, hm⟩ | hall
  · exact absurd hm (hends m)
  · exact hall k (Nat.le_refl k)

end Going

/-! ### From the start on -/

/-- A colour template with room in the part of a colour frame that lies inside a region, which has
the given edges. -/
structure HasRoom (template : Template) (frame : Frame) (region : Option Region)
    (x y right bottom : Int) : Prop where
  channels : template.image.channels = some 3
  element : template.image.element = .byte
  height : 0 < template.image.height
  width : 0 < template.image.width
  frame_channels : frame.image.channels = some 3
  part : ∃ own, frame.image.region = .ok own ∧
    Region.intersect (some own) region = some (.ofInts x y right bottom)
  rows : y + template.image.height ≤ bottom
  columns : x + template.image.width ≤ right

def positions (template : Image) (x y right bottom : Int) : Nat :=
  ((bottom - y).toNat - template.height + 1) * ((right - x).toNat - template.width + 1)

section Start

variable {template : Template} {frame : Frame} {params : MatchParameters} {region : Option Region}
  {x y right bottom : Int} {t : Num} {run : MatchRun} {s s' : Session}

lemma checkSizes_eq_ok {image template : Image} (hfits : Heatmap.Fits image template)
    (hheight : 0 < template.height) (hwidth : 0 < template.width)
    (hchannels : template.channels = some 3) (helement : template.element = .byte) :
    checkSizes image template = .ok () := by
  have hlarge : ¬(image.height < template.height || image.width < template.width) = true := by
    have hrows := hfits.height
    have hcolumns := hfits.width
    simp
    omega
  have hdata : ¬(template.height < 1 || template.width < 1) = true := by
    simp
    omega
  rw [checkSizes, if_neg hlarge, if_neg hdata, if_neg (not_not.2 hchannels),
    if_neg (not_not.2 helement)]
  rfl

variable (hroom : HasRoom template frame region x y right bottom) (hp : params.Documented t)

include hroom hp in
lemma exists_start {settings : Settings} {count : Nat} (hs : Quiet s)
    (hsettings : s.settings = some settings) (hlevels : levelsIn settings = .ok count) :
    ∃ run, (start template frame params region).run s = (.ok run, s) ∧
      run.album = none ∧ run.template = template ∧ run.params = params := by
  obtain ⟨own, hown, hpart⟩ := hroom.part
  obtain ⟨image, hcrop, hheight, hwidth, hchannels⟩ := Image.exists_crop hown hpart
  have hfits : Heatmap.Fits image template.image := by
    have hrows := hroom.rows
    have hcolumns := hroom.columns
    exact ⟨by rw [hchannels, hroom.frame_channels, hroom.channels], by omega, by omega⟩
  obtain ⟨method, hmethod, -⟩ := hp.exists_method
  obtain ⟨hbroken, r, hlast⟩ :=
    Search.exists_last_report method hp.exists_thresholdAt hfits count
  have hsizes := checkSizes_eq_ok hfits hroom.height hroom.width hroom.channels hroom.element
  have hhunt := Findings.start_eq_ok hsizes hmethod hbroken hlast
  rw [← hlevels] at hhunt
  exact ⟨_, run_start hs hsettings hown hpart hcrop hhunt, rfl, rfl, rfl⟩

lemma start_method (hstart : (start template frame params region).run s = (.ok run, s')) :
    MatchMethod.ofName? params.matchMethod = some run.hunt.method ∧
      params.thresholdAt run.hunt.level = .ok run.hunt.threshold := by
  obtain ⟨own, -, -, -, -, method, count, r, hmethod, -, hlast, hhunt⟩ := start_eq_ok hstart
  obtain ⟨-, -, hthreshold, -⟩ := Search.mem_reports_descend (mem_of_getLast? hlast)
  rw [hhunt]
  exact ⟨hmethod, hthreshold⟩

lemma start_threshold (hp : params.Documented t)
    (hstart : (start template frame params region).run s = (.ok run, s'))
    (hlevel : run.hunt.level = 0) :
    (run.hunt.method = .squaredDifference ↔ params.matchMethod = "sqdiff-normed") ∧
      run.hunt.threshold.Proper ∧ (t.gt 0 = true → run.hunt.threshold.gt 0 = true) ∧
      (t.gt 0 = false → run.hunt.threshold = 0) := by
  obtain ⟨hmethod, hthreshold⟩ := start_method hstart
  obtain ⟨method, hname, hsquared⟩ := hp.exists_method
  obtain ⟨t', ht', hsign⟩ := hp.thresholdAt_zero
  rw [hmethod] at hname
  rw [hlevel, ht'] at hthreshold
  cases hname
  rw [← Except.ok.inj hthreshold]
  exact ⟨hsquared, hsign⟩

lemma start_zero (hp : params.Documented t) (hkeeps : params.KeepsHidden t)
    (hstart : (start template frame params region).run s = (.ok run, s'))
    (hlevel : run.hunt.level = 0) :
    run.hunt.method ≠ .squaredDifference ∧ run.hunt.threshold = 0 := by
  obtain ⟨hsquared, -, -, hzero⟩ := start_threshold hp hstart hlevel
  refine ⟨fun hmethod => hkeeps.1 (hsquared.1 hmethod), hzero ?_⟩
  rw [Num.gt, beq_iff_eq.1 hkeeps.2]
  rfl

variable (hkeeps : ¬params.KeepsHidden t)
  (hstart : (start template frame params region).run s = (.ok run, s'))

include hroom hstart

lemma start_image :
    run.origin = .ofInts x y right bottom ∧ run.image.height = (bottom - y).toNat ∧
      run.image.width = (right - x).toNat ∧ run.image.channels = some 3 := by
  obtain ⟨own, hown, hpart, hcrop, -⟩ := start_eq_ok hstart
  obtain ⟨own', hown', hpart'⟩ := hroom.part
  rw [hown] at hown'
  cases hown'
  rw [hpart] at hpart'
  have horigin := Option.some.inj hpart'
  obtain ⟨image, hcrop', hheight, hwidth, hchannels⟩ := Image.exists_crop hown (horigin ▸ hpart)
  rw [horigin, hcrop'] at hcrop
  cases hcrop
  exact ⟨horigin, hheight, hwidth, hchannels.trans hroom.frame_channels⟩

include hp

lemma going_of_start (halbum : run.album = none) (htemplate : run.template = template)
    (hparams : run.params = params) : run.Going run.hunt.level x y := by
  obtain ⟨hwithin, hwidth, hheight, hlargest⟩ := start_within hstart
  obtain ⟨horigin, hrows, hcolumns, hchannels⟩ := start_image hroom hstart
  have hright : right = x + run.image.width := by
    have := hroom.columns
    omega
  have hbottom : bottom = y + run.image.height := by
    have := hroom.rows
    omega
  rw [hright, hbottom] at horigin
  exact ⟨⟨horigin, hwithin, rfl, htemplate ▸ hwidth, htemplate ▸ hheight⟩, hlargest, halbum,
    hchannels, htemplate ▸ hroom.channels, hparams ▸ hp.confirm⟩

include hkeeps

omit hroom in
lemma start_selects (hlevel : run.hunt.level = 0) :
    run.hunt.method.Selects run.hunt.threshold := by
  obtain ⟨hsquared, hproper, habove, hzero⟩ := start_threshold hp hstart hlevel
  refine ⟨hproper, ?_⟩
  have hgt (hmethod : run.hunt.method ≠ .squaredDifference) : run.hunt.threshold.gt 0 = true := by
    have hleast : (t.gt 0 || t.eq 0) = true := hp.least
    rw [Bool.or_eq_true] at hleast
    rcases hleast with h | h
    · exact habove h
    · exact absurd ⟨fun hname => hmethod (hsquared.2 hname), h⟩ hkeeps
  cases hmethod : run.hunt.method with
  | squaredDifference =>
    cases ht : t.gt 0 with
    | true => exact Bool.or_eq_true_iff.2 (.inl (habove ht))
    | false =>
      rw [hzero ht]
      decide
  | correlation | coefficient => exact hgt (by simp [hmethod])

variable {announce : MatchResult → Act Unit} {s₁ : Session}

lemma countP_matched_le_positions {limit : Nat} {s₂ : Session}
    {rs : List MatchResult} {standing : Standing}
    (h : (run.results announce limit).run s₁ = (.ok (rs, standing), s₂)) :
    rs.countP matched ≤ positions template.image x y right bottom := by
  obtain ⟨hwithin, hwidth, hheight, hlargest⟩ := start_within hstart
  obtain ⟨-, hrows, hcolumns, -⟩ := start_image hroom hstart
  cases hmatched : run.hunt.best.matched with
  | false =>
    have hnone : rs.countP matched = 0 :=
      countP_eq_zero.2 fun r hr => by simp [(results_of_not_matched hmatched h).2 r hr]
    omega
  | true =>
    have hlevel := hlargest hmatched
    have hselects := start_selects hp hkeeps hstart hlevel
    have hdown := hwithin.down
    have hright := hwithin.right
    rw [hlevel, roundedUp_zero, roundedUp_zero] at hdown
    rw [hlevel, roundedUp_zero, roundedUp_zero] at hright
    have hheatmap : run.hunt.heatmap.height = (bottom - y).toNat - template.image.height + 1 := by
      have := hwithin.rows
      omega
    have hheatmap' : run.hunt.heatmap.width = (right - x).toNat - template.image.width + 1 := by
      have := hwithin.columns
      omega
    calc rs.countP matched
      _ ≤ run.hunt.openCount := countP_matched_le (hwithin.laid hlevel) hselects h
      _ ≤ run.hunt.heatmap.height * run.hunt.heatmap.width := run.hunt.openCount_le
      _ = positions template.image x y right bottom := by rw [hheatmap, hheatmap', positions]

lemma EndsAfter.le_positions {n : Nat} (h : run.EndsAfter announce s₁ n) : n ≤ positions template.image x y right bottom := by
  obtain ⟨found, last, s₂, hlength, hfound, -, hends⟩ := h
  have hrs := hends (n + 1) (Nat.lt_succ_self n)
  have hle := countP_matched_le_positions hroom hp hkeeps hstart hrs
  rw [countP_append, countP_eq_length.2 hfound] at hle
  omega

omit hkeeps in
lemma Endless.keepsHidden (h : run.Endless announce s₁) : params.KeepsHidden t := by
  by_contra hkeeps
  obtain ⟨rs, s₂, hrs, hlength, hmatched⟩ := h (positions template.image x y right bottom + 1)
  have hle := countP_matched_le_positions hroom hp hkeeps hstart hrs
  rw [countP_eq_length.2 hmatched, hlength] at hle
  omega

end Start

/-- **How a search ends.** However many results are wanted of a search, they come in order, and no
more of them match than the template has positions, unless hidden places reach the threshold.

Where no pictures are saved the search does start, and it either ends after so many results or goes
on forever. It goes on forever exactly if hidden places reach the threshold, the first candidate
matches, and every candidate is confirmed. -/
theorem results_come_to_an_end {template : Template} {frame : Frame} {params : MatchParameters}
    {region : Option Region} {x y right bottom : Int} {t : Num}
    (hroom : HasRoom template frame region x y right bottom) (hp : params.Documented t) :
    (∀ s s₁ run, (start template frame params region).run s = (.ok run, s₁) →
      ∀ announce limit s₂, ∃ rs standing s₃,
        (run.results announce limit).run s₂ = (.ok (rs, standing), s₃) ∧
        Orderly limit rs standing ∧
        (¬params.KeepsHidden t →
          rs.countP MatchResult.matched ≤ positions template.image x y right bottom)) ∧
    ∀ settings count s, s.settings = some settings → levelsIn settings = .ok count → Quiet s →
      ∃ run, (start template frame params region).run s = (.ok run, s) ∧
        ∀ announce, Harmless announce →
          (run.Endless announce s ∨ ∃ n, run.EndsAfter announce s n ∧
            (¬params.KeepsHidden t → n ≤ positions template.image x y right bottom)) ∧
          (run.Endless announce s ↔ params.KeepsHidden t ∧ run.hunt.best.matched = true ∧
            ∀ n, ∀ c ∈ run.hunt.candidates n,
              confirmMatch run.image c.region template.image params = .ok true) := by
  constructor
  · intro s s₁ run hstart announce limit s₂
    obtain ⟨rs, standing, s₃, hrs⟩ := exists_results announce limit run s₂
    exact ⟨rs, standing, s₃, hrs, orderly_results hrs,
      fun hkeeps => countP_matched_le_positions hroom hp hkeeps hstart hrs⟩
  · intro settings count s hsettings hlevels hs
    obtain ⟨run, hstart, halbum, rfl, rfl⟩ := exists_start hroom hp hs hsettings hlevels
    have hg := going_of_start hroom hp hstart halbum rfl rfl
    refine ⟨run, hstart, fun announce hannounce => ⟨?_, ?_⟩⟩
    · rcases hg.endsAfter_or_endless hannounce hs with ⟨n, hends⟩ | hendless
      · exact .inr ⟨n, hends, fun hkeeps => hends.le_positions hroom hp hkeeps hstart⟩
      · exact .inl hendless
    · constructor
      · intro hendless
        have hall := (hg.endless_iff hannounce hs).1 hendless
        have hfirst := ((run.confirmed_ahead_iff 0).1 (hall 0)).1
        refine ⟨hendless.keepsHidden hroom hp hstart, hfirst, fun n c hc => ?_⟩
        obtain ⟨k, rfl⟩ := exists_of_mem_candidates hc
        exact ((run.confirmed_ahead_iff k).1 (hall k)).2
      · rintro ⟨hkeeps, hmatched, hconfirmed⟩
        have hlevel := hg.largest hmatched
        obtain ⟨hmethod, hzero⟩ := start_zero hp hkeeps hstart hlevel
        have hlikely := (hg.searches.within.laid hlevel).matched_after hmethod hzero hmatched
        rw [hg.endless_iff hannounce hs]
        intro k
        have hmem := after_mem_candidates fun j (_ : j < k) => hlikely j
        exact (run.confirmed_ahead_iff k).2 ⟨hlikely k, hconfirmed (k + 1) _ hmem⟩

def whitePair : Image := ⟨1, 2, some 3, #[255, 255, 255, 255, 255, 255], .byte⟩

def zeroParameters : MatchParameters :=
  ⟨"ccorr-normed", .number (.real 0.0), "none", .number (.real 0.5), .number 1⟩

def zeroSearch : Act MatchRun :=
  start { image := whitePair } { image := strip } zeroParameters (some .all)

def findsSome : Except Fault MatchRun → Bool
  | .ok run => run.hunt.best.matched
  | .error _ => false

/-- In a strip with five positions the search finds the pair over and over again. -/
theorem hidden_places_are_found_again : zeroParameters.Documented (.real 0.0) ∧
    HasRoom { image := whitePair } { image := Hunt.strip } (some .all) 0 0 6 1 ∧
    positions whitePair 0 0 6 1 = 5 ∧
    ∃ run, zeroSearch.run Hunt.plainSession = (.ok run, Hunt.plainSession) ∧
      run.Endless (fun _ => pure ()) Hunt.plainSession := by
  have hp : zeroParameters.Documented (.real 0.0) :=
    ⟨by decide, rfl, by decide, by decide +kernel, by decide +kernel, .inl rfl⟩
  have hroom : HasRoom { image := whitePair } { image := strip } (some .all) 0 0 6 1 :=
    ⟨rfl, rfl, by decide, by decide, rfl, ⟨.ofInts 0 0 6 1, rfl, rfl⟩, by decide, by decide⟩
  have hquiet : Quiet plainSession := ⟨0, rfl, by decide⟩
  have hlevels : levelsIn { sections := [("match", [("pyramid_levels", "1")])] } = .ok 1 := by
    decide +kernel
  have hfound : findsSome (zeroSearch.run plainSession).1 = true := by decide +kernel
  obtain ⟨run, hstart, hends⟩ := (results_come_to_an_end hroom hp).2 _ 1 _ rfl hlevels hquiet
  have hharmless : Harmless fun _ => pure () := fun _ s hs => ⟨s, rfl, hs⟩
  rw [zeroSearch, hstart] at hfound
  refine ⟨hp, hroom, by decide, run, hstart, ?_⟩
  exact (hends _ hharmless).2.2 ⟨⟨by decide, by decide +kernel⟩, hfound, fun _ _ _ => rfl⟩

end MatchRun

end SetTop

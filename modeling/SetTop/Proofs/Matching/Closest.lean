import SetTop.Proofs.Cache.Searching
import SetTop.Proofs.Matching.Results

/-!
How far off the closest place can be.

A search that gives up on a smaller level reports the best position of that level, scaled up. The
searched part and the template were halved and rounded up, each by itself, so that the scaled
position may lie up to one step of that level too far to the right or too far down
(`results_near_part`).
-/

namespace SetTop

open List Act Hunt Search

namespace MatchRun

/-! ### All results of a search -/

inductive Standing
  /-- it may go on -/
  | underWay
  | ended
  | failed (e : Fault)

def results (announce : MatchResult → Act Unit) :
    Nat → MatchRun → Act (List MatchResult × Standing)
  | 0, _ => return ([], .underWay)
  | limit + 1, run => do
    match ← Act.attempt (run.step announce) with
    | .error e => return ([], .failed e)
    | .ok (result, none) => return ([result], .ended)
    | .ok (result, some run) =>
      match ← Act.attempt (guarded run.album run.advance) with
      | .error e => return ([result], .failed e)
      | .ok run => do
        let (rest, standing) ← results announce limit run
        return (result :: rest, standing)

/-- The result at hand, once it is known whether the candidate is confirmed and where it lies. -/
def resultAt (run : MatchRun) (confirmed : Bool) (region : Region) : MatchResult :=
  ⟨run.frame.time, confirmed, region, run.hunt.best.certainty, run.frame.image,
    run.template.name.filter (!·.isEmpty), run.hunt.best.matched⟩

variable {announce : MatchResult → Act Unit} {s s' : Session} {limit : Nat} {run : MatchRun}
  {rs : List MatchResult} {standing : Standing}

lemma run_step (run : MatchRun) (halbum : run.album = none) {confirmed : Bool}
    (hconfirmed : Findings.isConfirmed run.image run.template.image run.params run.hunt =
      .ok confirmed) {region : Region}
    (hregion : run.hunt.candidate.region.translate run.origin.x run.origin.y = .ok region)
    (hannounce : (announce (run.resultAt confirmed region)).run s = (.ok (), s')) :
    (run.step announce).run s =
      (.ok (run.resultAt confirmed region, if confirmed then some run else none), s') := by
  have hdeliver : (run.deliver announce confirmed).run s =
      (.ok (run.resultAt confirmed region, if confirmed then some run else none), s') := by
    rw [deliver, hregion, halbum]
    exact bind_of_ok hannounce
  rw [step, halbum]
  refine run_guarded_of_ok ?_
  rw [bind_of_ok (Log.run_savePlain_none _ _ s)]
  rw [Findings.isConfirmed] at hconfirmed
  split at hconfirmed
  · next hmatched =>
    have hconfirm := run_confirm_none run.index run.image run.hunt.candidate run.template.image
      run.params s
    rw [hconfirmed] at hconfirm
    rw [if_pos hmatched, bind_of_ok hconfirm]
    exact hdeliver
  · next hmatched =>
    cases hconfirmed
    rw [if_neg hmatched]
    exact hdeliver

/-- A search delivers its results in one of five ways: it has delivered as many as are wanted, it
fails before the next result, that one does not match and is the last, it matches and then the
search fails, or it matches and the search goes on. -/
lemma results_induction {motive : Nat → MatchRun → List MatchResult → Standing → Prop}
    (enough : ∀ run, motive 0 run [] .underWay)
    (refused : ∀ limit run e, motive (limit + 1) run [] (.failed e))
    (last : ∀ limit run result s s', (run.step announce).run s = (.ok (result, none), s') →
      result.matched = false → motive (limit + 1) run [result] .ended)
    (stuck : ∀ limit run result e s s', (run.step announce).run s = (.ok (result, some run), s') →
      result.matched = true → motive (limit + 1) run [result] (.failed e))
    (goesOn : ∀ limit run run' result rs standing s s',
      (run.step announce).run s = (.ok (result, some run), s') → result.matched = true →
      run'.origin = run.origin → run'.hunt = run.hunt.next → motive limit run' rs standing →
      motive (limit + 1) run (result :: rs) standing)
    (h : (results announce limit run).run s = (.ok (rs, standing), s')) :
    motive limit run rs standing := by
  induction limit generalizing run s rs with
  | zero =>
    cases h
    exact enough run
  | succ limit ih =>
    rw [results, run_bind, run_attempt] at h
    rcases hstep : (run.step announce).run s with ⟨e | ⟨result, rest⟩, s₁⟩ <;> rw [hstep] at h
    · cases h
      exact refused limit run e
    · obtain ⟨-, -, -, rfl⟩ := step_eq_ok hstep
      cases hmatched : result.matched with
      | false =>
        rw [hmatched] at h hstep
        cases h
        exact last limit run result s _ hstep hmatched
      | true =>
        rw [hmatched] at h hstep
        simp only [if_true] at h hstep
        rw [run_bind, run_attempt] at h
        rcases hadvance : (guarded run.album run.advance).run s₁ with ⟨e | run', s₂⟩ <;>
          rw [hadvance] at h
        · cases h
          exact stuck limit run result e s s₁ hstep hmatched
        · obtain ⟨⟨more, standing'⟩, s₃, hmore, h⟩ := bind_eq_ok h
          cases h
          obtain ⟨horigin, hhunt⟩ := advance_ok hadvance
          exact goesOn limit run run' result more standing' s s₁ hstep hmatched horigin hhunt
            (ih hmore)

lemma forall_mem_results {I : MatchRun → Prop} {P : MatchResult → Prop}
    (hresult : ∀ {run : MatchRun} {s s' result rest}, I run →
      (run.step announce).run s = (.ok (result, rest), s') → P result)
    (hnext : ∀ {run run' : MatchRun}, I run → run.hunt.best.matched = true →
      run'.origin = run.origin → run'.hunt = run.hunt.next → I run') (hrun : I run)
    (h : (results announce limit run).run s = (.ok (rs, standing), s')) : ∀ r ∈ rs, P r := by
  refine results_induction (motive := fun _ run rs _ => I run → ∀ r ∈ rs, P r) ?_ ?_ ?_ ?_ ?_ h hrun
  · intro run _ r hr
    cases hr
  · intro limit run e _ r hr
    cases hr
  · intro limit run result s s' hstep _ hrun
    simpa using hresult hrun hstep
  · intro limit run result e s s' hstep _ hrun
    simpa using hresult hrun hstep
  · intro limit run run' result rs standing s s' hstep hmatched horigin hhunt ih hrun
    have hlikely := (step_eq_ok hstep).1 hmatched
    exact forall_mem_cons.2 ⟨hresult hrun hstep, ih (hnext hrun hlikely horigin hhunt)⟩

lemma results_of_not_matched (hrun : run.hunt.best.matched = false)
    (h : (results announce limit run).run s = (.ok (rs, standing), s')) :
    rs.length ≤ 1 ∧ ∀ r ∈ rs, r.matched = false := by
  have hunlikely {run : MatchRun} {s s' : Session} {result : MatchResult} {rest : Option MatchRun}
      (hrun : run.hunt.best.matched = false) (hmatched : result.matched = true)
      (hstep : (run.step announce).run s = (.ok (result, rest), s')) : False := by
    rw [(step_eq_ok hstep).1 hmatched] at hrun
    cases hrun
  refine results_induction (motive := fun _ run rs _ => run.hunt.best.matched = false →
    rs.length ≤ 1 ∧ ∀ r ∈ rs, r.matched = false) ?_ ?_ ?_ ?_ ?_ h hrun
  · simp
  · simp
  · intro limit run result s s' _ hmatched _
    simpa using hmatched
  · intro limit run result e s s' hstep hmatched hrun
    exact (hunlikely hrun hmatched hstep).elim
  · intro limit run run' result rs standing s s' hstep hmatched _ _ _ hrun
    exact (hunlikely hrun hmatched hstep).elim

end MatchRun

namespace Hunt

/-! ### Positions -/

/-- The least multiple of a power of two that is not smaller. -/
def roundedUp (k n : Nat) : Nat := (n + (2 ^ k - 1)) / 2 ^ k * 2 ^ k

lemma roundedUp_bounds (k n : Nat) : n ≤ roundedUp k n ∧ roundedUp k n < n + 2 ^ k := by
  have hpos : 0 < 2 ^ k := Nat.two_pow_pos k
  have hle : roundedUp k n ≤ n + (2 ^ k - 1) := Nat.div_mul_le_self _ _
  have hlt : n + (2 ^ k - 1) < roundedUp k n + 2 ^ k := Nat.lt_div_mul_add hpos
  omega

lemma roundedUp_zero (n : Nat) : roundedUp 0 n = n := by simp [roundedUp]

/-- A hunt on the scale of its level, in a picture of the given extent: from the first to the last
position are as many steps as the extents of the picture and of the template differ by when both
are rounded up. -/
structure Within (h : Hunt) (height width : Nat) : Prop where
  height_pos : 0 < h.height
  width_pos : 0 < h.width
  rows : 0 < h.heatmap.height
  columns : 0 < h.heatmap.width
  filled : h.heatmap.Filled
  best : h.best = h.heatmap.best h.method h.threshold
  down : (h.heatmap.height - 1) * 2 ^ h.level + roundedUp h.level h.height =
    roundedUp h.level height
  right : (h.heatmap.width - 1) * 2 ^ h.level + roundedUp h.level h.width = roundedUp h.level width

namespace Within

variable {h : Hunt} {height width : Nat}

lemma next (hw : h.Within height width) : h.next.Within height width where
  height_pos := hw.height_pos
  width_pos := hw.width_pos
  rows := hw.rows
  columns := hw.columns
  filled := Heatmap.filled_generate ..
  best := rfl
  down := hw.down
  right := hw.right

lemma exists_candidate_region (hw : h.Within height width) :
    ∃ y x : Nat, h.best.position = ⟨x, y⟩ ∧
      h.candidate.region = .ofInts (x * 2 ^ h.level : Nat) (y * 2 ^ h.level : Nat)
        (x * 2 ^ h.level + h.width : Nat) (y * 2 ^ h.level + h.height : Nat) ∧
      y * 2 ^ h.level + roundedUp h.level h.height ≤ roundedUp h.level height ∧
      x * 2 ^ h.level + roundedUp h.level h.width ≤ roundedUp h.level width := by
  obtain ⟨y, x, hy, hx, -, hbest⟩ :=
    Heatmap.best_eq h.method h.threshold hw.filled hw.rows hw.columns
  rw [← hw.best] at hbest
  have hdown : y * 2 ^ h.level ≤ (h.heatmap.height - 1) * 2 ^ h.level :=
    Nat.mul_le_mul_right _ (by omega)
  have hright : x * 2 ^ h.level ≤ (h.heatmap.width - 1) * 2 ^ h.level :=
    Nat.mul_le_mul_right _ (by omega)
  have hdown' := hw.down
  have hright' := hw.right
  refine ⟨y, x, by rw [hbest], ?_, by omega, by omega⟩
  rw [candidate, hbest, regionAt_eq]
  simp [Point.upsample]

end Within

end Hunt

namespace MatchRun

variable {s s' : Session} {run : MatchRun} {level height width : Nat} {x y : Int} {template : Image}

lemma start_within {template : Template} {frame : Frame} {params : MatchParameters}
    {region : Option Region} (hstart : (start template frame params region).run s = (.ok run, s')) :
    run.hunt.Within run.image.height run.image.width ∧
      run.hunt.width = template.image.width ∧ run.hunt.height = template.image.height ∧
      (run.hunt.best.matched = true → run.hunt.level = 0) := by
  obtain ⟨own, -, -, -, hsizes, method, count, r, -, hbroken, hlast, hhunt⟩ := start_eq_ok hstart
  obtain ⟨hheight, hwidth, hrows, hcolumns⟩ := checkSizes_ok hsizes
  obtain ⟨hmem, ⟨hfilled, hspan, hspan'⟩, -, hbest⟩ :=
    mem_reports_descend (mem_of_getLast? hlast)
  obtain ⟨himage, htemplate⟩ := eq_halved_of_mem_levels hmem
  -- Rounding keeps the order of the extents, and so the picture is not smaller on any level.
  have hsteps {n m : Nat} (hle : m ≤ n) :
      ((n + (2 ^ r.level - 1)) / 2 ^ r.level - (m + (2 ^ r.level - 1)) / 2 ^ r.level + 1 - 1) *
          2 ^ r.level + roundedUp r.level m = roundedUp r.level n := by
    have hmono : (m + (2 ^ r.level - 1)) / 2 ^ r.level ≤ (n + (2 ^ r.level - 1)) / 2 ^ r.level :=
      Nat.div_le_div_right (by omega)
    rw [roundedUp, ← Nat.add_mul]
    congr 1
    omega
  rw [hhunt]
  refine ⟨⟨hheight, hwidth, ?_, ?_, hfilled, hbest, ?_, ?_⟩, rfl, rfl, fun hmatched => ?_⟩
  · exact hspan ▸ Nat.succ_pos _
  · exact hspan' ▸ Nat.succ_pos _
  · show (r.heatmap.height - 1) * 2 ^ r.level + roundedUp r.level template.image.height = _
    rw [hspan, himage, htemplate, Image.height_halved, Image.height_halved]
    exact hsteps hrows
  · show (r.heatmap.width - 1) * 2 ^ r.level + roundedUp r.level template.image.width = _
    rw [hspan', himage, htemplate, Image.width_halved, Image.width_halved]
    exact hsteps hcolumns
  · exact last_level_eq_zero (last_level_of_matched hbroken hlast hmatched)

/-- A search on the scale of a level, in a part of the frame with the given edges. -/
structure Searches (run : MatchRun) (level : Nat) (x y : Int) (height width : Nat)
    (template : Image) : Prop where
  origin : run.origin = .ofInts x y (x + width) (y + height)
  within : run.hunt.Within height width
  level : run.hunt.level = level
  width : run.hunt.width = template.width
  height : run.hunt.height = template.height

lemma Searches.next {run' : MatchRun} (hrun : run.Searches level x y height width template)
    (horigin : run'.origin = run.origin) (hhunt : run'.hunt = run.hunt.next) :
    run'.Searches level x y height width template := by
  refine ⟨horigin.trans hrun.origin, ?_, ?_, ?_, ?_⟩ <;> rw [hhunt]
  · exact hrun.within.next
  · exact hrun.level
  · exact hrun.width
  · exact hrun.height

/-- Where a result lies that was found on the scale of a level: at a place of that scale which is
less than one step of it too far to the right or too far down. -/
structure OnScale (level : Nat) (x y : Int) (height width : Nat) (template : Image)
    (region : Region) (left top : Int) : Prop where
  region : region = .ofInts left top (left + template.width) (top + template.height)
  columns : ∃ k : Nat, left = x + k * 2 ^ level
  rows : ∃ k : Nat, top = y + k * 2 ^ level
  right_le : left + roundedUp level template.width ≤ x + roundedUp level width
  bottom_le : top + roundedUp level template.height ≤ y + roundedUp level height

lemma Searches.onScale (hrun : run.Searches level x y height width template)
    {announce : MatchResult → Act Unit} {result : MatchResult} {rest : Option MatchRun}
    (hstep : (run.step announce).run s = (.ok (result, rest), s')) :
    ∃ left top, OnScale level x y height width template result.region left top := by
  obtain ⟨-, -, hregion, -⟩ := step_eq_ok hstep
  obtain ⟨y', x', -, hcandidate, hdown, hright⟩ := hrun.within.exists_candidate_region
  have hw := hrun.within.width_pos
  have hh := hrun.within.height_pos
  rw [hrun.origin, hcandidate, Region.ofInts, Region.ofInts, ← Region.ofInts,
    Region.translate_ofInts (by omega) (by omega)] at hregion
  rw [hrun.level, hrun.width, hrun.height] at hregion
  rw [hrun.level, hrun.height] at hdown
  rw [hrun.level, hrun.width] at hright
  refine ⟨(x' * 2 ^ level : Nat) + x, (y' * 2 ^ level : Nat) + y, ?_, ⟨x', ?_⟩, ⟨y', ?_⟩, ?_, ?_⟩
  · rw [← Except.ok.inj hregion]
    congr 1 <;> omega
  · push_cast
    omega
  · push_cast
    omega
  · omega
  · omega

section OnScale

variable {level height width : Nat} {x y left top : Int} {template : Image} {region : Region}
  (h : OnScale level x y height width template region left top)

include h

lemma OnScale.contains_iff : (Region.ofInts x y (x + width) (y + height)).contains region = true ↔
      left + template.width ≤ x + width ∧ top + template.height ≤ y + height := by
  obtain ⟨k, hk⟩ := h.columns
  obtain ⟨k', hk'⟩ := h.rows
  have hcolumn : (0 : Int) ≤ k * 2 ^ level := Int.mul_nonneg (by omega) (by positivity)
  have hrow : (0 : Int) ≤ k' * 2 ^ level := Int.mul_nonneg (by omega) (by positivity)
  rw [h.region, Region.contains_ofInts]
  omega

lemma OnScale.lt : left + template.width < x + width + 2 ^ level ∧
      top + template.height < y + height + 2 ^ level := by
  have hw := roundedUp_bounds level template.width
  have hh := roundedUp_bounds level template.height
  have hW := roundedUp_bounds level width
  have hH := roundedUp_bounds level height
  have hright := h.right_le
  have hbottom := h.bottom_le
  have hcast : ((2 ^ level : Nat) : Int) = 2 ^ level := by rfl
  omega

/-- If rounding up adds at least as much to the template as to the part, nothing sticks out. -/
lemma OnScale.contains_of_roundedUp (hwidth : roundedUp level width + template.width ≤
      width + roundedUp level template.width)
    (hheight : roundedUp level height + template.height ≤
      height + roundedUp level template.height) :
    (Region.ofInts x y (x + width) (y + height)).contains region = true := by
  rw [h.contains_iff]
  have hright := h.right_le
  have hbottom := h.bottom_le
  omega

end OnScale

end MatchRun

/-! ### Pictures of stripes -/

namespace Image

variable {n h w : Nat}

lemma reflect_lt (hn : 0 < n) (k : Int) : reflect n k < n := by
  rw [reflect]
  split
  · exact hn
  · have hmin (a : Nat) : a.min (n - 1) < n := Nat.lt_of_le_of_lt (Nat.min_le_right _ _) (by omega)
    exact hmin _

def striped (h w : Nat) (f : Nat → Nat) : Image := generate h w (some 3) fun _ x _ => f x

def halvedStripes (w : Nat) (f : Nat → Nat) (x : Nat) : Nat :=
  (16 * (blurWeights.map fun (d, v) => (reflect w (2 * x + d), v)).foldl
    (fun acc (c, v) => acc + v * f c) 0 + 128) / 256

lemma halve_striped (hh : 0 < h) (hw : 0 < w) (f : Nat → Nat) :
    (striped h w f).halve = striped ((h + 1) / 2) ((w + 1) / 2) (halvedStripes w f) := by
  refine generate_congr fun y x k _ _ hk => ?_
  have hvalue (r c : Int) :
      (striped h w f).value (reflect h r) (reflect w c) k = f (reflect w c) :=
    value_generate _ (reflect_lt hh r) (reflect_lt hw c) hk
  have hheight : (striped h w f).height = h := rfl
  have hwidth : (striped h w f).width = w := rfl
  simp only [halvedValue, halvedStripes, blurWeights, map_cons, map_nil, foldl_cons,
    foldl_nil, hheight, hwidth, hvalue]
  omega

lemma slice_striped (h w : Nat) (f : Nat → Nat) :
    (striped h w f).slice ((0 : Nat), (0 : Nat) + h) ((0 : Nat), (0 : Nat) + w) = striped h w f := by
  rw [slice_eq (Nat.zero_le _) (Nat.zero_le _)]
  change generate (min h h) (min w w) (some 3) (fun r c k => (striped h w f).value (0 + r) (0 + c) k) = _
  rw [Nat.min_self, Nat.min_self]
  refine generate_congr fun r c k hr hc hk => ?_
  rw [Nat.zero_add, Nat.zero_add]
  exact value_generate _ hr hc hk

end Image

namespace Heatmap

open Image

def stripeSums (h w : Nat) (f g : Nat → Nat) : WindowSums := sumsOf h w 3 (fun _ c _ => f c) fun _ c _ => g c

variable {H W h w : Nat}

lemma windowSums_striped {y x : Nat} (f g : Nat → Nat) (hy : y + h ≤ H) (hx : x + w ≤ W) :
    windowSums (striped H W f) (striped h w g) y x = stripeSums h w (fun c => f (x + c)) g := by
  rw [windowSums_eq (by rfl)]
  refine sumsOf_congr (fun r c k hr hc hk => ?_) fun r c k hr hc hk => ?_
  · exact Image.value_generate _ (hy.trans_lt' (Nat.add_lt_add_left hr y))
      (hx.trans_lt' (Nat.add_lt_add_left hc x)) hk
  · exact Image.value_generate _ hr hc hk

end Heatmap

namespace Search

open Image Heatmap

lemma searchRegions_striped (method : MatchMethod) (f g : Nat → Nat) (hh : h ≤ H) (hw : w ≤ W) :
    ∃ m, searchRegions method (striped H W f) (striped h w g)
        (regionsOfInterest (striped H W f) (striped h w g) none) 0
        (blank method (striped H W f) (striped h w g)) = .ok m ∧
      m.Spans (striped H W f) (striped h w g) ∧ ∀ y x, y < H - h + 1 → x < W - w + 1 → m.value y x =
        score method (h * w) (stripeSums h w (fun c => f (x + c)) g) (stripeSums h w g g) := by
  have hfits : Fits (striped H W f) (striped h w g) := ⟨rfl, hh, hw⟩
  have hspans := spans_blank method (striped H W f) (striped h w g)
  obtain ⟨m, hsearch, hvalue⟩ := exists_searchRegions method 0 hfits hspans fun roi hroi =>
    begins_of_mem_regionsOfInterest (show Masks none _ _ by simp [Masks]) hspans hroi
  refine ⟨m, hsearch, spans_searchRegions hspans hsearch, fun y x hy hx => ?_⟩
  have hholds : ∃ roi ∈ regionsOfInterest (striped H W f) (striped h w g) none, roi.Holds y x := by
    refine ⟨_, mem_singleton_self _, Int.natCast_nonneg x, ?_, Int.natCast_nonneg y, ?_⟩
    · exact (Int.ofNat_lt.2 hx).trans_eq (Int.zero_add _).symm
    · exact (Int.ofNat_lt.2 hy).trans_eq (Int.zero_add _).symm
  rw [hvalue y x hy hx]
  refine (if_pos hholds).trans ?_
  rw [windowScore, windowSums_striped f g (by omega) (by omega),
    windowSums_striped g g (by omega) (by omega)]
  simp only [Nat.zero_add]
  rfl
end Search

namespace MatchRun

open Image Heatmap

/-! ### A patch at the edge -/

def edge : Image := striped 20 21 fun x => if x = 20 then 255 else 0

def patch : Image := striped 20 20 fun _ => 255

def halfEdge : Nat → Nat := halvedStripes 21 fun x => if x = 20 then 255 else 0

def halfPatch : Nat → Nat := halvedStripes 20 fun _ => 255

def edgeScore (x : Nat) : Float :=
  score .correlation (10 * 10) (stripeSums 10 10 (fun c => halfEdge (x + c)) halfPatch)
    (stripeSums 10 10 halfPatch halfPatch)

def edgeThreshold : Num := .max 0 (.sub (.real 0.8) (.real 0.2))

def edgeParameters : MatchParameters :=
  ⟨"ccorr-normed", .number (.real 0.8), "none", .number (.real 0.5), .number 1⟩

lemma edgeScore_spec : (∀ x, x < 2 → MatchMethod.InRange .correlation (edgeScore x)) ∧
    MatchMethod.merit .correlation (edgeScore 0) < MatchMethod.merit .correlation (edgeScore 1) ∧
    (Num.real (edgeScore 1)).ge edgeThreshold = false := by
  decide +kernel

lemma exists_edge_heatmap : ∃ m : Heatmap,
    searchRegions .correlation edge.halve patch.halve
      (regionsOfInterest edge.halve patch.halve none) 0
      (blank .correlation edge.halve patch.halve) = .ok m ∧
    (m.best .correlation edgeThreshold).matched = false ∧
    (m.best .correlation edgeThreshold).position = ⟨1, 0⟩ := by
  have hedge : edge.halve = striped 10 11 halfEdge := halve_striped (by decide) (by decide) _
  have hpatch : patch.halve = striped 10 10 halfPatch := halve_striped (by decide) (by decide) _
  rw [hedge, hpatch]
  obtain ⟨m, hsearch, ⟨hfilled, hheight, hwidth⟩, hvalue⟩ :=
    searchRegions_striped .correlation (H := 10) (W := 11) (h := 10) (w := 10) halfEdge
      halfPatch (by decide) (by decide)
  replace hvalue : ∀ y x, y < 1 → x < 2 → m.value y x = edgeScore x := hvalue
  replace hheight : m.height = 1 := hheight
  replace hwidth : m.width = 2 := hwidth
  obtain ⟨hrange, hbetter, hbelow⟩ := edgeScore_spec
  have husable : ∀ v ∈ m.values, MatchMethod.Usable .correlation v := by
    intro v hv
    obtain ⟨y, x, hy, hx, rfl⟩ := hfilled.exists_of_mem hv
    rw [hvalue y x (by omega) (by omega)]
    exact .inl (hrange x (by omega))
  obtain ⟨y, x, hy, hx, hbest, hmost⟩ :=
    best_spec edgeThreshold hfilled (by omega) (by omega) husable
  obtain rfl : y = 0 := by omega
  obtain rfl : x = 1 := by
    have hright := hmost 0 1 (by omega) (by omega)
    rw [hvalue 0 1 (by omega) (by omega), hvalue 0 x (by omega) (by omega)] at hright
    obtain rfl | rfl : x = 0 ∨ x = 1 := by omega
    · omega
    · rfl
  rw [hvalue 0 1 (by omega) (by omega)] at hbest
  refine ⟨m, hsearch, ?_, ?_⟩ <;> rw [hbest]
  · dsimp only [certaintyOf]
    exact hbelow
  · rfl

lemma exists_edge_hunt : ∃ hunt, Findings.start (.ok 2) edge patch edgeParameters = .ok hunt ∧
    hunt.level = 1 ∧ hunt.width = 20 ∧ hunt.height = 20 ∧ hunt.best.matched = false ∧
      hunt.best.position = ⟨1, 0⟩ := by
  obtain ⟨m, hsearch, hmatched, hposition⟩ := exists_edge_heatmap
  have hthreshold : edgeParameters.thresholdAt 1 = .ok edgeThreshold := rfl
  have hlevels : levels 2 edge patch =
      [(1, edge.halve, patch.halve), (0, edge, patch)] := rfl
  have hpass : ∃ r, firstPass .correlation edgeParameters.thresholdAt 2 edge patch =
      ⟨[r], none⟩ ∧ r.level = 1 ∧ r.best = m.best .correlation edgeThreshold := by
    rw [firstPass, hlevels, descend]
    dsimp only [enlargeMask]
    rw [hsearch]
    rw [hthreshold]
    dsimp only
    rw [if_neg (by rw [hmatched]; decide)]
    exact ⟨_, rfl, rfl, rfl⟩
  obtain ⟨r, hpass, hlevel, hbest⟩ := hpass
  refine ⟨_, Findings.start_eq_ok rfl rfl (by rw [hpass]) (by rw [hpass]; rfl), hlevel,
    rfl, rfl, ?_, ?_⟩ <;> rw [ofReport, hbest]
  · exact hmatched
  · exact hposition

def edgeSearch : Act MatchRun :=
  start { image := patch } { image := edge } edgeParameters (some .all)

def halvingSession : Session :=
  { verbosity := some 0, settings := some { sections := [("match", [("pyramid_levels", "2")])] } }

lemma crop_edge : edge.crop (some (.ofInts 0 0 21 20)) = .ok edge :=
  congrArg Except.ok (slice_striped 20 21 _)

/-- **Where the results of a search lie.** Each has the extent of the template and begins in the
part of the frame that is searched, at a place of the scale of the level at which the first pass
ended. On the largest level it lies inside the part, and so does every result that matches. The
closest place of a smaller level, which is the only result then, may stick out by less than one step
of that level. It does not if rounding up to steps adds at least as much to the template as to the
part. -/
theorem results_near_part {template : Template} {frame : Frame} {params : MatchParameters}
    {region : Option Region} {s s₁ : Session} {run : MatchRun}
    (hstart : (start template frame params region).run s = (.ok run, s₁)) :
    ∃ (own : Region) (x y : Int) (height width : Nat), frame.image.region = .ok own ∧
      Region.intersect (some own) region = some (.ofInts x y (x + width) (y + height)) ∧
      ∀ announce limit s₂ s₃ rs standing,
        (run.results announce limit).run s₂ = (.ok (rs, standing), s₃) →
        (run.hunt.level ≠ 0 → rs.length ≤ 1 ∧ ∀ r ∈ rs, r.matched = false) ∧
        ∀ r ∈ rs, ∃ left top,
          OnScale run.hunt.level x y height width template.image r.region left top ∧
          left + template.image.width < x + width + 2 ^ run.hunt.level ∧
          top + template.image.height < y + height + 2 ^ run.hunt.level ∧
          ((Region.ofInts x y (x + width) (y + height)).contains r.region = true ↔
            left + template.image.width ≤ x + width ∧ top + template.image.height ≤ y + height) ∧
          (r.matched = true ∨ run.hunt.level = 0 ∨
            (Hunt.roundedUp run.hunt.level width + template.image.width ≤
                width + Hunt.roundedUp run.hunt.level template.image.width ∧
              Hunt.roundedUp run.hunt.level height + template.image.height ≤
                height + Hunt.roundedUp run.hunt.level template.image.height) →
            (Region.ofInts x y (x + width) (y + height)).contains r.region = true) := by
  obtain ⟨own, hown, hpart, hcrop, -⟩ := start_eq_ok hstart
  obtain ⟨hwithin, hwidth, hheight, hlevel⟩ := start_within hstart
  obtain ⟨x, y, right, bottom, horigin, hextent⟩ := Image.crop_eq_ok hcrop
  replace horigin : run.origin = .ofInts x y right bottom := Option.some.inj horigin
  obtain ⟨hx, hy⟩ := Region.lt_of_intersect (horigin ▸ hpart)
  obtain ⟨hw, hh⟩ := hextent hx hy
  have hright : right = x + run.image.width := by omega
  have hbottom : bottom = y + run.image.height := by omega
  rw [hright, hbottom] at horigin
  have hsearches :
      run.Searches run.hunt.level x y run.image.height run.image.width template.image :=
    ⟨horigin, hwithin, rfl, hwidth, hheight⟩
  refine ⟨own, x, y, run.image.height, run.image.width, hown, horigin ▸ hpart, ?_⟩
  intro announce limit s₂ s₃ rs standing hrs
  have hclosest : run.hunt.level ≠ 0 → rs.length ≤ 1 ∧ ∀ r ∈ rs, r.matched = false := fun hne =>
    results_of_not_matched (Bool.eq_false_iff.2 fun h => hne (hlevel h)) hrs
  have hscale := forall_mem_results
    (I := fun run' =>
      run'.Searches run.hunt.level x y run.image.height run.image.width template.image)
    (fun hrun hstep => hrun.onScale hstep) (fun hrun _ => hrun.next) hsearches hrs
  refine ⟨hclosest, fun r hr => ?_⟩
  obtain ⟨left, top, honScale⟩ := hscale r hr
  refine ⟨left, top, honScale, honScale.lt.1, honScale.lt.2, honScale.contains_iff, ?_⟩
  have hinside (hzero : run.hunt.level = 0) :
      (Region.ofInts x y (x + run.image.width) (y + run.image.height)).contains r.region =
        true := by
    rw [hzero] at honScale
    refine honScale.contains_of_roundedUp ?_ ?_ <;> simp only [roundedUp_zero] <;> omega
  rintro (hmatched | hzero | ⟨hfits, hfits'⟩)
  · refine hinside (Decidable.byContradiction fun hne => ?_)
    have hfalse := (hclosest hne).2 r hr
    rw [hmatched] at hfalse
    cases hfalse
  · exact hinside hzero
  · exact honScale.contains_of_roundedUp hfits hfits'

/-- The closest place sticks out by one column. -/
theorem closest_place_sticks_out :
    ∃ run r, edgeSearch.run halvingSession = (.ok run, halvingSession) ∧ run.hunt.level = 1 ∧
      (run.results (fun _ => pure ()) 9).run halvingSession =
        (.ok ([r], .ended), halvingSession) ∧
      r.matched = false ∧ r.region = .ofInts 2 0 22 20 ∧
      (Region.ofInts 0 0 21 20).contains r.region = false := by
  obtain ⟨hunt, hhunt, hlevel, hwidth, hheight, hmatched, hposition⟩ := exists_edge_hunt
  have hquiet : Quiet halvingSession := ⟨0, rfl, by decide⟩
  have hlevels : levelsIn { sections := [("match", [("pyramid_levels", "2")])] } = .ok 2 := by
    decide +kernel
  rw [← hlevels] at hhunt
  let run : MatchRun := ⟨none, { image := edge }, .ofInts 0 0 21 20, edge, { image := patch },
    edgeParameters, hunt, 0⟩
  have hstart : edgeSearch.run halvingSession = (.ok run, halvingSession) :=
    run_start hquiet rfl rfl rfl crop_edge hhunt
  have hunlikely : ¬hunt.candidate.matched = true := by
    rw [candidate, hmatched]
    exact Bool.false_ne_true
  have hregion : hunt.candidate.region.translate (.int 0) (.int 0) = .ok (.ofInts 2 0 22 20) := by
    rw [candidate, hlevel, hposition, regionAt, hwidth, hheight]
    rfl
  have hconfirmed : Findings.isConfirmed edge patch edgeParameters hunt = .ok false :=
    if_neg hunlikely
  have hstep : (run.step fun _ => pure ()).run halvingSession =
      (.ok (run.resultAt false (.ofInts 2 0 22 20), none), halvingSession) :=
    run_step run rfl hconfirmed hregion rfl
  have hresults : (run.results (fun _ => pure ()) 9).run halvingSession =
      (.ok ([run.resultAt false (.ofInts 2 0 22 20)], .ended), halvingSession) := by
    rw [results, Act.run_bind, Act.run_attempt, hstep]
    rfl
  refine ⟨run, _, hstart, hlevel, hresults, rfl, rfl, ?_⟩
  obtain ⟨own, x, y, height, width, hown, hpart, hall⟩ := results_near_part hstart
  obtain ⟨left, top, hscale, -, -, hcontains, -⟩ :=
    (hall _ _ _ _ _ _ hresults).2 _ (List.mem_singleton_self _)
  obtain rfl : Region.ofInts 0 0 21 20 = own := Except.ok.inj hown
  have hsame : Region.ofInts 0 0 21 20 = .ofInts x y (x + width) (y + height) :=
    Option.some.inj hpart
  rw [← hsame] at hcontains
  rw [Bool.eq_false_iff, ne_eq, hcontains]
  have hleft : (2 : Int) = left := Num.int.inj (congrArg Region.x hscale.region)
  have hright : (21 : Int) = x + width := Num.int.inj (congrArg Region.right hsame)
  have hextent : patch.width = 20 := rfl
  dsimp only
  omega

end MatchRun

end SetTop

import SetTop.Matching.Run
import SetTop.Proofs.Act
import SetTop.Proofs.Matching.FirstPass
import SetTop.Proofs.Matching.Packing

/-!
The results of a search are its candidates.

A search starts by cutting out the part of the frame that lies inside a region, and opens a hunt in
it. Each result is the candidate at hand, moved to where the part lies in the frame. So what holds
of the candidates holds of the results: they lie inside the part and do not overlap.
-/

namespace SetTop

open List Act Region MatchRun Search

namespace MatchRun

variable {album : Option Nat} {s s' : Session} {image template : Image} {frame : Frame}
  {params : MatchParameters} {region : Option Region} {run : MatchRun}
  {announce : MatchResult → Act Unit} {result : MatchResult} {rest : Option MatchRun}

lemma guarded_ok {α : Type} {a : Act α} {v : α} (h : (guarded album a).run s = (.ok v, s')) :
    a.run s = (.ok v, s') := by
  rw [guarded, run_bind, run_attempt] at h
  rcases hrun : a.run s with ⟨r, s₁⟩
  rw [hrun] at h
  cases r with
  | ok w => exact h
  | error e =>
    obtain ⟨_, _, -, hthrow⟩ := bind_eq_ok h
    cases hthrow

lemma checkSizes_ok (h : checkSizes image template = .ok ()) :
    0 < template.height ∧ 0 < template.width ∧ template.height ≤ image.height ∧
      template.width ≤ image.width := by
  by_cases hlarge : (image.height < template.height || image.width < template.width) = true
  · rw [checkSizes, if_pos hlarge] at h
    cases h
  by_cases hdata : (template.height < 1 || template.width < 1) = true
  · rw [checkSizes, if_neg hlarge, if_pos hdata] at h
    cases h
  simp only [Bool.or_eq_true, decide_eq_true_iff] at hlarge hdata
  omega

lemma logFirstPass_ok {pass : Search.FirstPass} (h : (logFirstPass album pass).run s = (.ok (), s')) :
    pass.broken = none := by
  rw [logFirstPass] at h
  obtain ⟨_, s₁, -, h⟩ := bind_eq_ok h
  cases hbroken : pass.broken with
  | none => rfl
  | some b =>
    rw [hbroken] at h
    obtain ⟨_, s₂, -, h⟩ := bind_eq_ok h
    split at h
    · obtain ⟨_, _, -, h⟩ := bind_eq_ok h
      cases h
    · cases h

lemma openHunt_ok {p : MatchParameters} {hunt : Hunt}
    (h : (openHunt album image template p).run s = (.ok hunt, s')) :
    checkSizes image template = .ok () ∧ ∃ method count r,
      MatchMethod.ofName? p.matchMethod = some method ∧
        (firstPass method p.thresholdAt count image template).broken = none ∧
        (firstPass method p.thresholdAt count image template).reports.getLast? = some r ∧
        hunt = .ofReport method template r := by
  rw [openHunt] at h
  obtain ⟨_, s₁, hsizes, h⟩ := bind_eq_ok h
  obtain ⟨_, s₂, -, h⟩ := bind_eq_ok h
  obtain ⟨_, s₃, -, h⟩ := bind_eq_ok h
  obtain ⟨_, s₄, -, h⟩ := bind_eq_ok h
  rw [run_ofExcept] at hsizes
  refine ⟨(Prod.mk.inj hsizes).1, ?_⟩
  split at h
  · cases h
  · rename_i method hmethod
    obtain ⟨count, s₅, -, h⟩ := bind_eq_ok h
    obtain ⟨_, s₆, hlog, h⟩ := bind_eq_ok h
    split at h
    · rename_i r hr
      cases h
      exact ⟨method, count, r, hmethod, logFirstPass_ok hlog, hr, rfl⟩
    · cases h

lemma start_eq_ok {template : Template}
    (h : (start template frame params region).run s = (.ok run, s')) :
    ∃ own, frame.image.region = .ok own ∧ intersect (some own) region = some run.origin ∧
      frame.image.crop (some run.origin) = .ok run.image ∧
      checkSizes run.image template.image = .ok () ∧ ∃ method count r,
        MatchMethod.ofName? params.matchMethod = some method ∧
        (firstPass method params.thresholdAt count run.image template.image).broken = none ∧
        (firstPass method params.thresholdAt count run.image
          template.image).reports.getLast? = some r ∧
        run.hunt = .ofReport method template.image r := by
  rw [start] at h
  obtain ⟨album, s₁, -, h⟩ := bind_eq_ok h
  obtain ⟨own, s₂, hown, h⟩ := bind_eq_ok h
  obtain ⟨image, s₃, hcrop, h⟩ := bind_eq_ok (guarded_ok h)
  obtain ⟨hunt, s₄, hopen, h⟩ := bind_eq_ok h
  rw [run_ofExcept] at hown hcrop
  replace hcrop := congrArg Prod.fst hcrop
  obtain ⟨hsizes, hpass⟩ := openHunt_ok hopen
  cases h
  obtain ⟨x, y, right, bottom, hpart, -⟩ := Image.crop_eq_ok hcrop
  rw [hpart] at hcrop
  refine ⟨own, eq_ok_of_mapError (congrArg Prod.fst hown), ?_⟩
  rw [hpart]
  exact ⟨rfl, hcrop, hsizes, hpass⟩

/-- Where the searched part lies, and the heatmap that a hunt on the largest level starts with. -/
structure Placed (run : MatchRun) (x y right bottom : Int) : Prop where
  origin : run.origin = .ofInts x y right bottom
  columns : x < right
  rows : y < bottom
  width_pos : 0 < run.hunt.width
  height_pos : 0 < run.hunt.height
  width_le : run.hunt.width ≤ (right - x).toNat
  height_le : run.hunt.height ≤ (bottom - y).toNat
  filled : run.hunt.heatmap.Filled
  best : run.hunt.best = run.hunt.heatmap.best run.hunt.method run.hunt.threshold
  width : run.hunt.level = 0 → run.hunt.heatmap.width = (right - x).toNat - run.hunt.width + 1
  height : run.hunt.level = 0 → run.hunt.heatmap.height = (bottom - y).toNat - run.hunt.height + 1

lemma start_ok {template : Template} (h : (start template frame params region).run s = (.ok run, s')) :
    ∃ x y right bottom, run.Placed x y right bottom := by
  obtain ⟨own, -, hpart, hcrop, hsizes, method, count, r, -, -, hlast, hhunt⟩ := start_eq_ok h
  obtain ⟨_, _, _, image, _, _, _, _⟩ := run
  subst hhunt
  obtain ⟨x, y, right, bottom, horigin, hextent⟩ := Image.crop_eq_ok hcrop
  cases horigin
  obtain ⟨hheight, hwidth, hrows, hcolumns⟩ := checkSizes_ok hsizes
  obtain ⟨hx, hy⟩ := lt_of_intersect hpart
  obtain ⟨hw, hh⟩ := hextent hx hy
  obtain ⟨hmem, ⟨hfilled, hspan, hspan'⟩, -, hbest⟩ :=
    mem_reports_descend (mem_of_getLast? hlast)
  -- On a smaller level the report is about smaller pictures.
  have hlevel : r.level = 0 → r.image = image ∧ r.template = template.image := by
    intro hzero
    rw [hzero] at hmem
    exact eq_halved_of_mem_levels hmem
  refine ⟨x, y, right, bottom, rfl, hx, hy, hwidth, hheight, hw ▸ hcolumns, hh ▸ hrows, hfilled,
    hbest, ?_, ?_⟩
  · intro hzero
    obtain ⟨himage, htemplate⟩ := hlevel hzero
    show r.heatmap.width = _
    rw [hspan', himage, htemplate, ← hw]
    rfl
  · intro hzero
    obtain ⟨himage, htemplate⟩ := hlevel hzero
    show r.heatmap.height = _
    rw [hspan, himage, htemplate, ← hh]
    rfl

lemma deliver_ok {confirmed : Bool}
    (h : (run.deliver announce confirmed).run s = (.ok (result, rest), s')) :
    run.hunt.candidate.region.translate run.origin.x run.origin.y = .ok result.region ∧
      result.certainty = run.hunt.best.certainty ∧ result.matched = confirmed ∧
      rest = if confirmed then some run else none := by
  obtain ⟨region, s₁, hregion, h⟩ := bind_eq_ok h
  obtain ⟨_, s₂, -, h⟩ := bind_eq_ok h
  obtain ⟨_, s₃, -, h⟩ := bind_eq_ok h
  rw [run_ofExcept] at hregion
  cases h
  refine ⟨?_, rfl, rfl, rfl⟩
  cases hmoved : run.hunt.candidate.region.translate run.origin.x run.origin.y with
  | ok r =>
    rw [hmoved] at hregion
    cases hregion
    rfl
  | error e =>
    rw [hmoved] at hregion
    cases hregion

/-- A result is the candidate at hand, moved. It matches only if the candidate does, and a search
goes on only after a result that matches. -/
lemma step_eq_ok (h : (run.step announce).run s = (.ok (result, rest), s')) :
    (result.matched = true → run.hunt.best.matched = true) ∧
      result.certainty = run.hunt.best.certainty ∧
      run.hunt.candidate.region.translate run.origin.x run.origin.y = .ok result.region ∧
      rest = if result.matched then some run else none := by
  rw [step] at h
  obtain ⟨_, s₁, -, h⟩ := bind_eq_ok (guarded_ok h)
  split at h
  · next hlikely =>
    obtain ⟨confirmed, s₂, -, h⟩ := bind_eq_ok h
    obtain ⟨hregion, hcertainty, rfl, hrest⟩ := deliver_ok h
    exact ⟨fun _ => hlikely, hcertainty, hregion, hrest⟩
  · obtain ⟨hregion, hcertainty, hfalse, hrest⟩ := deliver_ok h
    rw [hfalse]
    exact ⟨fun h => absurd h Bool.false_ne_true, hcertainty, hregion, hrest⟩

lemma advance_ok {run' : MatchRun} (h : (guarded run.album run.advance).run s = (.ok run', s')) :
    run'.origin = run.origin ∧ run'.hunt = run.hunt.next := by
  obtain ⟨_, s₁, -, h⟩ := bind_eq_ok (guarded_ok h)
  cases h
  exact ⟨rfl, rfl⟩

/-- Results that tell of the first candidates of a hunt, one after the other. -/
def Tells (origin : Region) : Hunt → List MatchResult → Prop
  | _, [] => True
  | h, r :: rest =>
    h.best.matched = true ∧ r.matched = true ∧ r.certainty = h.best.certainty ∧
      h.candidate.region.translate origin.x origin.y = .ok r.region ∧ Tells origin h.next rest

end MatchRun

variable {run : MatchRun}

lemma nextMatch_ok {announce : MatchResult → Act Unit} {first : Bool} {s s' : Session}
    {result : MatchResult} {rest : Option MatchRun}
    (h : (nextMatch announce first run).run s = (.ok (some (result, rest)), s')) :
    result.matched = true ∧ ∃ s₁, (run.step announce).run s = (.ok (result, rest), s₁) := by
  rw [nextMatch] at h
  obtain ⟨⟨result', rest'⟩, s₁, hstep, h⟩ := bind_eq_ok h
  dsimp only at h
  split at h
  · next hmatched =>
    obtain ⟨_, _, -, h⟩ := bind_eq_ok h
    cases h
    exact ⟨hmatched, s₁, hstep⟩
  · split at h
    · obtain ⟨_, _, -, h⟩ := bind_eq_ok h
      cases h
    · cases h

lemma collectMatches_ok (announce : MatchResult → Act Unit) (limit : Nat) (run : MatchRun)
    (found : List MatchResult) (s : Session) :
    ∃ more e s', (collectMatches announce limit run found).run s =
        (.ok (found.reverse ++ more, e), s') ∧ more.length ≤ limit ∧
      MatchRun.Tells run.origin run.hunt more := by
  induction limit generalizing run found s with
  | zero => exact ⟨[], none, s, by simp [collectMatches], Nat.le_refl 0, trivial⟩
  | succ limit ih =>
    rw [collectMatches, run_bind, run_attempt]
    rcases hnext : (nextMatch announce found.isEmpty run).run s with ⟨next, s₁⟩
    match next with
    | .error e => exact ⟨[], some e, s₁, by simp, Nat.zero_le _, trivial⟩
    | .ok none => exact ⟨[], none, s₁, by simp, Nat.zero_le _, trivial⟩
    | .ok (some (result, rest)) =>
      obtain ⟨hmatched, s₂, hstep⟩ := nextMatch_ok hnext
      obtain ⟨hlikely, hcertainty, hregion, hrest⟩ := step_eq_ok hstep
      obtain rfl := hrest.trans (if_pos hmatched)
      have hone : MatchRun.Tells run.origin run.hunt [result] :=
        ⟨hlikely hmatched, hmatched, hcertainty, hregion, trivial⟩
      dsimp only
      -- After the last result that is wanted the hunt does not go on.
      by_cases hlimit : limit = 0
      · exact ⟨[result], none, s₁, by simp [hlimit], by simp, hone⟩
      · rw [if_neg hlimit, run_bind, run_attempt]
        rcases hadvance : (guarded run.album run.advance).run s₁ with ⟨advance, s₃⟩
        cases advance with
        | error e => exact ⟨[result], some e, s₃, by simp, by simp, hone⟩
        | ok run' =>
          obtain ⟨horigin, hhunt⟩ := advance_ok hadvance
          obtain ⟨more, e, s', hrun, hlen, htells⟩ := ih run' (result :: found) s₃
          rw [horigin, hhunt] at htells
          refine ⟨result :: more, e, s', ?_, by simpa using hlen,
            hlikely hmatched, hmatched, hcertainty, hregion, htells⟩
          rw [reverse_cons, append_assoc] at hrun
          exact hrun

namespace MatchRun

variable {origin : Region} {h : Hunt} {results : List MatchResult}

lemma Tells.map_region {n : Nat} (ht : Tells origin h results) (hn : results.length ≤ n) :
    results.map (fun r => Except.ok r.region) = ((h.found n).take results.length).map fun c =>
        c.region.translate origin.x origin.y := by
  induction results generalizing h n with
  | nil => simp
  | cons r rest ih =>
    obtain ⟨hlikely, -, -, hregion, htells⟩ := ht
    obtain ⟨n, rfl⟩ : ∃ k, n = k + 1 := ⟨n - 1, by simp at hn; omega⟩
    rw [Hunt.found_of_matched hlikely, map_cons, length_cons, take_succ_cons,
      map_cons, hregion, ih htells (by simpa using hn)]

lemma Tells.matched (ht : Tells origin h results) : ∀ r ∈ results, r.matched = true := by
  induction results generalizing h with
  | nil => simp
  | cons r rest ih =>
    obtain ⟨-, hmatched, -, -, htells⟩ := ht
    intro r' hr'
    rcases mem_cons.1 hr' with rfl | hr'
    · exact hmatched
    · exact ih htells r' hr'

end MatchRun

namespace Hunt

variable {h : Hunt}

lemma Ready.translate_regionAt (hr : h.Ready) (p : Position) (dx dy : Int) :
    (h.regionAt p).translate (.int dx) (.int dy) = .ok (h.regionAt ⟨p.x + dx, p.y + dy⟩) := by
  have hw := hr.width
  have hh := hr.height
  rw [regionAt_eq, translate_ofInts (by omega) (by omega), regionAt_eq]
  simp only [Int.add_right_comm]

lemma Ready.pairwise_translate (hr : h.Ready) (n : Nat) (dx dy : Int) :
    (h.found n).Pairwise fun a b => ∀ u v, a.region.translate (.int dx) (.int dy) = .ok u →
      b.region.translate (.int dx) (.int dy) = .ok v → intersect (some u) (some v) = none := by
  refine (hr.pairwise_found n).imp_of_mem ?_
  rintro a b ha hb ⟨hdisjoint, -⟩ u v hu hv
  obtain ⟨y, x, -, -, -, rfl⟩ := hr.exists_of_mem_found ha
  obtain ⟨y', x', -, -, -, rfl⟩ := hr.exists_of_mem_found hb
  rw [hr.translate_regionAt] at hu hv
  cases hu
  cases hv
  rw [hr.intersect_regionAt] at hdisjoint ⊢
  simp only [Near] at hdisjoint ⊢
  omega

/-- A hunt at its start, in a picture of the given extent: every value is a score. -/
structure Opening (h : Hunt) (height width : Nat) : Prop where
  level : h.level = 0
  height_pos : 0 < h.height
  width_pos : 0 < h.width
  height_le : h.height ≤ height
  width_le : h.width ≤ width
  filled : h.heatmap.Filled
  rows : h.heatmap.height = height - h.height + 1
  columns : h.heatmap.width = width - h.width + 1
  inRange : ∀ v ∈ h.heatmap.values, h.method.InRange v
  selects : h.method.Selects h.threshold
  best : h.best = h.heatmap.best h.method h.threshold

namespace Opening

variable {h : Hunt} {height width : Nat}

lemma ready (ho : h.Opening height width) : h.Ready where
  level := ho.level
  width := ho.width_pos
  height := ho.height_pos
  rows := ho.rows ▸ Nat.succ_pos _
  columns := ho.columns ▸ Nat.succ_pos _
  filled := ho.filled
  usable := fun v hv => .inl (ho.inRange v hv)
  selects := ho.selects
  best := ho.best

variable {n : Nat}

lemma mem_found (ho : h.Opening height width) {c : Candidate} (hc : c ∈ h.found n) :
    c.region.width = .ok h.width ∧ c.region.height = .ok h.height ∧
      (ofSize width height).contains c.region = true ∧
      c.certainty.ge h.threshold = true := by
  obtain ⟨y, x, hy, hx, hreach, rfl⟩ := ho.ready.exists_of_mem_found hc
  have hback (a b : Int) : movedBack (.int (a + b)) (.int a) = .ok (.int b) := by
    simp [movedBack, Num.sub?, Num.join?]
  refine ⟨hback _ _, hback _ _, ?_, hreach⟩
  have hinside := contains_ofInts 0 0 width height x y (x + h.width) (y + h.height)
  refine hinside.2 ?_
  have hrows := ho.rows
  have hcolumns := ho.columns
  have hle := ho.width_le
  have hle' := ho.height_le
  omega

lemma results (ho : h.Opening height width) {template : Template} {frame : Frame}
    {params : MatchParameters} {region : Option Region} {s s₁ : Session} {run : MatchRun}
    (hstart : (start template frame params region).run s = (.ok run, s₁)) (hrun : run.hunt = h)
    {rs : List MatchResult} (htells : MatchRun.Tells run.origin h rs) (hn : rs.length ≤ n) :
    rs.Pairwise (fun a b => intersect (some a.region) (some b.region) = none) ∧
      ∀ r ∈ rs, run.origin.contains r.region = true := by
  obtain ⟨x, y, right, bottom, hp⟩ := start_ok hstart
  have hmap := htells.map_region hn
  rw [hp.origin] at hmap ⊢
  constructor
  · have hmoved := (ho.ready.pairwise_translate n x y).sublist (take_sublist rs.length _)
    have hlist : (rs.map fun r => (.ok r.region : Except Region.Error Region)).Pairwise fun a b =>
        ∀ u v, a = .ok u → b = .ok v → intersect (some u) (some v) = none := by
      rw [hmap]
      exact pairwise_map.2 hmoved
    exact (pairwise_map.1 hlist).imp fun hpair => hpair _ _ rfl rfl
  · intro r hr
    have hmem : (.ok r.region : Except Region.Error Region) ∈ rs.map fun r => .ok r.region :=
      mem_map.2 ⟨r, hr, rfl⟩
    rw [hmap, mem_map] at hmem
    obtain ⟨c, hc, hregion⟩ := hmem
    obtain ⟨y', x', hy, hx, -, rfl⟩ := ho.ready.exists_of_mem_found (mem_of_mem_take hc)
    rw [ofInts, ho.ready.translate_regionAt] at hregion
    rw [← Except.ok.inj hregion, regionAt_eq, contains_ofInts]
    have hlevel : run.hunt.level = 0 := hrun ▸ ho.level
    have hwidth := hp.width hlevel
    have hheight := hp.height hlevel
    have hle := hp.width_le
    have hle' := hp.height_le
    have hcolumns := hp.columns
    have hrows := hp.rows
    rw [hrun] at hwidth hheight hle hle'
    dsimp only
    omega

end Opening

end Hunt

lemma MatchRun.Placed.opening {x y right bottom : Int} (hp : run.Placed x y right bottom)
    (hlevel : run.hunt.level = 0) (hrange : ∀ v ∈ run.hunt.heatmap.values, run.hunt.method.InRange v)
    (hselects : run.hunt.method.Selects run.hunt.threshold) :
    run.hunt.Opening (bottom - y).toNat (right - x).toNat where
  level := hlevel
  height_pos := hp.height_pos
  width_pos := hp.width_pos
  height_le := hp.height_le
  width_le := hp.width_le
  filled := hp.filled
  rows := hp.height hlevel
  columns := hp.width hlevel
  inRange := hrange
  selects := hselects
  best := hp.best

namespace Hunt

/-- **The candidates of a hunt are a greedy maximal packing.** Those that match have the extent of
the template, lie inside the picture and reach the threshold; they come in the order of their
certainties and do not overlap. When one does not match, each position whose certainty reaches the
threshold overlaps one that matched; and that happens after at most as many steps as there are
positions. The results of a search are such candidates, moved to where the searched part of the
frame lies: so they lie inside that part and do not overlap. -/
theorem candidates_pack_greedily {h : Hunt} {height width : Nat} (ho : h.Opening height width) :
    (∀ n,
      (∀ c ∈ h.found n, c.region.width = .ok h.width ∧ c.region.height = .ok h.height ∧
        (Region.ofSize width height).contains c.region = true ∧
        c.certainty.ge h.threshold = true) ∧
      (h.found n).Pairwise (fun a b => Region.intersect (some a.region) (some b.region) = none ∧
        a.certainty.ge b.certainty = true) ∧
      (∀ c ∈ h.candidates n, c.matched = false →
        ∀ y x, y < h.heatmap.height → x < h.heatmap.width →
          (Num.ofFloat (Heatmap.certaintyOf h.method (h.heatmap.value y x))).ge h.threshold = true →
          ∃ c' ∈ h.found n,
            Region.intersect (some (h.regionAt ⟨x, y⟩)) (some c'.region) ≠ none) ∧
      (h.heatmap.height * h.heatmap.width < n → ∃ c ∈ h.candidates n, c.matched = false)) ∧
    ∀ template frame params region s s₁ run,
      (MatchRun.start template frame params region).run s = (.ok run, s₁) → run.hunt = h →
      ∀ announce limit s₂, ∃ results e s₃,
        (collectMatches announce limit run []).run s₂ = (.ok (results, e), s₃) ∧
        results.map (fun r => Except.ok r.region) =
          ((h.found limit).take results.length).map
            (fun c => c.region.translate run.origin.x run.origin.y) ∧
        results.Pairwise (fun a b => Region.intersect (some a.region) (some b.region) = none) ∧
        ∀ r ∈ results, r.matched = true ∧ run.origin.contains r.region = true := by
  constructor
  · intro n
    refine ⟨fun c hc => ho.mem_found hc, ho.ready.pairwise_found n, ?_, ?_⟩
    · intro c hc hm y x hy hx hreach
      exact ho.ready.exists_meets_found hc hm hy hx hreach
    · intro hn
      exact ho.ready.exists_not_matched (Nat.lt_of_le_of_lt h.openCount_le hn)
  · intro template frame params region s s₁ run hstart hrun announce limit s₂
    obtain ⟨results, e, s₃, hcollect, hlen, htells⟩ := collectMatches_ok announce limit run [] s₂
    rw [hrun] at htells
    obtain ⟨hdisjoint, hinside⟩ := ho.results hstart hrun htells hlen
    exact ⟨results, e, s₃, hcollect, htells.map_region hlen, hdisjoint,
      fun r hr => ⟨htells.matched r hr, hinside r hr⟩⟩

def strip : Image :=
  ⟨1, 6, some 3, #[9, 9, 9, 255, 255, 255, 255, 255, 255, 255, 255, 255, 255, 255, 255, 255, 255,
    255], .byte⟩

def stripSearch : Act MatchRun :=
  start { image := ⟨1, 2, some 3, #[255, 255, 255, 255, 255, 255], .byte⟩ }
    { image := strip }
    ⟨"sqdiff-normed", .number (.real 0.8), "none", .number (.real 0.5), .number 1⟩
    (some ⟨1, 0, .posInf, .posInf⟩)

def plainSession : Session :=
  { verbosity := some 0, settings := some { sections := [("match", [("pyramid_levels", "1")])] } }

def startsWell : Except Fault MatchRun → Bool
  | .ok run => run.hunt.level = 0 ∧ run.hunt.height = 1 ∧ run.hunt.width = 2 ∧
      run.hunt.heatmap.height = 1 ∧ run.hunt.heatmap.width = 4 ∧
      (∀ v ∈ run.hunt.heatmap.values.toList, run.hunt.method.InRange v) ∧
      run.hunt.method.Selects run.hunt.threshold
  | .error _ => false

/-- All four positions in the white part fit perfectly; two of them are found. -/
theorem strip_packed : ∃ run s₁ results e s₂, stripSearch.run plainSession = (.ok run, s₁) ∧
    run.hunt.Opening 1 5 ∧
    (collectMatches (fun _ => pure ()) 9 run []).run s₁ = (.ok (results, e), s₂) ∧
    results.length = 2 ∧
    results.Pairwise (fun a b => Region.intersect (some a.region) (some b.region) = none) ∧
    (∀ r ∈ results, r.matched = true ∧ run.origin.contains r.region = true) ∧
    ∃ c ∈ run.hunt.candidates 5, c.matched = false := by
  have hgood : startsWell (stripSearch.run plainSession).1 = true := by decide +kernel
  have hcount : (match ((do collectMatches (fun _ => pure ()) 9 (← stripSearch) []).run
      plainSession).1 with
      | .ok (results, _) => results.length
      | .error _ => 0) = 2 := by decide +kernel
  rcases hstart : stripSearch.run plainSession with ⟨_ | run, s₁⟩
  · rw [hstart] at hgood
    cases hgood
  rw [hstart] at hgood
  obtain ⟨hlevel, hheight, hwidth, hrows, hcolumns, hrange, hselects⟩ := of_decide_eq_true hgood
  obtain ⟨x, y, right, bottom, hp⟩ := start_ok hstart
  have hopening : run.hunt.Opening 1 5 := by
    have hrows' := hp.height hlevel
    have hcolumns' := hp.width hlevel
    have hle := hp.height_le
    have hle' := hp.width_le
    have hbottom : (bottom - y).toNat = 1 := by omega
    have hright : (right - x).toNat = 5 := by omega
    rw [← hbottom, ← hright]
    exact hp.opening hlevel (by simpa using hrange) hselects
  obtain ⟨hpack, hsearch⟩ := candidates_pack_greedily hopening
  obtain ⟨results, e, s₂, hcollect, -, hdisjoint, hinside⟩ :=
    hsearch _ _ _ _ _ _ run hstart rfl (fun _ => pure ()) 9 s₁
  rw [Act.bind_of_ok hstart, hcollect] at hcount
  refine ⟨run, s₁, results, e, s₂, rfl, hopening, hcollect, hcount, hdisjoint, hinside, ?_⟩
  exact (hpack 5).2.2.2 (by rw [hrows, hcolumns]; decide)

end Hunt

end SetTop

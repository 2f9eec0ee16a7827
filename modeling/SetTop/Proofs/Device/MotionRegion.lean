import SetTop.Proofs.Device.MotionWindow
import SetTop.Proofs.Image.Places

/-!
Where motion is found.

Thinning keeps a place if it and the four places next to it differ by more than the noise allows
(`Motion.Survives`), and there is motion if some place is kept. The region that is reported begins
one column and one row before the first places that are kept, but it ends with the last ones. So
what thinning took away is given back on two sides only, and the region may begin outside of the
frame (`motionStep_region`).
-/

namespace SetTop

open List Act Image Region Display Motion

namespace Motion

open Image (IsGrey Touches Bounded)

/-! ### Motion -/

def change (mask : Option Image) (before now : Image) (y x : Nat) : Nat :=
  let difference := Image.distance (now.value y x 0) (before.value y x 0)
  match mask with
  | none => difference
  | some m => Nat.land difference (m.value y x 0)

/-- A place of the frame that is kept by thinning: at each place that it touches inside the frame
there is more than noise. -/
def Survives (limit : Int) (mask : Option Image) (before now : Image) (y x : Nat) : Prop :=
  y < now.height ∧ x < now.width ∧ ∀ y' x', Touches y x y' x' → y' < now.height →
    x' < now.width → limit < change mask before now y' x'

variable {threshold : Json} {limit : Int} {mask : Option Image} {before now : Image} {h w : Nat}

lemma inked_thinned_iff {shown : Image} (hnow : now.IsGrey h w) (hshown : shown.IsGrey h w)
    (hvalue : ∀ y x, y < h → x < w → shown.value y x 0 = change mask before now y x) (y x : Nat) :
    (Image.threshold limit shown).erodeOnce.Inked y x ↔ Survives limit mask before now y x := by
  have hcoarse : (Image.threshold limit shown).IsGrey h w := hshown.map _
  rw [inked_erodeOnce_iff, hcoarse.height, hcoarse.width, Survives, hnow.height, hnow.width]
  refine and_congr_right fun hy => and_congr_right fun hx => ?_
  refine forall₂_congr fun y' x' => forall_congr' fun _ => forall₂_congr fun hy' hx' => ?_
  rw [hshown.value_threshold_ne_zero limit hy' hx', hvalue y' x' hy' hx']

lemma exists_compare (hbefore : before.IsGrey h w) (hnow : now.IsGrey h w)
    (hmask : ∀ m ∈ mask, m.IsGrey h w) (hlimit : noiseLimit threshold = .ok limit) :
    ∃ t, compare threshold mask before now = .ok t ∧ t.fine.channels = none ∧
      ∀ y x, t.fine.Inked y x ↔ Survives limit mask before now y x := by
  obtain ⟨difference, hdifference, hgrey, hvalue⟩ := hnow.exists_combine hbefore Image.distance
  cases mask with
  | none =>
    refine ⟨⟨difference, none, Image.threshold limit difference, _⟩, ?_, rfl,
      inked_thinned_iff hnow hgrey hvalue⟩
    rw [compare, Image.absoluteDifference, hdifference, hlimit]
    rfl
  | some m =>
    obtain ⟨masked, hmasked, hgrey', hvalue'⟩ := hgrey.exists_combine (hmask m rfl) Nat.land
    have hland (y x : Nat) (hy : y < h) (hx : x < w) :
        masked.value y x 0 = change (some m) before now y x := by
      rw [hvalue' y x hy hx, hvalue y x hy hx]
      rfl
    refine ⟨⟨difference, some (m, masked), Image.threshold limit masked, _⟩, ?_, rfl,
      inked_thinned_iff hnow hgrey' hland⟩
    rw [compare, Image.absoluteDifference, hdifference, hlimit]
    dsimp only [bind, Except.bind]
    rw [Image.both, hmasked]
    rfl

/-! ### The region -/

/-- The region around the places that are kept. It begins one column and one row before them, and
it ends with the last ones. -/
lemma regionOf_eq {t : MotionTrace} {p : Nat → Nat → Prop} (hchannels : t.fine.channels = none)
    (hink : ∀ y x, t.fine.Inked y x ↔ p y x) :
    ((∃ y x, p y x) → ∃ left top right bottom : Nat, Bounded p left top right bottom ∧
      regionOf t = .ok (some (.ofInts (left - 1) (top - 1) (right + 1) (bottom + 1)))) ∧
    ((¬ ∃ y x, p y x) → regionOf t = .ok none) := by
  obtain rfl : t.fine.Inked = p := funext₂ fun y x => propext (hink y x)
  have hbox : pixelBoundingBox t.fine = .ok t.fine.inkBox := by rw [pixelBoundingBox, hchannels]
  rw [regionOf, hbox]
  constructor
  · intro hsome
    obtain ⟨left, top, right, bottom, hbounded, hink⟩ := inkBox_eq_some hsome
    have hcolumns : left ≤ right := hbounded.left.2 hbounded.right.1
    have hrows : top ≤ bottom := hbounded.top.2 hbounded.bottom.1
    have hextend :
        (Region.ofInts left top (right + 1) (bottom + 1)).extend (-1 : Int) (-1 : Int) 0 0 =
          .ok (.ofInts (left - 1) (top - 1) (right + 1 + 0) (bottom + 1 + 0)) :=
      extend_ofInts (by omega) (by omega)
    rw [Int.add_zero, Int.add_zero] at hextend
    refine ⟨left, top, right, bottom, hbounded, ?_⟩
    rw [hink]
    dsimp only [bind, Except.bind]
    rw [hextend]
    rfl
  · intro hnone
    rw [inkBox_eq_none hnone]
    rfl

end Motion

namespace Device

open Image (Touches Bounded)
open Motion (Survives noiseLimit)

def placeRegion (y x : Nat) : Region := .ofInts x y (x + 1) (y + 1)

/-- What a result says about the places where something moved. It has a region if there are any. The
region lies inside the frame if none of them touches its left or upper edge. Of what touches them
inside the frame, it holds what does not lie beyond the last column or the last row of them, and so
it holds all of it only if they reach the right and the lower edge of the frame. -/
structure Reports (p : Nat → Nat → Prop) (height width : Nat) (r : MotionResult) : Prop where
  motion_iff : r.motion = true ↔ ∃ y x, p y x
  region_isSome : r.region.isSome = r.motion
  region {region : Region} (h : r.region = some region) :
    ∃ left top right bottom : Nat, Bounded p left top right bottom ∧
      region = .ofInts (left - 1) (top - 1) (right + 1) (bottom + 1) ∧
      ((Region.ofSize width height).contains region = true ↔ 0 < left ∧ 0 < top) ∧
      (∀ y x y' x', p y x → Touches y x y' x' → y' < height → x' < width →
        (region.contains (placeRegion y' x') = true ↔ x' ≤ right ∧ y' ≤ bottom)) ∧
      ((∀ y x y' x', p y x → Touches y x y' x' → y' < height → x' < width →
        region.contains (placeRegion y' x') = true) ↔ right + 1 = width ∧ bottom + 1 = height)

variable {p : Nat → Nat → Prop} {task : MotionTask} {f : Frame} {previous previous' : Option Image}
  {result : Option MotionResult} {s s' : Session}

lemma reports_of_bounded {left top right bottom h w : Nat} (hp : ∀ y x, p y x → y < h ∧ x < w)
    (hbounded : Bounded p left top right bottom) (time : Option Num) : Reports p h w
      ⟨time, true, some (.ofInts (left - 1) (top - 1) (right + 1) (bottom + 1))⟩ := by
  obtain ⟨yright, hyright⟩ := hbounded.right.1
  obtain ⟨xbottom, hxbottom⟩ := hbounded.bottom.1
  have hwidth : right < w := (hp _ _ hyright).2
  have hheight : bottom < h := (hp _ _ hxbottom).1
  have hplace {y x y' x' : Nat} (hpyx : p y x) (htouch : Touches y x y' x') :
      (Region.ofInts (left - 1) (top - 1) (right + 1) (bottom + 1)).contains (placeRegion y' x') =
        true ↔ x' ≤ right ∧ y' ≤ bottom := by
    have hx : left ≤ x := hbounded.left.2 ⟨y, hpyx⟩
    have hy : top ≤ y := hbounded.top.2 ⟨x, hpyx⟩
    simp only [Touches, Image.distance] at htouch
    rw [placeRegion, contains_ofInts]
    omega
  refine ⟨iff_of_true rfl ⟨_, _, hyright⟩, rfl, ?_⟩
  rintro region ⟨⟩
  refine ⟨left, top, right, bottom, hbounded, rfl, ?_, ?_, ?_⟩
  · have hcontains := contains_ofInts 0 0 w h (left - 1) (top - 1) (right + 1) (bottom + 1)
    refine hcontains.trans ?_
    omega
  · intro y x y' x' hpyx htouch _ _
    exact hplace hpyx htouch
  · constructor
    · intro hall
      -- The places after the last column and below the last row touch a place that is kept.
      constructor
      · by_contra hne
        have htouch : Touches yright right yright (right + 1) := by
          simp only [Touches, Image.distance]
          omega
        have hin := hall _ _ _ _ hyright htouch (hp _ _ hyright).1 (by omega)
        have := ((hplace hyright htouch).1 hin).1
        omega
      · by_contra hne
        have htouch : Touches bottom xbottom (bottom + 1) xbottom := by
          simp only [Touches, Image.distance]
          omega
        have hin := hall _ _ _ _ hxbottom htouch (by omega) (hp _ _ hxbottom).2
        have := ((hplace hxbottom htouch).1 hin).2
        omega
    · rintro ⟨hright, hbottom⟩ y x y' x' hpyx htouch hy hx
      exact (hplace hpyx htouch).2 ⟨by omega, by omega⟩

lemma reports_nothing (h w : Nat) (hnone : ¬ ∃ y x, p y x) (time : Option Num) :
    Reports p h w ⟨time, false, none⟩ :=
  ⟨iff_of_false Bool.false_ne_true hnone, rfl, fun h => by cases h⟩

section Step

variable {task : MotionTask} {f : Frame} {before now : Image} {limit : Int}

def deliverMotion (now : Image) (t : MotionTrace) (r : MotionResult) :
    Act (Option Image × Option MotionResult) := do
  saveTrace now t
  markMotion r
  Log.debug ((if r.motion then "Motion" else "No motion") ++ " found: " ++ r.text)
  return (some now, some r)

variable {t : MotionTrace} {s s' : Session} {r : MotionResult} {previous : Option Image}

lemma run_motionStep {region : Option Region} (hnow : f.image.grey = .ok now)
    (hcompare : compare task.threshold task.mask before now = .ok t)
    (hregion : regionOf t = .ok region) (s : Session) :
    (motionStep task (some before) f).run s =
      (deliverMotion now t ⟨f.time, region.isSome, region⟩).run s := by
  rw [motionStep, hnow, bind_of_ok (run_ofExcept (.ok now) s)]
  dsimp only
  rw [hcompare]
  dsimp only
  rw [hregion, deliverMotion, run_bind, run_bind]
  rcases (saveTrace now t).run s with ⟨e | ⟨⟩, s₁⟩
  · rfl
  · dsimp only
    rw [bind_of_ok (run_ofExcept (.ok region) s₁)]

lemma exists_run_motionStep (hnow : f.image.grey = .ok now)
    (hbefore : before.IsGrey f.image.height f.image.width)
    (hmask : ∀ m ∈ task.mask, m.IsGrey f.image.height f.image.width)
    (hlimit : noiseLimit task.threshold = .ok limit) : ∃ t r, r.time = f.time ∧
      Reports (Survives limit task.mask before now) f.image.height f.image.width r ∧
      ∀ s, (motionStep task (some before) f).run s = (deliverMotion now t r).run s := by
  have hgrey := grey_eq_ok hnow
  obtain ⟨t, hcompare, hchannels, hink⟩ := exists_compare hbefore hgrey hmask hlimit
  obtain ⟨hsome, hnone⟩ := regionOf_eq hchannels hink
  by_cases hmoved : ∃ y x, Survives limit task.mask before now y x
  · obtain ⟨left, top, right, bottom, hbounded, hregion⟩ := hsome hmoved
    refine ⟨t, _, rfl, reports_of_bounded (fun y x hyx => ?_) hbounded f.time,
      run_motionStep hnow hcompare hregion⟩
    rw [← hgrey.height, ← hgrey.width]
    exact ⟨hyx.1, hyx.2.1⟩
  · exact ⟨t, _, rfl, reports_nothing _ _ hmoved f.time,
      run_motionStep hnow hcompare (hnone hmoved)⟩

lemma run_saveTrace (hs : Quiet s) (now : Image) (t : MotionTrace) :
    (saveTrace now t).run s = (.ok (), s) := by
  rw [saveTrace, bind_of_ok (hs.run_openAlbum _ _)]
  cases t.masked <;> rfl

lemma deliverMotion_ok (hs : Quiet s) (now : Image) (t : MotionTrace) {time : Option Int}
    (htime : nanoseconds r.time = .ok time) :
    ((deliverMotion now t r).run s).1 = .ok (some now, some r) := by
  obtain ⟨marked, hmark⟩ : ∃ display : Option Display,
      (markMotion r).run s = (.ok (), { s with display := display }) := by
    rw [markMotion, addMark, htime]
    exact ⟨_, rfl⟩
  have hknown : Log.Known { s with display := marked } := hs.known
  have hdebug := Log.ok_debug hknown
    ((if r.motion then "Motion" else "No motion") ++ " found: " ++ r.text)
  rw [deliverMotion, bind_of_ok (run_saveTrace hs now t), bind_of_ok hmark,
    bind_of_ok (Prod.ext hdebug rfl)]
  rfl

lemma deliverMotion_eq_ok {result : Option MotionResult}
    (h : (deliverMotion now t r).run s = (.ok (previous, result), s')) :
    previous = some now ∧ result = some r := by
  obtain ⟨_, _, -, h⟩ := bind_eq_ok h
  obtain ⟨_, _, -, h⟩ := bind_eq_ok h
  obtain ⟨_, _, -, h⟩ := bind_eq_ok h
  cases h
  exact ⟨rfl, rfl⟩

lemma compare_eq_ok {mask : Option Image} {threshold : Json} {h w : Nat} (hnow : now.IsGrey h w)
    (hbefore : before.Filled) (hmask : ∀ m ∈ mask, m.Filled)
    (hcompare : compare threshold mask before now = .ok t) :
    before.IsGrey h w ∧ ∀ m ∈ mask, m.IsGrey h w := by
  obtain ⟨difference, hdifference, hcompare⟩ := exists_of_bind_eq_ok hcompare
  obtain ⟨hbefore, hgrey⟩ := hnow.of_combine hbefore hdifference
  refine ⟨hbefore, ?_⟩
  rintro m rfl
  obtain ⟨both, hboth, -⟩ := exists_of_bind_eq_ok hcompare
  exact (hgrey.of_combine (hmask m rfl) hboth).1

lemma reports_of_motionStep (hbefore : before.Filled) (hmask : ∀ m ∈ task.mask, m.Filled)
    (hlimit : noiseLimit task.threshold = .ok limit)
    (hrun : (motionStep task (some before) f).run s = (.ok (previous, some r), s')) :
    ∃ now, f.image.grey = .ok now ∧ before.IsGrey f.image.height f.image.width ∧ r.time = f.time ∧
      Reports (Survives limit task.mask before now) f.image.height f.image.width r := by
  have hstep := hrun
  rw [motionStep] at hstep
  obtain ⟨now, s₁, hgrey, hstep⟩ := bind_eq_ok hstep
  rw [run_ofExcept] at hgrey
  have hnow : f.image.grey = .ok now := congrArg Prod.fst hgrey
  cases hcompare : compare task.threshold task.mask before now with
  | error e =>
    simp only [hcompare] at hstep
    obtain ⟨_, _, -, hstep⟩ := bind_eq_ok hstep
    cases hstep
  | ok t =>
    obtain ⟨hbefore, hmask⟩ := compare_eq_ok (grey_eq_ok hnow) hbefore hmask hcompare
    obtain ⟨t, r', htime, hreports, hdeliver⟩ :=
      exists_run_motionStep hnow hbefore hmask hlimit
    rw [hdeliver s] at hrun
    obtain ⟨-, hr⟩ := deliverMotion_eq_ok hrun
    cases hr
    exact ⟨now, hnow, hbefore, htime, hreports⟩

end Step

/-- A picture of which it is known that it is a frame in grey. -/
def Shot (previous : Option Image) : Prop :=
  ∀ before ∈ previous, ∃ f₀ : Frame, f₀.image.grey = .ok before

lemma shot_of_motionStep (hrun : (motionStep task previous f).run s = (.ok (previous', result), s')) :
    Shot previous' ∧ (previous = none → result = none) := by
  rw [motionStep] at hrun
  obtain ⟨now, s₁, hgrey, hrun⟩ := bind_eq_ok hrun
  rw [run_ofExcept] at hgrey
  have hshot : Shot (some now) := by
    rintro before ⟨⟩
    exact ⟨f, congrArg Prod.fst hgrey⟩
  cases previous with
  | none =>
    dsimp only at hrun
    split at hrun
    · split at hrun
      · obtain ⟨_, _, hfail, -⟩ := bind_eq_ok hrun
        cases hfail
      · cases hrun
        exact ⟨hshot, fun _ => rfl⟩
    · cases hrun
      exact ⟨hshot, fun _ => rfl⟩
  | some before =>
    refine ⟨?_, fun h => by cases h⟩
    dsimp only at hrun
    split at hrun
    · obtain ⟨_, _, -, hrun⟩ := bind_eq_ok hrun
      cases hrun
    · obtain ⟨_, _, -, hrun⟩ := bind_eq_ok hrun
      obtain ⟨_, _, -, hrun⟩ := bind_eq_ok hrun
      obtain ⟨_, _, -, hrun⟩ := bind_eq_ok hrun
      obtain ⟨_, _, -, hrun⟩ := bind_eq_ok hrun
      cases hrun
      exact hshot

/-- Whether a result is a report on two frames of the same extent. -/
def IsReport (task : MotionTask) (limit : Int) (r : MotionResult) : Prop :=
  ∃ (f₀ f : Frame) (before now : Image), f₀.image.grey = .ok before ∧ f.image.grey = .ok now ∧
    before.size = now.size ∧ r.time = f.time ∧
    Reports (Survives limit task.mask before now) now.height now.width r

lemma isReport_of_motionStep {limit : Int} (hmask : ∀ m ∈ task.mask, m.Filled)
    (hlimit : noiseLimit task.threshold = .ok limit) (hprevious : Shot previous)
    (hrun : (motionStep task previous f).run s = (.ok (previous', result), s')) :
    ∀ r ∈ result, IsReport task limit r := by
  rintro r rfl
  cases previous with
  | none => cases (shot_of_motionStep hrun).2 rfl
  | some before =>
    obtain ⟨f₀, hbefore⟩ := hprevious before rfl
    obtain ⟨now, hnow, hgrey, htime, hreports⟩ :=
      reports_of_motionStep (grey_eq_ok hbefore).filled hmask hlimit hrun
    have hnowGrey := grey_eq_ok hnow
    refine ⟨f₀, f, before, now, hbefore, hnow, ?_, htime, ?_⟩
    · rw [Image.size, Image.size, hgrey.height, hgrey.width, hnowGrey.height, hnowGrey.width]
    · rwa [hnowGrey.height, hnowGrey.width]

/-- Every result of a look for motion says of two frames whether something moved, and where: each
place that is kept by thinning is in the region, but what touches such a place is only on the left
and above. Any two frames of the same extent give such a result. -/
theorem detectMotion_regions {threshold maskName : Json} {task : MotionTask} {limit : Int}
    {s s₁ : Session} (hstart : (startMotion threshold maskName).run s = (.ok task, s₁))
    (hmask : ∀ m ∈ task.mask, m.Filled) (hlimit : noiseLimit task.threshold = .ok limit) :
    (∀ timeout n rs e s', (detectMotion timeout threshold maskName n).run s = (.ok (rs, e), s') →
      ∀ r ∈ rs, IsReport task limit r) ∧
    ∀ (f₀ f : Frame) (before now : Image), f₀.image.grey = .ok before → f.image.grey = .ok now →
      before.size = now.size → (∀ m ∈ task.mask, m.IsGrey now.height now.width) →
      ∃ r, r.time = f.time ∧ Reports (Survives limit task.mask before now) now.height now.width r ∧
        (∀ s s' previous result,
          (motionStep task (some before) f).run s = (.ok (previous, result), s') →
          previous = some now ∧ result = some r) ∧
        ∀ s time, Quiet s → nanoseconds f.time = .ok time →
          ((motionStep task (some before) f).run s).1 = .ok (some now, some r) := by
  constructor
  · intro timeout n rs e s' hrun r hr
    have hdelivers : Display.Delivers (detectMotion timeout threshold maskName) s
        (seen timeout (motionStep task) none s₁).1
        (seen timeout (motionStep task) none s₁).2 := by
      rw [detectMotion_eq]
      exact delivers_prepared hstart (delivers_collect timeout none _ s₁)
    rw [hdelivers.eq_take (congrArg Prod.fst hrun)] at hr
    refine forall_mem_looks_of_keeps (I := Shot) (fun hshot hstep => ?_)
      (fun _ h => by cases h) r (List.mem_of_mem_take hr)
    exact ⟨(shot_of_motionStep hstep).1, isReport_of_motionStep hmask hlimit hshot hstep⟩
  · intro f₀ f before now hbefore hnow hsize hmask
    have hgrey := grey_eq_ok hnow
    have hbeforeGrey : before.IsGrey now.height now.width := by
      have h := grey_eq_ok hbefore
      obtain ⟨hheight, hwidth⟩ := Extent.mk.inj hsize
      exact ⟨h.filled, h.channels, Int.ofNat.inj hheight, Int.ofNat.inj hwidth⟩
    rw [hgrey.height, hgrey.width] at hbeforeGrey hmask ⊢
    obtain ⟨t, r, htime, hreports, hrun⟩ := exists_run_motionStep hnow hbeforeGrey hmask hlimit
    refine ⟨r, htime, hreports, ?_, ?_⟩
    · intro s s' previous result hok
      rw [hrun] at hok
      exact deliverMotion_eq_ok hok
    · intro s time hs hnanoseconds
      rw [hrun]
      exact deliverMotion_ok hs now t (htime ▸ hnanoseconds)

/-! ### Motion in a corner -/

def shaded (shades : List Nat) (time : Int) : Frame :=
  { image := ⟨4, 4, some 3, (shades.flatMap fun v => [v, v, v]).toArray, .byte⟩
    time := some (.int time) }

def darkCorner : Frame := shaded (List.replicate 16 0) 1

def brightCorner : Frame :=
  shaded [255, 255, 255, 0, 255, 255, 255, 0, 255, 255, 255, 0, 0, 0, 0, 0] 2

def intEdges : Region → Option (Int × Int × Int × Int)
  | ⟨.int x, .int y, .int right, .int bottom⟩ => some (x, y, right, bottom)
  | _ => none

def reportedEdges : Except Fault (Option Image × Option MotionResult) →
    Option (Int × Int × Int × Int)
  | .ok (_, some r) => r.region.bind intEdges
  | _ => none

/-- Four of the places that light up are kept, and the region around them begins outside of the
frame and ends before what touches them. -/
theorem corner_motion_is_cut_off : ∃ before now r region,
    darkCorner.image.grey = .ok before ∧ brightCorner.image.grey = .ok now ∧
    ((motionStep ⟨moderate, .null, none⟩ (some before) brightCorner).run (glowing [])).1 =
      .ok (some now, some r) ∧
    r.region = some region ∧ intEdges region = some (-1, -1, 2, 2) ∧
    (Region.ofSize 4 4).contains region = false ∧
    ∃ y x y' x', Survives 40 none before now y x ∧ Touches y x y' x' ∧ y' < 4 ∧ x' < 4 ∧
      region.contains (placeRegion y' x') = false := by
  have hstart : (startMotion moderate .null).run (glowing []) =
      (.ok ⟨moderate, .null, none⟩, glowing []) := rfl
  have hlimit : noiseLimit moderate = .ok 40 := by decide +kernel
  have htime : nanoseconds brightCorner.time = .ok (some 2000000000) := by decide +kernel
  have hedges : reportedEdges (do
      let before ← darkCorner.image.grey
      ((motionStep ⟨moderate, .null, none⟩ (some before) brightCorner).run (glowing [])).1) =
      some (-1, -1, 2, 2) := by decide +kernel
  obtain ⟨before, hbefore⟩ : ∃ before, darkCorner.image.grey = .ok before := ⟨_, rfl⟩
  obtain ⟨now, hnow⟩ : ∃ now, brightCorner.image.grey = .ok now := ⟨_, rfl⟩
  have hbeforeGrey := grey_eq_ok hbefore
  have hnowGrey := grey_eq_ok hnow
  obtain ⟨-, hpairs⟩ := detectMotion_regions hstart (fun m hm => by cases hm) hlimit
  have hsize : before.size = now.size := by
    rw [Image.size, Image.size, hbeforeGrey.height, hbeforeGrey.width, hnowGrey.height, hnowGrey.width]
    rfl
  obtain ⟨r, -, hreports, -, hquiet⟩ := hpairs darkCorner brightCorner before now hbefore hnow hsize
    fun m hm => by cases hm
  have hrun := hquiet (glowing []) _ ⟨0, rfl, rfl⟩ htime
  have hstep : (do
      let before ← darkCorner.image.grey
      ((motionStep ⟨moderate, .null, none⟩ (some before) brightCorner).run (glowing [])).1) =
      .ok (some now, some r) := by
    rw [hbefore]
    exact hrun
  rw [hstep] at hedges
  obtain ⟨region, hregion, hedges⟩ := Option.bind_eq_some_iff.1 hedges
  obtain ⟨left, top, right, bottom, -, rfl, hinside, -, hall⟩ := hreports.region hregion
  obtain ⟨hleft, -, hright, -⟩ : (left : Int) - 1 = -1 ∧ (top : Int) - 1 = -1 ∧
      (right : Int) + 1 = 2 ∧ (bottom : Int) + 1 = 2 := by simpa using Option.some.inj hedges
  have hheight : now.height = 4 := hnowGrey.height
  have hwidth : now.width = 4 := hnowGrey.width
  rw [hheight, hwidth] at hinside hall
  refine ⟨before, now, r, _, hbefore, hnow, hrun, hregion, hedges, ?_, ?_⟩
  · rw [Bool.eq_false_iff]
    exact fun h => absurd (hinside.1 h).1 (by omega)
  · have hmissing := mt hall.1 fun h => absurd h.1 (by omega)
    push Not at hmissing
    simpa using hmissing

end Device

end SetTop

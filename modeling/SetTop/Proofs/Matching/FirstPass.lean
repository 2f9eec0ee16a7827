import SetTop.Matching.Search
import SetTop.Proofs.Matching.Heatmap

/-!
What the descent through the pyramids ends with.

The heatmap of a level has one value for each position at which the template of that level lies
inside its picture, and on the largest level these are the template and the picture that were given.

The descent does not break down. The connected areas of a mask leave out its outermost rows and
columns (`Image.innerRect_of_mem_contours`), and so the regions of interest around them begin inside
the heatmap of the next level, although picture and template were halved and rounded up, each by
itself (`Search.begins_of_mem_regionsOfInterest`). A region that begins there can be searched
(`Heatmap.searchOne_eq`).
-/

namespace SetTop

open List Heatmap Image

/-- Whether the heatmap has one value for each position of the template in the picture. -/
def Heatmap.Spans (m : Heatmap) (image template : Image) : Prop :=
  m.Filled ∧ m.height = image.height - template.height + 1 ∧
    m.width = image.width - template.width + 1

namespace Search

lemma spans_blank (method : MatchMethod) (image template : Image) :
    (blank method image template).Spans image template :=
  ⟨filled_generate .., rfl, rfl⟩

variable {method : MatchMethod} {image template : Image} {m m' : Heatmap}
  {threshold : Nat → Except Fault Num} {ls : List (Nat × Image × Image)} {mask : Option Image}
  {r : LevelReport}

lemma spans_searchOne {roi : Rect} (h : m.Spans image template)
    (hsearch : searchOne method image template m roi = .ok m') : m'.Spans image template := by
  dsimp only [searchOne, bind, Except.bind] at hsearch
  split at hsearch
  · cases hsearch
  · split at hsearch
    · cases hsearch
      exact ⟨filled_generate .., h.2⟩
    · cases hsearch

lemma spans_searchRegions {rois : List Rect} {done : Nat} (h : m.Spans image template)
    (hsearch : searchRegions method image template rois done m = .ok m') : m'.Spans image template := by
  fun_induction searchRegions method image template rois done m with
  | case1 => exact Except.ok.inj hsearch ▸ h
  | case2 _ _ _ _ _ hone ih => exact ih (spans_searchOne h hone) hsearch
  | case3 => cases hsearch

lemma mem_reports_descend (hr : r ∈ (descend method threshold ls mask).reports) :
    (r.level, r.image, r.template) ∈ ls ∧ r.heatmap.Spans r.image r.template ∧
      threshold r.level = .ok r.threshold ∧ r.best = r.heatmap.best method r.threshold := by
  fun_induction descend method threshold ls mask with
  | case1 | case2 | case3 => cases hr
  | case4 level image template rest mask _ _ heatmap hsearch t ht _ _ _ _ ih =>
    rcases mem_cons.1 hr with rfl | hr
    · exact ⟨mem_cons_self, spans_searchRegions (spans_blank ..) hsearch, ht, rfl⟩
    · exact (ih hr).imp_left (mem_cons_of_mem _)
  | case5 level image template rest mask _ _ heatmap hsearch t ht =>
    obtain rfl := mem_singleton.1 hr
    exact ⟨mem_cons_self, spans_searchRegions (spans_blank ..) hsearch, ht, rfl⟩

lemma eq_nil_of_reports_eq_nil (hbroken : (descend method threshold ls mask).broken = none)
    (hnil : (descend method threshold ls mask).reports = []) : ls = [] := by
  fun_induction descend method threshold ls mask with
  | case1 => rfl
  | case2 | case3 => cases hbroken
  | case4 | case5 => cases hnil

/-- A descent goes on below a level that matches, so that the last report is about the last level if
it is one of a match. -/
lemma last_level_of_matched (hbroken : (descend method threshold ls mask).broken = none)
    (hlast : (descend method threshold ls mask).reports.getLast? = some r)
    (hmatched : r.best.matched = true) : ls.getLast? = some (r.level, r.image, r.template) := by
  fun_induction descend method threshold ls mask with
  | case1 | case2 | case3 => cases hlast
  | case4 level image template rest mask _ _ _ _ _ _ _ report _ below ih =>
    rw [getLast?_cons] at hlast ⊢
    cases hreports : below.reports.getLast? with
    | none =>
      rw [hreports] at hlast
      cases hlast
      rw [eq_nil_of_reports_eq_nil hbroken (getLast?_eq_none_iff.1 hreports)]
      rfl
    | some r' =>
      rw [hreports] at hlast
      cases hlast
      rw [ih hbroken hreports]
      rfl
  | case5 =>
    cases hlast
    contradiction

end Search

/-! ### Pyramids -/

namespace Image

def halved : Nat → Image → Image
  | 0, i => i
  | n + 1, i => halved n i.halve

lemma eq_halved_of_pyramid {n k : Nat} {i j : Image} (h : (i.pyramid n)[k]? = some j) :
    j = i.halved k := by
  fun_induction pyramid n i generalizing k with
  | case1 | case2 | case4 =>
    cases k with
    | zero => exact (Option.some.inj h).symm
    | succ k => cases h
  | case3 i levels hhalvable ih =>
    cases k with
    | zero => exact (Option.some.inj h).symm
    | succ k => exact ih h

lemma pyramid_ne_nil (n : Nat) (i : Image) : i.pyramid n ≠ [] := by
  fun_cases pyramid n i <;> simp

lemma halved_succ (k : Nat) (i : Image) : i.halved (k + 1) = (i.halved k).halve := by
  induction k generalizing i with
  | zero => rfl
  | succ k ih => exact ih i.halve

lemma extent_halved {extent : Image → Nat} (hhalve : ∀ i, extent i.halve = (extent i + 1) / 2)
    (k : Nat) (i : Image) : extent (i.halved k) = (extent i + (2 ^ k - 1)) / 2 ^ k := by
  induction k generalizing i with
  | zero => simp [halved]
  | succ k ih =>
    have hpos : 0 < 2 ^ k := Nat.two_pow_pos k
    have hsum : extent i + (2 ^ (k + 1) - 1) = extent i + 1 + 2 * (2 ^ k - 1) := by
      rw [Nat.pow_succ]
      omega
    rw [halved, ih, hhalve, hsum, Nat.pow_succ, Nat.mul_comm (2 ^ k), ← Nat.div_div_eq_div_mul,
      Nat.add_mul_div_left _ _ Nat.two_pos]

lemma width_halved (k : Nat) (i : Image) : (i.halved k).width = (i.width + (2 ^ k - 1)) / 2 ^ k :=
  extent_halved (fun _ => rfl) k i

lemma height_halved (k : Nat) (i : Image) :
    (i.halved k).height = (i.height + (2 ^ k - 1)) / 2 ^ k :=
  extent_halved (fun _ => rfl) k i

end Image

namespace Search

def halvings (image template : Image) : Nat → List (Nat × Image × Image)
  | 0 => []
  | n + 1 => (n, image.halved n, template.halved n) :: halvings image template n

variable {image template i t : Image} {n count : Nat}

lemma reverse_zipIdx_append_halvings {pairs : List (Image × Image)}
    (hpairs : ∀ k i t, pairs[k]? = some (i, t) →
      i = image.halved (n + k) ∧ t = template.halved (n + k)) :
    ((pairs.zipIdx n).map fun p => (p.2, p.1.1, p.1.2)).reverse ++ halvings image template n =
      halvings image template (n + pairs.length) := by
  induction pairs generalizing n with
  | nil => rfl
  | cons pair pairs ih =>
    obtain ⟨i, t⟩ := pair
    obtain ⟨rfl, rfl⟩ := hpairs 0 i t rfl
    rw [zipIdx_cons, map_cons, reverse_cons, append_assoc,
      length_cons, Nat.add_comm pairs.length, ← Nat.add_assoc]
    refine ih fun k i t hk => ?_
    rw [Nat.add_assoc, Nat.add_comm 1]
    exact hpairs (k + 1) i t hk

lemma exists_levels_eq (count : Nat) (image template : Image) :
    ∃ n, levels count image template = halvings image template (n + 1) := by
  let templates := template.pyramid count
  let pairs := (image.pyramid templates.length).zip templates
  have hlevels : levels count image template =
      (pairs.zipIdx.map fun p => (p.2, p.1.1, p.1.2)).reverse := rfl
  have hlength : 0 < pairs.length := by
    rw [length_zip, Nat.lt_min]
    exact ⟨length_pos_iff.2 (pyramid_ne_nil _ _),
      length_pos_iff.2 (pyramid_ne_nil _ _)⟩
  have hhalved : ∀ k i t, pairs[k]? = some (i, t) →
      i = image.halved (0 + k) ∧ t = template.halved (0 + k) := by
    intro k i t hk
    obtain ⟨himage, htemplate⟩ := getElem?_zip_eq_some.1 hk
    rw [Nat.zero_add]
    exact ⟨eq_halved_of_pyramid himage, eq_halved_of_pyramid htemplate⟩
  have hall := reverse_zipIdx_append_halvings hhalved
  refine ⟨pairs.length - 1, ?_⟩
  rw [halvings, append_nil, Nat.zero_add] at hall
  rw [hlevels, hall, Nat.sub_add_cancel hlength]

lemma eq_halved_of_mem_halvings (h : (n, i, t) ∈ halvings image template count) :
    i = image.halved n ∧ t = template.halved n := by
  induction count with
  | zero => cases h
  | succ count ih =>
    rcases mem_cons.1 h with h | h
    · cases h
      exact ⟨rfl, rfl⟩
    · exact ih h

lemma eq_halved_of_mem_levels (h : (n, i, t) ∈ levels count image template) :
    i = image.halved n ∧ t = template.halved n := by
  obtain ⟨m, hlevels⟩ := exists_levels_eq count image template
  exact eq_halved_of_mem_halvings (hlevels ▸ h)

lemma getLast?_halvings (image template : Image) (n : Nat) :
    (halvings image template (n + 1)).getLast? = some (0, image, template) := by
  induction n with
  | zero => rfl
  | succ n ih => rw [halvings, getLast?_cons, ih, Option.getD_some]

lemma last_level_eq_zero (h : (levels count image template).getLast? = some (n, i, t)) : n = 0 := by
  obtain ⟨m, hlevels⟩ := exists_levels_eq count image template
  rw [hlevels, getLast?_halvings] at h
  cases h
  rfl

end Search

/-! ### Connected areas -/

namespace Image

variable {i : Image}

/-- Whether a rectangle, given by its first and last column and row, leaves out the outermost
columns and rows. -/
def Inner (i : Image) : Nat × Nat × Nat × Nat → Prop
  | (x0, y0, x1, y1) => 0 < x0 ∧ x0 ≤ x1 ∧ x1 + 1 < i.width ∧ 0 < y0 ∧ y0 ≤ y1 ∧ y1 + 1 < i.height

lemma isInk_iff (y x : Nat) : i.isInk y x = true ↔
    0 < y ∧ y + 1 < i.height ∧ 0 < x ∧ x + 1 < i.width ∧ i.value y x 0 ≠ 0 := by
  simp [isInk, and_assoc]

variable {y x : Nat}

lemma inner_of_isInk (h : i.isInk y x = true) : i.Inner (x, y, x, y) := by
  obtain ⟨hy, hy', hx, hx', -⟩ := (isInk_iff y x).1 h
  exact ⟨hx, Nat.le_refl x, hx', hy, Nat.le_refl y, hy'⟩

lemma Inner.widen {x0 y0 x1 y1 : Nat} (hbox : i.Inner (x0, y0, x1, y1)) (h : i.isInk y x = true) :
    i.Inner (Nat.min x0 x, Nat.min y0 y, Nat.max x1 x, Nat.max y1 y) := by
  obtain ⟨hy, hy', hx, hx', -⟩ := (isInk_iff y x).1 h
  change i.Inner (min x0 x, min y0 y, max x1 x, max y1 y)
  simp only [Inner] at hbox ⊢
  omega

lemma inner_spread {fuel : Nat} {places : List (Nat × Nat)} {seen : Array Bool}
    {box : Nat × Nat × Nat × Nat} (hplaces : ∀ p ∈ places, i.isInk p.1 p.2 = true)
    (hbox : i.Inner box) : i.Inner (i.spread fuel places seen box).2 := by
  fun_induction spread i fuel places seen box with
  | case1 | case2 => exact hbox
  | case3 fuel y x rest seen x0 y0 x1 y1 new seen' ih =>
    obtain ⟨hhere, hrest⟩ := forall_mem_cons.1 hplaces
    refine ih ?_ (hbox.widen hhere)
    intro p hp
    rcases mem_append.1 hp with hnew | hp
    · exact (Bool.and_eq_true_iff.1 (mem_filter.1 hnew).2).1
    · exact hrest p hp

/-- Whether a rectangle, given by corner and extent, leaves them out. -/
def InnerRect (i : Image) (r : Rect) : Prop :=
  ∃ x0 y0 x1 y1 : Nat, i.Inner (x0, y0, x1, y1) ∧
    r = ⟨x0, y0, (x1 - x0 + 1 : Nat), (y1 - y0 + 1 : Nat)⟩

lemma innerRect_of_mem_contours {r : Rect} (hr : r ∈ i.contours) : i.InnerRect r := by
  rw [contours] at hr
  dsimp only at hr
  rw [mem_reverse] at hr
  refine foldlRecOn (motive := fun acc : Array Bool × List Rect => ∀ r ∈ acc.2, i.InnerRect r)
    _ _ (by simp) ?_ r hr
  rintro ⟨seen, found⟩ hfound ⟨y, x⟩ -
  split
  · next hink =>
    have hplace : i.isInk y x = true := (Bool.and_eq_true_iff.1 hink).1
    refine forall_mem_cons.2 ⟨⟨_, _, _, _, ?_, rfl⟩, hfound⟩
    exact inner_spread (by simpa using hplace) (inner_of_isInk hplace)
  · exact hfound

end Image

/-! ### Regions of interest -/

namespace Image

lemma interval_eq {n a : Nat} (ha : a ≤ n) (len : Nat) :
    interval n ((a : Int), (a : Int) + len) = (a, min len (n - a)) := by
  have hclip (b : Nat) : (if (b : Int) < 0 then ((b : Int) + n).toNat
      else Nat.min (b : Int).toNat n) = min b n := by
    rw [if_neg (by omega), Int.toNat_natCast]
  rw [interval, ← Int.natCast_add]
  dsimp only
  rw [hclip, hclip, Nat.min_eq_left ha]
  congr 1
  omega

lemma slice_eq {i : Image} {y x : Nat} (hy : y ≤ i.height) (hx : x ≤ i.width) (h w : Nat) :
    i.slice ((y : Int), (y : Int) + h) ((x : Int), (x : Int) + w) =
      { generate (min h (i.height - y)) (min w (i.width - x)) i.channels
          fun r c k => i.value (y + r) (x + c) k with element := i.element } := by
  simp only [slice, interval_eq hy, interval_eq hx]

end Image

/-- Whether a rectangle holds a place. -/
def Box.Holds (roi : Rect) (y x : Nat) : Prop :=
  roi.x ≤ x ∧ (x : Int) < roi.x + roi.w ∧ roi.y ≤ y ∧ (y : Int) < roi.y + roi.h

instance (roi : Rect) (y x : Nat) : Decidable (roi.Holds y x) := inferInstanceAs (Decidable (_ ∧ _))

namespace Heatmap

lemma generate_congr {h w : Nat} {f g : Nat → Nat → Float}
    (hfg : ∀ y x, y < h → x < w → f y x = g y x) : generate h w f = generate h w g := by
  rw [Heatmap.mk.injEq]
  refine ⟨rfl, rfl, Array.map_congr_left fun n hn => ?_⟩
  obtain ⟨hy, hx⟩ := Grid.lt_of_index_lt (Array.mem_range.1 hn)
  exact hfg _ _ hy hx

/-- A template that has room in a picture of its kind. -/
structure Fits (image template : Image) : Prop where
  channels : image.channels = template.channels
  height : template.height ≤ image.height
  width : template.width ≤ image.width

variable {image template : Image}

/-- The sums of a window and a template with the given values. -/
def sumsOf (h w d : Nat) (f g : Nat → Nat → Nat → Nat) : WindowSums :=
  let (cross, squares) := (range h).foldl (fun acc r =>
    (range (w * d)).foldl (fun (cross, squares) c =>
      let v := f r (c / d) (c % d)
      (cross + v * g r (c / d) (c % d), squares + v * v)) acc) (0, 0)
  ⟨cross, squares, (range d).map fun k =>
    (range h).foldl (fun acc r => (range w).foldl (fun acc c => acc + f r c k) acc) 0⟩

/-- The score at a position depends on the template and on the window of the picture there. -/
lemma windowSums_eq (hdepth : image.depth = template.depth) (y x : Nat) :
    windowSums image template y x = sumsOf template.height template.width template.depth
      (fun r c k => image.value (y + r) (x + c) k) template.value := by
  have hchannel (d W r c k : Nat) : (y * W + x) * d + r * W * d + c * d + k =
      ((y + r) * W + (x + c)) * d + k := by
    grind
  have hindex (d W r c : Nat) : (y * W + x) * d + r * W * d + c =
      ((y + r) * W + (x + c / d)) * d + c % d := by
    have hc := Nat.div_add_mod c d
    grind
  have hrow (d w r c : Nat) : r * (w * d) + c = (r * w + c / d) * d + c % d := by
    have hc := Nat.div_add_mod c d
    grind
  simp only [windowSums, sumsOf, Image.value, hdepth, hchannel]
  simp only [hindex, hrow]

lemma sumsOf_congr {h w d : Nat} {f f' g g' : Nat → Nat → Nat → Nat}
    (hf : ∀ r c k, r < h → c < w → k < d → f r c k = f' r c k)
    (hg : ∀ r c k, r < h → c < w → k < d → g r c k = g' r c k) :
    sumsOf h w d f g = sumsOf h w d f' g' := by
  simp only [sumsOf, WindowSums.mk.injEq]
  refine ⟨congrArg Prod.fst ?pair, congrArg Prod.snd ?pair, ?_⟩
  case pair =>
    refine foldl_ext _ _ _ fun acc r hr => foldl_ext _ _ _ fun acc c hc => ?_
    obtain ⟨hcolumn, hk⟩ := Grid.lt_of_index_lt (mem_range.1 hc)
    rw [mem_range] at hr
    rw [hf _ _ _ hr hcolumn hk, hg _ _ _ hr hcolumn hk]
  · refine map_congr_left fun k hk => ?_
    refine foldl_ext _ _ _ fun acc r hr => foldl_ext _ _ _ fun acc c hc => ?_
    rw [mem_range] at hk hr hc
    rw [hf _ _ _ hr hc hk]

lemma ofImage_eq (method : MatchMethod) (hfits : Fits image template) :
    ofImage method image template = .ok (generate (image.height - template.height + 1)
      (image.width - template.width + 1)
      (windowScore method image template (windowSums template template 0 0))) := by
  obtain ⟨hchannels, hheight, hwidth⟩ := hfits
  rw [ofImage, if_neg (not_not_intro hchannels), if_neg (by simp; omega)]

/-- What is searched for a region of interest: the part of the picture under it. -/
def partUnder (image template : Image) (roi : Rect) : Image :=
  let area := (roi.expand template.size).shrink ⟨1, 1⟩
  image.slice area.slice.1 area.slice.2

/-- Whether a region of interest begins inside the heatmap and is not empty. -/
def Begins (m : Heatmap) (roi : Rect) : Prop :=
  ∃ y x h w : Nat, roi = ⟨x, y, w, h⟩ ∧ y < m.height ∧ x < m.width ∧ 0 < h ∧ 0 < w

lemma partUnder_spec {y x h w : Nat} (hy : y ≤ image.height) (hx : x ≤ image.width) (hh : 0 < h)
    (hw : 0 < w) : let part := partUnder image template ⟨x, y, w, h⟩
    part.channels = image.channels ∧
      part.height = min (h + template.height - 1) (image.height - y) ∧
      part.width = min (w + template.width - 1) (image.width - x) ∧
      ∀ r c k, r < part.height → c < part.width → k < image.depth →
        part.value r c k = image.value (y + r) (x + c) k := by
  have hroom : (h : Int) + template.height - 1 = (h + template.height - 1 : Nat) := by omega
  have hroom' : (w : Int) + template.width - 1 = (w + template.width - 1 : Nat) := by omega
  have hpart : partUnder image template ⟨x, y, w, h⟩ =
      image.slice (y, y + (h + template.height - 1 : Nat))
        (x, x + (w + template.width - 1 : Nat)) := by
    rw [← hroom, ← hroom']
    rfl
  rw [hpart, slice_eq hy hx]
  exact ⟨rfl, rfl, rfl, fun r c k hr hc hk =>
    Image.value_generate (fun r c k => image.value (y + r) (x + c) k) hr hc hk⟩

/-- A region of interest that begins inside the heatmap can be searched. The part of the picture
under it has just as many positions as the region has inside the heatmap. -/
lemma searchOne_eq (method : MatchMethod) {m : Heatmap} (hm : m.Spans image template)
    (hfits : Fits image template) {roi : Rect} (hroi : m.Begins roi) :
    searchOne method image template m roi = .ok (generate m.height m.width fun y x =>
      if roi.Holds y x then windowScore method image template (windowSums template template 0 0) y x
      else m.value y x) := by
  obtain ⟨-, hrows, hcolumns⟩ := hm
  obtain ⟨hchannels, hheight, hwidth⟩ := hfits
  obtain ⟨y, x, h, w, rfl, hy, hx, hh, hw⟩ := hroi
  obtain ⟨hkind, hpart, hpart', hvalue⟩ :=
    @partUnder_spec image template y x h w (by omega) (by omega) hh hw
  change (ofImage method (partUnder image template ⟨x, y, w, h⟩) template >>= fun part =>
    if part.height = (interval m.height (y, y + h)).2 ∧
        part.width = (interval m.width (x, x + w)).2 then
      .ok (m.paste (interval m.height (y, y + h))
        (interval m.width (x, x + w)) part)
    else .error misfit) = _
  generalize partUnder image template ⟨x, y, w, h⟩ = part at hkind hpart hpart' hvalue ⊢
  have hscores : ofImage method part template =
      .ok (generate (min h (m.height - y)) (min w (m.width - x))
        (windowScore method part template (windowSums template template 0 0))) := by
    rw [ofImage_eq method ⟨hkind.trans hchannels, by omega, by omega⟩]
    congr 2 <;> omega
  rw [hscores, interval_eq (Nat.le_of_lt hy), interval_eq (Nat.le_of_lt hx)]
  refine (if_pos ⟨rfl, rfl⟩).trans (congrArg _ (generate_congr fun y' x' hy' hx' => ?_))
  simp only [Bool.and_eq_true, decide_eq_true_iff, Box.Holds]
  refine ite_congr (propext (by omega)) (fun hin => ?_) fun _ => rfl
  rw [value_generate _ (by omega) (by omega)]
  have hdepth : image.depth = template.depth := congrArg (Option.getD · 1) hchannels
  have hdepth' : part.depth = image.depth := congrArg (Option.getD · 1) hkind
  refine congrArg (score method _ · _) ?_
  rw [windowSums_eq (hdepth'.trans hdepth), windowSums_eq hdepth]
  refine sumsOf_congr (fun r c k hr hc hk => ?_) fun _ _ _ _ _ _ => rfl
  rw [hvalue _ _ _ (by omega) (by omega) (by omega)]
  congr 1 <;> omega

lemma Fits.halve (h : Fits image template) :
    Fits image.halve template.halve where
  channels := h.channels
  height := Nat.div_le_div_right (Nat.add_le_add_right h.height 1)
  width := Nat.div_le_div_right (Nat.add_le_add_right h.width 1)

lemma Fits.halved (h : Fits image template) (n : Nat) : Fits (image.halved n) (template.halved n) := by
  induction n generalizing image template with
  | zero => exact h
  | succ n ih => exact ih h.halve

end Heatmap

namespace Search

variable {method : MatchMethod} {image template : Image} {mask : Option Image}

/-- Whether a mask has one place for each position of the template in the picture. -/
def Masks (mask : Option Image) (image template : Image) : Prop :=
  ∀ m ∈ mask, m.height = image.height - template.height + 1 ∧
    m.width = image.width - template.width + 1

variable {m : Heatmap} {threshold : Nat → Except Fault Num}

lemma begins_of_mem_regionsOfInterest {roi : Rect}
    (hmask : Masks mask image.halve template.halve) (hm : m.Spans image template)
    (hroi : roi ∈ regionsOfInterest image template (enlargeMask mask)) : m.Begins roi := by
  obtain ⟨-, hrows, hcolumns⟩ := hm
  have hwhole (hroi : roi ∈ regionsOfInterest image template none) : m.Begins roi :=
    ⟨0, 0, _, _, mem_singleton.1 hroi, by omega, by omega, Nat.succ_pos _, Nat.succ_pos _⟩
  cases mask with
  | none => exact hwhole hroi
  | some small =>
    obtain ⟨hsmall, hsmall'⟩ := hmask small rfl
    rw [enlargeMask] at hroi
    split at hroi
    · exact hwhole hroi
    · obtain ⟨r, hr, rfl⟩ := mem_map.1 hroi
      obtain ⟨x0, y0, x1, y1, hinner, rfl⟩ := innerRect_of_mem_contours hr
      have hheight : small.double.height =
          2 * ((image.height + 1) / 2 - (template.height + 1) / 2 + 1) :=
        congrArg (2 * ·) hsmall
      have hwidth : small.double.width =
          2 * ((image.width + 1) / 2 - (template.width + 1) / 2 + 1) :=
        congrArg (2 * ·) hsmall'
      simp only [Image.Inner] at hinner
      refine ⟨y0 - 1, x0 - 1, y1 - y0 + 3, x1 - x0 + 3, ?_, ?_, ?_, by omega, by omega⟩
      · simp only [Box.shift, Box.expand, Box.mk.injEq]
        omega
      · omega
      · omega

lemma exists_searchRegions (method : MatchMethod) {rois : List Rect} (done : Nat)
    (hfits : Fits image template) (hm : m.Spans image template) (hrois : ∀ roi ∈ rois, m.Begins roi) :
    ∃ m', searchRegions method image template rois done m = .ok m' ∧
      ∀ y x, y < m.height → x < m.width → m'.value y x = if ∃ roi ∈ rois, roi.Holds y x
        then windowScore method image template (windowSums template template 0 0) y x
        else m.value y x := by
  induction rois generalizing done m with
  | nil => exact ⟨m, rfl, by simp⟩
  | cons roi rest ih =>
    obtain ⟨hfirst, hrest⟩ := forall_mem_cons.1 hrois
    have hone := searchOne_eq method hm hfits hfirst
    obtain ⟨m', hsearch, hvalue⟩ := ih (done + 1) (spans_searchOne hm hone) hrest
    refine ⟨m', by rw [searchRegions, hone]; exact hsearch, fun y x hy hx => ?_⟩
    rw [hvalue y x hy hx, Heatmap.value_generate _ hy hx]
    by_cases hlater : ∃ roi ∈ rest, roi.Holds y x <;> by_cases hhere : roi.Holds y x <;>
      simp [hhere]

lemma broken_descend (hthreshold : ∀ level, ∃ t, threshold level = .ok t) (hfits : Fits image template)
    {n : Nat} (hmask : Masks mask (image.halved n) (template.halved n)) :
    (descend method threshold (halvings image template n) mask).broken = none := by
  induction n generalizing mask with
  | zero => rfl
  | succ n ih =>
    rw [halved_succ, halved_succ] at hmask
    obtain ⟨m, hsearch, -⟩ := exists_searchRegions method 0 (hfits.halved n)
      (spans_blank method _ _) fun roi hroi =>
        begins_of_mem_regionsOfInterest hmask (spans_blank method _ _) hroi
    obtain ⟨t, ht⟩ := hthreshold n
    rw [halvings, descend]
    rw [hsearch]
    rw [ht]
    dsimp only
    split
    · refine ih ?_
      rintro _ ⟨rfl⟩
      exact (spans_searchRegions (spans_blank method _ _) hsearch).2
    · rfl

lemma exists_last_report (method : MatchMethod) (hthreshold : ∀ level, ∃ t, threshold level = .ok t)
    (hfits : Fits image template) (count : Nat) :
    (firstPass method threshold count image template).broken = none ∧
      ∃ r, (firstPass method threshold count image template).reports.getLast? = some r := by
  obtain ⟨n, hlevels⟩ := exists_levels_eq count image template
  rw [firstPass, hlevels]
  have hbroken : (descend method threshold (halvings image template (n + 1)) none).broken = none :=
    broken_descend hthreshold hfits (by simp [Masks])
  refine ⟨hbroken, ?_⟩
  refine ⟨_, getLast?_eq_some_getLast fun hnil => ?_⟩
  cases eq_nil_of_reports_eq_nil hbroken hnil

/-! ### A part and the whole -/

lemma length_pyramid (n : Nat) (hheight : template.height ≤ image.height)
    (hwidth : template.width ≤ image.width) :
    (image.pyramid (template.pyramid n).length).length = (template.pyramid n).length := by
  fun_induction pyramid n template generalizing image with
  | case1 | case2 | case4 => rfl
  | case3 levels template hhalvable ih =>
    -- A picture that is no smaller is halved whenever the template is.
    have himage : image.isHalvable = true := by
      simp only [isHalvable, Bool.not_eq_true', Bool.or_eq_false_iff, decide_eq_false_iff_not]
        at hhalvable ⊢
      omega
    obtain ⟨k, hk⟩ := Nat.exists_eq_succ_of_ne_zero
      (mt length_eq_zero_iff.1 (pyramid_ne_nil (levels + 1) template.halve))
    have hrest := @ih image.halve (Nat.div_le_div_right (by omega)) (Nat.div_le_div_right (by omega))
    rw [hk] at hrest
    rw [length_cons, hk, pyramid, if_pos himage, length_cons, hrest]

lemma getElem?_of_mem_levels {n count : Nat} {i t : Image}
    (h : (n, i, t) ∈ levels count image template) :
    (image.pyramid (template.pyramid count).length)[n]? = some i ∧
      (template.pyramid count)[n]? = some t := by
  obtain ⟨⟨⟨i', t'⟩, n'⟩, hmem, heq⟩ := mem_map.1 (mem_reverse.1 h)
  cases heq
  exact getElem?_zip_eq_some.1 (mem_zipIdx_iff_getElem?.1 hmem)

/-- **The search stays in range.** Picture and template are halved equally often, and on each level the
template lies inside the picture somewhere. The descent ends with a report, and whatever the heatmaps
hold, a hunt that goes on from candidates that match is one of the largest level. -/
theorem pyramids_in_step (hheight : template.height ≤ image.height)
    (hwidth : template.width ≤ image.width) (hrows : 1 ≤ template.height)
    (hcolumns : 1 ≤ template.width) (count : Nat) :
    (image.pyramid (template.pyramid count).length).length = (template.pyramid count).length ∧
    (levels count image template).length = (template.pyramid count).length ∧
    (∀ n i t, (n, i, t) ∈ levels count image template →
      (image.pyramid (template.pyramid count).length)[n]? = some i ∧
      (template.pyramid count)[n]? = some t ∧
      1 ≤ t.height ∧ t.height ≤ i.height ∧ 1 ≤ t.width ∧ t.width ≤ i.width) ∧
    ∀ method threshold, (∀ level, ∃ t, threshold level = .ok t) → image.channels = template.channels →
      (firstPass method threshold count image template).broken = none ∧
      ∃ r, (firstPass method threshold count image template).reports.getLast? = some r ∧
        ∀ hunts : Nat → Hunt, hunts 0 = .ofReport method template r →
          (∀ k, ∃ heatmap best, hunts (k + 1) = { (hunts k).next with heatmap, best }) →
          ∀ k, (∀ j ≤ k, (hunts j).best.matched = true) → (hunts k).level = 0 := by
  have hlength := length_pyramid count hheight hwidth
  refine ⟨hlength, ?_, fun n i t h => ?_, fun method threshold hthreshold hchannels => ?_⟩
  · simp [levels, hlength]
  · obtain ⟨hi, ht⟩ := getElem?_of_mem_levels h
    obtain ⟨rfl, rfl⟩ := eq_halved_of_mem_levels h
    rw [Image.height_halved, Image.height_halved, Image.width_halved, Image.width_halved]
    have hpos : 0 < 2 ^ n := Nat.two_pow_pos n
    refine ⟨hi, ht, Nat.div_pos ?_ hpos, Nat.div_le_div_right ?_, Nat.div_pos ?_ hpos,
      Nat.div_le_div_right ?_⟩ <;> omega
  · obtain ⟨hbroken, r, hlast⟩ := exists_last_report method hthreshold ⟨hchannels, hheight, hwidth⟩ count
    refine ⟨hbroken, r, hlast, fun hunts hstart hnext k => ?_⟩
    induction k with
    | zero =>
      intro hmatched
      have hr := hmatched 0 (Nat.le_refl 0)
      rw [hstart] at hr ⊢
      exact last_level_eq_zero (last_level_of_matched hbroken hlast hr)
    | succ k ih =>
      intro hmatched
      obtain ⟨heatmap, best, hk⟩ := hnext k
      rw [hk]
      exact ih fun j hj => hmatched j (Nat.le_succ_of_le hj)

/-- A template that is halved once in a picture that could be halved twice. -/
theorem halved_once_in_step :
    let image : Image := .generate 41 60 (some 3) fun _ _ _ => 9
    let template : Image := .generate 20 21 (some 3) fun _ _ _ => 9
    (template.pyramid 3).length = 2 ∧ (levels 3 image template).length = 2 ∧
      ∃ r, (firstPass .correlation (fun _ => .ok 0) 3 image template).reports.getLast? = some r := by
  intro image template
  obtain ⟨-, hlevels, -, hsearch⟩ := @pyramids_in_step image template (by decide) (by decide)
    (by decide) (by decide) 3
  obtain ⟨-, r, hlast, -⟩ := hsearch .correlation (fun _ => .ok 0) (fun _ => ⟨0, rfl⟩) rfl
  have htemplate : (template.pyramid 3).length = 2 := by decide +kernel
  exact ⟨htemplate, hlevels.trans htemplate, r, hlast⟩

end Search

end SetTop

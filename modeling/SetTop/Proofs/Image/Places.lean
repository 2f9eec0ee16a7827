import Mathlib.Order.Bounds.Basic
import SetTop.Image.Filter
import SetTop.Proofs.Act
import SetTop.Proofs.Screen.Region

/-!
What pictures hold at each place.

A filled picture has one value for each channel of each place, and operations work at each place (`IsGrey.value_map`, `IsGrey.exists_combine`). The smallest box
around what is not zero goes from the first to the last column and row with such a place
(`inkBox_eq_some`). A region can be cut out if its edges are integers and it lies inside the
picture, and what is cut out has the extent of the region (`crop_eq_ok`).
-/

/-! ### Indices and places -/

namespace SetTop.Grid

variable {h w x : Nat}

lemma index_lt {y : Nat} (hy : y < h) (hx : x < w) : y * w + x < h * w := by
  have hrow : (y + 1) * w ≤ h * w := Nat.mul_le_mul_right w hy
  rw [Nat.add_mul] at hrow
  omega

lemma index_div (y : Nat) (hx : x < w) : (y * w + x) / w = y := by
  rw [Nat.mul_comm, Nat.mul_add_div (by omega), Nat.div_eq_of_lt hx, Nat.add_zero]

lemma lt_of_index_lt {n : Nat} (hn : n < h * w) : n / w < h ∧ n % w < w := by
  have hwidth : 0 < w := by
    rcases Nat.eq_zero_or_pos w with rfl | hpos
    · omega
    · exact hpos
  exact ⟨(Nat.div_lt_iff_lt_mul hwidth).2 hn, Nat.mod_lt n hwidth⟩

end SetTop.Grid

/-! ### Values -/

namespace SetTop.Image

open Grid List

variable {i a b : Image} {h w y x k : Nat} {channels : Option Nat}

/-- Whether there is one value for each channel of each place. -/
def Filled (i : Image) : Prop := i.values.size = i.height * i.width * i.depth

lemma value_generate (f : Nat → Nat → Nat → Nat) (hy : y < h) (hx : x < w)
    (hk : k < channels.getD 1) : (generate h w channels f).value y x k = f y x k := by
  have hlt := index_lt (index_lt hy hx) hk
  simp only [value, generate, depth, Array.getElem?_map, Array.getElem?_range, hlt, if_true,
    Option.map_some, Option.getD_some]
  rw [index_div _ hk, Nat.mul_add_mod_of_lt hk, index_div y hx, Nat.mul_add_mod_of_lt hx]

lemma generate_congr {f g : Nat → Nat → Nat → Nat}
    (hfg : ∀ y x k, y < h → x < w → k < channels.getD 1 → f y x k = g y x k) :
    generate h w channels f = generate h w channels g := by
  simp only [generate, Image.mk.injEq, true_and, and_true]
  refine Array.map_congr_left fun n hn => ?_
  obtain ⟨hplace, hk⟩ := lt_of_index_lt (Array.mem_range.1 hn)
  obtain ⟨hy, hx⟩ := lt_of_index_lt hplace
  exact hfg _ _ _ hy hx hk

lemma value_generateGrey (f : Nat → Nat → Nat) (hy : y < h) (hx : x < w) :
    (generateGrey h w f).value y x 0 = f y x :=
  value_generate _ hy hx Nat.zero_lt_one

lemma Filled.index_lt_size (hi : i.Filled) (hy : y < i.height) (hx : x < i.width)
    (hk : k < i.depth) : (y * i.width + x) * i.depth + k < i.values.size := by
  rw [hi]
  exact index_lt (index_lt hy hx) hk

lemma Filled.map (hi : i.Filled) (f : Nat → Nat) : (i.map f).Filled := by
  rw [Filled, Image.map, Array.size_map]
  exact hi

lemma Filled.value_map (hi : i.Filled) (f : Nat → Nat) (hy : y < i.height) (hx : x < i.width)
    (hk : k < i.depth) : (i.map f).value y x k = f (i.value y x k) := by
  have hlt := hi.index_lt_size hy hx hk
  have hindex : (i.map f).value y x k =
      ((i.values.map f)[(y * i.width + x) * i.depth + k]?).getD 0 := rfl
  rw [hindex, value, Array.getElem?_map, Array.getElem?_eq_getElem hlt, Option.map_some,
    Option.getD_some, Option.getD_some]

/-- A filled grey picture of the given extent. -/
structure IsGrey (i : Image) (h w : Nat) : Prop where
  filled : i.Filled
  channels : i.channels = none
  height : i.height = h
  width : i.width = w

lemma isGrey_generateGrey (h w : Nat) (f : Nat → Nat → Nat) : (generateGrey h w f).IsGrey h w :=
  ⟨by simp [Filled, generateGrey, generate, depth], rfl, rfl, rfl⟩

lemma grey_eq_ok {g : Image} (hg : i.grey = .ok g) : g.IsGrey i.height i.width := by
  rw [grey] at hg
  split at hg
  · cases hg
    exact isGrey_generateGrey _ _ _
  · cases hg

namespace IsGrey

lemma depth_eq (hi : i.IsGrey h w) : i.depth = 1 := by rw [depth, hi.channels, Option.getD_none]

lemma map (hi : i.IsGrey h w) (f : Nat → Nat) : (i.map f).IsGrey h w :=
  ⟨hi.filled.map f, hi.channels, hi.height, hi.width⟩

lemma exists_combine (ha : a.IsGrey h w) (hb : b.IsGrey h w) (f : Nat → Nat → Nat) :
    ∃ c, combine f a b = .ok c ∧ c.IsGrey h w ∧
      ∀ y x, y < h → x < w → c.value y x 0 = f (a.value y x 0) (b.value y x 0) := by
  have hshape : a.shape = b.shape := by
    rw [shape, shape, ha.channels, hb.channels, ha.height, hb.height, ha.width, hb.width]
  have hsize : a.values.size = b.values.size := by
    rw [ha.filled, hb.filled, ha.height, hb.height, ha.width, hb.width, ha.depth_eq, hb.depth_eq]
  have hfilled : (a.values.zipWith f b.values).size = a.height * a.width * a.depth := by
    rw [Array.size_zipWith, ← hsize, Nat.min_self, ha.filled]
  refine ⟨_, if_pos hshape, ⟨hfilled, ha.channels, ha.height, ha.width⟩, fun y x hy hx => ?_⟩
  have hlt : (y * w + x) * 1 + 0 < a.values.size := by
    have hlt := ha.filled.index_lt_size (ha.height ▸ hy) (ha.width ▸ hx)
      (ha.depth_eq ▸ Nat.zero_lt_one)
    rwa [ha.width, ha.depth_eq] at hlt
  have hvalue : ({ a with values := a.values.zipWith f b.values } : Image).value y x 0 =
      ((a.values.zipWith f b.values)[(y * a.width + x) * a.depth + 0]?).getD 0 := rfl
  rw [hvalue, value, value, ha.width, hb.width, ha.depth_eq, hb.depth_eq, Array.getElem?_zipWith,
    Array.getElem?_eq_getElem hlt, Array.getElem?_eq_getElem (hsize ▸ hlt)]
  rfl

lemma of_combine (ha : a.IsGrey h w) (hb : b.Filled) {f : Nat → Nat → Nat} {c : Image}
    (hc : combine f a b = .ok c) : b.IsGrey h w ∧ c.IsGrey h w := by
  have hshape : a.shape = b.shape := by
    by_contra hne
    rw [combine, if_neg hne] at hc
    cases hc
  rw [shape, ha.channels, ha.height, ha.width, shape] at hshape
  have hgrey : b.IsGrey h w := by
    cases hchannels : b.channels with
    | some n =>
      rw [hchannels] at hshape
      simp at hshape
    | none =>
      rw [hchannels] at hshape
      obtain ⟨rfl, rfl⟩ : h = b.height ∧ w = b.width := by simpa using hshape
      exact ⟨hb, hchannels, rfl, rfl⟩
  obtain ⟨c', hc', hgrey', -⟩ := ha.exists_combine hgrey f
  rw [hc] at hc'
  cases hc'
  exact ⟨hgrey, hgrey'⟩

end IsGrey

/-! ### The smallest box around what is not zero -/

variable {l : List Nat} {n : Nat} {p : Nat → Bool}

lemma isLeast_head? (hl : l.Pairwise (· < ·)) (h : l.head? = some n) : IsLeast {m | m ∈ l} n := by
  obtain ⟨l, rfl⟩ := head?_eq_some_iff.1 h
  refine ⟨mem_cons_self .., fun m hm => ?_⟩
  rcases mem_cons.1 hm with rfl | hm
  · exact Nat.le_refl _
  · exact Nat.le_of_lt (rel_of_pairwise_cons hl hm)

lemma isGreatest_getLast? (hl : l.Pairwise (· < ·)) (h : l.getLast? = some n) :
    IsGreatest {m | m ∈ l} n := by
  obtain ⟨l, rfl⟩ := getLast?_eq_some_iff.1 h
  refine ⟨by simp, fun m hm => ?_⟩
  rcases mem_append.1 hm with hm | hm
  · exact Nat.le_of_lt ((pairwise_append.1 hl).2.2 m hm n (by simp))
  · exact Nat.le_of_eq (mem_singleton.1 hm)

lemma firstAndLast_eq (h : ∃ k, k < n ∧ p k = true) :
    ∃ first last, firstAndLast n p = some (first, last) ∧
      IsLeast {k | k < n ∧ p k = true} first ∧ IsGreatest {k | k < n ∧ p k = true} last := by
  have hsorted : ((range n).filter p).Pairwise (· < ·) := pairwise_lt_range.filter p
  have hmem : {m | m ∈ (range n).filter p} = {k | k < n ∧ p k = true} := by
    simp
  have hne : (range n).filter p ≠ [] := by
    obtain ⟨k, hk, hp⟩ := h
    exact ne_nil_of_mem (mem_filter.2 ⟨mem_range.2 hk, hp⟩)
  refine ⟨_, _, ?_, hmem ▸ isLeast_head? hsorted (head?_eq_some_head hne),
    hmem ▸ isGreatest_getLast? hsorted (getLast?_eq_some_getLast hne)⟩
  rw [firstAndLast, head?_eq_some_head hne, getLast?_eq_some_getLast hne]

lemma firstAndLast_eq_none (h : ¬ ∃ k, k < n ∧ p k = true) : firstAndLast n p = none := by
  have hnil : (range n).filter p = [] := by
    rw [filter_eq_nil_iff]
    exact fun k hk hp => h ⟨k, mem_range.1 hk, hp⟩
  rw [firstAndLast, hnil]
  rfl

/-- Whether a place of a grey picture is not zero. -/
def Inked (i : Image) (y x : Nat) : Prop := y < i.height ∧ x < i.width ∧ i.value y x 0 ≠ 0

lemma columnHasInk_iff : x < i.width ∧ i.columnHasInk x = true ↔ ∃ y, i.Inked y x := by
  simp only [columnHasInk, any_eq_true, mem_range, bne_iff_ne]
  constructor
  · rintro ⟨hx, y, hy, hv⟩
    exact ⟨y, hy, hx, hv⟩
  · rintro ⟨y, hy, hx, hv⟩
    exact ⟨hx, y, hy, hv⟩

lemma rowHasInk_iff : y < i.height ∧ i.rowHasInk y = true ↔ ∃ x, i.Inked y x := by
  simp only [rowHasInk, any_eq_true, mem_range, bne_iff_ne]
  constructor
  · rintro ⟨hy, x, hx, hv⟩
    exact ⟨x, hy, hx, hv⟩
  · rintro ⟨x, hy, hx, hv⟩
    exact ⟨hy, x, hx, hv⟩

lemma inkBox_eq_none (h : ¬ ∃ y x, i.Inked y x) : i.inkBox = none := by
  have hcolumns : ¬ ∃ x, x < i.width ∧ i.columnHasInk x = true := by
    rintro ⟨x, hx⟩
    obtain ⟨y, hy⟩ := columnHasInk_iff.1 hx
    exact h ⟨y, x, hy⟩
  rw [inkBox, firstAndLast_eq_none hcolumns]

/-- The first and the last column and row in which something is not zero. -/
structure Bounded (p : Nat → Nat → Prop) (left top right bottom : Nat) : Prop where
  left : IsLeast {x | ∃ y, p y x} left
  top : IsLeast {y | ∃ x, p y x} top
  right : IsGreatest {x | ∃ y, p y x} right
  bottom : IsGreatest {y | ∃ x, p y x} bottom

lemma inkBox_eq_some (h : ∃ y x, i.Inked y x) :
    ∃ left top right bottom : Nat, Bounded i.Inked left top right bottom ∧
      i.inkBox = some (.ofInts left top (right + 1) (bottom + 1)) := by
  obtain ⟨y, x, hink⟩ := h
  obtain ⟨left, right, hcolumns, hleft, hright⟩ :=
    firstAndLast_eq ⟨x, columnHasInk_iff.2 ⟨y, hink⟩⟩
  obtain ⟨top, bottom, hrows, htop, hbottom⟩ :=
    firstAndLast_eq ⟨y, rowHasInk_iff.2 ⟨x, hink⟩⟩
  simp only [columnHasInk_iff] at hleft hright
  simp only [rowHasInk_iff] at htop hbottom
  refine ⟨left, top, right, bottom, ⟨hleft, htop, hright, hbottom⟩, ?_⟩
  rw [inkBox, hcolumns, hrows]
  rfl

/-- The region of one place. -/
def placeRegion (y x : Nat) : Region := .ofInts x y (x + 1) (y + 1)

/-- The box around what is not zero is the smallest one: it lies inside the picture and holds all of it,
and every region that holds all of it holds the box. There is none if everything is zero, and a picture
with channels is refused. -/
theorem pixelBoundingBox_least (i : Image) :
    ((∃ message, pixelBoundingBox i = .error (.failure .value message)) ↔ i.shape.length ≠ 2) ∧
    (i.shape.length = 2 → ∃ found, pixelBoundingBox i = .ok found ∧
      (found = none ↔ ∀ y x, y < i.height → x < i.width → i.value y x 0 = 0) ∧
      ∀ box ∈ found, (Region.ofSize i.width i.height).contains box = true ∧
        (∀ y x, i.Inked y x → box.contains (placeRegion y x) = true) ∧
        ∀ r : Region, (∀ y x, i.Inked y x → r.contains (placeRegion y x) = true) →
          r.contains box = true) := by
  cases hchannels : i.channels with
  | some n => simp [pixelBoundingBox, shape, hchannels, notSingleChannel]
  | none =>
    simp only [pixelBoundingBox, shape, hchannels, length_cons, length_nil, ne_eq,
      not_true_eq_false, reduceCtorEq, exists_const, true_and, forall_const]
    refine ⟨_, rfl, ?_⟩
    by_cases hink : ∃ y x, i.Inked y x
    · obtain ⟨left, top, right, bottom, ⟨⟨⟨yl, hl⟩, hleft⟩, ⟨⟨xt, ht⟩, htop⟩, ⟨⟨yr, hr⟩, hright⟩,
        ⟨xb, hb⟩, hbottom⟩, hfound⟩ := inkBox_eq_some hink
      rw [hfound]
      refine ⟨⟨by simp, fun hzero => absurd (hzero yl left hl.1 hl.2.1) hl.2.2⟩, ?_⟩
      rintro _ ⟨rfl⟩
      refine ⟨?_, fun y x hyx => ?_, fun r hholds => ?_⟩
      · have hwidth := hr.2.1
        have hheight := hb.1
        exact (Region.contains_ofInts 0 0 i.width i.height _ _ _ _).2 (by omega)
      · have hcolumns : left ≤ x ∧ x ≤ right := ⟨hleft ⟨y, hyx⟩, hright ⟨y, hyx⟩⟩
        have hrows : top ≤ y ∧ y ≤ bottom := ⟨htop ⟨x, hyx⟩, hbottom ⟨x, hyx⟩⟩
        rw [placeRegion, Region.contains_ofInts]
        omega
      · -- Each edge of the box is one of a place that is not zero.
        simp only [Region.contains, Bool.and_eq_true] at hholds ⊢
        exact ⟨⟨⟨(hholds yl left hl).1.1.1, (hholds top xt ht).1.1.2⟩, (hholds yr right hr).1.2⟩,
          (hholds bottom xb hb).2⟩
    · rw [inkBox_eq_none hink]
      refine ⟨⟨fun _ y x hy hx => ?_, fun _ => rfl⟩, by simp⟩
      exact Classical.not_not.1 fun hv => hink ⟨y, x, hy, hx, hv⟩

/-- Two places on different rows and in different columns. -/
theorem pixelBoundingBox_two_places :
    let i : Image := generateGrey 3 4 fun y x => if y = 0 ∧ x = 1 ∨ y = 1 ∧ x = 3 then 7 else 0
    pixelBoundingBox i = .ok (some (.ofInts 1 0 4 2)) ∧
      (Region.ofSize 4 3).contains (.ofInts 1 0 4 2) = true ∧
      ∀ r : Region, (∀ y x, i.Inked y x → r.contains (placeRegion y x) = true) →
        r.contains (.ofInts 1 0 4 2) = true := by
  intro i
  obtain ⟨found, hfound, -, hbox⟩ := (pixelBoundingBox_least i).2 rfl
  have hcolumns : firstAndLast i.width i.columnHasInk = some (1, 3) := by decide +kernel
  have hrows : firstAndLast i.height i.rowHasInk = some (0, 1) := by decide +kernel
  have heq : pixelBoundingBox i = .ok (some (.ofInts 1 0 4 2)) := by
    change Except.ok i.inkBox = _
    rw [inkBox, hcolumns, hrows]
    rfl
  obtain ⟨hin, -, hleast⟩ := hbox _ (Except.ok.inj (hfound.symm.trans heq))
  exact ⟨heq, hin, hleast⟩

/-! ### Thinning -/

/-- Whether a place is another one or next to it, but not across a corner. -/
def Touches (y x y' x' : Nat) : Prop := distance y y' + distance x x' ≤ 1

lemma foldl_min_ne_zero (l : List Nat) (v : Nat) :
    l.foldl Nat.min v ≠ 0 ↔ v ≠ 0 ∧ ∀ u ∈ l, u ≠ 0 := by
  induction l generalizing v with
  | nil => simp
  | cons u l ih =>
    have hmin : Nat.min v u ≠ 0 ↔ v ≠ 0 ∧ u ≠ 0 := by
      change min v u ≠ 0 ↔ _
      omega
    rw [foldl_cons, ih, hmin, forall_mem_cons, and_assoc]

lemma valueOrWhite_ne_zero_iff {y x : Int} :
    i.valueOrWhite y x ≠ 0 ↔ ∀ y' x' : Nat, (y' : Int) = y → (x' : Int) = x → y' < i.height →
      x' < i.width → i.value y' x' 0 ≠ 0 := by
  rw [valueOrWhite]
  split
  · next hin =>
    constructor
    · rintro hv y' x' rfl rfl - -
      exact hv
    · intro h
      exact h y.toNat x.toNat (by omega) (by omega) (by omega) (by omega)
  · next hout =>
    refine iff_of_true (by decide) fun y' x' hy hx hheight hwidth => ?_
    exact absurd ⟨by omega, by omega, by omega, by omega⟩ hout

lemma erodedValue_ne_zero_iff {y x : Nat} :
    i.erodedValue y x ≠ 0 ↔ ∀ y' x', Touches y x y' x' → y' < i.height → x' < i.width →
      i.value y' x' 0 ≠ 0 := by
  rw [erodedValue, foldl_min_ne_zero]
  simp only [forall_mem_cons, not_mem_nil, false_imp_iff, implies_true, and_true,
    valueOrWhite_ne_zero_iff]
  constructor
  · rintro ⟨-, hself, habove, hbelow, hleft, hright⟩ y' x' htouch hheight hwidth
    simp only [Touches, distance] at htouch
    obtain ⟨hy, hx⟩ | ⟨hy, hx⟩ | ⟨hy, hx⟩ | ⟨hy, hx⟩ | ⟨hy, hx⟩ :
        (y' = y ∧ x' = x) ∨ (y' + 1 = y ∧ x' = x) ∨ (y' = y + 1 ∧ x' = x) ∨
          (y' = y ∧ x' + 1 = x) ∨ (y' = y ∧ x' = x + 1) := by omega
    · exact hself y' x' (by omega) (by omega) hheight hwidth
    · exact habove y' x' (by omega) (by omega) hheight hwidth
    · exact hbelow y' x' (by omega) (by omega) hheight hwidth
    · exact hleft y' x' (by omega) (by omega) hheight hwidth
    · exact hright y' x' (by omega) (by omega) hheight hwidth
  · intro h
    refine ⟨by decide, ?_, ?_, ?_, ?_, ?_⟩ <;> intro y' x' hy hx <;>
      exact h y' x' (by simp only [Touches, distance]; omega)

lemma inked_erodeOnce_iff : i.erodeOnce.Inked y x ↔ y < i.height ∧ x < i.width ∧
    ∀ y' x', Touches y x y' x' → y' < i.height → x' < i.width → i.value y' x' 0 ≠ 0 := by
  refine and_congr_right fun hy => and_congr_right fun hx => ?_
  have hvalue : i.erodeOnce.value y x 0 = i.erodedValue y x := value_generateGrey _ hy hx
  rw [hvalue, erodedValue_ne_zero_iff]

lemma IsGrey.value_threshold_ne_zero (hi : i.IsGrey h w) (limit : Int) (hy : y < h) (hx : x < w) :
    (i.threshold limit).value y x 0 ≠ 0 ↔ limit < i.value y x 0 := by
  rw [threshold, hi.filled.value_map _ (hi.height ▸ hy) (hi.width ▸ hx)
    (hi.depth_eq ▸ Nat.zero_lt_one)]
  split
  · next hgt => exact iff_of_true (by decide) hgt
  · next hgt => exact iff_of_false (fun hne => hne rfl) hgt

end SetTop.Image

/-! ### Cutting out -/

namespace SetTop

lemma Region.lt_of_intersect {a b : Option Region} {x y right bottom : Int}
    (h : intersect a b = some (ofInts x y right bottom)) : x < right ∧ y < bottom := by
  cases a with
  | none => cases h
  | some a =>
    cases b with
    | none => cases h
    | some b =>
      rw [intersect] at h
      split at h
      · next hlt =>
        simp only [Option.some.injEq, ofInts, mk.injEq] at h
        simpa [h] using hlt
      · cases h

lemma Region.contains_of_intersect {x y r b x' y' r' b' : Int} {region : Option Region}
    (h : intersect (some (ofInts x y r b)) region = some (ofInts x' y' r' b')) :
    (ofInts x y r b).contains (ofInts x' y' r' b') = true := by
  cases region with
  | none => cases h
  | some region =>
    rw [intersect] at h
    split at h
    · have hedges := Option.some.inj h
      rw [contains_ofInts]
      exact ⟨Num.le_of_int_max_eq (congrArg Region.x hedges),
        Num.le_of_int_max_eq (congrArg Region.y hedges),
        Num.le_of_int_min_eq (congrArg right hedges),
        Num.le_of_int_min_eq (congrArg bottom hedges)⟩
    · cases h

lemma Region.ofEdges_eq_ok {x y right bottom : Num} {r : Region}
    (h : ofEdges x y right bottom = .ok r) : r = ⟨x, y, right, bottom⟩ := by
  rw [ofEdges] at h
  split at h
  · cases h
  · split at h
    · cases h
    · exact (Except.ok.inj h).symm

namespace Image

variable {i : Image} {own : Region}

lemma region_eq_ok (h : i.region = .ok own) : own = .ofInts 0 0 i.width i.height := by
  have hmoved (n : Nat) : Region.moved (.int 0) (.int n) = .ok (.int n) := by
    simp [Region.moved, Num.add?, Num.join?]
  have hstop (n : Nat) : Region.make.stop 0 (some (.int n)) none = .ok (.int n) := hmoved n
  have hedges : (do
      let right ← Region.make.stop 0 (some (.int i.width)) none
      let bottom ← Region.make.stop 0 (some (.int i.height)) none
      Region.ofEdges 0 0 right bottom) = .ok own := h
  rw [hstop, hstop] at hedges
  exact Region.ofEdges_eq_ok hedges

lemma edgeIndex_eq_ok {n : Num} {k : Int} (h : edgeIndex n = .ok k) : n = .int k := by
  cases n <;> cases h
  rfl

lemma interval_snd {n : Nat} {a b : Int} (ha : 0 ≤ a) (hab : a < b) (hb : b ≤ n) :
    (interval n (a, b)).2 = (b - a).toNat := by
  have hmin {k : Int} (hk : k ≤ n) : k.toNat.min n = k.toNat := Nat.min_eq_left (by omega)
  simp only [interval]
  rw [if_neg (by omega), if_neg (by omega), hmin hb, hmin (by omega)]
  omega

lemma crop_eq_ok {image : Image} {r : Option Region} (h : i.crop r = .ok image) :
    ∃ x y right bottom : Int, r = some (.ofInts x y right bottom) ∧ (x < right → y < bottom →
        image.width = (right - x).toNat ∧ image.height = (bottom - y).toNat) := by
  rw [crop] at h
  obtain ⟨own, hown, h⟩ := exists_of_bind_eq_ok h
  cases r with
  | none => cases h
  | some r =>
    dsimp only at h
    split at h
    · next hin =>
      obtain ⟨y, hy, h⟩ := exists_of_bind_eq_ok h
      obtain ⟨bottom, hbottom, h⟩ := exists_of_bind_eq_ok h
      obtain ⟨x, hx, h⟩ := exists_of_bind_eq_ok h
      obtain ⟨right, hright, h⟩ := exists_of_bind_eq_ok h
      have hr : r = .ofInts x y right bottom := by
        rw [Region.ofInts, ← edgeIndex_eq_ok hx, ← edgeIndex_eq_ok hy, ← edgeIndex_eq_ok hright,
          ← edgeIndex_eq_ok hbottom]
      rw [region_eq_ok (eq_ok_of_mapError hown), hr, Region.contains_ofInts] at hin
      cases h
      refine ⟨x, y, right, bottom, by rw [hr], fun hx hy => ⟨?_, ?_⟩⟩
      · exact interval_snd hin.1 hx hin.2.2.1
      · exact interval_snd hin.2.1 hy hin.2.2.2
    · cases h

lemma exists_crop {region : Option Region} {x y right bottom : Int} (hown : i.region = .ok own)
    (hpart : Region.intersect (some own) region = some (.ofInts x y right bottom)) :
    ∃ image, i.crop (some (.ofInts x y right bottom)) = .ok image ∧
      image.height = (bottom - y).toNat ∧ image.width = (right - x).toNat ∧
      image.channels = i.channels := by
  have hcontains : own.contains (.ofInts x y right bottom) = true := by
    rw [region_eq_ok hown] at hpart ⊢
    exact Region.contains_of_intersect hpart
  have hcrop : i.crop (some (.ofInts x y right bottom)) = .ok (i.slice (y, bottom) (x, right)) := by
    rw [crop, hown]
    exact if_pos hcontains
  obtain ⟨hx, hy⟩ := Region.lt_of_intersect hpart
  obtain ⟨_, _, _, _, hedges, hextent⟩ := crop_eq_ok hcrop
  cases hedges
  obtain ⟨hwidth, hheight⟩ := hextent hx hy
  exact ⟨_, hcrop, hheight, hwidth, rfl⟩

end Image

end SetTop

import Mathlib.Data.List.Induction
import SetTop.Device.Text
import SetTop.Proofs.Files.Walk
import SetTop.Proofs.Image.Places
import SetTop.Proofs.Logging

/-!
The region in which text is reported.

The boxes of words are those of a picture three times as large as the part of the screen that was
read. All edges of the box around a phrase are divided by three and rounded down (`matchText_region`).
So the reported region covers the words only if their right and bottom edges are multiples of three,
and words within one column or row of the screen leave no region at all, which is refused.
-/

namespace SetTop

open Act List Markup

/-- A box with integer edges that is not empty. -/
@[ext] structure PixelBox where
  left : Int
  top : Int
  right : Int
  bottom : Int
  columns : left < right
  rows : top < bottom

namespace PixelBox

variable (b : PixelBox)

def region : Region := .ofInts b.left b.top b.right b.bottom

def join (a b : PixelBox) : PixelBox where
  left := min a.left b.left
  top := min a.top b.top
  right := max a.right b.right
  bottom := max a.bottom b.bottom
  columns := (min_le_left _ _).trans_lt (a.columns.trans_le (le_max_left _ _))
  rows := (min_le_left _ _).trans_lt (a.rows.trans_le (le_max_left _ _))

lemma ofEdges_eq :
    Region.ofEdges (.int b.left) (.int b.top) (.int b.right) (.int b.bottom) = .ok b.region := by
  have hcolumns := b.columns
  have hrows := b.rows
  simp only [Region.ofEdges, Num.int_le_int, decide_eq_true_iff]
  rw [if_neg (by omega), if_neg (by omega)]
  rfl

lemma boundingBox_region (a b : PixelBox) :
    Region.boundingBox (some a.region) (some b.region) = .ok (some (a.join b).region) := by
  have hjoin := (a.join b).ofEdges_eq
  simp only [Region.boundingBox, region, Region.ofInts, Num.int_min_int, Num.int_max_int]
  exact congrArg (Except.map some) hjoin

/-- The smallest box around some. -/
structure Around (u : PixelBox) (bs : List PixelBox) : Prop where
  left : IsLeast (left '' {b | b ∈ bs}) u.left
  top : IsLeast (top '' {b | b ∈ bs}) u.top
  right : IsGreatest (right '' {b | b ∈ bs}) u.right
  bottom : IsGreatest (bottom '' {b | b ∈ bs}) u.bottom

lemma around_singleton : b.Around [b] := by
  have hset : {b' | b' ∈ [b]} = {b} := by simp
  constructor <;> rw [hset, Set.image_singleton]
  · exact isLeast_singleton
  · exact isLeast_singleton
  · exact isGreatest_singleton
  · exact isGreatest_singleton

variable {u b : PixelBox} {bs : List PixelBox}

lemma Around.concat (h : u.Around bs) (b : PixelBox) : (u.join b).Around (bs ++ [b]) := by
  have hset : {b' | b' ∈ bs ++ [b]} = insert b {b' | b' ∈ bs} := by
    ext b'
    simp [or_comm]
  have hleft := h.left.insert b.left
  have htop := h.top.insert b.top
  have hright := h.right.insert b.right
  have hbottom := h.bottom.insert b.bottom
  rw [min_comm] at hleft htop
  rw [max_comm] at hright hbottom
  constructor <;> rw [hset, Set.image_insert_eq]
  · exact hleft
  · exact htop
  · exact hright
  · exact hbottom

/-- A box in the enlarged picture of a part of the screen, brought to the screen. The part is given
by its corner. -/
def onScreen (u : PixelBox) (x y : Int) (columns : u.left / 3 < u.right / 3)
    (rows : u.top / 3 < u.bottom / 3) : PixelBox where
  left := x + u.left / 3
  top := y + u.top / 3
  right := x + u.right / 3
  bottom := y + u.bottom / 3
  columns := by omega
  rows := by omega

/-- A box of the screen, brought to the enlarged picture of a part of it. -/
def enlarged (x y : Int) : PixelBox where
  left := 3 * (b.left - x)
  top := 3 * (b.top - y)
  right := 3 * (b.right - x)
  bottom := 3 * (b.bottom - y)
  columns := by
    have hcolumns := b.columns
    omega
  rows := by
    have hrows := b.rows
    omega

def lengthened (n : Nat) : PixelBox where
  left := b.left
  top := b.top
  right := b.right + n
  bottom := b.bottom + n
  columns := by
    have hcolumns := b.columns
    omega
  rows := by
    have hrows := b.rows
    omega

def Covers (b c : PixelBox) : Prop := b.region.contains c.region = true

lemma covers_iff {c : PixelBox} : b.Covers c ↔
    b.left ≤ c.left ∧ b.top ≤ c.top ∧ c.right ≤ b.right ∧ c.bottom ≤ b.bottom :=
  Region.contains_ofInts ..

lemma Around.eq_of_singleton (h : u.Around [b]) : u = b := by
  ext
  · simpa [eq_comm] using h.left.1
  · simpa [eq_comm] using h.top.1
  · simpa [eq_comm] using h.right.1
  · simpa [eq_comm] using h.bottom.1

lemma Around.covers (h : u.Around bs) (hb : b ∈ bs) : u.Covers b :=
  covers_iff.2 ⟨h.left.2 ⟨b, hb, rfl⟩, h.top.2 ⟨b, hb, rfl⟩, h.right.2 ⟨b, hb, rfl⟩,
    h.bottom.2 ⟨b, hb, rfl⟩⟩

section OnScreen

variable {u : PixelBox} {bs : List PixelBox} {x y : Int} {columns : u.left / 3 < u.right / 3}
  {rows : u.top / 3 < u.bottom / 3}

lemma Around.lengthened_covers (h : u.Around bs) :
    ∀ b ∈ bs, (((u.onScreen x y columns rows).enlarged x y).lengthened 2).Covers b := by
  intro b hb
  have hu := covers_iff.1 (h.covers hb)
  rw [covers_iff]
  simp only [lengthened, enlarged, onScreen]
  omega

lemma Around.covers_all_iff (h : u.Around bs) :
    (∀ b ∈ bs, ((u.onScreen x y columns rows).enlarged x y).Covers b) ↔
      3 ∣ u.right ∧ 3 ∣ u.bottom := by
  simp only [covers_iff, enlarged, onScreen]
  constructor
  · intro hall
    -- one of the boxes ends in the last column, and one in the last row
    obtain ⟨b, hb, hright⟩ := h.right.1
    obtain ⟨c, hc, hbottom⟩ := h.bottom.1
    have hcolumn := (hall b hb).2.2.1
    have hrow := (hall c hc).2.2.2
    omega
  · intro hdvd b hb
    have hu := covers_iff.1 (h.covers hb)
    omega

end OnScreen

end PixelBox

namespace Ocr

open Markup

/-- The box of a place in a document: the innermost element with a box there has this one. -/
def BoxOf (place : List Element) (b : PixelBox) : Prop :=
  ∃ inner e outer, place = inner ++ e :: outer ∧
    (∀ e' ∈ inner, boxNumbers ((e'.attribute? "title").getD "") = .ok none) ∧
    boxNumbers ((e.attribute? "title").getD "") = .ok (some (b.left, b.top, b.right, b.bottom))

variable {b : PixelBox}

lemma BoxOf.boxAround_eq {place : List Element} (h : BoxOf place b) :
    boxAround place = .ok (some b.region) := by
  obtain ⟨inner, e, outer, rfl, hinner, he⟩ := h
  induction inner with
  | nil =>
    simp only [nil_append, boxAround, he]
    exact congrArg (fun r => (Except.map some r).mapError fun e => Fault.failure .value e.message)
      b.ofEdges_eq
  | cons e' inner ih =>
    simp only [cons_append, boxAround, hinner e' (by simp)]
    exact ih fun e'' h => hinner e'' (by simp [h])

lemma boxOf_concat {ws : List Word} {w : Word} {seen : Option Region} (hws : boxOf ws = .ok seen)
    (hw : BoxOf w.place b) :
    boxOf (ws ++ [w]) = (Region.boundingBox seen (some b.region)).mapError fun e =>
      .failure .value e.message := by
  rw [boxOf] at hws ⊢
  rw [foldlM_append, hws]
  simp only [foldlM_cons, foldlM_nil, hw.boxAround_eq, bind_pure]
  rfl

lemma boxOf_eq {found : List Word} {box : Word → PixelBox} (hne : found ≠ [])
    (hbox : ∀ w ∈ found, BoxOf w.place (box w)) :
    ∃ u : PixelBox, u.Around (found.map box) ∧ boxOf found = .ok (some u.region) := by
  -- The box grows word by word, so the induction is from the end of the phrase.
  induction found using reverseRecOn with
  | nil => exact absurd rfl hne
  | append_singleton ws w ih =>
    have hw := hbox w (by simp)
    by_cases hws : ws = []
    · subst hws
      refine ⟨box w, (box w).around_singleton, ?_⟩
      rw [boxOf_concat rfl hw]
      rfl
    · obtain ⟨u, haround, hu⟩ := ih hws fun w' hw' => hbox w' (by simp [hw'])
      refine ⟨u.join (box w), ?_, ?_⟩
      · rw [map_append]
        exact haround.concat (box w)
      · rw [boxOf_concat hu hw, PixelBox.boundingBox_region]
        rfl

end Ocr

namespace Device

open Ocr

variable {x y right bottom : Int} {u : PixelBox}

lemma placeOnScreen_eq : placeOnScreen (.ofInts x y right bottom) u.region =
    Region.ofEdges (.int (x + u.left / 3)) (.int (y + u.top / 3)) (.int (x + u.right / 3))
      (.int (y + u.bottom / 3)) := by
  have hthird (n : Int) : third (.int n) = .int (n / 3) := by
    rw [third, Int.fdiv_eq_ediv_of_nonneg n (by decide)]
  simp only [placeOnScreen, PixelBox.region, Region.ofInts, hthird]
  rfl

/-- Reads the text of a region together with the boxes of its words. -/
def readScreen (text : String) (frame : Option Frame) (region : Option Region) (mode : Json)
    (language : Json) (settings : Json) : Act (Frame × String × Option Region) := do
  let f ← pictureOr frame
  let own ← Act.ofExcept (copiedSettings settings)
  let own := Json.putField own "tessedit_create_hocr" (.ofInt 1)
  let own := if ← isOlderThan "3.04" then own
    else Json.putField own "tessedit_create_txt" (.ofInt 0)
  let request : Request :=
    { mode := mode, language := language, words := .list ((wordsOf text).map .text) }
  let (outcome, _) ← readRegion f.image region request (.object own)
  let (document, part) ← Act.ofExcept outcome
  return (f, document, part)

lemma matchText_eq (text : String) (frame : Option Frame) (region : Option Region)
    (mode language settings : Json) (caseMatters : Bool) :
    matchText (.text text) frame region mode language settings caseMatters = (do
      let (f, document, part) ← readScreen text frame region mode language settings
      reportPhrase text caseMatters f document part) := by
  simp only [matchText, readScreen, bind_assoc, pure_bind]

variable {region : Option Region} {document : String} {part : Region} {s s' : Session}

lemma part_of_readRegion {frame : Image} {r : Request} {given left : Ocr.Settings}
    (h : (readRegion frame region r given).run s = (.ok (.ok (document, some part), left), s')) :
    Region.intersect (some (.ofInts 0 0 frame.width frame.height)) region = some part ∧
      ∃ x y right bottom : Int, part = .ofInts x y right bottom := by
  obtain ⟨own, s₁, hown, h⟩ := bind_eq_ok h
  rw [run_ofExcept] at hown
  obtain rfl : own = .ofInts 0 0 frame.width frame.height :=
    Image.region_eq_ok (eq_ok_of_mapError (congrArg Prod.fst hown))
  split at h
  · cases h
  · next part' hcommon =>
    obtain ⟨picture, s₂, hpicture, h⟩ := bind_eq_ok h
    obtain ⟨⟨outcome, after⟩, s₃, -, h⟩ := bind_eq_ok h
    rw [run_ofExcept] at hpicture
    obtain ⟨x, y, right, bottom, hcut, -⟩ := Image.crop_eq_ok (Prod.mk.inj hpicture).1
    cases outcome with
    | error e => cases h
    | ok text =>
      cases h
      exact ⟨hcommon, x, y, right, bottom, Option.some.inj hcut⟩

lemma part_of_readScreen {text : String} {frame : Option Frame} {mode language settings : Json}
    {f : Frame} (h : (readScreen text frame region mode language settings).run s =
      (.ok (f, document, some part), s')) :
    (∃ s₁, (pictureOr frame).run s = (.ok f, s₁)) ∧
      Region.intersect (some (.ofInts 0 0 f.image.width f.image.height)) region = some part ∧
      ∃ x y right bottom : Int, part = .ofInts x y right bottom := by
  obtain ⟨f', s₁, hframe, h⟩ := bind_eq_ok h
  obtain ⟨_, _, -, h⟩ := bind_eq_ok h
  obtain ⟨_, _, -, h⟩ := bind_eq_ok h
  obtain ⟨⟨outcome, _⟩, _, hregion, h⟩ := bind_eq_ok h
  obtain ⟨⟨document', part'⟩, _, houtcome, h⟩ := bind_eq_ok h
  rw [run_ofExcept] at houtcome
  obtain ⟨rfl, -⟩ := Prod.mk.inj houtcome
  cases h
  exact ⟨⟨s₁, hframe⟩, part_of_readRegion hregion⟩

lemma isEmpty_of_read {tree : Markup.Element} (h : read document = .ok tree) :
    document.isEmpty = false := by
  rw [Bool.eq_false_iff]
  intro hempty
  have hread : read "" = .error malformed := rfl
  rw [String.isEmpty_iff.1 hempty] at h
  cases h

section Report

variable {text document : String} {caseMatters : Bool} {f : Frame} {part : Region} {s : Session}
  {tree : Markup.Element} {all found : List Word} {box : Word → PixelBox}

lemma reportPhrase_eq {outcome : Except Fault Region} (hlog : Log.Known s)
    (hdocument : document.isEmpty = false)
    (h : phraseRegion document part (wordsOf text) caseMatters = some <$> outcome) :
    ((reportPhrase text caseMatters f document (some part)).run s).1 =
      outcome.map fun r => ⟨f.time, true, some r, f.image, text⟩ := by
  simp only [reportPhrase, hdocument, Bool.false_eq_true, if_false, h]
  cases outcome with
  | error e => rfl
  | ok r =>
    have hrun : (Act.ofExcept (some <$> (.ok r : Except Fault Region))).run s =
        (.ok (some r), s) := rfl
    have hsaid (message : String) :
        (Log.debug message).run s = (.ok (), ((Log.debug message).run s).2) :=
      Prod.ext (Log.ok_debug hlog message) rfl
    simp only [bind_of_ok hrun]
    rw [bind_of_ok (hsaid _)]
    rfl

/-- A phrase that was read off a part of the screen is reported in the box around its words, with
all edges divided by three and rounded down. That covers the words but for at most two columns and
rows of the enlarged picture, and it covers them fully only if their last edges are multiples of
three. If the box comes out empty it is refused. -/
theorem matchText_region {frame : Option Frame} {region : Option Region}
    {mode language settings : Json} {s' : Session}
    (hread : (readScreen text frame region mode language settings).run s =
      (.ok (f, document, some part), s'))
    (hlog : Log.Known s') (htree : Markup.read document = .ok tree) (hall : words tree = .ok all)
    (hfound : findPhrase (wordsOf text) caseMatters all = some found) (hne : found ≠ [])
    (hbox : ∀ w ∈ found, BoxOf w.place (box w)) :
    ∃ (u : PixelBox) (x y right bottom : Int),
      u.Around (found.map box) ∧ part = .ofInts x y right bottom ∧
      Region.intersect (some (.ofInts 0 0 f.image.width f.image.height)) region = some part ∧
      (∀ (columns : u.left / 3 < u.right / 3) (rows : u.top / 3 < u.bottom / 3),
        ((matchText (.text text) frame region mode language settings caseMatters).run s).1 =
          .ok ⟨f.time, true, some (u.onScreen x y columns rows).region, f.image, text⟩ ∧
        (∀ w ∈ found,
          (((u.onScreen x y columns rows).enlarged x y).lengthened 2).Covers (box w)) ∧
        ((∀ w ∈ found, ((u.onScreen x y columns rows).enlarged x y).Covers (box w)) ↔
          3 ∣ u.right ∧ 3 ∣ u.bottom)) ∧
      (u.left / 3 = u.right / 3 →
        ((matchText (.text text) frame region mode language settings caseMatters).run s).1 =
          .error (.failure .value "'right' must be greater than 'x'")) ∧
      (u.left / 3 < u.right / 3 → u.top / 3 = u.bottom / 3 →
        ((matchText (.text text) frame region mode language settings caseMatters).run s).1 =
          .error (.failure .value "'bottom' must be greater than 'y'")) := by
  obtain ⟨u, haround, hu⟩ := boxOf_eq hne hbox
  obtain ⟨-, hcommon, x, y, right, bottom, rfl⟩ := part_of_readScreen hread
  have hrun : ((matchText (.text text) frame region mode language settings caseMatters).run s).1 =
      ((placeOnScreen (.ofInts x y right bottom) u.region).mapError fun e =>
        Fault.failure .value e.message).map fun r => ⟨f.time, true, some r, f.image, text⟩ := by
    rw [matchText_eq, Act.bind_of_ok hread]
    refine reportPhrase_eq hlog (isEmpty_of_read htree) ?_
    rw [phraseRegion, htree]
    simp only [bind, Except.bind, hall, hfound, hu]
  rw [hrun]
  refine ⟨u, x, y, right, bottom, haround, rfl, hcommon, fun columns rows => ⟨?_, ?_, ?_⟩,
    fun h => ?_, fun columns h => ?_⟩
  · rw [placeOnScreen_eq]
    exact congrArg (Except.map _ <| Except.mapError _ ·) (u.onScreen x y columns rows).ofEdges_eq
  · exact forall_mem_map.1 haround.lengthened_covers
  · rw [← haround.covers_all_iff, forall_mem_map]
  · simp [placeOnScreen_eq, Region.ofEdges, h, Except.map, Except.mapError, Region.Error.message]
  · simp [placeOnScreen_eq, Region.ofEdges, h, Int.not_le.2 columns, Except.map, Except.mapError,
      Region.Error.message]

end Report

/-! ### A word that ends between two rows of the screen -/

def lowWord : Markup.Element := .mk "b" [("title", "bbox 0 0 3 5")] "I" [] ""

def lowBox : PixelBox := ⟨0, 0, 3, 5, by decide, by decide⟩

def lowPage : Markup.Element := .mk "p" [] "" [lowWord] ""

def lowDocument : String := "<p><b title='bbox 0 0 3 5'>I</b></p>"

set_option maxRecDepth 1000 in
lemma read_lowDocument : read lowDocument = .ok lowPage := by rfl

def narrow : Frame := { image := { height := 2, width := 1, channels := none, values := #[0, 0] } }

def reading : Session :=
  { verbosity := some 0, ocrProgram := some "tesseract 3.04"
    bench.files := ⟨[("/tessdata", .directory), ("/tessdata/configs", .directory)]⟩
    bench.environment := [("TESSDATA_PREFIX", "/")]
    bench.helpers := [{ recognised := some lowDocument, extension := ".hocr" }] }

def readOff : Except Fault (Frame × String × Option Region) × Session → Option (String × Bool × Bool)
  | (.ok (_, document, part), s) => some (document, part.isSome, s.verbosity.isSome)
  | _ => none

lemma readOff_reading :
    readOff ((readScreen "I" (some narrow) (some .all) (.ofInt 3) "eng" .null).run reading) =
      some (lowDocument, true, true) := by
  decide +kernel

/-- A word that ends in the second row of the screen is reported in the first one. -/
theorem last_rows_are_left_out :
    ((matchText (.text "I") (some narrow) (some .all) (.ofInt 3) "eng" .null true).run reading).1 =
      .ok ⟨none, true, some (.ofInts 0 0 1 1), narrow.image, "I"⟩ ∧
    ¬ ((lowBox.onScreen 0 0 (by decide) (by decide)).enlarged 0 0).Covers lowBox := by
  have hseen := readOff_reading
  rcases hread : (readScreen "I" (some narrow) (some .all) (.ofInt 3) "eng" .null).run reading with
    ⟨e | ⟨f, document, part⟩, s'⟩ <;> rw [hread] at hseen
  · cases hseen
  obtain ⟨rfl, hfacts⟩ := Prod.mk.inj (Option.some.inj hseen)
  obtain ⟨hpart, hlog⟩ := Prod.mk.inj hfacts
  obtain ⟨part, rfl⟩ := Option.isSome_iff_exists.1 hpart
  obtain ⟨⟨s₁, hframe⟩, -⟩ := part_of_readScreen hread
  obtain rfl : narrow = f := Except.ok.inj (Prod.mk.inj hframe).1
  have hall : words lowPage = .ok [⟨"I", [lowWord, lowPage]⟩] := rfl
  have hfound : findPhrase (wordsOf "I") true [⟨"I", [lowWord, lowPage]⟩] =
      some [⟨"I", [lowWord, lowPage]⟩] := rfl
  have hbox : ∀ w ∈ [(⟨"I", [lowWord, lowPage]⟩ : Word)], BoxOf w.place lowBox := by
    simpa using ⟨[], lowWord, [lowPage], rfl, by simp, rfl⟩
  obtain ⟨u, x, y, right, bottom, haround, rfl, hcommon, hanswer, -⟩ :=
    matchText_region hread hlog read_lowDocument hall hfound (by simp) hbox
  obtain rfl : u = lowBox := haround.eq_of_singleton
  have hcorner : some (Region.ofInts 0 0 1 2) = some (.ofInts x y right bottom) := hcommon
  obtain ⟨hx, hy, -⟩ := Region.mk.inj (Option.some.inj hcorner)
  obtain rfl := Num.int.inj hx
  obtain rfl := Num.int.inj hy
  obtain ⟨houtcome, -, hcovers⟩ := hanswer (by decide) (by decide)
  refine ⟨houtcome, fun h => ?_⟩
  have hdvd := hcovers.1 fun w _ => h
  revert hdvd
  decide

end Device

end SetTop

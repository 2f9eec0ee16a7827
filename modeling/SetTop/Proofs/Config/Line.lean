import SetTop.Config.Settings
import SetTop.Proofs.Text.Lines
import SetTop.Proofs.Text.LowerCase
import SetTop.Proofs.Text.Trim

/-!
The lines of a configuration file.

What counts in a line is what is left of it without its remark and without white space at its ends
(`body`). A body that names a section or sets an option can be written anew from the name and the
value, and is read as the same again; only a value that starts with a semicolon is then taken for a
remark, since a blank is written in front of it.
-/

namespace SetTop.Settings

open String

open Text (isBlank strip stripEnd Trimmed Patterned isMark)
open List Text String

variable {b cs front back line : List Char} (blank : Bool)

/-! ### Remarks -/

/-- Whether a remark starts in a text that stands behind white space, or not. -/
def hasRemark (blank : Bool) : List Char → Bool
  | [] => false
  | c :: cs => (c = ';' && blank) || hasRemark (isBlank c) cs

/-- Whether what follows a text stands behind white space. -/
def endsBlank (cs : List Char) : Bool := (cs.getLast?.map isBlank).getD blank

lemma endsBlank_cons (c : Char) (cs : List Char) :
    endsBlank blank (c :: cs) = endsBlank (isBlank c) cs := by
  rw [endsBlank, endsBlank, getLast?_cons]
  cases cs.getLast? <;> rfl

lemma hasRemark_append (a b : List Char) :
    hasRemark blank (a ++ b) = (hasRemark blank a || hasRemark (endsBlank blank a) b) := by
  induction a generalizing blank with
  | nil => rfl
  | cons c a ih =>
    rw [List.cons_append, hasRemark, ih, hasRemark, endsBlank_cons, Bool.or_assoc]

lemma hasRemark_of_blank {blank : Bool} (h : ∀ c ∈ cs, isBlank c) : hasRemark blank cs = false := by
  induction cs generalizing blank with
  | nil => rfl
  | cons c cs ih =>
    have hc : c ≠ ';' := by
      rintro rfl
      exact absurd (h ';' mem_cons_self) (by decide)
    simp [hasRemark, hc, ih fun d hd => h d (mem_cons_of_mem _ hd)]

lemma hasRemark_true_of_blank (h : ∀ c ∈ front, isBlank c) (cs : List Char) :
    hasRemark true (front ++ cs) = hasRemark true cs := by
  have hends : endsBlank true front = true := by
    cases hlast : front.getLast? with
    | none => simp [endsBlank, hlast]
    | some c => simpa [endsBlank, hlast] using h c (mem_of_getLast? hlast)
  rw [hasRemark_append, hasRemark_of_blank h, hends, Bool.false_or]

lemma hasRemark_of_isMark {ds : List Char} (hne : ds ≠ [])
    (hds : ∀ d ∈ ds, isMark d = false) (cs : List Char) :
    hasRemark blank (ds ++ cs) = hasRemark false cs := by
  induction ds generalizing blank with
  | nil => exact absurd rfl hne
  | cons d ds ih =>
    have hd := hds d mem_cons_self
    rw [isMark, Bool.or_eq_false_iff] at hd
    have hsemicolon : d ≠ ';' := by
      rintro rfl
      exact absurd hd.2 (by decide)
    cases ds with
    | nil => simp [hasRemark, hsemicolon, hd.1]
    | cons e ds =>
      rw [List.cons_append, hasRemark, ih _ (cons_ne_nil e ds) fun d hd => hds d (mem_cons_of_mem _ hd)]
      simp [hsemicolon]

lemma hasRemark_of_patterned {a b : List Char} (h : Patterned a b) (blank : Bool) :
    hasRemark blank b = hasRemark blank a := by
  induction h generalizing blank with
  | nil => rfl
  | same _ ih => rw [hasRemark, hasRemark, ih]
  | @other c ds a b hc hne hds _ ih =>
    have hself : hasRemark blank ([c] ++ a) = hasRemark false a :=
      hasRemark_of_isMark blank (by simp) (by simpa using hc) a
    rw [hasRemark_of_isMark blank hne hds, ih, ← hself]
    rfl

lemma remarkStart_go_eq_none_iff {before : Option Char} {n : Nat} :
    remarkStart.go before n cs = none ↔ hasRemark (before.all isBlank) cs = false := by
  induction cs generalizing before n with
  | nil => simp [remarkStart.go, hasRemark]
  | cons c cs ih =>
    rw [remarkStart.go, hasRemark]
    cases c = ';' && before.all isBlank with
    | true => simp
    | false => simp [ih]

lemma remarkStart_go_eq_some {before : Option Char} {n m : Nat}
    (h : remarkStart.go before n cs = some m) :
    ∃ a rest, cs = a ++ rest ∧ m = n + a.length ∧ hasRemark (before.all isBlank) a = false := by
  induction cs generalizing before n with
  | nil => cases h
  | cons c cs ih =>
    rw [remarkStart.go] at h
    cases hc : c = ';' && before.all isBlank with
    | true =>
      rw [hc] at h
      obtain rfl := Option.some.inj h
      exact ⟨[], c :: cs, rfl, rfl, rfl⟩
    | false =>
      rw [hc] at h
      obtain ⟨a, rest, rfl, rfl, ha⟩ := ih h
      refine ⟨c :: a, rest, rfl, by simp only [length_cons]; omega, ?_⟩
      rw [hasRemark, hc]
      exact ha

lemma remarkStart_go_append (before : Option Char) (n : Nat) {a : List Char}
    (hfree : hasRemark (before.all isBlank) a = false)
    (hends : endsBlank (before.all isBlank) a = true) (rest : List Char) :
    remarkStart.go before n (a ++ ';' :: rest) = some (n + a.length) := by
  induction a generalizing before n with
  | nil =>
    have hblank : before.all isBlank = true := hends
    simp [remarkStart.go, hblank]
  | cons c a ih =>
    rw [hasRemark, Bool.or_eq_false_iff] at hfree
    rw [endsBlank_cons] at hends
    rw [List.cons_append, remarkStart.go, hfree.1, ih (some c) (n + 1) hfree.2 hends, length_cons]
    simp only [Bool.false_eq_true, if_false, Option.some.injEq]
    omega

/-! ### Bodies -/

lemma blank_nil : ∀ c ∈ ([] : List Char), isBlank c := by simp

lemma blank_break : ∀ c ∈ ['\n'], isBlank c := all_eq_true.1 (by decide)

/-- What can count in a line. -/
structure Clear (b : List Char) : Prop where
  trimmed : Trimmed b
  unremarked : hasRemark true b = false
  unhashed : b.head? ≠ some '#'
  unbroken : '\n' ∉ b ∧ '\r' ∉ b

lemma exists_body (line : List Char) :
    ∃ a rest, line = a ++ rest ∧ body line = strip a ∧ hasRemark true a = false ∧
      (isRemark line → a = []) := by
  rw [body, remark?]
  cases hline : isRemark line with
  | true => exact ⟨[], line, rfl, rfl, rfl, fun _ => rfl⟩
  | false =>
    cases hstart : remarkStart line with
    | none => exact ⟨line, [], (append_nil _).symm, rfl, remarkStart_go_eq_none_iff.1 hstart, by simp⟩
    | some n =>
      obtain ⟨a, rest, rfl, rfl, ha⟩ := remarkStart_go_eq_some hstart
      refine ⟨a, rest, rfl, ?_, ha, by simp⟩
      simp

lemma head?_strip (hfront : ∀ c ∈ front, isBlank c) {c : Char} (hc : isBlank c = false)
    (cs : List Char) : (strip (front ++ c :: cs)).head? = some c := by
  rw [strip, Text.stripStart, dropWhile_append_of_pos hfront,
    dropWhile_cons_of_neg (by simp [hc]), ← singleton_append, stripEnd_append]
  split
  · rw [stripEnd_of_last (by simpa using hc)]
    rfl
  · rfl

lemma isRemark_of_head? (h : (strip line).head? = some '#') : isRemark line = true := by
  rw [isRemark]
  cases hs : strip line with
  | nil =>
    rw [hs] at h
    cases h
  | cons c cs =>
    rw [hs] at h
    obtain rfl := Option.some.inj h
    rfl

/-- A line ends at its line feed, and has no other line end. -/
structure IsLine (line : List Char) : Prop where
  noNewline : '\n' ∉ line.dropLast
  noReturn : '\r' ∉ line

lemma IsLine.clear_body (hline : IsLine line) : Clear (body line) := by
  obtain ⟨a, rest, rfl, hbody, hfree, hremark⟩ := exists_body line
  obtain ⟨front, back, ha, hfront, -⟩ := exists_strip a
  have htrimmed := trimmed_strip a
  rw [hbody]
  rw [ha, hasRemark_true_of_blank hfront, hasRemark_append, Bool.or_eq_false_iff] at hfree
  refine ⟨htrimmed, hfree.1, fun hhash => ?_, fun hmem => ?_, fun hmem => ?_⟩
  · -- A line whose body starts like that is a remark as a whole, and then has no body.
    obtain ⟨cs, hcs⟩ := head?_eq_some_iff.1 hhash
    rw [hcs] at ha
    have hnil := hremark (isRemark_of_head? ?_)
    · rw [hnil] at hhash
      cases hhash
    · rw [ha, List.append_assoc]
      exact head?_strip hfront (by decide) _
  · obtain ⟨x, y, hxy, -⟩ := eq_append_cons_of_mem hmem
    by_cases hy : y = []
    · -- The line feed would stand last, and white space does not.
      have hlast := htrimmed.last '\n' (by simp [hxy, hy])
      exact absurd hlast (by decide)
    · refine hline.noNewline ?_
      have hsplit : front ++ (x ++ '\n' :: y ++ back) ++ rest =
          (front ++ x ++ ['\n']) ++ (y ++ (back ++ rest)) := by simp
      rw [ha, hxy, hsplit, dropLast_append_of_ne_nil (by simp [hy])]
      simp
  · refine hline.noReturn (mem_append_left _ ?_)
    rw [ha]
    exact mem_append_right _ (mem_append_left _ hmem)

lemma Clear.remark?_eq_none (h : Clear b) (hfront : ∀ c ∈ front, isBlank c)
    (hback : ∀ c ∈ back, isBlank c) : remark? (front ++ (b ++ back)) = none := by
  have hnot : isRemark (front ++ (b ++ back)) = false := by
    rw [isRemark, h.trimmed.strip_eq hfront hback]
    split
    · exact absurd rfl h.unhashed
    · exact absurd h.unremarked (by simp [hasRemark])
    · rfl
  rw [remark?, hnot]
  refine remarkStart_go_eq_none_iff.2 ?_
  change hasRemark true _ = false
  rw [hasRemark_true_of_blank hfront, hasRemark_append, h.unremarked, hasRemark_of_blank hback]
  rfl

lemma Clear.body_eq (h : Clear b) (hfront : ∀ c ∈ front, isBlank c)
    (hback : ∀ c ∈ back, isBlank c) : body (front ++ (b ++ back)) = b := by
  rw [body, h.remark?_eq_none hfront hback]
  exact h.trimmed.strip_eq hfront hback

lemma Clear.indent_eq (h : Clear b) (hne : b ≠ []) (hfront : ∀ c ∈ front, isBlank c)
    (back : List Char) : ((front ++ (b ++ back)).takeWhile isBlank).length = front.length := by
  obtain ⟨c, cs, rfl⟩ := exists_cons_of_ne_nil hne
  have hc : isBlank c = false := h.trimmed.head c rfl
  rw [takeWhile_append_of_pos hfront, List.cons_append,
    takeWhile_cons_of_neg (by simp [hc]), append_nil]

lemma Clear.of_append {a : List Char} (h : Clear (a ++ b))
    (hlast : ∀ c ∈ a.getLast?, isBlank c = false) : Clear a := by
  refine ⟨⟨fun c hc => ?_, hlast⟩, ?_, fun hhash => h.unhashed ?_, fun hmem => h.unbroken.1 ?_,
    fun hmem => h.unbroken.2 ?_⟩
  · exact h.trimmed.head c (by rw [head?_append, Option.mem_def.1 hc]; rfl)
  · have := h.unremarked
    rw [hasRemark_append, Bool.or_eq_false_iff] at this
    exact this.1
  · rw [head?_append, hhash]
    rfl
  · exact mem_append_left _ hmem
  · exact mem_append_left _ hmem

/-! ### Headers -/

lemma header?_append {n rest : List Char} (h : ']' ∉ rest) :
    header? ('[' :: (n ++ ']' :: rest)) = if n.isEmpty then none else some (ofList n) := by
  have hreverse : (n ++ ']' :: rest).reverse = rest.reverse ++ ']' :: n.reverse := by simp
  simp [header?, cutLast?, hreverse, cut?_append (show ']' ∉ rest.reverse by simpa using h)]

lemma header?_of_not_mem (h : ']' ∉ cs) : header? ('[' :: cs) = none := by
  simp only [header?, cutLast?_of_not_mem h]

lemma header?_of_head? (h : cs.head? ≠ some '[') : header? cs = none := by
  rw [header?]
  rintro rest rfl
  exact h rfl

lemma header?_eq_none_iff : header? cs = none ↔ (cs.head? = some '[' → ']' ∉ cs.drop 2) := by
  by_cases hhead : cs.head? = some '['
  · obtain ⟨rest, rfl⟩ := head?_eq_some_iff.1 hhead
    by_cases hmem : ']' ∈ rest
    · obtain ⟨n, back, rfl, hback⟩ := exists_last_of_mem hmem
      rw [header?_append hback]
      cases n <;> simp [hback]
    · refine iff_of_true (header?_of_not_mem hmem) fun _ hdrop => hmem ?_
      exact mem_of_mem_drop hdrop
  · exact iff_of_true (header?_of_head? hhead) fun h => absurd h hhead

/-- The name of a section, as it can stand in a header. -/
structure Heading (n : List Char) : Prop where
  clear : Clear ('[' :: (n ++ [']']))
  ne_nil : n ≠ []

lemma Heading.header?_eq {n : List Char} (h : Heading n) :
    header? ('[' :: (n ++ [']'])) = some (ofList n) := by
  rw [header?_append (by simp), if_neg (by simpa using h.ne_nil)]

lemma heading_of_header? (hb : Clear b) {name : String} (h : header? b = some name) :
    Heading name.toList := by
  by_cases hhead : b.head? = some '['
  · obtain ⟨rest, rfl⟩ := head?_eq_some_iff.1 hhead
    by_cases hmem : ']' ∈ rest
    · obtain ⟨n, back, rfl, hback⟩ := exists_last_of_mem hmem
      rw [header?_append hback] at h
      split at h
      · cases h
      · next hne =>
        obtain rfl := Option.some.inj h
        rw [toList_ofList]
        have hclear : Clear (('[' :: n ++ [']']) ++ back) := by simpa using hb
        refine ⟨hclear.of_append fun c hc => ?_, by simpa using hne⟩
        rw [getLast?_concat] at hc
        obtain rfl := Option.some.inj hc
        decide
    · rw [header?_of_not_mem hmem] at h
      cases h
  · rw [header?_of_head? hhead] at h
    cases h

/-! ### Options -/

lemma Clear.of_patterned {a : List Char} (h : Clear a) (hb : Patterned a b) : Clear b := by
  have hblank {c : Char} (hc : isBlank c = true) : isMark c = true := by simp [isMark, hc]
  refine ⟨⟨fun c hc => ?_, fun c hc => ?_⟩, ?_, fun hhash => ?_, fun hmem => ?_, fun hmem => ?_⟩
  · refine Bool.eq_false_iff.2 fun hc' => ?_
    exact Bool.noConfusion (hc'.symm.trans (h.trimmed.head c ((hb.head?_eq_iff (hblank hc')).1 hc)))
  · refine Bool.eq_false_iff.2 fun hc' => ?_
    exact Bool.noConfusion
      (hc'.symm.trans (h.trimmed.last c ((hb.getLast?_eq_iff (hblank hc')).1 hc)))
  · rw [hasRemark_of_patterned hb, h.unremarked]
  · exact h.unhashed ((hb.head?_eq_iff (by decide)).1 hhash)
  · exact h.unbroken.1 ((hb.mem_iff (by decide)).1 hmem)
  · exact h.unbroken.2 ((hb.mem_iff (by decide)).1 hmem)

/-- An option and the first line of its value, as they can stand in a line. -/
structure Keyed (k v : List Char) : Prop where
  ne_nil : k ≠ []
  clear : Clear k
  undivided : '=' ∉ k ∧ ':' ∉ k
  lowered : Text.lower k = k
  trimmed : Trimmed v
  unremarked : hasRemark false v = false
  unbroken : '\n' ∉ v ∧ '\r' ∉ v
  headless : k.head? = some '[' → ']' ∉ k.drop 2 ∧ ']' ∉ v

/-- The part of a first line that is read back. -/
def shown (v : List Char) : List Char := if v.head? = some ';' then [] else v

variable {k v : List Char}

lemma assignment?_eq_some {option text : String} (h : assignment? b = some (option, text)) :
    ∃ name sep value, b = name ++ sep :: value ∧ ('=' ∉ name ∧ ':' ∉ name) ∧
      (sep = '=' ∨ sep = ':') ∧ option = ofList (stripEnd name) ∧
      text = ofList (strip value) := by
  have hb := (takeWhile_append_dropWhile (p := fun c => c ≠ '=' && c ≠ ':') (l := b)).symm
  have hnot := head?_dropWhile_not (fun c => c ≠ '=' && c ≠ ':') b
  have hname : ∀ c ∈ b.takeWhile (fun c => c ≠ '=' && c ≠ ':'), c ≠ '=' ∧ c ≠ ':' :=
    fun c hc => by simpa using mem_takeWhile_imp hc
  simp only [assignment?] at h
  generalize b.takeWhile (fun c => c ≠ '=' && c ≠ ':') = name at hb hname h
  generalize b.dropWhile (fun c => c ≠ '=' && c ≠ ':') = rest at hb hnot
  rw [hb, drop_left] at h
  cases rest with
  | nil => cases h
  | cons sep value =>
    obtain ⟨rfl, rfl⟩ := Prod.mk.inj (Option.some.inj h)
    refine ⟨name, sep, value, hb, ⟨fun hmem => ?_, fun hmem => ?_⟩, ?_, rfl, rfl⟩
    · exact (hname _ hmem).1 rfl
    · exact (hname _ hmem).2 rfl
    · by_cases hsep : sep = '='
      · exact .inl hsep
      · exact .inr (by simpa [hsep] using hnot)

lemma hasRemark_false (h : hasRemark true cs = false) : hasRemark false cs = false := by
  cases cs with
  | nil => rfl
  | cons c cs =>
    rw [hasRemark, Bool.or_eq_false_iff] at h
    simp [hasRemark, h.2]

lemma hasRemark_false_strip (h : hasRemark false cs = false) :
    hasRemark false (strip cs) = false := by
  obtain ⟨front, back, hcs, -, -⟩ := exists_strip cs
  rw [hcs, hasRemark_append, hasRemark_append, Bool.or_eq_false_iff, Bool.or_eq_false_iff] at h
  cases hends : endsBlank false front with
  | false => rw [hends] at h; exact h.2.1
  | true => rw [hends] at h; exact hasRemark_false h.2.1

lemma keyed_of_assignment? (hb : Clear b) (hheader : header? b = none) {option text : String}
    (h : assignment? b = some (option, text)) (hne : optionName option ≠ "") :
    Keyed (optionName option).toList text.toList := by
  obtain ⟨name, sep, value, rfl, hname, hsep, rfl, rfl⟩ := assignment?_eq_some h
  obtain ⟨back, hback, -⟩ := exists_stripEnd name
  have hclear : Clear (stripEnd name) := by
    refine Clear.of_append (b := back ++ sep :: value) ?_ (last_stripEnd name)
    rwa [← List.append_assoc, ← hback]
  have hpattern : Patterned (stripEnd name) (Text.lower (stripEnd name)) := patterned_lower _
  have hstart {c : Char} (hc : c ∈ stripEnd name) : c ∈ name := by
    rw [hback]
    exact mem_append_left _ hc
  have hsub {c : Char} (hc : c ∈ strip value) : c ∈ value := by
    obtain ⟨front, back, hvalue, -⟩ := exists_strip value
    rw [hvalue]
    exact mem_append_right _ (mem_append_left _ hc)
  have hdivided := hb.unremarked
  rw [hasRemark_append, hasRemark, Bool.or_eq_false_iff, Bool.or_eq_false_iff] at hdivided
  have hsepBlank : isBlank sep = false := by rcases hsep with rfl | rfl <;> decide
  rw [hsepBlank] at hdivided
  simp only [optionName, toList_ofList]
  refine ⟨fun hnil => hne ?_, hclear.of_patterned hpattern, ⟨fun hmem => ?_, fun hmem => ?_⟩,
    lower_lower _, trimmed_strip _, hasRemark_false_strip hdivided.2.2,
    ⟨fun hmem => ?_, fun hmem => ?_⟩, fun hhead => ?_⟩
  · simp only [optionName, toList_ofList]
    rw [hnil]
  · exact hname.1 (hstart ((hpattern.mem_iff (by decide)).1 hmem))
  · exact hname.2 (hstart ((hpattern.mem_iff (by decide)).1 hmem))
  · exact hb.unbroken.1 (mem_append_right _ (mem_cons_of_mem _ (hsub hmem)))
  · exact hb.unbroken.2 (mem_append_right _ (mem_cons_of_mem _ (hsub hmem)))
  · obtain ⟨n, l, hn, hl, hpattern⟩ := hpattern.exists_cons (by decide) hhead
    have hfree : ']' ∉ (n ++ (back ++ sep :: value)).drop 1 := by
      have := header?_eq_none_iff.1 hheader
      rw [hback, hn] at this
      simpa using this
    rw [hl]
    refine ⟨fun hmem => hfree ?_, fun hmem => hfree ?_⟩
    · have hn : ']' ∈ n.tail := hpattern.mem_tail (by decide) (by simpa using hmem)
      cases n with
      | nil => cases hn
      | cons c n => exact mem_append_left _ hn
    · -- The divider stands between the bracket and the value.
      rw [← List.append_assoc]
      cases n ++ back with
      | nil => exact hsub hmem
      | cons c cs => exact mem_append_right _ (mem_cons_of_mem _ (hsub hmem))

lemma Keyed.clear_divider (h : Keyed k v) : Clear (k ++ [' ', '=']) := by
  obtain ⟨c, cs, rfl⟩ := exists_cons_of_ne_nil h.ne_nil
  refine ⟨⟨fun d hd => h.clear.trimmed.head d hd, fun d hd => ?_⟩, ?_, h.clear.unhashed, ?_⟩
  · rw [getLast?_append] at hd
    obtain rfl := Option.some.inj hd
    decide
  · rw [hasRemark_append, h.clear.unremarked]
    simp [hasRemark]
  · simpa using h.clear.unbroken

lemma shown_ne_nil (h : shown v ≠ []) : v ≠ [] ∧ v.head? ≠ some ';' ∧ shown v = v := by
  rw [shown] at h ⊢
  split at h
  · exact absurd rfl h
  · next hhead => exact ⟨h, hhead, if_neg hhead⟩

lemma hasRemark_of_head? (hhead : v.head? ≠ some ';') (h : hasRemark false v = false) :
    hasRemark true v = false := by
  cases v with
  | nil => rfl
  | cons c v =>
    have hc : c ≠ ';' := by simpa using hhead
    rw [hasRemark, Bool.and_false] at h
    simp [hasRemark, hc, h]

lemma Keyed.clear_value (h : Keyed k v) (hv : shown v ≠ []) :
    Clear (k ++ ([' ', '=', ' '] ++ v)) := by
  obtain ⟨hne, hhead, -⟩ := shown_ne_nil hv
  obtain ⟨c, cs, rfl⟩ := exists_cons_of_ne_nil h.ne_nil
  refine ⟨⟨fun d hd => h.clear.trimmed.head d hd, fun d hd => ?_⟩, ?_, h.clear.unhashed, ?_⟩
  · obtain ⟨e, he⟩ := Option.ne_none_iff_exists'.1 (mt getLast?_eq_none_iff.1 hne)
    rw [getLast?_append, getLast?_append, he] at hd
    obtain rfl := Option.some.inj hd
    exact h.trimmed.last e he
  · rw [hasRemark_append, h.clear.unremarked]
    simp [hasRemark, show isBlank ' ' = true from rfl, hasRemark_of_head? hhead h.unremarked]
  · simpa [h.unbroken] using h.clear.unbroken

lemma Keyed.isRemark_eq_false (h : Keyed k v) (rest : List Char) : isRemark (k ++ rest) = false := by
  obtain ⟨c, cs, rfl⟩ := exists_cons_of_ne_nil h.ne_nil
  have hhead : (strip (c :: cs ++ rest)).head? = some c :=
    head?_strip blank_nil (h.clear.trimmed.head c rfl) _
  rw [isRemark]
  split
  · next hs =>
    rw [hs] at hhead
    exact absurd hhead.symm h.clear.unhashed
  · next hs =>
    rw [hs] at hhead
    obtain rfl := Option.some.inj hhead
    exact absurd h.clear.unremarked (by simp [hasRemark])
  · rfl

lemma Keyed.remarkStart_eq {rest : List Char} (h : Keyed k (';' :: rest)) :
    remarkStart (k ++ ([' ', '=', ' '] ++ (';' :: rest ++ ['\n']))) =
      some (k ++ [' ', '=', ' ']).length := by
  have hfree : hasRemark true (k ++ [' ', '=', ' ']) = false := by
    rw [hasRemark_append, h.clear.unremarked]
    simp [hasRemark]
  have hends : endsBlank true (k ++ [' ', '=', ' ']) = true := by
    rw [endsBlank, getLast?_append]
    rfl
  have := remarkStart_go_append none 0 hfree hends (rest ++ ['\n'])
  simpa [remarkStart] using this

/-- A value that starts with a semicolon is a remark where a blank stands in front of it. -/
lemma Keyed.body_eq (h : Keyed k v) : body (k ++ ([' ', '=', ' '] ++ (v ++ ['\n']))) =
      k ++ if shown v = [] then [' ', '='] else [' ', '=', ' '] ++ v := by
  split
  · next hv =>
    by_cases hnil : v = []
    · have hback : ∀ c ∈ [' ', '\n'], isBlank c := all_eq_true.1 (by decide)
      simpa [hnil] using h.clear_divider.body_eq blank_nil hback
    · have hhead : v.head? = some ';' := by
        rw [shown] at hv
        split at hv
        · assumption
        · exact absurd hv hnil
      obtain ⟨rest, rfl⟩ := head?_eq_some_iff.1 hhead
      have htake : (k ++ ([' ', '=', ' '] ++ (';' :: rest ++ ['\n']))).take
          (k ++ [' ', '=', ' ']).length = [] ++ (k ++ [' ', '='] ++ [' ']) := by
        rw [← List.append_assoc, List.take_left]
        simp
      have hback : ∀ c ∈ [' '], isBlank c := all_eq_true.1 (by decide)
      simp only [body, remark?, h.isRemark_eq_false, h.remarkStart_eq, Bool.false_eq_true, if_false]
      rw [htake, h.clear_divider.trimmed.strip_eq blank_nil hback]
  · next hv =>
    simpa using (h.clear_value hv).body_eq blank_nil blank_break

lemma Keyed.assignment?_divider (h : Keyed k v) (rest : List Char) :
    assignment? (k ++ ([' ', '='] ++ rest)) =
      some (ofList k, ofList (strip rest)) := by
  have hfront : ∀ c ∈ k ++ [' '], (decide (c ≠ '=') && decide (c ≠ ':')) = true := by
    intro c hc
    rcases mem_append.1 hc with hc | hc
    · have hequals : c ≠ '=' := by
        rintro rfl
        exact h.undivided.1 hc
      have hcolon : c ≠ ':' := by
        rintro rfl
        exact h.undivided.2 hc
      simp [hequals, hcolon]
    · obtain rfl := mem_singleton.1 hc
      rfl
  have hsplit : k ++ ([' ', '='] ++ rest) = (k ++ [' ']) ++ '=' :: rest := by simp
  have htake : (k ++ ([' ', '='] ++ rest)).takeWhile (fun c => c ≠ '=' && c ≠ ':') = k ++ [' '] := by
    rw [hsplit, takeWhile_append_of_pos hfront, takeWhile_cons_of_neg (by simp), append_nil]
  have hblank : ∀ c ∈ [' '], isBlank c := all_eq_true.1 (by decide)
  have hname : stripEnd (k ++ [' ']) = k := by
    rw [stripEnd_append_of_blank hblank, stripEnd_of_last h.clear.trimmed.last]
  simp only [assignment?, htake]
  rw [hsplit, drop_left, hname]

lemma Keyed.assignment?_eq (h : Keyed k v) :
    assignment? (body (k ++ ([' ', '=', ' '] ++ (v ++ ['\n'])))) =
      some (ofList k, ofList (shown v)) := by
  rw [h.body_eq]
  split
  · next hv =>
    rw [hv]
    exact h.assignment?_divider []
  · next hv =>
    have hblank : ∀ c ∈ [' '], isBlank c := all_eq_true.1 (by decide)
    have hstrip : strip (' ' :: v) = v := by
      simpa using h.trimmed.strip_eq hblank blank_nil
    rw [(shown_ne_nil hv).2.2]
    have := h.assignment?_divider (' ' :: v)
    rwa [hstrip] at this

lemma Keyed.header?_eq (h : Keyed k v) :
    header? (body (k ++ ([' ', '=', ' '] ++ (v ++ ['\n'])))) = none := by
  obtain ⟨c, cs, rfl⟩ := exists_cons_of_ne_nil h.ne_nil
  rw [h.body_eq, header?_eq_none_iff]
  intro hhead hmem
  obtain ⟨hk, hv⟩ := h.headless hhead
  rw [drop_append, mem_append] at hmem
  rcases hmem with hmem | hmem
  · exact hk hmem
  · have := mem_of_mem_drop hmem
    split at this
    · simp at this
    · simp [hv] at this

end SetTop.Settings

import SetTop.Files.Tree
import SetTop.Proofs.Association
import SetTop.Proofs.Text.Lines
import SetTop.Proofs.Text.Trim

/-!
Walks through a tree of files that changes.

A tree keeps to another one if directories and links stay as they are, and what is new is no link;
files may come and go. A walk that leads somewhere leads to the same place in such a tree
(`Keeps.follow_eq`). A walk that leads nowhere may then lead to something new, but to nothing that
was there before (`Keeps.follow_fresh`), provided that it does not turn back: two dots behind a
missing directory would lead to what stands beside it.
-/

namespace SetTop

open List Path Text

/-! ### Steps -/

namespace Path

structure IsStep (step : String) : Prop where
  ne_nil : step.toList ≠ []
  undivided : '/' ∉ step.toList

/-- A directory as walks give it. -/
def IsDirect (dir : String) : Prop := dir = "/" ∨ ∃ c, dir.toList.getLast? = some c ∧ c ≠ '/'

variable {step dir : String}

lemma isStep_of_mem_parts {p : String} (h : step ∈ parts p) : IsStep step := by
  obtain ⟨hmem, hne⟩ := mem_filter.1 h
  obtain ⟨part, hpart, rfl⟩ := mem_map.1 hmem
  refine ⟨by simpa using hne, ?_⟩
  rw [String.toList_ofList]
  exact not_mem_of_mem_splitAtChar hpart

lemma toList_join (hdir : IsDirect dir) (hstep : IsStep step) : (join dir step).toList =
      (if dir = "/" then ['/'] else dir.toList ++ ['/']) ++ step.toList := by
  have habsolute : isAbsolute step = false := by
    obtain ⟨c, cs, hcs⟩ := exists_cons_of_ne_nil hstep.ne_nil
    have hc : '/' ≠ c := by
      rintro rfl
      exact hstep.undivided (hcs ▸ mem_cons_self)
    simp [isAbsolute, startsWithText, startsWith, hcs, dropFront?, hc]
  rw [join, habsolute, if_neg (by simp)]
  by_cases hroot : dir = "/"
  · have hends : endsWithText "/" "/" = true := by decide
    rw [hroot, hends, Bool.or_true, if_pos rfl, String.toList_append]
    rfl
  · obtain ⟨c, hc, hslash⟩ := hdir.resolve_left hroot
    obtain ⟨front, hfront⟩ := List.getLast?_eq_some_iff.1 hc
    have hempty : dir.isEmpty = false := by
      rw [Bool.eq_false_iff, ne_eq, String.isEmpty_iff]
      rintro rfl
      simp at hfront
    have hends : endsWithText dir "/" = false := by
      simp [endsWithText, endsWith, startsWith, hfront, dropFront?, Ne.symm hslash]
    rw [hempty, hends, if_neg hroot]
    simp

lemma isDirect_join (hdir : IsDirect dir) (hstep : IsStep step) : IsDirect (join dir step) := by
  obtain ⟨c, hc⟩ := Option.ne_none_iff_exists'.1 (mt List.getLast?_eq_none_iff.1 hstep.ne_nil)
  refine .inr ⟨c, ?_, ?_⟩
  · rw [toList_join hdir hstep, List.getLast?_append, hc]
    rfl
  · rintro rfl
    exact hstep.undivided (mem_of_getLast? hc)

lemma directory_join (hdir : IsDirect dir) (hstep : IsStep step) : directory (join dir step) = dir := by
  have hnot : ∀ c ∈ step.toList.reverse, decide (c ≠ '/') = true := by
    intro c hc
    simp only [decide_not, Bool.not_eq_eq_eq_not, Bool.not_true, decide_eq_false_iff_not]
    rintro rfl
    exact hstep.undivided (mem_reverse.1 hc)
  have htail (front : List Char) :
      (((front ++ ['/']) ++ step.toList).reverse.takeWhile (· ≠ '/')).reverse = step.toList := by
    rw [reverse_append, takeWhile_append_of_pos hnot, reverse_concat,
      takeWhile_cons_of_neg (by simp), append_nil, reverse_reverse]
  have hhead (front : List Char) :
      (front ++ step.toList).take ((front ++ step.toList).length - step.toList.length) = front := by
    rw [length_append, Nat.add_sub_cancel, take_left]
  rw [directory, split, toList_join hdir hstep]
  by_cases hroot : dir = "/"
  · have := htail []
    simp only [hroot, if_true, nil_append] at this ⊢
    rw [this, hhead]
    rfl
  · obtain ⟨c, hc, hslash⟩ := hdir.resolve_left hroot
    obtain ⟨front, hfront⟩ := List.getLast?_eq_some_iff.1 hc
    simp only [hroot, if_false]
    rw [htail, hhead, if_neg]
    · rw [dropEndWhile, reverse_concat, dropWhile_cons_of_pos (by simp), hfront,
        reverse_concat, dropWhile_cons_of_neg (by simpa using hslash), ← reverse_concat,
        reverse_reverse, ← hfront, String.ofList_toList]
    · simp [hfront, hslash]

end Path

namespace FileTree

variable {t t' : FileTree} {b : Bool} {n : Nat} {dir p : String} {steps : List String}
  {e : Option Entry}

variable {q : String}

lemma get?_eq_ite (hq : q ≠ "/")
    (h : t'.entries.lookup p = if p == q then e else t.entries.lookup p) :
    t'.get? p = if p = q then e else t.get? p := by
  by_cases hp : p = "/"
  · have hne : p ≠ q := fun heq => hq (heq.symm.trans hp)
    rw [if_neg hne, hp]
    rfl
  · have hget (t : FileTree) : t.get? p = t.entries.lookup p := if_neg (by simpa using hp)
    rw [hget, hget, h]
    simp only [beq_iff_eq]

lemma get?_put (t : FileTree) (hq : q ≠ "/") (e : Entry) (p : String) :
    (t.put q e).get? p = if p = q then some e else t.get? p := by
  refine get?_eq_ite hq (Eq.trans ?_ (Association.lookup_put q p e t.entries))
  rw [put]
  split <;> rfl

lemma get?_erase (t : FileTree) (hq : q ≠ "/") (p : String) :
    (t.erase q).get? p = if p = q then none else t.get? p :=
  get?_eq_ite hq (Association.lookup_filter_bne q p t.entries)

section Steps

variable {step place : String} {rest : List String} {found : Option Entry}

/-- Where a step leads that stands for no name: nowhere if it is too long for one. -/
def sidestep? (dir step : String) : Option (Option String) :=
  if step == "." then some (some dir)
  else if step == ".." then some (some (directory dir))
  else if step.utf8ByteSize > maxNameLength then some none
  else none

lemma eq_of_sidestep? (h : sidestep? dir step = some (some p)) (hup : step ≠ "..") : p = dir := by
  simp only [sidestep?, beq_iff_eq] at h
  split at h
  · cases h
    rfl
  · split at h <;> cases h

/-- What comes of a step that leads to a place, by what stands there. -/
def arrive (t : FileTree) (b : Bool) (n : Nat) (dir place : String) (rest : List String) :
    Option Entry → Except Fault (String × Option Entry)
  | none => if rest.isEmpty then .ok (place, none) else .error noSuchFile
  | some .directory => t.follow b n place rest
  | some (.file text) =>
    if rest.isEmpty then .ok (place, some (.file text)) else .error notADirectory
  | some (.link target) =>
    if rest.isEmpty && !b then .ok (place, some (.link target))
    else match n with
      | 0 => .error tooManyLinks
      | n + 1 =>
        t.follow b n (if isAbsolute target then "/" else dir) (parts target ++ rest)

lemma follow_nil (t : FileTree) (b : Bool) (n : Nat) (dir : String) :
    t.follow b n dir [] = .ok (dir, some .directory) := by
  cases n <;> rfl

lemma follow_cons (t : FileTree) (b : Bool) (n : Nat) (dir step : String) (rest : List String) :
    t.follow b n dir (step :: rest) =
      match sidestep? dir step with
      | some (some dir) => t.follow b n dir rest
      | some none => .error nameTooLong
      | none => t.arrive b n dir (join dir step) rest (t.get? (join dir step)) := by
  cases n <;>
  · simp only [follow, stepsFrom, sidestep?]
    split
    · rfl
    · split
      · rfl
      · split <;> rfl

lemma arrive_nil (t : FileTree) (n : Nat) (dir place : String)
    (h : ∀ target, found = some (.link target) → b = false) :
    t.arrive b n dir place [] found = .ok (place, found) := by
  rcases found with _ | _ | text | target
  · rfl
  · exact follow_nil t b n place
  · rfl
  · rw [h target rfl]
    rfl

/-- A walk that leads somewhere ends with a step, or goes on in a directory or through a link. -/
lemma arrive_eq_ok (h : t.arrive b n dir place rest found = .ok (p, e)) :
    (p = place ∧ e = found ∧ rest = [] ∧ ∀ target, found = some (.link target) → b = false) ∨
    found = some .directory ∧ t.follow b n place rest = .ok (p, e) ∨
    ∃ m target, n = m + 1 ∧ found = some (.link target) ∧ ¬(rest.isEmpty && !b) = true ∧
      t.follow b m (if isAbsolute target then "/" else dir) (parts target ++ rest) =
        .ok (p, e) := by
  rcases found with _ | _ | text | target
  · rw [arrive] at h
    split at h
    · next hrest =>
      cases h
      exact .inl ⟨rfl, rfl, isEmpty_iff.1 hrest, by simp⟩
    · cases h
  · exact .inr (.inl ⟨rfl, h⟩)
  · rw [arrive] at h
    split at h
    · next hrest =>
      cases h
      exact .inl ⟨rfl, rfl, isEmpty_iff.1 hrest, by simp⟩
    · cases h
  · change (if (rest.isEmpty && !b) = true then _ else _) = _ at h
    split at h
    · next hlast =>
      cases h
      rw [Bool.and_eq_true, Bool.not_eq_true'] at hlast
      exact .inl ⟨rfl, rfl, isEmpty_iff.1 hlast.1, fun _ _ => hlast.2⟩
    · next hlast =>
      cases n with
      | zero => cases h
      | succ m => exact .inr (.inr ⟨m, target, rfl, rfl, hlast, h⟩)

end Steps

/-- A walk goes on with the steps that are left, or through a link. -/
lemma follow_induct {P : Nat → String → List String → Prop} (nil : ∀ n dir, P n dir [])
    (cons : ∀ n dir step rest, (∀ dir, P n dir rest) →
      (∀ m, n = m + 1 → ∀ dir steps, P m dir steps) → P n dir (step :: rest))
    (n : Nat) (dir : String) (steps : List String) : P n dir steps := by
  induction n using Nat.strong_induction_on generalizing dir steps with
  | _ n again =>
    induction steps generalizing dir with
    | nil => exact nil n dir
    | cons step rest ih =>
      exact cons n dir step rest ih fun m hm => again m (hm ▸ Nat.lt_succ_self m)

lemma get?_of_follow (h : t.follow b n dir steps = .ok (p, e)) :
    e = some .directory ∨ t.get? p = e := by
  induction n, dir, steps using follow_induct with
  | nil n dir =>
    rw [follow_nil] at h
    exact .inl (Prod.mk.inj (Except.ok.inj h)).2.symm
  | cons n dir step rest ih again =>
    rw [follow_cons] at h
    split at h
    · exact ih _ h
    · cases h
    · obtain ⟨rfl, rfl, -⟩ | ⟨-, h⟩ | ⟨m, target, rfl, -, -, h⟩ := arrive_eq_ok h
      · exact .inr rfl
      · exact ih _ h
      · exact again m rfl _ _ h

/-- No walk leads on from here. -/
def IsDead (e : Option Entry) : Prop := e = none ∨ ∃ text, e = some (.file text)

/-- Directories and links are kept. Files may come and go, and what is new is no link. -/
structure Keeps (t t' : FileTree) : Prop where
  directory : ∀ p, t.get? p = some .directory → t'.get? p = some .directory
  link : ∀ p target, t.get? p = some (.link target) → t'.get? p = some (.link target)
  file : ∀ p text, t.get? p = some (.file text) → IsDead (t'.get? p)
  fresh : ∀ p target, t.get? p = none → t'.get? p ≠ some (.link target)

lemma Keeps.link_of_link (hk : t.Keeps t') {target : String}
    (h : t'.get? p = some (.link target)) : t.get? p = some (.link target) := by
  rcases hp : t.get? p with _ | _ | text | target'
  · exact absurd h (hk.fresh p target hp)
  · cases (hk.directory p hp).symm.trans h
  · rcases hk.file p text hp with hp' | ⟨text', hp'⟩ <;> cases hp'.symm.trans h
  · exact (hk.link p target' hp).symm.trans h

/-- A walk that leads somewhere still leads there. -/
lemma Keeps.follow_eq (hk : t.Keeps t') (h : t.follow b n dir steps = .ok (p, e)) :
    t'.follow b n dir steps =
      .ok (p, if e = some .directory then some .directory else t'.get? p) := by
  induction n, dir, steps using follow_induct with
  | nil n dir =>
    rw [follow_nil] at h ⊢
    obtain ⟨rfl, rfl⟩ := Prod.mk.inj (Except.ok.inj h)
    rw [if_pos rfl]
  | cons n dir step rest ih again =>
    rw [follow_cons] at h ⊢
    split at h
    · exact ih _ h
    · cases h
    · obtain ⟨rfl, rfl, rfl, hlink⟩ | ⟨hfound, h⟩ | ⟨m, target, rfl, hfound, hlast, h⟩ :=
        arrive_eq_ok h
      · -- The last step may now lead to something, but not to a new link.
        rw [arrive_nil _ _ _ _ fun target h => hlink target (hk.link_of_link h)]
        split
        · next hdirectory => rw [hk.directory _ hdirectory]
        · rfl
      · rw [hk.directory _ hfound]
        exact ih _ h
      · rw [hk.link _ _ hfound, arrive, if_neg hlast]
        exact again m rfl _ _ h

/-- What is there stands in a directory. -/
def Sound (t : FileTree) : Prop :=
  ∀ p e, t.get? p = some e → t.get? (directory p) = some .directory

lemma Keeps.follow_within (ht : t.Sound) (hk : t.Keeps t') (hdir : Path.IsDirect dir)
    (hnone : t.get? dir = none) (hthere : t'.get? dir = some .directory)
    (hsteps : ∀ step ∈ steps, Path.IsStep step ∧ step ≠ "..")
    (h : t'.follow b n dir steps = .ok (p, e)) : t.get? p = none ∧ t'.get? p = e := by
  induction steps generalizing dir with
  | nil =>
    rw [follow_nil] at h
    obtain ⟨rfl, rfl⟩ := Prod.mk.inj (Except.ok.inj h)
    exact ⟨hnone, hthere⟩
  | cons step rest ih =>
    obtain ⟨⟨hstep, hup⟩, hrest⟩ := forall_mem_cons.1 hsteps
    rw [follow_cons] at h
    split at h
    · next hside =>
      obtain rfl := eq_of_sidestep? hside hup
      exact ih hdir hnone hthere hrest h
    · cases h
    · -- Nothing stood there, since the directory itself was not there.
      have hplace : t.get? (join dir step) = none := by
        refine Option.eq_none_iff_forall_ne_some.2 fun entry hentry => ?_
        have habove := ht _ _ hentry
        rw [directory_join hdir hstep, hnone] at habove
        cases habove
      obtain ⟨rfl, rfl, -⟩ | ⟨hfound, h⟩ | ⟨m, target, -, hfound, -⟩ := arrive_eq_ok h
      · exact ⟨hplace, rfl⟩
      · exact ih (isDirect_join hdir hstep) hplace hfound hrest h
      · cases hplace.symm.trans (hk.link_of_link hfound)

/-- A walk that led nowhere leads to nothing that was there before. -/
lemma Keeps.follow_fresh (ht : t.Sound) (hk : t.Keeps t')
    (hlinks : ∀ p target, t.get? p = some (.link target) → ".." ∉ parts target)
    (hdir : Path.IsDirect dir) (hsteps : ∀ step ∈ steps, Path.IsStep step ∧ step ≠ "..")
    {fault : Fault} (hfault : t.follow b n dir steps = .error fault)
    (h : t'.follow b n dir steps = .ok (p, e)) : t.get? p = none ∧ t'.get? p = e := by
  induction n, dir, steps using follow_induct with
  | nil n dir =>
    rw [follow_nil] at hfault
    cases hfault
  | cons n dir step rest ih again =>
    obtain ⟨⟨hstep, hup⟩, hrest⟩ := forall_mem_cons.1 hsteps
    rw [follow_cons] at h hfault
    split at h
    · next hside =>
      obtain rfl := eq_of_sidestep? hside hup
      simp only [hside] at hfault
      exact ih _ hdir hrest hfault h
    · cases h
    · next hside =>
      simp only [hside] at hfault
      obtain ⟨rfl, rfl, rfl, hlink⟩ | ⟨hfound, h⟩ | ⟨m, target, rfl, hfound, hlast, h⟩ :=
        arrive_eq_ok h
      · rw [arrive_nil _ _ _ _ fun target h => hlink target (hk.link _ _ h)] at hfault
        cases hfault
      · -- A directory that was missing here may have been made.
        rcases hplace : t.get? (join dir step) with _ | _ | text | target
        · exact hk.follow_within ht (isDirect_join hdir hstep) hplace hfound hrest h
        · rw [hplace] at hfault
          exact ih _ (isDirect_join hdir hstep) hrest hfault h
        · rcases hk.file _ _ hplace with hdead | ⟨text', hdead⟩ <;> cases hdead.symm.trans hfound
        · cases (hk.link _ _ hplace).symm.trans hfound
      · have hplace := hk.link_of_link hfound
        rw [hplace, arrive, if_neg hlast] at hfault
        refine again m rfl _ _ ?_ (fun s hs => ?_) hfault h
        · split
          · exact .inl rfl
          · exact hdir
        · rcases mem_append.1 hs with hs | hs
          · refine ⟨isStep_of_mem_parts hs, ?_⟩
            rintro rfl
            exact hlinks _ _ hplace hs
          · exact hrest s hs

lemma follow_true_eq (h : ∀ p target, t.follow false n dir steps ≠ .ok (p, some (.link target))) :
    t.follow true n dir steps = t.follow false n dir steps := by
  induction n, dir, steps using follow_induct with
  | nil n dir => rw [follow_nil, follow_nil]
  | cons n dir step rest ih again =>
    simp only [follow_cons] at h ⊢
    split at h
    · exact ih _ h
    · rfl
    · rcases hplace : t.get? (join dir step) with _ | _ | text | target <;> rw [hplace] at h
      · rfl
      · exact ih _ h
      · rfl
      · by_cases hrest : rest.isEmpty = true
        · exact absurd (if_pos (by simp [hrest])) (h _ _)
        · simp only [arrive, hrest] at h ⊢
          cases n with
          | zero => rfl
          | succ m => exact again m rfl _ _ h

end FileTree

end SetTop

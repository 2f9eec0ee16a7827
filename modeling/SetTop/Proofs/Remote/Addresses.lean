import SetTop.Power.Outlet
import SetTop.Proofs.Text.Ends
import SetTop.Remote.Basic

/-!
What becomes of an address.

An address is given to the first kind of a table that it starts like, and the rest of it is
disregarded. So it is refused only if no beginning of it is an address, and otherwise it stands for
what a beginning stands for: every text that starts with `none` stands for no control at all.
-/

namespace SetTop

open Pattern Remote List String

/-- Whether the whole of a text is an address of a kind in a table. -/
def IsAddress {α : Type} (table : List (Pattern × α)) (text : List Char) : Prop :=
  ∃ e ∈ table, e.1.caseless.matchesWhole text = true

/-- What a table makes of an address: it refuses one that starts like no address in the table, and
any other stands for what a beginning of it stands for. -/
def TakesBeginning {α : Type} (table : List (Pattern × (Spot → Act α))) (make : String → Act α)
    (refusal uri : String) : Prop :=
  (make uri = fail .configuration (refusal ++ uri ++ "\"") ∧
    ∀ front, front <+: uri.toList → ¬IsAddress table front) ∨
  ∃ front, front <+: uri.toList ∧ IsAddress table front ∧ make uri = make (ofList front) ∧
    ∃ e ∈ table, ∃ t, e.1.caseless.matchStart front = some t ∧ make uri = e.2 t

section Tables

variable {α : Type} {table : List (Pattern × α)} {uri : String}

lemma findUri_eq_none_iff (hplain : ∀ e ∈ table, e.1.caseless.isPlain = true) :
    findUri table uri true = none ↔ ∀ front, front <+: uri.toList → ¬IsAddress table front := by
  simp only [findUri, if_true, findSome?_eq_none_iff, Option.map_eq_none_iff, IsAddress,
    not_exists, not_and]
  constructor
  · intro h front hfront e he hwhole
    have hsome := (matchStart_isSome_iff (hplain e he)).2 ⟨front, hfront, hwhole⟩
    rw [h e he] at hsome
    cases hsome
  · intro h e he
    rw [← Option.not_isSome_iff_eq_none, matchStart_isSome_iff (hplain e he)]
    rintro ⟨front, hfront, hwhole⟩
    exact h front hfront e he hwhole

lemma exists_findUri (hplain : ∀ e ∈ table, e.1.caseless.isPlain = true) {a : α} {t : Spot}
    (h : findUri table uri true = some (a, t)) :
    ∃ front p, uri.toList = front ++ t.rest ∧ (p, a) ∈ table ∧ p.caseless.matchesWhole front = true ∧
      p.caseless.matchStart front = some { t with rest := [] } ∧
      findUri table (ofList front) true = some (a, { t with rest := [] }) := by
  obtain ⟨earlier, e, later, rfl, he, hearlier⟩ := findSome?_eq_some_iff.1 h
  obtain ⟨t', ht', heq⟩ := Option.map_eq_some_iff.1 he
  obtain ⟨rfl, rfl⟩ := Prod.mk.inj heq
  obtain ⟨front, huri, hwhole, hfront⟩ := exists_matchStart (hplain e (by simp)) ht'
  refine ⟨front, e.1, huri, by simp, hwhole, hfront, ?_⟩
  refine findSome?_eq_some_iff.2 ⟨earlier, e, later, rfl, ?_, fun x hx => ?_⟩
  · simp [hfront]
  -- a kind that a beginning starts like is one that the whole starts like
  · have hnone := Option.map_eq_none_iff.1 (hearlier x hx)
    simp only [if_true] at hnone ⊢
    rw [Option.map_eq_none_iff, toList_ofList, ← Option.not_isSome_iff_eq_none]
    intro hsome
    have hmore := matchStart_append (hplain x (by simp [hx])) t'.rest hsome
    rw [← huri, hnone] at hmore
    cases hmore

end Tables

lemma takesBeginning {α : Type} {table : List (Pattern × (Spot → Act α))} {make : String → Act α}
    {refusal : String} (hplain : ∀ e ∈ table, e.1.caseless.isPlain = true)
    (hrest : ∀ e ∈ table, ∀ t, e.2 { t with rest := [] } = e.2 t)
    (hmake : ∀ uri, make uri =
      (findUri table uri true).elim (fail .configuration (refusal ++ uri ++ "\"")) fun m => m.1 m.2)
    (uri : String) : TakesBeginning table make refusal uri := by
  cases h : findUri table uri true with
  | none =>
    refine .inl ⟨?_, (findUri_eq_none_iff hplain).1 h⟩
    rw [hmake, h]
    rfl
  | some m =>
    obtain ⟨front, p, huri, he, hwhole, hfront, hfound⟩ := exists_findUri hplain h
    have hthis : make uri = m.1 { m.2 with rest := [] } := by
      rw [hmake, h]
      exact (hrest _ he m.2).symm
    refine .inr ⟨front, ⟨_, huri.symm⟩, ⟨_, he, hwhole⟩, ?_, _, he, _, hfront, hthis⟩
    rw [hthis, hmake, hfound]
    rfl

lemma isPlain_remotes (attached : Bool) :
    ∀ e ∈ table attached, e.1.caseless.isPlain = true :=
  all_eq_true.1 (by rfl)

lemma isPlain_outlets : ∀ e ∈ Outlet.table, e.1.caseless.isPlain = true :=
  all_eq_true.1 (by rfl)

lemma takesBeginning_remotes (uri : String) (attached : Bool) :
    TakesBeginning (table attached) (ofUri · attached)
      "Invalid remote control URI: \"" uri := by
  refine takesBeginning (isPlain_remotes attached) (fun e he t => ?_) (fun uri => ?_) uri
  · simp only [table, mem_cons, not_mem_nil, or_false] at he
    rcases he with rfl | rfl | rfl | rfl | rfl | rfl | rfl | rfl | rfl | rfl | rfl <;> rfl
  · rw [ofUri]
    cases findUri (table attached) uri true <;> rfl

lemma takesBeginning_outlets (uri : String) :
    TakesBeginning Outlet.table Outlet.ofUri "Invalid power outlet URI: \"" uri := by
  refine takesBeginning isPlain_outlets (fun e he t => ?_) (fun uri => ?_) uri
  · simp only [Outlet.table, mem_cons, not_mem_nil, or_false] at he
    rcases he with rfl | rfl | rfl | rfl | rfl <;> rfl
  · rw [Outlet.ofUri]
    cases findUri Outlet.table uri true <;> rfl

lemma not_isAddress_of_ends {α : Type} {table : List (Pattern × α)} {text : List Char} {n : Nat}
    (hplain : ∀ e ∈ table, e.1.caseless.isPlain = true) (hlength : n < text.length)
    (h : ∀ ends ∈ table.map (·.1.caseless.ends text), ∀ e ∈ ends, e.1 = n) :
    ¬IsAddress table text := by
  rintro ⟨entry, hentry, hwhole⟩
  obtain ⟨e, he, hle⟩ := (matchesWhole_iff (hplain entry hentry)).1 hwhole
  have hn : e.1 = n := h _ (mem_map_of_mem hentry) e he
  omega

lemma toList_none_append (rest : String) :
    ("none" ++ rest).toList = 'n' :: 'o' :: 'n' :: 'e' :: rest.toList := by
  rw [toList_append]
  rfl

/-- An address stands for what a beginning of it stands for. So `none` with something behind it, which
is no address, stands for no control and no outlet. -/
theorem ofUri_disregards_rest (uri : String) (attached : Bool) :
    TakesBeginning (Remote.table attached) (Remote.ofUri · attached)
        "Invalid remote control URI: \"" uri ∧
      TakesBeginning Outlet.table Outlet.ofUri "Invalid power outlet URI: \"" uri ∧
      ∀ rest : String, rest ≠ "" →
        (¬IsAddress (Remote.table attached) ("none" ++ rest).toList ∧
          Remote.ofUri ("none" ++ rest) attached = return .null) ∧
        (¬IsAddress Outlet.table ("none" ++ rest).toList ∧
          Outlet.ofUri ("none" ++ rest) = return .none) := by
  refine ⟨takesBeginning_remotes uri attached, takesBeginning_outlets uri, fun rest hrest => ?_⟩
  have hlength : 4 < ("none" ++ rest).toList.length := by
    have hpos := length_pos_iff.2 fun h => hrest (toList_eq_nil_iff.1 h)
    rw [toList_none_append]
    simpa using hpos
  refine ⟨⟨not_isAddress_of_ends (isPlain_remotes attached) hlength ?_, ?_⟩,
    not_isAddress_of_ends isPlain_outlets hlength ?_, ?_⟩
  · have hends : (table attached).map (·.1.caseless.ends ("none" ++ rest).toList) =
        [[], [], [], [], [], [(4, [])], [], [], [], [], []] := by
      rw [toList_none_append]
      rfl
    rw [hends]
    simp
  · rw [ofUri, findUri, toList_none_append]
    rfl
  · have hends : Outlet.table.map (·.1.caseless.ends ("none" ++ rest).toList) =
        [[(4, [])], [], [], [], []] := by
      rw [toList_none_append]
      rfl
    rw [hends]
    simp
  · rw [Outlet.ofUri, findUri, toList_none_append]
    rfl

/-- A misspelt address stands for no control and no outlet. -/
theorem nonesuch_is_taken :
    "such" ≠ "" ∧ Remote.ofUri "nonesuch" = (return .null) ∧
      Outlet.ofUri "nonesuch" = (return .none) := by
  have hsuch : "such" ≠ "" := by decide
  have hrest := (ofUri_disregards_rest "nonesuch" false).2.2 "such" hsuch
  exact ⟨hsuch, hrest.1.2, hrest.2.2⟩

end SetTop

/-
Module: Acud.Lib.Paging
Purpose: Listings that are read in pages and resumed behind a key.
Trusted boundary: none
Main exports:
  PageEnds, exists_pageEnds, Paging, OneRow, Paging.length_eq_iff, Paging.flatten_eq,
  split_page, filter_behind
-/
import Mathlib.Data.List.Basic
import Mathlib.Tactic.Common

namespace Acud.Lib

/-!
Items in the order of their keys are listed in pages of at most `size` rows.  An item
has one row or more, and the next page starts behind the *item* of the last row, so
rows of that item that did not fit are not listed.

* `Paging` are the pages of a list of items;
* `OneRow`: only an item whose first row is the last of a full page may have more than
  one;
* `Paging.length_eq_iff`: as many rows are listed as there are items exactly when
  `OneRow` holds, and then they are the first rows of the items.
-/

variable {α β : Type} {rows : α → List β} {size : Nat}

/-! ### One page -/

/-- A page ends with the first `cut` rows of the item `last`: it is full, or these are
the last rows of the last item. -/
structure PageEnds (rows : α → List β) (size : Nat) (front : List α) (last : α)
    (behind : List α) (cut : Nat) : Prop where
  some : 0 < cut
  within : cut ≤ (rows last).length
  fits : (front.flatMap rows).length + cut ≤ size
  ended : (front.flatMap rows).length + cut = size ∨ behind = [] ∧ cut = (rows last).length

/-- The page that ends there. -/
def pageRows (rows : α → List β) (front : List α) (last : α) (cut : Nat) : List β :=
  front.flatMap rows ++ (rows last).take cut

theorem PageEnds.length_pageRows {front : List α} {last : α} {behind : List α} {cut : Nat}
    (ends : PageEnds rows size front last behind cut) :
    (pageRows rows front last cut).length = (front.flatMap rows).length + cut := by
  rw [pageRows, List.length_append, List.length_take_of_le ends.within]

/-- The rows of some items begin with a page. -/
theorem exists_pageEnds (nonempty : ∀ item, rows item ≠ []) (positive : 0 < size)
    {items : List α} (some : items ≠ []) :
    ∃ front last behind cut, items = front ++ last :: behind ∧
      PageEnds rows size front last behind cut ∧
      (items.flatMap rows).take size = pageRows rows front last cut := by
  induction items generalizing size with
  | nil => exact absurd rfl some
  | cons item rest inductionHypothesis =>
      have here : 0 < (rows item).length := List.length_pos_iff.mpr (nonempty item)
      rcases Nat.lt_or_ge (rows item).length size with more | full
      · cases rest with
        | nil =>
            refine ⟨[], item, [], (rows item).length, rfl, ?_, ?_⟩
            · exact
                { some := here
                  within := Nat.le_refl _
                  fits := by simpa using Nat.le_of_lt more
                  ended := .inr ⟨rfl, rfl⟩ }
            · simp [pageRows, List.take_of_length_le (Nat.le_of_lt more)]
        | cons next rest =>
            -- The item fits as a whole, and the page goes on behind it.
            have room : 0 < size - (rows item).length := Nat.sub_pos_of_lt more
            obtain ⟨front, last, behind, cut, split, ends, page⟩ :=
              inductionHypothesis room (List.cons_ne_nil _ _)
            have length : ((item :: front).flatMap rows).length + cut =
                (rows item).length + ((front.flatMap rows).length + cut) := by
              rw [List.flatMap_cons, List.length_append, Nat.add_assoc]
            refine ⟨item :: front, last, behind, cut, by rw [split]; rfl, ?_, ?_⟩
            · refine
                { some := ends.some
                  within := ends.within
                  fits := ?_
                  ended := ends.ended.imp_left fun filled => ?_ }
              · have fits := ends.fits
                omega
              · omega
            · rw [List.flatMap_cons, List.take_append, page,
                List.take_of_length_le (Nat.le_of_lt more), pageRows, pageRows,
                List.flatMap_cons, List.append_assoc]
      · refine ⟨[], item, rest, size, rfl, ?_, ?_⟩
        · exact
            { some := positive
              within := full
              fits := by simp
              ended := .inl (by simp) }
        · rw [List.flatMap_cons, List.take_append_of_le_length full]
          rfl

/-! ### All pages -/

/-- The pages of some items, each one resumed behind the item of the last row. -/
inductive Paging (rows : α → List β) (size : Nat) : List α → List (List β) → Prop where
  | done : Paging rows size [] []
  | page {front : List α} {last : α} {behind : List α} {cut : Nat} {pages : List (List β)}
      (ends : PageEnds rows size front last behind cut) (later : Paging rows size behind pages) :
      Paging rows size (front ++ last :: behind) (pageRows rows front last cut :: pages)

/-- Only an item whose first row is the last one of a full page has more than one. -/
def OneRow (rows : α → List β) (size : Nat) (items : List α) : Prop :=
  ∀ position item, items[position]? = some item →
    (rows item).length = 1 ∨ position % size = size - 1

/-- Items with a row each have at least as many rows, and as many when each has one. -/
theorem length_flatMap_eq_iff (nonempty : ∀ item, rows item ≠ []) (items : List α) :
    items.length ≤ (items.flatMap rows).length ∧
      ((items.flatMap rows).length = items.length ↔ ∀ item ∈ items, (rows item).length = 1) := by
  induction items with
  | nil => simp
  | cons item rest inductionHypothesis =>
      obtain ⟨most, equal⟩ := inductionHypothesis
      have here : 0 < (rows item).length := List.length_pos_iff.mpr (nonempty item)
      rw [List.flatMap_cons, List.length_append, List.length_cons, List.forall_mem_cons, ← equal]
      omega

/-- Behind a full page the positions count anew. -/
theorem OneRow.behind {front : List α} {last : α} {behind : List α}
    (one : OneRow rows size (front ++ last :: behind)) (full : front.length + 1 = size) :
    OneRow rows size behind := by
  intro position item found
  have shifted := one (front.length + 1 + position) item
    (by simp [List.getElem?_append_right, Nat.add_assoc, Nat.add_comm 1, found])
  rwa [full, Nat.add_mod_left] at shifted

/-- In front of the last place of a page every item has one row. -/
theorem OneRow.front {front : List α} {last : α} {behind : List α}
    (one : OneRow rows size (front ++ last :: behind)) (short : front.length < size) :
    ∀ item ∈ front, (rows item).length = 1 := by
  intro item member
  obtain ⟨position, inside, rfl⟩ := List.getElem_of_mem member
  have found : (front ++ last :: behind)[position]? = some front[position] := by
    rw [List.getElem?_append_left inside, List.getElem?_eq_getElem inside]
  rcases one position _ found with single | place
  · exact single
  · rw [Nat.mod_eq_of_lt (by omega)] at place
    omega

/-- The item a page ends with: it has one row, or it is in the last place. -/
theorem OneRow.last {front : List α} {last : α} {behind : List α}
    (one : OneRow rows size (front ++ last :: behind)) (short : front.length < size) :
    (rows last).length = 1 ∨ front.length + 1 = size := by
  have found : (front ++ last :: behind)[front.length]? = some last := by simp
  rcases one front.length last found with single | place
  · exact .inl single
  · rw [Nat.mod_eq_of_lt short] at place
    exact .inr (by omega)

/-- A page with a row for each of its items, and what follows it. -/
theorem oneRow_of_page {front : List α} {last : α} {behind : List α}
    (single : ∀ item ∈ front, (rows item).length = 1)
    (ended : (rows last).length = 1 ∨ front.length + 1 = size)
    (full : behind = [] ∨ front.length + 1 = size) (later : OneRow rows size behind) :
    OneRow rows size (front ++ last :: behind) := by
  intro position item found
  rcases Nat.lt_trichotomy position front.length with before | here | after
  · rw [List.getElem?_append_left before] at found
    exact .inl (single item (List.mem_of_getElem? found))
  · subst here
    rw [List.getElem?_append_right (Nat.le_refl _), Nat.sub_self, List.getElem?_cons_zero] at found
    cases found
    refine ended.imp_right fun place => ?_
    rw [Nat.mod_eq_of_lt (by omega)]
    omega
  · obtain ⟨offset, rfl⟩ := Nat.exists_eq_add_of_lt after
    have behindFound : behind[offset]? = some item := by
      rw [List.getElem?_append_right (by omega)] at found
      have index : front.length + offset + 1 - front.length = offset + 1 := by omega
      rwa [index, List.getElem?_cons_succ] at found
    rcases full with none | full
    · rw [none] at behindFound
      cases behindFound
    · have index : front.length + offset + 1 = size + offset := by omega
      rw [index, Nat.add_mod_left]
      exact later offset item behindFound

namespace Paging

theorem eq_nil {pages : List (List β)} (paging : Paging rows size ([] : List α) pages) :
    pages = [] := by
  generalize empty : ([] : List α) = items at paging
  cases paging with
  | done => rfl
  | page => simp at empty

theorem length_le (nonempty : ∀ item, rows item ≠ []) {items : List α}
    {pages : List (List β)} (paging : Paging rows size items pages) :
    items.length ≤ pages.flatten.length := by
  induction paging with
  | done => exact Nat.le_refl _
  | @page front last behind cut pages ends later inductionHypothesis =>
      have most := (length_flatMap_eq_iff nonempty front).1
      have positive := ends.some
      simp only [List.flatten_cons, List.length_append, ends.length_pageRows, List.length_cons]
      omega

/-- As many rows as items are listed exactly when only items in the last place of a
page have more than one row. -/
theorem length_eq_iff (nonempty : ∀ item, rows item ≠ []) {items : List α}
    {pages : List (List β)} (paging : Paging rows size items pages) :
    pages.flatten.length = items.length ↔ OneRow rows size items := by
  induction paging with
  | done => exact iff_of_true rfl (by intro position item found; cases found)
  | @page front last behind cut pages ends later inductionHypothesis =>
      obtain ⟨most, each⟩ := length_flatMap_eq_iff nonempty front
      have more := later.length_le nonempty
      have positive := ends.some
      have fits := ends.fits
      simp only [List.flatten_cons, List.length_append, ends.length_pageRows, List.length_cons]
      constructor
      · intro equal
        have tight : (front.flatMap rows).length = front.length := by omega
        have one : cut = 1 := by omega
        have rest : pages.flatten.length = behind.length := by omega
        refine oneRow_of_page (each.mp tight) ?_ ?_ (inductionHypothesis.mp rest)
        · rcases ends.ended with full | ⟨_, complete⟩
          · exact .inr (by omega)
          · exact .inl (by omega)
        · rcases ends.ended with full | ⟨none, _⟩
          · exact .inr (by omega)
          · exact .inl none
      · intro oneRow
        have short : front.length < size := by omega
        have tight := each.mpr (oneRow.front short)
        have within := ends.within
        have one : cut = 1 := by
          rcases oneRow.last short with single | full <;> omega
        have rest : pages.flatten.length = behind.length := by
          rcases ends.ended with full | ⟨none, _⟩
          · exact inductionHypothesis.mpr (oneRow.behind (by omega))
          · subst none
            rw [later.eq_nil]
            rfl
        omega

/-- Where every item has one row in its page, the first rows are listed. -/
theorem flatten_eq (nonempty : ∀ item, rows item ≠ []) {items : List α}
    {pages : List (List β)} (paging : Paging rows size items pages)
    (oneRow : OneRow rows size items) :
    pages.flatten = items.flatMap fun item => (rows item).take 1 := by
  induction paging with
  | done => rfl
  | @page front last behind cut pages ends later inductionHypothesis =>
      obtain ⟨most, each⟩ := length_flatMap_eq_iff nonempty front
      have positive := ends.some
      have fits := ends.fits
      have within := ends.within
      have short : front.length < size := by omega
      have single := oneRow.front short
      have tight := each.mpr single
      have one : cut = 1 := by
        rcases oneRow.last short with lone | full <;> omega
      have first : front.flatMap rows = front.flatMap fun item => (rows item).take 1 := by
        apply List.flatMap_congr
        intro item member
        rw [List.take_of_length_le (Nat.le_of_eq (single item member))]
      have rest : pages.flatten = behind.flatMap fun item => (rows item).take 1 := by
        rcases ends.ended with full | ⟨none, _⟩
        · exact inductionHypothesis (oneRow.behind (by omega))
        · subst none
          rw [later.eq_nil]
          rfl
      rw [List.flatten_cons, pageRows, rest, first, one, List.flatMap_append, List.flatMap_cons,
        List.append_assoc]

end Paging

/-! ### Pages by position -/

/-- A page that is not empty, counted from the front, and the items behind it. -/
theorem split_page {items : List α} {page : Nat}
    (some : (items.drop (page * size)).take size ≠ []) :
    ∃ front last, items = front ++ last :: items.drop ((page + 1) * size) ∧
      ((items.drop (page * size)).take size).getLast? = Option.some last := by
  obtain ⟨init, last, split⟩ := (List.eq_nil_or_concat _).resolve_left some
  rw [List.concat_eq_append] at split
  refine ⟨items.take (page * size) ++ init, last, ?_, by rw [split, List.getLast?_concat]⟩
  have behind : items.drop ((page + 1) * size) = (items.drop (page * size)).drop size := by
    rw [List.drop_drop, Nat.succ_mul]
  calc items = items.take (page * size) ++ items.drop (page * size) :=
        (List.take_append_drop _ _).symm
    _ = items.take (page * size) ++
          ((items.drop (page * size)).take size ++ (items.drop (page * size)).drop size) := by
        rw [List.take_append_drop size]
    _ = _ := by rw [split, behind, List.append_assoc, List.append_assoc, List.singleton_append]

/-! ### Keys -/

/-- Of items in the order of their keys, those behind a key are those behind its item. -/
theorem filter_behind {κ : Type} [LT κ] [DecidableLT κ]
    [Std.Asymm fun first second : κ => first < second] {key : α → κ} {front : List α} {last : α}
    {behind : List α}
    (sorted : (front ++ last :: behind).Pairwise fun first second => key first < key second) :
    ((front ++ last :: behind).filter fun item => decide (key last < key item)) = behind := by
  rw [List.pairwise_append, List.pairwise_cons] at sorted
  obtain ⟨_, ⟨after, _⟩, before⟩ := sorted
  have itself : ¬ key last < key last := fun less => Std.Asymm.asymm _ _ less less
  rw [List.filter_append, List.filter_cons_of_neg (by simpa using itself)]
  have none : (front.filter fun item => decide (key last < key item)) = [] := by
    apply List.filter_eq_nil_iff.mpr
    intro item member
    have less := before item member last List.mem_cons_self
    simpa using Std.Asymm.asymm _ _ less
  have all : (behind.filter fun item => decide (key last < key item)) = behind := by
    apply List.filter_eq_self.mpr
    intro item member
    simpa using after item member
  rw [none, all, List.nil_append]

end Acud.Lib

import Mathlib.Data.List.Sort
import Mathlib.Order.Defs.LinearOrder

/-! A sorted list read page by page.  A reader asks for one page after the other
until one comes back empty.  Ties of the sort column are broken by a key, so
that only one arrangement of the rows is sorted. -/
namespace Library.Paging

variable {α K : Type*}

/-- Pages read one after the other from this number on, until one is empty. -/
inductive Walk (answers : Nat → List α → Prop) : Nat → List α → Prop where
  | stop {number : Nat} (empty : answers number []) : Walk answers number []
  | more {number : Nat} {page rest : List α} (answer : answers number page)
      (nonempty : page ≠ []) (later : Walk answers (number + 1) rest) :
      Walk answers number (page ++ rest)

section Walk
variable {answers : Nat → List α → Prop} {rows : List α} {limit : Nat}

theorem drop_next (number : Nat) :
    (rows.drop (number * limit)).take limit ++ rows.drop ((number + 1) * limit) =
      rows.drop (number * limit) := by
  rw [Nat.succ_mul, ← List.drop_drop]
  exact List.take_append_drop limit _

theorem slice_eq_nil (positive : 0 < limit) {rest : List α} (empty : rest.take limit = []) :
    rest = [] := by
  rw [List.take_eq_nil_iff] at empty
  exact empty.resolve_left positive.ne'

theorem slice_ne_nil_iff (positive : 0 < limit) {number : Nat} :
    (rows.drop (number * limit)).take limit ≠ [] ↔ number * limit < rows.length := by
  rw [Ne, List.take_eq_nil_iff, List.drop_eq_nil_iff, not_or, not_le]
  exact and_iff_right positive.ne'

/-- The pages needed for the rows, the last one maybe not full, reach a page
exactly when a row is on it. -/
theorem lt_ceil_iff (positive : 0 < limit) {number total : Nat} :
    number < (total + (limit - 1)) / limit ↔ number * limit < total := by
  rw [Nat.lt_iff_add_one_le, Nat.le_div_iff_mul_le positive, Nat.succ_mul]
  omega

theorem Walk.rest_of_slices (positive : 0 < limit)
    (slices : ∀ number page, answers number page → page = (rows.drop (number * limit)).take limit)
    {number : Nat} {listed : List α} (walk : Walk answers number listed) :
    listed = rows.drop (number * limit) := by
  induction walk with
  | stop empty => exact (slice_eq_nil positive (slices _ _ empty).symm).symm
  | more answer _ _ ih =>
      rw [ih, slices _ _ answer]
      exact drop_next _

/-- A reader gets to this page: it is the first, or the one before has rows. -/
def Asked (rows : List α) (limit number : Nat) : Prop :=
  ∀ before, number = before + 1 → before * limit < rows.length

theorem walk_of_slices (positive : 0 < limit)
    (answered : ∀ number, Asked rows limit number →
      answers number ((rows.drop (number * limit)).take limit))
    {number : Nat} (asked : Asked rows limit number) :
    Walk answers number (rows.drop (number * limit)) := by
  induction left : rows.length - number * limit using Nat.strong_induction_on
    generalizing number with
  | _ left ih =>
      subst left
      by_cases empty : rows.drop (number * limit) = []
      · have answer := answered number asked
        rw [empty, List.take_nil] at answer
        rw [empty]
        exact .stop answer
      · rw [← drop_next]
        have inside : number * limit < rows.length := by
          rwa [List.drop_eq_nil_iff, not_le] at empty
        have next : Asked rows limit (number + 1) := by
          rintro _ ⟨⟩
          exact inside
        refine .more (answered number asked) (mt (slice_eq_nil positive) empty) (ih _ ?_ next rfl)
        rw [Nat.succ_mul]
        omega

/-- Pages cut from one list give back that list, whatever their size, if every
page a reader gets to is answered. -/
theorem walk_iff (positive : 0 < limit)
    (slices : ∀ number page, answers number page → page = (rows.drop (number * limit)).take limit)
    (answered : ∀ number, Asked rows limit number →
      answers number ((rows.drop (number * limit)).take limit))
    {listed : List α} : Walk answers 0 listed ↔ listed = rows := by
  constructor
  · intro walk
    simpa using walk.rest_of_slices positive slices
  · rintro rfl
    have first : Asked listed limit 0 := by
      rintro _ ⟨⟩
    simpa using walk_of_slices positive answered first

/-- A reader reads the first page. -/
theorem Walk.first {number : Nat} {listed : List α} (walk : Walk answers number listed) :
    ∃ page, answers number page := by
  cases walk with
  | stop empty => exact ⟨[], empty⟩
  | more answer _ _ => exact ⟨_, answer⟩

/-- Every row listed was on a page. -/
theorem Walk.mem_page {number : Nat} {listed : List α} (walk : Walk answers number listed)
    {row : α} (member : row ∈ listed) : ∃ number page, answers number page ∧ row ∈ page := by
  induction walk with
  | stop _ => cases member
  | more answer _ _ ih =>
      rcases List.mem_append.mp member with here | later
      · exact ⟨_, _, answer, here⟩
      · exact ih later

end Walk

/-! The first rows by a key. -/

section First
variable [LinearOrder K] {rows : List α} {key : α → K} {row : α} {limit : Nat}

/-- A row with fewer rows before it than the page holds is on the page. -/
theorem mem_take_of_few_before
    (sorted : rows.Pairwise fun left right => key left < key right) (member : row ∈ rows)
    (few : (rows.filter fun other => key other < key row).length < limit) :
    row ∈ rows.take limit := by
  by_contra beyond
  rw [← List.take_append_drop limit rows] at sorted member
  have later : row ∈ rows.drop limit := (List.mem_append.mp member).resolve_left beyond
  have before : ∀ other ∈ rows.take limit, key other < key row := by
    intro other first
    exact (List.pairwise_append.mp sorted).2.2 other first row later
  have reached : limit < rows.length := by
    have nonempty := List.length_pos_of_mem later
    rw [List.length_drop] at nonempty
    omega
  have counted : (rows.take limit).length ≤
      (rows.filter fun other => key other < key row).length := by
    have all : (rows.take limit).filter (fun other => key other < key row) = rows.take limit := by
      simpa [List.filter_eq_self] using before
    rw [← all]
    exact ((List.take_sublist limit rows).filter _).length_le
  rw [List.length_take] at counted
  omega

theorem pairwise_lt_of_le (sorted : rows.Pairwise fun left right => key left ≤ key right)
    (keys : (rows.map key).Nodup) : rows.Pairwise fun left right => key left < key right := by
  have distinct : rows.Pairwise fun left right => key left ≠ key right := List.pairwise_map.mp keys
  exact (sorted.and distinct).imp fun both => lt_of_le_of_ne both.1 both.2

end First

/-! Ties broken by a key. -/

section TieBreak
variable [LinearOrder K] (le : α → α → Bool) (key : α → K)

def tieBreak (left right : α) : Bool :=
  le left right && (!le right left || key left ≤ key right)

variable {le key}

theorem tieBreak_iff {left right : α} : tieBreak le key left right = true ↔
    le left right = true ∧ (le right left = true → key left ≤ key right) := by
  simp [tieBreak, imp_iff_not_or]

theorem tieBreak_trans (trans : ∀ a b c, le a b = true → le b c = true → le a c = true)
    {a b c : α} (first : tieBreak le key a b = true) (second : tieBreak le key b c = true) :
    tieBreak le key a c = true := by
  rw [tieBreak_iff] at first second ⊢
  refine ⟨trans a b c first.1 second.1, fun back => ?_⟩
  have backFirst : le b a = true := trans b c a second.1 back
  have backSecond : le c b = true := trans c a b back first.1
  exact (first.2 backFirst).trans (second.2 backSecond)

theorem tieBreak_total (total : ∀ a b, le a b = true ∨ le b a = true) (a b : α) :
    tieBreak le key a b = true ∨ tieBreak le key b a = true := by
  simp only [tieBreak_iff]
  by_cases forth : le a b = true <;> by_cases back : le b a = true
  · exact (le_total (key a) (key b)).imp (fun below => ⟨forth, fun _ => below⟩)
      fun below => ⟨back, fun _ => below⟩
  · exact .inl ⟨forth, fun isBack => absurd isBack back⟩
  · exact .inr ⟨back, fun isForth => absurd isForth forth⟩
  · exact ((total a b).elim forth back).elim

theorem tieBreak_key {a b : α} (forth : tieBreak le key a b = true)
    (back : tieBreak le key b a = true) : key a = key b := by
  rw [tieBreak_iff] at forth back
  exact le_antisymm (forth.2 back.1) (back.2 forth.1)

end TieBreak

end Library.Paging

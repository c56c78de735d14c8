import Mathlib.Logic.Function.Basic
import Mathlib.Data.List.Nodup
import Mathlib.Data.Finset.Card

/-! A table is a list of rows, each with a key.  While keys are distinct the
table is the same thing as a partial map from keys to rows, and inserting,
updating and deleting a row are point updates of that map. -/
namespace Library.Table

variable {R K : Type*} (key : R → K)

/-- No two rows share a key. -/
def Keyed (rows : List R) : Prop := (rows.map key).Nodup

section Keyed
variable {key}

theorem keyed_nil : Keyed key ([] : List R) := List.nodup_nil

theorem Keyed.append {rows : List R} (keyed : Keyed key rows) {row : R}
    (fresh : ∀ other ∈ rows, key other ≠ key row) : Keyed key (rows ++ [row]) := by
  rw [Keyed, List.map_append, List.nodup_append]
  refine ⟨keyed, List.nodup_singleton _, ?_⟩
  intro k old k' new
  obtain ⟨other, member, rfl⟩ := List.mem_map.mp old
  rw [List.map_singleton, List.mem_singleton] at new
  exact new ▸ fresh other member

theorem Keyed.filter {rows : List R} (keyed : Keyed key rows) (keep : R → Bool) :
    Keyed key (rows.filter keep) :=
  List.Nodup.sublist (List.filter_sublist.map key) keyed

/-- A partial change of the rows that leaves their keys. -/
theorem Keyed.filterMap {S : Type*} {rows : List R} (keyed : Keyed key rows) {key' : S → K}
    {change : R → Option S} (sameKey : ∀ row out, change row = some out → key' out = key row) :
    Keyed key' (rows.filterMap change) := by
  have apart : rows.Pairwise fun first second => key first ≠ key second :=
    List.pairwise_map.mp keyed
  apply List.pairwise_map.mpr
  apply apart.filterMap
  intro first second differ out isOut out' isOut'
  rw [sameKey first out isOut, sameKey second out' isOut']
  exact differ

end Keyed

variable [DecidableEq K]

def find (rows : List R) (k : K) : Option R := rows.find? fun row => key row = k

def modify (rows : List R) (k : K) (change : R → R) : List R :=
  rows.map fun row => if key row = k then change row else row

def remove (rows : List R) (k : K) : List R := rows.filter fun row => key row ≠ k

variable {key}

theorem find_eq_some {rows : List R} {k : K} {row : R} (found : find key rows k = some row) :
    row ∈ rows ∧ key row = k :=
  ⟨List.mem_of_find?_eq_some found, by simpa using List.find?_some found⟩

@[simp] theorem find_eq_none {rows : List R} {k : K} :
    find key rows k = none ↔ ∀ row ∈ rows, key row ≠ k := by
  simp [find]

theorem find_of_mem {rows : List R} (keyed : Keyed key rows) {row : R} (member : row ∈ rows) :
    find key rows (key row) = some row := by
  cases found : find key rows (key row) with
  | none => exact absurd rfl (find_eq_none.mp found row member)
  | some other =>
      obtain ⟨memberOther, same⟩ := find_eq_some found
      rw [List.inj_on_of_nodup_map keyed memberOther member same]

theorem find_eq_some_iff {rows : List R} (keyed : Keyed key rows) {k : K} {row : R} :
    find key rows k = some row ↔ row ∈ rows ∧ key row = k := by
  refine ⟨find_eq_some, ?_⟩
  rintro ⟨member, rfl⟩
  exact find_of_mem keyed member

theorem map_modify {rows : List R} {k : K} {change : R → R}
    (sameKey : ∀ row, key (change row) = key row) :
    (modify key rows k change).map key = rows.map key := by
  rw [modify, List.map_map]
  apply List.map_congr_left
  intro row _
  rw [Function.comp_apply]
  split
  · exact sameKey row
  · rfl

theorem Keyed.modify {rows : List R} (keyed : Keyed key rows) {k : K} {change : R → R}
    (sameKey : ∀ row, key (change row) = key row) : Keyed key (modify key rows k change) := by
  rw [Keyed, map_modify sameKey]
  exact keyed

/-! The edits as point updates of the lookup map. -/

theorem find_append {rows : List R} (row : R)
    (fresh : ∀ other ∈ rows, key other ≠ key row) :
    find key (rows ++ [row]) = Function.update (find key rows) (key row) (some row) := by
  funext k
  by_cases same : k = key row
  · subst same
    have absent : rows.find? (fun other => key other = key row) = none :=
      find_eq_none.mpr fresh
    simp [find, absent]
  · rw [Function.update_of_ne same]
    simp [find, Ne.symm same]

theorem find_modify {rows : List R} {k : K} {change : R → R}
    (sameKey : ∀ row, key (change row) = key row) :
    find key (modify key rows k change) =
      Function.update (find key rows) k ((find key rows k).map change) := by
  funext j
  have unmoved : ((fun row => decide (key row = j)) ∘
      fun row => if key row = k then change row else row) = fun row => decide (key row = j) := by
    funext row
    rw [Function.comp_apply]
    split
    · rw [sameKey]
    · rfl
  have edited : find key (modify key rows k change) j =
      (find key rows j).map fun row => if key row = k then change row else row := by
    rw [find, modify, List.find?_map, unmoved, find]
  rw [edited, Function.update_apply]
  cases found : find key rows j with
  | none =>
      split
      · rename_i same
        rw [← same, found]
        rfl
      · rfl
  | some row =>
      have at_j := (find_eq_some found).2
      split
      · rename_i same
        rw [← same, found, Option.map_some, Option.map_some, if_pos at_j]
      · rename_i away
        rw [Option.map_some, if_neg (at_j ▸ away)]

theorem find_filter {rows : List R} (keep : K → Bool) (k : K) :
    find key (rows.filter fun row => keep (key row)) k =
      if keep k then find key rows k else none := by
  rw [find, List.find?_filter]
  by_cases kept : keep k
  · simp only [kept, if_true, find]
    congr 1
    funext row
    by_cases same : key row = k <;> simp [same, kept]
  · rw [if_neg kept, List.find?_eq_none]
    intro row _
    by_cases same : key row = k <;> simp [same, kept]

theorem find_remove {rows : List R} (k : K) :
    find key (remove key rows k) = Function.update (find key rows) k none := by
  funext j
  have kept : find key (rows.filter fun row => decide (key row ≠ k)) j =
      if decide (j ≠ k) then find key rows j else none :=
    find_filter (fun j => decide (j ≠ k)) j
  rw [Function.update_apply]
  by_cases same : j = k
  · simp [remove, same]
  · simpa [remove, same] using kept

/-- What a query by key selects. -/
theorem filter_key {rows : List R} (keyed : Keyed key rows) (k : K) :
    (rows.filter fun row => key row = k) = (find key rows k).toList := by
  induction rows with
  | nil => rfl
  | cons row rows ih =>
      obtain ⟨fresh, keyed⟩ := List.nodup_cons.mp keyed
      by_cases same : key row = k
      · subst same
        have others : rows.filter (fun other => key other = key row) = [] := by
          refine List.filter_eq_nil_iff.mpr fun other member isSame => fresh ?_
          rw [← of_decide_eq_true isSame]
          exact List.mem_map_of_mem member
        simp [find, others]
      · simpa [find, same] using ih keyed

/-- Removing one row is the same by either of two keys. -/
theorem remove_other {J : Type*} [DecidableEq J] {other : R → J} {rows : List R}
    (keyed : Keyed key rows) (otherKeyed : Keyed other rows) {row : R} (member : row ∈ rows) :
    remove key rows (key row) = remove other rows (other row) := by
  apply List.filter_congr
  intro candidate inside
  have agree : key candidate = key row ↔ other candidate = other row := by
    constructor <;> intro same
    · rw [List.inj_on_of_nodup_map keyed inside member same]
    · rw [List.inj_on_of_nodup_map otherKeyed inside member same]
  simp only [ne_eq, agree]

theorem mem_modify {rows : List R} {k : K} {change : R → R} {row : R} :
    row ∈ modify key rows k change ↔
      ∃ old ∈ rows, row = if key old = k then change old else old := by
  simp [modify, eq_comm]

/-- A change of the row with the key leaves the rows with other keys. -/
theorem mem_modify_cases {rows : List R} (keyed : Keyed key rows) {k : K} {change : R → R}
    {stored row : R} (found : find key rows k = some stored)
    (inside : row ∈ modify key rows k change) :
    (row ∈ rows ∧ key row ≠ k) ∨ row = change stored := by
  obtain ⟨old, member, rfl⟩ := mem_modify.mp inside
  by_cases isRow : key old = k
  · subst isRow
    have same : old = stored := Option.some.inj ((find_of_mem keyed member).symm.trans found)
    rw [if_pos rfl, same]
    exact .inr rfl
  · rw [if_neg isRow]
    exact .inl ⟨member, isRow⟩

theorem exists_key_modify {rows : List R} {k : K} {change : R → R}
    (sameKey : ∀ row, key (change row) = key row) {sought : K}
    (present : ∃ row ∈ rows, key row = sought) :
    ∃ row ∈ modify key rows k change, key row = sought := by
  rwa [← List.mem_map, map_modify sameKey, List.mem_map]

theorem mem_remove {rows : List R} {k : K} {row : R} :
    row ∈ remove key rows k ↔ row ∈ rows ∧ key row ≠ k := by
  simp [remove]

/-- A row put in the place of what has its key. -/
theorem find_put {rows : List R} (row : R) :
    find key (remove key rows (key row) ++ [row]) =
      Function.update (find key rows) (key row) (some row) := by
  have fresh : ∀ other ∈ remove key rows (key row), key other ≠ key row :=
    fun other member => (mem_remove.mp member).2
  rw [find_append row fresh, find_remove, Function.update_idem]

/-- Rows in groups, each group named by the key of its one head row: there are
as many groups as heads. -/
theorem card_groups {rows : List R} (keyed : Keyed key rows) {group : R → K} {isHead : R → Bool}
    (own : ∀ row ∈ rows, isHead row = true → group row = key row)
    (headed : ∀ row ∈ rows, ∃ head ∈ rows, isHead head = true ∧ key head = group row) :
    (rows.map group).toFinset.card = (rows.filter isHead).length := by
  have sameNames : (rows.map group).toFinset = ((rows.filter isHead).map key).toFinset := by
    ext name
    simp only [List.mem_toFinset, List.mem_map, List.mem_filter]
    constructor
    · intro ⟨row, inside, isName⟩
      obtain ⟨head, headInside, isTop, named⟩ := headed row inside
      exact ⟨head, ⟨headInside, isTop⟩, named.trans isName⟩
    · intro ⟨head, ⟨inside, isTop⟩, named⟩
      exact ⟨head, inside, (own head inside isTop).trans named⟩
  rw [sameNames, List.toFinset_card_of_nodup (keyed.filter isHead), List.length_map]

end Library.Table

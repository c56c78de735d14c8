import BalanceSheetAnalysis.Access.Documented
import BalanceSheetAnalysis.Library.Paging
import Mathlib.Data.String.Basic

/-! Paging through the list.  The id breaks the ties of every sort key, so ORDER
BY admits one arrangement of the rows only, and pages of any size are slices of
it.  The total is counted by a query of its own, without the join. -/
namespace BalanceSheetAnalysis
open Library Authorization Access BalanceSheetAnalysis.Action

/-- The database sorts texts by a total preorder. -/
structure Collation.Sorts (collation : Collation) : Prop where
  trans : ∀ a b c, collation.le a b = true → collation.le b c = true → collation.le a c = true
  total : ∀ a b, collation.le a b = true ∨ collation.le b a = true

section Order
variable {le : String → String → Bool}

theorem nullsLast_trans (trans : ∀ a b c, le a b = true → le b c = true → le a c = true)
    (a b c : Option String) (first : nullsLast le a b = true) (second : nullsLast le b c = true) :
    nullsLast le a c = true := by
  cases a <;> cases b <;> cases c <;> simp_all [nullsLast]
  exact trans _ _ _ first second

theorem nullsLast_total (total : ∀ a b, le a b = true ∨ le b a = true) (a b : Option String) :
    nullsLast le a b = true ∨ nullsLast le b a = true := by
  cases a <;> cases b <;> simp [nullsLast]
  exact total _ _

variable {collation : Collation}

theorem orderColumn_trans (sorts : collation.Sorts) (sortBy : Option String)
    (a b c : Company × Option String) (first : orderColumn collation sortBy a b = true)
    (second : orderColumn collation sortBy b c = true) :
    orderColumn collation sortBy a c = true := by
  unfold orderColumn at first second ⊢
  split
  · exact nullsLast_trans sorts.trans _ _ _ first second
  · exact sorts.trans _ _ _ first second
  · exact sorts.trans _ _ _ first second
  · simp only [decide_eq_true_eq] at first second ⊢
    omega
  · simp only [decide_eq_true_eq] at first second ⊢
    omega

theorem orderColumn_total (sorts : collation.Sorts) (sortBy : Option String)
    (a b : Company × Option String) :
    orderColumn collation sortBy a b = true ∨ orderColumn collation sortBy b a = true := by
  unfold orderColumn
  split
  · exact nullsLast_total sorts.total _ _
  · exact sorts.total _ _
  · exact sorts.total _ _
  · simp only [decide_eq_true_eq]
    omega
  · simp only [decide_eq_true_eq]
    omega

end Order

/-- Both directions break ties by the id. -/
theorem orderBy_eq (collation : Collation) (sortBy : Option String) (sortDir : String)
    (left right : Company × Option String) :
    orderBy collation sortBy sortDir left right =
      let ascending := Paging.tieBreak (orderColumn collation sortBy) (·.1.id)
      if sortDir = "asc" then ascending left right else ascending right left := rfl

section Arrangement
variable {collation : Collation} {scope : CompanyScope} {params : ListParams}
  {companies : List Company} {sortBy : Option String} {sortDir : String}

theorem orderBy_trans (sorts : collation.Sorts) (a b c : Company × Option String)
    (first : orderBy collation sortBy sortDir a b = true)
    (second : orderBy collation sortBy sortDir b c = true) :
    orderBy collation sortBy sortDir a c = true := by
  have trans := orderColumn_trans sorts sortBy
  rw [orderBy_eq] at first second ⊢
  dsimp only at first second ⊢
  split at first
  · rename_i ascending
    rw [if_pos ascending] at second ⊢
    exact Paging.tieBreak_trans trans first second
  · rename_i descending
    rw [if_neg descending] at second ⊢
    exact Paging.tieBreak_trans trans second first

theorem orderBy_total (sorts : collation.Sorts) (a b : Company × Option String) :
    (orderBy collation sortBy sortDir a b || orderBy collation sortBy sortDir b a) = true := by
  have total (a b : Company × Option String) :
      Paging.tieBreak (orderColumn collation sortBy) (·.1.id) a b = true ∨
        Paging.tieBreak (orderColumn collation sortBy) (·.1.id) b a = true :=
    Paging.tieBreak_total (orderColumn_total sorts sortBy) a b
  rw [Bool.or_eq_true]
  simp only [orderBy_eq]
  split
  · exact total a b
  · exact total b a

theorem orderBy_id {a b : Company × Option String}
    (forth : orderBy collation sortBy sortDir a b = true)
    (back : orderBy collation sortBy sortDir b a = true) : a.1.id = b.1.id := by
  let key (row : Company × Option String) : Int := row.1.id
  have sameKey (a b : Company × Option String) :=
    @Paging.tieBreak_key _ _ _ (orderColumn collation sortBy) key a b
  rw [orderBy_eq] at forth back
  dsimp only at forth back
  split at forth
  · rename_i ascending
    rw [if_pos ascending] at back
    exact sameKey a b forth back
  · rename_i descending
    rw [if_neg descending] at back
    exact sameKey a b back forth

theorem orderedRows_perm (collation : Collation) (scope : CompanyScope) (params : ListParams)
    (companies : List Company) :
    (orderedRows collation scope params companies).Perm
      ((applyScopeAndFilters collation scope params.search params.hierarchyScope companies).map
        (withParentName companies)) :=
  List.mergeSort_perm _ _

theorem orderedRows_fst (collation : Collation) (scope : CompanyScope) (params : ListParams)
    (companies : List Company) :
    ((orderedRows collation scope params companies).map Prod.fst).Perm
      (applyScopeAndFilters collation scope params.search params.hierarchyScope companies) := by
  have joined := (orderedRows_perm collation scope params companies).map Prod.fst
  rw [List.map_map] at joined
  exact joined.trans (by simp [Function.comp_def, withParentName])

/-- The id is a key of the joined rows too: the join is on the primary key. -/
theorem orderedRows_keyed (keys : Table.Keyed Company.id companies) :
    ((orderedRows collation scope params companies).map fun row => row.1.id).Nodup := by
  have filtered : Table.Keyed Company.id
      (applyScopeAndFilters collation scope params.search params.hierarchyScope companies) :=
    keys.filter _
  have sameIds := (orderedRows_fst collation scope params companies).map Company.id
  rw [List.map_map] at sameIds
  exact sameIds.nodup_iff.mpr filtered

/-- The ORDER BY of the query admits one arrangement of its rows. -/
theorem arrangement_unique (keys : Table.Keyed Company.id companies) (sorts : collation.Sorts)
    {arrangement : List (Company × Option String)} :
    arrangement.Perm (orderedRows collation scope params companies) ∧
        arrangement.Pairwise (orderBy collation params.sortBy params.sortDir · ·) ↔
      arrangement = orderedRows collation scope params companies := by
  have sorted : (orderedRows collation scope params companies).Pairwise
      (orderBy collation params.sortBy params.sortDir · ·) :=
    List.pairwise_mergeSort (orderBy_trans sorts) (orderBy_total sorts) _
  constructor
  · rintro ⟨same, arranged⟩
    apply same.eq_of_pairwise _ arranged sorted
    intro a b aIn bIn forth back
    exact List.inj_on_of_nodup_map (orderedRows_keyed keys) (same.mem_iff.mp aIn) bIn
      (orderBy_id forth back)
  · rintro rfl
    exact ⟨List.Perm.refl _, sorted⟩

/-- Without a sort key the rows come by their ids. -/
theorem orderBy_default (left right : Company × Option String) :
    orderBy collation none "asc" left right = true ↔ left.1.id ≤ right.1.id := by
  simp [orderBy, orderColumn]
  omega

theorem orderedRows_sorted (keys : Table.Keyed Company.id companies)
    (unsorted : params.sortBy = none) (ascending : params.sortDir = "asc") :
    ((orderedRows collation scope params companies).map Prod.fst).Pairwise
      fun left right => left.id < right.id := by
  have sorted : (orderedRows collation scope params companies).Pairwise
      fun left right => left.1.id ≤ right.1.id := by
    unfold orderedRows
    rw [unsorted, ascending]
    apply (List.pairwise_mergeSort _ _ _).imp (fun before => (orderBy_default _ _).mp before)
    · intro first second third
      rw [orderBy_default, orderBy_default, orderBy_default]
      exact le_trans
    · intro left right
      rw [Bool.or_eq_true, orderBy_default, orderBy_default]
      exact le_total _ _
  rw [List.pairwise_map]
  exact Paging.pairwise_lt_of_le sorted (orderedRows_keyed keys)

theorem length_orderedRows :
    (orderedRows collation scope params companies).length =
      (applyScopeAndFilters collation scope params.search params.hierarchyScope
        companies).length := by
  have sameLength := (orderedRows_fst collation scope params companies).length_eq
  rwa [List.length_map] at sameLength

/-- The outer join finds the parent row, and nothing for a row without one. -/
theorem withParentName_snd (kept : Store.CompanyConstraints companies) {company : Company}
    (member : company ∈ companies) :
    match company.parentCompanyId with
    | none => (withParentName companies company).2 = none
    | some parentId => ∃ parent ∈ companies, parent.id = parentId ∧
        (withParentName companies company).2 = some parent.name := by
  cases hangs : company.parentCompanyId with
  | none => simp [withParentName, hangs]
  | some parentId =>
      obtain ⟨parent, inside, rfl⟩ := kept.parents company member parentId hangs
      refine ⟨parent, inside, rfl, ?_⟩
      simp [withParentName, hangs, Table.find_of_mem kept.keys inside]

end Arrangement

/-- The list endpoint, once the scope of its caller is derived. -/
theorem execute_listCompanies {rt : Runtime} {activePolicies : String → List (Policy rt)}
    {request : Request} {collation : Collation} {params : ListParams} {scope : CompanyScope}
    (derived : getCompanyScope (activePolicies request.userEmail) COMPANY_READ RESOURCE_COMPANY =
      .ok scope) (db : Database) (store : Store) :
    (listCompanies activePolicies request collation params).execute db store =
      (.ok ((applyScopeAndFilters collation scope params.search params.hierarchyScope
          store.companies).length,
        page (orderedRows collation scope params store.companies) params.limit params.offset),
        store) := by
  rw [listCompanies, callerScope, derived]
  dsimp only
  rw [pure_bind, execute_bind, execute_countCompaniesInScope]
  dsimp only
  rw [execute_bind, execute_listCompaniesInScope]
  rfl

/-- The list and the count of one query, for every page size the database takes. -/
structure PagesPartition (collation : Collation) (scope : CompanyScope) (search : Option String)
    (hierarchyScope : Option HierarchyScope) (sortBy : Option String) (sortDir : String)
    (db : Database) (store : Store) (rows : List (Company × Option String)) : Prop where
  /-- Reading page after page up to an empty one ends, with these rows. -/
  walked : ∀ limit, 0 < limit → FitsBigint limit → ∀ listed,
    Paging.Walk (fun number page => pageAt collation scope
      ⟨limit, 0, search, hierarchyScope, sortBy, sortDir⟩ db store number = some (.ok page))
        0 listed ↔ listed = rows
  /-- No other arrangement of them is sorted by the keys. -/
  arranged : ∀ arrangement : List (Company × Option String),
    arrangement.Perm rows ∧ arrangement.Pairwise (orderBy collation sortBy sortDir · ·) ↔
      arrangement = rows
  once : (rows.map Prod.fst).Nodup
  matching : ∀ company, company ∈ rows.map Prod.fst ↔ company ∈ store.companies ∧
    scope.admits company.id company.groupRootId = true ∧
    searchFilter collation search company = true ∧
    hierarchyFilter hierarchyScope company = true
  counted :
    ((countCompaniesInScope collation scope search hierarchyScope).executeTyped db store).1 =
      some (.ok rows.length)
  parentNames : ∀ row ∈ rows,
    match row.1.parentCompanyId with
    | none => row.2 = none
    | some parentId => ∃ parent ∈ store.companies, parent.id = parentId ∧
        row.2 = some parent.name

/-- The pages partition the list exactly when the database answers the query: it
need not be asked, or the ids and the text it is sent fit their columns. -/
theorem pages_partition_iff {store : Store} (kept : Store.CompanyConstraints store.companies)
    (columns : Store.CompanyColumns store.companies) {collation : Collation}
    (sorts : collation.Sorts) (db : Database) (unrestricted : Bool)
    (companyIds groupRootIds : List Int) (search : Option String)
    (hierarchyScope : Option HierarchyScope) (sortBy : Option String) (sortDir : String) :
    (∃ rows, PagesPartition collation (.ofInts unrestricted companyIds groupRootIds) search
        hierarchyScope sortBy sortDir db store rows) ↔
      Answerable (.ofInts unrestricted companyIds groupRootIds) search := by
  generalize CompanyScope.ofInts unrestricted companyIds groupRootIds = scope
  constructor
  · rintro ⟨rows, partition⟩
    exact accepted_countCompaniesInScope.mp (executeTyped_eq_some.mp partition.counted).1
  intro answerable
  let params : ListParams := ⟨1, 0, search, hierarchyScope, sortBy, sortDir⟩
  refine ⟨orderedRows collation scope params store.companies, ?_, ?_, ?_, ?_, ?_, ?_⟩
  · intro limit positive fits listed
    let asked : ListParams := ⟨limit, 0, search, hierarchyScope, sortBy, sortDir⟩
    have isPositive : 0 < asked.limit := positive
    refine (walk_pages_iff (columns.few kept.keys) isPositive fits).trans ?_
    exact and_iff_right answerable
  · intro arrangement
    exact arrangement_unique kept.keys sorts
  · apply List.Nodup.of_map Company.id
    rw [List.map_map]
    exact orderedRows_keyed kept.keys
  · intro company
    rw [(orderedRows_fst ..).mem_iff]
    simp [applyScopeAndFilters, params, and_assoc]
  · refine executeTyped_eq_some.mpr ⟨accepted_countCompaniesInScope.mpr answerable, ?_⟩
    rw [execute_countCompaniesInScope, length_orderedRows]
  · intro row member
    obtain ⟨company, inside, rfl⟩ := List.mem_map.mp ((orderedRows_perm ..).mem_iff.mp member)
    exact withParentName_snd kept (List.mem_of_mem_filter inside)

theorem asciiOrder_sorts : asciiOrder.Sorts where
  trans := by
    intro a b c first second
    simp only [asciiOrder, decide_eq_true_eq] at first second ⊢
    exact le_trans first second
  total := by
    intro a b
    simp only [asciiOrder, decide_eq_true_eq]
    exact le_total a b

theorem pages_partition_twoGroups :
    (∃ rows, PagesPartition asciiOrder (.ofInts false [] [1]) none none (some "parent") "desc"
        Database.counting twoGroups rows) ↔
      Answerable (.ofInts false [] [1]) none := by
  have reached : Reached Database.counting twoGroups := ⟨_, rfl⟩
  exact pages_partition_iff reached.wellFormed.companyConstraints twoGroups_columns
    asciiOrder_sorts Database.counting false [] [1] none none (some "parent") "desc"

/-- The query for the group 2147483648 is turned down, and not answered with no rows. -/
theorem pages_outOfRange :
    ¬∃ rows, PagesPartition asciiOrder (.ofInts false [] [2 ^ 31]) none none none "asc"
      Database.counting twoGroups rows := by
  rintro ⟨rows, partition⟩
  have answerable := accepted_countCompaniesInScope.mp (executeTyped_eq_some.mp partition.counted).1
  rcases answerable with empty | ⟨unrestricted | fits, _⟩
  · cases empty
  · cases unrestricted
  · exact absurd (fits (.int (2 ^ 31)) (List.mem_singleton_self _)) (by decide)

end BalanceSheetAnalysis

import BalanceSheetAnalysis.Companies.Runs
import BalanceSheetAnalysis.Access.Documented

/-! The counts of the stats endpoint, and why the number of groups is not one
of them: every group a scope selects has exactly one root, and the scope
selects it too. -/
namespace BalanceSheetAnalysis
open Library Authorization Access BalanceSheetAnalysis.Action

structure CompanyStatsRead where
  total : Nat
  groupRoots : Nat
  subsidiaries : Nat

/-- The three counts of the route. -/
def countStats (collation : Collation) (scope : CompanyScope) : Action CompanyStatsRead := do
  let total ← countCompaniesInScope collation scope none none
  let groupRoots ← countCompaniesInScope collation scope none (some .root)
  let subsidiaries ← countCompaniesInScope collation scope none (some .subsidiary)
  return { total, groupRoots, subsidiaries }

def getCompanyStats {rt : Runtime} (activePolicies : String → List (Policy rt))
    (request : Request) (collation : Collation) : Action CompanyStatsRead := do
  let scope ← callerScope activePolicies request COMPANY_READ RESOURCE_COMPANY
  countStats collation scope

/-- The companies a scope selects. -/
def selectedCompanies (scope : CompanyScope) (companies : List Company) : List Company :=
  companies.filter fun company => scope.admits company.id company.groupRootId

/-- A scope that never tells two companies of one group apart: unrestricted, or
made of groups only. -/
def ByGroup (scope : CompanyScope) : Prop :=
  scope.unrestricted = true ∨
    scope.companyIds = [] ∧ ∃ groupRootIds : List Int, scope.groupRootIds = groupRootIds.map .int

theorem ByGroup.admits_congr {scope : CompanyScope} (byGroup : ByGroup scope)
    (oneId otherId groupRootId : Int) :
    scope.admits oneId groupRootId = scope.admits otherId groupRootId := by
  unfold CompanyScope.admits
  cases byGroup with
  | inl unrestricted => simp [unrestricted]
  | inr groups => simp [groups.1, pyMember]

theorem countCompaniesInScope_execute (collation : Collation) (scope : CompanyScope)
    (hierarchyScope : Option HierarchyScope) (db : Database) (store : Store) :
    (countCompaniesInScope collation scope none hierarchyScope).execute db store =
      (.ok ((selectedCompanies scope store.companies).filter
        (hierarchyFilter hierarchyScope)).length, store) := by
  have narrowed : applyScopeAndFilters collation scope none hierarchyScope store.companies =
      (selectedCompanies scope store.companies).filter (hierarchyFilter hierarchyScope) := by
    simp [applyScopeAndFilters, selectedCompanies, List.filter_filter, searchFilter,
      Bool.and_comm]
  rw [execute_countCompaniesInScope, narrowed]

/-- The root of a stored company's group is stored. -/
theorem Hierarchy.root_of_mem {db : Database} {store : Store} (hierarchy : Hierarchy store)
    (wf : Store.WellFormed db store) {company : Company} (member : company ∈ store.companies) :
    ∃ root ∈ store.companies, root.parentCompanyId = none ∧ root.id = company.groupRootId := by
  let stored (id : Int) : Prop := ∃ row ∈ store.companies, row.id = id
  have closed (id parentId : Int) (inside : stored id) (up : parentOf store id = some parentId) :
      stored parentId := by
    obtain ⟨row, rowInside, rfl⟩ := inside
    rw [parentOf_of_mem wf rowInside] at up
    exact wf.parents row rowInside parentId up
  have top := hierarchy.top wf member
  have isStored : stored company.groupRootId := top.inside closed ⟨company, member, rfl⟩
  obtain ⟨root, inside, isRoot⟩ := isStored
  refine ⟨root, inside, ?_, isRoot⟩
  rw [← parentOf_of_mem wf inside, isRoot]
  exact top.2

/-- A scope that selects by group selects the root of each group it selects
from, and no other root of that group. -/
theorem groupRoots_count {db : Database} {store : Store} (hierarchy : Hierarchy store)
    (wf : Store.WellFormed db store) {scope : CompanyScope} (byGroup : ByGroup scope) :
    ((selectedCompanies scope store.companies).map Company.groupRootId).toFinset.card =
      ((selectedCompanies scope store.companies).filter (hierarchyFilter (some .root))).length := by
  apply Table.card_groups (wf.companyKeys.filter _)
  · intro company member isRoot
    exact hierarchy.rootGroup company (List.mem_of_mem_filter member)
      (Option.isNone_iff_eq_none.mp isRoot)
  · intro company member
    obtain ⟨inside, admitted⟩ := List.mem_filter.mp member
    obtain ⟨root, rootInside, isTop, isRoot⟩ := hierarchy.root_of_mem wf inside
    have sameGroup : root.groupRootId = company.groupRootId := by
      rw [hierarchy.rootGroup root rootInside isTop, isRoot]
    refine ⟨root, List.mem_filter.mpr ⟨rootInside, ?_⟩, Option.isNone_iff_eq_none.mpr isTop, isRoot⟩
    rw [sameGroup, byGroup.admits_congr root.id company.id]
    exact admitted

theorem hierarchy_count (companies : List Company) :
    companies.length = (companies.filter (hierarchyFilter (some .root))).length +
      (companies.filter (hierarchyFilter (some .subsidiary))).length := by
  have split (company : Company) : hierarchyFilter (some .subsidiary) company =
      !hierarchyFilter (some .root) company := by
    cases hangs : company.parentCompanyId <;> simp [hierarchyFilter, hangs]
  rw [funext split]
  exact (List.length_eq_length_filter_add _)

theorem accepted_countStats {collation : Collation} {scope : CompanyScope} {db : Database}
    {store : Store} : Accepted db store (countStats collation scope) ↔ ScopeFits scope := by
  have counts (hierarchyScope : Option HierarchyScope) :
      Accepted db store (countCompaniesInScope collation scope none hierarchyScope) ↔
        ScopeFits scope := accepted_countCompaniesInScope.trans answerable_none
  unfold countStats
  rw [accepted_bind_ok (countCompaniesInScope_execute ..),
    accepted_bind_ok (countCompaniesInScope_execute ..),
    accepted_bind_ok (countCompaniesInScope_execute ..), counts, counts, counts]
  constructor
  · exact And.left
  · exact fun fits => ⟨fits, fits, fits, trivial⟩

/-- The answer of `GET /companies/stats` to every caller with this scope. -/
structure StatsAgree (collation : Collation) (scope : CompanyScope) (db : Database)
    (store : Store) (stats : CompanyStatsRead) : Prop where
  served : ∀ (rt : Runtime) (activePolicies : String → List (Policy rt)) (request : Request),
    getCompanyScope (activePolicies request.userEmail) COMPANY_READ RESOURCE_COMPANY = .ok scope →
    (getCompanyStats activePolicies request collation).executeTyped db store =
      (some (.ok stats), store)
  counted : (countStats collation scope).executeTyped db store = (some (.ok stats), store)
  total : stats.total = stats.groupRoots + stats.subsidiaries
  groups : stats.groupRoots =
    ((selectedCompanies scope store.companies).map Company.groupRootId).toFinset.card

/-- The stats are counted, and agree with the hierarchy, exactly when the groups
of the scope fit their column or the scope is unrestricted. -/
theorem stats_agree_iff {db : Database} {store : Store} (reached : Reached db store)
    (collation : Collation) {scope : CompanyScope} (byGroup : ByGroup scope) :
    (∃ stats, StatsAgree collation scope db store stats) ↔ ScopeFits scope := by
  constructor
  · rintro ⟨stats, agree⟩
    exact accepted_countStats.mp
      (executeTyped_eq_some.mp (congrArg Prod.fst agree.counted)).1
  intro fits
  let counted (hierarchyScope : Option HierarchyScope) : Nat :=
    ((selectedCompanies scope store.companies).filter (hierarchyFilter hierarchyScope)).length
  let stats : CompanyStatsRead := ⟨counted none, counted (some .root), counted (some .subsidiary)⟩
  have isCounted : (countStats collation scope).execute db store = (.ok stats, store) := by
    unfold countStats
    simp only [execute_bind, countCompaniesInScope_execute, execute_pure]
    rfl
  have isTyped : (countStats collation scope).executeTyped db store =
      (some (.ok stats), store) := by
    rw [executeTyped_eq_of_accepted (accepted_countStats.mpr fits), isCounted]
  refine ⟨stats, ?_, isTyped, ?_, ?_⟩
  · intro rt activePolicies request isScope
    rw [getCompanyStats, callerScope, isScope]
    exact isTyped
  · have everyRow : counted none = (selectedCompanies scope store.companies).length := by
      simp [counted, hierarchyFilter]
    exact everyRow.trans (hierarchy_count _)
  · exact (groupRoots_count reached.hierarchy reached.wellFormed byGroup).symm

/-- Group 1 has two companies; 3 is not a root. -/
theorem stats_agree_twoGroups :
    (∃ stats, StatsAgree asciiOrder (.ofInts false [] [1, 3]) Database.counting twoGroups
        stats) ↔
      ScopeFits (.ofInts false [] [1, 3]) := by
  have reached : Reached Database.counting twoGroups := ⟨_, rfl⟩
  exact stats_agree_iff reached asciiOrder (.inr ⟨rfl, [1, 3], rfl⟩)

/-- A group that can never be turns the counts into the database's error. -/
theorem stats_outOfRange :
    (countStats asciiOrder (.ofInts false [] [2 ^ 31])).executeTyped .counting twoGroups =
        (none, twoGroups) ∧
      ¬∃ stats, StatsAgree asciiOrder (.ofInts false [] [2 ^ 31]) Database.counting twoGroups
        stats := by
  have refused : (countStats asciiOrder (.ofInts false [] [2 ^ 31])).executeTyped .counting
      twoGroups = (none, twoGroups) := rfl
  refine ⟨refused, ?_⟩
  rintro ⟨stats, agree⟩
  cases refused.symm.trans agree.counted

end BalanceSheetAnalysis

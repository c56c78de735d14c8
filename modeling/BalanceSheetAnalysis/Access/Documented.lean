import BalanceSheetAnalysis.Companies.Runs
import BalanceSheetAnalysis.Endpoints

/-! Policies of the documented shapes: about one company, about one group, or
about everything.  For these the flat reading of the list endpoint, the
evaluator's reading and the walk up the hierarchy agree. -/
namespace BalanceSheetAnalysis.Access
open Library Authorization BalanceSheetAnalysis.Action

variable {rt : Runtime}

def Unconditioned (policy : Policy rt) : Prop := policy.block = []

/-- `{"resource_attributes": {field: value}}`. -/
def NamesOnly (policy : Policy rt) (field : String) (value : Int) : Prop :=
  policy.block = [("resource_attributes", .obj [(field, .int value)])]

def Documented (policy : Policy rt) : Prop :=
  Unconditioned policy ∨ (∃ companyId, NamesOnly policy "company_id" companyId) ∨
    ∃ groupRootId, NamesOnly policy "group_root_id" groupRootId

/-- The policy `{"resource_attributes": {field: value}}` for the actions. -/
def policyNaming (actions : List String) (field : String) (value : Int) : Policy utcRuntime where
  name := s!"{field} {value}"
  actions := actions
  resourceType := RESOURCE_COMPANY
  conditions := some [("resource_attributes", .obj [(field, .int value)])]
  accepted := rfl
  distinct := by simp [Json.distinctKeys, Json.distinctKeysFields]

/-- A policy for the actions on resources of every type, without conditions. -/
def policyForAll (actions : List String) : Policy utcRuntime where
  name := "everything"
  actions := actions
  resourceType := "*"
  conditions := none
  accepted := rfl
  distinct := rfl

/-- What such a policy means for a company. -/
def Covers (policy : Policy rt) (companyId groupRootId : Int) : Prop :=
  Unconditioned policy ∨ NamesOnly policy "company_id" companyId ∨
    NamesOnly policy "group_root_id" groupRootId

theorem named_of_namesOnly {policy : Policy rt} {field : String} {value : Int}
    (shape : NamesOnly policy field value) (other : String) :
    named policy other = if field = other then some (.int value) else none := by
  unfold named attributesOf
  rw [show policy.block = _ from shape]
  by_cases same : field = other <;> simp [Dict.get, Dict.find?, same]

theorem covers_iff_of_namesOnly {policy : Policy rt} {field : String} {value : Int}
    (shape : NamesOnly policy field value) (companyId groupRootId : Int) :
    Covers policy companyId groupRootId ↔
      field = "company_id" ∧ value = companyId ∨ field = "group_root_id" ∧ value = groupRootId := by
  unfold Covers Unconditioned NamesOnly
  rw [show policy.block = _ from shape]
  simp

theorem readAsAbout_iff_covers {policy : Policy rt} (documented : Documented policy)
    (companyId groupRootId : Int) :
    ReadAsAbout policy companyId groupRootId ↔ Covers policy companyId groupRootId := by
  unfold ReadAsAbout
  rcases documented with bare | ⟨X, shape⟩ | ⟨Y, shape⟩
  · have absent : attributesOf policy = none := by
      rw [attributesOf, show policy.block = [] from bare]
      rfl
    exact iff_of_true (.inl absent) (.inl bare)
  · have present : attributesOf policy ≠ none := by
      rw [attributesOf, show policy.block = _ from shape]
      exact Option.some_ne_none _
    rw [covers_iff_of_namesOnly shape, named_of_namesOnly shape, named_of_namesOnly shape]
    simp [present, Json.number]
  · have present : attributesOf policy ≠ none := by
      rw [attributesOf, show policy.block = _ from shape]
      exact Option.some_ne_none _
    rw [covers_iff_of_namesOnly shape, named_of_namesOnly shape, named_of_namesOnly shape]
    simp [present, Json.number]

theorem satisfied_iff_covers {policy : Policy rt} (documented : Documented policy)
    {companyId groupRootId : Int} {attempt : Attempt}
    (isAbout : attempt.resource = some (resourceScopeDict companyId groupRootId)) :
    policy.Satisfied attempt ↔ Covers policy companyId groupRootId := by
  unfold Policy.Satisfied
  rcases documented with bare | ⟨X, shape⟩ | ⟨Y, shape⟩
  · rw [show policy.block = [] from bare]
    exact iff_of_true nofun (.inl bare)
  · rw [covers_iff_of_namesOnly shape, show policy.block = _ from shape]
    simp [satisfies, conditionRegistry, resourceAttributesCondition, isAbout, Json.truthy,
      Json.number]
  · rw [covers_iff_of_namesOnly shape, show policy.block = _ from shape]
    simp [satisfies, conditionRegistry, resourceAttributesCondition, isAbout, Json.truthy,
      Json.number]

theorem not_namesUnhashable {policy : Policy rt} (documented : Documented policy) :
    ¬NamesUnhashable policy := by
  rintro ⟨field, _, value, isNamed, unhashable⟩
  rcases documented with bare | ⟨X, shape⟩ | ⟨Y, shape⟩
  · rw [named, attributesOf, show policy.block = [] from bare] at isNamed
    cases isNamed
  all_goals
    rw [named_of_namesOnly shape] at isNamed
    split at isNamed
    · cases isNamed
      cases unhashable
    · cases isNamed

/-- What the caller may read, told by walking up the hierarchy. -/
def Readable (policies : List (Policy rt)) (store : Store) (company : Company) : Prop :=
  ∃ policy ∈ policies, policy.AppliesTo COMPANY_READ RESOURCE_COMPANY ∧
    (Unconditioned policy ∨ NamesOnly policy "company_id" company.id ∨
      ∃ root, NamesOnly policy "group_root_id" root ∧
        Forest.Top (parentOf store) company.id root)

/-- A walk up ends at one place only, so the cached group says where. -/
theorem readable_iff_covers {db : Database} {store : Store} (reached : Reached db store)
    {policies : List (Policy rt)} {company : Company} (member : company ∈ store.companies) :
    Readable policies store company ↔ ∃ policy ∈ policies,
      policy.AppliesTo COMPANY_READ RESOURCE_COMPANY ∧
        Covers policy company.id company.groupRootId := by
  have top := reached.hierarchy.top reached.wellFormed member
  refine exists_congr fun policy => and_congr_right fun _ => and_congr_right fun _ => ?_
  refine or_congr_right (or_congr_right ⟨?_, fun named => ⟨_, named, top⟩⟩)
  rintro ⟨root, named, ends⟩
  rw [top.unique ends]
  exact named

theorem getCompany_ok_iff {activePolicies : String → List (Policy rt)} {request : Request}
    {db : Database} {store : Store} (wf : Store.WellFormed db store) {company : Company} :
    ((getCompany activePolicies request company.id).execute db store).1 = .ok company ↔
      company ∈ store.companies ∧ Allows activePolicies request COMPANY_READ RESOURCE_COMPANY
        company.id company.groupRootId := by
  rw [getCompany, execute_authorizedCompany]
  cases found : store.findCompany company.id with
  | none =>
      have absent : company ∉ store.companies := fun member =>
        Table.find_eq_none.mp found company member rfl
      simp [absent]
  | some stored =>
      have isStored : company ∈ store.companies ↔ stored = company := by
        rw [← Option.some_inj, ← found, wf.find_iff, and_iff_left rfl]
      dsimp only
      split
      · rename_i allows
        rw [Except.ok.injEq, isStored]
        exact ⟨fun same => ⟨same, same ▸ allows⟩, And.left⟩
      · rename_i denied
        rw [isStored]
        exact iff_of_false nofun fun ⟨same, allows⟩ => denied (same ▸ allows)

theorem documented_attributes {policy : Policy rt} (documented : Documented policy) :
    attributesOf policy = none ↔ Unconditioned policy := by
  have named_of {field : String} {value : Int} (shape : NamesOnly policy field value) :
      attributesOf policy = none ↔ Unconditioned policy := by
    rw [attributesOf, Unconditioned, show policy.block = _ from shape]
    exact iff_of_false (Option.some_ne_none _) (List.cons_ne_nil _ _)
  rcases documented with bare | ⟨X, shape⟩ | ⟨Y, shape⟩
  · refine iff_of_true ?_ bare
    rw [attributesOf, show policy.block = [] from bare]
    rfl
  · exact named_of shape
  · exact named_of shape

theorem documented_named {policy : Policy rt} (documented : Documented policy) {field : String}
    {value : Json} :
    named policy field = some value ↔ ∃ id, value = .int id ∧ NamesOnly policy field id := by
  have of_shape {own : String} {id : Int} (shape : NamesOnly policy own id) :
      named policy field = some value ↔ ∃ id, value = .int id ∧ NamesOnly policy field id := by
    rw [named_of_namesOnly shape]
    unfold NamesOnly
    rw [show policy.block = _ from shape]
    by_cases same : own = field
    · simp [same, eq_comm]
    · simp [same]
  rcases documented with bare | ⟨X, shape⟩ | ⟨Y, shape⟩
  · unfold NamesOnly
    rw [named, attributesOf, show policy.block = [] from bare]
    simp [Dict.get, Dict.find?]
  · exact of_shape shape
  · exact of_shape shape

/-- Every id an applicable policy names fits its column. -/
def IdsFit (policies : List (Policy rt)) : Prop :=
  ∀ policy ∈ policies, policy.AppliesTo COMPANY_READ RESOURCE_COMPANY →
    ∀ field id, NamesOnly policy field id → FitsInteger id

/-- An applicable policy is unconditioned, or every id they name fits. -/
def ListFits (policies : List (Policy rt)) : Prop :=
  (∃ policy ∈ policies, policy.AppliesTo COMPANY_READ RESOURCE_COMPANY ∧ Unconditioned policy) ∨
    IdsFit policies

theorem documented_fits {policies : List (Policy rt)} {scope : CompanyScope}
    (documented : ∀ policy ∈ policies, policy.AppliesTo COMPANY_READ RESOURCE_COMPANY →
      Documented policy)
    (derived : getCompanyScope policies COMPANY_READ RESOURCE_COMPANY = .ok scope) :
    ScopeFits scope ↔ ListFits policies := by
  have integers : ∀ policy ∈ policies, policy.AppliesTo COMPANY_READ RESOURCE_COMPANY →
      NamesIntegers policy := by
    intro policy member applies field value isNamed
    obtain ⟨id, isId, _⟩ := (documented_named (documented policy member applies)).mp isNamed
    exact ⟨id, isId⟩
  rw [getCompanyScope_fits integers derived]
  apply or_congr
  · exact exists_congr fun policy => and_congr_right fun member => and_congr_right fun applies =>
      documented_attributes (documented policy member applies)
  · refine forall_congr' fun policy => forall_congr' fun member => forall_congr' fun applies => ?_
    have shape := documented policy member applies
    constructor
    · intro fits field id named
      have isField : field ∈ ["company_id", "group_root_id"] := by
        rcases shape with bare | ⟨X, own⟩ | ⟨Y, own⟩
        · unfold NamesOnly at named
          rw [show policy.block = [] from bare] at named
          cases named
        all_goals
          unfold NamesOnly at named own
          rw [own] at named
          simp_all
      exact fits field isField _ ((documented_named shape).mpr ⟨id, rfl, named⟩)
    · intro fits field _ value isNamed
      obtain ⟨id, rfl, named⟩ := (documented_named shape).mp isNamed
      exact fits field id named

/-- The pages of the list, read to the end, hold the rows GET lets through, and
these are the rows the policies are about. -/
def ListsReadable (activePolicies : String → List (Policy rt)) (request : Request) (db : Database)
    (store : Store) (collation : Collation) (limit : Nat) (sortBy : Option String)
    (sortDir : String) : Prop :=
  ∃ scope listed,
    getCompanyScope (activePolicies request.userEmail) COMPANY_READ RESOURCE_COMPANY = .ok scope ∧
    Paging.Walk (fun number rows => pageAt collation scope ⟨limit, 0, none, none, sortBy, sortDir⟩
      db store number = some (.ok rows)) 0 listed ∧
    ∀ company,
      (company ∈ listed.map Prod.fst ↔
        ((getCompany activePolicies request company.id).executeTyped db store).1 =
          some (.ok company)) ∧
      (company ∈ listed.map Prod.fst ↔ company ∈ store.companies ∧
        Readable (activePolicies request.userEmail) store company)

/-- A stored row is let through on a database with columns as on any. -/
theorem getCompany_typed_iff {activePolicies : String → List (Policy rt)} {request : Request}
    {db : Database} {store : Store} (wf : Store.WellFormed db store)
    (columns : Store.CompanyColumns store.companies) {company : Company} :
    ((getCompany activePolicies request company.id).executeTyped db store).1 =
        some (.ok company) ↔
      company ∈ store.companies ∧ Allows activePolicies request COMPANY_READ RESOURCE_COMPANY
        company.id company.groupRootId := by
  rw [executeTyped_eq_some, getCompany_ok_iff wf, getCompany, accepted_authorizedCompany]
  exact and_iff_right_of_imp fun allowed => columns.ids company allowed.1

/-- For callers whose policies all have a documented shape, the pages of the
list, the rows GET lets through and the recursive reading of the policies are
one set of companies, exactly when the list query need send no id that its
column cannot hold. -/
theorem listed_iff_readable {db : Database} {store : Store} (reached : Reached db store)
    (columns : Store.CompanyColumns store.companies)
    (activePolicies : String → List (Policy rt)) (request : Request)
    (documented : ∀ policy ∈ activePolicies request.userEmail,
      policy.AppliesTo COMPANY_READ RESOURCE_COMPANY → Documented policy)
    (collation : Collation) {limit : Nat} (positive : 0 < limit) (fits : FitsBigint limit)
    (sortBy : Option String) (sortDir : String) :
    ListsReadable activePolicies request db store collation limit sortBy sortDir ↔
      ListFits (activePolicies request.userEmail) := by
  obtain ⟨scope, derived⟩ := getCompanyScope_isOk.mpr fun policy member applies =>
    not_namesUnhashable (documented policy member applies)
  let params : ListParams := ⟨limit, 0, none, none, sortBy, sortDir⟩
  have isPositive : 0 < params.limit := positive
  have few := columns.few reached.wellFormed.companyKeys
  have answerable : Answerable scope none ↔ ListFits (activePolicies request.userEmail) := by
    rw [answerable_none, documented_fits documented derived]
  have walk_iff {listed : List (Company × Option String)} :
      Paging.Walk (fun number rows => pageAt collation scope params db store number =
        some (.ok rows)) 0 listed ↔ ListFits (activePolicies request.userEmail) ∧
          listed = orderedRows collation scope params store.companies := by
    rw [walk_pages_iff few isPositive fits, answerable]
  constructor
  · rintro ⟨_, listed, same, walk, _⟩
    cases derived.symm.trans same
    exact (walk_iff.mp walk).1
  intro listFits
  refine ⟨scope, _, derived, walk_iff.mpr ⟨listFits, rfl⟩, fun company => ?_⟩
  have listed : company ∈ (orderedRows collation scope params store.companies).map Prod.fst ↔
      company ∈ store.companies ∧
        Readable (activePolicies request.userEmail) store company := by
    have isListed : company ∈ (orderedRows collation scope params store.companies).map Prod.fst ↔
        company ∈ store.companies ∧ scope.admits company.id company.groupRootId = true := by
      rw [mem_orderedRows_fst]
      simp [applyScopeAndFilters, searchFilter, hierarchyFilter, params]
    rw [isListed]
    apply and_congr_right
    intro member
    rw [getCompanyScope_admits derived, readable_iff_covers reached member]
    exact exists_congr fun policy => and_congr_right fun inside => and_congr_right fun applies =>
      readAsAbout_iff_covers (documented policy inside applies) _ _
  refine ⟨?_, listed⟩
  rw [listed, getCompany_typed_iff reached.wellFormed columns]
  apply and_congr_right
  intro member
  rw [readable_iff_covers reached member, Allows, evaluate_eq_true]
  exact exists_congr fun policy => and_congr_right fun inside => and_congr_right fun applies =>
    (satisfied_iff_covers (documented policy inside applies) rfl).symm

/-! A viewer of group 1. -/

def asciiOrder : Collation := ⟨fun left right => left ≤ right, fun a b => a.toLower = b.toLower⟩

def viewer : Request := ⟨"viewer@example.com", none, epoch⟩

def groupOnePolicies (_userEmail : String) : List (Policy utcRuntime) :=
  [policyNaming [COMPANY_READ] "group_root_id" 1]

theorem listed_iff_readable_twoGroups :
    ListsReadable groupOnePolicies viewer .counting twoGroups asciiOrder 2 none "asc" ↔
      ListFits (groupOnePolicies viewer.userEmail) := by
  refine listed_iff_readable ⟨_, rfl⟩ twoGroups_columns groupOnePolicies viewer
    (fun policy member _ => ?_) asciiOrder (by decide) (by decide) none "asc"
  rw [List.mem_singleton.mp member]
  exact .inr (.inr ⟨1, rfl⟩)

/-- A policy for a company that can never be, beside one for company 1. -/
def strayPolicies (_userEmail : String) : List (Policy utcRuntime) :=
  [policyNaming [COMPANY_READ] "company_id" 1, policyNaming [COMPANY_READ] "company_id" (2 ^ 31)]

/-- GET lets company 1 through, and the list is the database's error. -/
theorem stray_unlisted :
    ((getCompany strayPolicies viewer 1).executeTyped .counting twoGroups).1 =
        some (.ok ⟨1, "Reliance Industries", "RELIANCE", none, 1, 0⟩) ∧
      ¬ListsReadable strayPolicies viewer .counting twoGroups asciiOrder 1000 none "asc" := by
  constructor
  · refine executeTyped_eq_some.mpr ⟨?_, by decide +kernel⟩
    exact (accepted_authorizedCompany _ _ _).mpr (by decide)
  · rintro ⟨scope, listed, derived, walk, _⟩
    obtain ⟨rows, answered⟩ := walk.first
    have isScope : getCompanyScope (strayPolicies viewer.userEmail) COMPANY_READ RESOURCE_COMPANY =
        .ok (.ofInts false [1, 2 ^ 31] []) := rfl
    cases isScope.symm.trans derived
    rcases (pageAt_eq_ok.mp answered).1 with empty | ⟨⟨unrestricted | fits, _⟩, _⟩
    · cases empty
    · cases unrestricted
    · exact absurd (fits (.int (2 ^ 31)) (List.mem_cons_of_mem _ (List.mem_singleton_self _)))
        (by decide)

end BalanceSheetAnalysis.Access

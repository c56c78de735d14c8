import BalanceSheetAnalysis.Access.Scope
import BalanceSheetAnalysis.Library.Paging
import BalanceSheetAnalysis.Store.Columns

/-! The list endpoint's query: filter by scope, search and place in the
hierarchy, sort, and cut out one page. -/
namespace BalanceSheetAnalysis
open Library Authorization Access BalanceSheetAnalysis.Action

inductive HierarchyScope where
  | root
  | subsidiary

structure ListParams where
  limit : Nat
  offset : Nat
  search : Option String
  hierarchyScope : Option HierarchyScope
  sortBy : Option String
  sortDir : String

/-- How the database compares texts. -/
structure Collation where
  le : String → String → Bool
  /-- Characters ILIKE takes for the same. -/
  sameIgnoringCase : Char → Char → Bool

/-- `LIKE`: `%` stands for any text, `_` for any character, and a backslash
takes the next character for itself. -/
def like (same : Char → Char → Bool) : List Char → List Char → Bool
  | [], text => text.isEmpty
  | '%' :: pattern, text => text.tails.any fun rest => like same pattern rest
  | '_' :: pattern, text =>
      match text with
      | [] => false
      | _ :: rest => like same pattern rest
  | '\\' :: literal :: pattern, text =>
      match text with
      | [] => false
      | char :: rest => same literal char && like same pattern rest
  | literal :: pattern, text =>
      match text with
      | [] => false
      | char :: rest => same literal char && like same pattern rest

def Collation.ilike (collation : Collation) (text pattern : String) : Bool :=
  like collation.sameIgnoringCase pattern.toList text.toList

def hierarchyFilter : Option HierarchyScope → Company → Bool
  | some .root, company => company.parentCompanyId.isNone
  | some .subsidiary, company => company.parentCompanyId.isSome
  | none, _ => true

/-- An empty search text does not filter. -/
def searchFilter (collation : Collation) (search : Option String) (company : Company) : Bool :=
  let text := search.getD ""
  if text = "" then true
  else
    let pattern := s!"%{text}%"
    collation.ilike company.name pattern || collation.ilike company.ticker pattern

def applyScopeAndFilters (collation : Collation) (scope : CompanyScope) (search : Option String)
    (hierarchyScope : Option HierarchyScope) (companies : List Company) : List Company :=
  companies.filter fun company =>
    scope.admits company.id company.groupRootId && searchFilter collation search company &&
      hierarchyFilter hierarchyScope company

/-- The outer join with the parent row. -/
def withParentName (companies : List Company) (company : Company) : Company × Option String :=
  (company, (company.parentCompanyId.bind (Table.find Company.id companies)).map Company.name)

/-- `<=` in a column that may be null; null sorts after every text. -/
def nullsLast (le : String → String → Bool) : Option String → Option String → Bool
  | _, none => true
  | none, some _ => false
  | some left, some right => le left right

/-- `<=` in the ORDER BY column; an unknown key falls back to the id. -/
def orderColumn (collation : Collation) (sortBy : Option String)
    (left right : Company × Option String) : Bool :=
  match sortBy with
  | some "parent" => nullsLast collation.le left.2 right.2
  | some "name" => collation.le left.1.name right.1.name
  | some "ticker" => collation.le left.1.ticker right.1.ticker
  | some "created_at" => left.1.createdAt ≤ right.1.createdAt
  | _ => left.1.id ≤ right.1.id

/-- Ascending by the column and then by the id; descending is the reverse. -/
def orderBy (collation : Collation) (sortBy : Option String) (sortDir : String)
    (left right : Company × Option String) : Bool :=
  let ascending (left right : Company × Option String) : Bool :=
    orderColumn collation sortBy left right &&
      (!orderColumn collation sortBy right left || left.1.id ≤ right.1.id)
  if sortDir = "asc" then ascending left right else ascending right left

def page {α : Type} (rows : List α) (limit offset : Nat) : List α :=
  (rows.drop offset).take limit

/-- The rows of the query before LIMIT and OFFSET. -/
def orderedRows (collation : Collation) (scope : CompanyScope) (params : ListParams)
    (companies : List Company) : List (Company × Option String) :=
  let filtered :=
    applyScopeAndFilters collation scope params.search params.hierarchyScope companies
  (filtered.map (withParentName companies)).mergeSort
    (orderBy collation params.sortBy params.sortDir)

/-- The ids of the WHERE clause, which an unrestricted scope leaves out. -/
def scopeIds (scope : CompanyScope) : List Json :=
  if scope.unrestricted then [] else scope.companyIds ++ scope.groupRootIds

/-- The pattern name and ticker are compared with. -/
def searchTexts (search : Option String) : List String :=
  let text := search.getD ""
  if text = "" then [] else [s!"%{text}%"]

def listCompaniesInScope (collation : Collation) (scope : CompanyScope) (params : ListParams) :
    Action (List (Company × Option String)) :=
  if scope.isEmpty then return []
  else do
    let companies ← query (.selectCompanies
      ⟨scopeIds scope, searchTexts params.search, [params.limit, params.offset]⟩)
    return page (orderedRows collation scope params companies) params.limit params.offset

def countCompaniesInScope (collation : Collation) (scope : CompanyScope) (search : Option String)
    (hierarchyScope : Option HierarchyScope) : Action Nat :=
  if scope.isEmpty then return 0
  else do
    let companies ← query (.selectCompanies ⟨scopeIds scope, searchTexts search, []⟩)
    return (applyScopeAndFilters collation scope search hierarchyScope companies).length

theorem mem_page {α : Type} {rows : List α} {limit : Nat} (positive : 0 < limit) {row : α} :
    (∃ number, row ∈ page rows limit (number * limit)) ↔ row ∈ rows := by
  constructor
  · rintro ⟨number, member⟩
    exact List.mem_of_mem_drop (List.mem_of_mem_take member)
  · intro member
    obtain ⟨position, inside, rfl⟩ := List.getElem_of_mem member
    refine ⟨position / limit, ?_⟩
    have start : position / limit * limit + position % limit = position :=
      Nat.div_add_mod' position limit
    have within : position % limit < limit := Nat.mod_lt _ positive
    rw [page, List.mem_iff_getElem]
    refine ⟨position % limit, ?_, ?_⟩
    · rw [List.length_take, List.length_drop]
      omega
    · rw [List.getElem_take, List.getElem_drop]
      simp only [start]

theorem mem_orderedRows {collation : Collation} {scope : CompanyScope} {params : ListParams}
    {companies : List Company} {company : Company} :
    (∃ parentName, (company, parentName) ∈ orderedRows collation scope params companies) ↔
      company ∈ applyScopeAndFilters collation scope params.search params.hierarchyScope
        companies := by
  simp [orderedRows, withParentName, List.mem_mergeSort]

theorem mem_orderedRows_fst {collation : Collation} {scope : CompanyScope} {params : ListParams}
    {companies : List Company} {company : Company} :
    company ∈ (orderedRows collation scope params companies).map Prod.fst ↔
      company ∈ applyScopeAndFilters collation scope params.search params.hierarchyScope
        companies := by
  rw [← mem_orderedRows]
  simp

theorem isEmpty_admits {scope : CompanyScope} (empty : scope.isEmpty = true)
    (companyId groupRootId : Int) : scope.admits companyId groupRootId = false := by
  simp only [CompanyScope.isEmpty, Bool.and_eq_true, Bool.not_eq_true', List.isEmpty_iff] at empty
  simp [CompanyScope.admits, empty, pyMember]

theorem applyScopeAndFilters_of_isEmpty {scope : CompanyScope} (empty : scope.isEmpty = true)
    (collation : Collation) (search : Option String) (hierarchyScope : Option HierarchyScope)
    (companies : List Company) :
    applyScopeAndFilters collation scope search hierarchyScope companies = [] := by
  simp [applyScopeAndFilters, isEmpty_admits empty]

/-- An empty scope, which is not asked for, selects nothing anyway. -/
theorem execute_listCompaniesInScope (collation : Collation) (scope : CompanyScope)
    (params : ListParams) (db : Database) (store : Store) :
    (listCompaniesInScope collation scope params).execute db store =
      (.ok (page (orderedRows collation scope params store.companies) params.limit params.offset),
        store) := by
  unfold listCompaniesInScope
  split
  · rename_i empty
    rw [orderedRows, applyScopeAndFilters_of_isEmpty empty, List.map_nil, List.mergeSort_nil, page,
      List.drop_nil, List.take_nil]
    rfl
  · rfl

theorem execute_countCompaniesInScope (collation : Collation) (scope : CompanyScope)
    (search : Option String) (hierarchyScope : Option HierarchyScope) (db : Database)
    (store : Store) :
    (countCompaniesInScope collation scope search hierarchyScope).execute db store =
      (.ok (applyScopeAndFilters collation scope search hierarchyScope store.companies).length,
        store) := by
  unfold countCompaniesInScope
  split
  · rename_i empty
    rw [applyScopeAndFilters_of_isEmpty empty]
    rfl
  · rfl

/-- The company is on some page of the list, pages having `limit` rows. -/
def Listed (collation : Collation) (scope : CompanyScope) (db : Database) (store : Store)
    (limit : Nat) (sortBy : Option String) (sortDir : String) (company : Company) : Prop :=
  ∃ number rows parentName, ((listCompaniesInScope collation scope
      ⟨limit, number * limit, none, none, sortBy, sortDir⟩).execute db store).1 = .ok rows ∧
    (company, parentName) ∈ rows

/-- Without search and hierarchy filter these are the rows the scope admits. -/
theorem listed_iff {collation : Collation} {scope : CompanyScope} {db : Database} {store : Store}
    {limit : Nat} (positive : 0 < limit) {sortBy : Option String} {sortDir : String}
    {company : Company} :
    Listed collation scope db store limit sortBy sortDir company ↔
      company ∈ store.companies ∧ scope.admits company.id company.groupRootId = true := by
  let params : ListParams := ⟨limit, 0, none, none, sortBy, sortDir⟩
  simp only [Listed, execute_listCompaniesInScope, Except.ok.injEq]
  calc
    _ ↔ ∃ parentName number, (company, parentName) ∈
        page (orderedRows collation scope params store.companies) limit (number * limit) := by
      constructor
      · rintro ⟨number, _, parentName, rfl, member⟩
        exact ⟨parentName, number, member⟩
      · rintro ⟨parentName, number, member⟩
        exact ⟨number, _, parentName, rfl, member⟩
    _ ↔ ∃ parentName, (company, parentName) ∈
        orderedRows collation scope params store.companies :=
      exists_congr fun parentName => mem_page positive
    _ ↔ _ := by
      rw [mem_orderedRows]
      simp [applyScopeAndFilters, searchFilter, hierarchyFilter, params]

/-! What the queries send, and the database may turn down. -/

/-- The ids in the sets fit their columns. -/
def SetsFit (scope : CompanyScope) : Prop :=
  ∀ id ∈ scope.companyIds ++ scope.groupRootIds, FitsId id

/-- The ids a query in this scope sends fit their columns. -/
def ScopeFits (scope : CompanyScope) : Prop := scope.unrestricted = true ∨ SetsFit scope

/-- The query in this scope is answered: it is not sent, or what it sends fits. -/
def Answerable (scope : CompanyScope) (search : Option String) : Prop :=
  scope.isEmpty = true ∨ ScopeFits scope ∧ FitsText (search.getD "")

/-- Without a search the ids decide, and an empty scope has none. -/
theorem answerable_none {scope : CompanyScope} : Answerable scope none ↔ ScopeFits scope := by
  have blank : FitsText "" := by decide
  unfold Answerable
  refine (or_congr_right (and_iff_left blank)).trans (or_iff_right_of_imp fun empty => .inr ?_)
  simp only [CompanyScope.isEmpty, Bool.and_eq_true, List.isEmpty_iff] at empty
  simp [SetsFit, empty]

theorem scopeIds_fit {scope : CompanyScope} :
    (∀ id ∈ scopeIds scope, FitsId id) ↔ ScopeFits scope := by
  unfold scopeIds ScopeFits SetsFit
  cases scope.unrestricted <;> simp

theorem fitsText_pattern (text : String) : FitsText s!"%{text}%" ↔ FitsText text := by
  have pattern : s!"%{text}%".toList = '%' :: (text.toList ++ ['%']) := by
    show ("%" ++ text ++ "%").toList = _
    simp
  have noWildcard : Char.ofNat 0 ≠ '%' := by decide
  simp [FitsText, pattern, noWildcard]

theorem searchTexts_fit {search : Option String} :
    (∀ text ∈ searchTexts search, FitsText text) ↔ FitsText (search.getD "") := by
  unfold searchTexts
  dsimp only
  split
  · rename_i empty
    rw [empty]
    exact iff_of_true (List.forall_mem_nil _) (by decide)
  · rw [List.forall_mem_singleton, fitsText_pattern]

section Derived
variable {rt : Runtime} {action resourceType : String}

/-- The fields the policy gives a value, it gives integers. -/
def NamesIntegers (policy : Policy rt) : Prop :=
  ∀ field value, named policy field = some value → ∃ id, value = .int id

/-- The ids the policy names fit their columns. -/
def NamesFit (policy : Policy rt) : Prop :=
  ∀ field ∈ ["company_id", "group_root_id"], ∀ value, named policy field = some value → FitsId value

theorem pySetAdd_fits {members added : List Json} {id : Int}
    (ok : pySetAdd members (.int id) = .ok added) :
    (∀ member ∈ added, FitsId member) ↔
      (∀ member ∈ members, FitsId member) ∧ FitsInteger id := by
  unfold pySetAdd at ok
  rw [if_pos (show (Json.int id).hashable = true from rfl)] at ok
  cases ok
  split
  · rename_i held
    refine (and_iff_left_of_imp fun fits => ?_).symm
    obtain ⟨member, inside, equal⟩ := List.any_eq_true.mp held
    have isNumber := pyEq_number equal
    have memberFits := fits member inside
    cases member with
    | int other =>
        have same : id = other := by simpa [Json.number] using isNumber
        rw [same]
        exact memberFits
    | _ => cases memberFits
  · rw [List.forall_mem_append, List.forall_mem_singleton]
    rfl

theorem addNamed_fits {members added : List Json} {attributes : Dict} {field : String}
    (integers : ∀ value, attributes.find? field = some value → ∃ id, value = .int id)
    (ok : addNamed members attributes field = .ok added) :
    (∀ member ∈ added, FitsId member) ↔ (∀ member ∈ members, FitsId member) ∧
      ∀ value, attributes.find? field = some value → FitsId value := by
  unfold addNamed at ok
  cases found : attributes.find? field with
  | none =>
      rw [found] at ok
      cases ok
      simp
  | some value =>
      rw [found] at ok
      obtain ⟨id, rfl⟩ := integers value found
      rw [pySetAdd_fits ok]
      simp [FitsId]

theorem widenScope_fits {scope wider : CompanyScope} {policy : Policy rt}
    (integers : policy.AppliesTo action resourceType → NamesIntegers policy)
    (ok : widenScope action resourceType scope policy = .ok wider) :
    (wider.unrestricted = true ↔ scope.unrestricted = true ∨
        policy.AppliesTo action resourceType ∧ attributesOf policy = none) ∧
      (SetsFit wider ↔ SetsFit scope ∧
        (policy.AppliesTo action resourceType → NamesFit policy)) := by
  by_cases applies : policy.AppliesTo action resourceType
  · have named := integers applies
    rw [widenScope_eq_ok applies] at ok
    unfold NamesIntegers at named
    unfold SetsFit NamesFit
    unfold Access.named at named ⊢
    cases isSome : attributesOf policy with
    | none =>
        rw [isSome] at ok
        cases ok
        simp [applies]
    | some attributes =>
        rw [isSome] at ok named
        obtain ⟨companyIds, groupRootIds, first, second, rfl⟩ := ok
        have company := addNamed_fits (named "company_id") first
        have group := addNamed_fits (named "group_root_id") second
        refine ⟨by simp, ?_⟩
        simp only [List.forall_mem_append, company, group, applies, forall_const]
        simp only [List.mem_cons, List.not_mem_nil, or_false, forall_eq_or_imp, forall_eq,
          Option.bind_some]
        tauto
  · rw [widenScope_skips applies] at ok
    cases ok
    simp [applies]

theorem foldlM_widenScope_fits {policies : List (Policy rt)} {scope wider : CompanyScope}
    (integers : ∀ policy ∈ policies, policy.AppliesTo action resourceType → NamesIntegers policy)
    (ok : policies.foldlM (widenScope action resourceType) scope = .ok wider) :
    (wider.unrestricted = true ↔ scope.unrestricted = true ∨
        ∃ policy ∈ policies, policy.AppliesTo action resourceType ∧ attributesOf policy = none) ∧
      (SetsFit wider ↔ SetsFit scope ∧
        ∀ policy ∈ policies, policy.AppliesTo action resourceType → NamesFit policy) := by
  induction policies generalizing scope with
  | nil =>
      cases ok
      simp
  | cons policy policies ih =>
      rw [List.foldlM_cons, bind_eq_ok] at ok
      obtain ⟨next, round, rest⟩ := ok
      rw [List.forall_mem_cons] at integers
      obtain ⟨unrestricted, sets⟩ := ih integers.2 rest
      obtain ⟨roundUnrestricted, roundSets⟩ := widenScope_fits integers.1 round
      rw [unrestricted, roundUnrestricted, sets, roundSets]
      simp only [List.mem_cons, exists_eq_or_imp, forall_eq_or_imp, or_assoc, and_assoc, and_self]

/-- What the policies must name for the query of their scope to fit. -/
theorem getCompanyScope_fits {policies : List (Policy rt)} {scope : CompanyScope}
    (integers : ∀ policy ∈ policies, policy.AppliesTo action resourceType → NamesIntegers policy)
    (ok : getCompanyScope policies action resourceType = .ok scope) :
    ScopeFits scope ↔
      (∃ policy ∈ policies, policy.AppliesTo action resourceType ∧ attributesOf policy = none) ∨
        ∀ policy ∈ policies, policy.AppliesTo action resourceType → NamesFit policy := by
  obtain ⟨unrestricted, sets⟩ := foldlM_widenScope_fits integers ok
  rw [ScopeFits, unrestricted, sets]
  simp [SetsFit]

end Derived

section Accepted
variable {collation : Collation} {scope : CompanyScope} {db : Database} {store : Store}

theorem accepted_countCompaniesInScope {search : Option String}
    {hierarchyScope : Option HierarchyScope} :
    Accepted db store (countCompaniesInScope collation scope search hierarchyScope) ↔
      Answerable scope search := by
  unfold countCompaniesInScope Answerable
  split
  · rename_i empty
    exact iff_of_true trivial (.inl empty)
  · rename_i asks
    rw [accepted_query_bind, Operation.InDomain, scopeIds_fit, searchTexts_fit, or_iff_right asks]
    refine (and_iff_left trivial).trans ?_
    exact and_congr_right fun _ => and_iff_left (List.forall_mem_nil _)

theorem accepted_listCompaniesInScope {params : ListParams} :
    Accepted db store (listCompaniesInScope collation scope params) ↔
      scope.isEmpty = true ∨ (ScopeFits scope ∧ FitsText (params.search.getD "")) ∧
        FitsBigint params.limit ∧ FitsBigint params.offset := by
  unfold listCompaniesInScope
  split
  · rename_i empty
    exact iff_of_true trivial (.inl empty)
  · rename_i asks
    have range : (∀ bound ∈ [params.limit, params.offset], FitsBigint bound) ↔
        FitsBigint params.limit ∧ FitsBigint params.offset := by simp
    rw [accepted_query_bind, Operation.InDomain, scopeIds_fit, searchTexts_fit, or_iff_right asks,
      range, ← and_assoc]
    exact and_iff_left trivial

end Accepted

/-- What the database answers when a page is asked for. -/
def pageAt (collation : Collation) (scope : CompanyScope) (params : ListParams) (db : Database)
    (store : Store) (number : Nat) : Option (Except Failure (List (Company × Option String))) :=
  ((listCompaniesInScope collation scope
    { params with offset := number * params.limit }).executeTyped db store).1

section Pages
variable {collation : Collation} {scope : CompanyScope} {params : ListParams} {db : Database}
  {store : Store}

theorem pageAt_eq_ok {number : Nat} {rows : List (Company × Option String)} :
    pageAt collation scope params db store number = some (.ok rows) ↔
      (scope.isEmpty = true ∨ (ScopeFits scope ∧ FitsText (params.search.getD "")) ∧
        FitsBigint params.limit ∧ FitsBigint (number * params.limit)) ∧
      rows = page (orderedRows collation scope params store.companies) params.limit
        (number * params.limit) := by
  rw [pageAt, executeTyped_eq_some, accepted_listCompaniesInScope, execute_listCompaniesInScope,
    Except.ok.injEq, eq_comm (b := rows)]
  rfl

theorem length_orderedRows_le (companies : List Company) :
    (orderedRows collation scope params companies).length ≤ companies.length := by
  simp only [orderedRows, List.length_mergeSort, List.length_map]
  exact List.length_filter_le _ _

/-- The offset of a page a reader gets to is below the size of two pages, or of
the table and one page. -/
theorem offset_fits {rows : List (Company × Option String)} {limit number : Nat}
    (few : rows.length ≤ 2 ^ 32) (fits : FitsBigint limit)
    (asked : Paging.Asked rows limit number) : FitsBigint (number * limit) := by
  unfold FitsBigint at fits ⊢
  match number with
  | 0 => omega
  | 1 => omega
  | before + 2 =>
      have inside := asked (before + 1) rfl
      have atLeast : limit ≤ (before + 1) * limit := Nat.le_mul_of_pos_left _ (Nat.succ_pos _)
      have next : (before + 2) * limit = (before + 1) * limit + limit := Nat.succ_mul _ _
      omega

/-- Reading page after page ends, with the rows of the query in order, exactly
when the database answers the query. -/
theorem walk_pages_iff (few : store.companies.length ≤ 2 ^ 32) (positive : 0 < params.limit)
    (fits : FitsBigint params.limit) {listed : List (Company × Option String)} :
    Paging.Walk (fun number rows => pageAt collation scope params db store number =
        some (.ok rows)) 0 listed ↔
      Answerable scope params.search ∧
        listed = orderedRows collation scope params store.companies := by
  let rows := orderedRows collation scope params store.companies
  have slices (number : Nat) (answer : List (Company × Option String))
      (answered : pageAt collation scope params db store number = some (.ok answer)) :
      answer = (rows.drop (number * params.limit)).take params.limit :=
    (pageAt_eq_ok.mp answered).2
  by_cases answerable : Answerable scope params.search
  · rw [and_iff_right answerable]
    refine Paging.walk_iff positive slices fun number asked => pageAt_eq_ok.mpr ⟨?_, rfl⟩
    refine answerable.imp_right fun sends => ⟨sends, fits, ?_⟩
    exact offset_fits ((length_orderedRows_le _).trans few) fits asked
  · refine iff_of_false (fun walk => ?_) fun both => answerable both.1
    obtain ⟨answer, answered⟩ := walk.first
    exact answerable ((pageAt_eq_ok.mp answered).1.imp_right And.left)

end Pages

end BalanceSheetAnalysis

import BalanceSheetAnalysis.Authorization.Evaluator

/-! Company-hierarchy scoping.  A check on one company passes its id and group
to the evaluator; a list endpoint instead collapses the caller's policies into
one filter, reading each policy's `resource_attributes` itself. -/
namespace BalanceSheetAnalysis.Access
open Library Authorization

def RESOURCE_COMPANY : String := "company"
def RESOURCE_BALANCE_SHEET : String := "balance_sheet"
def RESOURCE_LLM : String := "llm"

def COMPANY_READ : String := "company:read"
def COMPANY_CREATE : String := "company:create"
def COMPANY_UPDATE : String := "company:update"
def COMPANY_DELETE : String := "company:delete"

def BALANCE_SHEET_READ : String := "balance_sheet:read"
def BALANCE_SHEET_IMPORT : String := "balance_sheet:import"
def BALANCE_SHEET_DELETE : String := "balance_sheet:delete"

def LLM_CHAT : String := "llm:chat"

/-- The `resource=` payload of every check on a company-scoped resource. -/
def resourceScopeDict (companyId groupRootId : Int) : Dict :=
  [("company_id", .int companyId), ("group_root_id", .int groupRootId)]

@[simp] theorem resourceScopeDict_company_id (companyId groupRootId : Int) :
    (resourceScopeDict companyId groupRootId).get "company_id" = .int companyId := rfl

@[simp] theorem resourceScopeDict_group_root_id (companyId groupRootId : Int) :
    (resourceScopeDict companyId groupRootId).get "group_root_id" = .int groupRootId := rfl

theorem resourceScopeDict_other (companyId groupRootId : Int) {field : String}
    (notCompany : field ≠ "company_id") (notGroup : field ≠ "group_root_id") :
    (resourceScopeDict companyId groupRootId).get field = .null := by
  simp [resourceScopeDict, Dict.get, Dict.find?, Ne.symm notCompany, Ne.symm notGroup]

/-- The sets hold whatever JSON the policies carry, not only integers. -/
structure CompanyScope where
  unrestricted : Bool
  companyIds : List Json
  groupRootIds : List Json

/-- A scope of the declared type, whose sets hold integers. -/
def CompanyScope.ofInts (unrestricted : Bool) (companyIds groupRootIds : List Int) : CompanyScope :=
  ⟨unrestricted, companyIds.map .int, groupRootIds.map .int⟩

def CompanyScope.isEmpty (scope : CompanyScope) : Bool :=
  !scope.unrestricted && scope.companyIds.isEmpty && scope.groupRootIds.isEmpty

/-- `value in members`, by `==`. -/
def pyMember (members : List Json) (value : Json) : Bool := members.any (value.pyEq ·)

/-- The WHERE clause of the list query. -/
def CompanyScope.admits (scope : CompanyScope) (companyId groupRootId : Int) : Bool :=
  scope.unrestricted || pyMember scope.companyIds (.int companyId) ||
    pyMember scope.groupRootIds (.int groupRootId)

/-- `TypeError: unhashable type`. -/
inductive ScopeError where
  | unhashable (value : Json)

/-- `members.add(value)`. -/
def pySetAdd (members : List Json) (value : Json) : Except ScopeError (List Json) :=
  if value.hashable then
    .ok (if pyMember members value then members else members ++ [value])
  else .error (.unhashable value)

/-- `if field in attrs: members.add(attrs[field])`. -/
def addNamed (members : List Json) (attributes : Dict) (field : String) :
    Except ScopeError (List Json) :=
  match attributes.find? field with
  | some value => pySetAdd members value
  | none => .ok members

variable {rt : Runtime}

/-- One round of the loop of `get_company_scope`. -/
def widenScope (action resourceType : String) (scope : CompanyScope) (policy : Policy rt) :
    Except ScopeError CompanyScope :=
  if ¬policy.AppliesTo action resourceType then .ok scope
  else
    match Dict.get policy.block "resource_attributes" with
    | .obj (field :: fields) => do
        let companyIds ← addNamed scope.companyIds (field :: fields) "company_id"
        let groupRootIds ← addNamed scope.groupRootIds (field :: fields) "group_root_id"
        return { scope with companyIds, groupRootIds }
    -- Absent; the only other values of a stored policy are non-empty objects.
    | _ => .ok { scope with unrestricted := true }

def getCompanyScope (policies : List (Policy rt)) (action resourceType : String) :
    Except ScopeError CompanyScope :=
  policies.foldlM (widenScope action resourceType) ⟨false, [], []⟩

/-! How one policy is read. -/

/-- The fields a policy expects of the resource, if it has such a condition. -/
def attributesOf (policy : Policy rt) : Option Dict :=
  match Dict.get policy.block "resource_attributes" with
  | .obj (field :: fields) => some (field :: fields)
  | _ => none

/-- The value the policy gives one field of the resource. -/
def named (policy : Policy rt) (field : String) : Option Json :=
  (attributesOf policy).bind (Dict.find? · field)

/-- A list or object as the company or group id, which no set can hold. -/
def NamesUnhashable (policy : Policy rt) : Prop :=
  ∃ field ∈ ["company_id", "group_root_id"], ∃ value,
    named policy field = some value ∧ value.hashable = false

/-- The companies the list endpoint takes the policy to be about. -/
def ReadAsAbout (policy : Policy rt) (companyId groupRootId : Int) : Prop :=
  attributesOf policy = none ∨
    (named policy "company_id").bind Json.number = some (companyId : ℚ) ∨
    (named policy "group_root_id").bind Json.number = some (groupRootId : ℚ)

theorem pyEq_number {left right : Json} (equal : left.pyEq right = true) :
    left.number = right.number := by
  cases left <;> cases right <;>
    simp_all [Json.pyEq, Json.number, Json.isNull, Json.text]

theorem pyMember_int {members : List Json} {value : Int} :
    pyMember members (.int value) = true ↔
      ∃ member ∈ members, member.number = some (value : ℚ) := by
  simp [pyMember]

theorem pySetAdd_member {members added : List Json} {value : Json}
    (ok : pySetAdd members value = .ok added) (i : Int) :
    pyMember added (.int i) = true ↔
      pyMember members (.int i) = true ∨ value.number = some (i : ℚ) := by
  unfold pySetAdd at ok
  split at ok
  · split at ok
    · rename_i held
      cases ok
      obtain ⟨member, inside, equal⟩ := List.any_eq_true.mp held
      refine ⟨Or.inl, fun either => either.elim id fun isNumber => ?_⟩
      exact pyMember_int.mpr ⟨member, inside, (pyEq_number equal).symm.trans isNumber⟩
    · cases ok
      simp [pyMember]
  · cases ok

theorem addNamed_member {members added : List Json} {attributes : Dict} {field : String}
    (ok : addNamed members attributes field = .ok added) (i : Int) :
    pyMember added (.int i) = true ↔
      pyMember members (.int i) = true ∨
        (attributes.find? field).bind Json.number = some (i : ℚ) := by
  unfold addNamed at ok
  cases found : attributes.find? field with
  | none =>
      simp only [found] at ok
      cases ok
      simp
  | some value =>
      simp only [found] at ok
      simpa using pySetAdd_member ok i

theorem addNamed_isOk (members : List Json) (attributes : Dict) (field : String) :
    (∃ added, addNamed members attributes field = .ok added) ↔
      ∀ value, attributes.find? field = some value → value.hashable = true := by
  unfold addNamed pySetAdd
  cases attributes.find? field with
  | none => simp
  | some value => by_cases hashable : value.hashable = true <;> simp [hashable]

/-- A sequence of two steps returns if the first does, and the second on what
the first returned. -/
theorem bind_eq_ok {ε α β : Type} {first : Except ε α} {second : α → Except ε β} {value : β} :
    (first >>= second) = .ok value ↔ ∃ middle, first = .ok middle ∧ second middle = .ok value := by
  cases first <;> simp [bind, Except.bind]

/-- What one round does with an applicable policy. -/
theorem widenScope_eq_ok {action resourceType : String} {scope wider : CompanyScope}
    {policy : Policy rt} (applies : policy.AppliesTo action resourceType) :
    widenScope action resourceType scope policy = .ok wider ↔
      match attributesOf policy with
      | none => { scope with unrestricted := true } = wider
      | some attributes => ∃ companyIds groupRootIds,
          addNamed scope.companyIds attributes "company_id" = .ok companyIds ∧
          addNamed scope.groupRootIds attributes "group_root_id" = .ok groupRootIds ∧
          { scope with companyIds, groupRootIds } = wider := by
  unfold widenScope attributesOf
  rw [if_neg (not_not.mpr applies)]
  split
  · simp only [bind_eq_ok, exists_and_left, pure, Except.pure, Except.ok.injEq]
  · simp only [Except.ok.injEq]

theorem widenScope_skips {action resourceType : String} {policy : Policy rt}
    (skipped : ¬policy.AppliesTo action resourceType) (scope : CompanyScope) :
    widenScope action resourceType scope policy = .ok scope :=
  if_pos skipped

/-- One round raises on an unhashable value of an applicable policy. -/
theorem widenScope_isOk (action resourceType : String) (scope : CompanyScope)
    (policy : Policy rt) :
    (∃ wider, widenScope action resourceType scope policy = .ok wider) ↔
      (policy.AppliesTo action resourceType → ¬NamesUnhashable policy) := by
  by_cases applies : policy.AppliesTo action resourceType
  · simp only [widenScope_eq_ok applies, NamesUnhashable, named, applies, forall_const]
    cases attributesOf policy with
    | none => simp
    | some attributes =>
        have company := addNamed_isOk scope.companyIds attributes "company_id"
        have group := addNamed_isOk scope.groupRootIds attributes "group_root_id"
        calc
          _ ↔ (∃ companyIds, addNamed scope.companyIds attributes "company_id" = .ok companyIds) ∧
              ∃ groupRootIds,
                addNamed scope.groupRootIds attributes "group_root_id" = .ok groupRootIds := by
            constructor
            · rintro ⟨_, companyIds, groupRootIds, first, second, _⟩
              exact ⟨⟨companyIds, first⟩, groupRootIds, second⟩
            · rintro ⟨⟨companyIds, first⟩, groupRootIds, second⟩
              exact ⟨_, companyIds, groupRootIds, first, second, rfl⟩
          _ ↔ _ := by
            rw [company, group]
            simp
  · simp [widenScope_skips applies, applies]

theorem widenScope_admits {action resourceType : String} {scope wider : CompanyScope}
    {policy : Policy rt} (ok : widenScope action resourceType scope policy = .ok wider)
    (companyId groupRootId : Int) :
    wider.admits companyId groupRootId = true ↔
      scope.admits companyId groupRootId = true ∨
        policy.AppliesTo action resourceType ∧ ReadAsAbout policy companyId groupRootId := by
  unfold ReadAsAbout named
  by_cases applies : policy.AppliesTo action resourceType
  · rw [widenScope_eq_ok applies] at ok
    cases isSome : attributesOf policy with
    | none =>
        rw [isSome] at ok
        cases ok
        simp [CompanyScope.admits, applies]
    | some attributes =>
        rw [isSome] at ok
        obtain ⟨companyIds, groupRootIds, first, second, rfl⟩ := ok
        have company := addNamed_member first companyId
        have group := addNamed_member second groupRootId
        simp only [CompanyScope.admits, Bool.or_eq_true, company, group, applies, reduceCtorEq,
          Option.bind_some, false_or, true_and]
        exact (or_congr_left or_assoc.symm).trans or_or_or_comm
  · rw [widenScope_skips applies] at ok
    cases ok
    simp [applies]

theorem foldlM_widenScope_isOk {action resourceType : String} (policies : List (Policy rt))
    (scope : CompanyScope) :
    (∃ wider, policies.foldlM (widenScope action resourceType) scope = .ok wider) ↔
      ∀ policy ∈ policies, policy.AppliesTo action resourceType → ¬NamesUnhashable policy := by
  induction policies generalizing scope with
  | nil => simp [pure, Except.pure]
  | cons policy policies ih =>
      rw [List.forall_mem_cons, ← widenScope_isOk action resourceType scope policy]
      simp only [List.foldlM_cons, bind_eq_ok]
      constructor
      · rintro ⟨wider, next, round, rest⟩
        exact ⟨⟨next, round⟩, (ih next).mp ⟨wider, rest⟩⟩
      · rintro ⟨⟨next, round⟩, hashable⟩
        obtain ⟨wider, rest⟩ := (ih next).mpr hashable
        exact ⟨wider, next, round, rest⟩

theorem foldlM_widenScope_admits {action resourceType : String} {policies : List (Policy rt)}
    {scope wider : CompanyScope}
    (ok : policies.foldlM (widenScope action resourceType) scope = .ok wider)
    (companyId groupRootId : Int) :
    wider.admits companyId groupRootId = true ↔
      scope.admits companyId groupRootId = true ∨ ∃ policy ∈ policies,
        policy.AppliesTo action resourceType ∧ ReadAsAbout policy companyId groupRootId := by
  induction policies generalizing scope with
  | nil =>
      cases ok
      simp
  | cons policy policies ih =>
      rw [List.foldlM_cons, bind_eq_ok] at ok
      obtain ⟨next, round, rest⟩ := ok
      rw [ih rest, widenScope_admits round]
      simp only [List.mem_cons, exists_eq_or_imp, or_assoc]

/-- `get_company_scope` returns unless an applicable policy gives a list or an
object where an id belongs. -/
theorem getCompanyScope_isOk {policies : List (Policy rt)} {action resourceType : String} :
    (∃ scope, getCompanyScope policies action resourceType = .ok scope) ↔
      ∀ policy ∈ policies, policy.AppliesTo action resourceType → ¬NamesUnhashable policy :=
  foldlM_widenScope_isOk policies _

/-- The scope admits a company when some applicable policy is read as about it. -/
theorem getCompanyScope_admits {policies : List (Policy rt)} {action resourceType : String}
    {scope : CompanyScope} (ok : getCompanyScope policies action resourceType = .ok scope)
    (companyId groupRootId : Int) :
    scope.admits companyId groupRootId = true ↔ ∃ policy ∈ policies,
      policy.AppliesTo action resourceType ∧ ReadAsAbout policy companyId groupRootId := by
  rw [foldlM_widenScope_admits ok]
  simp [CompanyScope.admits, pyMember]

end BalanceSheetAnalysis.Access

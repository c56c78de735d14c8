import BalanceSheetAnalysis.Access.Scope
import Mathlib.Data.Fintype.EquivFin

/-! How far the two readings of a policy agree: the list endpoint reads the two
id fields of `resource_attributes` and nothing else, the evaluator every
condition of the block. -/
namespace BalanceSheetAnalysis.Access
open Library Authorization

variable {rt : Runtime}

/-- Every expected field of the resource has the expected value. -/
def MeetsAttributes (policy : Policy rt) (companyId groupRootId : Int) : Prop :=
  ∀ attributes, attributesOf policy = some attributes → ∀ field wanted,
    (field, wanted) ∈ attributes →
      ((resourceScopeDict companyId groupRootId).get field).pyEq wanted = true

/-- An attempt on a company, with anything else about the request open. -/
def attemptOn (companyId groupRootId : Int) (userEmail : String) (context : Option Context)
    (now : ServerTime) : Attempt :=
  ⟨userEmail, some (resourceScopeDict companyId groupRootId), context, now⟩

theorem mem_block_of_attributesOf {policy : Policy rt} {attributes : Dict}
    (isSome : attributesOf policy = some attributes) :
    ("resource_attributes", Json.obj attributes) ∈ policy.block ∧ attributes ≠ [] := by
  unfold attributesOf at isSome
  split at isSome
  · rename_i field fields got
    cases isSome
    refine ⟨Dict.mem_of_find? ?_, List.cons_ne_nil _ _⟩
    unfold Dict.get at got
    cases found : Dict.find? policy.block "resource_attributes" with
    | none => simp [found] at got
    | some value =>
        simp only [found, Option.getD_some] at got
        rw [got]
  · cases isSome

theorem attributesOf_of_mem_block {policy : Policy rt} {value : Json}
    (member : ("resource_attributes", value) ∈ policy.block) :
    ∃ attributes, value = .obj attributes ∧ attributes ≠ [] ∧
      attributesOf policy = some attributes := by
  obtain ⟨attributes, rfl, nonempty, _⟩ := policy.block_expectations rfl member
  refine ⟨attributes, rfl, nonempty, ?_⟩
  have found := Dict.find?_of_mem policy.block_keys_nodup member
  unfold attributesOf Dict.get
  rw [found, Option.getD_some]
  cases attributes with
  | nil => exact absurd rfl nonempty
  | cons field fields => rfl

theorem resourceAttributes_met_iff {attributes : Dict} (nonempty : attributes ≠ [])
    {attempt : Attempt} {companyId groupRootId : Int}
    (isAbout : attempt.resource = some (resourceScopeDict companyId groupRootId)) :
    satisfies rt attempt ("resource_attributes", .obj attributes) = true ↔
      ∀ field wanted, (field, wanted) ∈ attributes →
        ((resourceScopeDict companyId groupRootId).get field).pyEq wanted = true := by
  have truthy : (Json.obj attributes).truthy = true := by
    simpa [Json.truthy] using nonempty
  simp [satisfies, conditionRegistry, resourceAttributesCondition, truthy, isAbout]

theorem meetsAttributes_of_satisfied {policy : Policy rt} {attempt : Attempt}
    {companyId groupRootId : Int}
    (isAbout : attempt.resource = some (resourceScopeDict companyId groupRootId))
    (satisfied : policy.Satisfied attempt) : MeetsAttributes policy companyId groupRootId := by
  intro attributes isSome
  obtain ⟨member, nonempty⟩ := mem_block_of_attributesOf isSome
  exact (resourceAttributes_met_iff nonempty isAbout).mp (satisfied _ member)

/-! What the list loses. -/

/-- The policy has `resource_attributes`, but all of them expect null of fields
no company has. -/
def ExpectsNothing (policy : Policy rt) : Prop :=
  ∃ attributes, attributesOf policy = some attributes ∧ ∀ field wanted,
    (field, wanted) ∈ attributes →
      field ≠ "company_id" ∧ field ≠ "group_root_id" ∧ wanted = .null

theorem number_of_meetsAttributes {policy : Policy rt} {companyId groupRootId : Int}
    (meets : MeetsAttributes policy companyId groupRootId) {field : String} {wanted : Json}
    (isNamed : named policy field = some wanted) {value : Int}
    (holds : (resourceScopeDict companyId groupRootId).get field = .int value) :
    (named policy field).bind Json.number = some (value : ℚ) := by
  obtain ⟨attributes, isSome, found⟩ := Option.bind_eq_some_iff.mp isNamed
  have equal := meets attributes isSome field wanted (Dict.mem_of_find? found)
  rw [holds, Json.pyEq_int] at equal
  rw [isNamed, Option.bind_some, equal]

theorem readAsAbout_or_expectsNothing {policy : Policy rt} {companyId groupRootId : Int}
    (meets : MeetsAttributes policy companyId groupRootId) :
    ReadAsAbout policy companyId groupRootId ∨ ExpectsNothing policy := by
  cases isSome : attributesOf policy with
  | none => exact .inl (.inl isSome)
  | some attributes =>
      cases company : named policy "company_id" with
      | some wanted => exact .inl (.inr (.inl (number_of_meetsAttributes meets company rfl)))
      | none =>
          cases group : named policy "group_root_id" with
          | some wanted => exact .inl (.inr (.inr (number_of_meetsAttributes meets group rfl)))
          | none =>
              refine .inr ⟨attributes, isSome, fun field wanted member => ?_⟩
              rw [named, isSome, Option.bind_some, Dict.find?_eq_none] at company group
              have notCompany : field ≠ "company_id" := fun same => company wanted (same ▸ member)
              have notGroup : field ≠ "group_root_id" := fun same => group wanted (same ▸ member)
              have equal := meets attributes isSome field wanted member
              rw [resourceScopeDict_other _ _ notCompany notGroup, Json.pyEq_null] at equal
              exact ⟨notCompany, notGroup, equal⟩

/-- The list endpoint derives a scope, and one that holds every company the
evaluator lets the caller read, exactly when no applicable policy gives a list
or an object for an id, and the policies that grant by expecting nothing do not
stand alone. -/
theorem getCompanyScope_complete_iff (policies : List (Policy rt)) (companyId groupRootId : Int)
    (userEmail : String) (context : Option Context) (now : ServerTime) :
    (∃ scope, getCompanyScope policies COMPANY_READ RESOURCE_COMPANY = .ok scope ∧
      (evaluate policies COMPANY_READ RESOURCE_COMPANY
          (attemptOn companyId groupRootId userEmail context now) = true →
        scope.admits companyId groupRootId = true)) ↔
      (∀ policy ∈ policies, policy.AppliesTo COMPANY_READ RESOURCE_COMPANY →
        ¬NamesUnhashable policy) ∧
      ((∃ policy ∈ policies, policy.AppliesTo COMPANY_READ RESOURCE_COMPANY ∧
          ExpectsNothing policy ∧
          policy.Satisfied (attemptOn companyId groupRootId userEmail context now)) →
        ∃ policy ∈ policies, policy.AppliesTo COMPANY_READ RESOURCE_COMPANY ∧
          ReadAsAbout policy companyId groupRootId) := by
  constructor
  · rintro ⟨scope, derived, complete⟩
    refine ⟨getCompanyScope_isOk.mp ⟨scope, derived⟩, ?_⟩
    rintro ⟨policy, member, applies, _, satisfied⟩
    exact (getCompanyScope_admits derived _ _).mp
      (complete (evaluate_eq_true.mpr ⟨policy, member, applies, satisfied⟩))
  · rintro ⟨hashable, backed⟩
    obtain ⟨scope, derived⟩ := getCompanyScope_isOk.mpr hashable
    refine ⟨scope, derived, fun allowed => (getCompanyScope_admits derived _ _).mpr ?_⟩
    obtain ⟨policy, member, applies, satisfied⟩ := evaluate_eq_true.mp allowed
    rcases readAsAbout_or_expectsNothing (meetsAttributes_of_satisfied rfl satisfied) with
      isAbout | nothing
    · exact ⟨policy, member, applies, isAbout⟩
    · exact backed ⟨policy, member, applies, nothing, satisfied⟩

/-- `{"resource_attributes": {"company_id": [1, 2]}}`, which the validator accepts. -/
def twoCompanies : Policy utcRuntime where
  name := "readers of two companies"
  actions := [COMPANY_READ]
  resourceType := RESOURCE_COMPANY
  conditions := some [("resource_attributes", .obj [("company_id", .arr [.int 1, .int 2])])]
  accepted := rfl
  distinct := by decide

/-- One such policy takes the whole list down, for every company. -/
theorem getCompanyScope_twoCompanies_raises :
    ¬∃ scope, getCompanyScope [twoCompanies] COMPANY_READ RESOURCE_COMPANY = .ok scope ∧
      (evaluate [twoCompanies] COMPANY_READ RESOURCE_COMPANY
          (attemptOn 1 1 "reader@example.com" none epoch) = true →
        scope.admits 1 1 = true) := by
  rintro ⟨scope, derived, _⟩
  have raised : getCompanyScope [twoCompanies] COMPANY_READ RESOURCE_COMPANY =
      .error (.unhashable (.arr [.int 1, .int 2])) := rfl
  rw [raised] at derived
  cases derived

end BalanceSheetAnalysis.Access

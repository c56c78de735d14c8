import BalanceSheetAnalysis.Access.Agreement

/-! Where the list shows more than the evaluator allows.  One context fails
every condition that looks at the request, so a policy is sure to grant only if
it has no such condition. -/
namespace BalanceSheetAnalysis.Access
open Library Authorization

/-- The names of the fields of an object. -/
def fieldNames : Json → List String
  | .obj fields => fields.map Prod.fst
  | _ => []

/-- A value of no policy. -/
def strangeValue (strange : String) : Json := .obj [(strange, .null)]

/-- Every key has the strange value. -/
def strangeContext (keys : List String) (strange : String) : Context where
  entries := ("current_time" :: keys).dedup.map fun key => (key, strangeValue strange)
  distinct := by
    rw [List.map_map, show (Prod.fst ∘ fun key => (key, strangeValue strange)) = id from rfl,
      List.map_id]
    exact List.nodup_dedup _
  securityContext := some [(strange, .null)]

section Strange
variable {keys : List String} {strange : String}

theorem strangeContext_get {key : String} (known : key ∈ "current_time" :: keys) :
    (strangeContext keys strange).get key = strangeValue strange := by
  unfold Context.get
  split
  · rfl
  · have member : (key, strangeValue strange) ∈ (strangeContext keys strange).entries :=
      List.mem_map.mpr ⟨key, List.mem_dedup.mpr known, rfl⟩
    rw [Dict.get, Dict.find?_of_mem (strangeContext keys strange).distinct member]
    rfl

theorem strangeContext_get_or (key : String) :
    (strangeContext keys strange).get key = strangeValue strange ∨
      (strangeContext keys strange).get key = .null := by
  by_cases known : key ∈ "current_time" :: keys
  · exact .inl (strangeContext_get known)
  · unfold Context.get
    split
    · exact .inl rfl
    · refine .inr ?_
      have absent : (strangeContext keys strange).entries.find? key = none := by
        rw [Dict.find?_eq_none]
        intro value member
        obtain ⟨other, inside, same⟩ := List.mem_map.mp member
        rw [Prod.mk.injEq] at same
        exact known (same.1 ▸ List.mem_dedup.mp inside)
      rw [Dict.get, absent]
      rfl

theorem strange_of_pyEq {wanted : Json}
    (equal : (strangeValue strange).pyEq wanted = true) : strange ∈ fieldNames wanted := by
  cases wanted with
  | obj others =>
      simp only [strangeValue, Json.pyEq, Json.pyEqFields, Bool.and_true, Bool.and_eq_true] at equal
      cases found : Dict.find? others strange with
      | none => simp [found] at equal
      | some other => exact List.mem_map_of_mem (Dict.mem_of_find? found)
  | _ => simp [strangeValue, Json.pyEq] at equal

variable {attempt : Attempt} (inContext : attempt.context = some (strangeContext keys strange))
include inContext

theorem resolveCurrentDatetime_strange (rt : Runtime) (tz : rt.Zone) :
    resolveCurrentDatetime rt attempt.now attempt.context tz = none := by
  have override : contextGet attempt.context "current_time" = strangeValue strange := by
    rw [inContext]
    exact strangeContext_get (List.mem_cons_self ..)
  simp [resolveCurrentDatetime, override, strangeValue, Json.truthy, Json.text]

theorem timeCondition_strange (rt : Runtime) (value : Json) :
    timeCondition rt value attempt = false := by
  have noClock := resolveCurrentDatetime_strange inContext rt
  cases value with
  | obj fields =>
      simp only [timeCondition, noClock]
      split <;> simp [failSafe]
  | _ => rfl

theorem dateRangeCondition_strange (rt : Runtime) (value : Json) :
    dateRangeCondition rt value attempt = false := by
  have noClock := resolveCurrentDatetime_strange inContext rt
  cases value with
  | obj fields =>
      simp only [dateRangeCondition, noClock]
      split <;> simp [failSafe]
  | _ => rfl

theorem networkCondition_strange (value : Json) : networkCondition value attempt = false := by
  have caller : contextGet attempt.context "ip_address" = strangeValue strange ∨
      contextGet attempt.context "ip_address" = .null := by
    rw [inContext]
    exact strangeContext_get_or "ip_address"
  unfold networkCondition
  split
  · split
    · rcases caller with strangeIp | noIp
      · simp [strangeIp, strangeValue, callerAddress]
      · simp [noIp, Json.truthy]
    · rfl
  · rfl

theorem contextAttributesCondition_strange {fields : Dict} (nonempty : fields ≠ [])
    (known : ∀ field ∈ fields, field.1 ∈ keys)
    (fresh : ∀ field ∈ fields, strange ∉ fieldNames field.2) :
    contextAttributesCondition (.obj fields) attempt = false := by
  obtain ⟨field, rest, rfl⟩ := List.exists_cons_of_ne_nil nonempty
  have unequal : (strangeValue strange).pyEq field.2 = false := by
    rw [Bool.eq_false_iff]
    exact fun equal => fresh field (List.mem_cons_self ..) (strange_of_pyEq equal)
  have got : (strangeContext keys strange).get field.1 = strangeValue strange :=
    strangeContext_get (List.mem_cons_of_mem _ (known field (List.mem_cons_self ..)))
  simp [contextAttributesCondition, inContext, Json.truthy, got, unequal]

theorem securityContextCondition_strange {fields : Dict} (nonempty : fields ≠ [])
    (fresh : strange ∉ fieldNames (.obj fields)) :
    securityContextCondition (.obj fields) attempt = false := by
  obtain ⟨field, rest, rfl⟩ := List.exists_cons_of_ne_nil nonempty
  have other : strange ≠ field.1 := fun same => fresh (same ▸ List.mem_cons_self ..)
  simp [securityContextCondition, inContext, Json.truthy, strangeContext, Dict.find?, other]

end Strange

/-! A policy that grants whatever the request looks like. -/

section Sure
variable {rt : Runtime}

/-- The block has no condition but `self_only: false` and `resource_attributes`. -/
def Unqualified (policy : Policy rt) : Prop :=
  ∀ condition ∈ policy.block,
    condition = ("self_only", .bool false) ∨ condition.1 = "resource_attributes"

theorem satisfied_of_unqualified {policy : Policy rt} (unqualified : Unqualified policy)
    {companyId groupRootId : Int} (meets : MeetsAttributes policy companyId groupRootId)
    {attempt : Attempt}
    (isAbout : attempt.resource = some (resourceScopeDict companyId groupRootId)) :
    policy.Satisfied attempt := by
  rintro ⟨key, value⟩ member
  rcases unqualified _ member with off | attributes
  · cases off
    rfl
  · obtain rfl : key = "resource_attributes" := attributes
    obtain ⟨fields, rfl, nonempty, isSome⟩ := attributesOf_of_mem_block member
    exact (resourceAttributes_met_iff nonempty isAbout).mpr (meets fields isSome)

/-- What a context has to avoid to fail every condition of the policies. -/
def Strange (policies : List (Policy rt)) (keys : List String) (strange : String) : Prop :=
  ∀ policy ∈ policies, ∀ condition ∈ policy.block, ∀ fields, condition.2 = .obj fields →
    strange ∉ fieldNames condition.2 ∧
      ∀ field ∈ fields, field.1 ∈ keys ∧ strange ∉ fieldNames field.2

theorem exists_strange (policies : List (Policy rt)) :
    ∃ keys strange, Strange policies keys strange := by
  let values := policies.flatMap fun policy => policy.block.map Prod.snd
  let inner (value : Json) : List String :=
    match value with
    | .obj fields => fields.flatMap fun field => fieldNames field.2
    | _ => []
  obtain ⟨strange, fresh⟩ := Infinite.exists_notMem_finset
    (values.flatMap fieldNames ++ values.flatMap inner).toFinset
  rw [List.mem_toFinset, List.mem_append, not_or] at fresh
  refine ⟨values.flatMap fieldNames, strange, ?_⟩
  intro policy member condition inside fields isObject
  have isValue : condition.2 ∈ values :=
    List.mem_flatMap.mpr ⟨policy, member, List.mem_map_of_mem inside⟩
  refine ⟨fun found => fresh.1 (List.mem_flatMap.mpr ⟨_, isValue, found⟩), ?_⟩
  intro field isField
  refine ⟨List.mem_flatMap.mpr ⟨_, isValue, ?_⟩, fun found =>
    fresh.2 (List.mem_flatMap.mpr ⟨_, isValue, ?_⟩)⟩
  · rw [isObject]
    exact List.mem_map_of_mem isField
  · rw [isObject]
    exact List.mem_flatMap.mpr ⟨field, isField, found⟩

/-- Under a context strange to it, a policy grants only if unqualified. -/
theorem unqualified_of_satisfied {policies : List (Policy rt)} {keys : List String}
    {strange : String} (isStrange : Strange policies keys strange) {policy : Policy rt}
    (inside : policy ∈ policies) {companyId groupRootId : Int} {userEmail : String}
    {now : ServerTime} (satisfied : policy.Satisfied (attemptOn companyId groupRootId userEmail
      (some (strangeContext keys strange)) now)) : Unqualified policy := by
  let attempt := attemptOn companyId groupRootId userEmail (some (strangeContext keys strange)) now
  have inContext : attempt.context = some (strangeContext keys strange) := rfl
  rintro ⟨key, value⟩ member
  have holds : satisfies rt attempt (key, value) = true := satisfied _ member
  have accepted := policy.block_accepted member
  have registered := policy.block_key_registered member
  unfold validators at registered
  split at registered
  · cases value with
    | bool on =>
        cases on with
        | false => exact .inl rfl
        | true =>
            have noEmail : (resourceScopeDict companyId groupRootId).get "email" = .null := rfl
            simp [satisfies, conditionRegistry, selfOnlyCondition, attempt, attemptOn, Json.truthy,
              noEmail, Json.pyEq, Json.isNull] at holds
    | _ => simp [conditionErrors, validators, validateSelfOnly] at accepted
  · exact .inr rfl
  · obtain ⟨fields, rfl, nonempty, _⟩ := policy.block_expectations rfl member
    have avoids := (isStrange policy inside _ member fields rfl).2
    refine absurd holds (Bool.eq_false_iff.mp ?_)
    exact contextAttributesCondition_strange inContext nonempty
      (fun field isField => (avoids field isField).1) fun field isField => (avoids field isField).2
  · obtain ⟨fields, rfl, nonempty, _⟩ := policy.block_expectations rfl member
    refine absurd holds (Bool.eq_false_iff.mp ?_)
    exact securityContextCondition_strange inContext nonempty
      (isStrange policy inside _ member fields rfl).1
  · exact absurd holds (Bool.eq_false_iff.mp (timeCondition_strange inContext rt value))
  · exact absurd holds (Bool.eq_false_iff.mp (dateRangeCondition_strange inContext rt value))
  · exact absurd holds (Bool.eq_false_iff.mp (networkCondition_strange inContext value))
  · simp at registered

/-- Whatever the request looks like the evaluator allows every read of the
company that its scope would list, exactly when no scope is derived, or no
policy is read as about the company, or one without further conditions grants. -/
theorem getCompanyScope_within_evaluator_iff (policies : List (Policy rt))
    (companyId groupRootId : Int) :
    (∀ scope, getCompanyScope policies COMPANY_READ RESOURCE_COMPANY = .ok scope →
      scope.admits companyId groupRootId = true → ∀ userEmail context now,
        evaluate policies COMPANY_READ RESOURCE_COMPANY
          (attemptOn companyId groupRootId userEmail context now) = true) ↔
      (∃ policy ∈ policies, policy.AppliesTo COMPANY_READ RESOURCE_COMPANY ∧
        NamesUnhashable policy) ∨
      ((∃ policy ∈ policies, policy.AppliesTo COMPANY_READ RESOURCE_COMPANY ∧
          ReadAsAbout policy companyId groupRootId) →
        ∃ policy ∈ policies, policy.AppliesTo COMPANY_READ RESOURCE_COMPANY ∧
          Unqualified policy ∧ MeetsAttributes policy companyId groupRootId) := by
  constructor
  · intro within
    by_cases raises : ∃ policy ∈ policies, policy.AppliesTo COMPANY_READ RESOURCE_COMPANY ∧
        NamesUnhashable policy
    · exact .inl raises
    refine .inr fun readAsAbout => ?_
    push Not at raises
    obtain ⟨scope, derived⟩ := getCompanyScope_isOk.mpr raises
    obtain ⟨keys, strange, isStrange⟩ := exists_strange policies
    obtain ⟨policy, inside, applies, satisfied⟩ := evaluate_eq_true.mp <|
      within scope derived ((getCompanyScope_admits derived _ _).mpr readAsAbout) ""
        (some (strangeContext keys strange)) epoch
    exact ⟨policy, inside, applies, unqualified_of_satisfied isStrange inside satisfied,
      meetsAttributes_of_satisfied rfl satisfied⟩
  · rintro (⟨policy, inside, applies, unhashable⟩ | covered) scope derived admits
      userEmail context now
    · exact absurd unhashable (getCompanyScope_isOk.mp ⟨scope, derived⟩ policy inside applies)
    · obtain ⟨policy, inside, applies, unqualified, meets⟩ :=
        covered ((getCompanyScope_admits derived _ _).mp admits)
      exact evaluate_eq_true.mpr
        ⟨policy, inside, applies, satisfied_of_unqualified unqualified meets rfl⟩

end Sure

/-- `{"network": {"allowed_ips": ["10.0.0.0/8"]}}`. -/
def officeOnly : Policy utcRuntime where
  name := "readers in the office"
  actions := [COMPANY_READ]
  resourceType := RESOURCE_COMPANY
  conditions := some [("network", .obj [("allowed_ips", .arr [.str "10.0.0.0/8"])])]
  accepted := rfl
  distinct := by decide

/-- A caller outside the office sees every company in the list. -/
theorem getCompanyScope_officeOnly_leaks :
    ¬∀ scope, getCompanyScope [officeOnly] COMPANY_READ RESOURCE_COMPANY = .ok scope →
      scope.admits 1 1 = true → ∀ userEmail context now,
        evaluate [officeOnly] COMPANY_READ RESOURCE_COMPANY
          (attemptOn 1 1 userEmail context now) = true := by
  intro within
  let outside : Context :=
    ⟨[("ip_address", .str "192.0.2.1"), ("current_time", .str "1970-01-01T00:00:00+00:00")],
      by decide, some []⟩
  have allowed := within ⟨true, [], []⟩ rfl rfl "reader@example.com" (some outside) epoch
  have denied : evaluate [officeOnly] COMPANY_READ RESOURCE_COMPANY
      (attemptOn 1 1 "reader@example.com" (some outside) epoch) = false := rfl
  exact Bool.false_ne_true (denied.symm.trans allowed)

end BalanceSheetAnalysis.Access

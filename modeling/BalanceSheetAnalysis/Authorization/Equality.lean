import BalanceSheetAnalysis.Authorization.Evaluator
import BalanceSheetAnalysis.Library.JsonEquality

/-! Conditions that compare equal grant the same.  A column of JSON is written
only where `==` tells the new value from the old, and nothing is lost by it. -/
namespace BalanceSheetAnalysis.Authorization
open Library

variable {rt : Runtime}

/-- For what asks of a value only whether it is true, unless it is an object. -/
theorem eq_of_objects (handler : Json → Bool) (verdict : Bool → Bool) {first second : Json}
    (equal : first.pyEq second = true)
    (plain : ∀ value : Json, (∀ fields, value ≠ .obj fields) → handler value = verdict value.truthy)
    (objects : ∀ fields others, first = .obj fields → second = .obj others →
      handler first = handler second) : handler first = handler second := by
  by_cases isObject : ∃ fields, first = .obj fields
  · obtain ⟨fields, rfl⟩ := isObject
    obtain ⟨others, rfl, _⟩ := Json.obj_pyEq.mp equal
    exact objects fields others rfl rfl
  · rw [not_exists] at isObject
    have notObject : ∀ others, second ≠ .obj others := by
      rintro others rfl
      cases first with
      | obj fields => exact isObject fields rfl
      | arr items =>
          obtain ⟨_, ⟨⟩, _⟩ := Json.arr_pyEq.mp equal
      | bool | int | float => cases (Json.pyEq_iff_number rfl).mp equal
      | null => cases Json.pyEq_null.mp equal
      | str => cases Json.str_pyEq.mp equal
    rw [plain first isObject, plain second notObject, Json.truthy_of_pyEq equal]

section Handlers
variable {first second : Json} (distinct : first.distinctKeys = true)
  (distinct' : second.distinctKeys = true) (equal : first.pyEq second = true) (attempt : Attempt)
include distinct distinct' equal

omit distinct distinct' in
theorem selfOnlyCondition_congr :
    selfOnlyCondition first attempt = selfOnlyCondition second attempt := by
  rw [selfOnlyCondition, selfOnlyCondition, Json.truthy_of_pyEq equal]

theorem resourceAttributesCondition_congr :
    resourceAttributesCondition first attempt = resourceAttributesCondition second attempt := by
  refine eq_of_objects (resourceAttributesCondition · attempt) (!·) equal ?_ ?_
  · intro value plain
    cases value with
    | obj fields => exact absurd rfl (plain fields)
    | _ => cases truth : Json.truthy _ <;> simp [resourceAttributesCondition, truth]
  · rintro fields others rfl rfl
    have sameTests (resource : Dict) := Json.all_of_pyEq distinct distinct' equal
      (fun field wanted => (resource.get field).pyEq wanted)
      fun field _ _ apart apart' same => Json.pyEq_congr apart apart' same (resource.get field)
    simp only [resourceAttributesCondition, Json.truthy_of_pyEq equal]
    cases attempt.resource with
    | none => rfl
    | some resource => simp only [sameTests]

theorem contextAttributesCondition_congr :
    contextAttributesCondition first attempt = contextAttributesCondition second attempt := by
  refine eq_of_objects (contextAttributesCondition · attempt) (!·) equal ?_ ?_
  · intro value plain
    cases value with
    | obj fields => exact absurd rfl (plain fields)
    | _ => cases truth : Json.truthy _ <;> simp [contextAttributesCondition, truth]
  · rintro fields others rfl rfl
    have sameTests (context : Context) := Json.all_of_pyEq distinct distinct' equal
      (fun key wanted => (context.get key).pyEq wanted)
      fun key _ _ apart apart' same => Json.pyEq_congr apart apart' same (context.get key)
    simp only [contextAttributesCondition, Json.truthy_of_pyEq equal]
    cases attempt.context with
    | none => rfl
    | some context => simp only [sameTests]

theorem securityContextCondition_congr :
    securityContextCondition first attempt = securityContextCondition second attempt := by
  refine eq_of_objects (securityContextCondition · attempt) (!·) equal ?_ ?_
  · intro value plain
    cases value with
    | obj fields => exact absurd rfl (plain fields)
    | _ => cases truth : Json.truthy _ <;> simp [securityContextCondition, truth]
  · rintro fields others rfl rfl
    have sameTests (security : Dict) := Json.all_of_pyEq distinct distinct' equal
      (fun key wanted => (security.find? key).elim false (·.pyEq wanted))
      fun key value other apart apart' same => by
        cases security.find? key with
        | some actual => exact Json.pyEq_congr apart apart' same actual
        | none => rfl
    simp only [securityContextCondition, Json.truthy_of_pyEq equal]
    cases attempt.context.bind Context.securityContext with
    | none => rfl
    | some security =>
        split
        · rfl
        · refine congrArg (!security.isEmpty && ·) (.trans ?_ ((sameTests security).trans ?_)) <;>
            (congr 1; funext field; cases security.find? field.1 <;> rfl)

theorem timeCondition_congr : timeCondition rt first attempt = timeCondition rt second attempt := by
  refine eq_of_objects (timeCondition rt · attempt) (fun _ => false) equal ?_ ?_
  · intro value plain
    cases value with
    | obj fields => exact absurd rfl (plain fields)
    | _ => rfl
  · rintro fields others rfl rfl
    have same := Json.get_pyEq distinct distinct' equal
    simp only [timeCondition, Json.truthy_of_pyEq (same _), Json.text_of_pyEq (same _)]

theorem dateRangeCondition_congr :
    dateRangeCondition rt first attempt = dateRangeCondition rt second attempt := by
  refine eq_of_objects (dateRangeCondition rt · attempt) (fun _ => false) equal ?_ ?_
  · intro value plain
    cases value with
    | obj fields => exact absurd rfl (plain fields)
    | _ => rfl
  · rintro fields others rfl rfl
    have same := Json.get_pyEq distinct distinct' equal
    simp only [dateRangeCondition, Json.truthy_of_pyEq (same _), Json.text_of_pyEq (same _),
      Json.isNull_of_pyEq (same _)]

omit distinct distinct' equal in
theorem matchesAny_congr (caller : IpAddress) {entries others : List Json}
    (same : List.Forall₂ (fun entry other => entry.pyEq other) entries others) :
    matchesAny caller entries = matchesAny caller others := by
  induction same with
  | nil => rfl
  | @cons entry other entries others equal _ ih =>
      have sameEntry : matchesEntry caller entry = matchesEntry caller other := by
        have sameText := Json.text_of_pyEq equal
        cases entry <;> cases other <;> simp_all [Json.text, matchesEntry]
      rw [matchesAny, matchesAny, sameEntry, ih]

theorem networkCondition_congr :
    networkCondition first attempt = networkCondition second attempt := by
  refine eq_of_objects (networkCondition · attempt) (fun _ => false) equal ?_ ?_
  · intro value plain
    cases value with
    | obj fields => exact absurd rfl (plain fields)
    | _ => rfl
  · rintro fields others rfl rfl
    have same := Json.get_pyEq distinct distinct' equal "allowed_ips"
    simp only [networkCondition]
    generalize Dict.get fields "allowed_ips" = allowed at same ⊢
    generalize Dict.get others "allowed_ips" = allowed' at same ⊢
    cases allowed with
    | arr entries =>
        obtain ⟨entries', rfl, sameEntries⟩ := Json.arr_pyEq.mp same
        simp only [matchesAny_congr _ sameEntries]
    | null => rw [Json.pyEq_null.mp same]
    | str => rw [Json.str_pyEq.mp same]
    | obj =>
        obtain ⟨_, rfl, _⟩ := Json.obj_pyEq.mp same
        rfl
    | bool | int | float =>
        rw [Json.pyEq_iff_number rfl] at same
        cases allowed' <;> first | rfl | cases same

end Handlers

/-- A condition is satisfied by the same attempts as one that equals it. -/
theorem satisfies_congr {key : String} {first second : Json}
    (distinct : first.distinctKeys = true) (distinct' : second.distinctKeys = true)
    (equal : first.pyEq second = true) (attempt : Attempt) :
    satisfies rt attempt (key, first) = satisfies rt attempt (key, second) := by
  unfold satisfies
  cases found : conditionRegistry rt key with
  | none => rfl
  | some handler =>
      dsimp only
      unfold conditionRegistry at found
      split at found <;> cases found
      · exact selfOnlyCondition_congr equal attempt
      · exact resourceAttributesCondition_congr distinct distinct' equal attempt
      · exact contextAttributesCondition_congr distinct distinct' equal attempt
      · exact timeCondition_congr distinct distinct' equal attempt
      · exact dateRangeCondition_congr distinct distinct' equal attempt
      · exact networkCondition_congr distinct distinct' equal attempt
      · exact securityContextCondition_congr distinct distinct' equal attempt

/-- Two policies that differ at most in how equal conditions are written. -/
structure Policy.Equal (policy other : Policy rt) : Prop where
  actions : policy.actions = other.actions
  resourceType : policy.resourceType = other.resourceType
  block : (Json.obj policy.block).pyEq (.obj other.block) = true

theorem Policy.Equal.satisfied {policy other : Policy rt} (equal : policy.Equal other)
    (attempt : Attempt) : policy.Satisfied attempt ↔ other.Satisfied attempt := by
  have same := Json.all_of_pyEq policy.distinct other.distinct equal.block
    (fun key value => satisfies rt attempt (key, value))
    fun key value other apart apart' same => satisfies_congr apart apart' same attempt
  rw [Bool.eq_iff_iff, List.all_eq_true, List.all_eq_true] at same
  exact same

theorem Policy.Equal.appliesTo {policy other : Policy rt} (equal : policy.Equal other)
    (action resourceType : String) :
    policy.AppliesTo action resourceType ↔ other.AppliesTo action resourceType := by
  rw [Policy.AppliesTo, Policy.AppliesTo, equal.actions, equal.resourceType]

/-- Equal policies decide every request alike. -/
theorem evaluate_congr {policies others : List (Policy rt)}
    (equal : List.Forall₂ Policy.Equal policies others) (action resourceType : String)
    (attempt : Attempt) :
    evaluate policies action resourceType attempt =
      evaluate others action resourceType attempt := by
  rw [Bool.eq_iff_iff, evaluate_eq_true, evaluate_eq_true]
  induction equal with
  | nil => rfl
  | cons head _ ih =>
      simp only [List.exists_mem_cons_iff, ih, head.satisfied, head.appliesTo]

/-- For one company, its fields in either order and the number as a float or not. -/
def ofCompany (asFloat : Bool) : Policy utcRuntime where
  name := "of_company"
  actions := ["company:read"]
  resourceType := "company"
  conditions := some [("resource_attributes", .obj (if asFloat then
    [("company_id", .float 7), ("sector", .str "energy")]
    else [("sector", .str "energy"), ("company_id", .int 7)]))]
  accepted := by cases asFloat <;> rfl
  distinct := by cases asFloat <;> decide

theorem evaluate_congr_ofCompany :
    evaluate [ofCompany false] "company:read" "company"
        ⟨"ada@example.com", some [("company_id", .int 7), ("sector", .str "energy")], none, epoch⟩ =
      evaluate [ofCompany true] "company:read" "company"
        ⟨"ada@example.com", some [("company_id", .int 7), ("sector", .str "energy")], none,
          epoch⟩ :=
  evaluate_congr (.cons ⟨rfl, rfl, by decide +kernel⟩ .nil) _ _ _

end BalanceSheetAnalysis.Authorization

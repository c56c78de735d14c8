import BalanceSheetAnalysis.Authorization.Validator

/-! The policy evaluation engine: default deny, allow when one applicable policy
has all its conditions satisfied. -/
namespace BalanceSheetAnalysis.Authorization
open Library

structure AuthorizationDecision where
  allowed : Bool
  action : String
  resourceType : String
  user : String
  evaluatedPolicies : List String
  matchedPolicies : List String
  rejectedPolicies : List String
  failedConditions : List (String × List String)
  denialReason : Option String
  evaluationTimestamp : String

/-- What the loop over the policies has collected so far. -/
structure Tally where
  matchedPolicies : List String
  rejectedPolicies : List String
  failedConditions : List (String × List String)

/-- `failed_conditions[name] = keys`. -/
def setFailedKeys (failed : List (String × List String)) (name : String) (keys : List String) :
    List (String × List String) :=
  if failed.any (·.1 == name) then
    failed.map fun entry => if entry.1 == name then (name, keys) else entry
  else failed ++ [(name, keys)]

variable {rt : Runtime}

/-- Resource type matches, or the policy is resource-agnostic, and the action
is one of the policy's. -/
def Policy.AppliesTo (policy : Policy rt) (action resourceType : String) : Prop :=
  (policy.resourceType = resourceType ∨ policy.resourceType = "*") ∧ action ∈ policy.actions

instance (policy : Policy rt) (action resourceType : String) :
    Decidable (policy.AppliesTo action resourceType) :=
  inferInstanceAs (Decidable (_ ∧ _))

/-- Every condition of the block holds of the attempt. -/
def Policy.Satisfied (policy : Policy rt) (attempt : Attempt) : Prop :=
  ∀ condition ∈ policy.block, satisfies rt attempt condition = true

instance (policy : Policy rt) (attempt : Attempt) : Decidable (policy.Satisfied attempt) :=
  inferInstanceAs (Decidable (∀ condition ∈ _, _))

def considerPolicy (action resourceType : String) (attempt : Attempt) (tally : Tally)
    (policy : Policy rt) : Tally :=
  if ¬policy.AppliesTo action resourceType then tally
  else
    let result := evaluateConditions rt policy.conditions attempt
    if result.satisfied then
      { tally with matchedPolicies := tally.matchedPolicies ++ [policy.name] }
    else
      { tally with
        rejectedPolicies := tally.rejectedPolicies ++ [policy.name]
        failedConditions := setFailedKeys tally.failedConditions policy.name result.failedKeys }

/-- `_denial_reason`, asked only when access is denied. -/
def denialReason (evaluatedPolicies rejectedPolicies : List String) : String :=
  if evaluatedPolicies.isEmpty then "no_assigned_policies"
  else if rejectedPolicies.isEmpty then "no_matching_policy"
  else "condition_failed"

/-- `PolicyEvaluationEngine.evaluate_detailed`. -/
def evaluateDetailed (policies : List (Policy rt)) (action resourceType : String)
    (attempt : Attempt) : AuthorizationDecision :=
  let evaluatedPolicies := policies.map Policy.name
  let tally := policies.foldl (considerPolicy action resourceType attempt) ⟨[], [], []⟩
  let allowed := decide (tally.matchedPolicies.length > 0)
  { allowed, action, resourceType
    user := attempt.userEmail
    evaluatedPolicies
    matchedPolicies := tally.matchedPolicies
    rejectedPolicies := tally.rejectedPolicies
    failedConditions := tally.failedConditions
    denialReason :=
      if allowed then none else some (denialReason evaluatedPolicies tally.rejectedPolicies)
    evaluationTimestamp := rt.isoformat attempt.now }

/-- `PolicyEvaluationEngine.evaluate`. -/
def evaluate (policies : List (Policy rt)) (action resourceType : String)
    (attempt : Attempt) : Bool :=
  (evaluateDetailed policies action resourceType attempt).allowed

theorem considerPolicy_matched (action resourceType : String) (attempt : Attempt)
    (tally : Tally) (policy : Policy rt) :
    (considerPolicy action resourceType attempt tally policy).matchedPolicies =
      tally.matchedPolicies ++
        if policy.AppliesTo action resourceType ∧ policy.Satisfied attempt then [policy.name]
        else [] := by
  have satisfied := evaluateConditions_satisfied rt policy.conditions attempt
  unfold considerPolicy
  by_cases applies : policy.AppliesTo action resourceType
  · by_cases holds : policy.Satisfied attempt
    · simp [applies, holds, satisfied.mpr holds]
    · simp [applies, holds, mt satisfied.mp holds]
  · simp [applies]

/-- The loop collects the applicable policies whose conditions hold, in order. -/
theorem foldl_considerPolicy_matched (action resourceType : String) (attempt : Attempt)
    (policies : List (Policy rt)) (tally : Tally) :
    (policies.foldl (considerPolicy action resourceType attempt) tally).matchedPolicies =
      tally.matchedPolicies ++ (policies.filter fun policy =>
        policy.AppliesTo action resourceType ∧ policy.Satisfied attempt).map Policy.name := by
  induction policies generalizing tally with
  | nil => simp
  | cons policy policies ih =>
      rw [List.foldl_cons, ih, considerPolicy_matched, List.append_assoc]
      congr 1
      by_cases grants : policy.AppliesTo action resourceType ∧ policy.Satisfied attempt
      · simp [grants]
      · rw [List.filter_cons_of_neg (by simpa using grants), if_neg grants, List.nil_append]

theorem evaluate_eq_true {policies : List (Policy rt)} {action resourceType : String}
    {attempt : Attempt} :
    evaluate policies action resourceType attempt = true ↔
      ∃ policy ∈ policies, policy.AppliesTo action resourceType ∧ policy.Satisfied attempt := by
  simp [evaluate, evaluateDetailed, foldl_considerPolicy_matched, List.length_pos_iff]

/-! What a decision tells about the attempt. -/

end BalanceSheetAnalysis.Authorization

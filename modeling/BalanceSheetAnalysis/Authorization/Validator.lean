import BalanceSheetAnalysis.Authorization.Conditions

/-! `validate_conditions`, the check a `conditions` block passes before a policy
is stored, and policies as the rest of the application meets them: stored, so
already checked. -/
namespace BalanceSheetAnalysis.Authorization
open Library

/-- One problem `validate_conditions` reports, with what its message names. -/
inductive ConditionError where
  | unknownKey (key : String)
  | notBoolean (key : String)
  | notObject (key : String)
  | notNonEmptyObject (key : String)
  | timeBoundNotString (bound : String)
  | timeInvalid (bound : String) (raw : String)
  | timezoneInvalid (timezone : Json)
  | dateRangeUnbounded
  | dateBoundNotString (bound : String)
  | dateInvalid (bound : String) (raw : String)
  | allowedIpsEmpty
  | allowedIpNotString (entry : Json)
  | allowedIpInvalid (entry : String)

section Validators
variable (rt : Runtime)

def validateSelfOnly : Json → List ConditionError
  | .bool _ => []
  | _ => [.notBoolean "self_only"]

/-- Shared by the three keys whose value is a map of expected values. -/
def validateExpectations (key : String) : Json → List ConditionError
  | .obj (_ :: _) => []
  | _ => [.notNonEmptyObject key]

def validateResourceAttributes : Json → List ConditionError :=
  validateExpectations "resource_attributes"

def validateContextAttributes : Json → List ConditionError :=
  validateExpectations "context_attributes"

def validateSecurityContext : Json → List ConditionError :=
  validateExpectations "security_context"

def validateTimeBound (fields : Dict) (bound : String) : List ConditionError :=
  match (fields.get bound).text with
  | none => [.timeBoundNotString bound]
  | some raw => if (rt.timeFromIsoformat raw).isSome then [] else [.timeInvalid bound raw]

def validateTimezone (timezone : Json) : List ConditionError :=
  if timezone.isNull then []
  else match timezone.text with
    | some name => if rt.availableTimezones name then [] else [.timezoneInvalid timezone]
    | none => [.timezoneInvalid timezone]

def validateTime : Json → List ConditionError
  | .obj fields =>
      validateTimeBound rt fields "start" ++ validateTimeBound rt fields "end" ++
        validateTimezone rt (Dict.get fields "timezone")
  | _ => [.notObject "time"]

def validateDateBound (fields : Dict) (bound : String) : List ConditionError :=
  if (fields.get bound).isNull then []
  else match (fields.get bound).text with
    | none => [.dateBoundNotString bound]
    | some raw => if (rt.dateFromIsoformat raw).isSome then [] else [.dateInvalid bound raw]

def validateDateRange : Json → List ConditionError
  | .obj fields =>
      if (Dict.get fields "start").isNull && (Dict.get fields "end").isNull then
        [.dateRangeUnbounded]
      else validateDateBound rt fields "start" ++ validateDateBound rt fields "end"
  | _ => [.notObject "date_range"]

def validateAllowedIp : Json → List ConditionError
  | .str entry =>
      let valid := if '/' ∈ entry.toList then (IpNetwork.ofText entry.toList).isSome
        else (IpAddress.ofText entry.toList).isSome
      if valid then [] else [.allowedIpInvalid entry]
  | entry => [.allowedIpNotString entry]

def validateNetwork : Json → List ConditionError
  | .obj fields =>
      match Dict.get fields "allowed_ips" with
      | .arr (entry :: entries) => (entry :: entries).flatMap validateAllowedIp
      | _ => [.allowedIpsEmpty]
  | _ => [.notObject "network"]

/-- `_VALIDATORS`. -/
def validators (key : String) : Option (Json → List ConditionError) :=
  match key with
  | "self_only" => some validateSelfOnly
  | "resource_attributes" => some validateResourceAttributes
  | "context_attributes" => some validateContextAttributes
  | "security_context" => some validateSecurityContext
  | "time" => some (validateTime rt)
  | "date_range" => some (validateDateRange rt)
  | "network" => some validateNetwork
  | _ => none

def conditionErrors (condition : String × Json) : List ConditionError :=
  match validators rt condition.1 with
  | none => [.unknownKey condition.1]
  | some validator => validator condition.2

/-- Reports every problem of the block, not just the first. -/
def validateConditions (conditions : Option Dict) : Except (List ConditionError) Unit :=
  match (conditions.getD []).flatMap (conditionErrors rt) with
  | [] => .ok ()
  | errors => .error errors

theorem validateConditions_ok {conditions : Option Dict} :
    validateConditions rt conditions = .ok () ↔
      ∀ condition ∈ conditions.getD [], conditionErrors rt condition = [] := by
  rw [← List.flatMap_eq_nil_iff]
  unfold validateConditions
  split
  · rename_i accepted
    exact iff_of_true rfl accepted
  · rename_i rejected
    exact iff_of_false nofun rejected

end Validators

/-- A policy as stored: its conditions were accepted when it was written, and
being JSON they repeat no key. -/
structure Policy (rt : Runtime) where
  name : String
  actions : List String
  resourceType : String
  conditions : Option Dict
  accepted : validateConditions rt conditions = .ok ()
  distinct : (Json.obj (conditions.getD [])).distinctKeys = true

namespace Policy
variable {rt : Runtime} (policy : Policy rt)

/-- The entries of the conditions block; an absent block has none. -/
def block : Dict := policy.conditions.getD []

theorem block_keys_nodup : (policy.block.map Prod.fst).Nodup := by
  have := policy.distinct
  simp only [Json.distinctKeys, Bool.and_eq_true, decide_eq_true_eq] at this
  exact this.1

theorem block_accepted {condition : String × Json} (member : condition ∈ policy.block) :
    conditionErrors rt condition = [] :=
  (validateConditions_ok rt).mp policy.accepted condition member

/-- The keys `validate_conditions` lets through are those with a handler. -/
theorem block_key_registered {key : String} {value : Json}
    (member : (key, value) ∈ policy.block) : (validators rt key).isSome := by
  have accepted := policy.block_accepted member
  unfold conditionErrors at accepted
  cases known : validators rt key with
  | none => simp [known] at accepted
  | some _ => rfl

/-- The value of an expectation key is an object with at least one field, no
field twice. -/
theorem block_expectations {key : String} {value : Json}
    (isExpectation : validators rt key = some (validateExpectations key))
    (member : (key, value) ∈ policy.block) :
    ∃ fields : Dict, value = .obj fields ∧ fields ≠ [] ∧ (fields.map Prod.fst).Nodup := by
  have accepted := policy.block_accepted member
  have distinct := policy.distinct
  simp only [Json.distinctKeys, Bool.and_eq_true] at distinct
  have inner := Json.distinctKeys_of_mem distinct.2 member
  simp only [conditionErrors, isExpectation] at accepted
  cases value with
  | obj fields =>
      refine ⟨fields, rfl, ?_, ?_⟩
      · rintro rfl
        simp [validateExpectations] at accepted
      · simp only [Json.distinctKeys, Bool.and_eq_true, decide_eq_true_eq] at inner
        exact inner.1
  | _ => simp [validateExpectations] at accepted

end Policy

end BalanceSheetAnalysis.Authorization

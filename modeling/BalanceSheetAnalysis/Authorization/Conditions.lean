import BalanceSheetAnalysis.Authorization.Runtime
import BalanceSheetAnalysis.Library.Json
import BalanceSheetAnalysis.Library.IpAddress

/-! The condition handlers and the service that dispatches to them.  A policy
grants when every key of its `conditions` block is satisfied. -/
namespace BalanceSheetAnalysis.Authorization
open Library

/-- `context: dict | None` of an authorization call.  `security_context` is a
reserved key whose value is always a dict. -/
structure Context where
  entries : Dict
  distinct : (entries.map Prod.fst).Nodup
  securityContext : Option Dict

def Context.get (context : Context) (key : String) : Json :=
  if key = "security_context" then (context.securityContext.map Json.obj).getD .null
  else context.entries.get key

/-- `(context or {}).get(key)`. -/
def contextGet (context : Option Context) (key : String) : Json :=
  match context with
  | some context => context.get key
  | none => .null

/-- What one authorization check is about, beside action and resource type.
`now` is what the server clock shows during the check. -/
structure Attempt where
  userEmail : String
  resource : Option Dict
  context : Option Context
  now : ServerTime

section Handlers
variable (rt : Runtime)

/-- The wall clock in `tz`, unless the context carries an override; a naive
override is read as UTC. -/
def resolveCurrentDatetime (now : ServerTime) (context : Option Context) (tz : rt.Zone) :
    Option (Int × PyTime) :=
  let override := contextGet context "current_time"
  if override.truthy then do
    let text ← override.text
    let parsed ← rt.datetimeFromIsoformat text
    rt.astimezone (parsed.wall - parsed.utcOffset.getD 0) tz
  else rt.astimezone now tz

def selfOnlyCondition (value : Json) (attempt : Attempt) : Bool :=
  if !value.truthy then true
  else match attempt.resource with
    | none => false
    | some resource => (resource.get "email").pyEq (.str attempt.userEmail)

/-- `validate_conditions` lets only a non-empty object through. -/
def resourceAttributesCondition (value : Json) (attempt : Attempt) : Bool :=
  if !value.truthy then true
  else match attempt.resource, value with
    | some resource, .obj expected =>
        expected.all fun (field, wanted) => (resource.get field).pyEq wanted
    | _, _ => false

def contextAttributesCondition (value : Json) (attempt : Attempt) : Bool :=
  if !value.truthy then true
  else match attempt.context, value with
    | some context, .obj expected =>
        expected.all fun (key, wanted) => (context.get key).pyEq wanted
    | _, _ => false

def securityContextCondition (value : Json) (attempt : Attempt) : Bool :=
  if !value.truthy then true
  else match attempt.context.bind Context.securityContext, value with
    | some security, .obj expected =>
        !security.isEmpty && expected.all fun (key, wanted) =>
          match security.find? key with
          | some actual => actual.pyEq wanted
          | none => false
    | _, _ => false

/-- `except Exception: return False`. -/
def failSafe : Option Bool → Bool
  | some satisfied => satisfied
  | none => false

def timeCondition (value : Json) (attempt : Attempt) : Bool :=
  failSafe do
    let .obj fields := value | none
    let startStr := Dict.get fields "start"
    let endStr := Dict.get fields "end"
    if !startStr.truthy || !endStr.truthy then return false
    let timezone := Dict.get fields "timezone"
    let tz ← rt.zoneInfo (← if timezone.truthy then timezone.text else some "UTC")
    let start ← rt.timeFromIsoformat (← startStr.text)
    let finish ← rt.timeFromIsoformat (← endStr.text)
    let current := (← resolveCurrentDatetime rt attempt.now attempt.context tz).2
    if ← start.le finish then
      return (← start.le current) && (← current.le finish)
    -- An overnight range wraps past midnight.
    return (← start.le current) || (← current.le finish)

def dateRangeCondition (value : Json) (attempt : Attempt) : Bool :=
  failSafe do
    let .obj fields := value | none
    let startStr := Dict.get fields "start"
    let endStr := Dict.get fields "end"
    if startStr.isNull && endStr.isNull then return false
    let tz ← rt.zoneInfo "UTC"
    let currentDate := (← resolveCurrentDatetime rt attempt.now attempt.context tz).1
    if startStr.truthy then
      if currentDate < (← rt.dateFromIsoformat (← startStr.text)) then return false
    if endStr.truthy then
      return !(currentDate > (← rt.dateFromIsoformat (← endStr.text)))
    return true

/-- `ipaddress.ip_address` of a JSON value: texts and integers are addresses. -/
def callerAddress : Json → Option IpAddress
  | .str text => IpAddress.ofText text.toList
  | .int value => IpAddress.ofInt value
  | .bool value => IpAddress.ofInt (if value then 1 else 0)
  | _ => none

/-- One entry of `allowed_ips`; `none` when it is no address or range. -/
def matchesEntry (caller : IpAddress) : Json → Option Bool
  | .str entry =>
      if '/' ∈ entry.toList then (IpNetwork.ofText entry.toList).map (·.contains caller)
      else (IpAddress.ofText entry.toList).map (caller = ·)
  | _ => none

/-- The loop over `allowed_ips`: the first match grants, a malformed entry
before it denies. -/
def matchesAny (caller : IpAddress) : List Json → Bool
  | [] => false
  | entry :: entries =>
      match matchesEntry caller entry with
      | none => false
      | some true => true
      | some false => matchesAny caller entries

def networkCondition (value : Json) (attempt : Attempt) : Bool :=
  match value with
  | .obj fields =>
      match Dict.get fields "allowed_ips" with
      | .arr entries =>
          let callerIp := contextGet attempt.context "ip_address"
          if !callerIp.truthy then false
          else match callerAddress callerIp with
            | some caller => matchesAny caller entries
            | none => false
      | _ => false
  | _ => false

/-- `default_condition_registry`. -/
def conditionRegistry (key : String) : Option (Json → Attempt → Bool) :=
  match key with
  | "self_only" => some selfOnlyCondition
  | "resource_attributes" => some resourceAttributesCondition
  | "context_attributes" => some contextAttributesCondition
  | "time" => some (timeCondition rt)
  | "date_range" => some (dateRangeCondition rt)
  | "network" => some networkCondition
  | "security_context" => some securityContextCondition
  | _ => none

/-- An unrecognized key counts as failed. -/
def satisfies (attempt : Attempt) (condition : String × Json) : Bool :=
  match conditionRegistry rt condition.1 with
  | some handler => handler condition.2 attempt
  | none => false

structure ConditionResult where
  satisfied : Bool
  failedKeys : List String

/-- `ConditionEvaluationService.evaluate_detailed`: every key is checked, so
that every failing key is reported. -/
def evaluateConditions (conditions : Option Dict) (attempt : Attempt) : ConditionResult :=
  let failedKeys := ((conditions.getD []).filter fun condition =>
    !satisfies rt attempt condition).map Prod.fst
  { satisfied := failedKeys.isEmpty, failedKeys }

theorem evaluateConditions_satisfied (conditions : Option Dict) (attempt : Attempt) :
    (evaluateConditions rt conditions attempt).satisfied = true ↔
      ∀ condition ∈ conditions.getD [], satisfies rt attempt condition = true := by
  simp [evaluateConditions, List.filter_eq_nil_iff]

end Handlers

end BalanceSheetAnalysis.Authorization

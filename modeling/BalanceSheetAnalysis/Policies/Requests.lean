import BalanceSheetAnalysis.Library.Raising
import BalanceSheetAnalysis.Policies.Store

/-! The routes that change policies and who holds them.  Each checks that the
caller may use it, and that the caller holds what it hands out. -/
namespace BalanceSheetAnalysis.Policies
open Library Library.Raising
open Authorization hiding Policy PolicyUpdate

variable {rt : Runtime}

inductive Failure where
  | httpException (status : Nat) (detail : String)
  | unprocessable (errors : List ConditionError)
  | exception

abbrev Request (rt : Runtime) (α : Type) := ExceptT Failure (Program (@Reply rt)) α

/-! The cache and the repository. -/

def getActivePoliciesForUser (userEmail : String) (loaded : Option (Policy rt)) :
    Request rt (List (Authorization.Policy rt)) := do
  match ← issue (Command.getUserPolicies userEmail) with
  | some cached => return cached
  | none =>
      let policies ← issue (Command.selectActivePolicies userEmail loaded)
      issue (Command.setUserPolicies userEmail policies)
      return policies

/-- Whether all went well; the first command that fails ends it. -/
def deleteKeys : List String → Request rt Bool
  | [] => return true
  | key :: keys => do if ← issue (Command.deleteKey key) then deleteKeys keys else return false

def deletePages : List Nat → Request rt Unit
  | [] => return ()
  | page :: pages => do
      match ← issue (Command.scanKeys page) with
      | none => return ()
      | some keys => if ← deleteKeys keys then deletePages pages else return ()

def invalidateAllUserPolicies (keyspace : Keyspace) : Request rt Unit :=
  deletePages (List.range keyspace.pages)

/-- `refresh` raises where the row is gone. -/
def refreshed (policyId : Int) : Request rt (Policy rt) := do
  match ← issue (Command.refreshPolicy policyId) with
  | some policy => return policy
  | none => throw .exception

def create (definition : Definition rt) (changedBy : String) : Request rt (Policy rt) := do
  match ← issue (Command.insertPolicy definition changedBy) with
  | .error _ => throw .exception
  | .ok policyId => refreshed policyId

def update (keyspace : Keyspace) (policy : Policy rt) (new : Definition rt) (change : Change) :
    Request rt (Policy rt) := do
  match ← issue (Command.updatePolicy policy new change) with
  | .error _ => throw .exception
  | .ok () =>
      let policy ← refreshed policy.id
      invalidateAllUserPolicies keyspace
      return policy

def delete (keyspace : Keyspace) (policy : Policy rt) (changedBy : String)
    (changeReason : Option String) : Request rt Unit := do
  issue (Command.deletePolicy policy changedBy changeReason)
  invalidateAllUserPolicies keyspace

/-- Whoever holds the policy already is left as is. -/
def assign (userId policyId : Int) (assignedBy userEmail : String) : Request rt Unit := do
  if ← issue (Command.selectUserPolicy userId policyId) then return ()
  else
    match ← issue (Command.insertUserPolicy ⟨userId, policyId, some assignedBy⟩) with
    | .error _ => throw .exception
    | .ok () =>
        if ← issue (Command.selectUserPolicy userId policyId) then
          let _ ← issue (Command.deleteKey userEmail)
          return ()
        else throw .exception

def remove (userId policyId : Int) (userEmail : String) : Request rt Bool := do
  if ← issue (Command.selectUserPolicy userId policyId) then
    issue (Command.deleteUserPolicy userId policyId)
    let _ ← issue (Command.deleteKey userEmail)
    return true
  else return false

/-! The authorization service. -/

/-- `Permission`. -/
def knownSensitiveActions : List String :=
  ["users:read_own", "users:update_own", "users:list_all", "users:update_any", "users:delete_any",
    "users:assign_role", "users:reactivate", "users:assign_system_role", "users:purge",
    "policies:read", "policies:create", "policies:update", "policies:delete", "policies:assign",
    "policies:revoke", "security_audit:read"]

def authorize (userEmail action resourceType : String) (context : Option Context)
    (loaded : Option (Policy rt)) : Request rt Bool := do
  let policies ← getActivePoliciesForUser userEmail loaded
  let now ← issue Command.now
  return evaluate policies action resourceType ⟨userEmail, none, context, now⟩

/-- The signed-in user, and what is known of the connection. -/
structure Caller where
  email : String
  context : Context

def requireAuthorization (caller : Caller) (action : String) : Request rt Unit := do
  if ← authorize caller.email action "policies" (some caller.context) none then return ()
  else throw (.httpException 403 "Insufficient permissions")

/-- `loaded` is the policy that the route is about. -/
def assertAuthorizedToGrant (callerEmail : String) (loaded : Option (Policy rt)) :
    (actions : List String) → (resourceType : String) → Request rt Unit
  | [], _ => return ()
  | action :: actions, resourceType => do
      if action ∈ knownSensitiveActions then
        if ← authorize callerEmail action resourceType none loaded then
          assertAuthorizedToGrant callerEmail loaded actions resourceType
        else
          throw (.httpException 403
            s!"Cannot grant action '{action}': you do not hold it yourself")
      else assertAuthorizedToGrant callerEmail loaded actions resourceType

/-! The routes. -/

def protectedPolicyNames : List String :=
  ["self_service", "user_administration", "system_superuser"]

def systemSuperuserPolicyName : String := "system_superuser"

/-- A conditions block as it comes in; being JSON it repeats no key. -/
abbrev IncomingConditions := { conditions : Option Dict //
  (Json.obj (conditions.getD [])).distinctKeys = true }

def asIncoming (conditions : StoredConditions rt) : IncomingConditions :=
  ⟨conditions.val, conditions.property.2⟩

def checkedConditions (incoming : IncomingConditions) : Request rt (StoredConditions rt) :=
  match accepted : validateConditions rt incoming.val with
  | .ok () => return ⟨incoming.val, accepted, incoming.property⟩
  | .error errors => throw (.unprocessable errors)

structure PolicyCreate where
  name : String
  description : Option String
  actions : List String
  resourceType : String
  conditions : IncomingConditions

/-- The fields that are set, some of them to null. -/
structure PolicyUpdate where
  name : Option (Option String)
  description : Option (Option String)
  actions : Option (Option (List String))
  resourceType : Option (Option String)
  conditions : Option IncomingConditions
  isActive : Option (Option Bool)
  changeReason : Option String

def raiseIf (condition : Prop) [Decidable condition] (failure : Failure) : Request rt Unit :=
  if condition then throw failure else return ()

def getOr404 {α : Type} (found : Option α) (detail : String) : Request rt α :=
  match found with
  | some value => return value
  | none => throw (.httpException 404 detail)

def alreadyExists (name : String) : Failure :=
  .httpException 409 s!"A policy named '{name}' already exists"

def createPolicy (caller : Caller) (data : PolicyCreate) : Request rt (Policy rt) := do
  requireAuthorization caller "policies:create"
  let conditions ← checkedConditions data.conditions
  let existing ← issue (Command.selectPolicy data.name)
  raiseIf (existing.isSome = true) (alreadyExists data.name)
  assertAuthorizedToGrant caller.email none data.actions data.resourceType
  create ⟨data.name, data.description, data.actions, data.resourceType, conditions, true⟩
    caller.email

/-- A null in a column that takes none fails the UPDATE. -/
def notNull {α : Type} (old : α) : Option (Option α) → Request rt α
  | none => return old
  | some (some value) => return value
  | some none => throw .exception

def notRenamed (name : String) : Failure :=
  .httpException 403 s!"Baseline policy '{name}' cannot be renamed"

/-- The checks of a rename; null is a name no policy has. -/
def checkedName (policy : Policy rt) (name : Option (Option String)) : Request rt Unit :=
  let old := policy.definition.name
  match name with
  | none => return ()
  | some none => raiseIf (old ∈ protectedPolicyNames) (notRenamed old)
  | some (some name) =>
      if name = old then return ()
      else do
        raiseIf (old ∈ protectedPolicyNames) (notRenamed old)
        let existing ← issue (Command.selectPolicy name)
        raiseIf (existing.isSome = true) (alreadyExists name)

def checkedActive (policy : Policy rt) (isActive : Option (Option Bool)) : Request rt Unit :=
  raiseIf (policy.definition.name ∈ protectedPolicyNames ∧ isActive = some (some false))
    (.httpException 403 s!"Baseline policy '{policy.definition.name}' cannot be deactivated")

def PolicyUpdate.sets (data : PolicyUpdate) : Field → Bool
  | .name => data.name.isSome
  | .description => data.description.isSome
  | .actions => data.actions.isSome
  | .resourceType => data.resourceType.isSome
  | .conditions => data.conditions.isSome
  | .isActive => data.isActive.isSome

/-- `changed_fields`, of the fields that are set. -/
def changedFields (fields : List Field) (loaded new : Definition rt) : List String :=
  (fields.filter (Field.differs loaded new)).map Field.column

def newConditions (old : Definition rt) :
    Option IncomingConditions → Request rt (StoredConditions rt)
  | none => return old.conditions
  | some incoming => checkedConditions incoming

/-- What the policy grants is checked only where the update touches it. -/
def checkedGrant (callerEmail : String) (policy : Policy rt) (data : PolicyUpdate)
    (actions : List String) (resourceType : String) : Request rt Unit :=
  if data.actions.isSome ∨ data.resourceType.isSome then
    assertAuthorizedToGrant callerEmail (some policy) actions resourceType
  else return ()

def updatePolicy (keyspace : Keyspace) (caller : Caller) (policyName : String)
    (data : PolicyUpdate) : Request rt (Policy rt) := do
  requireAuthorization caller "policies:update"
  let policy ← getOr404 (← issue (Command.selectPolicy policyName)) "Policy not found"
  let old := policy.definition
  let conditions ← newConditions old data.conditions
  checkedName policy data.name
  checkedActive policy data.isActive
  let actions ← notNull old.actions data.actions
  let resourceType ← notNull old.resourceType data.resourceType
  checkedGrant caller.email policy data actions resourceType
  let name ← notNull old.name data.name
  let isActive ← notNull old.isActive data.isActive
  let new : Definition rt :=
    ⟨name, data.description.getD old.description, actions, resourceType, conditions, isActive⟩
  update keyspace policy new
    ⟨.updated, changedFields (Field.all.filter data.sets) old new, caller.email, data.changeReason⟩

def deletePolicy (keyspace : Keyspace) (caller : Caller) (policyName : String)
    (reason : Option String) : Request rt Unit := do
  requireAuthorization caller "policies:delete"
  let policy ← getOr404 (← issue (Command.selectPolicy policyName)) "Policy not found"
  raiseIf (policyName ∈ protectedPolicyNames)
    (.httpException 403 s!"Baseline policy '{policyName}' cannot be deleted")
  delete keyspace policy caller.email reason

def assignPolicyToUser (caller : Caller) (userEmail policyName : String) : Request rt Unit := do
  requireAuthorization caller "policies:assign"
  let user ← getOr404 (← issue (Command.selectUser userEmail)) "User not found"
  let policy ← getOr404 (← issue (Command.selectPolicy policyName)) "Policy not found"
  assertAuthorizedToGrant caller.email (some policy) policy.definition.actions
    policy.definition.resourceType
  assign user.1 policy.id caller.email user.2

/-- Without a holder of `system_superuser` no one could manage policies. -/
def checkedHolders (policyName : String) (policyId : Int) : Request rt Unit :=
  if policyName = systemSuperuserPolicyName then do
    let holders ← issue (Command.countAssignments policyId)
    raiseIf (holders ≤ 1) (.httpException 409
      "Cannot remove the last remaining assignment of 'system_superuser'")
  else return ()

def removePolicyFromUser (caller : Caller) (userEmail policyName : String) : Request rt Unit := do
  requireAuthorization caller "policies:revoke"
  let user ← getOr404 (← issue (Command.selectUser userEmail)) "User not found"
  let policy ← getOr404 (← issue (Command.selectPolicy policyName)) "Policy not found"
  checkedHolders policyName policy.id
  let removed ← remove user.1 policy.id user.2
  raiseIf (removed = false)
    (.httpException 404 s!"{userEmail} does not hold policy '{policyName}'")

/-- The definition as of an entry: for a deletion, the one that was deleted. -/
def definitionForEntry (entry : PolicyHistory rt) : Option (Definition rt) :=
  entry.newDefinition <|> entry.previousDefinition

/-- The order in which JSONB keeps the keys of a definition. -/
def jsonbFields : List Field :=
  [.name, .actions, .isActive, .conditions, .description, .resourceType]

def rollbackPolicy (keyspace : Keyspace) (caller : Caller) (policyName : String) (historyId : Int)
    (reason : Option String) : Request rt (Policy rt) := do
  requireAuthorization caller "policies:update"
  let policy ← getOr404 (← issue (Command.selectPolicy policyName)) "Policy not found"
  let found := (← issue (Command.selectHistory historyId)).filter (·.policyName = policyName)
  let entry ← getOr404 found "History entry not found for this policy"
  let old := policy.definition
  let changeReason := (reason.filter (· ≠ "")).getD s!"Rolled back to history entry {historyId}"
  match definitionForEntry entry with
  | none =>
      raiseIf (old.name ∈ protectedPolicyNames) (notRenamed old.name)
      update keyspace policy old ⟨.rolledBack, [], caller.email, some changeReason⟩
  | some target =>
      let conditions ← checkedConditions (asIncoming target.conditions)
      let new := { target with conditions }
      raiseIf (old.name ∈ protectedPolicyNames ∧ new.name ≠ old.name) (notRenamed old.name)
      checkedActive policy (some (some new.isActive))
      assertAuthorizedToGrant caller.email (some policy) new.actions new.resourceType
      update keyspace policy new
        ⟨.rolledBack, changedFields jsonbFields old new, caller.email, some changeReason⟩

structure Comparison (rt : Runtime) where
  fromDefinition : Option (Definition rt)
  toDefinition : Option (Definition rt)
  changedFields : List String

def namedFields : List Field :=
  [.actions, .conditions, .description, .isActive, .name, .resourceType]

/-- Both entries are of the policy, or the first that is not is an error. -/
def comparedEntry (policyName label : String) (entry : Option (PolicyHistory rt)) :
    Request rt (PolicyHistory rt) := do
  let entry ← getOr404 entry s!"History entry for '{label}' not found"
  raiseIf (entry.policyName ≠ policyName) (.httpException 400
    s!"History entry {entry.id} belongs to policy '{entry.policyName}', not '{policyName}'")
  return entry

/-- The fields in which two definitions differ, by name; one that is not there
differs from one that is in every field but those that are null. -/
def comparedFields : Option (Definition rt) → Option (Definition rt) → List String
  | some old, some new => changedFields namedFields old new
  | none, none => []
  | some definition, none | none, some definition =>
      (namedFields.filter fun field =>
        (field = .conditions → definition.conditions.val ≠ none) ∧
          (field = .description → definition.description ≠ none)).map Field.column

def comparePolicyHistory (caller : Caller) (policyName : String) (fromId toId : Int) :
    Request rt (Comparison rt) := do
  requireAuthorization caller "policies:read"
  let fromEntry ← issue (Command.selectHistory fromId)
  let toEntry ← issue (Command.selectHistory toId)
  let fromEntry ← comparedEntry policyName "from_id" fromEntry
  let toEntry ← comparedEntry policyName "to_id" toEntry
  return {
    fromDefinition := definitionForEntry fromEntry
    toDefinition := definitionForEntry toEntry
    changedFields := comparedFields (definitionForEntry fromEntry) (definitionForEntry toEntry) }

inductive AdminCall where
  | createPolicy (data : PolicyCreate)
  | updatePolicy (policyName : String) (data : PolicyUpdate)
  | deletePolicy (policyName : String) (reason : Option String)
  | assignPolicyToUser (userEmail policyName : String)
  | removePolicyFromUser (userEmail policyName : String)
  | rollbackPolicy (policyName : String) (historyId : Int) (reason : Option String)
  | comparePolicyHistory (policyName : String) (fromId toId : Int)

inductive AdminAnswer (rt : Runtime) where
  | policy (policy : Policy rt)
  | comparison (comparison : Comparison rt)
  | done

def AdminCall.run (keyspace : Keyspace) (caller : Caller) : AdminCall → Request rt (AdminAnswer rt)
  | .createPolicy data => .policy <$> Policies.createPolicy caller data
  | .updatePolicy policyName data =>
      .policy <$> Policies.updatePolicy keyspace caller policyName data
  | .deletePolicy policyName reason =>
      (fun _ => .done) <$> Policies.deletePolicy keyspace caller policyName reason
  | .assignPolicyToUser userEmail policyName =>
      (fun _ => .done) <$> Policies.assignPolicyToUser caller userEmail policyName
  | .removePolicyFromUser userEmail policyName =>
      (fun _ => .done) <$> Policies.removePolicyFromUser caller userEmail policyName
  | .rollbackPolicy policyName historyId reason =>
      .policy <$> Policies.rollbackPolicy keyspace caller policyName historyId reason
  | .comparePolicyHistory policyName fromId toId =>
      .comparison <$> Policies.comparePolicyHistory caller policyName fromId toId

end BalanceSheetAnalysis.Policies

import BalanceSheetAnalysis.Authorization.Evaluator
import BalanceSheetAnalysis.Authorization.PolicyRepository

/-! The tables that say who may do what, the history of every policy, and the
cache of what a user holds.  A change and its entry in the history are one commit. -/
namespace BalanceSheetAnalysis.Policies
open Library
open Authorization hiding PolicyRow

/-- `_definition_snapshot`: all that determines what a policy grants. -/
structure Definition (rt : Runtime) where
  name : String
  description : Option String
  actions : List String
  resourceType : String
  conditions : StoredConditions rt
  isActive : Bool

structure Policy (rt : Runtime) where
  id : Int
  definition : Definition rt
  createdBy : Option String

structure UserPolicy where
  userId : Int
  policyId : Int
  assignedBy : Option String
  deriving DecidableEq

inductive ChangeType where
  | created
  | updated
  | deleted
  | rolledBack
  deriving DecidableEq

structure PolicyHistory (rt : Runtime) where
  id : Int
  policyId : Int
  policyName : String
  changeType : ChangeType
  previousDefinition : Option (Definition rt)
  newDefinition : Option (Definition rt)
  changedFields : Option (List String)
  changedBy : Option String
  changeReason : Option String

/-- A list in the cache, and when it lapses. -/
structure CacheEntry (rt : Runtime) where
  policies : List (Authorization.Policy rt)
  deadline : Int

/-- By the number of the command: the time, and whether Redis does its part. -/
structure Outside where
  clock : Nat → ServerTime
  answers : Nat → Bool
  /-- `normalize_email`. -/
  normalizeEmail : String → String

structure Store (rt : Runtime) where
  policies : List (Policy rt)
  policySequence : Int
  userPolicies : List UserPolicy
  users : List (Int × String)
  history : List (PolicyHistory rt)
  historySequence : Int
  cache : List (String × CacheEntry rt)
  outside : Outside
  issued : Nat

variable {rt : Runtime}

/-- What the evaluator reads of a row. -/
def Definition.evaluated (definition : Definition rt) : Authorization.Policy rt where
  name := definition.name
  actions := definition.actions
  resourceType := definition.resourceType
  conditions := definition.conditions.val
  accepted := definition.conditions.property.1
  distinct := definition.conditions.property.2

/-- `==` on the conditions of two policies. -/
def sameConditions (first second : StoredConditions rt) : Bool :=
  match first.val, second.val with
  | none, none => true
  | some fields, some others => (Json.obj fields).pyEq (.obj others)
  | _, _ => false

/-- The columns that a definition has. -/
inductive Field where
  | name
  | description
  | actions
  | resourceType
  | conditions
  | isActive
  deriving DecidableEq

def Field.column : Field → String
  | .name => "name"
  | .description => "description"
  | .actions => "actions"
  | .resourceType => "resource_type"
  | .conditions => "conditions"
  | .isActive => "is_active"

def Field.differs (loaded new : Definition rt) : Field → Bool
  | .name => new.name ≠ loaded.name
  | .description => new.description ≠ loaded.description
  | .actions => new.actions ≠ loaded.actions
  | .resourceType => new.resourceType ≠ loaded.resourceType
  | .conditions => !sameConditions new.conditions loaded.conditions
  | .isActive => new.isActive ≠ loaded.isActive

/-- What an UPDATE makes of a row: only the columns that differ from what was
loaded are set. -/
def Definition.write (loaded new row : Definition rt) : Definition rt where
  name := if Field.name.differs loaded new then new.name else row.name
  description := if Field.description.differs loaded new then new.description else row.description
  actions := if Field.actions.differs loaded new then new.actions else row.actions
  resourceType :=
    if Field.resourceType.differs loaded new then new.resourceType else row.resourceType
  conditions := if Field.conditions.differs loaded new then new.conditions else row.conditions
  isActive := if Field.isActive.differs loaded new then new.isActive else row.isActive

/-- In the order of the schema. -/
def Field.all : List Field :=
  [.name, .description, .actions, .resourceType, .conditions, .isActive]

/-- Who changes a policy and why, as its history has it. -/
structure Change where
  changeType : ChangeType
  changedFields : List String
  changedBy : String
  changeReason : Option String

/-- What a request asks of Redis, the clock and the database.  `loaded` is the policy
that the request holds meanwhile, if any. -/
inductive Command (rt : Runtime) where
  | now
  | getUserPolicies (userEmail : String)
  | setUserPolicies (userEmail : String) (policies : List (Authorization.Policy rt))
  | deleteKey (userEmail : String)
  | scanKeys (page : Nat)
  | selectActivePolicies (userEmail : String) (loaded : Option (Policy rt))
  | selectUser (email : String)
  | selectPolicy (name : String)
  | selectHistory (historyId : Int)
  | selectUserPolicy (userId policyId : Int)
  | countAssignments (policyId : Int)
  | insertPolicy (definition : Definition rt) (createdBy : String)
  | updatePolicy (loaded : Policy rt) (new : Definition rt) (change : Change)
  | deletePolicy (loaded : Policy rt) (changedBy : String) (changeReason : Option String)
  | refreshPolicy (policyId : Int)
  | insertUserPolicy (userPolicy : UserPolicy)
  | deleteUserPolicy (userId policyId : Int)

/-- The policy that a command edits or deletes, as it was loaded. -/
def Command.changed : Command rt → Option (Policy rt)
  | .updatePolicy loaded _ _ => some loaded
  | .deletePolicy loaded _ _ => some loaded
  | _ => none

@[reducible] def Reply : Command rt → Type
  | .now => ServerTime
  | .getUserPolicies _ => Option (List (Authorization.Policy rt))
  | .setUserPolicies _ _ => Unit
  | .deleteKey _ => Bool
  | .scanKeys _ => Option (List String)
  | .selectActivePolicies _ _ => List (Authorization.Policy rt)
  | .selectUser _ => Option (Int × String)
  | .selectPolicy _ => Option (Policy rt)
  | .selectHistory _ => Option (PolicyHistory rt)
  | .selectUserPolicy _ _ => Bool
  | .countAssignments _ => Nat
  | .insertPolicy _ _ => Except WriteError Int
  | .updatePolicy _ _ _ => Except WriteError Unit
  | .deletePolicy _ _ _ => Unit
  | .refreshPolicy _ => Option (Policy rt)
  | .insertUserPolicy _ => Except WriteError Unit
  | .deleteUserPolicy _ _ => Unit

namespace Store

def now (store : Store rt) : ServerTime := store.outside.clock store.issued

def answers (store : Store rt) : Bool := store.outside.answers store.issued

def next (store : Store rt) : Store rt := { store with issued := store.issued + 1 }

def findPolicy (store : Store rt) (policyId : Int) : Option (Policy rt) :=
  Table.find Policy.id store.policies policyId

/-- `get_by_name`; names are unique. -/
def named (store : Store rt) (name : String) : Option (Policy rt) :=
  store.policies.find? fun policy => policy.definition.name = name

/-- A session answers with the object it holds for a row, as it was loaded; an
object that nothing holds is gone from it. -/
def identified (loaded : Option (Policy rt)) (row : Policy rt) : Policy rt :=
  (loaded.filter (·.id = row.id)).getD row

/-- The join of `get_active_policies_for_user`. -/
def activePolicies (store : Store rt) (userEmail : String) (loaded : Option (Policy rt)) :
    List (Authorization.Policy rt) :=
  store.policies.flatMap fun policy =>
    if policy.definition.isActive then
      (store.userPolicies.filter fun link => link.policyId = policy.id ∧
        store.users.any fun user => user = (link.userId, userEmail)).map fun _ =>
          (identified loaded policy).definition.evaluated
    else []

def cached (store : Store rt) (userEmail : String) : Option (List (Authorization.Policy rt)) :=
  ((Table.find Prod.fst store.cache userEmail).filter fun entry =>
    store.now.val < entry.2.deadline).map (·.2.policies)

def assignments (store : Store rt) (policyId : Int) : Nat :=
  (store.userPolicies.filter (·.policyId = policyId)).length

/-- `_USER_POLICIES_TTL_SECONDS`, in microseconds. -/
def timeToLive : Int := 60000000

def setCache (store : Store rt) (userEmail : String) (entry : Option (CacheEntry rt)) : Store rt :=
  if store.answers then
    { store.next with
      cache := Table.remove Prod.fst store.cache userEmail ++ (entry.map (userEmail, ·)).toList }
  else store.next

def record (store : Store rt) (entry : Int → PolicyHistory rt) : Store rt :=
  { store.next with
    history := store.history ++ [entry store.historySequence]
    historySequence := store.historySequence + 1 }

/-- The entry of a change, for the rows before and after it. -/
def changeEntry (loaded : Policy rt) (new : Definition rt) (change : Change) (id : Int) :
    PolicyHistory rt where
  id := id
  policyId := loaded.id
  policyName := new.name
  changeType := change.changeType
  previousDefinition := some loaded.definition
  newDefinition := some new
  changedFields := some change.changedFields
  changedBy := some change.changedBy
  changeReason := change.changeReason

/-- Names are unique; an INSERT that fails has drawn an id too. -/
def insertPolicy (store : Store rt) (definition : Definition rt) (createdBy : String) :
    Except WriteError Int × Store rt :=
  if (store.named definition.name).isSome then
    (.error .integrityError, { store.next with policySequence := store.policySequence + 1 })
  else
    let policyId := store.policySequence
    let recorded := store.record fun id =>
      { id, policyId
        policyName := definition.name
        changeType := .created
        previousDefinition := none
        newDefinition := some definition
        changedFields := none
        changedBy := some createdBy
        changeReason := none }
    (.ok policyId, { recorded with
      policies := store.policies ++ [⟨policyId, definition, some createdBy⟩]
      policySequence := policyId + 1 })

def updatePolicy (store : Store rt) (loaded : Policy rt) (new : Definition rt) (change : Change) :
    Except WriteError Unit × Store rt :=
  let recorded := store.record (changeEntry loaded new change)
  -- Without a difference no UPDATE is sent.
  if ¬Field.all.any (Field.differs loaded.definition new) then (.ok (), recorded)
  else
    match store.findPolicy loaded.id with
    | none => (.error .staleDataError, store.next)
    | some row =>
        let written := loaded.definition.write new row.definition
        if store.policies.any fun other =>
            other.id ≠ loaded.id ∧ other.definition.name = written.name then
          (.error .integrityError, store.next)
        else (.ok (), { recorded with
          policies := Table.modify Policy.id store.policies loaded.id fun policy =>
            { policy with definition := loaded.definition.write new policy.definition } })

/-- The assignments of the policy go with it.  A DELETE that matches no row is
no error. -/
def deletePolicy (store : Store rt) (loaded : Policy rt) (changedBy : String)
    (changeReason : Option String) : Store rt :=
  let recorded := store.record fun id =>
    { id
      policyId := loaded.id
      policyName := loaded.definition.name
      changeType := .deleted
      previousDefinition := some loaded.definition
      newDefinition := none
      changedFields := none
      changedBy := some changedBy
      changeReason }
  { recorded with
    policies := Table.remove Policy.id store.policies loaded.id
    userPolicies := store.userPolicies.filter (·.policyId ≠ loaded.id) }

/-- A user holds a policy once, and both are there. -/
def insertUserPolicy (store : Store rt) (userPolicy : UserPolicy) :
    Except WriteError Unit × Store rt :=
  if store.userPolicies.any (fun held =>
      held.userId = userPolicy.userId ∧ held.policyId = userPolicy.policyId) ∨
      userPolicy.userId ∉ store.users.map Prod.fst ∨
      (store.findPolicy userPolicy.policyId).isNone then
    (.error .integrityError, store.next)
  else (.ok (), { store.next with userPolicies := store.userPolicies ++ [userPolicy] })

def deleteUserPolicy (store : Store rt) (userId policyId : Int) : Store rt :=
  { store.next with
    userPolicies := store.userPolicies.filter fun held =>
      ¬(held.userId = userId ∧ held.policyId = policyId) }

/-- The keys of the cache, on the pages a SCAN visits them on. -/
def scanKeys (keyspace : Keyspace) (store : Store rt) (page : Nat) : List String :=
  (store.cache.map Prod.fst).filter fun email =>
    (store.cached email).isSome ∧ (keyspace.pageOf email : Nat) = page

def exec (keyspace : Keyspace) : (op : Command rt) → (store : Store rt) → Reply op × Store rt
  | .now, store => (store.now, store.next)
  | .getUserPolicies userEmail, store =>
      (if store.answers then store.cached userEmail else none, store.next)
  | .setUserPolicies userEmail policies, store =>
      ((), store.setCache userEmail (some ⟨policies, store.now.val + timeToLive⟩))
  | .deleteKey userEmail, store => (store.answers, store.setCache userEmail none)
  | .scanKeys page, store =>
      (if store.answers then some (store.scanKeys keyspace page) else none, store.next)
  | .selectActivePolicies userEmail loaded, store =>
      (store.activePolicies userEmail loaded, store.next)
  | .selectUser email, store =>
      (Table.find Prod.snd store.users (store.outside.normalizeEmail email), store.next)
  | .selectPolicy name, store => (store.named name, store.next)
  | .selectHistory historyId, store =>
      (Table.find PolicyHistory.id store.history historyId, store.next)
  | .selectUserPolicy userId policyId, store =>
      (store.userPolicies.any fun held => held.userId = userId ∧ held.policyId = policyId,
        store.next)
  | .countAssignments policyId, store => (store.assignments policyId, store.next)
  | .insertPolicy definition createdBy, store => store.insertPolicy definition createdBy
  | .updatePolicy loaded new change, store => store.updatePolicy loaded new change
  | .deletePolicy loaded changedBy changeReason, store =>
      ((), store.deletePolicy loaded changedBy changeReason)
  | .refreshPolicy policyId, store => (store.findPolicy policyId, store.next)
  | .insertUserPolicy userPolicy, store => store.insertUserPolicy userPolicy
  | .deleteUserPolicy userId policyId, store => ((), store.deleteUserPolicy userId policyId)

end Store
end BalanceSheetAnalysis.Policies

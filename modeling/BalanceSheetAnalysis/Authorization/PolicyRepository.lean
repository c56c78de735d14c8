import BalanceSheetAnalysis.Authorization.Validator
import BalanceSheetAnalysis.Library.Raising
import BalanceSheetAnalysis.Store.Tables

/-! Policies and who holds them, and the cache of what a user holds.  The cache
is filled by whoever misses it and cleared after a change was committed. -/
namespace BalanceSheetAnalysis.Authorization
open Library Library.Raising

structure PolicyRow (rt : Runtime) where
  id : Int
  policy : Policy rt
  isActive : Bool

/-- `userPolicies` pairs the id of a user with the id of a policy. -/
structure PolicyTables (rt : Runtime) where
  policies : List (PolicyRow rt)
  users : List (Int × String)
  userPolicies : List (Int × Int)

/-- The conditions of a policy, as validated. -/
abbrev StoredConditions (rt : Runtime) := { conditions : Option Dict //
  validateConditions rt conditions = .ok () ∧
    (Json.obj (conditions.getD [])).distinctKeys = true }

/-- The fields an edit sets. -/
structure PolicyUpdate (rt : Runtime) where
  name : Option String
  actions : Option (List String)
  resourceType : Option String
  conditions : Option (StoredConditions rt)
  isActive : Option Bool

variable {rt : Runtime}

def PolicyUpdate.apply (data : PolicyUpdate rt) (row : PolicyRow rt) : PolicyRow rt :=
  let conditions :=
    data.conditions.getD ⟨row.policy.conditions, row.policy.accepted, row.policy.distinct⟩
  { row with
    policy :=
      { name := data.name.getD row.policy.name
        actions := data.actions.getD row.policy.actions
        resourceType := data.resourceType.getD row.policy.resourceType
        conditions := conditions.val
        accepted := conditions.property.1
        distinct := conditions.property.2 }
    isActive := data.isActive.getD row.isActive }

/-- The join of `get_active_policies_for_user`. -/
def PolicyTables.activePolicies (tables : PolicyTables rt) (userEmail : String) :
    List (Policy rt) :=
  tables.policies.flatMap fun row =>
    if row.isActive then
      (tables.userPolicies.filter fun link =>
        link.2 = row.id ∧ (link.1, userEmail) ∈ tables.users).map fun _ => row.policy
    else []

/-- The database and the keys of the cache, by the user they are of. -/
structure PolicyWorld (rt : Runtime) where
  tables : PolicyTables rt
  cache : List (String × List (Policy rt))

def PolicyWorld.cached (world : PolicyWorld rt) (userEmail : String) : Option (List (Policy rt)) :=
  (Table.find Prod.fst world.cache userEmail).map Prod.snd

/-- The pages of a `SCAN`, in the order it visits them.  Each key has its page. -/
structure Keyspace where
  pages : Nat
  pageOf : String → Fin pages

/-- The first four are commands to Redis, the others statements to the database;
one that changes a table is committed with it. -/
inductive PolicyOp (rt : Runtime) where
  | getUserPolicies (userEmail : String)
  | setUserPolicies (userEmail : String) (policies : List (Policy rt))
  | deleteKey (userEmail : String)
  | scanKeys (page : Nat)
  | selectActivePolicies (userEmail : String)
  | selectUserPolicy (userId policyId : Int)
  | insertUserPolicy (userId policyId : Int)
  | deleteUserPolicy (userId policyId : Int)
  | refreshPolicy (policyId : Int)
  | updatePolicy (policyId : Int) (data : PolicyUpdate rt)
  | deletePolicy (policyId : Int)

@[reducible] def PolicyReply : PolicyOp rt → Type
  | .getUserPolicies _ => Option (List (Policy rt))
  | .setUserPolicies _ _ => Unit
  | .deleteKey _ => Unit
  | .scanKeys _ => List String
  | .selectActivePolicies _ => List (Policy rt)
  | .selectUserPolicy _ _ => Bool
  | .insertUserPolicy _ _ => Except WriteError Unit
  | .deleteUserPolicy _ _ => Unit
  | .refreshPolicy _ => Bool
  | .updatePolicy _ _ => Except WriteError Unit
  | .deletePolicy _ => Unit

namespace PolicyTables

def insertUserPolicy (tables : PolicyTables rt) (userId policyId : Int) :
    Except WriteError Unit × PolicyTables rt :=
  if (userId, policyId) ∈ tables.userPolicies ∨ userId ∉ tables.users.map Prod.fst ∨
      policyId ∉ tables.policies.map PolicyRow.id then
    (.error .integrityError, tables)
  else (.ok (), { tables with userPolicies := tables.userPolicies ++ [(userId, policyId)] })

/-- Names are unique. -/
def updatePolicy (tables : PolicyTables rt) (policyId : Int) (data : PolicyUpdate rt) :
    Except WriteError Unit × PolicyTables rt :=
  match Table.find PolicyRow.id tables.policies policyId with
  | none => (.error .staleDataError, tables)
  | some row =>
      if tables.policies.any fun other =>
          other.id ≠ policyId ∧ other.policy.name = (data.apply row).policy.name then
        (.error .integrityError, tables)
      else (.ok (), { tables with
        policies := Table.modify PolicyRow.id tables.policies policyId data.apply })

/-- The assignments of the policy go with it. -/
def deletePolicy (tables : PolicyTables rt) (policyId : Int) : PolicyTables rt :=
  { tables with
    policies := Table.remove PolicyRow.id tables.policies policyId
    userPolicies := tables.userPolicies.filter (·.2 ≠ policyId) }

end PolicyTables

namespace PolicyWorld

def exec (keyspace : Keyspace) :
    (op : PolicyOp rt) → PolicyWorld rt → PolicyReply op × PolicyWorld rt
  | .getUserPolicies userEmail, world => (world.cached userEmail, world)
  | .setUserPolicies userEmail policies, world =>
      ((), { world with
        cache := Table.remove Prod.fst world.cache userEmail ++ [(userEmail, policies)] })
  | .deleteKey userEmail, world =>
      ((), { world with cache := Table.remove Prod.fst world.cache userEmail })
  | .scanKeys page, world =>
      ((world.cache.map Prod.fst).filter fun key => (keyspace.pageOf key : Nat) = page, world)
  | .selectActivePolicies userEmail, world => (world.tables.activePolicies userEmail, world)
  | .selectUserPolicy userId policyId, world =>
      (decide ((userId, policyId) ∈ world.tables.userPolicies), world)
  | .insertUserPolicy userId policyId, world =>
      ((world.tables.insertUserPolicy userId policyId).1,
        { world with tables := (world.tables.insertUserPolicy userId policyId).2 })
  | .deleteUserPolicy userId policyId, world =>
      ((), { world with tables.userPolicies :=
        world.tables.userPolicies.filter (· ≠ (userId, policyId)) })
  | .refreshPolicy policyId, world =>
      ((Table.find PolicyRow.id world.tables.policies policyId).isSome, world)
  | .updatePolicy policyId data, world =>
      ((world.tables.updatePolicy policyId data).1,
        { world with tables := (world.tables.updatePolicy policyId data).2 })
  | .deletePolicy policyId, world =>
      ((), { world with tables := world.tables.deletePolicy policyId })

end PolicyWorld

inductive RepositoryError where
  | writeError (error : WriteError)
  /-- `refresh` found no row. -/
  | invalidRequestError

abbrev PolicyAction (rt : Runtime) (α : Type) :=
  ExceptT RepositoryError (Program (@PolicyReply rt)) α

def getActivePoliciesForUser (userEmail : String) : PolicyAction rt (List (Policy rt)) := do
  match ← issue (PolicyOp.getUserPolicies userEmail) with
  | some cached => return cached
  | none =>
      let policies ← issue (PolicyOp.selectActivePolicies userEmail)
      issue (PolicyOp.setUserPolicies userEmail policies)
      return policies

def invalidateUserPolicies (userEmail : Option String) : PolicyAction rt Unit :=
  match userEmail with
  | some userEmail => issue (PolicyOp.deleteKey userEmail)
  | none => return ()

def deleteKeys : List String → PolicyAction rt Unit
  | [] => return ()
  | key :: keys => do
      issue (PolicyOp.deleteKey key)
      deleteKeys keys

def deletePages : List Nat → PolicyAction rt Unit
  | [] => return ()
  | page :: pages => do
      deleteKeys (← issue (PolicyOp.scanKeys page))
      deletePages pages

def invalidateAllUserPolicies (keyspace : Keyspace) : PolicyAction rt Unit :=
  deletePages (List.range keyspace.pages)

def assignPolicyToUser (userId policyId : Int) (userEmail : Option String) :
    PolicyAction rt Unit := do
  if ← issue (PolicyOp.selectUserPolicy userId policyId) then return ()
  else
    match ← issue (PolicyOp.insertUserPolicy userId policyId) with
    | .error error => throw (.writeError error)
    | .ok () =>
        if ← issue (PolicyOp.selectUserPolicy userId policyId) then
          invalidateUserPolicies userEmail
        else throw .invalidRequestError

/-- Whether the user held the policy. -/
def removePolicyFromUser (userId policyId : Int) (userEmail : Option String) :
    PolicyAction rt Bool := do
  if ← issue (PolicyOp.selectUserPolicy userId policyId) then
    issue (PolicyOp.deleteUserPolicy userId policyId)
    invalidateUserPolicies userEmail
    return true
  else return false

def updatePolicy (keyspace : Keyspace) (policyId : Int) (data : PolicyUpdate rt) :
    PolicyAction rt Unit := do
  match ← issue (PolicyOp.updatePolicy policyId data) with
  | .error error => throw (.writeError error)
  | .ok () =>
      if ← issue (PolicyOp.refreshPolicy policyId) then invalidateAllUserPolicies keyspace
      else throw .invalidRequestError

def deletePolicy (keyspace : Keyspace) (policyId : Int) : PolicyAction rt Unit := do
  issue (PolicyOp.deletePolicy policyId)
  invalidateAllUserPolicies keyspace

/-! What they issue: a list is cached right after it was read, and a change is
followed by the deletion of every key it may concern. -/

variable (keyspace : Keyspace)

/-- After this the key of the user is gone, or was not there. -/
def Clears (userEmail : String) : Sigma (@PolicyReply rt) → Prop
  | ⟨.deleteKey email, _⟩ => email = userEmail
  | ⟨.scanKeys page, keys⟩ => keyspace.pageOf userEmail = page ∧ userEmail ∉ keys
  | _ => False

/-- A revocation, edit or deletion that was committed. -/
def Commits : Sigma (@PolicyReply rt) → Prop
  | ⟨.deleteUserPolicy _ _, _⟩ | ⟨.deletePolicy _, _⟩ => True
  | ⟨.updatePolicy _ _, reply⟩ => reply = .ok ()
  | _ => False

def Orderly (told : Program.History (@PolicyReply rt)) : PolicyOp rt → Prop
  | .setUserPolicies userEmail policies =>
      told.getLast? = some ⟨.selectActivePolicies userEmail, policies⟩
  | .deleteUserPolicy _ _ | .updatePolicy _ _ | .deletePolicy _ =>
      ∀ userEmail, ∀ entry ∈ told, ¬Clears keyspace userEmail entry
  | _ => True

section Orderly
variable {keyspace} {told : Program.History (@PolicyReply rt)}

/-- Some reply so far says the key of the user is gone. -/
def KeyGone (keyspace : Keyspace) (told : Program.History (@PolicyReply rt))
    (userEmail : String) : Prop :=
  ∃ entry ∈ told, Clears keyspace userEmail entry

theorem KeyGone.mono {earlier later : Program.History (@PolicyReply rt)} {userEmail : String}
    (cleared : KeyGone keyspace earlier userEmail) (grown : earlier ⊆ later) :
    KeyGone keyspace later userEmail := by
  obtain ⟨entry, member, clears⟩ := cleared
  exact ⟨entry, grown member, clears⟩

/-- A change comes before the deletion of any key. -/
theorem not_clears_of_commits {op : PolicyOp rt} {reply : PolicyReply op}
    (orderly : Orderly keyspace told op) (commits : Commits ⟨op, reply⟩) (userEmail : String)
    {entry : Sigma (@PolicyReply rt)} (member : entry ∈ told) :
    ¬Clears keyspace userEmail entry := by
  cases op with
  | deleteUserPolicy userId policyId => exact orderly userEmail entry member
  | updatePolicy policyId data => exact orderly userEmail entry member
  | deletePolicy policyId => exact orderly userEmail entry member
  | _ => exact commits.elim

/-- A list is in the cache because it was there, and no reply says it is gone,
or because it was stored. -/
theorem cached_exec {op : PolicyOp rt} {world : PolicyWorld rt} {userEmail : String}
    {policies : List (Policy rt)}
    (found : (PolicyWorld.exec keyspace op world).2.cached userEmail = some policies) :
    (world.cached userEmail = some policies ∧
      ¬Clears keyspace userEmail ⟨op, (PolicyWorld.exec keyspace op world).1⟩) ∨
    op = .setUserPolicies userEmail policies := by
  cases op with
  | setUserPolicies email stored =>
      rw [PolicyWorld.cached, PolicyWorld.exec, Table.find_put (email, stored)] at found
      by_cases same : userEmail = email
      · subst same
        right
        simpa using found
      · rw [Function.update_of_ne same] at found
        exact .inl ⟨found, id⟩
  | deleteKey email =>
      rw [PolicyWorld.cached, PolicyWorld.exec, Table.find_remove] at found
      by_cases same : userEmail = email
      · rw [same, Function.update_self] at found
        cases found
      · rw [Function.update_of_ne same] at found
        exact .inl ⟨found, Ne.symm same⟩
  | scanKeys page =>
      have present : userEmail ∈ world.cache.map Prod.fst := by
        obtain ⟨entry, isEntry, _⟩ := Option.map_eq_some_iff.mp found
        have isRow := Table.find_eq_some isEntry
        exact List.mem_map.mpr ⟨entry, isRow⟩
      refine .inl ⟨found, ?_⟩
      rintro ⟨here, absent⟩
      exact absent (List.mem_filter.mpr ⟨present, decide_eq_true here⟩)
  | _ => exact .inl ⟨found, id⟩

theorem getActivePoliciesForUser_orderly (userEmail : String) :
    Obeys (Orderly keyspace) (fun later policies =>
      Program.Told later (.getUserPolicies userEmail) (some policies) ∨
        Program.Told later (.selectActivePolicies userEmail) policies) told
      (getActivePoliciesForUser userEmail) := by
  have reads : Orderly keyspace told (.getUserPolicies userEmail) := trivial
  apply obeys_issue_bind reads
  intro cached
  cases cached with
  | some policies => exact obeys_pure (.inl (Program.told_last _ _ _))
  | none =>
      have selects (told : Program.History (@PolicyReply rt)) :
          Orderly keyspace told (.selectActivePolicies userEmail) := trivial
      apply obeys_issue_bind (selects _)
      intro policies
      apply obeys_issue_bind (List.getLast?_concat ..)
      intro _
      exact obeys_pure (.inr (List.mem_append_left _ (Program.told_last _ _ _)))

theorem deleteKeys_orderly (keys : List String) :
    Obeys (Orderly keyspace)
      (fun later _ => told ⊆ later ∧ ∀ key ∈ keys, KeyGone keyspace later key) told
      (deleteKeys keys) := by
  induction keys generalizing told with
  | nil => exact obeys_pure ⟨List.Subset.refl _, List.forall_mem_nil _⟩
  | cons key keys ih =>
      have deletes : Orderly keyspace told (.deleteKey key) := trivial
      apply obeys_issue_bind deletes
      intro reply
      apply ih.mono fun _ _ => id
      intro later _ cleared
      have grown := List.append_subset.mp cleared.1
      have here : KeyGone keyspace later key :=
        ⟨_, cleared.1 (Program.told_last told (.deleteKey key) reply), rfl⟩
      exact ⟨grown.1, List.forall_mem_cons.mpr ⟨here, cleared.2⟩⟩

/-- A key its page does not show is not there. -/
theorem deletePages_orderly (pages : List Nat) :
    Obeys (Orderly keyspace) (fun later _ => told ⊆ later ∧
        ∀ userEmail, (keyspace.pageOf userEmail : Nat) ∈ pages → KeyGone keyspace later userEmail)
      told (deletePages pages : PolicyAction rt Unit) := by
  induction pages generalizing told with
  | nil => exact obeys_pure ⟨List.Subset.refl _, fun _ => nofun⟩
  | cons page pages ih =>
      have scans : Orderly keyspace told (.scanKeys page) := trivial
      apply obeys_issue_bind scans
      intro keys
      apply (deleteKeys_orderly keys).bind
      intro _ middle deleted
      apply ih.mono fun _ _ => id
      intro later _ cleared
      have grown := List.append_subset.mp deleted.1
      refine ⟨List.Subset.trans grown.1 cleared.1, fun userEmail member => ?_⟩
      cases List.mem_cons.mp member with
      | inr elsewhere => exact cleared.2 userEmail elsewhere
      | inl here =>
          apply KeyGone.mono _ cleared.1
          by_cases shown : userEmail ∈ keys
          · exact deleted.2 userEmail shown
          · exact ⟨_, deleted.1 (Program.told_last told (.scanKeys page) keys), here, shown⟩

theorem invalidateAllUserPolicies_orderly :
    Obeys (Orderly keyspace) (fun later _ => ∀ userEmail, KeyGone keyspace later userEmail) told
      (invalidateAllUserPolicies keyspace : PolicyAction rt Unit) := by
  apply (deletePages_orderly _).mono fun _ _ => id
  intro later _ cleared userEmail
  exact cleared.2 userEmail (List.mem_range.mpr (keyspace.pageOf userEmail).isLt)

theorem invalidateUserPolicies_orderly (userEmail : Option String) :
    Obeys (Orderly keyspace)
      (fun later _ => ∀ email, userEmail = some email → KeyGone keyspace later email) told
      (invalidateUserPolicies userEmail : PolicyAction rt Unit) := by
  cases userEmail with
  | none => exact obeys_pure nofun
  | some userEmail =>
      have deletes : Orderly keyspace told (.deleteKey userEmail) := trivial
      apply obeys_issue deletes
      rintro reply _ ⟨⟩
      exact ⟨_, Program.told_last told (.deleteKey userEmail) reply, rfl⟩

theorem removePolicyFromUser_orderly (userId policyId : Int) (userEmail : Option String) :
    Obeys (Orderly keyspace) (fun later _ => ∀ email, userEmail = some email →
      (∃ entry ∈ later, Commits entry) → KeyGone keyspace later email) []
      (removePolicyFromUser userId policyId userEmail : PolicyAction rt Bool) := by
  have selects : Orderly keyspace [] (.selectUserPolicy userId policyId : PolicyOp rt) := trivial
  apply obeys_issue_bind selects
  intro held
  cases held with
  | false =>
      apply obeys_pure
      rintro _ _ ⟨entry, member, commits⟩
      rw [List.mem_singleton.mp member] at commits
      cases commits
  | true =>
      have deletes : Orderly keyspace [⟨.selectUserPolicy userId policyId, true⟩]
          (.deleteUserPolicy userId policyId : PolicyOp rt) := by
        intro email entry member
        rw [List.mem_singleton.mp member]
        exact id
      apply obeys_issue_bind deletes
      intro reply
      apply (invalidateUserPolicies_orderly userEmail).bind
      intro _ later cleared
      exact obeys_pure fun email isEmail _ => cleared email isEmail

theorem updatePolicy_orderly (policyId : Int) (data : PolicyUpdate rt) :
    Obeys (Orderly keyspace) (fun later _ => ∀ userEmail, KeyGone keyspace later userEmail) []
      (updatePolicy keyspace policyId data) := by
  have updates : Orderly keyspace [] (.updatePolicy policyId data) :=
    fun _ => List.forall_mem_nil _
  apply obeys_issue_bind updates
  intro reply
  match reply with
  | .error error => exact obeys_throw _
  | .ok () =>
      have refreshes (told : Program.History (@PolicyReply rt)) :
          Orderly keyspace told (.refreshPolicy policyId) := trivial
      apply obeys_issue_bind (refreshes _)
      intro present
      cases present with
      | true => exact invalidateAllUserPolicies_orderly
      | false => exact obeys_throw _

theorem deletePolicy_orderly (policyId : Int) :
    Obeys (Orderly keyspace) (fun later _ => ∀ userEmail, KeyGone keyspace later userEmail) []
      (deletePolicy keyspace policyId : PolicyAction rt Unit) := by
  have deletes : Orderly keyspace [] (.deletePolicy policyId : PolicyOp rt) :=
    fun _ => List.forall_mem_nil _
  apply obeys_issue_bind deletes
  intro _
  exact invalidateAllUserPolicies_orderly

theorem assignPolicyToUser_orderly (userId policyId : Int) (userEmail : Option String) :
    Obeys (Orderly keyspace) (fun _ _ => True) []
      (assignPolicyToUser userId policyId userEmail : PolicyAction rt Unit) := by
  have selects (told : Program.History (@PolicyReply rt)) :
      Orderly keyspace told (.selectUserPolicy userId policyId) := trivial
  have inserts (told : Program.History (@PolicyReply rt)) :
      Orderly keyspace told (.insertUserPolicy userId policyId) := trivial
  apply obeys_issue_bind (selects _)
  intro held
  cases held with
  | true => exact obeys_pure trivial
  | false =>
      apply obeys_issue_bind (inserts _)
      intro reply
      match reply with
      | .error error => exact obeys_throw _
      | .ok () =>
          apply obeys_issue_bind (selects _)
          intro present
          cases present with
          | true =>
              exact (invalidateUserPolicies_orderly userEmail).mono (fun _ _ => id)
                fun _ _ _ => trivial
          | false => exact obeys_throw _

end Orderly
end BalanceSheetAnalysis.Authorization

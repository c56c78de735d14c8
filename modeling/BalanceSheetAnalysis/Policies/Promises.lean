import BalanceSheetAnalysis.Policies.Requests

/-! What each route does, given what it was told: no baseline policy is renamed,
deactivated or deleted, and nothing sensitive is handed out that the caller was
not found to hold. -/
namespace BalanceSheetAnalysis.Policies
open Library Library.Raising
open Authorization hiding Policy PolicyUpdate

variable {rt : Runtime}

abbrev History (rt : Runtime) := Program.History (@Reply rt)

/-- The caller was found to hold the action by the policies it was told of. -/
def Held (callerEmail : String) (told : History rt) (action resourceType : String) : Prop :=
  ∃ policies now, (Program.Told told (.getUserPolicies callerEmail) (some policies) ∨
      ∃ loaded, Program.Told told (.selectActivePolicies callerEmail loaded) policies) ∧
    evaluate policies action resourceType ⟨callerEmail, none, none, now⟩ = true

/-- So was every sensitive action of the policy. -/
def Granted (callerEmail : String) (told : History rt) (definition : Definition rt) : Prop :=
  ∀ action ∈ definition.actions, action ∈ knownSensitiveActions →
    Held callerEmail told action definition.resourceType

/-- A baseline policy keeps its name and stays active. -/
def KeepsBaseline (loaded new : Definition rt) : Prop :=
  loaded.name ∈ protectedPolicyNames →
    new.name = loaded.name ∧ (loaded.isActive = true → new.isActive = true)

/-- The request has loaded the policy by its name. -/
def Loaded (told : History rt) (policy : Policy rt) : Prop :=
  ∃ name, Program.Told told (.selectPolicy name) (some policy)

def Permitted (callerEmail : String) (told : History rt) : Command rt → Prop
  | .selectActivePolicies _ loaded => ∀ policy ∈ loaded, Loaded told policy
  | .setUserPolicies email policies => email = callerEmail ∧
      ∃ loaded, Program.Told told (.selectActivePolicies email loaded) policies
  | .insertPolicy definition _ => Granted callerEmail told definition
  | .updatePolicy loaded new _ =>
      Loaded told loaded ∧ KeepsBaseline loaded.definition new ∧
        (new.actions = loaded.definition.actions ∨ Granted callerEmail told new)
  | .deletePolicy loaded _ _ => ∃ name, Program.Told told (.selectPolicy name) (some loaded) ∧
      name ∉ protectedPolicyNames
  | .insertUserPolicy link => ∃ name policy, Program.Told told (.selectPolicy name) (some policy) ∧
      link.policyId = policy.id ∧ Granted callerEmail told policy.definition
  | .deleteUserPolicy _ policyId => ∃ name policy,
      Program.Told told (.selectPolicy name) (some policy) ∧ policy.id = policyId ∧
        (name = systemSuperuserPolicyName →
          ∃ holders, Program.Told told (.countAssignments policyId) holders ∧ 1 < holders)
  | _ => True

section Later
variable {callerEmail : String} {told later : History rt}

theorem Held.mono {action resourceType : String} (held : Held callerEmail told action resourceType)
    (kept : told ⊆ later) : Held callerEmail later action resourceType := by
  obtain ⟨policies, now, wasTold, grants⟩ := held
  refine ⟨policies, now, wasTold.imp (kept ·) ?_, grants⟩
  exact Exists.imp fun _ asked => kept asked

theorem Loaded.mono {policy : Policy rt} (loaded : Loaded told policy) (kept : told ⊆ later) :
    Loaded later policy :=
  loaded.imp fun _ wasTold => kept wasTold

theorem loaded_of_none : ∀ held ∈ (none : Option (Policy rt)), Loaded told held := by
  simp

theorem loaded_of_some {policy : Policy rt} (loaded : Loaded told policy) :
    ∀ held ∈ some policy, Loaded told held := by
  rintro held ⟨⟩
  exact loaded

theorem Granted.mono {definition : Definition rt} (granted : Granted callerEmail told definition)
    (kept : told ⊆ later) : Granted callerEmail later definition :=
  fun action member sensitive => (granted action member sensitive).mono kept

end Later

section Promises
variable {callerEmail : String} {told : History rt} {keyspace : Keyspace}

/-- Nothing is promised of the value. -/
def Complies {α : Type} (callerEmail : String) (told : History rt) (action : Request rt α) : Prop :=
  Obeys (Permitted callerEmail) (fun _ _ => True) told action

/-! The cache and the repository. -/

theorem getActivePoliciesForUser_promises {loaded : Option (Policy rt)}
    (holds : ∀ policy ∈ loaded, Loaded told policy) :
    Obeys (Permitted callerEmail) (fun later policies =>
        Program.Told later (.getUserPolicies callerEmail) (some policies) ∨
          ∃ loaded, Program.Told later (.selectActivePolicies callerEmail loaded) policies) told
      (getActivePoliciesForUser callerEmail loaded) := by
  apply (obeys_told trivial).followed
  intro cached later kept wasTold
  cases cached with
  | some policies => exact obeys_pure (.inl wasTold)
  | none =>
      apply (obeys_told fun policy member => (holds policy member).mono kept).followed
      intro policies later _ wasTold
      apply (obeys_told ⟨rfl, loaded, wasTold⟩).followed
      intro _ later kept _
      exact obeys_pure (.inr ⟨loaded, kept wasTold⟩)

theorem deleteKeys_complies (keys : List String) :
    Complies callerEmail told (deleteKeys keys) := by
  induction keys generalizing told with
  | nil => exact obeys_pure trivial
  | cons key keys ih =>
      apply (obeys_told trivial).followed
      intro deleted later _ _
      cases deleted with
      | true => exact ih
      | false => exact obeys_pure trivial

theorem invalidateAllUserPolicies_complies :
    Complies callerEmail told (invalidateAllUserPolicies keyspace) := by
  unfold invalidateAllUserPolicies
  induction List.range keyspace.pages generalizing told with
  | nil => exact obeys_pure trivial
  | cons page pages ih =>
      apply (obeys_told trivial).followed
      intro keys later _ _
      cases keys with
      | none => exact obeys_pure trivial
      | some keys =>
          apply (deleteKeys_complies keys).bind
          intro deleted later _
          cases deleted with
          | true => exact ih
          | false => exact obeys_pure trivial

theorem refreshed_complies (policyId : Int) : Complies callerEmail told (refreshed policyId) := by
  apply (obeys_told trivial).followed
  intro found later _ _
  cases found with
  | some policy => exact obeys_pure trivial
  | none => exact obeys_throw _

theorem create_complies {definition : Definition rt} {createdBy : String}
    (granted : Granted callerEmail told definition) :
    Complies callerEmail told (create definition createdBy) := by
  apply (obeys_told granted).followed
  intro result later _ _
  cases result with
  | error _ => exact obeys_throw _
  | ok policyId => exact refreshed_complies policyId

theorem update_promises {policy : Policy rt} {new : Definition rt} {change : Change}
    (permitted : Permitted callerEmail told (.updatePolicy policy new change)) :
    Obeys (Permitted callerEmail) (fun later _ =>
        Program.Told later (.updatePolicy policy new change) (.ok ())) told
      (update keyspace policy new change) := by
  apply (obeys_told permitted).followed
  intro result later _ wasTold
  cases result with
  | error _ => exact obeys_throw _
  | ok _ =>
      apply (refreshed_complies policy.id).followed
      intro policy later kept _
      apply invalidateAllUserPolicies_complies.followed
      intro _ later kept' _
      exact obeys_pure (kept' (kept wasTold))

theorem delete_complies {policy : Policy rt} {changedBy : String} {changeReason : Option String}
    (permitted : Permitted callerEmail told (.deletePolicy policy changedBy changeReason)) :
    Complies callerEmail told (delete keyspace policy changedBy changeReason) := by
  apply (obeys_told permitted).followed
  intro _ later _ _
  exact invalidateAllUserPolicies_complies

theorem assign_complies {userId policyId : Int} {assignedBy userEmail : String}
    (permitted : ∀ later : History rt, told ⊆ later →
      Permitted callerEmail later (.insertUserPolicy ⟨userId, policyId, some assignedBy⟩)) :
    Complies callerEmail told (assign userId policyId assignedBy userEmail) := by
  apply (obeys_told trivial).followed
  intro holds later kept _
  cases holds with
  | true => exact obeys_pure trivial
  | false =>
      apply (obeys_told (permitted later kept)).followed
      intro result later _ _
      cases result with
      | error _ => exact obeys_throw _
      | ok _ =>
          apply (obeys_told trivial).followed
          intro present later _ _
          cases present with
          | false => exact obeys_throw _
          | true =>
              apply (obeys_told trivial).followed
              intro _ later _ _
              exact obeys_pure trivial

theorem remove_complies {userId policyId : Int} {userEmail : String}
    (permitted : ∀ later : History rt, told ⊆ later →
      Permitted callerEmail later (.deleteUserPolicy userId policyId)) :
    Complies callerEmail told (remove userId policyId userEmail) := by
  apply (obeys_told trivial).followed
  intro holds later kept _
  cases holds with
  | false => exact obeys_pure trivial
  | true =>
      apply (obeys_told (permitted later kept)).followed
      intro _ later _ _
      apply (obeys_told trivial).followed
      intro _ later _ _
      exact obeys_pure trivial

/-! The authorization service. -/

theorem authorize_promises (action resourceType : String) {loaded : Option (Policy rt)}
    (holds : ∀ policy ∈ loaded, Loaded told policy) :
    Obeys (Permitted callerEmail) (fun later allowed => allowed = true →
        Held callerEmail later action resourceType) told
      (authorize callerEmail action resourceType none loaded) := by
  apply (getActivePoliciesForUser_promises holds).followed
  intro policies later _ wasTold
  apply (obeys_told trivial).followed
  intro now later kept _
  apply obeys_pure
  intro allowed
  refine ⟨policies, now, wasTold.imp (kept ·) ?_, allowed⟩
  exact Exists.imp fun _ asked => kept asked

theorem requireAuthorization_complies {caller : Caller} (action : String) :
    Complies caller.email told (requireAuthorization caller action) := by
  have authorized : Complies caller.email told
      (authorize caller.email action "policies" (some caller.context) none) := by
    apply (getActivePoliciesForUser_promises loaded_of_none).followed
    intro policies later _ _
    apply (obeys_told trivial).followed
    intro now later _ _
    exact obeys_pure trivial
  apply authorized.bind
  intro allowed later _
  cases allowed with
  | true => exact obeys_pure trivial
  | false => exact obeys_throw _

theorem assertAuthorizedToGrant_promises {loaded : Option (Policy rt)}
    (holds : ∀ policy ∈ loaded, Loaded told policy) (actions : List String)
    (resourceType : String) :
    Obeys (Permitted callerEmail) (fun later _ => ∀ action ∈ actions,
        action ∈ knownSensitiveActions → Held callerEmail later action resourceType) told
      (assertAuthorizedToGrant callerEmail loaded actions resourceType) := by
  induction actions generalizing told with
  | nil => exact obeys_pure (List.forall_mem_nil _)
  | cons action actions ih =>
      unfold assertAuthorizedToGrant
      split
      · apply (authorize_promises action resourceType holds).followed
        intro allowed later kept isHeld
        cases allowed with
        | false => exact obeys_throw _
        | true =>
            apply (ih fun policy member => (holds policy member).mono kept).kept.mono
              (fun _ _ => id)
            intro after _ ⟨kept, rest⟩
            exact List.forall_mem_cons.mpr ⟨fun _ => (isHeld rfl).mono kept, rest⟩
      · rename_i insensitive
        apply (ih holds).mono (fun _ _ => id)
        intro after _ rest
        exact List.forall_mem_cons.mpr ⟨fun sensitive => absurd sensitive insensitive, rest⟩

/-! The routes. -/

theorem raiseIf_promises {condition : Prop} [Decidable condition] (failure : Failure) :
    Obeys (Permitted callerEmail) (fun _ _ => ¬condition) told
      (raiseIf condition failure : Request rt Unit) := by
  unfold raiseIf
  split
  · exact obeys_throw _
  · exact obeys_pure ‹_›

theorem checkedConditions_promises (incoming : IncomingConditions) :
    Obeys (Permitted callerEmail) (fun _ conditions => conditions.val = incoming.val) told
      (checkedConditions incoming : Request rt _) := by
  unfold checkedConditions
  split
  · exact obeys_pure rfl
  · exact obeys_throw _

theorem getOr404_promises {α : Type} (found : Option α) (detail : String) :
    Obeys (Permitted callerEmail) (fun _ value => found = some value) told
      (getOr404 found detail : Request rt α) := by
  cases found with
  | some value => exact obeys_pure rfl
  | none => exact obeys_throw _

theorem notNull_promises {α : Type} (old : α) (value : Option (Option α)) :
    Obeys (Permitted callerEmail) (fun _ new => value = none ∧ new = old ∨ value = some (some new))
      told (notNull old value : Request rt α) := by
  unfold notNull
  split
  · exact obeys_pure (.inl ⟨rfl, rfl⟩)
  · exact obeys_pure (.inr rfl)
  · exact obeys_throw _

theorem checkedName_promises (policy : Policy rt) (name : Option (Option String)) :
    Obeys (Permitted callerEmail) (fun _ _ => policy.definition.name ∈ protectedPolicyNames →
        name = none ∨ name = some (some policy.definition.name)) told
      (checkedName policy name) := by
  unfold checkedName
  dsimp only
  split
  · exact obeys_pure fun _ => .inl rfl
  · exact (raiseIf_promises _).mono (fun _ _ => id) fun _ _ unprotected isProtected =>
      absurd isProtected unprotected
  · split
    · rename_i same
      exact obeys_pure fun _ => .inr (by rw [same])
    · apply (raiseIf_promises _).followed
      intro _ later _ unprotected
      apply (obeys_told trivial).followed
      intro existing later _ _
      exact (raiseIf_promises _).mono (fun _ _ => id) fun _ _ _ isProtected =>
        absurd isProtected unprotected

theorem checkedActive_promises (policy : Policy rt) (isActive : Option (Option Bool)) :
    Obeys (Permitted callerEmail) (fun _ _ => policy.definition.name ∈ protectedPolicyNames →
        isActive ≠ some (some false)) told (checkedActive policy isActive) :=
  (raiseIf_promises _).mono (fun _ _ => id) fun _ _ fits isProtected isFalse =>
    fits ⟨isProtected, isFalse⟩

theorem newConditions_complies (old : Definition rt) (incoming : Option IncomingConditions) :
    Complies callerEmail told (newConditions old incoming) := by
  cases incoming with
  | none => exact obeys_pure trivial
  | some incoming =>
      exact (checkedConditions_promises incoming).mono (fun _ _ => id) fun _ _ _ => trivial

theorem checkedGrant_promises {policy : Policy rt} (loaded : Loaded told policy)
    (data : PolicyUpdate) (actions : List String) (resourceType : String) :
    Obeys (Permitted callerEmail) (fun later _ => data.actions = none ∨ ∀ action ∈ actions,
        action ∈ knownSensitiveActions → Held callerEmail later action resourceType) told
      (checkedGrant callerEmail policy data actions resourceType) := by
  unfold checkedGrant
  split
  · exact (assertAuthorizedToGrant_promises (loaded_of_some loaded) _ _).mono (fun _ _ => id)
      fun _ _ => .inr
  · rename_i untouched
    exact obeys_pure (.inl (by simpa using (not_or.mp untouched).1))

theorem createPolicy_complies (caller : Caller) (data : PolicyCreate) :
    Complies caller.email told (createPolicy caller data : Request rt _) := by
  apply (requireAuthorization_complies _).followed
  intro _ later _ _
  apply (checkedConditions_promises data.conditions).followed
  intro conditions later _ _
  apply (obeys_told trivial).followed
  intro existing later _ _
  apply (raiseIf_promises _).followed
  intro _ later _ _
  apply (assertAuthorizedToGrant_promises loaded_of_none _ _).followed
  intro _ later _ granted
  exact create_complies granted

theorem updatePolicy_complies (caller : Caller) (policyName : String) (data : PolicyUpdate) :
    Complies caller.email told (updatePolicy keyspace caller policyName data) := by
  apply (requireAuthorization_complies _).followed
  intro _ later _ _
  apply (obeys_told trivial).followed
  intro found later _ wasTold
  apply (getOr404_promises found _).followed
  rintro policy afterFound keptFound rfl
  apply (newConditions_complies _ _).followed
  intro conditions afterConditions keptConditions _
  apply (checkedName_promises policy data.name).followed
  intro _ afterName keptName nameFits
  apply (checkedActive_promises policy data.isActive).followed
  intro _ afterActive keptActive activeFits
  apply (notNull_promises _ data.actions).followed
  intro actions afterActions keptActions isActions
  apply (notNull_promises _ data.resourceType).followed
  intro resourceType afterType keptType _
  have loaded : Loaded afterType policy := ⟨policyName, keptType (keptActions (keptActive (keptName
    (keptConditions (keptFound wasTold)))))⟩
  apply (checkedGrant_promises loaded data actions resourceType).followed
  intro _ afterGrant keptGrant granted
  apply (notNull_promises _ data.name).followed
  intro name afterNewName keptNewName isName
  apply (notNull_promises _ data.isActive).followed
  intro isActive afterAll keptAll isNewActive
  have stillLoaded : Loaded afterAll policy :=
    loaded.mono fun _ member => keptAll (keptNewName (keptGrant member))
  have keeps : KeepsBaseline policy.definition ⟨name, data.description.getD
      policy.definition.description, actions, resourceType, conditions, isActive⟩ := by
    intro isProtected
    refine ⟨?_, fun wasActive => ?_⟩
    · rcases nameFits isProtected with unset | same
      · grind
      · grind
    · have := activeFits isProtected
      grind
  have hands : actions = policy.definition.actions ∨ ∀ action ∈ actions,
      action ∈ knownSensitiveActions → Held caller.email afterAll action resourceType := by
    rcases granted with unset | granted
    · grind
    · exact .inr fun action member sensitive =>
        (granted action member sensitive).mono fun _ h => keptAll (keptNewName h)
  exact (update_promises ⟨stillLoaded, keeps, hands⟩).mono (fun _ _ => id)
    fun _ _ _ => trivial

theorem deletePolicy_complies (caller : Caller) (policyName : String) (reason : Option String) :
    Complies caller.email told (deletePolicy keyspace caller policyName reason : Request rt _) := by
  apply (requireAuthorization_complies _).followed
  intro _ later _ _
  apply (obeys_told trivial).followed
  intro found later _ wasTold
  apply (getOr404_promises found _).followed
  rintro policy afterFound keptFound rfl
  apply (raiseIf_promises _).followed
  intro _ later kept unprotected
  exact delete_complies ⟨policyName, kept (keptFound wasTold), unprotected⟩

theorem assignPolicyToUser_complies (caller : Caller) (userEmail policyName : String) :
    Complies caller.email told (assignPolicyToUser caller userEmail policyName : Request rt _) := by
  apply (requireAuthorization_complies _).followed
  intro _ later _ _
  apply (obeys_told trivial).followed
  intro user later _ _
  apply (getOr404_promises user _).followed
  intro user later _ _
  apply (obeys_told trivial).followed
  intro found afterFound _ wasTold
  apply (getOr404_promises found _).followed
  rintro policy afterPolicy keptPolicy rfl
  apply (assertAuthorizedToGrant_promises
    (loaded_of_some ⟨policyName, keptPolicy wasTold⟩) _ _).followed
  intro _ afterGrant keptGrant granted
  apply assign_complies
  intro later kept
  exact ⟨policyName, policy, kept (keptGrant (keptPolicy wasTold)), rfl,
    Granted.mono granted kept⟩

theorem checkedHolders_promises (policyName : String) (policyId : Int) :
    Obeys (Permitted callerEmail) (fun later _ => policyName = systemSuperuserPolicyName →
        ∃ holders, Program.Told later (.countAssignments policyId) holders ∧ 1 < holders) told
      (checkedHolders policyName policyId : Request rt Unit) := by
  unfold checkedHolders
  split
  · apply (obeys_told trivial).followed
    intro holders later _ wasTold
    apply (raiseIf_promises _).kept.mono (fun _ _ => id)
    intro after _ ⟨kept, enough⟩ _
    exact ⟨holders, kept wasTold, Nat.lt_of_not_le enough⟩
  · exact obeys_pure fun isSuperuser => absurd isSuperuser ‹_›

theorem removePolicyFromUser_complies (caller : Caller) (userEmail policyName : String) :
    Complies caller.email told
      (removePolicyFromUser caller userEmail policyName : Request rt _) := by
  apply (requireAuthorization_complies _).followed
  intro _ later _ _
  apply (obeys_told trivial).followed
  intro user later _ _
  apply (getOr404_promises user _).followed
  intro user later _ _
  apply (obeys_told trivial).followed
  intro found afterFound _ wasTold
  apply (getOr404_promises found _).followed
  rintro policy afterPolicy keptPolicy rfl
  apply (checkedHolders_promises policyName policy.id).followed
  intro _ afterCount keptCount counted
  have permitted : ∀ later : History rt, afterCount ⊆ later →
      Permitted caller.email later (.deleteUserPolicy user.1 policy.id) := by
    intro later kept
    refine ⟨policyName, policy, kept (keptCount (keptPolicy wasTold)), rfl, fun isSuperuser => ?_⟩
    obtain ⟨holders, wasCounted, enough⟩ := counted isSuperuser
    exact ⟨holders, kept wasCounted, enough⟩
  apply (remove_complies permitted).followed
  intro removed later _ _
  exact (raiseIf_promises _).mono (fun _ _ => id) fun _ _ _ => trivial

/-- A rollback that is answered wrote the definition of the entry. -/
theorem rollbackPolicy_promises (caller : Caller) (policyName : String) (historyId : Int)
    (reason : Option String) :
    Obeys (Permitted caller.email) (fun later _ => ∃ loaded entry new change,
        Program.Told later (.selectPolicy policyName) (some loaded) ∧
        Program.Told later (.selectHistory historyId) (some entry) ∧
        new = (definitionForEntry entry).getD loaded.definition ∧
        Program.Told later (.updatePolicy loaded new change) (.ok ())) told
      (rollbackPolicy keyspace caller policyName historyId reason : Request rt _) := by
  apply (requireAuthorization_complies _).followed
  intro _ later _ _
  apply (obeys_told trivial).followed
  intro found afterFound _ wasLoaded
  apply (getOr404_promises found _).followed
  rintro policy afterPolicy keptPolicy rfl
  apply (obeys_told trivial).followed
  intro found afterEntry keptEntry wasFound
  apply (getOr404_promises _ _).followed
  intro entry afterFound keptFound isEntry
  have isFound : found = some entry := (Option.filter_eq_some_iff.mp isEntry).1
  subst isFound
  dsimp only
  split
  · rename_i missing
    apply (raiseIf_promises _).followed
    intro _ later kept _
    have wasLoaded : Program.Told later (.selectPolicy policyName) (some policy) :=
      kept (keptFound (keptEntry (keptPolicy wasLoaded)))
    apply (update_promises ⟨⟨policyName, wasLoaded⟩, fun _ => ⟨rfl, id⟩, .inl rfl⟩).kept.mono
      (fun _ _ => id)
    intro after _ ⟨kept', written⟩
    exact ⟨policy, entry, _, _, kept' wasLoaded, kept' (kept (keptFound wasFound)),
      by rw [missing]; rfl, written⟩
  · rename_i target isTarget
    apply (checkedConditions_promises _).followed
    intro conditions afterConditions keptConditions sameConditions
    obtain rfl : conditions = target.conditions := Subtype.ext sameConditions
    apply (raiseIf_promises _).followed
    intro _ afterName keptName nameFits
    apply (checkedActive_promises policy _).followed
    intro _ afterActive keptActive activeFits
    have kept : afterFound ⊆ afterActive := fun _ member =>
      keptActive (keptName (keptConditions member))
    have wasLoaded : Program.Told afterActive (.selectPolicy policyName) (some policy) :=
      kept (keptFound (keptEntry (keptPolicy wasLoaded)))
    apply (assertAuthorizedToGrant_promises (loaded_of_some ⟨policyName, wasLoaded⟩) _ _).followed
    intro _ afterGrant keptGrant granted
    have wasLoaded := keptGrant wasLoaded
    have keeps : KeepsBaseline policy.definition target := by
      intro isProtected
      refine ⟨?_, fun _ => ?_⟩
      · by_contra differs
        exact nameFits ⟨isProtected, differs⟩
      · cases isActive : target.isActive with
        | true => rfl
        | false => exact absurd (by rw [isActive]) (activeFits isProtected)
    apply (update_promises ⟨⟨policyName, wasLoaded⟩, keeps, .inr granted⟩).kept.mono
      (fun _ _ => id)
    intro after _ ⟨kept', written⟩
    exact ⟨policy, entry, _, _, kept' wasLoaded, kept' (keptGrant (kept (keptFound wasFound))),
      by rw [isTarget]; rfl, written⟩

theorem comparePolicyHistory_complies (caller : Caller) (policyName : String) (fromId toId : Int) :
    Complies caller.email told
      (comparePolicyHistory caller policyName fromId toId : Request rt _) := by
  have compared (label : String) (entry : Option (PolicyHistory rt)) (told : History rt) :
      Complies caller.email told (comparedEntry policyName label entry) := by
    apply (getOr404_promises _ _).followed
    intro entry later _ _
    apply (raiseIf_promises _).followed
    intro _ later _ _
    exact obeys_pure trivial
  apply (requireAuthorization_complies _).followed
  intro _ later _ _
  apply (obeys_told trivial).followed
  intro fromEntry later _ _
  apply (obeys_told trivial).followed
  intro toEntry later _ _
  apply (compared _ fromEntry later).followed
  intro fromEntry later _ _
  apply (compared _ toEntry later).followed
  intro toEntry later _ _
  exact obeys_pure trivial

end Promises

/-- What is known when a route answers. -/
def AdminCall.Fulfils (call : AdminCall) (told : History rt) : Prop :=
  match call with
  | .rollbackPolicy policyName historyId _ => ∃ loaded entry new change,
      Program.Told told (.selectPolicy policyName) (some loaded) ∧
        Program.Told told (.selectHistory historyId) (some entry) ∧
        new = (definitionForEntry entry).getD loaded.definition ∧
        Program.Told told (.updatePolicy loaded new change) (.ok ())
  | _ => True

theorem AdminCall.run_promises (keyspace : Keyspace) (caller : Caller) (call : AdminCall) :
    Obeys (Permitted caller.email) (fun told _ => call.Fulfils told) []
      (call.run keyspace caller : Request rt _) := by
  cases call with
  | createPolicy data => exact (createPolicy_complies caller data).map fun _ _ _ _ => trivial
  | updatePolicy policyName data =>
      exact (updatePolicy_complies caller policyName data).map fun _ _ _ _ => trivial
  | deletePolicy policyName reason =>
      exact (deletePolicy_complies caller policyName reason).map fun _ _ _ _ => trivial
  | assignPolicyToUser userEmail policyName =>
      exact (assignPolicyToUser_complies caller userEmail policyName).map fun _ _ _ _ => trivial
  | removePolicyFromUser userEmail policyName =>
      exact (removePolicyFromUser_complies caller userEmail policyName).map fun _ _ _ _ => trivial
  | rollbackPolicy policyName historyId reason =>
      exact (rollbackPolicy_promises caller policyName historyId reason).map fun _ _ _ => id
  | comparePolicyHistory policyName fromId toId =>
      exact (comparePolicyHistory_complies caller policyName fromId toId).map
        fun _ _ _ _ => trivial

end BalanceSheetAnalysis.Policies

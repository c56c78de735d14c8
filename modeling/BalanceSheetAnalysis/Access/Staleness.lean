import Mathlib.Data.List.Chain
import Mathlib.Data.List.Infix
import BalanceSheetAnalysis.Access.Documented
import BalanceSheetAnalysis.Authorization.PolicyRepository

/-! What a listing knows of a policy change that was over before it started.  A
reader may store a list it read before the change after the change has cleared
the key; wherever no reader does, no listing is stale. -/
namespace BalanceSheetAnalysis.Access
open Library Library.Raising Authorization

variable {rt : Runtime}

/-- `get_company_scope`, the policies first. -/
def companyScope (userEmail action resourceType : String) :
    PolicyAction rt (Except ScopeError CompanyScope) := do
  let policies ← getActivePoliciesForUser userEmail
  return getCompanyScope policies action resourceType

inductive PolicyCall (rt : Runtime) where
  | companyScope (userEmail action resourceType : String)
  | assignPolicyToUser (userId policyId : Int) (userEmail : Option String)
  | removePolicyFromUser (userId policyId : Int) (userEmail : Option String)
  | updatePolicy (policyId : Int) (data : PolicyUpdate rt)
  | deletePolicy (policyId : Int)

inductive PolicyAnswer where
  | scope (result : Except ScopeError CompanyScope)
  | done

abbrev PolicyOutcome := Except RepositoryError PolicyAnswer

namespace PolicyCall

def run (keyspace : Keyspace) : PolicyCall rt → PolicyAction rt PolicyAnswer
  | .companyScope userEmail action resourceType =>
      .scope <$> Access.companyScope userEmail action resourceType
  | .assignPolicyToUser userId policyId userEmail => do
      Authorization.assignPolicyToUser userId policyId userEmail
      return .done
  | .removePolicyFromUser userId policyId userEmail => do
      let _ ← Authorization.removePolicyFromUser userId policyId userEmail
      return .done
  | .updatePolicy policyId data => do
      Authorization.updatePolicy keyspace policyId data
      return .done
  | .deletePolicy policyId => do
      Authorization.deletePolicy keyspace policyId
      return .done

/-- The revocations from the user, and the edits. -/
def Covers (call : PolicyCall rt) (userEmail : String) : Prop :=
  match call with
  | .removePolicyFromUser _ _ email => email = some userEmail
  | .updatePolicy _ _ | .deletePolicy _ => True
  | _ => False

/-- What a call knows when it returns: a listing the policies its scope is of, a
change that the keys it concerns are gone. -/
def Fulfils (keyspace : Keyspace) (call : PolicyCall rt)
    (told : Program.History (@PolicyReply rt)) (answer : PolicyAnswer) : Prop :=
  match call with
  | .companyScope userEmail action resourceType => ∃ policies,
      answer = .scope (getCompanyScope policies action resourceType) ∧
      (Program.Told told (.getUserPolicies userEmail) (some policies) ∨
        Program.Told told (.selectActivePolicies userEmail) policies)
  | call => ∀ userEmail, call.Covers userEmail → (∃ entry ∈ told, Commits entry) →
      KeyGone keyspace told userEmail

theorem run_orderly (keyspace : Keyspace) (call : PolicyCall rt) :
    Obeys (Orderly keyspace) (call.Fulfils keyspace) [] (call.run keyspace) := by
  cases call with
  | companyScope userEmail action resourceType =>
      apply Obeys.bind (Obeys.bind (getActivePoliciesForUser_orderly userEmail) ?_) ?_
      · exact fun told result => ∃ policies,
          result = getCompanyScope policies action resourceType ∧
          (Program.Told told (.getUserPolicies userEmail) (some policies) ∨
            Program.Told told (.selectActivePolicies userEmail) policies)
      · intro policies later read
        exact obeys_pure ⟨policies, rfl, read⟩
      · rintro _ later ⟨policies, rfl, read⟩
        exact obeys_pure ⟨policies, rfl, read⟩
  | assignPolicyToUser userId policyId userEmail =>
      apply (assignPolicyToUser_orderly userId policyId userEmail).bind
      intro _ later _
      exact obeys_pure fun _ => nofun
  | removePolicyFromUser userId policyId userEmail =>
      apply (removePolicyFromUser_orderly userId policyId userEmail).bind
      intro _ later cleared
      exact obeys_pure cleared
  | updatePolicy policyId data =>
      apply (updatePolicy_orderly policyId data).bind
      intro _ later cleared
      exact obeys_pure fun email _ _ => cleared email
  | deletePolicy policyId =>
      apply (deletePolicy_orderly policyId).bind
      intro _ later cleared
      exact obeys_pure fun email _ _ => cleared email

theorem Fulfils.gone {call : PolicyCall rt} {told : Program.History (@PolicyReply rt)}
    {answer : PolicyAnswer} (fulfils : call.Fulfils keyspace told answer) {userEmail : String}
    (covers : call.Covers userEmail) (committed : ∃ entry ∈ told, Commits entry) :
    KeyGone keyspace told userEmail := by
  cases call with
  | companyScope => exact covers.elim
  | assignPolicyToUser => exact covers.elim
  | removePolicyFromUser => exact fulfils userEmail covers committed
  | updatePolicy => exact fulfils userEmail covers committed
  | deletePolicy => exact fulfils userEmail covers committed

end PolicyCall

variable {ι : Type} (keyspace : Keyspace)

/-- The calls at work, nothing cached yet. -/
def policyPool (tables : PolicyTables rt) (calls : ι → PolicyCall rt) :
    Pool (@PolicyReply rt) (PolicyWorld rt) ι PolicyOutcome where
  state := ⟨tables, []⟩
  threads i := ExceptT.run ((calls i).run keyspace)

theorem policyPool_orderly (tables : PolicyTables rt) (calls : ι → PolicyCall rt) (i : ι) :
    Program.Obeys (Orderly keyspace)
      (fun told outcome => ∀ answer, outcome = .ok answer → (calls i).Fulfils keyspace told answer)
      [] ((policyPool keyspace tables calls).threads i) :=
  (calls i).run_orderly keyspace

abbrev PolicyEvent (rt : Runtime) (ι : Type) := Event (PolicyOp rt) (PolicyWorld rt) ι

/-- The operation of an event and the reply to it. -/
def entryOf (e : PolicyEvent rt ι) : Sigma (@PolicyReply rt) :=
  ⟨e.op, (PolicyWorld.exec keyspace e.op e.before).1⟩

/-- The commit of a change that covers the user. -/
def Changes (calls : ι → PolicyCall rt) (userEmail : String) (e : PolicyEvent rt ι) : Prop :=
  (calls e.thread).Covers userEmail ∧ Commits (entryOf keyspace e)

/-- The thread has cleared the key of the user. -/
def HasCleared (events : List (PolicyEvent rt ι)) (thread : ι) (userEmail : String) : Prop :=
  ∃ e ∈ events, e.thread = thread ∧ Clears keyspace userEmail (entryOf keyspace e)

/-- A list is not stored once a change that came after it was read has cleared
the key. -/
def StoresPromptly (calls : ι → PolicyCall rt) (before : List (PolicyEvent rt ι))
    (e : PolicyEvent rt ι) : Prop :=
  ∀ userEmail policies, e.op = .setUserPolicies userEmail policies →
    ∀ past read between, before = past ++ read :: between → read.thread = e.thread →
      (∀ d ∈ between, d.thread ≠ e.thread) →
      ∀ c ∈ between, Changes keyspace calls userEmail c →
        ¬HasCleared keyspace before c.thread userEmail

/-- A listing that starts after a change has returned is of policies the
database held after the change. -/
def ListsCurrent [DecidableEq ι] (tables : PolicyTables rt) (calls : ι → PolicyCall rt)
    (schedule : List ι) : Prop :=
  ∀ first rest changing listing change answer userEmail action resourceType result,
    schedule = first ++ rest →
    ((policyPool keyspace tables calls).runSchedule (PolicyWorld.exec keyspace) first).threads
      changing = .done (.ok answer) →
    change ∈ (policyPool keyspace tables calls).trace (PolicyWorld.exec keyspace) first →
    change.thread = changing → Changes keyspace calls userEmail change →
    calls listing = .companyScope userEmail action resourceType →
    (∀ e ∈ (policyPool keyspace tables calls).trace (PolicyWorld.exec keyspace) first,
      e.thread ≠ listing) →
    ((policyPool keyspace tables calls).runSchedule (PolicyWorld.exec keyspace) schedule).threads
      listing = .done (.ok (.scope result)) →
    ∃ upTo, upTo <+: schedule ∧
      change ∈ (policyPool keyspace tables calls).trace (PolicyWorld.exec keyspace) upTo ∧
      result = getCompanyScope
        (((policyPool keyspace tables calls).runSchedule (PolicyWorld.exec keyspace)
          upTo).state.tables.activePolicies userEmail) action resourceType

section Held
variable {keyspace} {calls : ι → PolicyCall rt} {events : List (PolicyEvent rt ι)}

/-- The list was read, and no change since then has cleared the key. -/
def ReadSince (keyspace : Keyspace) (calls : ι → PolicyCall rt) (events : List (PolicyEvent rt ι))
    (userEmail : String) (policies : List (Policy rt)) : Prop :=
  ∃ past read later, events = past ++ read :: later ∧
    read.op = .selectActivePolicies userEmail ∧
    policies = read.before.tables.activePolicies userEmail ∧
    ∀ c ∈ later, Changes keyspace calls userEmail c →
      ¬HasCleared keyspace events c.thread userEmail

theorem hasCleared_concat {e : PolicyEvent rt ι} {thread : ι} {userEmail : String}
    (kept : ¬Clears keyspace userEmail (entryOf keyspace e))
    (cleared : HasCleared keyspace (events ++ [e]) thread userEmail) :
    HasCleared keyspace events thread userEmail := by
  obtain ⟨d, member, isThread, clears⟩ := cleared
  cases List.mem_append.mp member with
  | inl earlier => exact ⟨d, earlier, isThread, clears⟩
  | inr last => exact absurd (List.mem_singleton.mp last ▸ clears) kept

theorem ReadSince.concat {userEmail : String} {policies : List (Policy rt)}
    {e : PolicyEvent rt ι} (since : ReadSince keyspace calls events userEmail policies)
    (kept : ¬Clears keyspace userEmail (entryOf keyspace e))
    (fresh : Commits (entryOf keyspace e) → ¬HasCleared keyspace events e.thread userEmail) :
    ReadSince keyspace calls (events ++ [e]) userEmail policies := by
  obtain ⟨past, read, later, rfl, isRead, isList, unmoved⟩ := since
  refine ⟨past, read, later ++ [e], by simp, isRead, isList, ?_⟩
  intro c member changes cleared
  have before := hasCleared_concat kept cleared
  cases List.mem_append.mp member with
  | inl earlier => exact unmoved c earlier changes before
  | inr last =>
      rw [List.mem_singleton.mp last] at changes before
      exact fresh changes.2 before

/-- A change that has cleared the key came before the list was read. -/
theorem ReadSince.preceded {userEmail : String} {policies : List (Policy rt)}
    {c : PolicyEvent rt ι} (since : ReadSince keyspace calls events userEmail policies)
    (member : c ∈ events) (changes : Changes keyspace calls userEmail c)
    (cleared : HasCleared keyspace events c.thread userEmail) :
    ∃ past read later, events = past ++ read :: later ∧ c ∈ past ∧
      policies = read.before.tables.activePolicies userEmail := by
  obtain ⟨past, read, later, split, isRead, isList, unmoved⟩ := since
  refine ⟨past, read, later, split, ?_, isList⟩
  rw [split] at member
  cases List.mem_append.mp member with
  | inl earlier => exact earlier
  | inr here =>
      cases List.mem_cons.mp here with
      | inr after => exact absurd cleared (unmoved c after changes)
      | inl same =>
          have commits := changes.2
          rw [same, entryOf, isRead] at commits
          exact commits.elim

/-- The invariant of the cache. -/
def CacheCurrent (keyspace : Keyspace) (calls : ι → PolicyCall rt) (world : PolicyWorld rt)
    (events : List (PolicyEvent rt ι)) : Prop :=
  ∀ userEmail policies, world.cached userEmail = some policies →
    ReadSince keyspace calls events userEmail policies

/-- A list that is stored next after it was read is stored promptly. -/
def StoredNext (d e : PolicyEvent rt ι) : Prop :=
  match e.op with
  | .setUserPolicies _ _ => d.thread = e.thread
  | _ => True

theorem storesPromptly_of_isChain {events : List (PolicyEvent rt ι)}
    (chain : events.IsChain StoredNext) {before after : List (PolicyEvent rt ι)}
    {e : PolicyEvent rt ι} (split : events = before ++ e :: after) :
    StoresPromptly keyspace calls before e := by
  intro userEmail policies isStore past read between isBefore isThread silent c member
  subst isBefore split
  cases List.eq_nil_or_concat between with
  | inl empty =>
      rw [empty] at member
      cases member
  | inr last =>
      obtain ⟨init, d, rfl⟩ := last
      have next : StoredNext d e := by
        rw [List.append_assoc, List.cons_append, List.concat_eq_append, List.append_assoc,
          ← List.cons_append, ← List.append_assoc] at chain
        exact (List.isChain_append_cons_cons.mp chain).2.1
      rw [StoredNext, isStore] at next
      exact absurd next (silent d (by simp))

variable [DecidableEq ι]

theorem hasCleared_iff {thread : ι} {userEmail : String} :
    HasCleared keyspace events thread userEmail ↔
      KeyGone keyspace (Pool.historyOf (PolicyWorld.exec keyspace) events thread) userEmail := by
  constructor
  · rintro ⟨e, member, rfl, clears⟩
    exact ⟨_, Pool.told_of_event member, clears⟩
  · rintro ⟨⟨op, reply⟩, told, clears⟩
    obtain ⟨found, member, rfl⟩ := Pool.event_of_told told
    exact ⟨_, member, rfl, clears⟩

theorem cacheCurrent_step {e : PolicyEvent rt ι}
    (orderly : Orderly keyspace
      (Pool.historyOf (PolicyWorld.exec keyspace) events e.thread) e.op)
    (current : CacheCurrent keyspace calls e.before events)
    (prompt : StoresPromptly keyspace calls events e) :
    CacheCurrent keyspace calls (PolicyWorld.exec keyspace e.op e.before).2 (events ++ [e]) := by
  intro userEmail policies found
  have fresh (commits : Commits (entryOf keyspace e)) :
      ¬HasCleared keyspace events e.thread userEmail := by
    rw [hasCleared_iff]
    rintro ⟨entry, told, clears⟩
    exact not_clears_of_commits orderly commits userEmail told clears
  cases cached_exec found with
  | inl already => exact (current userEmail policies already.1).concat already.2 fresh
  | inr stored =>
      have kept : ¬Clears keyspace userEmail (entryOf keyspace e) := by
        rw [entryOf, stored]
        exact id
      rw [stored] at orderly
      obtain ⟨past, read, between, rfl, isThread, isEntry, silent⟩ :=
        Pool.event_of_last orderly
      have isRead : read.op = .selectActivePolicies userEmail := congrArg Sigma.fst isEntry
      refine ReadSince.concat ⟨past, read, between, rfl, isRead, ?_, ?_⟩ kept fresh
      · obtain ⟨thread, op, world⟩ := read
        subst isRead
        simpa [PolicyWorld.exec] using isEntry.symm
      · exact prompt userEmail policies stored past read between rfl isThread silent

theorem subset_of_not_mem {α : Type} {first rest before after : List α} {a : α}
    (split : first ++ rest = before ++ a :: after) (absent : a ∉ first) : first ⊆ before := by
  cases List.append_eq_append_iff.mp split with
  | inl shorter =>
      obtain ⟨middle, rfl, _⟩ := shorter
      exact List.subset_append_left _ _
  | inr longer =>
      obtain ⟨middle, rfl, isRest⟩ := longer
      cases middle with
      | nil => simp
      | cons head tail =>
          rw [List.cons_append, List.cons.injEq] at isRest
          exact absurd (isRest.1 ▸ List.mem_append_right _ (.head _)) absent

end Held

section Listings
variable {keyspace} [DecidableEq ι] {tables : PolicyTables rt} {calls : ι → PolicyCall rt}
  {schedule : List ι}

theorem cacheCurrent_runSchedule (prompt : ∀ before e after,
      (policyPool keyspace tables calls).trace (PolicyWorld.exec keyspace) schedule =
        before ++ e :: after → StoresPromptly keyspace calls before e) :
    CacheCurrent keyspace calls
      ((policyPool keyspace tables calls).runSchedule (PolicyWorld.exec keyspace) schedule).state
      ((policyPool keyspace tables calls).trace (PolicyWorld.exec keyspace) schedule) := by
  have start : CacheCurrent keyspace calls (policyPool keyspace tables calls).state [] := by
    intro userEmail policies found
    cases found
  apply Pool.traced_runSchedule start (policyPool_orderly keyspace tables calls) _ _ prompt
  intro events e orderly current isPrompt
  exact cacheCurrent_step orderly current isPrompt

theorem cacheCurrent_at (prompt : ∀ before e after,
      (policyPool keyspace tables calls).trace (PolicyWorld.exec keyspace) schedule =
        before ++ e :: after → StoresPromptly keyspace calls before e)
    {before after : List (PolicyEvent rt ι)} {e : PolicyEvent rt ι}
    (split : (policyPool keyspace tables calls).trace (PolicyWorld.exec keyspace) schedule =
      before ++ e :: after) : CacheCurrent keyspace calls e.before before := by
  obtain ⟨start, more, _, isSchedule, isBefore, _, isState⟩ := Pool.trace_split split
  rw [← isState, isBefore]
  apply cacheCurrent_runSchedule
  intro first d rest here
  apply prompt first d (rest ++ _)
  rw [isSchedule, Pool.trace_append, here, List.append_assoc, List.cons_append]

theorem fulfils_of_returned {i : ι} {answer : PolicyAnswer}
    (returned : ((policyPool keyspace tables calls).runSchedule (PolicyWorld.exec keyspace)
      schedule).threads i = .done (.ok answer)) :
    (calls i).Fulfils keyspace (Pool.historyOf (PolicyWorld.exec keyspace)
      ((policyPool keyspace tables calls).trace (PolicyWorld.exec keyspace) schedule) i)
      answer := by
  have reached := Pool.obeys_runSchedule (PolicyWorld.exec keyspace)
    (policyPool_orderly keyspace tables calls) schedule i
  rw [returned] at reached
  exact reached answer rfl

/-- A call that has returned has cleared the key its change concerns. -/
theorem hasCleared_of_returned {change : PolicyEvent rt ι} {answer : PolicyAnswer}
    {userEmail : String}
    (returned : ((policyPool keyspace tables calls).runSchedule (PolicyWorld.exec keyspace)
      schedule).threads change.thread = .done (.ok answer))
    (member : change ∈
      (policyPool keyspace tables calls).trace (PolicyWorld.exec keyspace) schedule)
    (changes : Changes keyspace calls userEmail change) :
    HasCleared keyspace ((policyPool keyspace tables calls).trace (PolicyWorld.exec keyspace)
      schedule) change.thread userEmail := by
  rw [hasCleared_iff]
  exact (fulfils_of_returned returned).gone changes.1 ⟨_, Pool.told_of_event member, changes.2⟩

/-- The policies of a listing were read, by the listing or by whom it has them
from, and no change since then had cleared the key. -/
theorem readSince_of_listing {listing : ι} {userEmail action resourceType : String}
    {result : Except ScopeError CompanyScope}
    (prompt : ∀ before e after,
      (policyPool keyspace tables calls).trace (PolicyWorld.exec keyspace) schedule =
        before ++ e :: after → StoresPromptly keyspace calls before e)
    (isListing : calls listing = .companyScope userEmail action resourceType)
    (ended : ((policyPool keyspace tables calls).runSchedule (PolicyWorld.exec keyspace)
      schedule).threads listing = .done (.ok (.scope result))) :
    ∃ policies before e after,
      (policyPool keyspace tables calls).trace (PolicyWorld.exec keyspace) schedule =
        before ++ e :: after ∧ e.thread = listing ∧
      result = getCompanyScope policies action resourceType ∧
      ReadSince keyspace calls (before ++ [e]) userEmail policies := by
  have fulfils := fulfils_of_returned ended
  rw [isListing] at fulfils
  obtain ⟨policies, ⟨⟩, told⟩ := fulfils
  cases told with
  | inl hit =>
      obtain ⟨found, member, isReply⟩ := Pool.event_of_told hit
      obtain ⟨before, after, split⟩ := List.append_of_mem member
      have since := cacheCurrent_at prompt split userEmail policies isReply.symm
      exact ⟨policies, before, _, after, split, rfl, rfl, since.concat id False.elim⟩
  | inr miss =>
      obtain ⟨found, member, isReply⟩ := Pool.event_of_told miss
      obtain ⟨before, after, split⟩ := List.append_of_mem member
      exact ⟨policies, before, _, after, split, rfl, rfl, before, _, [], rfl, rfl, isReply,
        List.forall_mem_nil _⟩

end Listings

/-- Wherever every list is stored before a later change clears its key, no
listing is stale. -/
theorem listings_current [DecidableEq ι] (tables : PolicyTables rt) (calls : ι → PolicyCall rt)
    (schedule : List ι)
    (prompt : ∀ before e after,
      (policyPool keyspace tables calls).trace (PolicyWorld.exec keyspace) schedule =
        before ++ e :: after → StoresPromptly keyspace calls before e) :
    ListsCurrent keyspace tables calls schedule := by
  intro first rest changing listing change answer userEmail action resourceType result
    isSchedule returned member isThread changes isListing unstarted ended
  subst isThread isSchedule
  have cleared := hasCleared_of_returned returned member changes
  obtain ⟨policies, before, e, after, split, isOwn, rfl, since⟩ :=
    readSince_of_listing prompt isListing ended
  have earlier : (policyPool keyspace tables calls).trace (PolicyWorld.exec keyspace) first ⊆
      before := by
    rw [Pool.trace_append] at split
    exact subset_of_not_mem split fun inside => unstarted e inside isOwn
  have upToRead := List.Subset.trans earlier (List.subset_append_left before [e])
  have clearedByThen : HasCleared keyspace (before ++ [e]) change.thread userEmail := by
    obtain ⟨d, inside, clears⟩ := cleared
    exact ⟨d, upToRead inside, clears⟩
  obtain ⟨past, read, later, same, preceded, rfl⟩ :=
    since.preceded (upToRead member) changes clearedByThen
  rw [List.append_cons, same, List.append_assoc] at split
  obtain ⟨upTo, more, _, isSchedule, rfl, _, isState⟩ := Pool.trace_split split
  refine ⟨upTo, ⟨_, isSchedule.symm⟩, preceded, ?_⟩
  rw [isState]

def oneGrant : PolicyTables utcRuntime where
  policies := [⟨1, policyForAll [COMPANY_READ], true⟩]
  users := [(1, "ada")]
  userPolicies := [(1, 1)]

/-- Two listings, and a revocation. -/
def revokingCalls : Fin 3 → PolicyCall utcRuntime
  | 1 => .removePolicyFromUser 1 1 (some "ada")
  | _ => .companyScope "ada" COMPANY_READ RESOURCE_COMPANY

def onePage : Keyspace where
  pages := 1
  pageOf _ := 0

/-- The listing of a user who has nothing left. -/
theorem listings_current_revoked :
    ListsCurrent onePage oneGrant revokingCalls [1, 1, 1, 2, 2, 2] := by
  apply listings_current
  intro before e after
  apply storesPromptly_of_isChain
  let revoked : PolicyWorld utcRuntime := ⟨{ oneGrant with userPolicies := [] }, []⟩
  have isTrace : (policyPool onePage oneGrant revokingCalls).trace (PolicyWorld.exec onePage)
      [1, 1, 1, 2, 2, 2] =
      [⟨1, .selectUserPolicy 1 1, ⟨oneGrant, []⟩⟩, ⟨1, .deleteUserPolicy 1 1, ⟨oneGrant, []⟩⟩,
        ⟨1, .deleteKey "ada", revoked⟩, ⟨2, .getUserPolicies "ada", revoked⟩,
        ⟨2, .selectActivePolicies "ada", revoked⟩, ⟨2, .setUserPolicies "ada" [], revoked⟩] := rfl
  rw [isTrace]
  simp [StoredNext]

def isRevocation (e : PolicyEvent rt ι) : Bool :=
  match e.op with
  | .deleteUserPolicy _ _ => true
  | _ => false

/-- The first listing read the grant before it was revoked, and stores it last. -/
theorem late_store_stale :
    ¬ListsCurrent onePage oneGrant revokingCalls [0, 0, 1, 1, 1, 0, 2] := by
  intro current
  have member : (⟨1, .deleteUserPolicy 1 1, ⟨oneGrant, []⟩⟩ : PolicyEvent utcRuntime (Fin 3)) ∈
      (policyPool onePage oneGrant revokingCalls).trace (PolicyWorld.exec onePage)
        [0, 0, 1, 1, 1] :=
    .tail _ (.tail _ (.tail _ (.head _)))
  have unstarted : ∀ e ∈ (policyPool onePage oneGrant revokingCalls).trace
      (PolicyWorld.exec onePage) [0, 0, 1, 1, 1], e.thread ≠ 2 := by
    have threads : ((policyPool onePage oneGrant revokingCalls).trace
        (PolicyWorld.exec onePage) [0, 0, 1, 1, 1]).map Event.thread = [0, 0, 1, 1, 1] := rfl
    intro e isEvent same
    have listed := List.mem_map.mpr ⟨e, isEvent, same⟩
    rw [threads] at listed
    revert listed
    decide
  obtain ⟨upTo, reached, revoked, isScope⟩ := current [0, 0, 1, 1, 1] [0, 2] 1 2 _ .done "ada"
    COMPANY_READ RESOURCE_COMPANY (.ok ⟨true, [], []⟩) rfl rfl member rfl ⟨rfl, trivial⟩ rfl
    unstarted rfl
  have settled : ∀ upTo ∈ [0, 0, 1, 1, 1, 0, 2].inits,
      ((policyPool onePage oneGrant revokingCalls).trace (PolicyWorld.exec onePage) upTo).any
        isRevocation = true →
      (((policyPool onePage oneGrant revokingCalls).runSchedule (PolicyWorld.exec onePage)
        upTo).state.tables.activePolicies "ada").isEmpty = true := by decide
  have nothing := settled upTo ((List.mem_inits _ _).mpr reached)
    (List.any_eq_true.mpr ⟨_, revoked, rfl⟩)
  rw [List.isEmpty_iff.mp nothing] at isScope
  cases isScope

end BalanceSheetAnalysis.Access

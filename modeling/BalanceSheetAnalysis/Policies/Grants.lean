import BalanceSheetAnalysis.Policies.Baseline

/-! Administrators hand out only what they hold.  A sensitive action none of them
holds reaches nobody through them, whichever rights to manage policies they have;
unless one of them takes the action from a policy that another has loaded and then
finds herself to hold. -/
namespace BalanceSheetAnalysis.Policies
open Library
open Authorization hiding Policy PolicyUpdate

variable {rt : Runtime} {keyspace : Keyspace} {ι : Type} [DecidableEq ι]

/-- The policy lists the action, whether or not it is active. -/
def Lists (action : String) (store : Store rt) (policyId : Int) : Prop :=
  ∃ policy, store.findPolicy policyId = some policy ∧ action ∈ policy.definition.actions

instance (action : String) (store : Store rt) (policyId : Int) :
    Decidable (Lists action store policyId) :=
  decidable_of_iff ((store.findPolicy policyId).any (action ∈ ·.definition.actions) = true)
    (by simp [Lists, Option.any_eq_true])

/-- Some policy of the user lists the action. -/
def Holds (action : String) (store : Store rt) (email : String) : Prop :=
  ∃ held ∈ store.userPolicies, (held.userId, email) ∈ store.users ∧
    Lists action store held.policyId

instance (action : String) (store : Store rt) (email : String) :
    Decidable (Holds action store email) :=
  inferInstanceAs (Decidable (∃ held ∈ store.userPolicies, (held.userId, email) ∈ store.users ∧
    Lists action store held.policyId))

/-- No cached list of these users has the action. -/
def Uncached (action : String) (isCaller : String → Prop) (store : Store rt) : Prop :=
  ∀ email, isCaller email → ∀ entry, (email, entry) ∈ store.cache →
    ∀ policy ∈ entry.policies, action ∉ policy.actions

/-- Who holds the action held it at the start, and by the same policy. -/
structure Confined (action : String) (isCaller : String → Prop) (initial store : Store rt) :
    Prop where
  users : store.users = initial.users
  links : ∀ held ∈ store.userPolicies, Lists action store held.policyId →
    held ∈ initial.userPolicies ∧ Lists action initial held.policyId
  uncached : Uncached action isCaller store

section Step
variable {action callerEmail : String} {isCaller : String → Prop} {initial store : Store rt}
  {told : History rt} {op : Command rt}

theorem Confined.holds (confined : Confined action isCaller initial store) {email : String}
    (holds : Holds action store email) : Holds action initial email := by
  obtain ⟨held, member, isUser, lists⟩ := holds
  obtain ⟨wasHeld, listed⟩ := confined.links held member lists
  exact ⟨held, wasHeld, confined.users ▸ isUser, listed⟩

/-- The row lists what the object lists that stands for it, if that is not stale. -/
theorem lists_of_identified (wellFormed : store.WellFormed) {loaded : Option (Policy rt)}
    (current : ∀ held ∈ loaded, action ∈ held.definition.actions → Lists action store held.id)
    {row : Policy rt} (inside : row ∈ store.policies)
    (lists : action ∈ (Store.identified loaded row).definition.actions) :
    Lists action store row.id := by
  unfold Store.identified at lists
  cases same : loaded.filter (·.id = row.id) with
  | none =>
      rw [same] at lists
      exact ⟨row, Table.find_of_mem wellFormed.keyed inside, lists⟩
  | some held =>
      rw [same] at lists
      obtain ⟨isLoaded, isRow⟩ := Option.filter_eq_some_iff.mp same
      rw [← of_decide_eq_true isRow]
      exact current held isLoaded lists

theorem holds_of_active (wellFormed : store.WellFormed) {loaded : Option (Policy rt)}
    (current : ∀ held ∈ loaded, action ∈ held.definition.actions → Lists action store held.id)
    {email : String} {policy : Authorization.Policy rt}
    (active : policy ∈ store.activePolicies email loaded) (lists : action ∈ policy.actions) :
    Holds action store email := by
  obtain ⟨row, inside, member⟩ := List.mem_flatMap.mp active
  split at member
  · obtain ⟨held, isHeld, rfl⟩ := List.mem_map.mp member
    obtain ⟨isLink, own⟩ := List.mem_filter.mp isHeld
    obtain ⟨isPolicy, isUser⟩ := of_decide_eq_true own
    refine ⟨held, isLink, by simpa using isUser, ?_⟩
    rw [isPolicy]
    exact lists_of_identified wellFormed current inside lists
  · cases member

/-- What a user is told to hold is in the cache, or in the tables. -/
theorem mem_cache_of_cached {email : String} {policies : List (Authorization.Policy rt)}
    (cached : store.cached email = some policies) :
    ∃ entry, (email, entry) ∈ store.cache ∧ entry.policies = policies := by
  obtain ⟨⟨key, entry⟩, found, rfl⟩ := Option.map_eq_some_iff.mp cached
  obtain ⟨member, rfl⟩ := Table.find_eq_some (Option.filter_eq_some_iff.mp found).1
  exact ⟨entry, member, rfl⟩

/-- No command of a caller who does not hold the action makes a policy list it. -/
theorem lists_of_exec (wellFormed : store.WellFormed) (sensitive : action ∈ knownSensitiveActions)
    (permitted : Permitted callerEmail told op)
    (unheld : ∀ resourceType, ¬Held callerEmail told action resourceType) {policyId : Int}
    (lists : Lists action (Store.exec keyspace op store).2 policyId) :
    Lists action store policyId := by
  obtain ⟨policy, found, member⟩ := lists
  rcases wellFormed.find_of_exec keyspace op policyId with
    same | ⟨definition, createdBy, rfl, _, isNew⟩ |
    ⟨loaded, new, change, row, rfl, _, isRow, isNew⟩ | ⟨_, _, _, _, _, gone⟩
  · exact ⟨policy, same.symm.trans found, member⟩
  · cases isNew.symm.trans found
    exact absurd (permitted action member sensitive) (unheld _)
  · cases isNew.symm.trans found
    refine ⟨row, isRow, ?_⟩
    obtain ⟨_, _, same | granted⟩ := permitted
    · simpa [Definition.write, Field.differs, same] using member
    · have absent : action ∉ new.actions :=
        fun inside => unheld _ (granted action inside sensitive)
      simp only [Definition.write] at member
      split at member
      · exact absurd member absent
      · exact member
  · rw [gone] at found
    cases found

/-- The command takes the action from the policy. -/
def Drops (action : String) (policyId : Int) (store later : Store rt) : Prop :=
  Lists action store policyId ∧ ¬Lists action later policyId

end Step

section Run
variable {clients : ι → AdminRequest} {requests : Requests rt ι} {schedule : List ι}
  {before after : List (PolicyEvent rt ι)} {d : PolicyEvent rt ι} {action : String}

/-- The users who send the requests. -/
def IsCaller (clients : ι → AdminRequest) (email : String) : Prop :=
  ∃ i, (clients i).caller.email = email

/-- Between a request's loading of a policy and its reading of what its caller holds,
no one takes the action from that policy. -/
def ReadApart (keyspace : Keyspace) (action : String) (events : List (PolicyEvent rt ι)) : Prop :=
  ∀ before load mid read after, events = before ++ load :: (mid ++ read :: after) →
    load.thread = read.thread → ∀ name loaded, load.op = .selectPolicy name →
      load.before.named name = some loaded → ∀ email,
        read.op = .selectActivePolicies email (some loaded) →
          ∀ c ∈ mid, ¬Drops action loaded.id c.before (Store.exec keyspace c.op c.before).2

omit [DecidableEq ι] in
/-- So it is where no policy is changed. -/
theorem readApart_of_unchanged {events : List (PolicyEvent rt ι)}
    (wellFormed : ∀ c ∈ events, c.before.WellFormed)
    (unchanged : ∀ c ∈ events, c.op.changed = none) : ReadApart keyspace action events := by
  rintro before load mid read after rfl _ _ loaded _ _ _ _ c between ⟨⟨policy, found, lists⟩, gone⟩
  have member : c ∈ before ++ load :: (mid ++ read :: after) := by simp [between]
  rcases (wellFormed c member).find_of_exec keyspace c.op loaded.id with
    same | ⟨_, _, _, absent, _⟩ | ⟨_, _, _, _, isOp, _⟩ | ⟨_, _, _, isOp, _⟩
  · exact gone ⟨policy, same.trans found, lists⟩
  · cases found.symm.trans absent
  · have none := unchanged c member
    rw [isOp] at none
    cases none
  · have none := unchanged c member
    rw [isOp] at none
    cases none

/-- What a request has loaded is as it was when the request reads what its caller
holds. -/
theorem lists_at_read (started : Started keyspace clients requests)
    (start : requests.state.WellFormed)
    (apart : ReadApart keyspace action (requests.trace (Store.exec keyspace) schedule))
    {i : ι} {email : String} {loaded : Option (Policy rt)} {found : Store rt}
    (member : ⟨i, .selectActivePolicies email loaded, found⟩ ∈
      requests.trace (Store.exec keyspace) schedule) :
    ∀ held ∈ loaded, action ∈ held.definition.actions → Lists action found held.id := by
  rintro held ⟨⟩ lists
  have wellFormed := (wellFormed_throughout keyspace start schedule).1
  obtain ⟨before, after, split⟩ := List.append_of_mem member
  obtain ⟨name, wasTold⟩ := started.permitted split held rfl
  obtain ⟨store, earlier, isLoaded⟩ := Pool.event_of_told wasTold
  obtain ⟨first, mid, rfl⟩ := List.append_of_mem earlier
  have named : store.named name = some held := isLoaded.symm
  have alone := apart first ⟨i, .selectPolicy name, store⟩ mid
    ⟨i, .selectActivePolicies email (some held), found⟩ after
    (by rw [split, List.append_assoc, List.cons_append]) rfl name held rfl named email rfl
  have atLoad : Lists action store held.id := by
    have inTrace : (⟨i, .selectPolicy name, store⟩ : PolicyEvent rt ι) ∈
        requests.trace (Store.exec keyspace) schedule := by simp [split]
    have wellFormedThere : store.WellFormed := wellFormed _ inTrace
    exact ⟨held, wellFormedThere.find_named named, lists⟩
  have keeps (op : Command rt) (store : Store rt) (here : Lists action store held.id)
      (safe : ¬Drops action held.id store (Store.exec keyspace op store).2) :
      Lists action (Store.exec keyspace op store).2 held.id := by
    by_contra gone
    exact safe ⟨here, gone⟩
  refine Pool.invariant_between keeps split atLoad fun c inside => ?_
  rcases List.mem_cons.mp inside with rfl | between
  · exact fun drops => drops.2 drops.1
  · exact alone c between

/-- A caller who held nothing that lists the action is not found to hold it. -/
theorem not_held {isCaller : String → Prop} {initial : Store rt} {i : ι}
    {callerEmail : String} (caller : isCaller callerEmail)
    (unheld : ¬Holds action initial callerEmail)
    (earlier : ∀ c ∈ before, c.before.WellFormed ∧ Confined action isCaller initial c.before)
    (current : ∀ email loaded found,
      (⟨i, .selectActivePolicies email loaded, found⟩ : PolicyEvent rt ι) ∈ before →
        ∀ held ∈ loaded, action ∈ held.definition.actions → Lists action found held.id)
    (resourceType : String) :
    ¬Held callerEmail (Pool.historyOf (Store.exec keyspace) before i) action resourceType := by
  rintro ⟨policies, now, told, grants⟩
  obtain ⟨policy, member, applies, _⟩ := evaluate_eq_true.mp grants
  have lists : action ∈ policy.actions := applies.2
  rcases told with fromCache | ⟨loaded, fromTables⟩
  · obtain ⟨found, inside, isReply⟩ := Pool.event_of_told fromCache
    simp only [Store.exec] at isReply
    split at isReply
    · obtain ⟨entry, stored, rfl⟩ := mem_cache_of_cached isReply.symm
      exact (earlier _ inside).2.uncached callerEmail caller entry stored policy member lists
    · cases isReply
  · obtain ⟨found, inside, rfl⟩ := Pool.event_of_told fromTables
    exact unheld ((earlier _ inside).2.holds
      (holds_of_active (earlier _ inside).1 (current _ _ _ inside) member lists))

/-- What was confined is confined after one more command. -/
theorem Confined.step (started : Started keyspace clients requests)
    (sensitive : action ∈ knownSensitiveActions)
    (unheld : ∀ i, ¬Holds action requests.state (clients i).caller.email)
    (split : requests.trace (Store.exec keyspace) schedule = before ++ d :: after)
    (wellFormed : ∀ c ∈ before ++ [d], c.before.WellFormed)
    (current : ∀ email loaded found,
      (⟨d.thread, .selectActivePolicies email loaded, found⟩ : PolicyEvent rt ι) ∈ before →
        ∀ held ∈ loaded, action ∈ held.definition.actions → Lists action found held.id)
    (earlier : ∀ c ∈ before, Confined action (IsCaller clients) requests.state c.before ∧
      ∀ policyId, Lists action d.before policyId → Lists action c.before policyId)
    (here : Confined action (IsCaller clients) requests.state d.before) :
    Confined action (IsCaller clients) requests.state (Store.exec keyspace d.op d.before).2 ∧
      ∀ policyId, Lists action (Store.exec keyspace d.op d.before).2 policyId →
        Lists action d.before policyId := by
  have permitted := started.permitted split
  have known : ∀ c ∈ before, c.before.WellFormed ∧
      Confined action (IsCaller clients) requests.state c.before :=
    fun c member => ⟨wellFormed c (by simp [member]), (earlier c member).1⟩
  have caller : IsCaller clients (clients d.thread).caller.email := ⟨d.thread, rfl⟩
  have notHeld (resourceType : String) : ¬Held (clients d.thread).caller.email
      (Pool.historyOf (Store.exec keyspace) before d.thread) action resourceType :=
    not_held caller (unheld d.thread) known current resourceType
  have shrinks (policyId : Int) :
      Lists action (Store.exec keyspace d.op d.before).2 policyId →
        Lists action d.before policyId :=
    lists_of_exec (wellFormed d (by simp)) sensitive permitted notHeld
  have old {held : UserPolicy} (member : held ∈ d.before.userPolicies)
      (lists : Lists action (Store.exec keyspace d.op d.before).2 held.policyId) :=
    here.links held member (shrinks _ lists)
  refine ⟨⟨(Store.users_exec _ _).trans here.users, ?_, ?_⟩, shrinks⟩
  · intro held member lists
    rcases Store.userPolicies_of_exec keyspace d.op d.before with
      same | ⟨new, isOp, _, same⟩ | ⟨_, _, _, same⟩ | ⟨_, _, _, _, same⟩
    · exact old (same ▸ member) lists
    · rw [same, List.mem_append, List.mem_singleton] at member
      rcases member with inside | rfl
      · exact old inside lists
      · -- The policy listed the action when it was loaded, so it was not granted.
        rw [isOp] at permitted
        obtain ⟨name, policy, wasTold, own, granted⟩ := permitted
        obtain ⟨found, inside, isLoaded, _⟩ :=
          event_of_loaded (fun c member => (known c member).1) wasTold
        obtain ⟨loaded, isThere, listed⟩ := (earlier _ inside).2 _ (shrinks _ lists)
        rw [own, isLoaded] at isThere
        cases isThere
        exact absurd (granted action listed sensitive) (notHeld _)
    · rw [same] at member
      exact old (List.mem_filter.mp member).1 lists
    · rw [same] at member
      exact old (List.mem_filter.mp member).1 lists
  · intro email isCaller entry stored policy inside lists
    rcases Store.cache_of_exec stored with kept | isOp
    · exact here.uncached email isCaller entry kept policy inside lists
    · rw [isOp] at permitted
      obtain ⟨rfl, loaded, wasTold⟩ := permitted
      obtain ⟨found, member, isReply⟩ := Pool.event_of_told wasTold
      rw [isReply] at inside
      have active : policy ∈ found.activePolicies (clients d.thread).caller.email loaded := inside
      have holds := holds_of_active (known _ member).1 (current _ _ _ member) active lists
      exact unheld d.thread ((earlier _ member).1.holds holds)

end Run

/-- Who holds a sensitive action that no administrator held at the start, held it
at the start: whatever they create, change, assign or roll back, at the same time,
unless one takes the action from a policy that another is about to pass on. -/
theorem no_escalation {clients : ι → AdminRequest} {requests : Requests rt ι}
    (started : Started keyspace clients requests) (start : requests.state.WellFormed)
    (schedule : List ι) {action : String} (sensitive : action ∈ knownSensitiveActions)
    (unheld : ∀ i, ¬Holds action requests.state (clients i).caller.email)
    (uncached : Uncached action (IsCaller clients) requests.state)
    (apart : ReadApart keyspace action (requests.trace (Store.exec keyspace) schedule))
    {email : String}
    (holds : Holds action (requests.runSchedule (Store.exec keyspace) schedule).state email) :
    Holds action requests.state email := by
  let good (events : List (PolicyEvent rt ι)) (store : Store rt) : Prop :=
    Confined action (IsCaller clients) requests.state store ∧ ∀ c ∈ events,
      Confined action (IsCaller clients) requests.state c.before ∧
        ∀ policyId, Lists action store policyId → Lists action c.before policyId
  have atStart : good [] requests.state :=
    ⟨⟨rfl, fun held member lists => ⟨member, lists⟩, uncached⟩, List.forall_mem_nil _⟩
  have reached : good _ (requests.runSchedule (Store.exec keyspace) schedule).state :=
    (Pool.holds_always good schedule atStart ?_).2
  · exact reached.1.holds holds
  intro before d after split reached
  have wellFormed := (wellFormed_throughout keyspace start schedule).1
  have known : ∀ c ∈ before ++ [d], c.before.WellFormed := by
    intro c member
    apply wellFormed
    rw [split, List.append_cons]
    exact List.mem_append_left _ member
  have current (email : String) (loaded : Option (Policy rt)) (found : Store rt)
      (member : ⟨d.thread, .selectActivePolicies email loaded, found⟩ ∈ before) :=
    lists_at_read started start apart (split ▸ List.mem_append_left _ member)
  have next := Confined.step started sensitive unheld split known current reached.2 reached.1
  refine ⟨next.1, List.forall_mem_append.mpr ⟨fun c member => ?_, ?_⟩⟩
  · have shrank := (reached.2 c member)
    exact ⟨shrank.1, fun policyId lists => shrank.2 policyId (next.2 policyId lists)⟩
  · exact List.forall_mem_singleton.mpr ⟨reached.1, next.2⟩

/-- One asks for a policy of her own that purges, the other for the one there is. -/
def reaching : Bool → AdminRequest
  | false => ⟨ada, .createPolicy ⟨"adas", none, ["company:read", "users:purge"], "users",
      asIncoming unconditional⟩⟩
  | true => ⟨grace, .assignPolicyToUser "grace@example.com" "purgers"⟩

def sideBySide : List Bool := (List.replicate 10 [false, true]).flatten

theorem no_escalation_reaching : Holds "users:purge" office "root@example.com" := by
  have holds : Holds "users:purge" (servedIn reaching sideBySide) "root@example.com" := by
    decide +kernel
  have unchanged : ∀ c ∈ (serving reaching).trace (Store.exec wholeCache) sideBySide,
      c.op.changed.isNone = true := by decide +kernel
  have apart : ReadApart wholeCache "users:purge"
      ((serving reaching).trace (Store.exec wholeCache) sideBySide) :=
    readApart_of_unchanged (wellFormed_throughout wholeCache office_wellFormed sideBySide).1
      fun c member => Option.isNone_iff_eq_none.mp (unchanged c member)
  refine no_escalation (serving_started reaching) office_wellFormed sideBySide (by decide)
    (by decide) ?_ apart holds
  intro email _ entry stored
  cases stored

/-- Ada adds to the policy there is; Grace takes everything from it, and gives it to
Ada. -/
def stripping : Nat → AdminRequest
  | 0 => ⟨ada, .updatePolicy "purgers"
      ⟨none, none, some (some ["users:purge", "company:read"]), none, none, none, none⟩⟩
  | 1 => ⟨grace, .updatePolicy "purgers" ⟨none, none, some (some []), none, none, none, none⟩⟩
  | _ => ⟨grace, .assignPolicyToUser "ada@example.com" "purgers"⟩

/-- In between, Ada is found to hold what she has loaded. -/
example : Holds "users:purge" (servedIn stripping (List.replicate 5 0 ++ List.replicate 12 1 ++
    List.replicate 12 2 ++ List.replicate 9 0)) "ada@example.com" := by decide +kernel

end BalanceSheetAnalysis.Policies

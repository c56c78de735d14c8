import BalanceSheetAnalysis.Policies.Tables

/-! What the rest of the application relies on outlives every administrator: the
baseline policies, and a holder of the one that manages all others. -/
namespace BalanceSheetAnalysis.Policies
open Library
open Authorization hiding Policy PolicyUpdate

variable {rt : Runtime} {keyspace : Keyspace} {ι : Type} [DecidableEq ι]

abbrev Requests (rt : Runtime) (ι : Type) :=
  Pool (@Reply rt) (Store rt) ι (Except Failure (AdminAnswer rt))

abbrev PolicyEvent (rt : Runtime) (ι : Type) := Event (Command rt) (Store rt) ι

structure AdminRequest where
  caller : Caller
  call : AdminCall

/-- Each thread is about to serve its request. -/
def Started (keyspace : Keyspace) (clients : ι → AdminRequest) (requests : Requests rt ι) : Prop :=
  ∀ i, requests.threads i = ExceptT.run ((clients i).call.run keyspace (clients i).caller)

/-- The thread served its request. -/
def Served (requests : Requests rt ι) (i : ι) : Prop :=
  ∃ answer, requests.threads i = .done (.ok answer)

section Run
variable {clients : ι → AdminRequest} {requests : Requests rt ι} {schedule : List ι}
  {before after : List (PolicyEvent rt ι)} {e : PolicyEvent rt ι}

omit [DecidableEq ι] in
theorem Started.obeys (started : Started keyspace clients requests) (i : ι) :
    Program.Obeys (Permitted (clients i).caller.email)
      (fun told result => ∀ answer, result = .ok answer → (clients i).call.Fulfils told) []
      (requests.threads i) := by
  rw [started i]
  exact (clients i).call.run_promises keyspace (clients i).caller

theorem Started.permitted (started : Started keyspace clients requests)
    (split : requests.trace (Store.exec keyspace) schedule = before ++ e :: after) :
    Permitted (clients e.thread).caller.email
      (Pool.historyOf (Store.exec keyspace) before e.thread) e.op :=
  Pool.allowed_of_event started.obeys split

theorem wellFormed_throughout (keyspace : Keyspace) (start : requests.state.WellFormed)
    (schedule : List ι) :
    (∀ d ∈ requests.trace (Store.exec keyspace) schedule, d.before.WellFormed) ∧
      (requests.runSchedule (Store.exec keyspace) schedule).state.WellFormed :=
  Pool.holds_throughout Store.WellFormed schedule start fun _ d _ _ here => here.exec d.op

/-- A policy that was loaded by name was there when it was. -/
theorem event_of_loaded (wellFormed : ∀ d ∈ before, d.before.WellFormed) {i : ι} {name : String}
    {loaded : Policy rt}
    (told : Program.Told (Pool.historyOf (Store.exec keyspace) before i) (.selectPolicy name)
      (some loaded)) :
    ∃ found, ⟨i, .selectPolicy name, found⟩ ∈ before ∧ found.findPolicy loaded.id = some loaded ∧
      loaded.definition.name = name := by
  obtain ⟨found, member, isLoaded⟩ := Pool.event_of_told told
  have named : found.named name = some loaded := isLoaded.symm
  exact ⟨found, member, (wellFormed _ member).find_named named, (Store.named_eq_some named).2⟩

/-! The baseline policies. -/

/-- The policy is there under its name, and counts. -/
def Stands (policyId : Int) (name : String) (store : Store rt) : Prop :=
  ∃ policy, store.findPolicy policyId = some policy ∧ policy.definition.name = name ∧
    policy.definition.isActive = true

/-- What writes a policy that was loaded while it stood, leaves it standing. -/
theorem Stands.step {store : Store rt} {policyId : Int} {name callerEmail : String}
    {told : History rt} {op : Command rt} (stands : Stands policyId name store)
    (wellFormed : store.WellFormed) (isProtected : name ∈ protectedPolicyNames)
    (permitted : Permitted callerEmail told op)
    (loads : ∀ name' loaded, Program.Told told (.selectPolicy name') (some loaded) →
      loaded.id = policyId → name' = name ∧ loaded.definition.name = name ∧
        loaded.definition.isActive = true) :
    Stands policyId name (Store.exec keyspace op store).2 := by
  obtain ⟨policy, found, isName, isActive⟩ := stands
  rcases wellFormed.find_of_exec keyspace op policyId with
    same | ⟨_, _, _, absent, _⟩ | ⟨loaded, new, change, row, rfl, own, isRow, isNew⟩ |
    ⟨loaded, _, _, rfl, own, _⟩
  · exact ⟨policy, same.trans found, isName, isActive⟩
  · rw [found] at absent
    cases absent
  · cases found.symm.trans isRow
    obtain ⟨⟨name', wasTold⟩, keeps, _⟩ := permitted
    obtain ⟨_, loadedName, loadedActive⟩ := loads name' loaded wasTold own
    obtain ⟨sameName, staysActive⟩ := keeps (loadedName ▸ isProtected)
    refine ⟨_, isNew, ?_, ?_⟩
    · simp [Definition.write, Field.differs, sameName, isName]
    · simp [Definition.write, Field.differs, staysActive loadedActive, loadedActive, isActive]
  · obtain ⟨name', wasTold, unprotected⟩ := permitted
    exact absurd ((loads name' loaded wasTold own).1 ▸ isProtected) unprotected

theorem stands_of_loaded {policyId : Int} {name name' : String} {i : ι} {loaded : Policy rt}
    (earlier : ∀ d ∈ before, d.before.WellFormed ∧ Stands policyId name d.before)
    (told : Program.Told (Pool.historyOf (Store.exec keyspace) before i) (.selectPolicy name')
      (some loaded)) (own : loaded.id = policyId) :
    name' = name ∧ loaded.definition.name = name ∧ loaded.definition.isActive = true := by
  obtain ⟨found, member, isLoaded, loadedName⟩ :=
    event_of_loaded (fun d member => (earlier d member).1) told
  obtain ⟨policy, isPolicy, isName, isActive⟩ := (earlier _ member).2
  rw [own, isPolicy] at isLoaded
  cases isLoaded
  exact ⟨loadedName.symm.trans isName, isName, isActive⟩

theorem Started.stands (started : Started keyspace clients requests)
    (start : requests.state.WellFormed) (schedule : List ι) {name : String}
    (isProtected : name ∈ protectedPolicyNames) {policyId : Int}
    (stands : Stands policyId name requests.state) :
    (∀ d ∈ requests.trace (Store.exec keyspace) schedule, Stands policyId name d.before) ∧
      Stands policyId name (requests.runSchedule (Store.exec keyspace) schedule).state := by
  have wellFormed := (wellFormed_throughout keyspace start schedule).1
  refine Pool.holds_inductive (Stands policyId name) schedule stands
    fun before d after split earlier here => ?_
  have inside : ∀ c ∈ before ++ [d], c ∈ requests.trace (Store.exec keyspace) schedule := by
    intro c member
    rw [split, List.append_cons]
    exact List.mem_append_left _ member
  apply here.step (wellFormed d (inside d (by simp))) isProtected (started.permitted split)
  intro name' loaded wasTold own
  exact stands_of_loaded
    (fun c member => ⟨wellFormed c (inside c (by simp [member])), earlier c member⟩) wasTold own

/-- So it was standing at every event before one. -/
theorem Started.stood (started : Started keyspace clients requests)
    (start : requests.state.WellFormed) {name : String}
    (isProtected : name ∈ protectedPolicyNames) {policyId : Int}
    (stands : Stands policyId name requests.state)
    (split : requests.trace (Store.exec keyspace) schedule = before ++ e :: after) :
    ∀ d ∈ before, d.before.WellFormed ∧ Stands policyId name d.before := by
  intro d member
  have inside : d ∈ requests.trace (Store.exec keyspace) schedule :=
    split ▸ List.mem_append_left _ member
  exact ⟨(wellFormed_throughout keyspace start schedule).1 d inside,
    (started.stands start schedule isProtected stands).1 d inside⟩

/-! The holders of a policy. -/

/-- The command takes the policy from no one. -/
def KeepsHolders (policyId : Int) : Command rt → Prop
  | .deleteUserPolicy _ other => other ≠ policyId
  | .deletePolicy loaded _ _ => loaded.id ≠ policyId
  | _ => True

theorem assignments_filter {store : Store rt} {policyId : Int} {keep : UserPolicy → Bool}
    (kept : ∀ held : UserPolicy, held.policyId = policyId → keep held = true) :
    ((store.userPolicies.filter keep).filter (·.policyId = policyId)).length =
      store.assignments policyId := by
  rw [Store.assignments, List.filter_filter]
  congr 1
  apply List.filter_congr
  intro held _
  by_cases own : held.policyId = policyId
  · simp [own, kept held own]
  · simp [own]

theorem assignments_of_keeps {policyId : Int} {op : Command rt} {store : Store rt}
    (keeps : KeepsHolders policyId op) :
    store.assignments policyId ≤ (Store.exec keyspace op store).2.assignments policyId := by
  rw [Store.assignments.eq_def (Store.exec keyspace op store).2]
  rcases Store.userPolicies_of_exec keyspace op store with
    same | ⟨new, _, _, same⟩ | ⟨userId, other, rfl, same⟩ | ⟨loaded, _, _, rfl, same⟩
  · rw [same, Store.assignments]
  · rw [same, List.filter_append, List.length_append]
    exact Nat.le_add_right _ _
  · rw [same, assignments_filter]
    intro held own
    have differs : other ≠ policyId := keeps
    simp [own, Ne.symm differs]
  · rw [same, assignments_filter]
    intro held own
    have differs : loaded.id ≠ policyId := keeps
    simp [own, Ne.symm differs]

/-- One revocation takes it from one user. -/
theorem assignments_deleteUserPolicy (keyspace : Keyspace) {store : Store rt}
    (wellFormed : store.WellFormed) (userId policyId : Int) :
    store.assignments policyId ≤
      (Store.exec keyspace (.deleteUserPolicy userId policyId) store).2.assignments policyId +
        1 := by
  let holders := store.userPolicies.filter (·.policyId = policyId)
  have before : store.assignments policyId = holders.length := rfl
  have after : (Store.exec keyspace (.deleteUserPolicy userId policyId) store).2.assignments
      policyId = ((store.userPolicies.filter fun held =>
        ¬(held.userId = userId ∧ held.policyId = policyId)).filter
          (·.policyId = policyId)).length := rfl
  have keyed : Table.Keyed UserPolicy.link holders := wellFormed.held.filter _
  have own : (holders.filter fun held => held.link = (userId, policyId)).length ≤ 1 := by
    rw [Table.filter_key keyed]
    exact Option.length_toList_le
  have others : ((store.userPolicies.filter fun held =>
      ¬(held.userId = userId ∧ held.policyId = policyId)).filter (·.policyId = policyId)) =
        holders.filter fun held => !decide (held.link = (userId, policyId)) := by
    rw [List.filter_filter, List.filter_filter]
    apply List.filter_congr
    intro held _
    simp [UserPolicy.link, Bool.and_comm]
  have parts := List.length_eq_length_filter_add (l := holders)
    fun held => decide (held.link = (userId, policyId))
  rw [before, after, others]
  omega

/-- Between the count of a revocation of the policy and the revocation no other
one comes. -/
def RevokedApart (policyId : Int) (events : List (PolicyEvent rt ι)) : Prop :=
  ∀ before count mid revocation after, events = before ++ count :: (mid ++ revocation :: after) →
    count.thread = revocation.thread → count.op = .countAssignments policyId →
    ∀ userId, revocation.op = .deleteUserPolicy userId policyId →
      ∀ c ∈ mid, ∀ other, c.op ≠ .deleteUserPolicy other policyId

def revokes (policyId : Int) : Command rt → Bool
  | .deleteUserPolicy _ other => other = policyId
  | _ => false

omit [DecidableEq ι] in
theorem revokedApart_of_once {policyId : Int} {events : List (PolicyEvent rt ι)}
    (once : (events.filter fun e => revokes policyId e.op).length ≤ 1) :
    RevokedApart policyId events := by
  intro before count mid revocation after isTrace _ _ userId isOp c between other isOther
  have here : revokes policyId revocation.op = true := by simp [isOp, revokes]
  have there : c ∈ mid.filter fun e => revokes policyId e.op := by
    simp [between, isOther, revokes]
  have some := List.length_pos_of_mem there
  rw [isTrace, List.filter_append, List.filter_cons, List.filter_append, List.filter_cons,
    if_pos here] at once
  split at once <;> simp only [List.length_append, List.length_cons] at once <;> omega

/-- A policy that stands is deleted by no one. -/
theorem Started.not_deleted (started : Started keyspace clients requests)
    (start : requests.state.WellFormed) {name : String}
    (isProtected : name ∈ protectedPolicyNames) {policyId : Int}
    (stands : Stands policyId name requests.state)
    (member : e ∈ requests.trace (Store.exec keyspace) schedule)
    {loaded : Policy rt} {changedBy : String} {changeReason : Option String}
    (deletes : e.op = .deletePolicy loaded changedBy changeReason) : loaded.id ≠ policyId := by
  intro own
  obtain ⟨before, after, split⟩ := List.append_of_mem member
  have permitted := started.permitted split
  rw [deletes] at permitted
  obtain ⟨name', wasTold, unprotected⟩ := permitted
  have isName := (stands_of_loaded (started.stood start isProtected stands split) wasTold own).1
  exact unprotected (isName ▸ isProtected)

end Run

/-- Whatever administrators do, alone or at the same time, each baseline policy
stays, under its name and active. -/
theorem baseline_stands {clients : ι → AdminRequest} {requests : Requests rt ι}
    (started : Started keyspace clients requests) (start : requests.state.WellFormed)
    (schedule : List ι) {name : String} (isProtected : name ∈ protectedPolicyNames)
    {policyId : Int} (stands : Stands policyId name requests.state) :
    Stands policyId name (requests.runSchedule (Store.exec keyspace) schedule).state :=
  (started.stands start schedule isProtected stands).2

/-! Ada and Grace hold the policy that manages all others. -/

def unconditional : StoredConditions utcRuntime := ⟨none, rfl, rfl⟩

def granting (name : String) (actions : List String) : Definition utcRuntime :=
  ⟨name, none, actions, "*", unconditional, true⟩

def office : Store utcRuntime where
  policies := [
    ⟨1, granting "system_superuser" ["policies:create", "policies:update", "policies:delete",
      "policies:assign", "policies:revoke"], some "system"⟩,
    ⟨2, granting "purgers" ["users:purge"], some "system"⟩,
    ⟨3, granting "readers" ["company:read"], some "system"⟩]
  policySequence := 4
  userPolicies := [⟨1, 1, none⟩, ⟨2, 1, none⟩, ⟨3, 2, none⟩]
  users := [(1, "ada@example.com"), (2, "grace@example.com"), (3, "root@example.com")]
  history := []
  historySequence := 1
  cache := []
  outside := ⟨fun _ => epoch, fun _ => true, id⟩
  issued := 0

theorem office_wellFormed : office.WellFormed where
  keyed := by unfold Table.Keyed; decide
  drawn := by decide
  held := by unfold Table.Keyed; decide

def wholeCache : Keyspace := ⟨1, fun _ => Fin.last 0⟩

def serving (clients : ι → AdminRequest) : Requests utcRuntime ι where
  state := office
  threads i := ExceptT.run ((clients i).call.run wholeCache (clients i).caller)

omit [DecidableEq ι] in
theorem serving_started (clients : ι → AdminRequest) :
    Started wholeCache clients (serving clients) := fun _ => rfl

def servedIn (clients : ι → AdminRequest) (schedule : List ι) : Store utcRuntime :=
  ((serving clients).runSchedule (Store.exec wholeCache) schedule).state

def unknownConnection : Context := ⟨[], List.nodup_nil, none⟩

def ada : Caller := ⟨"ada@example.com", unknownConnection⟩

def grace : Caller := ⟨"grace@example.com", unknownConnection⟩

/-- One deactivates the policy, the other deletes it. -/
def disarming : Bool → AdminRequest
  | false => ⟨ada, .updatePolicy "system_superuser"
      ⟨none, none, none, none, none, some (some false), none⟩⟩
  | true => ⟨grace, .deletePolicy "system_superuser" none⟩

theorem baseline_stands_disarming :
    Stands 1 "system_superuser" (servedIn disarming
      [false, true, false, true, false, true, false, true, false, true]) :=
  baseline_stands (serving_started disarming) office_wellFormed _ (by decide)
    ⟨_, rfl, rfl, rfl⟩

/-- Someone always holds `system_superuser`, if no two revocations of it overlap:
one that found two holders leaves one. -/
theorem superuser_held {clients : ι → AdminRequest} {requests : Requests rt ι}
    (started : Started keyspace clients requests) (start : requests.state.WellFormed)
    (schedule : List ι) {policyId : Int}
    (stands : Stands policyId systemSuperuserPolicyName requests.state)
    (held : 1 ≤ requests.state.assignments policyId)
    (apart : RevokedApart policyId (requests.trace (Store.exec keyspace) schedule)) :
    1 ≤ (requests.runSchedule (Store.exec keyspace) schedule).state.assignments policyId := by
  have isProtected : systemSuperuserPolicyName ∈ protectedPolicyNames := by decide
  have notDeleted {d : PolicyEvent rt ι}
      (member : d ∈ requests.trace (Store.exec keyspace) schedule) {loaded : Policy rt}
      {changedBy : String} {changeReason : Option String}
      (deletes : d.op = .deletePolicy loaded changedBy changeReason) : loaded.id ≠ policyId :=
    started.not_deleted start isProtected stands member deletes
  refine (Pool.holds_throughout (fun store : Store rt => 1 ≤ store.assignments policyId) schedule
    held fun before d after split here => ?_).2
  have inside : d ∈ requests.trace (Store.exec keyspace) schedule := by simp [split]
  by_cases keeps : KeepsHolders policyId d.op
  · exact here.trans (assignments_of_keeps keeps)
  cases isOp : d.op with
  | deletePolicy loaded changedBy changeReason =>
      rw [isOp] at keeps
      exact absurd (notDeleted inside isOp) keeps
  | deleteUserPolicy userId other =>
      rw [isOp] at keeps
      obtain rfl : other = policyId := not_not.mp keeps
      have permitted := started.permitted split
      rw [isOp] at permitted
      obtain ⟨name, policy, wasTold, own, counted⟩ := permitted
      have isName :=
        (stands_of_loaded (started.stood start isProtected stands split) wasTold own).1
      obtain ⟨holders, wasCounted, enough⟩ := counted isName
      obtain ⟨found, member, isCount⟩ := Pool.event_of_told wasCounted
      obtain ⟨first, mid, rfl⟩ := List.append_of_mem member
      have alone := apart first ⟨d.thread, .countAssignments other, found⟩ mid d after
        (by rw [split, List.append_assoc, List.cons_append]) rfl rfl userId isOp
      have safely : ∀ c ∈ ⟨d.thread, .countAssignments other, found⟩ :: mid,
          KeepsHolders other c.op := by
        intro c member
        rcases List.mem_cons.mp member with rfl | between
        · trivial
        cases isOp : c.op with
        | deleteUserPolicy userId another =>
            intro same
            exact alone c between userId (same ▸ isOp)
        | deletePolicy loaded changedBy changeReason =>
            exact notDeleted (by simp [split, between]) isOp
        | _ => trivial
      have kept : holders ≤ d.before.assignments other := by
        have keeps (op : Command rt) (store : Store rt)
            (reached : holders ≤ store.assignments other) (keeps : KeepsHolders other op) :
            holders ≤ (Store.exec keyspace op store).2.assignments other :=
          reached.trans (assignments_of_keeps keeps)
        exact Pool.invariant_between keeps split (le_of_eq isCount) safely
      have wellFormed := (wellFormed_throughout keyspace start schedule).1 d inside
      have left := assignments_deleteUserPolicy keyspace wellFormed userId other
      have two : 2 ≤ d.before.assignments other := Nat.lt_of_lt_of_le enough kept
      exact Nat.le_of_lt_succ (Nat.lt_of_lt_of_le two left)
  | _ =>
      rw [isOp] at keeps
      exact absurd trivial keeps

/-- Each takes the policy from the other. -/
def feuding : Bool → AdminRequest
  | false => ⟨ada, .removePolicyFromUser "grace@example.com" "system_superuser"⟩
  | true => ⟨grace, .removePolicyFromUser "ada@example.com" "system_superuser"⟩

/-- Grace was let in, and Ada is done before Grace counts who holds it. -/
def outpaced : List Bool :=
  List.replicate 6 true ++ List.replicate 10 false ++ List.replicate 6 true

theorem superuser_held_feuding : 1 ≤ (servedIn feuding outpaced).assignments 1 := by
  have once : (((serving feuding).trace (Store.exec wholeCache) outpaced).filter fun e =>
      revokes 1 e.op).length ≤ 1 := by decide +kernel
  exact superuser_held (serving_started feuding) office_wellFormed outpaced ⟨_, rfl, rfl, rfl⟩
    (by decide) (revokedApart_of_once once)

end BalanceSheetAnalysis.Policies

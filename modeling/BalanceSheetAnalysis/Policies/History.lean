import BalanceSheetAnalysis.Authorization.Equality
import BalanceSheetAnalysis.Policies.Baseline

/-! The history of the policies is all that happened to them: from it alone the
table can be told, and a policy rolled back to an entry is what it was then. -/
namespace BalanceSheetAnalysis.Policies
open Library
open Authorization hiding Policy PolicyUpdate

variable {rt : Runtime} {keyspace : Keyspace} {ι : Type} [DecidableEq ι]

/-! Equal definitions. -/

section SameConditions
variable {first second third : StoredConditions rt}

theorem sameConditions_iff : sameConditions first second = true ↔
    (first.val = none ∧ second.val = none) ∨ ∃ fields others, first.val = some fields ∧
      second.val = some others ∧ (Json.obj fields).pyEq (.obj others) = true := by
  unfold sameConditions
  cases first.val <;> cases second.val <;> simp

theorem distinctKeys_stored {fields : Dict} (isFields : first.val = some fields) :
    (Json.obj fields).distinctKeys = true := by
  simpa [isFields] using first.property.2

theorem sameConditions_refl (conditions : StoredConditions rt) :
    sameConditions conditions conditions = true := by
  rw [sameConditions_iff]
  cases isFields : conditions.val with
  | none => exact .inl ⟨rfl, rfl⟩
  | some fields =>
      exact .inr ⟨fields, fields, rfl, rfl, Json.pyEq_refl (distinctKeys_stored isFields)⟩

theorem sameConditions_symm (same : sameConditions first second = true) :
    sameConditions second first = true := by
  rw [sameConditions_iff] at same ⊢
  rcases same with ⟨absent, absent'⟩ | ⟨fields, others, isFields, isOthers, equal⟩
  · exact .inl ⟨absent', absent⟩
  · have equal' :=
      Json.pyEq_symm (distinctKeys_stored isFields) (distinctKeys_stored isOthers) equal
    exact .inr ⟨others, fields, isOthers, isFields, equal'⟩

theorem sameConditions_trans (same : sameConditions first second = true)
    (same' : sameConditions second third = true) : sameConditions first third = true := by
  rw [sameConditions_iff] at same same' ⊢
  rcases same with ⟨absent, absent'⟩ | ⟨fields, others, isFields, isOthers, equal⟩
  · rcases same' with ⟨_, absent''⟩ | ⟨_, _, isOthers, _⟩
    · exact .inl ⟨absent, absent''⟩
    · cases absent'.symm.trans isOthers
  · rcases same' with ⟨absent, _⟩ | ⟨_, thirds, isOthers', isThirds, equal'⟩
    · cases absent.symm.trans isOthers
    · cases isOthers.symm.trans isOthers'
      exact .inr ⟨fields, thirds, isFields, isThirds, Json.pyEq_trans equal equal'⟩

end SameConditions

/-- Equal column by column, as Python compares them. -/
structure Definition.Same (first second : Definition rt) : Prop where
  name : first.name = second.name
  description : first.description = second.description
  actions : first.actions = second.actions
  resourceType : first.resourceType = second.resourceType
  conditions : sameConditions first.conditions second.conditions = true
  isActive : first.isActive = second.isActive

section Same
variable {first second third : Definition rt}

theorem Definition.Same.refl (definition : Definition rt) : definition.Same definition :=
  ⟨rfl, rfl, rfl, rfl, sameConditions_refl _, rfl⟩

theorem Definition.Same.symm (same : first.Same second) : second.Same first :=
  ⟨same.name.symm, same.description.symm, same.actions.symm, same.resourceType.symm,
    sameConditions_symm same.conditions, same.isActive.symm⟩

theorem Definition.Same.trans (same : first.Same second) (same' : second.Same third) :
    first.Same third :=
  ⟨same.name.trans same'.name, same.description.trans same'.description,
    same.actions.trans same'.actions, same.resourceType.trans same'.resourceType,
    sameConditions_trans same.conditions same'.conditions, same.isActive.trans same'.isActive⟩

theorem Definition.Same.equal (same : first.Same second) :
    first.evaluated.Equal second.evaluated where
  actions := same.actions
  resourceType := same.resourceType
  block := by
    rcases sameConditions_iff.mp same.conditions with
      ⟨absent, absent'⟩ | ⟨fields, others, isFields, isOthers, equal⟩
    · simp [Policy.block, Definition.evaluated, absent, absent']
    · simpa [Policy.block, Definition.evaluated, isFields, isOthers] using equal

/-- So they grant the same. -/
theorem Definition.Same.grants (same : first.Same second) (action resourceType : String)
    (attempt : Attempt) : evaluate [first.evaluated] action resourceType attempt =
      evaluate [second.evaluated] action resourceType attempt :=
  evaluate_congr (.cons same.equal .nil) action resourceType attempt

/-- Written over what was loaded, a definition is there as it was meant. -/
theorem Definition.write_self (loaded new : Definition rt) :
    (loaded.write new loaded).Same new where
  name := by simpa [Definition.write, Field.differs] using Eq.symm
  description := by simpa [Definition.write, Field.differs] using Eq.symm
  actions := by simpa [Definition.write, Field.differs] using Eq.symm
  resourceType := by simpa [Definition.write, Field.differs] using Eq.symm
  conditions := by
    by_cases same : sameConditions new.conditions loaded.conditions = true
    · simp [Definition.write, Field.differs, same, sameConditions_symm same]
    · simp [Definition.write, Field.differs, same, sameConditions_refl]
  isActive := by simpa [Definition.write, Field.differs] using Eq.symm

/-- Without a difference there is nothing to write. -/
theorem Definition.write_same {loaded new : Definition rt}
    (same : ¬Field.all.any (Field.differs loaded new)) (row : Definition rt) :
    loaded.write new row = row := by
  simp only [Field.all, List.any_cons, List.any_nil, Bool.or_false, Bool.or_eq_true, not_or] at same
  simp [Definition.write, same]

end Same

/-! The table told from the history. -/

/-- What an entry makes of the policy it is of: of an update, the columns that
differ. -/
def PolicyHistory.replay (row : Option (Definition rt)) (entry : PolicyHistory rt) :
    Option (Definition rt) :=
  match entry.previousDefinition, entry.newDefinition with
  | none, created => created
  | some _, none => none
  | some loaded, some new => row.map (loaded.write new)

def replayed (row : Option (Definition rt)) (policyId : Int) (entries : List (PolicyHistory rt)) :
    Option (Definition rt) :=
  (entries.filter (·.policyId = policyId)).foldl PolicyHistory.replay row

theorem replayed_append (row : Option (Definition rt)) (policyId : Int)
    (first second : List (PolicyHistory rt)) :
    replayed row policyId (first ++ second) =
      replayed (replayed row policyId first) policyId second := by
  rw [replayed, List.filter_append, List.foldl_append]
  rfl

def Store.definition (store : Store rt) (policyId : Int) : Option (Definition rt) :=
  (store.findPolicy policyId).map Policy.definition

/-- The entry has what the command says was there: nothing, or what was loaded. -/
def Notes (op : Command rt) (store : Store rt) (entry : PolicyHistory rt) : Prop :=
  (entry.previousDefinition = none ∧ entry.newDefinition.isSome ∧
      store.definition entry.policyId = none) ∨
    ∃ loaded, op.changed = some loaded ∧ entry.policyId = loaded.id ∧
      entry.previousDefinition = some loaded.definition

structure Unrecorded (store later : Store rt) : Prop where
  history : later.history = store.history
  sequence : later.historySequence = store.historySequence
  table : later.definition = store.definition

structure Recorded (op : Command rt) (store later : Store rt) (entry : PolicyHistory rt) :
    Prop where
  history : later.history = store.history ++ [entry]
  id : entry.id = store.historySequence
  sequence : later.historySequence = store.historySequence + 1
  table : later.definition = Function.update store.definition entry.policyId
    (PolicyHistory.replay (store.definition entry.policyId) entry)
  notes : Notes op store entry

/-- A command changes no policy, or adds the entry of the one it changes. -/
theorem Store.WellFormed.recorded (keyspace : Keyspace) {store : Store rt}
    (wellFormed : store.WellFormed) (op : Command rt) :
    Unrecorded store (Store.exec keyspace op store).2 ∨
      ∃ entry, Recorded op store (Store.exec keyspace op store).2 entry := by
  have quiet {later : Store rt} (policies : later.policies = store.policies) :
      later.definition = store.definition := by
    funext policyId
    rw [Store.definition, Store.findPolicy, policies]
    rfl
  have changed {later : Store rt} {policyId : Int} {row : Option (Policy rt)}
      (policies : Table.find Policy.id later.policies =
        Function.update (Table.find Policy.id store.policies) policyId row) :
      later.definition = Function.update store.definition policyId (row.map Policy.definition) := by
    have mapped := congrArg (Option.map Policy.definition ∘ ·) policies
    rw [Function.comp_update] at mapped
    exact mapped
  cases op with
  | insertPolicy definition createdBy =>
      simp only [Store.exec, Store.insertPolicy]
      split
      · exact .inl ⟨rfl, rfl, quiet rfl⟩
      · have added := Table.find_append ⟨store.policySequence, definition, some createdBy⟩
          fun other member => (wellFormed.drawn other member).ne
        have absent : store.definition store.policySequence = none := by
          rw [Store.definition, wellFormed.find_drawn]
          rfl
        exact .inr ⟨_, rfl, rfl, rfl, (changed added).trans rfl, .inl ⟨rfl, rfl, absent⟩⟩
  | updatePolicy loaded new change =>
      simp only [Store.exec, Store.updatePolicy]
      split
      · rename_i same
        have asIs : PolicyHistory.replay (store.definition loaded.id)
            (Store.changeEntry loaded new change store.historySequence) =
              store.definition loaded.id := by
          have written := funext (Definition.write_same same)
          rw [PolicyHistory.replay]
          simp only [Store.changeEntry, written]
          exact Option.map_id'
        refine .inr ⟨_, rfl, rfl, rfl, (quiet rfl).trans ?_, .inr ⟨loaded, rfl, rfl, rfl⟩⟩
        exact (Function.update_eq_self_iff.mpr asIs).symm
      · split
        · exact .inl ⟨rfl, rfl, quiet rfl⟩
        · split
          · exact .inl ⟨rfl, rfl, quiet rfl⟩
          · let write (policy : Policy rt) : Policy rt :=
              { policy with definition := loaded.definition.write new policy.definition }
            have edited :
                Table.find Policy.id (Table.modify Policy.id store.policies loaded.id write) =
                Function.update (Table.find Policy.id store.policies) loaded.id _ :=
              Table.find_modify fun _ => rfl
            refine .inr ⟨_, rfl, rfl, rfl, (changed edited).trans ?_, .inr ⟨loaded, rfl, rfl, rfl⟩⟩
            rw [PolicyHistory.replay]
            simp only [Store.changeEntry, Store.definition, Option.map_map]
            rfl
  | deletePolicy loaded changedBy changeReason =>
      exact .inr ⟨_, rfl, rfl, rfl, (changed (Table.find_remove loaded.id)).trans rfl,
        .inr ⟨loaded, rfl, rfl, rfl⟩⟩
  | setUserPolicies | deleteKey =>
      simp only [Store.exec, Store.setCache]
      split <;> exact .inl ⟨rfl, rfl, quiet rfl⟩
  | insertUserPolicy =>
      simp only [Store.exec, Store.insertUserPolicy]
      split <;> exact .inl ⟨rfl, rfl, quiet rfl⟩
  | _ => exact .inl ⟨rfl, rfl, quiet rfl⟩

/-- Whatever requests do, alone or at the same time, the history only grows, and
what it has since the start makes of the policies there were the policies there are. -/
theorem history_replays (requests : Requests rt ι) (start : requests.state.WellFormed)
    (schedule : List ι) : ∃ added,
      (requests.runSchedule (Store.exec keyspace) schedule).state.history =
        requests.state.history ++ added ∧
      ∀ policyId, (requests.runSchedule (Store.exec keyspace) schedule).state.definition policyId =
        replayed (requests.state.definition policyId) policyId added := by
  let good (store : Store rt) : Prop := store.WellFormed ∧ ∃ added,
    store.history = requests.state.history ++ added ∧ ∀ policyId,
      store.definition policyId = replayed (requests.state.definition policyId) policyId added
  have atStart : good requests.state := ⟨start, [], (List.append_nil _).symm, fun _ => rfl⟩
  refine (Pool.holds_throughout good schedule atStart ?_).2.2
  intro before d after _ here
  obtain ⟨wellFormed, added, isHistory, isTable⟩ := here
  refine ⟨wellFormed.exec d.op, ?_⟩
  rcases wellFormed.recorded keyspace d.op with quiet | ⟨entry, recorded⟩
  · exact ⟨added, quiet.history.trans isHistory, fun policyId => quiet.table ▸ isTable policyId⟩
  · refine ⟨added ++ [entry], by rw [recorded.history, isHistory, List.append_assoc],
      fun policyId => ?_⟩
    rw [recorded.table, replayed_append, ← isTable]
    by_cases own : policyId = entry.policyId
    · subst own
      simp [replayed]
    · simp [replayed, own, Ne.symm own]

/-! Changes that do not overlap. -/

/-- The database does not refuse the command. -/
def Command.Commits : Command rt → Store rt → Prop
  | .updatePolicy loaded new change, store => (store.updatePolicy loaded new change).1 = .ok ()
  | _, _ => True

/-- The command changes the policy, and not in vain. -/
def Changes (policyId : Int) (op : Command rt) (store : Store rt) : Prop :=
  ∃ loaded, op.changed = some loaded ∧ loaded.id = policyId ∧ op.Commits store

/-- Between a request's loading of a policy and its change of it comes no other
change of it. -/
def ChangedApart (events : List (PolicyEvent rt ι)) : Prop :=
  ∀ before load mid change after, events = before ++ load :: (mid ++ change :: after) →
    load.thread = change.thread → ∀ name loaded, load.op = .selectPolicy name →
      load.before.named name = some loaded → Changes loaded.id change.op change.before →
        ∀ c ∈ mid, ¬Changes loaded.id c.op c.before

/-- An UPDATE that is refused leaves everything as it was. -/
theorem Store.updatePolicy_refused {store : Store rt} {loaded : Policy rt} {new : Definition rt}
    {change : Change} (refused : (store.updatePolicy loaded new change).1 ≠ .ok ()) :
    (store.updatePolicy loaded new change).2 = store.next := by
  revert refused
  unfold Store.updatePolicy
  dsimp only
  split
  · exact fun refused => absurd rfl refused
  · split
    · exact fun _ => rfl
    · split
      · exact fun _ => rfl
      · exact fun refused => absurd rfl refused

/-- What is not changed stays. -/
theorem Store.WellFormed.stays {store : Store rt} (wellFormed : store.WellFormed)
    {op : Command rt} {policyId : Int} {policy : Policy rt}
    (found : store.findPolicy policyId = some policy) (unchanged : ¬Changes policyId op store) :
    (Store.exec keyspace op store).2.findPolicy policyId = some policy := by
  rcases wellFormed.find_of_exec keyspace op policyId with
    same | ⟨_, _, _, absent, _⟩ | ⟨loaded, new, change, _, rfl, own, _⟩ |
    ⟨loaded, _, _, rfl, own, _⟩
  · exact same.trans found
  · rw [found] at absent
    cases absent
  · have refused : (store.updatePolicy loaded new change).1 ≠ .ok () :=
      fun commits => unchanged ⟨loaded, rfl, own, commits⟩
    rw [Store.exec, Store.updatePolicy_refused refused]
    exact found
  · exact absurd ⟨loaded, rfl, own, trivial⟩ unchanged

section Apart
variable {clients : ι → AdminRequest} {requests : Requests rt ι} {schedule : List ι}
  {before after : List (PolicyEvent rt ι)} {d : PolicyEvent rt ι}

theorem told_of_changed {callerEmail : String} {told : History rt} {op : Command rt}
    {loaded : Policy rt} (permitted : Permitted callerEmail told op)
    (changes : op.changed = some loaded) :
    ∃ name, Program.Told told (.selectPolicy name) (some loaded) := by
  cases op <;> cases changes
  · exact permitted.1
  · exact permitted.imp fun _ => And.left

/-- What makes an entry is not refused. -/
theorem Recorded.commits {op : Command rt} {store : Store rt} {entry : PolicyHistory rt}
    (recorded : Recorded op store (Store.exec keyspace op store).2 entry) : op.Commits store := by
  cases op with
  | updatePolicy loaded new change =>
      by_contra refused
      have grown := recorded.history
      rw [Store.exec, Store.updatePolicy_refused refused] at grown
      have longer := congrArg List.length grown
      simp [Store.next] at longer
  | _ => trivial

/-- A change finds what its request loaded. -/
theorem Started.found (started : Started keyspace clients requests)
    (start : requests.state.WellFormed)
    (apart : ChangedApart (requests.trace (Store.exec keyspace) schedule))
    (split : requests.trace (Store.exec keyspace) schedule = before ++ d :: after)
    {loaded : Policy rt} (changes : d.op.changed = some loaded) (commits : d.op.Commits d.before) :
    d.before.findPolicy loaded.id = some loaded := by
  have wellFormed := (wellFormed_throughout keyspace start schedule).1
  have known : ∀ c ∈ before, c.before.WellFormed :=
    fun c member => wellFormed c (split ▸ List.mem_append_left _ member)
  obtain ⟨name, told⟩ := told_of_changed (started.permitted split) changes
  obtain ⟨store, member, isLoaded⟩ := Pool.event_of_told told
  have named : store.named name = some loaded := isLoaded.symm
  obtain ⟨first, mid, rfl⟩ := List.append_of_mem member
  have alone := apart first ⟨d.thread, .selectPolicy name, store⟩ mid d after
    (by rw [split, List.append_assoc, List.cons_append]) rfl name loaded rfl named
    ⟨loaded, changes, rfl, commits⟩
  let good (store : Store rt) : Prop :=
    store.WellFormed ∧ store.findPolicy loaded.id = some loaded
  have keeps (op : Command rt) (store : Store rt) (here : good store)
      (safe : ¬Changes loaded.id op store) : good (Store.exec keyspace op store).2 :=
    ⟨here.1.exec op, here.1.stays here.2 safe⟩
  have atLoad : good store := ⟨known _ member, (known _ member).find_named named⟩
  have reached : good d.before := by
    refine Pool.invariant_between keeps split atLoad fun c inside => ?_
    rcases List.mem_cons.mp inside with rfl | between
    · intro ⟨_, isLoad, _⟩
      cases isLoad
    · exact alone c between
  exact reached.2

/-- What the last entry says of a policy, and the policy. -/
abbrev Agree : Option (Definition rt) → Option (Definition rt) → Prop :=
  Option.Rel Definition.Same

theorem agree_refl (definition : Option (Definition rt)) : Agree definition definition := by
  cases definition with
  | none => exact .none
  | some definition => exact .some (.refl definition)

theorem agree_some {definition : Definition rt} {now : Option (Definition rt)}
    (agree : Agree (some definition) now) : ∃ there, now = some there ∧ definition.Same there := by
  cases agree with
  | some same => exact ⟨_, rfl, same⟩

theorem agree_none {now : Option (Definition rt)} (agree : Agree none now) : now = none := by
  cases agree
  rfl

/-- Each entry finds what the one before it left, and the last one what is there. -/
def Chained (row : Option (Definition rt)) : List (PolicyHistory rt) → Option (Definition rt) → Prop
  | [], now => Agree row now
  | entry :: entries, now =>
      Agree row entry.previousDefinition ∧ Chained entry.newDefinition entries now

theorem Chained.snoc {row now later : Option (Definition rt)} {entries : List (PolicyHistory rt)}
    {entry : PolicyHistory rt} (chained : Chained row entries now)
    (finds : entry.previousDefinition = now) (leaves : Agree entry.newDefinition later) :
    Chained row (entries ++ [entry]) later := by
  induction entries generalizing row with
  | nil =>
      subst finds
      exact ⟨chained, leaves⟩
  | cons first entries ih => exact ⟨chained.1, ih chained.2⟩

/-- An entry has the policy as it was, and as it is after the change. -/
structure Faithful (store later : Store rt) (entry : PolicyHistory rt) : Prop where
  previous : entry.previousDefinition = store.definition entry.policyId
  new : Agree entry.newDefinition (later.definition entry.policyId)

/-- The policy as the change left it, or deleted it. -/
def snapshot (store later : Store rt) (policyId : Int) : Option (Definition rt) :=
  later.definition policyId <|> store.definition policyId

theorem Faithful.snapshot {store later : Store rt} {entry : PolicyHistory rt}
    (faithful : Faithful store later entry) {op : Command rt}
    (notes : Notes op store entry) : ∃ target was, definitionForEntry entry = some target ∧
      Policies.snapshot store later entry.policyId = some was ∧ target.Same was := by
  have leaves := faithful.new
  unfold definitionForEntry Policies.snapshot
  cases isNew : entry.newDefinition with
  | some target =>
      rw [isNew] at leaves
      obtain ⟨was, isWas, same⟩ := agree_some leaves
      rw [isWas]
      exact ⟨target, was, rfl, rfl, same⟩
  | none =>
      rw [isNew] at leaves
      rw [agree_none leaves]
      rcases notes with ⟨_, isSome, _⟩ | ⟨loaded, _, _, isLoaded⟩
      · rw [isNew] at isSome
        cases isSome
      · rw [← faithful.previous, isLoaded]
        exact ⟨_, _, rfl, rfl, .refl _⟩

theorem Started.faithful (started : Started keyspace clients requests)
    (start : requests.state.WellFormed)
    (apart : ChangedApart (requests.trace (Store.exec keyspace) schedule))
    (split : requests.trace (Store.exec keyspace) schedule = before ++ d :: after)
    {entry : PolicyHistory rt}
    (recorded : Recorded d.op d.before (Store.exec keyspace d.op d.before).2 entry) :
    Faithful d.before (Store.exec keyspace d.op d.before).2 entry := by
  have own : (Store.exec keyspace d.op d.before).2.definition entry.policyId =
      PolicyHistory.replay (d.before.definition entry.policyId) entry := by
    rw [recorded.table, Function.update_self]
  rcases recorded.notes with ⟨isNone, _, absent⟩ | ⟨loaded, changes, isId, isLoaded⟩
  · refine ⟨isNone.trans absent.symm, ?_⟩
    rw [own, PolicyHistory.replay, isNone]
    exact agree_refl _
  · have found : d.before.definition entry.policyId = some loaded.definition := by
      rw [Store.definition, isId, started.found start apart split changes recorded.commits]
      rfl
    refine ⟨isLoaded.trans found.symm, ?_⟩
    rw [own, found, PolicyHistory.replay, isLoaded]
    cases entry.newDefinition with
    | none => exact .none
    | some new => exact .some (Definition.write_self loaded.definition new).symm

end Apart

/-- If changes of a policy do not overlap, its history leaves no gap: each entry
has the policy as the one before it left it, and the last as it is. -/
theorem history_chained {clients : ι → AdminRequest} {requests : Requests rt ι}
    (started : Started keyspace clients requests) (start : requests.state.WellFormed)
    (schedule : List ι) (apart : ChangedApart (requests.trace (Store.exec keyspace) schedule)) :
    ∃ added, (requests.runSchedule (Store.exec keyspace) schedule).state.history =
        requests.state.history ++ added ∧
      ∀ policyId, Chained (requests.state.definition policyId)
        (added.filter (·.policyId = policyId))
        ((requests.runSchedule (Store.exec keyspace) schedule).state.definition policyId) := by
  let good (store : Store rt) : Prop := ∃ added,
    store.history = requests.state.history ++ added ∧ ∀ policyId,
      Chained (requests.state.definition policyId) (added.filter (·.policyId = policyId))
        (store.definition policyId)
  have atStart : good requests.state := ⟨[], (List.append_nil _).symm, fun _ => agree_refl _⟩
  refine (Pool.holds_throughout good schedule atStart ?_).2
  intro before d after split here
  obtain ⟨added, isHistory, chained⟩ := here
  have wellFormed := (wellFormed_throughout keyspace start schedule).1 d (by simp [split])
  rcases wellFormed.recorded keyspace d.op with quiet | ⟨entry, recorded⟩
  · exact ⟨added, quiet.history.trans isHistory, fun policyId => quiet.table ▸ chained policyId⟩
  · have faithful := started.faithful start apart split recorded
    refine ⟨added ++ [entry], by rw [recorded.history, isHistory, List.append_assoc],
      fun policyId => ?_⟩
    rw [List.filter_append]
    by_cases own : policyId = entry.policyId
    · subst own
      have alone : [entry].filter (·.policyId = entry.policyId) = [entry] := by simp
      rw [alone]
      exact (chained _).snoc faithful.previous faithful.new
    · have none : [entry].filter (·.policyId = policyId) = [] := by simp [Ne.symm own]
      rw [none, List.append_nil, recorded.table, Function.update_of_ne own]
      exact chained policyId

/-! Rolling back. -/

/-- Entries are numbered in the order they were made. -/
structure Store.Numbered (store : Store rt) : Prop where
  keyed : Table.Keyed PolicyHistory.id store.history
  drawn : ∀ entry ∈ store.history, entry.id < store.historySequence

theorem Store.Numbered.exec {store : Store rt} (numbered : store.Numbered)
    (wellFormed : store.WellFormed) (op : Command rt) :
    (Store.exec keyspace op store).2.Numbered := by
  rcases wellFormed.recorded keyspace op with quiet | ⟨entry, recorded⟩
  · exact ⟨quiet.history ▸ numbered.keyed, quiet.history ▸ quiet.sequence ▸ numbered.drawn⟩
  · refine ⟨?_, fun old member => ?_⟩
    · rw [recorded.history]
      refine numbered.keyed.append fun old member => ?_
      rw [recorded.id]
      exact (numbered.drawn old member).ne
    · rw [recorded.history, List.mem_append, List.mem_singleton] at member
      rw [recorded.sequence]
      rcases member with inside | rfl
      · exact (numbered.drawn old inside).trans (Int.lt_succ _)
      · exact recorded.id ▸ Int.lt_succ _

theorem Store.history_of_ok {store : Store rt} {loaded : Policy rt} {new : Definition rt}
    {change : Change} (ok : (store.updatePolicy loaded new change).1 = .ok ()) :
    (store.updatePolicy loaded new change).2.history =
      store.history ++ [Store.changeEntry loaded new change store.historySequence] := by
  revert ok
  unfold Store.updatePolicy
  dsimp only
  split
  · intro _
    rfl
  · split
    · intro failed
      cases failed
    · split
      · intro failed
        cases failed
      · intro _
        rfl

theorem history_kept {requests : Requests rt ι} (start : requests.state.WellFormed)
    {schedule : List ι} {d : PolicyEvent rt ι}
    (inside : d ∈ requests.trace (Store.exec keyspace) schedule) {entry : PolicyHistory rt}
    (member : entry ∈ (Store.exec keyspace d.op d.before).2.history) :
    entry ∈ (requests.runSchedule (Store.exec keyspace) schedule).state.history := by
  obtain ⟨before, after, split⟩ := List.append_of_mem inside
  refine (Pool.holds_onward (entry ∈ Store.history ·) split member ?_).2
  intro past e rest split here
  have wellFormed := (wellFormed_throughout keyspace start schedule).1 e (by simp [split])
  rcases wellFormed.recorded keyspace e.op with quiet | ⟨new, recorded⟩
  · rwa [quiet.history]
  · rw [recorded.history]
    exact List.mem_append_left _ here

section Apart
variable {clients : ι → AdminRequest} {requests : Requests rt ι} {schedule : List ι}
  {before after : List (PolicyEvent rt ι)} {d : PolicyEvent rt ι}

theorem numbered_throughout (keyspace : Keyspace)
    (start : requests.state.WellFormed) (numbered : requests.state.Numbered) (schedule : List ι) :
    (requests.runSchedule (Store.exec keyspace) schedule).state.Numbered := by
  refine (Pool.holds_throughout Store.Numbered schedule numbered
    fun before d after split here => ?_).2
  exact here.exec ((wellFormed_throughout keyspace start schedule).1 d (by simp [split])) d.op

theorem Recorded.of_history (keyspace : Keyspace) {store : Store rt} (wellFormed : store.WellFormed)
    {op : Command rt} {entry : PolicyHistory rt}
    (grown : (Store.exec keyspace op store).2.history = store.history ++ [entry]) :
    Recorded op store (Store.exec keyspace op store).2 entry := by
  rcases wellFormed.recorded keyspace op with quiet | ⟨other, recorded⟩
  · have longer := congrArg List.length (quiet.history.symm.trans grown)
    simp at longer
  · have same := List.append_cancel_left (recorded.history.symm.trans grown)
    cases same
    exact recorded

/-- An edit that is accepted leaves the policy as it was meant. -/
theorem Started.written (started : Started keyspace clients requests)
    (start : requests.state.WellFormed)
    (apart : ChangedApart (requests.trace (Store.exec keyspace) schedule)) {i : ι}
    {loaded : Policy rt} {new : Definition rt} {change : Change} {store : Store rt}
    (inside : ⟨i, .updatePolicy loaded new change, store⟩ ∈
      requests.trace (Store.exec keyspace) schedule)
    (ok : (store.updatePolicy loaded new change).1 = .ok ()) :
    store.findPolicy loaded.id = some loaded ∧ ∃ restored,
      (store.updatePolicy loaded new change).2.definition loaded.id = some restored ∧
        new.Same restored := by
  obtain ⟨before, after, split⟩ := List.append_of_mem inside
  have wellFormed : store.WellFormed := (wellFormed_throughout keyspace start schedule).1 _ inside
  have grown : (Store.exec keyspace (.updatePolicy loaded new change) store).2.history =
      store.history ++ [Store.changeEntry loaded new change store.historySequence] :=
    Store.history_of_ok ok
  have recorded := Recorded.of_history keyspace wellFormed grown
  have leaves := (started.faithful start apart split recorded).new
  exact ⟨started.found start apart split rfl ok, agree_some leaves⟩

end Apart

/-- A policy that is rolled back to an entry is again what it was when a change
made the entry, if changes of a policy do not overlap. -/
theorem rollback_restores {clients : ι → AdminRequest} {requests : Requests rt ι}
    (started : Started keyspace clients requests) (start : requests.state.WellFormed)
    (numbered : requests.state.Numbered) (schedule : List ι)
    (apart : ChangedApart (requests.trace (Store.exec keyspace) schedule)) {i : ι}
    {policyName : String} {historyId : Int} {reason : Option String}
    (isRollback : (clients i).call = .rollbackPolicy policyName historyId reason)
    (served : Served (requests.runSchedule (Store.exec keyspace) schedule) i)
    {record : PolicyEvent rt ι} (inside : record ∈ requests.trace (Store.exec keyspace) schedule)
    {entry : PolicyHistory rt} (grown : (Store.exec keyspace record.op record.before).2.history =
      record.before.history ++ [entry]) (isEntry : entry.id = historyId) :
    ∃ write ∈ requests.trace (Store.exec keyspace) schedule, write.thread = i ∧
      ∃ policyId old was restored, write.before.definition policyId = some old ∧
        old.name = policyName ∧
        snapshot record.before (Store.exec keyspace record.op record.before).2 entry.policyId =
          some was ∧
        (Store.exec keyspace write.op write.before).2.definition policyId = some restored ∧
        was.Same restored ∧ ∀ action resourceType attempt,
          evaluate [was.evaluated] action resourceType attempt =
            evaluate [restored.evaluated] action resourceType attempt := by
  obtain ⟨answer, isDone⟩ := served
  have promised := Pool.obeys_runSchedule (Store.exec keyspace) started.obeys schedule i
  rw [isDone, List.nil_append] at promised
  have fulfils := promised answer rfl
  rw [isRollback] at fulfils
  obtain ⟨loaded, found, new, change, wasLoaded, wasFound, rfl, wasWritten⟩ := fulfils
  have wellFormed := (wellFormed_throughout keyspace start schedule).1
  -- The entry that was read is the one that was made.
  have sameEntry : found = entry := by
    obtain ⟨store, read, isFound⟩ := Pool.event_of_told wasFound
    obtain ⟨isRead, sameId⟩ := Table.find_eq_some isFound.symm
    have kept : found ∈ _ := history_kept start read isRead
    have made : entry ∈ _ := history_kept start inside (grown ▸ List.mem_concat_self)
    have final := numbered_throughout keyspace start numbered schedule
    exact List.inj_on_of_nodup_map final.keyed kept made (sameId.trans isEntry.symm)
  subst sameEntry
  obtain ⟨before, after, split⟩ := List.append_of_mem inside
  have recorded := Recorded.of_history keyspace (wellFormed record inside) grown
  obtain ⟨target, was, isTarget, isWas, same⟩ :=
    (started.faithful start apart split recorded).snapshot recorded.notes
  obtain ⟨store, written, ok⟩ := Pool.event_of_told wasWritten
  obtain ⟨isThere, restored, isRestored, same'⟩ := started.written start apart written ok.symm
  rw [isTarget] at same'
  have restores : was.Same restored := same.symm.trans same'
  refine ⟨_, written, rfl, loaded.id, loaded.definition, was, restored, ?_, ?_, isWas, isRestored,
    restores, restores.grants⟩
  · rw [Store.definition, isThere]
    rfl
  · obtain ⟨_, _, _, isName⟩ := event_of_loaded wellFormed wasLoaded
    exact isName

/-- Requests that run one after the other, with one change each. -/
theorem changedApart_of_turns {events : List (PolicyEvent rt Nat)}
    (turns : (events.map Event.thread).Pairwise (· ≤ ·))
    (once : (events.filter fun e => e.op.changed.isSome).Pairwise fun c d => c.thread ≠ d.thread) :
    ChangedApart events := by
  intro before load mid change after isTrace sameThread name loaded _ _ changes c between other
  obtain ⟨_, isChange, _⟩ := changes
  obtain ⟨_, isOther, _⟩ := other
  have own : c.thread = change.thread := by
    rw [isTrace, List.pairwise_map, List.pairwise_append] at turns
    have sorted := List.pairwise_cons.mp turns.2.1
    have lower := sorted.1 c (by simp [between])
    have upper := (List.pairwise_append.mp sorted.2).2.2 c between change (List.mem_cons_self ..)
    omega
  rw [isTrace, List.pairwise_filter, List.pairwise_append] at once
  have apart := (List.pairwise_append.mp (List.pairwise_cons.mp once.2.1).2).2.2
  exact apart c between change (List.mem_cons_self ..) (by simp [isOther]) (by simp [isChange]) own

/-! Ada describes a policy, Grace turns it off, and Ada takes that back. -/

def editing : Nat → AdminRequest
  | 0 => ⟨ada, .updatePolicy "readers"
      ⟨none, some (some "Who may read"), none, none, none, none, none⟩⟩
  | 1 => ⟨grace, .updatePolicy "readers" ⟨none, none, none, none, none, some (some false), none⟩⟩
  | _ => ⟨ada, .rollbackPolicy "readers" 1 none⟩

def oneByOne : List Nat :=
  List.replicate 9 0 ++ List.replicate 9 1 ++ List.replicate 10 2

def edits : List (PolicyEvent utcRuntime Nat) :=
  (serving editing).trace (Store.exec wholeCache) oneByOne

theorem edits_inside : 5 < edits.length := by decide +kernel

def described : PolicyHistory utcRuntime :=
  let readers := granting "readers" ["company:read"]
  Store.changeEntry ⟨3, readers, some "system"⟩ { readers with description := some "Who may read" }
    ⟨.updated, ["description"], "ada@example.com", none⟩ 1

theorem described_recorded : (Store.exec wholeCache (edits.get ⟨5, edits_inside⟩).op
    (edits.get ⟨5, edits_inside⟩).before).2.history =
      (edits.get ⟨5, edits_inside⟩).before.history ++ [described] := rfl

theorem edits_apart : ChangedApart edits :=
  changedApart_of_turns (by decide +kernel) (by decide +kernel)

theorem office_numbered : office.Numbered := ⟨List.nodup_nil, List.forall_mem_nil _⟩

theorem history_replays_editing : ∃ added,
    (servedIn editing oneByOne).history = office.history ++ added ∧
      ∀ policyId, (servedIn editing oneByOne).definition policyId =
        replayed (office.definition policyId) policyId added :=
  history_replays (serving editing) office_wellFormed oneByOne

theorem history_chained_editing : ∃ added,
    (servedIn editing oneByOne).history = office.history ++ added ∧
      ∀ policyId, Chained (office.definition policyId) (added.filter (·.policyId = policyId))
        ((servedIn editing oneByOne).definition policyId) :=
  history_chained (serving_started editing) office_wellFormed oneByOne edits_apart

theorem rollback_restores_editing :
    ∃ write ∈ edits, write.thread = 2 ∧
      ∃ policyId old was restored, write.before.definition policyId = some old ∧
        old.name = "readers" ∧
        snapshot (edits.get ⟨5, edits_inside⟩).before
          (Store.exec wholeCache (edits.get ⟨5, edits_inside⟩).op
            (edits.get ⟨5, edits_inside⟩).before).2 3 = some was ∧
        (Store.exec wholeCache write.op write.before).2.definition policyId = some restored ∧
        was.Same restored ∧ ∀ action resourceType attempt,
          evaluate [was.evaluated] action resourceType attempt =
            evaluate [restored.evaluated] action resourceType attempt := by
  have served : Served ((serving editing).runSchedule (Store.exec wholeCache) oneByOne) 2 :=
    ⟨_, rfl⟩
  exact rollback_restores (serving_started editing) office_wellFormed office_numbered oneByOne
    edits_apart rfl served (List.get_mem ..) described_recorded rfl

end BalanceSheetAnalysis.Policies

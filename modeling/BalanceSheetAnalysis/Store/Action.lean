import BalanceSheetAnalysis.Library.Raising
import BalanceSheetAnalysis.Store.Tables

/-! What a request does: it issues operations and may raise.  Run alone it
turns the store into a result and another store. -/
namespace BalanceSheetAnalysis
open Library

/-- The exceptions that reach a route or leave it. -/
inductive Failure where
  | valueError (detail : String)
  | yFinanceFetchError (detail : String)
  | runtimeError (detail : String)
  | typeError (detail : String)
  | httpException (status : Nat) (detail : String)
  | multipleResultsFound
  | staleDataError
  /-- `refresh` found no row. -/
  | invalidRequestError
  deriving DecidableEq

/-- An interpolated text is itself. -/
theorem toString_string (text : String) : toString text = text := rfl

/-- Raised below the routes: no HTTP status yet. -/
def Failure.Internal (failure : Failure) : Prop :=
  ∀ status detail, failure ≠ .httpException status detail

abbrev Action (α : Type) := ExceptT Failure (Program Reply) α

namespace Action

variable {α β : Type}

def query (op : Operation) : Action (Reply op) := ExceptT.lift (Program.perform op)

/-- `except ... as exc: raise ... from exc`. -/
def translate (handler : Failure → Failure) (action : Action α) : Action α :=
  ExceptT.adapt handler action

/-- The action for its effect alone. -/
def ignore (action : Action α) : Action Unit := action >>= fun _ => pure ()

def execute (db : Database) (action : Action α) (store : Store) : Except Failure α × Store :=
  Program.run (Store.exec db) (ExceptT.run action) store

/-- The committed data after the action, however it ended. -/
def after (db : Database) (action : Action α) (store : Store) : Store :=
  (action.execute db store).2

section Execute
variable (db : Database) (store : Store)

@[simp] theorem execute_pure (value : α) :
    execute db (pure value : Action α) store = (.ok value, store) := rfl

@[simp] theorem execute_query (op : Operation) :
    execute db (query op) store = (.ok (Store.exec db op store).1, (Store.exec db op store).2) :=
  rfl

theorem execute_bind (action : Action α) (rest : α → Action β) :
    execute db (action >>= rest) store =
      match execute db action store with
      | (.ok value, later) => execute db (rest value) later
      | (.error failure, later) => (.error failure, later) := by
  simp only [execute, ExceptT.run_bind, Program.run_bind]
  rcases Program.run (Store.exec db) action.run store with ⟨_ | _, later⟩ <;> rfl

/-- A query at the head of an action is answered by the store as it stands. -/
@[simp] theorem execute_query_bind (op : Operation) (rest : Reply op → Action β) :
    execute db (query op >>= rest) store =
      execute db (rest (Store.exec db op store).1) (Store.exec db op store).2 := by
  rw [execute_bind, execute_query]

@[simp] theorem execute_translate (handler : Failure → Failure) (action : Action α) :
    execute db (action.translate handler) store =
      ((action.execute db store).1.mapError handler, (action.execute db store).2) := by
  have adapted : ExceptT.run (action.translate handler) =
      (Except.mapError handler) <$> action.run := rfl
  rw [execute, adapted, map_eq_pure_bind, Program.run_bind]
  rfl

theorem execute_ignore_error {action : Action α} {failure : Failure} :
    (execute db action.ignore store).1 = .error failure ↔
      (execute db action store).1 = .error failure := by
  rw [ignore, execute_bind]
  rcases action.execute db store with ⟨_ | _, later⟩
  · exact ⟨fun failed => by cases failed; rfl, fun failed => by cases failed; rfl⟩
  · exact iff_of_false (fun failed => by cases failed) fun failed => by cases failed

theorem wellFormed_after {db : Database} {store : Store} (wf : Store.WellFormed db store)
    (action : Action α) : Store.WellFormed db (action.after db store) := by
  have keeps (op : Operation) (store : Store) (wf : Store.WellFormed db store) :
      Store.WellFormed db (Store.exec db op store).2 := wf.exec op
  exact Program.run_invariant _ keeps _ wf

end Execute

/-! What an action does, given what it is told. -/

/-- Every operation is `allowed` by what the action was told before it, and the
value it returns fits all it was told. -/
def Obeys (allowed : Program.History Reply → Operation → Prop)
    (post : Program.History Reply → α → Prop) (history : Program.History Reply)
    (action : Action α) : Prop :=
  Program.Obeys allowed (fun told result => ∀ value, result = .ok value → post told value)
    history (ExceptT.run action)

variable {allowed : Program.History Reply → Operation → Prop}
  {post : Program.History Reply → α → Prop} {history : Program.History Reply}

theorem obeys_pure {value : α} (fits : post history value) :
    Obeys allowed post history (pure value : Action α) := Raising.obeys_pure fits

theorem obeys_throw (failure : Failure) :
    Obeys allowed post history (throw failure : Action α) := Raising.obeys_throw failure

theorem obeys_query {op : Operation} {post : Program.History Reply → Reply op → Prop}
    (permitted : allowed history op) (fits : ∀ reply, post (history ++ [⟨op, reply⟩]) reply) :
    Obeys allowed post history (query op) := Raising.obeys_issue permitted fits

theorem Obeys.bind {action : Action α} {rest : α → Action β}
    {middle : Program.History Reply → α → Prop} {post : Program.History Reply → β → Prop}
    (first : Obeys allowed middle history action)
    (second : ∀ value later, middle later value → Obeys allowed post later (rest value)) :
    Obeys allowed post history (action >>= rest) := Raising.Obeys.bind first second

theorem obeys_query_bind {op : Operation} {rest : Reply op → Action β}
    {post : Program.History Reply → β → Prop} (permitted : allowed history op)
    (later : ∀ reply, Obeys allowed post (history ++ [⟨op, reply⟩]) (rest reply)) :
    Obeys allowed post history (query op >>= rest) := Raising.obeys_issue_bind permitted later

theorem Obeys.mono {action : Action α} {allowed' : Program.History Reply → Operation → Prop}
    {post' : Program.History Reply → α → Prop} (obeys : Obeys allowed post history action)
    (weaker : ∀ history op, allowed history op → allowed' history op)
    (weakerPost : ∀ history value, post history value → post' history value) :
    Obeys allowed' post' history action := Raising.Obeys.mono obeys weaker weakerPost

theorem Obeys.translate {action : Action α} (obeys : Obeys allowed post history action)
    (handler : Failure → Failure) :
    Obeys allowed post history (action.translate handler) := Raising.Obeys.adapt obeys handler

/-! What an action may raise, whatever it is told. -/

def Raises (may : Failure → Prop) (action : Action α) : Prop :=
  ∀ history, Program.Obeys (fun _ _ => True)
    (fun _ result => ∀ failure, result = .error failure → may failure) history (ExceptT.run action)

section Raises
variable {may : Failure → Prop}

theorem raises_pure (value : α) : Raises may (pure value : Action α) := by
  rintro _ failure ⟨⟩

theorem raises_throw {failure : Failure} (permitted : may failure) :
    Raises may (throw failure : Action α) := by
  rintro _ _ ⟨⟩
  exact permitted

theorem raises_query (op : Operation) : Raises may (query op) := by
  refine fun _ => ⟨trivial, fun reply => ?_⟩
  rintro failure ⟨⟩

theorem Raises.bind {action : Action α} {rest : α → Action β} (first : Raises may action)
    (second : ∀ value, Raises may (rest value)) : Raises may (action >>= rest) := by
  intro history
  apply Raising.obeys_run_bind (first history)
  · intro value later _
    exact second value later
  · rintro failure later fits _ ⟨⟩
    exact fits failure rfl

theorem raises_query_bind {op : Operation} {rest : Reply op → Action β}
    (second : ∀ reply, Raises may (rest reply)) : Raises may (query op >>= rest) :=
  (raises_query op).bind second

theorem Raises.mono {may' : Failure → Prop} {action : Action α} (raises : Raises may action)
    (weaker : ∀ failure, may failure → may' failure) : Raises may' action :=
  fun history => Program.Obeys.mono (raises history) (fun _ _ => id)
    fun _ _ fits failure same => weaker failure (fits failure same)

theorem Raises.translate {may' : Failure → Prop} {action : Action α}
    (raises : Raises may action) {handler : Failure → Failure}
    (handled : ∀ failure, may failure → may' (handler failure)) :
    Raises may' (action.translate handler) := by
  intro history
  apply Raising.obeys_run_adapt (raises history)
  intro later result fits failure returned
  cases result with
  | ok value => cases returned
  | error raised =>
      cases returned
      exact handled raised (fits raised rfl)

theorem Raises.ignore {action : Action α} (raises : Raises may action) :
    Raises may action.ignore :=
  raises.bind fun _ => raises_pure ()

theorem Raises.outcome {action : Action α} (raises : Raises may action) (db : Database)
    (store : Store) {failure : Failure} (failed : (action.execute db store).1 = .error failure) :
    may failure := by
  obtain ⟨_, fits⟩ := (raises []).outcome (Store.exec db) store
  exact fits failure failed

end Raises

/-! Actions that read first and then write once. -/

/-- Nothing was written yet. -/
def Calm (history : Program.History Reply) : Prop := ∀ entry ∈ history, entry.1.Quiet

theorem calm_nil : Calm [] := by
  intro entry member
  cases member

theorem calm_append {op : Operation} {reply : Reply op} (calm : Calm history) (quiet : op.Quiet) :
    Calm (history ++ [⟨op, reply⟩]) := by
  intro entry member
  rcases List.mem_append.mp member with old | new
  · exact calm entry old
  · rw [List.mem_singleton] at new
    exact new ▸ quiet

/-- The action writes at most once, and then after quiet operations only. -/
def WritesOnce (allowed : Program.History Reply → Operation → Prop)
    (history : Program.History Reply) (action : Action α) : Prop :=
  Obeys (Program.WritesOnce Operation.Quiet allowed) (fun _ _ => True) history action

/-- The action writes nothing. -/
def Reads (post : Program.History Reply → α → Prop) (history : Program.History Reply)
    (action : Action α) : Prop :=
  Obeys (fun _ op => op.Quiet) post history action

theorem Reads.writesOnce {action : Action α} (reads : Reads post history action) :
    WritesOnce allowed history action :=
  reads.mono (fun _ _ quiet => .inl quiet) fun _ _ _ => trivial

theorem reads_query {op : Operation} {post : Program.History Reply → Reply op → Prop}
    (quiet : op.Quiet) (fits : ∀ reply, post (history ++ [⟨op, reply⟩]) reply) :
    Reads post history (query op) :=
  obeys_query quiet fits

theorem Reads.grows {action : Action α} (reads : Reads post history action) :
    Reads (fun later value => post later value ∧ history ⊆ later ∧
      (Calm history → Calm later)) history action := by
  apply Program.Obeys.mono (Program.Obeys.grows reads) (fun _ _ => id)
  intro later result ⟨fits, grown, added⟩ value returned
  refine ⟨fits value returned, grown, fun calm entry member => ?_⟩
  exact (added entry member).elim (calm entry) id

theorem Reads.bind {action : Action α} {rest : α → Action β}
    {middle : Program.History Reply → α → Prop} {post : Program.History Reply → β → Prop}
    (reads : Reads middle history action)
    (then_reads : ∀ value later, middle later value → history ⊆ later →
      Reads post later (rest value)) : Reads post history (action >>= rest) :=
  Obeys.bind reads.grows fun value later fits => then_reads value later fits.1 fits.2.1

theorem Reads.bind_writesOnce {action : Action α} {rest : α → Action β}
    (reads : Reads post history action) (calm : Calm history)
    (writes : ∀ value later, post later value → history ⊆ later → Calm later →
      WritesOnce allowed later (rest value)) :
    WritesOnce allowed history (action >>= rest) := by
  have first : Obeys (Program.WritesOnce Operation.Quiet allowed) (fun later value =>
      post later value ∧ history ⊆ later ∧ (Calm history → Calm later)) history action :=
    reads.grows.mono (fun _ _ quiet => .inl quiet) fun _ _ => id
  exact first.bind fun value later fits =>
    writes value later fits.1 fits.2.1 (fits.2.2 calm)

theorem writesOnce_query_bind {op : Operation} {rest : Reply op → Action β}
    (calm : Calm history) (permitted : allowed history op)
    (reads : ∀ reply, Reads (fun _ _ => True) (history ++ [⟨op, reply⟩]) (rest reply)) :
    WritesOnce allowed history (query op >>= rest) :=
  obeys_query_bind (.inr ⟨calm, permitted⟩) fun reply => (reads reply).writesOnce

theorem WritesOnce.ignore {action : Action α} (writes : WritesOnce allowed history action) :
    WritesOnce allowed history action.ignore :=
  Obeys.bind writes fun _ _ _ => obeys_pure trivial

theorem WritesOnce.mono {action : Action α}
    {allowed' : Program.History Reply → Operation → Prop}
    (writes : WritesOnce allowed history action)
    (weaker : ∀ history op, allowed history op → allowed' history op) :
    WritesOnce allowed' history action :=
  Obeys.mono writes (fun _ _ => Or.imp_right (And.imp_right (weaker _ _))) fun _ _ => id

theorem WritesOnce.since {action : Action α} (writes : WritesOnce allowed history action) :
    WritesOnce (fun told op => history ⊆ told ∧ allowed told op) history action :=
  Obeys.mono (Program.Obeys.since writes)
    (fun _ _ known => known.2.imp id fun once => ⟨once.1, known.1, once.2⟩) fun _ _ => id

theorem WritesOnce.translate {action : Action α} (writes : WritesOnce allowed history action)
    (handler : Failure → Failure) : WritesOnce allowed history (action.translate handler) :=
  Obeys.translate writes handler

/-- What an action run alone was told while the tables stayed as they were. -/
def Answered (db : Database) (store : Store) (told : Program.History Reply) : Prop :=
  Program.Answered (Store.exec db) (Store.WellFormed db) Store.data store.data told

theorem Answered.getCompany {db : Database} {store : Store} {told : Program.History Reply}
    (answered : Answered db store told) {id : Int} {reply : Option Company}
    (isTold : Program.Told told (.getCompany id) reply) : store.findCompany id = reply := by
  obtain ⟨found, _, same, answer⟩ := answered _ isTold
  rw [show reply = found.findCompany id from answer, Store.findCompany, Store.findCompany,
    show found.companies = store.companies from congrArg Prod.fst same]

theorem Answered.countSubsidiaries {db : Database} {store : Store}
    {told : Program.History Reply} (answered : Answered db store told) {id : Int} {count : Nat}
    (isTold : Program.Told told (.countSubsidiaries id) count) :
    (store.subsidiaries id).length = count := by
  obtain ⟨found, _, same, answer⟩ := answered _ isTold
  rw [show count = (found.subsidiaries id).length from answer, Store.subsidiaries,
    Store.subsidiaries, show found.companies = store.companies from congrArg Prod.fst same]

/-- Run alone, such an action leaves both tables as they are or executes one
write on them, with everything it was told still true. -/
theorem WritesOnce.after {action : Action α} (writes : WritesOnce allowed [] action)
    {db : Database} {store : Store} (wf : Store.WellFormed db store) :
    (action.after db store).data = store.data ∨
      ∃ told op found, Store.WellFormed db found ∧ found.data = store.data ∧
        Answered db store told ∧ allowed told op ∧
        (action.after db store).data = (Store.exec db op found).2.data := by
  have keeps (op : Operation) (store : Store) (wf : Store.WellFormed db store) :
      Store.WellFormed db (Store.exec db op store).2 := wf.exec op
  exact Program.run_writesOnce (Store.exec_quiet db) keeps writes wf (Program.answered_nil _)

end Action
end BalanceSheetAnalysis

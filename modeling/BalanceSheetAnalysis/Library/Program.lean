import Mathlib.Logic.Function.Basic
import Mathlib.Data.List.Induction

/-! Clients of a shared store as programs: a program ends with a value or
issues one operation and goes on with the reply.  The same program has two
meanings below.  Run alone it is a state transformer; in a pool its operations
interleave with those of other threads in the order a schedule gives. -/
namespace Library

inductive Program {Op : Type} (Reply : Op → Type) (α : Type) : Type where
  | done (value : α)
  | call (op : Op) (next : Reply op → Program Reply α)

namespace Program

variable {Op : Type} {Reply : Op → Type} {α β γ : Type}

protected def bind : Program Reply α → (α → Program Reply β) → Program Reply β
  | .done value, rest => rest value
  | .call op next, rest => .call op fun reply => (next reply).bind rest

def perform (op : Op) : Program Reply (Reply op) :=
  .call op .done

instance : Monad (Program Reply) where
  pure := .done
  bind := Program.bind

theorem bind_done (program : Program Reply α) : (program >>= Program.done) = program := by
  induction program with
  | done value => rfl
  | call op next ih => exact congrArg (Program.call op) (funext ih)

theorem bind_assoc (program : Program Reply α) (first : α → Program Reply β)
    (second : β → Program Reply γ) :
    ((program >>= first) >>= second) = (program >>= fun value => first value >>= second) := by
  induction program with
  | done value => rfl
  | call op next ih => exact congrArg (Program.call op) (funext ih)

instance : LawfulMonad (Program Reply) :=
  .mk' (Program Reply) bind_done (fun _ _ => rfl) bind_assoc

/-! Running a program alone. -/

section Run
variable {σ : Type} (exec : (op : Op) → σ → Reply op × σ)

def run : Program Reply α → σ → α × σ
  | .done value, state => (value, state)
  | .call op next, state => run (next (exec op state).1) (exec op state).2

@[simp] theorem run_call (op : Op) (next : Reply op → Program Reply α) (state : σ) :
    run exec (.call op next) state = run exec (next (exec op state).1) (exec op state).2 := rfl

theorem run_bind (program : Program Reply α) (rest : α → Program Reply β) (state : σ) :
    run exec (program >>= rest) state =
      run exec (rest (run exec program state).1) (run exec program state).2 := by
  induction program generalizing state with
  | done value => rfl
  | call op next ih => exact ih _ _

theorem run_invariant {inv : σ → Prop} (keeps : ∀ op state, inv state → inv (exec op state).2)
    (program : Program Reply α) {state : σ} (start : inv state) :
    inv (run exec program state).2 := by
  induction program generalizing state with
  | done value => exact start
  | call op next ih => exact ih _ (keeps op state start)

end Run

/-! Running a program alone, against a store that turns some operations down. -/

section Accepting
variable {σ : Type} (exec : (op : Op) → σ → Reply op × σ) (accepts : Op → Prop)

/-- The first operation that is turned down ends the run, without a value. -/
def runAccepting [DecidablePred accepts] : Program Reply α → σ → Option α × σ
  | .done value, state => (some value, state)
  | .call op next, state =>
      if accepts op then runAccepting (next (exec op state).1) (exec op state).2
      else (none, state)

/-- The store accepts every operation the program issues when it is run alone. -/
def Accepted : Program Reply α → σ → Prop
  | .done _, _ => True
  | .call op next, state => accepts op ∧ Accepted (next (exec op state).1) (exec op state).2

theorem accepted_bind (program : Program Reply α) (rest : α → Program Reply β) (state : σ) :
    Accepted exec accepts (program >>= rest) state ↔
      Accepted exec accepts program state ∧
        Accepted exec accepts (rest (run exec program state).1) (run exec program state).2 := by
  induction program generalizing state with
  | done value => exact (true_and _).to_iff.symm
  | call op next ih => exact (and_congr_right fun _ => ih _ _).trans and_assoc.symm

variable [DecidablePred accepts] {exec accepts}

theorem runAccepting_bind (program : Program Reply α) (rest : α → Program Reply β) (state : σ) :
    runAccepting exec accepts (program >>= rest) state =
      match runAccepting exec accepts program state with
      | (some value, later) => runAccepting exec accepts (rest value) later
      | (none, later) => (none, later) := by
  induction program generalizing state with
  | done value => rfl
  | call op next ih =>
      by_cases accepted : accepts op
      · have before : runAccepting exec accepts (.call op next) state =
            runAccepting exec accepts (next (exec op state).1) (exec op state).2 := if_pos accepted
        rw [before, ← ih]
        exact if_pos accepted
      · have before : runAccepting exec accepts (.call op next) state = (none, state) :=
          if_neg accepted
        rw [before]
        exact if_neg accepted

/-- What every operation that is accepted keeps. -/
theorem runAccepting_invariant {inv : σ → Prop}
    (keeps : ∀ op state, accepts op → inv state → inv (exec op state).2)
    (program : Program Reply α) {state : σ} (start : inv state) :
    inv (runAccepting exec accepts program state).2 := by
  induction program generalizing state with
  | done value => exact start
  | call op next ih =>
      rw [runAccepting]
      split
      · rename_i accepted
        exact ih _ (keeps op state accepted start)
      · exact start

theorem runAccepting_of_accepted {program : Program Reply α} {state : σ}
    (accepted : Accepted exec accepts program state) :
    runAccepting exec accepts program state =
      (some (run exec program state).1, (run exec program state).2) := by
  induction program generalizing state with
  | done value => rfl
  | call op next ih => exact (if_pos accepted.1).trans (ih _ accepted.2)

theorem runAccepting_of_refused {program : Program Reply α} {state : σ}
    (refused : ¬Accepted exec accepts program state) :
    (runAccepting exec accepts program state).1 = none := by
  induction program generalizing state with
  | done value => exact absurd trivial refused
  | call op next ih =>
      rw [runAccepting]
      split
      · rename_i accepted
        exact ih _ fun later => refused ⟨accepted, later⟩
      · rfl

end Accepting

/-! What a program does, given what it has been told so far. -/

/-- The replies a thread has received, oldest first. -/
abbrev History (Reply : Op → Type) := List (Sigma Reply)

def Told (history : History Reply) (op : Op) (reply : Reply op) : Prop :=
  ⟨op, reply⟩ ∈ history

theorem told_last (history : History Reply) (op : Op) (reply : Reply op) :
    Told (history ++ [⟨op, reply⟩]) op reply :=
  List.mem_append_right _ (List.mem_singleton_self _)

/-- Whatever the replies, each operation is `allowed` by the history before it
and the value at the end fits the whole history. -/
def Obeys (allowed : History Reply → Op → Prop) (post : History Reply → α → Prop) :
    History Reply → Program Reply α → Prop
  | history, .done value => post history value
  | history, .call op next =>
      allowed history op ∧ ∀ reply, Obeys allowed post (history ++ [⟨op, reply⟩]) (next reply)

theorem Obeys.bind {allowed : History Reply → Op → Prop} {middle : History Reply → α → Prop}
    {post : History Reply → β → Prop} {history : History Reply}
    {program : Program Reply α} {rest : α → Program Reply β}
    (first : Obeys allowed middle history program)
    (second : ∀ value later, middle later value → Obeys allowed post later (rest value)) :
    Obeys allowed post history (program >>= rest) := by
  induction program generalizing history with
  | done value => exact second value history first
  | call op next ih => exact ⟨first.1, fun reply => ih reply (first.2 reply)⟩

theorem Obeys.mono {allowed allowed' : History Reply → Op → Prop}
    {post post' : History Reply → α → Prop} {history : History Reply}
    {program : Program Reply α} (obeys : Obeys allowed post history program)
    (weaker : ∀ history op, allowed history op → allowed' history op)
    (weakerPost : ∀ history value, post history value → post' history value) :
    Obeys allowed' post' history program := by
  induction program generalizing history with
  | done value => exact weakerPost history value obeys
  | call op next ih => exact ⟨weaker _ _ obeys.1, fun reply => ih reply (obeys.2 reply)⟩

/-- Whatever a program does, it does knowing all it was told at the start. -/
theorem Obeys.since {allowed : History Reply → Op → Prop} {post : History Reply → α → Prop}
    {history : History Reply} {program : Program Reply α}
    (obeys : Obeys allowed post history program) :
    Obeys (fun told op => history ⊆ told ∧ allowed told op) post history program := by
  induction program generalizing history with
  | done value => exact obeys
  | call op next ih =>
      refine ⟨⟨List.Subset.refl _, obeys.1⟩, fun reply => ?_⟩
      apply (ih reply (obeys.2 reply)).mono
      · intro told op known
        exact ⟨List.Subset.trans (List.subset_append_left _ _) known.1, known.2⟩
      · intro _ _ fits
        exact fits

/-- Nor does it forget any of it. -/
theorem Obeys.kept {allowed : History Reply → Op → Prop} {post : History Reply → α → Prop}
    {history : History Reply} {program : Program Reply α}
    (obeys : Obeys allowed post history program) :
    Obeys allowed (fun later value => history ⊆ later ∧ post later value) history program := by
  induction program generalizing history with
  | done value => exact ⟨List.Subset.refl _, obeys⟩
  | call op next ih =>
      refine ⟨obeys.1, fun reply => (ih reply (obeys.2 reply)).mono (fun _ _ => id) ?_⟩
      intro later value kept
      exact ⟨List.Subset.trans (List.subset_append_left _ _) kept.1, kept.2⟩

/-- A program of quiet operations adds only quiet ones to what it was told. -/
theorem Obeys.extends {quiet : Op → Prop} {post : History Reply → α → Prop}
    {history : History Reply} {program : Program Reply α}
    (obeys : Obeys (fun _ op => quiet op) post history program) :
    Obeys (fun _ op => quiet op) (fun told value => post told value ∧
      ∃ later, told = history ++ later ∧ ∀ entry ∈ later, quiet entry.1) history program := by
  induction program generalizing history with
  | done value => exact ⟨obeys, [], (List.append_nil history).symm, List.forall_mem_nil _⟩
  | call op next ih =>
      refine ⟨obeys.1, fun reply => (ih reply (obeys.2 reply)).mono (fun _ _ => id) ?_⟩
      rintro told value ⟨fits, later, rfl, added⟩
      refine ⟨fits, ⟨op, reply⟩ :: later, List.append_assoc .., ?_⟩
      exact List.forall_mem_cons.mpr ⟨obeys.1, added⟩

theorem Obeys.grows {quiet : Op → Prop} {post : History Reply → α → Prop}
    {history : History Reply} {program : Program Reply α}
    (obeys : Obeys (fun _ op => quiet op) post history program) :
    Obeys (fun _ op => quiet op) (fun later value => post later value ∧ history ⊆ later ∧
      ∀ entry ∈ later, entry ∈ history ∨ quiet entry.1) history program := by
  apply obeys.extends.mono (fun _ _ => id)
  rintro _ value ⟨fits, later, rfl, added⟩
  refine ⟨fits, List.subset_append_left _ _, fun entry member => ?_⟩
  exact (List.mem_append.mp member).imp id (added entry)

/-- Nothing of one kind is issued once something of another was. -/
def NeverAfter (early late : Op → Prop) : History Reply → Program Reply α → Prop :=
  Obeys (fun told op => late op → ∀ entry ∈ told, ¬early entry.1) fun _ _ => True

section NeverAfter
variable {early late : Op → Prop} {history : History Reply} {program : Program Reply α}
  {post : History Reply → α → Prop}

theorem neverAfter_of_late (never : Obeys (fun _ op => ¬late op) post history program) :
    NeverAfter early late history program :=
  never.mono (fun _ _ isNot isLate => absurd isLate isNot) fun _ _ _ => trivial

theorem Obeys.clean (never : Obeys (fun _ op => ¬early op) post history program)
    (clean : ∀ entry ∈ history, ¬early entry.1) :
    Obeys (fun told op => late op → ∀ entry ∈ told, ¬early entry.1)
      (fun later _ => ∀ entry ∈ later, ¬early entry.1) history program := by
  induction program generalizing history with
  | done value => exact clean
  | call op next ih =>
      refine ⟨fun _ => clean, fun reply => ih reply (never.2 reply) ?_⟩
      exact List.forall_mem_append.mpr ⟨clean, List.forall_mem_singleton.mpr never.1⟩

theorem neverAfter_of_early (never : Obeys (fun _ op => ¬early op) post history program)
    (clean : ∀ entry ∈ history, ¬early entry.1) : NeverAfter early late history program :=
  (never.clean clean).mono (fun _ _ => id) fun _ _ _ => trivial

theorem NeverAfter.bind {rest : α → Program Reply β}
    (first : Obeys (fun _ op => ¬early op) post history program)
    (clean : ∀ entry ∈ history, ¬early entry.1)
    (second : ∀ value later, (∀ entry ∈ later, ¬early entry.1) →
      NeverAfter early late later (rest value)) :
    NeverAfter early late history (program >>= rest) :=
  Obeys.bind (first.clean clean) second

end NeverAfter

/-- One reply decides the verdict: nothing is issued after it, and the value at
the end is a verdict exactly if there was one. -/
def Decided (allowed : Op → Prop) (decides : Sigma Reply → Prop) (verdict : α → Prop) :
    History Reply → Program Reply α → Prop :=
  Obeys (fun told op => (∀ entry ∈ told, ¬decides entry) ∧ allowed op)
    fun told value => verdict value ↔ ∃ entry ∈ told, decides entry

/-- A program run alone ends as it promises, after being told something. -/
theorem Obeys.outcome {σ : Type} (exec : (op : Op) → σ → Reply op × σ)
    {allowed : History Reply → Op → Prop} {post : History Reply → α → Prop}
    {history : History Reply} {program : Program Reply α}
    (obeys : Obeys allowed post history program) (state : σ) :
    ∃ later, post later (run exec program state).1 := by
  induction program generalizing history state with
  | done value => exact ⟨history, obeys⟩
  | call op next ih => exact ih _ (obeys.2 _) _

section Alone
variable {σ V : Type} {exec : (op : Op) → σ → Reply op × σ} {view : σ → V} {quiet : Op → Prop}
  {inv : σ → Prop} {allowed : History Reply → Op → Prop} {post : History Reply → α → Prop}

/-- Every reply in the history is one a state with this view gives. -/
def Answered (exec : (op : Op) → σ → Reply op × σ) (inv : σ → Prop) (view : σ → V) (seen : V)
    (history : History Reply) : Prop :=
  ∀ entry ∈ history, ∃ state, inv state ∧ view state = seen ∧
    entry.2 = (exec entry.1 state).1

theorem answered_nil (seen : V) : Answered exec inv view seen [] := by
  intro entry member
  cases member

/-- One write, and only after quiet operations. -/
def WritesOnce (quiet : Op → Prop) (allowed : History Reply → Op → Prop)
    (history : History Reply) (op : Op) : Prop :=
  quiet op ∨ (∀ entry ∈ history, quiet entry.1) ∧ allowed history op

theorem run_written (quiet_view : ∀ op state, quiet op → view (exec op state).2 = view state)
    {program : Program Reply α} {history : History Reply}
    (obeys : Obeys (WritesOnce quiet allowed) post history program)
    (written : ¬∀ entry ∈ history, quiet entry.1) (state : σ) :
    view (run exec program state).2 = view state := by
  induction program generalizing history state with
  | done value => rfl
  | call op next ih =>
      have isQuiet : quiet op := obeys.1.elim id fun writes => absurd writes.1 written
      rw [run_call, ih _ (obeys.2 _), quiet_view op state isQuiet]
      exact fun calm => written fun entry member => calm entry (List.mem_append_left _ member)

/-- A program that writes at most once, run alone: if it writes at all then the
write finds the view that all replies before it were read from. -/
theorem run_writesOnce
    (quiet_view : ∀ op state, quiet op → view (exec op state).2 = view state)
    (keeps : ∀ op state, inv state → inv (exec op state).2)
    {program : Program Reply α} {history : History Reply} {state : σ}
    (obeys : Obeys (WritesOnce quiet allowed) post history program) (start : inv state)
    (answered : Answered exec inv view (view state) history) :
    view (run exec program state).2 = view state ∨
      ∃ earlier op found, inv found ∧ view found = view state ∧
        Answered exec inv view (view state) earlier ∧ allowed earlier op ∧
        view (run exec program state).2 = view (exec op found).2 := by
  induction program generalizing history state with
  | done value => exact .inl rfl
  | call op next ih =>
      rw [run_call]
      by_cases isQuiet : quiet op
      · have same := quiet_view op state isQuiet
        have later := ih _ (obeys.2 (exec op state).1) (keeps op state start) fun entry member => by
          rw [same]
          rcases List.mem_append.mp member with old | new
          · exact answered entry old
          · rw [List.mem_singleton] at new
            exact ⟨state, start, rfl, by rw [new]⟩
        rwa [same] at later
      · obtain ⟨calm, permitted⟩ := obeys.1.resolve_left isQuiet
        refine .inr ⟨history, op, state, start, rfl, answered, permitted, ?_⟩
        refine run_written quiet_view (obeys.2 _) (fun calm => isQuiet ?_) _
        exact calm ⟨op, _⟩ (told_last history op _)

end Alone

end Program

/-! Threads over one store. -/

structure Pool {Op : Type} (Reply : Op → Type) (σ ι α : Type) where
  state : σ
  threads : ι → Program Reply α

/-- One operation of a run: who issued it, and the state it found. -/
structure Event (Op σ ι : Type) where
  thread : ι
  op : Op
  before : σ

namespace Pool

variable {Op : Type} {Reply : Op → Type} {σ ι α : Type} [DecidableEq ι]
  (exec : (op : Op) → σ → Reply op × σ)

/-- The scheduled thread issues its next operation; a finished one stays put. -/
def step (pool : Pool Reply σ ι α) (thread : ι) : Pool Reply σ ι α :=
  match pool.threads thread with
  | .done _ => pool
  | .call op next =>
      { state := (exec op pool.state).2
        threads := Function.update pool.threads thread (next (exec op pool.state).1) }

def event (pool : Pool Reply σ ι α) (thread : ι) : List (Event Op σ ι) :=
  match pool.threads thread with
  | .done _ => []
  | .call op _ => [⟨thread, op, pool.state⟩]

def runSchedule (pool : Pool Reply σ ι α) (schedule : List ι) : Pool Reply σ ι α :=
  schedule.foldl (step exec) pool

def trace : Pool Reply σ ι α → List ι → List (Event Op σ ι)
  | _, [] => []
  | pool, thread :: schedule => event pool thread ++ trace (step exec pool thread) schedule

@[simp] theorem runSchedule_nil (pool : Pool Reply σ ι α) :
    pool.runSchedule exec [] = pool := rfl

@[simp] theorem runSchedule_cons (pool : Pool Reply σ ι α) (thread : ι) (schedule : List ι) :
    pool.runSchedule exec (thread :: schedule) =
      (pool.step exec thread).runSchedule exec schedule := rfl

theorem runSchedule_append (pool : Pool Reply σ ι α) (first second : List ι) :
    pool.runSchedule exec (first ++ second) =
      (pool.runSchedule exec first).runSchedule exec second :=
  List.foldl_append

theorem trace_append (pool : Pool Reply σ ι α) (first second : List ι) :
    pool.trace exec (first ++ second) =
      pool.trace exec first ++ (pool.runSchedule exec first).trace exec second := by
  induction first generalizing pool with
  | nil => rfl
  | cons thread first ih =>
      simp only [List.cons_append, trace, runSchedule_cons, ih, List.append_assoc]

/-- What one thread has been told in a stretch of a run. -/
def historyOf (events : List (Event Op σ ι)) (thread : ι) : Program.History Reply :=
  (events.filter (·.thread = thread)).map fun e => ⟨e.op, (exec e.op e.before).1⟩

theorem historyOf_append (first second : List (Event Op σ ι)) (thread : ι) :
    historyOf exec (first ++ second) thread =
      historyOf exec first thread ++ historyOf exec second thread := by
  simp [historyOf]

section Threads
variable {allowed : ι → Program.History Reply → Op → Prop}
  {post : ι → Program.History Reply → α → Prop}

/-- A step extends only the history of its own thread. -/
theorem step_obeys {pool : Pool Reply σ ι α} {histories : ι → Program.History Reply}
    (obeys : ∀ i, Program.Obeys (allowed i) (post i) (histories i) (pool.threads i))
    (thread i : ι) :
    Program.Obeys (allowed i) (post i) (histories i ++ historyOf exec (pool.event thread) i)
      ((pool.step exec thread).threads i) := by
  have own := obeys thread
  unfold step event
  split
  · simpa [historyOf] using obeys i
  · rename_i op next found
    rw [found] at own
    by_cases same : i = thread
    · subst same
      simpa [historyOf] using own.2 _
    · simpa [historyOf, same, Ne.symm same] using obeys i

theorem obeys_runSchedule {pool : Pool Reply σ ι α} {histories : ι → Program.History Reply}
    (obeys : ∀ i, Program.Obeys (allowed i) (post i) (histories i) (pool.threads i))
    (schedule : List ι) (i : ι) :
    Program.Obeys (allowed i) (post i)
      (histories i ++ historyOf exec (pool.trace exec schedule) i)
      ((pool.runSchedule exec schedule).threads i) := by
  induction schedule generalizing pool histories with
  | nil => simpa [trace, historyOf] using obeys i
  | cons thread schedule ih =>
      have later := ih (step_obeys exec obeys thread)
      rwa [List.append_assoc, ← historyOf_append] at later

end Threads

section Events
variable {exec}

/-- An event is the next operation of its thread in the state of the run so far. -/
theorem trace_split {pool : Pool Reply σ ι α} {schedule : List ι}
    {before after : List (Event Op σ ι)} {e : Event Op σ ι}
    (split : pool.trace exec schedule = before ++ e :: after) :
    ∃ first rest next, schedule = first ++ e.thread :: rest ∧ before = pool.trace exec first ∧
      (pool.runSchedule exec first).threads e.thread = .call e.op next ∧
      (pool.runSchedule exec first).state = e.before := by
  induction schedule using List.reverseRecOn generalizing before after with
  | nil => simp [trace] at split
  | append_singleton schedule thread ih =>
      have earlier {after : List (Event Op σ ι)}
          (split : pool.trace exec schedule = before ++ e :: after) :
          ∃ first rest next, schedule ++ [thread] = first ++ e.thread :: rest ∧
            before = pool.trace exec first ∧
            (pool.runSchedule exec first).threads e.thread = .call e.op next ∧
            (pool.runSchedule exec first).state = e.before := by
        obtain ⟨first, rest, next, rfl, same⟩ := ih split
        exact ⟨first, rest ++ [thread], next, by simp, same⟩
      rw [trace_append, trace, trace, List.append_nil, event] at split
      cases found : (pool.runSchedule exec schedule).threads thread with
      | done value =>
          rw [found, List.append_nil] at split
          exact earlier split
      | call op next =>
          rw [found] at split
          rcases List.eq_nil_or_concat after with rfl | ⟨init, final, rfl⟩
          · obtain ⟨rfl, same⟩ := List.append_inj' split rfl
            cases same
            exact ⟨schedule, [], next, rfl, rfl, found, rfl⟩
          · rw [List.concat_eq_append, ← List.cons_append, ← List.append_assoc] at split
            exact earlier (List.append_inj' split rfl).1

theorem state_of_silent {pool : Pool Reply σ ι α} {schedule : List ι}
    (silent : pool.trace exec schedule = []) :
    (pool.runSchedule exec schedule).state = pool.state := by
  induction schedule generalizing pool with
  | nil => rfl
  | cons thread schedule ih =>
      obtain ⟨nothing, silent⟩ := List.append_eq_nil_iff.mp silent
      rw [runSchedule_cons, ih silent]
      unfold event at nothing
      unfold step
      split
      · rfl
      · rename_i found
        rw [found] at nothing
        cases nothing

/-- The states of a trace are linked: what an event leaves, the next one finds. -/
theorem before_of_split {pool : Pool Reply σ ι α} {schedule : List ι}
    {before after : List (Event Op σ ι)} {mark e : Event Op σ ι}
    (split : pool.trace exec schedule = before ++ mark :: e :: after) :
    e.before = (exec mark.op mark.before).2 := by
  rw [← List.singleton_append, ← List.append_assoc] at split
  obtain ⟨first, rest, next, rfl, upTo, _, found⟩ := trace_split split
  obtain ⟨first', rest', next', rfl, rfl, isNext, found'⟩ := trace_split upTo.symm
  rw [trace_append] at upTo
  have stretch := List.append_cancel_left upTo
  have happened : event (pool.runSchedule exec first') mark.thread = [mark] := by
    rw [event, isNext, found']
  have stepped : (pool.runSchedule exec first').step exec mark.thread =
      ⟨(exec mark.op mark.before).2, Function.update (pool.runSchedule exec first').threads
        mark.thread (next' (exec mark.op mark.before).1)⟩ := by
    rw [step, isNext, ← found']
  rw [trace, happened] at stretch
  have silent : trace exec ((pool.runSchedule exec first').step exec mark.thread) rest' = [] :=
    List.append_cancel_left (stretch.symm.trans (List.append_nil _).symm)
  rw [← found, runSchedule_append, runSchedule_cons, state_of_silent silent, stepped]

theorem state_of_split {pool : Pool Reply σ ι α} {schedule : List ι}
    {before : List (Event Op σ ι)} {mark : Event Op σ ι}
    (split : pool.trace exec schedule = before ++ [mark]) :
    (pool.runSchedule exec schedule).state = (exec mark.op mark.before).2 := by
  obtain ⟨first, rest, next, rfl, rfl, isNext, found⟩ := trace_split split
  rw [trace_append] at split
  have stretch := List.append_cancel_left split
  have happened : event (pool.runSchedule exec first) mark.thread = [mark] := by
    rw [event, isNext, found]
  have stepped : ((pool.runSchedule exec first).step exec mark.thread).state =
      (exec mark.op mark.before).2 := by
    rw [step, isNext, ← found]
  rw [trace, happened] at stretch
  have silent : trace exec ((pool.runSchedule exec first).step exec mark.thread) rest = [] :=
    List.append_cancel_left (stretch.trans (List.append_nil _).symm)
  rw [runSchedule_append, runSchedule_cons, state_of_silent silent, stepped]

/-- The rule for what holds all along a run. -/
theorem holds_always (good : List (Event Op σ ι) → σ → Prop) {pool : Pool Reply σ ι α}
    (schedule : List ι) (start : good [] pool.state)
    (keeps : ∀ before e after, pool.trace exec schedule = before ++ e :: after →
      good before e.before → good (before ++ [e]) (exec e.op e.before).2) :
    (∀ before e after, pool.trace exec schedule = before ++ e :: after → good before e.before) ∧
      good (pool.trace exec schedule) (pool.runSchedule exec schedule).state := by
  have always (before : List (Event Op σ ι)) : ∀ e after,
      pool.trace exec schedule = before ++ e :: after → good before e.before := by
    induction before using List.reverseRecOn with
    | nil =>
        intro e after split
        obtain ⟨first, _, _, _, silent, _, found⟩ := trace_split split
        rwa [← found, state_of_silent silent.symm]
    | append_singleton before d ih =>
        intro e after split
        rw [List.append_assoc, List.singleton_append] at split
        rw [before_of_split split]
        exact keeps before d _ split (ih d _ split)
  refine ⟨always, ?_⟩
  rcases List.eq_nil_or_concat (pool.trace exec schedule) with silent | ⟨before, e, isTrace⟩
  · rwa [silent, state_of_silent silent]
  · rw [List.concat_eq_append] at isTrace
    rw [state_of_split isTrace, isTrace]
    exact keeps before e [] isTrace (always before e [] isTrace)

/-- The rule for what has held ever since an event of a run. -/
theorem holds_since (good : List (Event Op σ ι) → σ → Prop) {pool : Pool Reply σ ι α}
    {schedule : List ι} {before after : List (Event Op σ ι)} {mark : Event Op σ ι}
    (split : pool.trace exec schedule = before ++ mark :: after)
    (start : good [] (exec mark.op mark.before).2)
    (keeps : ∀ mid e rest, after = mid ++ e :: rest → good mid e.before →
      good (mid ++ [e]) (exec e.op e.before).2) :
    (∀ mid e rest, after = mid ++ e :: rest → good mid e.before) ∧
      good after (pool.runSchedule exec schedule).state := by
  have always (mid : List (Event Op σ ι)) : ∀ e rest, after = mid ++ e :: rest →
      good mid e.before := by
    induction mid using List.reverseRecOn with
    | nil =>
        intro e rest isAfter
        rw [isAfter, List.nil_append] at split
        rwa [before_of_split split]
    | append_singleton mid d ih =>
        intro e rest isAfter
        rw [List.append_assoc, List.singleton_append] at isAfter
        have reached := keeps mid d _ isAfter (ih d _ isAfter)
        rw [isAfter, ← List.cons_append, ← List.append_assoc] at split
        rwa [before_of_split split]
  refine ⟨always, ?_⟩
  cases after using List.reverseRecOn with
  | nil => rwa [state_of_split split]
  | append_singleton mid e =>
      rw [← List.cons_append, ← List.append_assoc] at split
      rw [state_of_split split]
      exact keeps mid e [] rfl (always mid e [] rfl)

/-- The same for what is said of the state alone; it has held of every state
before. -/
theorem holds_inductive (good : σ → Prop) {pool : Pool Reply σ ι α} (schedule : List ι)
    (start : good pool.state)
    (keeps : ∀ before e after, pool.trace exec schedule = before ++ e :: after →
      (∀ d ∈ before, good d.before) → good e.before → good (exec e.op e.before).2) :
    (∀ e ∈ pool.trace exec schedule, good e.before) ∧
      good (pool.runSchedule exec schedule).state := by
  have always := holds_always
    (fun events state => (∀ d ∈ events, good d.before) ∧ good state) schedule
    ⟨List.forall_mem_nil _, start⟩ fun before e after split ⟨earlier, here⟩ =>
      ⟨List.forall_mem_append.mpr ⟨earlier, List.forall_mem_singleton.mpr here⟩,
        keeps before e after split earlier here⟩
  exact always.2

theorem holds_throughout (good : σ → Prop) {pool : Pool Reply σ ι α} (schedule : List ι)
    (start : good pool.state)
    (keeps : ∀ before e after, pool.trace exec schedule = before ++ e :: after →
      good e.before → good (exec e.op e.before).2) :
    (∀ e ∈ pool.trace exec schedule, good e.before) ∧
      good (pool.runSchedule exec schedule).state :=
  holds_inductive good schedule start fun before e after split _ => keeps before e after split

theorem holds_onward (good : σ → Prop) {pool : Pool Reply σ ι α} {schedule : List ι}
    {before after : List (Event Op σ ι)} {mark : Event Op σ ι}
    (split : pool.trace exec schedule = before ++ mark :: after)
    (start : good (exec mark.op mark.before).2)
    (keeps : ∀ past e rest, pool.trace exec schedule = past ++ e :: rest →
      good e.before → good (exec e.op e.before).2) :
    (∀ e ∈ after, good e.before) ∧ good (pool.runSchedule exec schedule).state := by
  have since := holds_since (fun _ => good) split start fun mid e rest isAfter reached =>
    keeps (before ++ mark :: mid) e rest
      (by rw [split, isAfter, List.append_assoc, List.cons_append]) reached
  refine ⟨fun e member => ?_, since.2⟩
  obtain ⟨mid, rest, isAfter⟩ := List.append_of_mem member
  exact since.1 mid e rest isAfter

/-- The thread rule: what every program promises holds at each event of every
schedule, with the history the thread had collected by then. -/
theorem allowed_of_event {allowed : ι → Program.History Reply → Op → Prop}
    {post : ι → Program.History Reply → α → Prop} {pool : Pool Reply σ ι α}
    (obeys : ∀ i, Program.Obeys (allowed i) (post i) [] (pool.threads i)) {schedule : List ι}
    {before after : List (Event Op σ ι)} {e : Event Op σ ι}
    (split : pool.trace exec schedule = before ++ e :: after) :
    allowed e.thread (historyOf exec before e.thread) e.op := by
  obtain ⟨first, rest, next, rfl, rfl, found, _⟩ := trace_split split
  have reached := obeys_runSchedule exec obeys first e.thread
  rw [found] at reached
  exact reached.1

/-- What a thread was told, some event before told it. -/
theorem event_of_told {before : List (Event Op σ ι)} {thread : ι} {op : Op} {reply : Reply op}
    (told : Program.Told (historyOf exec before thread) op reply) :
    ∃ found, ⟨thread, op, found⟩ ∈ before ∧ reply = (exec op found).1 := by
  obtain ⟨⟨_, _, found⟩, member, same⟩ := List.mem_map.mp told
  obtain ⟨inside, rfl⟩ := by simpa using List.mem_filter.mp member
  cases same
  exact ⟨found, inside, rfl⟩

theorem told_of_event {events : List (Event Op σ ι)} {e : Event Op σ ι} (member : e ∈ events) :
    ⟨e.op, (exec e.op e.before).1⟩ ∈ historyOf exec events e.thread := by
  have own : e ∈ events.filter (·.thread = e.thread) := by simpa using member
  exact List.mem_map_of_mem own

/-- The last thing a thread was told, its last event told it. -/
theorem event_of_last {events : List (Event Op σ ι)} {thread : ι} {entry : Sigma Reply}
    (last : (historyOf exec events thread).getLast? = some entry) :
    ∃ past e between, events = past ++ e :: between ∧ e.thread = thread ∧
      ⟨e.op, (exec e.op e.before).1⟩ = entry ∧ ∀ d ∈ between, d.thread ≠ thread := by
  induction events using List.reverseRecOn with
  | nil => cases last
  | append_singleton events e ih =>
      rw [historyOf_append] at last
      by_cases own : e.thread = thread
      · have here : historyOf exec [e] thread = [⟨e.op, (exec e.op e.before).1⟩] := by
          simp [historyOf, own]
        rw [here, List.getLast?_concat, Option.some_inj] at last
        exact ⟨events, e, [], rfl, own, last, List.forall_mem_nil _⟩
      · have other : historyOf exec [e] thread = [] := by simp [historyOf, own]
        rw [other, List.append_nil] at last
        obtain ⟨past, found, between, rfl, isThread, isEntry, silent⟩ := ih last
        refine ⟨past, found, between ++ [e], List.append_assoc .., isThread, isEntry, ?_⟩
        exact List.forall_mem_append.mpr ⟨silent, List.forall_mem_singleton.mpr own⟩

section Decided
variable {allowed : ι → Op → Prop} {decides : Sigma Reply → Prop} {verdict : α → Prop}
  {pool : Pool Reply σ ι α}

/-- A thread has ended with a verdict if and only if one of its events decided it. -/
theorem verdict_iff
    (decided : ∀ i, Program.Decided (allowed i) decides verdict [] (pool.threads i))
    (schedule : List ι) (i : ι) :
    (∃ value, (pool.runSchedule exec schedule).threads i = .done value ∧ verdict value) ↔
      ∃ e ∈ pool.trace exec schedule, e.thread = i ∧
        decides ⟨e.op, (exec e.op e.before).1⟩ := by
  have events : (∃ entry ∈ historyOf exec (pool.trace exec schedule) i, decides entry) ↔
      ∃ e ∈ pool.trace exec schedule, e.thread = i ∧
        decides ⟨e.op, (exec e.op e.before).1⟩ := by
    constructor
    · rintro ⟨⟨op, reply⟩, told, isDecided⟩
      obtain ⟨found, member, rfl⟩ := event_of_told told
      exact ⟨_, member, rfl, isDecided⟩
    · rintro ⟨e, member, rfl, isDecided⟩
      exact ⟨_, told_of_event member, isDecided⟩
  have reached := obeys_runSchedule exec decided schedule i
  rw [List.nil_append] at reached
  rw [← events]
  cases ended : (pool.runSchedule exec schedule).threads i with
  | done value =>
      rw [ended] at reached
      constructor
      · rintro ⟨_, ⟨⟩, isVerdict⟩
        exact reached.mp isVerdict
      · intro entry
        exact ⟨value, rfl, reached.mpr entry⟩
  | call op next =>
      rw [ended] at reached
      constructor
      · rintro ⟨_, ⟨⟩, _⟩
      · rintro ⟨entry, told, isDecided⟩
        exact absurd isDecided (reached.1.1 entry told)

theorem decides_once
    (decided : ∀ i, Program.Decided (allowed i) decides verdict [] (pool.threads i))
    {schedule : List ι} {first second : Event Op σ ι}
    (firstIn : first ∈ pool.trace exec schedule) (secondIn : second ∈ pool.trace exec schedule)
    (sameThread : first.thread = second.thread)
    (firstDecides : decides ⟨first.op, (exec first.op first.before).1⟩)
    (secondDecides : decides ⟨second.op, (exec second.op second.before).1⟩) :
    first = second := by
  obtain ⟨before, after, split⟩ := List.append_of_mem secondIn
  have settled {earlier : Event Op σ ι} {before after : List (Event Op σ ι)}
      {later : Event Op σ ι} (split : pool.trace exec schedule = before ++ later :: after)
      (member : earlier ∈ before) (sameThread : earlier.thread = later.thread) :
      ¬decides ⟨earlier.op, (exec earlier.op earlier.before).1⟩ := by
    refine (allowed_of_event decided split).1 _ ?_
    rw [← sameThread]
    exact told_of_event member
  rw [split] at firstIn
  rcases List.mem_append.mp firstIn with earlier | here
  · exact absurd firstDecides (settled split earlier sameThread)
  rcases List.mem_cons.mp here with same | later
  · exact same
  · obtain ⟨middle, rest, rfl⟩ := List.append_of_mem later
    rw [← List.cons_append, ← List.append_assoc] at split
    refine absurd secondDecides (settled split ?_ sameThread.symm)
    exact List.mem_append_right _ (.head _)

end Decided

/-- An invariant that every safe operation keeps is kept by a run of them. -/
theorem runSchedule_invariant {safe : σ → Op → Prop} {inv : σ → Prop}
    (keeps : ∀ op state, inv state → safe state op → inv (exec op state).2)
    {pool : Pool Reply σ ι α} (start : inv pool.state) (schedule : List ι)
    (safely : ∀ e ∈ pool.trace exec schedule, safe e.before e.op) :
    inv (pool.runSchedule exec schedule).state := by
  induction schedule generalizing pool with
  | nil => exact start
  | cons thread schedule ih =>
      refine ih ?_ fun e member => safely e (List.mem_append_right _ member)
      have here : ∀ e ∈ pool.event thread, safe e.before e.op :=
        fun e member => safely e (List.mem_append_left _ member)
      unfold event at here
      unfold step
      split
      · exact start
      · rename_i op next found
        rw [found] at here
        exact keeps op pool.state start (here _ (List.mem_singleton_self _))

theorem invariant_at {inv : σ → Prop} (keeps : ∀ op state, inv state → inv (exec op state).2)
    {pool : Pool Reply σ ι α} (start : inv pool.state) {schedule : List ι}
    {e : Event Op σ ι} (member : e ∈ pool.trace exec schedule) : inv e.before := by
  obtain ⟨before, after, split⟩ := List.append_of_mem member
  obtain ⟨first, rest, next, rfl, _, _, found⟩ := trace_split split
  have always (op : Op) (state : σ) (holds : inv state) (_ : True) : inv (exec op state).2 :=
    keeps op state holds
  rw [← found]
  exact runSchedule_invariant always start first fun _ _ => trivial

/-- The same between two events of a run: what held when the first one happened
holds when the second does, if all between is safe. -/
theorem invariant_between {safe : σ → Op → Prop} {inv : σ → Prop}
    (keeps : ∀ op state, inv state → safe state op → inv (exec op state).2)
    {pool : Pool Reply σ ι α} {schedule : List ι} {before middle after : List (Event Op σ ι)}
    {earlier e : Event Op σ ι}
    (split : pool.trace exec schedule = (before ++ earlier :: middle) ++ e :: after)
    (start : inv earlier.before)
    (safely : ∀ between ∈ earlier :: middle, safe between.before between.op) : inv e.before := by
  obtain ⟨first, rest, next, rfl, upTo, _, found⟩ := trace_split split
  obtain ⟨first', rest', next', rfl, upTo', _, found'⟩ := trace_split upTo.symm
  rw [trace_append, upTo'] at upTo
  have stretch := List.append_cancel_left upTo
  rw [← found, runSchedule_append]
  rw [← found'] at start
  exact runSchedule_invariant keeps start _ fun between member => safely between (stretch ▸ member)

/-- The invariant rule, for what is said of the state and of the run up to it:
kept by what the threads may do, wherever `safe` holds, it is kept by every run
that is safe throughout. -/
theorem traced_runSchedule {allowed : ι → Program.History Reply → Op → Prop}
    {post : ι → Program.History Reply → α → Prop}
    {safe : List (Event Op σ ι) → Event Op σ ι → Prop}
    {inv : σ → List (Event Op σ ι) → Prop} {pool : Pool Reply σ ι α} (start : inv pool.state [])
    (obeys : ∀ i, Program.Obeys (allowed i) (post i) [] (pool.threads i))
    (keeps : ∀ trace e, allowed e.thread (historyOf exec trace e.thread) e.op →
      inv e.before trace → safe trace e → inv (exec e.op e.before).2 (trace ++ [e]))
    (schedule : List ι) (safely : ∀ before e after,
      pool.trace exec schedule = before ++ e :: after → safe before e) :
    inv (pool.runSchedule exec schedule).state (pool.trace exec schedule) := by
  induction schedule using List.reverseRecOn with
  | nil => exact start
  | append_singleton schedule thread ih =>
      rw [trace_append] at safely ⊢
      have reached := ih fun before e after split =>
        safely before e (after ++ _) (by rw [split, List.append_assoc, List.cons_append])
      have last := obeys_runSchedule exec obeys schedule thread
      rw [List.nil_append] at last
      rw [runSchedule_append]
      generalize pool.runSchedule exec schedule = current at reached safely last ⊢
      simp only [runSchedule_cons, runSchedule_nil, step, trace, List.append_nil, event] at safely ⊢
      cases found : current.threads thread with
      | done value => simpa using reached
      | call op next =>
          rw [found] at last safely
          exact keeps _ ⟨thread, op, current.state⟩ last.1 reached (safely _ _ [] rfl)

/-- The same for what is said of the state alone. -/
theorem invariant_runSchedule {allowed : ι → Program.History Reply → Op → Prop}
    {post : ι → Program.History Reply → α → Prop} {safe : σ → Op → Prop} {inv : σ → Prop}
    {pool : Pool Reply σ ι α} (start : inv pool.state)
    (obeys : ∀ i, Program.Obeys (allowed i) (post i) [] (pool.threads i))
    (keeps : ∀ i history op state, allowed i history op → inv state → safe state op →
      inv (exec op state).2)
    (schedule : List ι) (safely : ∀ e ∈ pool.trace exec schedule, safe e.before e.op) :
    inv (pool.runSchedule exec schedule).state := by
  let holds (state : σ) (_ : List (Event Op σ ι)) : Prop := inv state
  have kept (trace : List (Event Op σ ι)) (e : Event Op σ ι)
      (permitted : allowed e.thread (historyOf exec trace e.thread) e.op)
      (reached : holds e.before trace) (isSafe : safe e.before e.op) :
      holds (exec e.op e.before).2 (trace ++ [e]) :=
    keeps e.thread _ e.op e.before permitted reached isSafe
  have start : holds pool.state [] := start
  exact traced_runSchedule start obeys kept schedule fun before e after split =>
    safely e (split ▸ List.mem_append_right _ (.head _))

end Events

end Pool
end Library

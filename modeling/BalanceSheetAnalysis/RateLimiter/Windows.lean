import BalanceSheetAnalysis.RateLimiter.Service

/-! Whether every counter can start again.  A counter without an expiry stays
for good, so somebody has to owe it one. -/
namespace BalanceSheetAnalysis.RateLimiter
open Library

section Windows
variable {ι : Type}

/-- Any number of clients of an empty Redis. -/
def clientPool (limits : Limits) (fates : Nat → Fate) (clients : ι → Client) :
    Pool Reply Redis ι (Except Interrupt Outcome) where
  state := ⟨fun _ => none, fates, 0⟩
  threads i := (clients i).run limits

/-- The INCR that starts a counter. -/
def Creates (e : Event Command Redis ι) (key : String) : Prop :=
  e.op = .incr key ∧ e.before.counters key = none ∧ e.before.fate.takesEffect = true

/-- The counter a key has now was created by the client. -/
def CreatedBy (trace : List (Event Command Redis ι)) (key : String) (i : ι) : Prop :=
  ∃ before e after, trace = before ++ e :: after ∧ e.thread = i ∧ Creates e key ∧
    ∀ later ∈ after, ¬Creates later key

/-- The request is in flight, and its EXPIRE is still to come. -/
def AwaitsExpire {α : Type} (program : Program Reply α) (key : String) : Prop :=
  ∃ seconds next, program = .call (.expire key seconds) next

/-- Every counter has an expiry, or the request that created it is about to give
it one; so all have one once no request is in flight. -/
structure CanReset (pool : Pool Reply Redis ι (Except Interrupt Outcome))
    (trace : List (Event Command Redis ι)) : Prop where
  covered : ∀ key counter, pool.state.counters key = some counter → counter.expires = false →
    ∃ i, CreatedBy trace key i ∧ AwaitsExpire (pool.threads i) key
  idle : (∀ i, ∃ value, pool.threads i = .done value) →
    ∀ key counter, pool.state.counters key = some counter → counter.expires = true

/-- An INCR that creates a counter is answered, and an EXPIRE takes effect. -/
def Completes (e : Event Command Redis ι) : Prop :=
  match e.op with
  | .incr key => e.before.counters key = none → e.before.fate.takesEffect = true →
      e.before.fate = .delivered
  | .expire _ _ => e.before.fate.takesEffect = true
  | .elapse _ => True

theorem clientPool_paced (limits : Limits) (fates : Nat → Fate) (clients : ι → Client) (i : ι) :
    Program.Obeys Paces (fun told _ => Settled told) []
      ((clientPool limits fates clients).threads i) :=
  (clients i).run_paced limits

theorem createdBy_unique {trace : List (Event Command Redis ι)} {key : String} {i j : ι}
    (first : CreatedBy trace key i) (second : CreatedBy trace key j) : i = j := by
  obtain ⟨before, e, after, split, rfl, creates, last⟩ := first
  obtain ⟨before', e', after', split', rfl, creates', last'⟩ := second
  rw [split] at split'
  rcases List.append_eq_append_iff.mp split' with ⟨middle, rfl, rest⟩ | ⟨middle, rfl, rest⟩
  · cases middle with
    | nil =>
        cases rest
        rfl
    | cons head middle =>
        cases rest
        exact absurd creates' (last e' (List.mem_append_right _ (.head _)))
  · cases middle with
    | nil =>
        cases rest
        rfl
    | cons head middle =>
        cases rest
        exact absurd creates (last' e (List.mem_append_right _ (.head _)))

theorem CreatedBy.append {trace : List (Event Command Redis ι)} {key : String} {i : ι}
    (created : CreatedBy trace key i) {e : Event Command Redis ι} (other : ¬Creates e key) :
    CreatedBy (trace ++ [e]) key i := by
  obtain ⟨before, creation, after, rfl, isThread, creates, last⟩ := created
  refine ⟨before, creation, after ++ [e], by simp, isThread, creates, fun later member => ?_⟩
  rcases List.mem_append.mp member with old | new
  · exact last later old
  · rw [List.mem_singleton] at new
    exact new ▸ other

/-! One command. -/

/-- A client told the value 1 has just created the counter. -/
theorem owes_incr_iff {e : Event Command Redis ι} {key : String}
    (positive : ∀ counter, e.before.counters key = some counter → counter.count ≠ 0) :
    (⟨e.op, (Redis.exec e.op e.before).1⟩ : Sigma Reply) = ⟨.incr key, .ok 1⟩ ↔
      e.op = .incr key ∧ e.before.counters key = none ∧ e.before.fate = .delivered := by
  obtain ⟨thread, op, redis⟩ := e
  cases op with
  | incr key' =>
      simp only [Sigma.mk.injEq, Command.incr.injEq]
      constructor
      · rintro ⟨rfl, same⟩
        obtain ⟨delivered, isOne⟩ := Fate.answer_eq_ok.mp (eq_of_heq same)
        refine ⟨rfl, ?_, delivered⟩
        cases found : redis.counters key' with
        | none => rfl
        | some counter =>
            rw [found] at isOne
            exact absurd (Nat.succ.inj isOne) (positive counter found)
      · rintro ⟨rfl, absent, delivered⟩
        refine ⟨rfl, heq_of_eq (Fate.answer_eq_ok.mpr ⟨delivered, ?_⟩)⟩
        rw [absent]
        rfl
  | expire key' seconds => simp
  | elapse key' => simp

variable [DecidableEq ι]

/-- What the client owes after one more event. -/
theorem owes_event {trace : List (Event Command Redis ι)} {e : Event Command Redis ι} {i : ι}
    {key : String} :
    Owes (Pool.historyOf Redis.exec (trace ++ [e]) i) key ↔
      if e.thread = i then
        (⟨e.op, (Redis.exec e.op e.before).1⟩ : Sigma Reply) = ⟨.incr key, .ok 1⟩
      else Owes (Pool.historyOf Redis.exec trace i) key := by
  rw [Pool.historyOf_append]
  split
  · rename_i same
    have last : Pool.historyOf Redis.exec [e] i = [⟨e.op, (Redis.exec e.op e.before).1⟩] := by
      simp [Pool.historyOf, same]
    rw [last, owes_append]
  · rename_i other
    simp [Pool.historyOf, other]

/-- Counts are positive, and who owes an expiry created the counter, which has
none yet. -/
structure Accounted (redis : Redis) (trace : List (Event Command Redis ι)) : Prop where
  positive : ∀ key counter, redis.counters key = some counter → counter.count ≠ 0
  owed : ∀ i key, Owes (Pool.historyOf Redis.exec trace i) key → CreatedBy trace key i ∧
    ∃ counter, redis.counters key = some counter ∧ counter.expires = false

/-- Somebody owes each counter without an expiry one. -/
def Covered (redis : Redis) (trace : List (Event Command Redis ι)) : Prop :=
  ∀ key counter, redis.counters key = some counter → counter.expires = false →
    ∃ i, Owes (Pool.historyOf Redis.exec trace i) key

theorem Accounted.exec {e : Event Command Redis ι} {trace : List (Event Command Redis ι)}
    (paces : Paces (Pool.historyOf Redis.exec trace e.thread) e.op)
    (accounted : Accounted e.before trace) :
    Accounted (Redis.exec e.op e.before).2 (trace ++ [e]) := by
  constructor
  · intro key counter found
    rcases Redis.counter_of_exec found with ⟨same, _⟩ | ⟨_, _, rfl⟩ | ⟨seconds, old, isOld, left⟩
    · exact accounted.positive key counter same
    · exact Redis.incremented_count _
    · rw [(Redis.expiring_some left).2]
      exact accounted.positive key old isOld
  · intro i key owes
    rw [owes_event] at owes
    split at owes
    · rename_i isThread
      obtain ⟨isIncr, absent, delivered⟩ := (owes_incr_iff (accounted.positive key)).mp owes
      have effect : e.before.fate.takesEffect = true := by rw [delivered]; rfl
      refine ⟨⟨trace, e, [], rfl, isThread, ⟨isIncr, absent, effect⟩, ?_⟩, ⟨1, false⟩, ?_, rfl⟩
      · exact List.forall_mem_nil _
      rw [isIncr, Redis.exec_incr, if_pos ⟨effect, rfl⟩, absent]
      rfl
    · rename_i other
      obtain ⟨created, counter, found, unexpiring⟩ := accounted.owed i key owes
      have notCreated : ¬Creates e key := by
        intro creates
        rw [creates.2.1] at found
        cases found
      refine ⟨created.append notCreated, Redis.unexpiring_exec found unexpiring ?_⟩
      -- Another thread's turn to issue EXPIRE would make it the creator too.
      intro seconds isExpire
      have own := accounted.owed e.thread key ((paces key).mpr ⟨seconds, isExpire⟩)
      exact other (createdBy_unique own.1 created)

theorem Covered.exec {e : Event Command Redis ι} {trace : List (Event Command Redis ι)}
    (paces : Paces (Pool.historyOf Redis.exec trace e.thread) e.op)
    (covered : Covered e.before trace) (completes : Completes e) :
    Covered (Redis.exec e.op e.before).2 (trace ++ [e]) := by
  intro key counter found unexpiring
  -- Whoever owed the expiry of this key before still does, unless it is EXPIRE's turn.
  have still {counter : Counter} (found : e.before.counters key = some counter)
      (unexpiring : counter.expires = false) (notNow : ∀ seconds, e.op ≠ .expire key seconds) :
      ∃ i, Owes (Pool.historyOf Redis.exec (trace ++ [e]) i) key := by
    obtain ⟨i, owes⟩ := covered key counter found unexpiring
    refine ⟨i, owes_event.mpr ?_⟩
    rw [if_neg]
    · exact owes
    · rintro rfl
      obtain ⟨seconds, now⟩ := (paces key).mp owes
      exact notNow seconds now
  rcases Redis.counter_of_exec found with ⟨same, without⟩ | ⟨isIncr, effect, rfl⟩ | ⟨_, _, _, left⟩
  · refine still same unexpiring fun seconds now => ?_
    rw [Completes, now, without seconds now] at completes
    cases completes
  · cases before : e.before.counters key with
    | some old =>
        rw [before] at unexpiring
        refine still before unexpiring fun seconds now => ?_
        rw [isIncr] at now
        cases now
    | none =>
        rw [Completes, isIncr] at completes
        refine ⟨e.thread, owes_event.mpr ?_⟩
        rw [if_pos rfl]
        apply (owes_incr_iff _).mpr ⟨isIncr, before, completes before effect⟩
        rw [before]
        exact nofun
  · rw [(Redis.expiring_some left).1] at unexpiring
    cases unexpiring

/-! Whole runs. -/

variable (limits : Limits) (fates : Nat → Fate) (clients : ι → Client)

theorem awaitsExpire_iff (schedule : List ι) (i : ι) (key : String) :
    AwaitsExpire (((clientPool limits fates clients).runSchedule Redis.exec schedule).threads i)
        key ↔
      Owes (Pool.historyOf Redis.exec
        ((clientPool limits fates clients).trace Redis.exec schedule) i) key := by
  have reached :=
    Pool.obeys_runSchedule Redis.exec (clientPool_paced limits fates clients) schedule i
  rw [List.nil_append] at reached
  cases found : ((clientPool limits fates clients).runSchedule Redis.exec schedule).threads i with
  | done value =>
      rw [found] at reached
      refine iff_of_false ?_ (reached key)
      rintro ⟨_, _, ⟨⟩⟩
  | call op next =>
      rw [found] at reached
      rw [reached.1 key]
      constructor
      · rintro ⟨seconds, _, ⟨⟩⟩
        exact ⟨seconds, rfl⟩
      · rintro ⟨seconds, rfl⟩
        exact ⟨seconds, next, rfl⟩

theorem accounted (schedule : List ι) :
    Accounted ((clientPool limits fates clients).runSchedule Redis.exec schedule).state
      ((clientPool limits fates clients).trace Redis.exec schedule) := by
  have start : Accounted (clientPool limits fates clients).state
      ([] : List (Event Command Redis ι)) := ⟨nofun, nofun⟩
  have keeps (trace : List (Event Command Redis ι)) (e : Event Command Redis ι)
      (paces : Paces (Pool.historyOf Redis.exec trace e.thread) e.op)
      (accounted : Accounted e.before trace) (_ : True) := accounted.exec paces
  exact Pool.traced_runSchedule start (clientPool_paced limits fates clients) keeps schedule
    fun _ _ _ _ => trivial

theorem covered {schedule : List ι}
    (completes : ∀ e ∈ (clientPool limits fates clients).trace Redis.exec schedule, Completes e) :
    Covered ((clientPool limits fates clients).runSchedule Redis.exec schedule).state
      ((clientPool limits fates clients).trace Redis.exec schedule) := by
  have start : Covered (clientPool limits fates clients).state
      ([] : List (Event Command Redis ι)) := nofun
  have keeps (trace : List (Event Command Redis ι)) (e : Event Command Redis ι)
      (paces : Paces (Pool.historyOf Redis.exec trace e.thread) e.op)
      (covered : Covered e.before trace) (completes : Completes e) := covered.exec paces completes
  exact Pool.traced_runSchedule start (clientPool_paced limits fates clients) keeps schedule
    fun before e after split => completes e (split ▸ List.mem_append_right _ (.head _))

/-- Somebody owing each counter its expiry is what lets every counter reset. -/
theorem canReset_iff (schedule : List ι) :
    CanReset ((clientPool limits fates clients).runSchedule Redis.exec schedule)
        ((clientPool limits fates clients).trace Redis.exec schedule) ↔
      Covered ((clientPool limits fates clients).runSchedule Redis.exec schedule).state
        ((clientPool limits fates clients).trace Redis.exec schedule) := by
  constructor
  · intro canReset key counter found unexpiring
    obtain ⟨i, _, awaits⟩ := canReset.covered key counter found unexpiring
    exact ⟨i, (awaitsExpire_iff limits fates clients schedule i key).mp awaits⟩
  · intro covered
    have awaited (key : String) (counter : Counter) (found :
        ((clientPool limits fates clients).runSchedule Redis.exec schedule).state.counters key =
          some counter) (unexpiring : counter.expires = false) :=
      covered key counter found unexpiring
    constructor
    · intro key counter found unexpiring
      obtain ⟨i, owes⟩ := awaited key counter found unexpiring
      exact ⟨i, ((accounted limits fates clients schedule).owed i key owes).1,
        (awaitsExpire_iff limits fates clients schedule i key).mpr owes⟩
    · intro idle key counter found
      by_contra unexpiring
      obtain ⟨i, owes⟩ := awaited key counter found (Bool.eq_false_iff.mpr unexpiring)
      obtain ⟨_, _, awaits⟩ := (awaitsExpire_iff limits fates clients schedule i key).mpr owes
      obtain ⟨value, ended⟩ := idle i
      rw [ended] at awaits
      cases awaits

/-- A command that does not complete leaves a counter nobody owes an expiry. -/
theorem not_covered {e : Event Command Redis ι} {trace : List (Event Command Redis ι)}
    (paces : Paces (Pool.historyOf Redis.exec trace e.thread) e.op)
    (accounted : Accounted e.before trace) (fails : ¬Completes e) :
    ¬Covered (Redis.exec e.op e.before).2 (trace ++ [e]) := by
  intro covered
  have positive := accounted.positive
  cases isOp : e.op with
  | incr key =>
      rw [Completes, isOp] at fails
      push Not at fails
      obtain ⟨absent, effect, undelivered⟩ := fails
      have created : (Redis.exec e.op e.before).2.counters key = some ⟨1, false⟩ := by
        rw [isOp, Redis.exec_incr, if_pos ⟨effect, rfl⟩, absent]
        rfl
      obtain ⟨i, owes⟩ := covered key _ created rfl
      rw [owes_event] at owes
      split at owes
      · exact undelivered ((owes_incr_iff (positive key)).mp owes).2.2
      · obtain ⟨_, counter, found, _⟩ := accounted.owed i key owes
        rw [absent] at found
        cases found
  | expire key seconds =>
      rw [Completes, isOp] at fails
      obtain ⟨created, counter, found, unexpiring⟩ :=
        accounted.owed e.thread key ((paces key).mpr ⟨seconds, isOp⟩)
      have kept : (Redis.exec e.op e.before).2.counters key = some counter := by
        rw [isOp, Redis.exec_expire, if_neg fun here => fails here.1]
        exact found
      obtain ⟨i, owes⟩ := covered key counter kept unexpiring
      rw [owes_event] at owes
      split at owes
      · obtain ⟨isIncr, _⟩ := (owes_incr_iff (positive key)).mp owes
        rw [isOp] at isIncr
        cases isIncr
      · rename_i other
        exact other (createdBy_unique created (accounted.owed i key owes).1)
  | elapse key =>
      rw [Completes, isOp] at fails
      exact fails trivial

/-- In every state a run passes through each counter can reset, if and only if
each INCR that creates one is answered and each EXPIRE takes effect. -/
theorem counters_canReset_iff (schedule : List ι) :
    (∀ first, first <+: schedule →
        CanReset ((clientPool limits fates clients).runSchedule Redis.exec first)
          ((clientPool limits fates clients).trace Redis.exec first)) ↔
      ∀ e ∈ (clientPool limits fates clients).trace Redis.exec schedule, Completes e := by
  constructor
  · intro always e member
    obtain ⟨before, after, split⟩ := List.append_of_mem member
    have paces := Pool.allowed_of_event (clientPool_paced limits fates clients) split
    obtain ⟨first, rest, next, isSchedule, isBefore, isNext, isState⟩ := Pool.trace_split split
    have known := accounted limits fates clients first
    rw [isState, ← isBefore] at known
    by_contra fails
    apply not_covered paces known fails
    have reached := (canReset_iff limits fates clients (first ++ [e.thread])).mp
      (always _ ⟨rest, by simp [isSchedule]⟩)
    rw [Pool.trace_append, Pool.runSchedule_append] at reached
    simpa [Pool.trace, Pool.step, Pool.event, isNext, isState, ← isBefore] using reached
  · rintro completes first ⟨rest, rfl⟩
    apply (canReset_iff limits fates clients first).mpr
    apply covered
    intro e member
    apply completes
    rw [Pool.trace_append]
    exact List.mem_append_left _ member

end Windows

/-- One chat request. -/
def oneChat (_ : Unit) : Client :=
  .request .llmChat (some "203.0.113.7") (some "viewer@example.com")

/-- Redis creates the counter and its answer is lost. -/
def answerLost (issued : Nat) : Fate := if issued = 0 then .fails true else .delivered

/-- The counter is left without an expiry, and the request is over. -/
theorem oneChat_answerLost :
    let limits : Limits := ⟨100, 60⟩
    let run := (clientPool limits answerLost oneChat).runSchedule Redis.exec [()]
    run.state.counters "llm_chat:ip:203.0.113.7" = some ⟨1, false⟩ ∧
      run.threads () = .done (.ok (.jsonResponse 429 "Too many llm_chat attempts")) ∧
      ¬CanReset run ((clientPool limits answerLost oneChat).trace Redis.exec [()]) := by
  intro limits run
  have stuck : run.state.counters "llm_chat:ip:203.0.113.7" = some ⟨1, false⟩ := rfl
  refine ⟨stuck, rfl, fun canReset => ?_⟩
  have expires := canReset.idle (fun _ => ⟨_, rfl⟩) _ _ stuck
  cases expires

end BalanceSheetAnalysis.RateLimiter

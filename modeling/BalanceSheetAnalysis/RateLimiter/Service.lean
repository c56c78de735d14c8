import BalanceSheetAnalysis.Library.Raising

/-! The rate limiter of the endpoints that cost money.  A counter is created by
one command and given its expiry by the next; either may fail, or its request be
cancelled, before or after the command takes effect. -/
namespace BalanceSheetAnalysis.RateLimiter
open Library

/-- A counter, and whether it has an expiry. -/
structure Counter where
  count : Nat
  expires : Bool
  deriving DecidableEq

/-- `MAX_REQUESTS_PER_WINDOW` and `REQUEST_WINDOW_SECONDS`. -/
structure Limits where
  maxRequestsPerWindow : Int
  requestWindowSeconds : Int

/-- What is raised at a command: an exception the client raises, or the
cancellation of the request, which `except Exception` lets through. -/
inductive Interrupt where
  | exception
  | cancelledError
  deriving DecidableEq

/-- What becomes of a command. -/
inductive Fate where
  | delivered
  | fails (takesEffect : Bool)
  | cancelled (takesEffect : Bool)
  deriving DecidableEq

def Fate.takesEffect : Fate → Bool
  | .delivered => true
  | .fails takesEffect | .cancelled takesEffect => takesEffect

def Fate.answer {α : Type} (fate : Fate) (value : α) : Except Interrupt α :=
  match fate with
  | .delivered => .ok value
  | .fails _ => .error .exception
  | .cancelled _ => .error .cancelledError

@[simp] theorem Fate.answer_eq_ok {α : Type} {fate : Fate} {value given : α} :
    fate.answer value = .ok given ↔ fate = .delivered ∧ value = given := by
  cases fate <;> simp [answer]

/-- `elapse` is Redis removing a key whose expiry has come. -/
inductive Command where
  | incr (key : String)
  | expire (key : String) (seconds : Int)
  | elapse (key : String)

@[reducible] def Reply : Command → Type
  | .incr _ => Except Interrupt Nat
  | .expire _ _ => Except Interrupt Unit
  | .elapse _ => Unit

/-- The counters, and what is to become of the commands, in the order they are
issued. -/
structure Redis where
  counters : String → Option Counter
  fates : Nat → Fate
  issued : Nat

namespace Redis

def fate (redis : Redis) : Fate := redis.fates redis.issued

/-- The next command changes a key, if it takes effect. -/
def put (redis : Redis) (key : String) (counter : Option Counter) : Redis :=
  { redis with
    counters :=
      if redis.fate.takesEffect then Function.update redis.counters key counter
      else redis.counters
    issued := redis.issued + 1 }

@[simp] theorem put_counters (redis : Redis) (key key' : String) (counter : Option Counter) :
    (redis.put key counter).counters key' =
      if redis.fate.takesEffect = true ∧ key' = key then counter else redis.counters key' := by
  unfold put
  by_cases effect : redis.fate.takesEffect = true <;> simp [effect, Function.update_apply]

/-- INCR starts a missing counter at 0 and leaves the expiry of the key alone. -/
def incremented : Option Counter → Counter
  | none => ⟨1, false⟩
  | some counter => { counter with count := counter.count + 1 }

/-- EXPIRE deletes the key at once unless the time is positive. -/
def expiring (seconds : Int) (counter : Counter) : Option Counter :=
  if seconds ≤ 0 then none else some { counter with expires := true }

def exec : (op : Command) → Redis → Reply op × Redis
  | .incr key, redis =>
      let counter := incremented (redis.counters key)
      (redis.fate.answer counter.count, redis.put key (some counter))
  | .expire key seconds, redis =>
      (redis.fate.answer (), redis.put key ((redis.counters key).bind (expiring seconds)))
  | .elapse key, redis =>
      ((), { redis with
        counters := Function.update redis.counters key
          ((redis.counters key).filter fun counter => !counter.expires) })

@[simp] theorem exec_incr (key key' : String) (redis : Redis) :
    (exec (.incr key) redis).2.counters key' =
      if redis.fate.takesEffect = true ∧ key' = key then some (incremented (redis.counters key))
      else redis.counters key' :=
  put_counters ..

@[simp] theorem exec_expire (key key' : String) (seconds : Int) (redis : Redis) :
    (exec (.expire key seconds) redis).2.counters key' =
      if redis.fate.takesEffect = true ∧ key' = key then
        (redis.counters key).bind (expiring seconds)
      else redis.counters key' :=
  put_counters ..

@[simp] theorem exec_elapse (key key' : String) (redis : Redis) :
    (exec (.elapse key) redis).2.counters key' =
      if key' = key then (redis.counters key).filter fun counter => !counter.expires
      else redis.counters key' :=
  Function.update_apply ..

theorem incremented_count (counter : Option Counter) : (incremented counter).count ≠ 0 := by
  cases counter with
  | none => exact Nat.one_ne_zero
  | some counter => exact Nat.succ_ne_zero _

/-- What is left by EXPIRE has an expiry. -/
theorem expiring_some {seconds : Int} {counter later : Counter}
    (left : expiring seconds counter = some later) :
    later.expires = true ∧ later.count = counter.count := by
  unfold expiring at left
  split at left
  · cases left
  · cases left
    exact ⟨rfl, rfl⟩

/-- Where a counter found after a command comes from. -/
theorem counter_of_exec {op : Command} {redis : Redis} {key : String} {counter : Counter}
    (found : (exec op redis).2.counters key = some counter) :
    (redis.counters key = some counter ∧
      ∀ seconds, op = .expire key seconds → redis.fate.takesEffect = false) ∨
    (op = .incr key ∧ redis.fate.takesEffect = true ∧
      counter = incremented (redis.counters key)) ∨
    ∃ seconds old, redis.counters key = some old ∧ expiring seconds old = some counter := by
  cases op with
  | incr key' =>
      rw [exec_incr] at found
      split at found
      · rename_i here
        cases found
        exact .inr (.inl ⟨here.2 ▸ rfl, here.1, here.2 ▸ rfl⟩)
      · exact .inl ⟨found, fun _ => nofun⟩
  | expire key' seconds =>
      rw [exec_expire] at found
      split at found
      · rename_i here
        obtain ⟨old, isOld, left⟩ := Option.bind_eq_some_iff.mp found
        exact .inr (.inr ⟨seconds, old, here.2 ▸ isOld, left⟩)
      · rename_i elsewhere
        refine .inl ⟨found, fun seconds' isExpire => ?_⟩
        cases isExpire
        simpa using elsewhere
  | elapse key' =>
      rw [exec_elapse] at found
      split at found
      · rename_i here
        exact .inl ⟨here ▸ (Option.filter_eq_some_iff.mp found).1, fun _ => nofun⟩
      · exact .inl ⟨found, fun _ => nofun⟩

/-- Only EXPIRE gives a counter an expiry, and without one it stays. -/
theorem unexpiring_exec {op : Command} {redis : Redis} {key : String} {counter : Counter}
    (found : redis.counters key = some counter) (unexpiring : counter.expires = false)
    (other : ∀ seconds, op ≠ .expire key seconds) :
    ∃ later, (exec op redis).2.counters key = some later ∧ later.expires = false := by
  cases op with
  | incr key' =>
      rw [exec_incr]
      split
      · rename_i here
        rw [← here.2, found]
        exact ⟨_, rfl, unexpiring⟩
      · exact ⟨counter, found, unexpiring⟩
  | expire key' seconds =>
      have elsewhere : key ≠ key' := by
        rintro rfl
        exact other seconds rfl
      rw [exec_expire, if_neg fun here => elsewhere here.2]
      exact ⟨counter, found, unexpiring⟩
  | elapse key' =>
      rw [exec_elapse]
      split
      · rename_i here
        rw [← here, found]
        exact ⟨counter, by simp [unexpiring], unexpiring⟩
      · exact ⟨counter, found, unexpiring⟩

end Redis

/-- What a request does until its handler runs. -/
abbrev Limited (α : Type) := ExceptT Interrupt (Program Reply) α

def incr (key : String) : Limited Nat := ExceptT.mk (Program.perform (Command.incr key))

def expire (key : String) (seconds : Int) : Limited Unit :=
  ExceptT.mk (Program.perform (Command.expire key seconds))

/-- The body of the `try` in `record_request`. -/
def countRequest (limits : Limits) (key : String) : Limited Bool := do
  let newCount ← incr key
  if newCount = 1 then expire key limits.requestWindowSeconds
  return decide ((newCount : Int) ≤ limits.maxRequestsPerWindow)

def recordRequest (limits : Limits) (key : String) : Limited Bool :=
  tryCatch (countRequest limits key) fun
    | .exception => return false
    | .cancelledError => throw .cancelledError

inductive Outcome where
  | jsonResponse (status : Nat) (error : String)
  /-- The endpoint itself was called. -/
  | handled
  deriving DecidableEq

/-- A value that `or` and `if` take for false is as good as none. -/
def truthy (value : Option String) : Option String := value.filter (· ≠ "")

/-- `account` is what `account_key_func` extracts; none where it raises. -/
def rateLimited (limits : Limits) (endpointName : String) (ipAddress account : Option String) :
    Limited Outcome := do
  let tooMany : Outcome := .jsonResponse 429 s!"Too many {endpointName} attempts"
  let ip := (truthy ipAddress).getD "unknown"
  if ← recordRequest limits s!"{endpointName}:ip:{ip}" then
    match truthy account with
    | none => return .handled
    | some accountValue =>
        if ← recordRequest limits s!"{endpointName}:account:{accountValue}" then
          return .handled
        else return tooMany
  else return tooMany

/-- The rate-limited endpoints of the app. -/
inductive Endpoint where
  | llmChat
  | balanceSheetImport
  | companyTickerLookup
  | companyTickerSearch

def Endpoint.name : Endpoint → String
  | .llmChat => "llm_chat"
  | .balanceSheetImport => "balance_sheet_import"
  | .companyTickerLookup => "company_ticker_lookup"
  | .companyTickerSearch => "company_ticker_search"

/-- A request, or the end of the window of a key. -/
inductive Client where
  | request (endpoint : Endpoint) (ipAddress account : Option String)
  | window (key : String)

def Client.run (limits : Limits) : Client → Program Reply (Except Interrupt Outcome)
  | .request endpoint ipAddress account =>
      ExceptT.run (rateLimited limits endpoint.name ipAddress account)
  | .window key => do
      Program.perform (Command.elapse key)
      return .ok .handled

/-! What a request issues: EXPIRE right after it saw the value 1, and only then. -/

/-- The last thing a request was told is that it created the counter. -/
def Owes (told : Program.History Reply) (key : String) : Prop :=
  told.getLast? = some ⟨.incr key, .ok 1⟩

def Paces (told : Program.History Reply) (op : Command) : Prop :=
  ∀ key, Owes told key ↔ ∃ seconds, op = .expire key seconds

def Settled (told : Program.History Reply) : Prop := ∀ key, ¬Owes told key

def Paced {α : Type} (told : Program.History Reply) (action : Limited α) : Prop :=
  Program.Obeys Paces (fun told _ => Settled told) told (ExceptT.run action)

section Paced
variable {α β : Type} {told : Program.History Reply}

theorem owes_append {op : Command} {reply : Reply op} {key : String} :
    Owes (told ++ [⟨op, reply⟩]) key ↔
      (⟨op, reply⟩ : Sigma Reply) = ⟨.incr key, .ok 1⟩ := by
  rw [Owes, List.getLast?_concat, Option.some_inj]

theorem settled_nil : Settled [] := nofun

theorem settled_append {op : Command} {reply : Reply op}
    (other : ∀ key, (⟨op, reply⟩ : Sigma Reply) ≠ ⟨.incr key, .ok 1⟩) :
    Settled (told ++ [⟨op, reply⟩]) :=
  fun key owes => other key (owes_append.mp owes)

theorem paced_pure (settled : Settled told) (value : α) : Paced told (pure value : Limited α) :=
  settled

theorem paced_throw (settled : Settled told) (interrupt : Interrupt) :
    Paced told (throw interrupt : Limited α) := settled

theorem Paced.bind {action : Limited α} {rest : α → Limited β} (first : Paced told action)
    (second : ∀ value later, Settled later → Paced later (rest value)) :
    Paced told (action >>= rest) := by
  apply Raising.obeys_run_bind first second
  intro interrupt later settled
  exact settled

theorem Paced.tryCatch {action : Limited α} {handler : Interrupt → Limited α}
    (first : Paced told action)
    (handled : ∀ interrupt later, Settled later → Paced later (handler interrupt)) :
    Paced told (tryCatch action handler) := by
  apply Program.Obeys.bind first
  intro result later settled
  cases result with
  | ok value => exact settled
  | error interrupt => exact handled interrupt later settled

theorem countRequest_paced (settled : Settled told) (limits : Limits) (key : String) :
    Paced told (countRequest limits key) := by
  have counts : Paces told (.incr key) := by
    intro key'
    refine iff_of_false (settled key') ?_
    rintro ⟨_, ⟨⟩⟩
  refine ⟨counts, fun reply => ?_⟩
  match reply with
  | .error interrupt => exact settled_append nofun
  | .ok newCount =>
      by_cases created : newCount = 1
      · subst created
        have expires : Paces (told ++ [⟨.incr key, .ok 1⟩])
            (.expire key limits.requestWindowSeconds) := by
          intro key'
          rw [owes_append]
          constructor
          · rintro ⟨⟩
            exact ⟨_, rfl⟩
          · rintro ⟨_, ⟨⟩⟩
            rfl
        refine ⟨expires, fun reply => ?_⟩
        cases reply with
        | ok _ => exact settled_append nofun
        | error _ => exact settled_append nofun
      · change Paced _ (if newCount = 1 then _ else pure _)
        rw [if_neg created]
        refine paced_pure (settled_append ?_) _
        rintro key' ⟨⟩
        exact created rfl

theorem recordRequest_paced (settled : Settled told) (limits : Limits) (key : String) :
    Paced told (recordRequest limits key) := by
  apply (countRequest_paced settled limits key).tryCatch
  intro interrupt later settled
  cases interrupt with
  | exception => exact paced_pure settled false
  | cancelledError => exact paced_throw settled _

theorem rateLimited_paced (limits : Limits) (endpointName : String)
    (ipAddress account : Option String) :
    Paced [] (rateLimited limits endpointName ipAddress account) := by
  apply (recordRequest_paced settled_nil limits _).bind
  intro allowed later settled
  cases allowed with
  | false => exact paced_pure settled _
  | true =>
      simp only [if_true]
      cases truthy account with
      | none => exact paced_pure settled _
      | some accountValue =>
          apply (recordRequest_paced settled limits _).bind
          intro allowed later settled
          cases allowed with
          | false => exact paced_pure settled _
          | true => exact paced_pure settled _

theorem Client.run_paced (limits : Limits) (client : Client) :
    Program.Obeys Paces (fun told _ => Settled told) [] (client.run limits) := by
  cases client with
  | request endpoint ipAddress account =>
      exact rateLimited_paced limits endpoint.name ipAddress account
  | window key =>
      refine ⟨fun key' => iff_of_false (settled_nil key') ?_, fun reply => settled_append nofun⟩
      rintro ⟨_, ⟨⟩⟩

end Paced
end BalanceSheetAnalysis.RateLimiter

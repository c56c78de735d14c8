import BalanceSheetAnalysis.Sessions.Keys

/-! A refresh token is redeemed once, whoever presents it and however the requests
interleave, as long as the marker of its redemption stands. -/
namespace BalanceSheetAnalysis.Sessions
open Library
open RateLimiter (Interrupt truthy)

variable {ι : Type} [DecidableEq ι]

/-- Requests in flight, and the servers they share. -/
abbrev Requests (ι : Type) := Pool Reply Store ι (Except Interrupt Answer)

abbrev SessionEvent (ι : Type) := Event Command Store ι

/-- Each thread is about to serve the request of its client. -/
def Started (settings : Settings) (clients : ι → Client) (requests : Requests ι) : Prop :=
  ∀ i, requests.threads i = ExceptT.run ((clients i).run settings)

/-- What the thread answered, if it has served its request. -/
def answerOf (requests : Requests ι) (i : ι) : Option Answer :=
  match requests.threads i with
  | .done (.ok answer) => some answer
  | _ => none

omit [DecidableEq ι] in
theorem threads_of_answerOf {requests : Requests ι} {i : ι} {answer : Answer}
    (answers : answerOf requests i = some answer) : requests.threads i = .done (.ok answer) := by
  unfold answerOf at answers
  split at answers
  · rename_i found
    rw [found, Option.some.inj answers]
  · cases answers

section Run
variable {settings : Settings} {clients : ι → Client} {requests : Requests ι}
  {schedule : List ι} {before after : List (SessionEvent ι)} {e : SessionEvent ι}

omit [DecidableEq ι] in
theorem Started.obeys (started : Started settings clients requests) (i : ι) :
    Program.Obeys (Permitted settings (clients i))
      (fun told result => ∀ answer, result = .ok answer → (clients i).Earned told answer) []
      (requests.threads i) := by
  rw [started i]
  exact (clients i).run_promises settings

theorem Started.permitted (started : Started settings clients requests)
    (split : requests.trace Store.exec schedule = before ++ e :: after) :
    Permitted settings (clients e.thread) (Pool.historyOf Store.exec before e.thread) e.op :=
  Pool.allowed_of_event started.obeys split

theorem Started.earned (started : Started settings clients requests) {i : ι} {answer : Answer}
    (answers : answerOf (requests.runSchedule Store.exec schedule) i = some answer) :
    (clients i).Earned (Pool.historyOf Store.exec (requests.trace Store.exec schedule) i)
      answer := by
  have reached := Pool.obeys_runSchedule Store.exec started.obeys schedule i
  rw [threads_of_answerOf answers, List.nil_append] at reached
  exact reached answer rfl

/-- The clock does not go back. -/
theorem now_le_since
    (split : requests.trace Store.exec schedule = before ++ e :: after) :
    ∀ d ∈ after, e.before.now ≤ d.before.now :=
  (Pool.holds_onward (e.before.now ≤ ·.now) split (Store.now_le_exec e.op e.before)
    fun _ d _ _ reached => reached.trans (Store.now_le_exec d.op d.before)).1

/-- What a thread was told the time to be, it was by then. -/
theorem told_now_le {now : Nat} {thread : ι}
    (split : requests.trace Store.exec schedule = before ++ e :: after)
    (told : Program.Told (Pool.historyOf Store.exec before thread) .now now) :
    now ≤ e.before.now := by
  obtain ⟨found, member, rfl⟩ := Pool.event_of_told told
  obtain ⟨first, rest, isBefore⟩ := List.append_of_mem member
  rw [isBefore, List.append_assoc, List.cons_append] at split
  exact now_le_since split e (by simp)

/-! Redeeming. -/

/-- The event marked the token id as redeemed, and was told so. -/
def Claims (e : SessionEvent ι) (jti : String) (seconds : Nat) : Prop :=
  e.op = .setNx (revokedKey jti) seconds ∧
    (⟨e.op, (Store.exec e.op e.before).1⟩ : Sigma Reply) =
      ⟨.setNx (revokedKey jti) seconds, .ok true⟩

omit [DecidableEq ι] in
/-- Who is told so found no marker, and leaves one. -/
theorem Claims.marks {jti : String} {seconds : Nat} (claims : Claims e jti seconds) :
    e.before.find (revokedKey jti) = none ∧
      (Store.exec e.op e.before).2.keys (revokedKey jti) =
        some ⟨.flag, some (e.before.now + microseconds seconds)⟩ := by
  obtain ⟨isOp, isReply⟩ := claims
  obtain ⟨thread, op, store⟩ := e
  subst isOp
  have reply := eq_of_heq (Sigma.mk.inj isReply).2
  simp only [Store.exec] at reply ⊢
  cases found : store.find (revokedKey jti) with
  | some entry =>
      rw [found] at reply
      exact absurd (RateLimiter.Fate.answer_eq_ok.mp reply).2 Bool.false_ne_true
  | none =>
      rw [found] at reply
      have delivered := (RateLimiter.Fate.answer_eq_ok.mp reply).1
      simp [Store.put, delivered, RateLimiter.Fate.takesEffect]

/-- The marker stands, or its time has come. -/
def Marked (key : String) (deadline : Nat) (store : Store) : Prop :=
  store.keys key = some ⟨.flag, some deadline⟩ ∨ deadline ≤ store.now

theorem Marked.overdue {jti : String} {deadline : Nat} {store : Store}
    (marked : Marked (revokedKey jti) deadline store)
    (absent : store.find (revokedKey jti) = none) : deadline ≤ store.now := by
  rcases marked with stands | past
  · have dead := Store.find_eq_none.mp absent _ stands
    simpa [Entry.Live] using dead
  · exact past

theorem Marked.step {client : Client} {told : History} {op : Command} {store : Store}
    {jti : String} {deadline : Nat} (marked : Marked (revokedKey jti) deadline store)
    (permitted : Permitted settings client told op) :
    Marked (revokedKey jti) deadline (Store.exec op store).2 := by
  rcases Store.key_of_exec op store (revokedKey jti) with
    same | ⟨_, _, absent, _⟩ | ⟨_, _, rfl, _⟩ | ⟨_, _, rfl, _⟩
  · exact marked.imp same.trans fun past => past.trans (Store.now_le_exec op store)
  · exact .inr ((marked.overdue absent).trans (Store.now_le_exec op store))
  · obtain ⟨email, _, isAccount | ⟨_, chainId, isChain⟩⟩ := permitted
    · exact absurd isAccount.symm (accountVersionKey_ne_revokedKey email jti)
    · exact absurd isChain.symm (chainVersionKey_ne_revokedKey email chainId jti)
  · obtain ⟨_, email, chainId, _, isChain⟩ := permitted
    exact absurd isChain.symm (chainVersionKey_ne_revokedKey email chainId jti)

/-- Between two redemptions of one id the marker of the first has run out. -/
theorem Claims.apart (started : Started settings clients requests) {jti : String}
    {seconds seconds' : Nat} {d : SessionEvent ι}
    (split : requests.trace Store.exec schedule = before ++ e :: after) (later : d ∈ after)
    (first : Claims e jti seconds) (second : Claims d jti seconds') :
    e.before.now + microseconds seconds ≤ d.before.now := by
  have standing := Pool.holds_onward
    (Marked (revokedKey jti) (e.before.now + microseconds seconds)) split (.inl first.marks.2)
    fun _ _ _ inside marked => marked.step (started.permitted inside)
  exact (standing.1 d later).overdue second.marks.1

/-- Who got tokens for a refresh token redeemed it. -/
theorem claims_of_answers (started : Started settings clients requests) {i : ι} {token : Token}
    (isClient : clients i = .refresh token) {pair : TokenPair}
    (answers : answerOf (requests.runSchedule Store.exec schedule) i = some (.tokens pair)) :
    ∃ d ∈ requests.trace Store.exec schedule, d.thread = i ∧
      ∃ jti seconds, truthy token.jti = some jti ∧ Claims d jti seconds := by
  have earned := started.earned answers
  rw [isClient] at earned
  rcases earned with ⟨_, _, _, ⟨⟩⟩ | ⟨_, _, ⟨⟩, _⟩ | ⟨_, jti, seconds, ⟨⟩, _, _, isJti, claimed⟩
  obtain ⟨found, member, isReply⟩ := Pool.event_of_told claimed
  exact ⟨_, member, rfl, jti, seconds, isJti, rfl, by rw [← isReply]⟩

end Run

theorem exists_ordered {α : Type} {entries : List α} {first second : α} (ne : first ≠ second)
    (firstIn : first ∈ entries) (secondIn : second ∈ entries) :
    (∃ before mid rest, entries = before ++ first :: (mid ++ second :: rest)) ∨
      ∃ before mid rest, entries = before ++ second :: (mid ++ first :: rest) := by
  obtain ⟨before, after, rfl⟩ := List.append_of_mem firstIn
  rcases List.mem_append.mp secondIn with earlier | later
  · obtain ⟨left, right, rfl⟩ := List.append_of_mem earlier
    exact .inr ⟨left, right, after, by simp⟩
  · rcases List.mem_cons.mp later with rfl | later
    · exact absurd rfl ne
    · obtain ⟨mid, rest, rfl⟩ := List.append_of_mem later
      exact .inl ⟨before, mid, rest, rfl⟩

/-- Two requests that both got tokens for one refresh token: the second redeemed
it when less than a second of its life was left, if not later. -/
theorem redeemed_once {settings : Settings} {clients : ι → Client} {requests : Requests ι}
    (started : Started settings clients requests) (schedule : List ι) {i j : ι} (differ : i ≠ j)
    {token : Token} (isFirst : clients i = .refresh token) (isSecond : clients j = .refresh token)
    {exp : Nat} (isExp : token.exp = some exp) {first second : TokenPair}
    (firstAnswers : answerOf (requests.runSchedule Store.exec schedule) i = some (.tokens first))
    (secondAnswers : answerOf (requests.runSchedule Store.exec schedule) j =
      some (.tokens second)) :
    ∃ e ∈ requests.trace Store.exec schedule, (e.thread = i ∨ e.thread = j) ∧
      (∃ jti seconds, truthy token.jti = some jti ∧ Claims e jti seconds) ∧
      microseconds exp < e.before.now + microseconds 1 := by
  obtain ⟨d, dIn, dThread, jti, seconds, isJti, dClaims⟩ :=
    claims_of_answers started isFirst firstAnswers
  obtain ⟨e, eIn, eThread, jti', seconds', isJti', eClaims⟩ :=
    claims_of_answers started isSecond secondAnswers
  cases isJti.symm.trans isJti'
  have later {d e : SessionEvent ι} {before mid rest : List (SessionEvent ι)}
      {seconds seconds' : Nat} (isRefresh : clients d.thread = .refresh token)
      (split : requests.trace Store.exec schedule = before ++ d :: (mid ++ e :: rest))
      (dClaims : Claims d jti seconds) (eClaims : Claims e jti seconds') :
      microseconds exp < e.before.now + microseconds 1 := by
    have apart := dClaims.apart started split (by simp) eClaims
    have permitted := started.permitted split
    rw [dClaims.1, isRefresh] at permitted
    obtain ⟨_, _, ⟨⟩, _, _, _, lasts⟩ := permitted
    rw [Lasts, isExp] at lasts
    obtain ⟨now, told, rfl⟩ := lasts
    have known := told_now_le split told
    unfold microseconds at apart ⊢
    omega
  have ne : d ≠ e := by
    rintro rfl
    exact differ (dThread.symm.trans eThread)
  rcases exists_ordered ne dIn eIn with ⟨before, mid, rest, split⟩ | ⟨before, mid, rest, split⟩
  · have isRefresh : clients d.thread = .refresh token := by rw [dThread, isFirst]
    exact ⟨e, eIn, .inr eThread, ⟨jti, seconds', isJti', eClaims⟩,
      later isRefresh split dClaims eClaims⟩
  · have isRefresh : clients e.thread = .refresh token := by rw [eThread, isSecond]
    exact ⟨d, dIn, .inl dThread, ⟨jti, seconds, isJti', dClaims⟩,
      later isRefresh split eClaims dClaims⟩

/-! A token presented twice, at the end of its life. -/

def zeros (command : Nat) : String := String.ofList (List.replicate command '0')

/-- Servers that answer. -/
def outsideAt (clock : Nat → Nat) (monotone : Monotone clock) (users : String → Option User) :
    Outside where
  clock := clock
  monotone := monotone
  hex := zeros
  distinct := fun first second same => by
    simpa [zeros] using congrArg String.length same
  users := fun _ => users
  fates := fun _ => .delivered

def lateToken : Token :=
  { email := some "ada@example.com", type := some .refresh, jti := some "jti"
    chain := some "chain", accountVer := some 0, chainVer := some 0, exp := some 10 }

/-- The first nineteen commands come just before the token expires. -/
def lateClock (command : Nat) : Nat := if command < 19 then 9900000 else 20000000

def lateStore : Store where
  keys := fun _ => none
  signed := [lateToken]
  sessions := []
  sessionSequence := 1
  outside := outsideAt lateClock (fun first second le => by
    unfold lateClock
    split <;> split <;> omega) fun _ => none
  issued := 0

def lateRefreshes : Requests Bool where
  state := lateStore
  threads := fun _ => ExceptT.run ((Client.refresh lateToken).run ⟨15, 1440⟩)

/-- Both decode the token, and the second goes on when the first is done. -/
def lateSchedule : List Bool :=
  [false, true] ++ List.replicate 17 false ++ List.replicate 17 true

/-- What a refresh gets whose ids are those of two of its commands. -/
def latePair (access refresh accessExp refreshExp : Nat) : TokenPair where
  accessToken :=
    { lateToken with type := some .access, jti := some (zeros access), exp := some accessExp }
  refreshToken := { lateToken with jti := some (zeros refresh), exp := some refreshExp }

theorem redeemed_once_late :
    ∃ e ∈ lateRefreshes.trace Store.exec lateSchedule, (e.thread = false ∨ e.thread = true) ∧
      (∃ jti seconds, truthy lateToken.jti = some jti ∧ Claims e jti seconds) ∧
      microseconds 10 < e.before.now + microseconds 1 := by
  have first : answerOf (lateRefreshes.runSchedule Store.exec lateSchedule) false =
      some (.tokens (latePair 7 12 909 86409)) := by decide +kernel
  have second : answerOf (lateRefreshes.runSchedule Store.exec lateSchedule) true =
      some (.tokens (latePair 24 29 920 86420)) := by decide +kernel
  have started : Started ⟨15, 1440⟩ (fun _ => .refresh lateToken) lateRefreshes := fun _ => rfl
  exact redeemed_once started lateSchedule Bool.false_ne_true rfl rfl rfl first second

end BalanceSheetAnalysis.Sessions

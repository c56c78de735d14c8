import BalanceSheetAnalysis.Sessions.Order
import BalanceSheetAnalysis.Sessions.Rotation

/-! The version of an account only grows, and no token is ahead of it; so once it
was bumped, what was signed before is never honoured again. -/
namespace BalanceSheetAnalysis.Sessions
open Library
open RateLimiter (Interrupt truthy)

variable {ι : Type} [DecidableEq ι]

namespace Store

def versionAt (store : Store) (key : String) : Nat :=
  match store.keys key with
  | some ⟨.number n, _⟩ => n
  | _ => 0

/-- The counter of an account is a number without an expiry. -/
def AccountCounters (store : Store) : Prop :=
  ∀ email entry, store.keys (accountVersionKey email) = some entry →
    ∃ n, entry = ⟨.number n, none⟩

theorem AccountCounters.find {store : Store} (counters : store.AccountCounters) (email : String) :
    store.find (accountVersionKey email) = store.keys (accountVersionKey email) := by
  cases stored : store.keys (accountVersionKey email) with
  | none => simp [Store.find, stored]
  | some entry =>
      obtain ⟨n, rfl⟩ := counters email entry stored
      exact find_of_lasting stored

/-- What a permitted command makes of the counter of an account. -/
theorem AccountCounters.exec {store : Store} (counters : store.AccountCounters)
    {settings : Settings} {client : Client} {told : History} {op : Command}
    (permitted : Permitted settings client told op) (email : String) :
    (Store.exec op store).2.keys (accountVersionKey email) =
        store.keys (accountVersionKey email) ∨
      op = .incr (accountVersionKey email) ∧
        (Store.exec op store).2.keys (accountVersionKey email) =
          some ⟨.number (store.versionAt (accountVersionKey email) + 1), none⟩ := by
  apply (key_of_exec op store (accountVersionKey email)).imp_right
  rintro (⟨seconds, rfl, _⟩ | ⟨n, deadline, rfl, raised, isEntry⟩ | ⟨seconds, _, rfl, _⟩)
  · obtain ⟨_, jti, _, _, isKey, _⟩ := permitted
    exact absurd isKey (accountVersionKey_ne_revokedKey email jti)
  · refine ⟨rfl, ?_⟩
    rw [isEntry, ← raised, counters.find, versionAt]
    cases stored : store.keys (accountVersionKey email) with
    | none => rfl
    | some entry =>
        obtain ⟨n, rfl⟩ := counters email entry stored
        rfl
  · obtain ⟨_, owner, chainId, _, isKey⟩ := permitted
    exact absurd isKey (accountVersionKey_ne_chainVersionKey email owner chainId)

theorem AccountCounters.step {store : Store} (counters : store.AccountCounters)
    {settings : Settings} {client : Client} {told : History} {op : Command}
    (permitted : Permitted settings client told op) :
    (Store.exec op store).2.AccountCounters := by
  intro email entry stored
  rcases counters.exec permitted email with same | ⟨_, raised⟩
  · exact counters email entry (same ▸ stored)
  · exact ⟨_, (Option.some.inj (raised.symm.trans stored)).symm⟩

theorem AccountCounters.versionAt_le {store : Store} (counters : store.AccountCounters)
    {settings : Settings} {client : Client} {told : History} {op : Command}
    (permitted : Permitted settings client told op) (email : String) :
    store.versionAt (accountVersionKey email) ≤
      (Store.exec op store).2.versionAt (accountVersionKey email) := by
  rcases counters.exec permitted email with same | ⟨_, raised⟩
  · rw [versionAt, versionAt, same]
  · rw [versionAt.eq_def (Store.exec op store).2, raised]
    exact Nat.le_succ _

/-- A bump that takes effect moves the version. -/
theorem AccountCounters.bumped {store : Store} (counters : store.AccountCounters)
    (email : String) (effective : store.fate.takesEffect = true) :
    (Store.exec (.incr (accountVersionKey email)) store).2.versionAt (accountVersionKey email) =
      store.versionAt (accountVersionKey email) + 1 := by
  have raised : incremented (store.find (accountVersionKey email)) =
      some ⟨.number (store.versionAt (accountVersionKey email) + 1), none⟩ := by
    rw [counters.find, versionAt]
    cases stored : store.keys (accountVersionKey email) with
    | none => rfl
    | some entry =>
        obtain ⟨n, rfl⟩ := counters email entry stored
        rfl
  rw [versionAt, exec_incr_keys effective raised]

/-- GET tells the version, or nothing. -/
theorem AccountCounters.seen {store : Store} (counters : store.AccountCounters) (email : String) :
    versionSeen (Store.exec (.get (accountVersionKey email)) store).1 =
      if store.fate = .delivered then store.versionAt (accountVersionKey email) else 0 := by
  have found : (store.find (accountVersionKey email)).map Entry.value =
      (store.keys (accountVersionKey email)).map Entry.value := by
    rw [counters.find]
  simp only [Store.exec, found, versionAt]
  cases store.fate with
  | delivered =>
      cases stored : store.keys (accountVersionKey email) with
      | none => rfl
      | some entry =>
          obtain ⟨n, rfl⟩ := counters email entry stored
          rfl
  | fails _ => rfl
  | cancelled _ => rfl

/-- No token carries a version its account has not reached. -/
def Stamped (store : Store) : Prop :=
  ∀ token ∈ store.signed, ∀ email ver, truthy token.email = some email →
    token.accountVer = some ver → ver ≤ store.versionAt (accountVersionKey email)

/-- The tokens of sessions carry both versions. -/
def Versioned (store : Store) : Prop :=
  ∀ token ∈ store.signed, token.OfSession → token.accountVer ≠ none ∧ token.chainVer ≠ none

end Store

theorem mem_signed_of_exec {op : Command} {store : Store} {token : Token}
    (signed : token ∈ (Store.exec op store).2.signed) :
    token ∈ store.signed ∨ op = .encode token := by
  rw [Store.exec_signed] at signed
  split at signed
  · exact (List.mem_cons.mp signed).symm.imp id fun isToken => by rw [isToken]
  · exact .inl signed

theorem signed_subset_exec (op : Command) (store : Store) :
    store.signed ⊆ (Store.exec op store).2.signed := by
  rw [Store.exec_signed]
  split
  · exact List.subset_cons_self _ _
  · exact List.Subset.refl _

section Run
variable {settings : Settings} {clients : ι → Client} {requests : Requests ι}
  {schedule : List ι} {before after : List (SessionEvent ι)} {e : SessionEvent ι}

/-- What was read was read at some event. -/
theorem event_of_seen {events : List (SessionEvent ι)} {i : ι} {key : String} {ver : Nat}
    (seen : Seen (Pool.historyOf Store.exec events i) key ver) :
    ∃ found, ⟨i, .get key, found⟩ ∈ events ∧
      versionSeen (Store.exec (.get key) found).1 = ver := by
  obtain ⟨reply, told, isVer⟩ := seen
  obtain ⟨found, member, rfl⟩ := Pool.event_of_told told
  exact ⟨found, member, isVer⟩

theorem mem_of_split {e : SessionEvent ι}
    (split : requests.trace Store.exec schedule = before ++ e :: after) :
    e ∈ requests.trace Store.exec schedule :=
  split ▸ List.mem_append_right _ (.head _)

theorem Started.accountCounters (started : Started settings clients requests)
    (start : requests.state.AccountCounters) {d : SessionEvent ι}
    (member : d ∈ requests.trace Store.exec schedule) : d.before.AccountCounters :=
  (Pool.holds_throughout Store.AccountCounters schedule start
    fun _ _ _ split counters => counters.step (started.permitted split)).1 d member

theorem Started.versionAt_le (started : Started settings clients requests)
    (start : requests.state.AccountCounters)
    (split : requests.trace Store.exec schedule = before ++ e :: after) (email : String)
    {d : SessionEvent ι} (member : d ∈ after) :
    (Store.exec e.op e.before).2.versionAt (accountVersionKey email) ≤
      d.before.versionAt (accountVersionKey email) := by
  have grows (past : List (SessionEvent ι)) (c : SessionEvent ι) (rest : List (SessionEvent ι))
      (inside : requests.trace Store.exec schedule = past ++ c :: rest) :=
    (started.accountCounters start (mem_of_split inside)).versionAt_le (started.permitted inside)
      email
  exact (Pool.holds_onward (fun store =>
      (Store.exec e.op e.before).2.versionAt (accountVersionKey email) ≤
        store.versionAt (accountVersionKey email)) split le_rfl
    fun past c rest inside reached => reached.trans (grows past c rest inside)).1 d member

/-- What was seen of an account by an event is not ahead of it. -/
theorem Started.seen_le (started : Started settings clients requests)
    (start : requests.state.AccountCounters)
    (split : requests.trace Store.exec schedule = before ++ e :: after) {i : ι} {email : String}
    {ver : Nat} (seen : Seen (Pool.historyOf Store.exec before i) (accountVersionKey email) ver) :
    ver ≤ e.before.versionAt (accountVersionKey email) := by
  obtain ⟨found, earlier, rfl⟩ := event_of_seen seen
  obtain ⟨first, mid, rfl⟩ := List.append_of_mem earlier
  rw [List.append_assoc, List.cons_append] at split
  have counters := started.accountCounters start (mem_of_split split)
  refine le_trans ?_ (started.versionAt_le start split email (by simp))
  refine le_trans ?_ (counters.versionAt_le (started.permitted split) email)
  rw [counters.seen]
  split
  · exact le_rfl
  · exact Nat.zero_le _

/-- A token stays signed. -/
theorem signed_subset_since (split : requests.trace Store.exec schedule = before ++ e :: after) :
    (∀ d ∈ after, e.before.signed ⊆ d.before.signed) ∧
      e.before.signed ⊆ (requests.runSchedule Store.exec schedule).state.signed :=
  Pool.holds_onward (e.before.signed ⊆ ·.signed) split (signed_subset_exec e.op e.before)
    fun _ c _ _ reached => List.Subset.trans reached (signed_subset_exec c.op c.before)

omit [DecidableEq ι] in
/-- A token that decodes is signed and unexpired. -/
theorem decodes {token : Token} {store : Store}
    (valid : true = (Store.exec (.decode token) store).1) :
    token ∈ store.signed ∧ token.Unexpired store.now :=
  of_decide_eq_true valid.symm

theorem truthy_some {text found : String} (isSome : truthy (some text) = some found) :
    found = text := by
  have kept := Option.filter_eq_some_iff.mp isSome
  exact (Option.some.inj kept.1).symm

theorem truthy_of_truthy {text : Option String} {found : String}
    (isSome : truthy text = some found) : truthy (some found) = some found := by
  cases (Option.filter_eq_some_iff.mp isSome).1
  exact isSome

/-- What a run of requests may start from. -/
structure Store.Sound (store : Store) : Prop where
  counters : store.AccountCounters
  stamped : store.Stamped
  versioned : store.Versioned

/-- A token that is minted carries both versions, that of the account as it was seen. -/
theorem Store.Sound.step (started : Started settings clients requests)
    (start : requests.state.AccountCounters)
    (split : requests.trace Store.exec schedule = before ++ e :: after)
    (sound : e.before.Sound) : (Store.exec e.op e.before).2.Sound := by
  have permitted := started.permitted split
  refine ⟨sound.counters.step permitted, fun token signed email ver isEmail isVer => ?_,
    fun token signed ofSession => ?_⟩
  · refine le_trans ?_ (sound.counters.versionAt_le permitted email)
    rcases mem_signed_of_exec signed with old | isEncode
    · exact sound.stamped token old email ver isEmail isVer
    · rw [isEncode] at permitted
      obtain ⟨owner, chainId, minted⟩ := permitted
      obtain ⟨seenVer, isSeen, seen⟩ := minted.accountVer
      rw [minted.isEmail] at isEmail
      cases truthy_some isEmail
      cases isVer.symm.trans isSeen
      exact started.seen_le start split seen
  · rcases mem_signed_of_exec signed with old | isEncode
    · exact sound.versioned token old ofSession
    · rw [isEncode] at permitted
      obtain ⟨owner, chainId, minted⟩ := permitted
      obtain ⟨accountVer, isAccount, _⟩ := minted.accountVer
      obtain ⟨chainVer, isChain, _⟩ := minted.chainVer
      simp [isAccount, isChain]

theorem Started.sound (started : Started settings clients requests)
    (start : requests.state.Sound) {d : SessionEvent ι}
    (member : d ∈ requests.trace Store.exec schedule) : d.before.Sound :=
  (Pool.holds_throughout Store.Sound schedule start
    fun _ _ _ split sound => sound.step started start.counters split).1 d member

/-- Once the version of the account was bumped, what is seen of it is more than
what the tokens signed before carry, or a failure to read. -/
theorem Started.seen_since_bump (started : Started settings clients requests)
    (start : requests.state.AccountCounters) {email : String}
    (split : requests.trace Store.exec schedule = before ++ e :: after)
    (bumps : e.op = .incr (accountVersionKey email))
    (effective : e.before.fate.takesEffect = true) {found : Store} {i : ι}
    (later : ⟨i, .get (accountVersionKey email), found⟩ ∈ after) :
    e.before.versionAt (accountVersionKey email) <
        versionSeen (Store.exec (.get (accountVersionKey email)) found).1 ∨
      found.fate ≠ .delivered ∧
        versionSeen (Store.exec (.get (accountVersionKey email)) found).1 = 0 := by
  have atBump := started.accountCounters start (mem_of_split split)
  have moved := started.versionAt_le start split email later
  rw [bumps, atBump.bumped email effective] at moved
  have inside : ⟨i, .get (accountVersionKey email), found⟩ ∈
      requests.trace Store.exec schedule := by
    rw [split]
    exact List.mem_append_right _ (List.mem_cons_of_mem _ later)
  have counters : found.AccountCounters := started.accountCounters start inside
  rw [counters.seen]
  split
  · exact .inl moved
  · exact .inr ⟨‹_›, rfl⟩

end Run

/-- The client asks for something in the name of the token. -/
def Client.Presents (client : Client) (token : Token) : Prop :=
  client = .authenticate (some token) ∨ client = .refresh token ∨
    ∃ changes, client = .updateMyProfile (some token) changes

/-- Whoever gets something in the name of a token, the token was honoured. -/
theorem Client.Presents.honoured {client : Client} {token : Token} {told : History}
    (presents : client.Presents token) {answer : Answer} (earned : client.Earned told answer)
    (something : answer ≠ .nothing) : Honoured told token ∧ token.OfSession := by
  cases answer with
  | nothing => exact absurd rfl something
  | caller email =>
      obtain ⟨own, rfl, honoured, isType, _⟩ := earned
      rcases presents with ⟨⟨⟩⟩ | ⟨⟨⟩⟩ | ⟨_, ⟨⟩⟩
      exact ⟨honoured, .inl isType⟩
  | tokens pair =>
      rcases earned with ⟨_, _, _, rfl⟩ | ⟨own, _, rfl, honoured, isType⟩ |
        ⟨own, _, _, rfl, honoured, isType, _⟩
      · rcases presents with ⟨⟨⟩⟩ | ⟨⟨⟩⟩ | ⟨_, ⟨⟩⟩
      · rcases presents with ⟨⟨⟩⟩ | ⟨⟨⟩⟩ | ⟨_, ⟨⟩⟩
        exact ⟨honoured, .inl isType⟩
      · rcases presents with ⟨⟨⟩⟩ | ⟨⟨⟩⟩ | ⟨_, ⟨⟩⟩
        exact ⟨honoured, .inr isType⟩

/-- After the version of an account was bumped, no request that begins then gets
anything in the name of a token signed before, unless the token carries version 0
and Redis fails to answer the request. -/
theorem account_revoked {settings : Settings} {clients : ι → Client} {requests : Requests ι}
    (started : Started settings clients requests) (start : requests.state.Sound)
    (schedule : List ι) {before after : List (SessionEvent ι)} {bump : SessionEvent ι}
    (split : requests.trace Store.exec schedule = before ++ bump :: after) {email : String}
    (bumps : bump.op = .incr (accountVersionKey email))
    (effective : bump.before.fate.takesEffect = true) {token : Token}
    (signed : token ∈ bump.before.signed) (isEmail : truthy token.email = some email) {ver : Nat}
    (isVer : token.accountVer = some ver) {i : ι} (presents : (clients i).Presents token)
    (later : ∀ c ∈ before ++ [bump], c.thread ≠ i)
    (read : ver ≠ 0 ∨ ∀ c ∈ after, c.thread = i → c.before.fate = .delivered) {answer : Answer}
    (answers : answerOf (requests.runSchedule Store.exec schedule) i = some answer) :
    answer = .nothing := by
  by_contra something
  obtain ⟨honoured, _⟩ := presents.honoured (started.earned answers) something
  have seen := (honoured.checked email isEmail).1 ver isVer
  obtain ⟨found, inside, isSeen⟩ := event_of_seen seen
  have since : ⟨i, .get (accountVersionKey email), found⟩ ∈ after := by
    rw [split, List.append_cons] at inside
    exact (List.mem_append.mp inside).resolve_left fun early => later _ early rfl
  have behind := (started.sound start (mem_of_split split)).stamped token signed email ver isEmail
    isVer
  rcases started.seen_since_bump start.counters split bumps effective since with ahead | failed
  · omega
  · rcases read with positive | delivered
    · exact positive (isSeen.symm.trans failed.2)
    · exact failed.1 (delivered _ since rfl)

/-! A session of Ada, and requests about it. -/

def adaAccess : Token :=
  { email := some "ada", type := some .access, jti := some "one", chain := some (zeros 1)
    accountVer := some 0, chainVer := some 0, exp := some 900 }

def adaRefresh : Token :=
  { adaAccess with type := some .refresh, jti := some "two", exp := some 86400 }

def adaStore : Store where
  keys := fun _ => none
  signed := [adaAccess, adaRefresh]
  sessions := [⟨1, 1, "two", some (zeros 1), 0, microseconds 86400, none⟩]
  sessionSequence := 2
  outside := outsideAt (fun _ => 0) monotone_const fun email =>
    if email = "ada" then some ⟨1, some "hash", true, true⟩ else none
  issued := 2

theorem adaStore_sound : adaStore.Sound where
  counters := fun _ _ stored => by cases stored
  stamped := by
    intro token signed email ver _ isVer
    have zero : ∀ token ∈ adaStore.signed, token.accountVer = some 0 := by decide
    cases isVer.symm.trans (zero token signed)
    exact Nat.zero_le _
  versioned := by
    intro token signed _
    have carried : ∀ token ∈ adaStore.signed, token.accountVer ≠ none ∧ token.chainVer ≠ none := by
      decide
    exact carried token signed

def serving (clients : Nat → Client) : Requests Nat where
  state := adaStore
  threads := fun i => ExceptT.run ((clients i).run ⟨15, 1440⟩)

theorem serving_started (clients : Nat → Client) : Started ⟨15, 1440⟩ clients (serving clients) :=
  fun _ => rfl

/-- One request after the other. -/
def inTurn : List Nat := List.replicate 12 0 ++ List.replicate 24 1 ++ List.replicate 12 2

abbrev servedIn (clients : Nat → Client) : List (SessionEvent Nat) :=
  (serving clients).trace Store.exec inTurn

theorem split_at {α : Type} (entries : List α) (n : Nat) (inside : n < entries.length) :
    entries = entries.take n ++ entries.get ⟨n, inside⟩ :: entries.drop (n + 1) := by
  rw [List.get_eq_getElem, ← List.drop_eq_getElem_cons inside, List.take_append_drop]

def adaReset : Nat → Client
  | 0 => .endAllSessions "ada"
  | _ => .authenticate (some adaAccess)

theorem adaReset_inside : 3 < (servedIn adaReset).length := by decide +kernel

theorem account_revoked_ada :
    (answerOf ((serving adaReset).runSchedule Store.exec inTurn) 1).getD (.caller "ada") =
      .nothing := by
  have split := split_at _ 3 adaReset_inside
  have bumps : ((servedIn adaReset).get ⟨3, adaReset_inside⟩).op =
      .incr (accountVersionKey "ada") := by
    decide +kernel
  have later : ∀ c ∈ (servedIn adaReset).take 3 ++ [(servedIn adaReset).get ⟨3, adaReset_inside⟩],
      c.thread ≠ 1 := by decide +kernel
  exact account_revoked (serving_started adaReset) adaStore_sound inTurn split bumps
    (by decide +kernel) (by decide +kernel) (by decide) rfl (.inl rfl) later
    (.inr (by decide +kernel)) (by decide +kernel)

end BalanceSheetAnalysis.Sessions

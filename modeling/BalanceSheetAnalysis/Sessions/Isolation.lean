import BalanceSheetAnalysis.Sessions.Chains

/-! What others do ends no session of an account: a caller is turned away for one
of a few reasons, and none of them is for a stranger to bring about. -/
namespace BalanceSheetAnalysis.Sessions
open Library Library.Raising
open RateLimiter (Interrupt truthy)

variable {ι : Type} [DecidableEq ι]

/-- A server did not answer. -/
def Unanswered : Sigma Reply → Prop
  | ⟨.get _, reply⟩ => ∃ interrupt, reply = .error interrupt
  | ⟨.exist _, reply⟩ => ∃ interrupt, reply = .error interrupt
  | ⟨.getByEmail _, reply⟩ => ∃ interrupt, reply = .error interrupt
  | ⟨.getActivePolicies _, reply⟩ => ∃ interrupt, reply = .error interrupt
  | _ => False

theorem not_unanswered {op : Command} {store : Store} (delivered : store.fate = .delivered) :
    ¬Unanswered ⟨op, (Store.exec op store).1⟩ := by
  intro failed
  cases op with
  | get | exist | getByEmail | getActivePolicies =>
      obtain ⟨interrupt, isError⟩ := failed
      simp only [Store.exec, delivered, RateLimiter.Fate.answer] at isError
      cases isError
  | _ => exact failed

/-- Why a caller with the token is turned away. -/
def TurnedAway (told : History) (token : Token) (email : String) : Prop :=
  Program.Told told (.decode token) false ∨
  (∃ jti, truthy token.jti = some jti ∧
    Program.Told told (.exist (revokedKey jti)) (.ok true)) ∨
  Outdated told token ∨
  (∃ user, Program.Told told (.getByEmail email) (.ok user) ∧ ¬∃ found ∈ user, found.isActive) ∨
  ∃ entry ∈ told, Unanswered entry

/-- What is promised of the value a request returns; if it returns none then some
server did not answer. -/
def Explains {α : Type} (told : History) (action : Request α) (post : History → α → Prop) : Prop :=
  Program.Obeys (fun _ _ => True)
    (fun later result =>
      match result with
      | .ok value => told ⊆ later ∧ post later value
      | .error _ => ∃ entry ∈ later, Unanswered entry) told (ExceptT.run action)

section Explains
variable {told : History} {α β : Type} {middle : History → α → Prop} {post : History → β → Prop}
  {action : Request α}

theorem explains_pure {value : β} (fits : post told value) :
    Explains told (pure value) post := ⟨List.Subset.refl _, fits⟩

theorem Explains.bind {rest : α → Request β} (first : Explains told action middle)
    (second : ∀ value later, told ⊆ later → middle later value →
      Explains later (rest value) post) : Explains told (action >>= rest) post := by
  apply Raising.obeys_run_bind first
  · intro value later fits
    apply (second value later fits.1 fits.2).mono (fun _ _ => id)
    intro after result holds
    cases result with
    | ok value => exact ⟨List.Subset.trans fits.1 holds.1, holds.2⟩
    | error _ => exact holds
  · exact fun _ _ => id

theorem Explains.caught {fallback : α} {post : History → α → Prop}
    (explained : Explains told action post)
    (failed : ∀ later, (∃ entry ∈ later, Unanswered entry) → post later fallback) :
    Explains told (caught action fallback) post := by
  apply Program.Obeys.bind (Program.Obeys.kept explained)
  intro result later ⟨kept, holds⟩
  cases result with
  | ok value => exact holds
  | error interrupt =>
      cases interrupt with
      | exception => exact ⟨kept, failed later holds⟩
      | cancelledError => exact holds

theorem explains_decode (token : Token) :
    Explains told (decodePayload token) fun later payload =>
      (payload = none → Program.Told later (.decode token) false) ∧
        ∀ found, payload = some found → found = token := by
  refine ⟨trivial, fun valid => ⟨List.subset_append_left _ _, ?_⟩⟩
  have wasTold := Program.told_last told (.decode token) valid
  cases valid with
  | false => exact ⟨fun _ => wasTold, nofun⟩
  | true => exact ⟨nofun, fun found isSome => (Option.some.inj isSome).symm⟩

theorem explains_readVersion (key : String) :
    Explains told (readVersion key) fun later ver => Seen later key ver := by
  refine ⟨trivial, fun reply => ?_⟩
  have wasTold := Program.told_last told (.get key) reply
  have kept : told ⊆ told ++ [⟨.get key, reply⟩] := List.subset_append_left _ _
  cases reply with
  | error interrupt =>
      cases interrupt with
      | exception => exact ⟨kept, _, wasTold, rfl⟩
      | cancelledError => exact ⟨_, wasTold, _, rfl⟩
  | ok raw =>
      cases raw with
      | none => exact ⟨kept, _, wasTold, rfl⟩
      | some value => cases value <;> exact ⟨kept, _, wasTold, rfl⟩

theorem explains_carries {ver : Option Nat} {current : Request Nat} {key : String}
    (read : Explains told current fun later seen => Seen later key seen) :
    Explains told (carries ver current) fun later verdict => verdict = false →
      ∃ carried seen, ver = some carried ∧ Seen later key seen ∧ seen ≠ carried := by
  unfold carries
  cases ver with
  | none => exact explains_pure nofun
  | some ver =>
      apply read.bind
      intro seen later _ wasSeen
      apply explains_pure
      intro differ
      exact ⟨ver, seen, rfl, wasSeen, Ne.symm (of_decide_eq_false differ)⟩

theorem explains_isCurrentVersion (payload : Token) :
    Explains told (isCurrentVersion payload) fun later verdict =>
      verdict = false → Outdated later payload := by
  unfold isCurrentVersion
  cases isEmail : truthy payload.email with
  | none => exact explains_pure nofun
  | some email =>
      apply (explains_carries (explains_readVersion _)).bind
      intro accountHolds later _ account
      cases accountHolds with
      | false =>
          obtain ⟨carried, seen, isVer, wasSeen, differ⟩ := account rfl
          exact explains_pure
            fun _ => ⟨email, isEmail, .inl ⟨carried, seen, isVer, wasSeen, differ⟩⟩
      | true =>
          simp only [if_true]
          cases isChain : truthy payload.chain with
          | none => exact explains_pure nofun
          | some chainId =>
              apply (explains_carries (explains_readVersion _)).mono (fun _ _ => id)
              intro after result holds
              cases result with
              | error _ => exact holds
              | ok verdict =>
                  refine ⟨holds.1, fun fails => ?_⟩
                  obtain ⟨carried, seen, isVer, wasSeen, differ⟩ := holds.2 fails
                  exact ⟨email, isEmail, .inr ⟨chainId, carried, seen, isChain, isVer, wasSeen,
                    differ⟩⟩

end Explains

section TurnedAway
variable {told : History} {token : Token} {email : String}

theorem unanswered_turnedAway (unanswered : ∃ entry ∈ told, Unanswered entry) :
    TurnedAway told token email := .inr (.inr (.inr (.inr unanswered)))

theorem explains_isTokenRevokedByJti (jti : Option String) :
    Explains told (isTokenRevokedByJti jti) fun later revoked => revoked = true →
      ∃ id, truthy jti = some id ∧ Program.Told later (.exist (revokedKey id)) (.ok true) := by
  unfold isTokenRevokedByJti
  split
  · exact explains_pure nofun
  · rename_i id isJti
    refine ⟨trivial, fun reply => ?_⟩
    have wasTold := Program.told_last told (.exist (revokedKey id)) reply
    cases reply with
    | error interrupt => exact ⟨_, wasTold, interrupt, rfl⟩
    | ok revoked =>
        refine ⟨List.subset_append_left _ _, ?_⟩
        rintro rfl
        exact ⟨id, isJti, wasTold⟩

theorem explains_getByEmail (email : String) :
    Explains told (getByEmail email) fun later user =>
      Program.Told later (.getByEmail email) (.ok user) := by
  refine ⟨trivial, fun reply => ?_⟩
  have wasTold := Program.told_last told (.getByEmail email) reply
  cases reply with
  | error interrupt => exact ⟨_, wasTold, interrupt, rfl⟩
  | ok user => exact ⟨List.subset_append_left _ _, wasTold⟩

theorem explains_getActivePolicies (email : String) :
    Explains told (getActivePolicies email) fun _ _ => True := by
  refine ⟨trivial, fun reply => ?_⟩
  have wasTold := Program.told_last told (.getActivePolicies email) reply
  cases reply with
  | error interrupt => exact ⟨_, wasTold, interrupt, rfl⟩
  | ok _ => exact ⟨List.subset_append_left _ _, trivial⟩

theorem explains_verifyToken (isAccess : token.type = some .access) :
    Explains told (verifyToken token (some .access)) fun later result =>
      result = some token ∨ result = none ∧ TurnedAway later token email := by
  apply Explains.caught _ fun later unanswered => .inr ⟨rfl, unanswered_turnedAway unanswered⟩
  apply (explains_decode token).bind
  intro decoded later _ isToken
  cases decoded with
  | none => exact explains_pure (.inr ⟨rfl, .inl (isToken.1 rfl)⟩)
  | some payload =>
      cases isToken.2 payload rfl
      apply (explains_isTokenRevokedByJti _).bind
      intro revoked later _ redeemed
      cases revoked with
      | true => exact explains_pure (.inr ⟨rfl, .inr (.inl (redeemed rfl))⟩)
      | false =>
          apply (explains_isCurrentVersion token).bind
          intro current later _ outdated
          cases current with
          | false => exact explains_pure (.inr ⟨rfl, .inr (.inr (.inl (outdated rfl)))⟩)
          | true =>
              rw [isAccess]
              exact explains_pure (.inl rfl)

theorem explains_getCurrentUser (isAccess : token.type = some .access)
    (isEmail : truthy token.email = some email) :
    Explains told (getCurrentUser (some token)) fun later result =>
      result = .ok email ∨ TurnedAway later token email := by
  apply Explains.caught _ fun later unanswered => .inr (unanswered_turnedAway unanswered)
  apply (explains_verifyToken isAccess).bind
  rintro verified later _ (rfl | ⟨rfl, turned⟩)
  · simp only [isEmail]
    apply (explains_getByEmail email).bind
    intro user later _ wasTold
    cases user with
    | none => exact explains_pure (.inr (.inr (.inr (.inr (.inl ⟨none, wasTold, by simp⟩)))))
    | some user =>
        simp only
        split
        · apply (explains_getActivePolicies email).bind
          intro _ _ _ _
          exact explains_pure (.inl rfl)
        · rename_i inactive
          exact explains_pure
            (.inr (.inr (.inr (.inr (.inl ⟨some user, wasTold, by simpa using inactive⟩)))))
  · exact explains_pure (.inr turned)

end TurnedAway

/-! Who leaves the session alone. -/

/-- The request wields no token of the account, nor one with the id of this token,
among those that were ever signed; what it forges is its own business. -/
structure Client.Harmless (signed : List Token) (client : Client) (email : String)
    (token : Token) : Prop where
  ends : ∀ owner, client = .endAllSessions owner → owner ≠ email ∧ ':' ∉ owner.toList
  wields : ∀ own ∈ signed, client.wields own → ∀ owner, truthy own.email = some owner →
    owner ≠ email ∧ ':' ∉ owner.toList
  redeems : ∀ own ∈ signed, ∀ jti, client = .refresh own → truthy own.jti = some jti →
    truthy token.jti ≠ some jti

/-- The keys that decide whether the token is honoured. -/
def Guards (email : String) (token : Token) (key : String) : Prop :=
  key = accountVersionKey email ∨ (∃ chainId, key = chainVersionKey email chainId) ∨
    ∃ jti, truthy token.jti = some jti ∧ key = revokedKey jti

section Harmless
variable {signed : List Token} {client : Client} {told : History} {email : String} {token : Token}

theorem Client.Harmless.apart (harmless : client.Harmless signed email token)
    (known : ∀ own, Program.Told told (.decode own) true → own ∈ signed) {owner : String}
    (reaches : client.reaches told owner) : owner ≠ email ∧ ':' ∉ owner.toList := by
  rcases reaches with isEnd | ⟨own, wields, decoded, isOwner⟩
  · exact harmless.ends owner isEnd
  · exact harmless.wields own (known own decoded) wields owner isOwner

theorem Client.Harmless.keeps {settings : Settings} (harmless : client.Harmless signed email token)
    (known : ∀ own, Program.Told told (.decode own) true → own ∈ signed)
    (plain : ':' ∉ email.toList) {op : Command} {store : Store}
    (permitted : Permitted settings client told op) {key : String}
    (guards : Guards email token key) : (Store.exec op store).2.keys key = store.keys key := by
  have chains {owner chainId : String} (apart : owner ≠ email ∧ ':' ∉ owner.toList)
      (isKey : key = chainVersionKey owner chainId) : False := by
    rcases guards with isAccount | ⟨chainId', isChain⟩ | ⟨jti, _, isJti⟩
    · exact accountVersionKey_ne_chainVersionKey _ _ _ (isAccount.symm.trans isKey)
    · exact apart.1 (chainVersionKey_owner apart.2 plain (isKey.symm.trans isChain))
    · exact chainVersionKey_ne_revokedKey _ _ _ (isKey.symm.trans isJti)
  apply (Store.key_of_exec op store key).resolve_right
  rintro (⟨seconds, rfl, _⟩ | ⟨n, deadline, rfl, _⟩ | ⟨seconds, entry, rfl, _⟩)
  · obtain ⟨own, jti, isClient, isJti, isKey, honoured, _⟩ := permitted
    rcases guards with isAccount | ⟨chainId, isChain⟩ | ⟨jti', isJti', isMarker⟩
    · exact accountVersionKey_ne_revokedKey _ _ (isAccount.symm.trans isKey)
    · exact chainVersionKey_ne_revokedKey _ _ _ (isChain.symm.trans isKey)
    · cases revokedKey_injective (isMarker.symm.trans isKey)
      exact harmless.redeems own (known own honoured.decoded) jti isClient isJti isJti'
  · obtain ⟨owner, reaches, isAccount | ⟨_, chainId, isChain⟩⟩ := permitted
    · rcases guards with isAccount' | ⟨chainId, isChain⟩ | ⟨jti, _, isJti⟩
      · cases accountVersionKey_injective (isAccount.symm.trans isAccount')
        exact (harmless.apart known reaches).1 rfl
      · exact accountVersionKey_ne_chainVersionKey _ _ _ (isAccount.symm.trans isChain)
      · exact accountVersionKey_ne_revokedKey _ _ (isAccount.symm.trans isJti)
    · exact chains (harmless.apart known reaches) isChain
  · obtain ⟨_, owner, chainId, reaches, isKey⟩ := permitted
    exact chains (harmless.apart known reaches) isKey

end Harmless

/-- The token would be honoured now: it carries the versions that Redis has. -/
structure Store.Honours (store : Store) (token : Token) (email : String) : Prop where
  signed : token ∈ store.signed
  isAccess : token.type = some .access
  isEmail : truthy token.email = some email
  counters : store.AccountCounters
  account : ∀ ver, token.accountVer = some ver →
    store.versionAt (accountVersionKey email) = ver
  chain : ∀ chainId ver, truthy token.chain = some chainId → token.chainVer = some ver →
    store.keys (chainVersionKey email chainId) = none ∧ ver = 0 ∨
      store.keys (chainVersionKey email chainId) = some ⟨.number ver, none⟩
  unredeemed : ∀ jti, truthy token.jti = some jti → store.keys (revokedKey jti) = none

section Run
variable {settings : Settings} {clients : ι → Client} {requests : Requests ι}
  {schedule : List ι} {token : Token} {email : String} {d : SessionEvent ι}

/-- Whatever decoded in the run is signed at its end. -/
theorem signed_of_decoded {before after : List (SessionEvent ι)} {e : SessionEvent ι} {i : ι}
    (split : requests.trace Store.exec schedule = before ++ e :: after) {own : Token}
    (decoded : Program.Told (Pool.historyOf Store.exec before i) (.decode own) true) :
    own ∈ (requests.runSchedule Store.exec schedule).state.signed := by
  obtain ⟨found, member, valid⟩ := Pool.event_of_told decoded
  obtain ⟨first, last, rfl⟩ := List.append_of_mem member
  rw [List.append_assoc, List.cons_append] at split
  exact (signed_subset_since split).2 (decodes valid).1

/-- What decides on the token stays as it was. -/
theorem Started.guarded (started : Started settings clients requests)
    (plain : ':' ∉ email.toList) (harmless : ∀ i, (clients i).Harmless
      (requests.runSchedule Store.exec schedule).state.signed email token)
    (member : d ∈ requests.trace Store.exec schedule) {key : String}
    (guards : Guards email token key) : d.before.keys key = requests.state.keys key := by
  have always := Pool.holds_throughout (fun store => store.keys key = requests.state.keys key)
    schedule rfl fun _ e _ split same =>
      ((harmless e.thread).keeps (fun _ => signed_of_decoded split) plain (started.permitted split)
        guards).trans same
  exact always.1 d member

theorem signed_subset_at (member : d ∈ requests.trace Store.exec schedule) :
    requests.state.signed ⊆ d.before.signed :=
  (Pool.holds_throughout (requests.state.signed ⊆ ·.signed) schedule (List.Subset.refl _)
    fun _ e _ _ reached => List.Subset.trans reached (signed_subset_exec e.op e.before)).1 d member

/-- A request that is over was told why it is turned away, if it is. -/
theorem Started.turnedAway (started : Started settings clients requests) {i : ι}
    (isClient : clients i = .authenticate (some token)) (isAccess : token.type = some .access)
    (isEmail : truthy token.email = some email) {answer : Answer}
    (answers : answerOf (requests.runSchedule Store.exec schedule) i = some answer) :
    answer = .caller email ∨
      TurnedAway (Pool.historyOf Store.exec (requests.trace Store.exec schedule) i) token
        email := by
  have obeys : ∀ j, Program.Obeys (fun _ _ => True)
      (fun told result => j = i → ∀ answer, result = .ok answer →
        answer = .caller email ∨ TurnedAway told token email) [] (requests.threads j) := by
    intro j
    by_cases own : j = i
    · rw [own, started i, isClient, Client.run, map_eq_pure_bind]
      have explained : Explains [] (getCurrentUser (some token) >>= fun result =>
          pure (Answer.ofCaller result)) fun later answer =>
          answer = .caller email ∨ TurnedAway later token email := by
        apply (explains_getCurrentUser isAccess isEmail).bind
        intro result later _ fits
        apply explains_pure
        apply fits.imp_left
        intro isCaller
        rw [isCaller, Answer.ofCaller]
      apply explained.mono (fun _ _ => id)
      intro later result fits _ answer isAnswer
      rw [isAnswer] at fits
      exact fits.2
    · exact (started.obeys j).mono (fun _ _ _ => trivial) fun _ _ _ same => absurd same own
  have reached := Pool.obeys_runSchedule Store.exec obeys schedule i
  rw [threads_of_answerOf answers, List.nil_append] at reached
  exact reached rfl answer rfl

end Run

/-- As long as no one ends the sessions of the account, nor wields a token of it
that was signed, and whatever others do or forge, a request with a token of it is
served. -/
theorem served_among_strangers {settings : Settings} {clients : ι → Client}
    {requests : Requests ι} (started : Started settings clients requests) (schedule : List ι)
    {token : Token} {email : String} (honours : requests.state.Honours token email)
    (plain : ':' ∉ email.toList) (harmless : ∀ i, (clients i).Harmless
      (requests.runSchedule Store.exec schedule).state.signed email token) {i : ι}
    (isClient : clients i = .authenticate (some token))
    (answered : ∀ e ∈ requests.trace Store.exec schedule, e.thread = i →
      e.before.fate = .delivered ∧ token.Unexpired e.before.now ∧
        ∃ user, e.before.outside.users e.before.issued email = some user ∧ user.isActive = true)
    {answer : Answer}
    (answers : answerOf (requests.runSchedule Store.exec schedule) i = some answer) :
    answer = .caller email := by
  apply (started.turnedAway isClient honours.isAccess honours.isEmail answers).resolve_right
  have kept {d : SessionEvent ι} (member : d ∈ requests.trace Store.exec schedule)
      {key : String} (guards : Guards email token key) :
      d.before.keys key = requests.state.keys key := started.guarded plain harmless member guards
  rintro (undecoded | ⟨jti, isJti, redeemed⟩ | ⟨owner, isOwner, stale⟩ | ⟨user, told, inactive⟩ |
    ⟨⟨op, reply⟩, told, failed⟩)
  · obtain ⟨found, member, isReply⟩ := Pool.event_of_told undecoded
    have valid : token ∈ found.signed ∧ token.Unexpired found.now :=
      ⟨signed_subset_at member honours.signed, (answered _ member rfl).2.1⟩
    exact absurd valid (of_decide_eq_false isReply.symm)
  · obtain ⟨found, member, isReply⟩ := Pool.event_of_told redeemed
    have unmarked : found.keys (revokedKey jti) = none :=
      (kept member (.inr (.inr ⟨jti, isJti, rfl⟩))).trans (honours.unredeemed jti isJti)
    have isFound := (RateLimiter.Fate.answer_eq_ok.mp isReply.symm).2
    simp [Store.find, unmarked] at isFound
  · cases isOwner.symm.trans honours.isEmail
    rcases stale with ⟨ver, seen, isVer, wasSeen, differ⟩ |
      ⟨chainId, ver, seen, isChain, isVer, wasSeen, differ⟩
    · obtain ⟨found, member, isSeen⟩ := event_of_seen wasSeen
      have counters : found.AccountCounters := started.accountCounters honours.counters member
      have same : found.versionAt (accountVersionKey email) = ver := by
        rw [← honours.account ver isVer, Store.versionAt, Store.versionAt, kept member (.inl rfl)]
      have delivered : found.fate = .delivered := (answered _ member rfl).1
      rw [counters.seen, if_pos delivered, same] at isSeen
      exact differ isSeen.symm
    · obtain ⟨found, member, isSeen⟩ := event_of_seen wasSeen
      have delivered : found.fate = .delivered := (answered _ member rfl).1
      have same : found.keys (chainVersionKey email chainId) =
          requests.state.keys (chainVersionKey email chainId) :=
        kept member (.inr (.inl ⟨chainId, rfl⟩))
      apply differ
      rw [← isSeen]
      rcases honours.chain chainId ver isChain isVer with ⟨absent, rfl⟩ | stored
      · simp [Store.exec, Store.find, same, absent, delivered, RateLimiter.Fate.answer, versionSeen]
      · have live : found.find (chainVersionKey email chainId) = some ⟨.number ver, none⟩ :=
          Store.find_of_lasting (same.trans stored)
        simp [Store.exec, live, delivered, RateLimiter.Fate.answer, versionSeen]
  · obtain ⟨found, member, isReply⟩ := Pool.event_of_told told
    obtain ⟨_, _, active, isUser, isActive⟩ := answered _ member rfl
    have same := (RateLimiter.Fate.answer_eq_ok.mp isReply.symm).2
    exact inactive ⟨active, same ▸ isUser, isActive⟩
  · obtain ⟨found, member, isReply⟩ := Pool.event_of_told told
    have delivered : found.fate = .delivered := (answered _ member rfl).1
    rw [isReply] at failed
    exact not_unanswered delivered failed

/-! Meanwhile Bob logs out everywhere, and someone tries to end Ada's sessions
with a token of their own making. -/

def bobRefresh : Token := { adaRefresh with email := some "bob", jti := some "three" }

def adaForged : Token := { adaRefresh with jti := some "forged" }

def bobLeaves : Nat → Client
  | 0 => .endAllSessions "bob"
  | 1 => .authenticate (some adaAccess)
  | 2 => .logoutAll (some adaForged)
  | _ => .refresh bobRefresh

theorem bobLeaves_harmless {signed : List Token} (unsigned : adaForged ∉ signed) (i : Nat) :
    (bobLeaves i).Harmless signed "ada" adaAccess := by
  match i with
  | 0 => exact ⟨by rintro _ ⟨⟩; decide, fun _ _ wields => wields.elim, by rintro _ _ _ ⟨⟩⟩
  | 1 => exact ⟨by rintro _ ⟨⟩, fun _ _ wields => wields.elim, by rintro _ _ _ ⟨⟩⟩
  | 2 =>
      refine ⟨by rintro _ ⟨⟩, ?_, by rintro _ _ _ ⟨⟩⟩
      rintro own member ⟨⟩
      exact absurd member unsigned
  | _ + 3 =>
      refine ⟨by rintro _ ⟨⟩, ?_, ?_⟩
      · rintro own _ (rfl : bobRefresh = own) owner isOwner
        cases isOwner
        decide
      · rintro own _ jti ⟨⟩ isJti
        cases isJti
        decide

theorem served_among_strangers_ada :
    (answerOf ((serving bobLeaves).runSchedule Store.exec inTurn) 1).getD .nothing =
      .caller "ada" := by
  have honours : adaStore.Honours adaAccess "ada" := by
    refine ⟨by decide, rfl, by decide, adaStore_sound.counters, ?_, ?_, fun _ _ => rfl⟩
    · rintro _ ⟨⟩
      rfl
    · rintro _ _ _ ⟨⟩
      exact .inl ⟨rfl, rfl⟩
  have unsigned : adaForged ∉ ((serving bobLeaves).runSchedule Store.exec inTurn).state.signed := by
    decide +kernel
  have answered : ∀ e ∈ servedIn bobLeaves, e.thread = 1 →
      e.before.fate = .delivered ∧ adaAccess.Unexpired e.before.now ∧
        ∃ user ∈ e.before.outside.users e.before.issued "ada", user.isActive = true := by
    decide +kernel
  exact served_among_strangers (serving_started bobLeaves) inTurn honours (by decide)
    (bobLeaves_harmless unsigned) rfl answered (by decide +kernel)

end BalanceSheetAnalysis.Sessions

import BalanceSheetAnalysis.Sessions.Requests

/-! What each request does, given what it was told: whom it mints tokens for and
with which versions, which tokens it redeems, and whose sessions it ends. -/
namespace BalanceSheetAnalysis.Sessions
open Library Library.Raising
open RateLimiter (Interrupt truthy)

abbrev History := Program.History Reply

/-- What the reply to GET is taken for. -/
def versionSeen : Except Interrupt (Option Value) → Nat
  | .ok (some (.number n)) => n
  | _ => 0

/-- The version under the key was read. -/
def Seen (told : History) (key : String) (ver : Nat) : Prop :=
  ∃ reply, Program.Told told (.get key) reply ∧ versionSeen reply = ver

/-- The token was found to carry the current versions. -/
def Checked (told : History) (token : Token) : Prop :=
  ∀ email, truthy token.email = some email →
    (∀ ver, token.accountVer = some ver → Seen told (accountVersionKey email) ver) ∧
    ∀ chainId ver, truthy token.chain = some chainId → token.chainVer = some ver →
      Seen told (chainVersionKey email chainId) ver

/-- The token was found to be signed, unexpired and of current versions. -/
structure Honoured (told : History) (token : Token) : Prop where
  decoded : Program.Told told (.decode token) true
  checked : Checked told token

/-- Some version of the token was found to be another now. -/
def Outdated (told : History) (token : Token) : Prop :=
  ∃ email, truthy token.email = some email ∧
    ((∃ ver seen, token.accountVer = some ver ∧ Seen told (accountVersionKey email) seen ∧
        seen ≠ ver) ∨
      ∃ chainId ver seen, truthy token.chain = some chainId ∧ token.chainVer = some ver ∧
        Seen told (chainVersionKey email chainId) seen ∧ seen ≠ ver)

/-- How long the marker of a redeemed token stays. -/
def Lasts (told : History) (token : Token) (seconds : Nat) : Prop :=
  match token.exp with
  | none => seconds = 1
  | some exp => ∃ now, Program.Told told .now now ∧
      seconds = max 1 ((microseconds exp - now) / microseconds 1)

/-- The tokens in whose name a request may end sessions. -/
def Client.wields : Client → Token → Prop
  | .authenticate _, _ => False
  | .login _ _ _, _ => False
  | .refresh refreshToken, token => refreshToken = token
  | .logout refreshToken, token => refreshToken = some token
  | .logoutAll refreshToken, token => refreshToken = some token
  | .revokeSession accessToken refreshToken _, token =>
      accessToken = some token ∨ refreshToken = some token
  | .updateMyProfile accessToken _, token => accessToken = some token
  | .endAllSessions _, _ => False

/-- The token whose session a request may go on with. -/
def Client.continues : Client → Token → Prop
  | .refresh refreshToken, token => refreshToken = token
  | .updateMyProfile accessToken _, token => accessToken = some token
  | _, _ => False

/-- The requests that end one session alone. -/
def Client.endsOne : Client → Prop
  | .refresh _ | .logout _ | .revokeSession _ _ _ => True
  | _ => False

/-- Whose sessions a request may end: those of an account it wields a token of, or
the one it names. -/
def Client.reaches (client : Client) (told : History) (email : String) : Prop :=
  client = .endAllSessions email ∨
    ∃ token, client.wields token ∧ Program.Told told (.decode token) true ∧
      truthy token.email = some email

/-- An access or a refresh token. -/
def Token.OfSession (token : Token) : Prop :=
  token.type = some .access ∨ token.type = some .refresh

/-- Whom a request mints tokens for: one who just logged in, or one whose token
of the same chain it honoured. -/
def Client.entitles (client : Client) (told : History) (email chainId : String) : Prop :=
  (∃ password passwordMatches, client = .login email password passwordMatches ∧
      Program.Told told .uuid4 chainId) ∨
    ∃ token, client.continues token ∧ Honoured told token ∧ token.OfSession ∧
      truthy token.email = some email ∧ truthy token.chain = some chainId

def Settings.lifetime (settings : Settings) : TokenType → Nat
  | .access => settings.accessTokenExpireMinutes
  | _ => settings.refreshTokenExpireMinutes

/-- How a token comes to be. -/
structure Minted (settings : Settings) (client : Client) (told : History) (token : Token)
    (email chainId : String) : Prop where
  isEmail : token.email = some email
  isChain : token.chain = some chainId
  isType : token.OfSession
  accountVer : ∃ ver, token.accountVer = some ver ∧ Seen told (accountVersionKey email) ver
  chainVer : ∃ ver, token.chainVer = some ver ∧ Seen told (chainVersionKey email chainId) ver
  isJti : ∃ jti, token.jti = some jti ∧ Program.Told told .uuid4 jti
  expires : ∃ now type, token.type = some type ∧ Program.Told told .now now ∧
    token.exp = some ((now + microseconds (settings.lifetime type * 60)) / microseconds 1)
  entitled : client.entitles told email chainId

def Permitted (settings : Settings) (client : Client) (told : History) : Command → Prop
  | .encode token => ∃ email chainId, Minted settings client told token email chainId
  | .setNx key seconds => ∃ token jti, client = .refresh token ∧ truthy token.jti = some jti ∧
      key = revokedKey jti ∧ Honoured told token ∧ Lasts told token seconds
  | .incr key => ∃ email, client.reaches told email ∧
      (key = accountVersionKey email ∨
        client.endsOne ∧ ∃ chainId, key = chainVersionKey email chainId)
  | .expire key seconds => seconds = settings.refreshTokenExpireMinutes * 60 ∧
      ∃ email chainId, client.reaches told email ∧ key = chainVersionKey email chainId
  | _ => True

/-! Facts about what was told outlast it. -/

section Later
variable {told later : History} {client : Client} {token : Token}

theorem Seen.mono {key : String} {ver : Nat} (seen : Seen told key ver) (kept : told ⊆ later) :
    Seen later key ver := by
  obtain ⟨reply, wasTold, isVer⟩ := seen
  exact ⟨reply, kept wasTold, isVer⟩

theorem Checked.mono (checked : Checked told token) (kept : told ⊆ later) :
    Checked later token := by
  intro email isEmail
  obtain ⟨account, chain⟩ := checked email isEmail
  exact ⟨fun ver carried => (account ver carried).mono kept,
    fun chainId ver isChain carried => (chain chainId ver isChain carried).mono kept⟩

theorem Honoured.mono (honoured : Honoured told token) (kept : told ⊆ later) :
    Honoured later token :=
  ⟨kept honoured.decoded, honoured.checked.mono kept⟩

theorem Client.reaches.mono {email : String} (reaches : client.reaches told email)
    (kept : told ⊆ later) : client.reaches later email := by
  apply reaches.imp_right
  intro ⟨token, held, decoded, isEmail⟩
  exact ⟨token, held, kept decoded, isEmail⟩

theorem Client.entitles.mono {email chainId : String}
    (entitles : client.entitles told email chainId) (kept : told ⊆ later) :
    client.entitles later email chainId := by
  apply entitles.imp
  · intro ⟨password, passwordMatches, isLogin, fresh⟩
    exact ⟨password, passwordMatches, isLogin, kept fresh⟩
  · intro ⟨token, held, honoured, isToken⟩
    exact ⟨token, held, honoured.mono kept, isToken⟩

end Later

/-! The rules for promises. -/

/-- What a request asks for is permitted, and a value it returns is as promised. -/
def Promises {α : Type} (settings : Settings) (client : Client) (told : History)
    (action : Request α) (post : History → α → Prop) : Prop :=
  Raising.Obeys (Permitted settings client) post told action

section Rules
variable {settings : Settings} {client : Client} {told : History} {α β : Type}
  {middle : History → α → Prop} {post : History → β → Prop} {action : Request α}

theorem promises_pure {value : β} (fits : post told value) :
    Promises settings client told (pure value) post := obeys_pure fits

theorem Promises.mono (promised : Promises settings client told action middle)
    {post : History → α → Prop}
    (weaker : ∀ later value, told ⊆ later → middle later value → post later value) :
    Promises settings client told action post :=
  (Raising.Obeys.kept promised).mono (fun _ _ => id) fun later value kept =>
    weaker later value kept.1 kept.2

theorem Promises.bind {rest : α → Request β}
    (first : Promises settings client told action middle)
    (second : ∀ value later, told ⊆ later → middle later value →
      Promises settings client later (rest value) post) :
    Promises settings client told (action >>= rest) post :=
  Raising.Obeys.followed first second

theorem Promises.map {f : α → β} (first : Promises settings client told action middle)
    (fits : ∀ value later, told ⊆ later → middle later value → post later (f value)) :
    Promises settings client told (f <$> action) post :=
  Raising.Obeys.map first fits

theorem Promises.discard (promised : Promises settings client told action fun _ _ => True) :
    Promises settings client told (discard action) fun _ _ => True :=
  promised.map fun _ _ _ _ => trivial

theorem Promises.caught {fallback : α} {post : History → α → Prop}
    (promised : Promises settings client told action post)
    (failed : ∀ later, told ⊆ later → post later fallback) :
    Promises settings client told (caught action fallback) post := by
  apply Program.Obeys.bind (Program.Obeys.kept promised)
  intro result later kept
  cases result with
  | ok value => exact kept.2
  | error interrupt =>
      cases interrupt with
      | exception => exact obeys_pure (failed later kept.1)
      | cancelledError => exact obeys_throw _

theorem promises_issue {op : Command} (permitted : Permitted settings client told op) :
    Promises settings client told (issue op) fun later reply => Program.Told later op reply :=
  obeys_told permitted

end Rules

/-! Requests that keep to some of the commands, whatever they are told. -/

structure Within {α : Type} (allowed : Command → Prop) (action : Request α) : Prop where
  obeys : ∀ told, Raising.Obeys (fun _ op => allowed op) (fun _ _ => True) told action

section Within
variable {α β : Type} {allowed : Command → Prop}

theorem within_pure (value : α) : Within allowed (pure value : Request α) :=
  ⟨fun _ => obeys_pure trivial⟩

theorem within_throw (interrupt : Interrupt) : Within allowed (throw interrupt : Request α) :=
  ⟨fun _ => obeys_throw interrupt⟩

theorem within_issue {op : Command} (permitted : allowed op) : Within allowed (issue op) :=
  ⟨fun _ => obeys_issue permitted fun _ => trivial⟩

theorem Within.mono {allowed' : Command → Prop} {action : Request α}
    (within : Within allowed action) (weaker : ∀ op, allowed op → allowed' op) :
    Within allowed' action :=
  ⟨fun told => (within.obeys told).mono (fun _ => weaker) fun _ _ => id⟩

theorem Within.bind {action : Request α} {rest : α → Request β} (first : Within allowed action)
    (second : ∀ value, Within allowed (rest value)) : Within allowed (action >>= rest) :=
  ⟨fun told => Raising.Obeys.bind (first.obeys told) fun value later _ =>
    (second value).obeys later⟩

theorem Within.map {action : Request α} (within : Within allowed action) (f : α → β) :
    Within allowed (f <$> action) := by
  rw [map_eq_pure_bind]
  exact within.bind fun value => within_pure (f value)

theorem Within.caught {action : Request α} (within : Within allowed action) (fallback : α) :
    Within allowed (caught action fallback) := by
  refine ⟨fun told => ?_⟩
  apply Program.Obeys.bind (within.obeys told)
  intro result later _
  cases result with
  | ok value => exact fun _ _ => trivial
  | error interrupt =>
      cases interrupt with
      | exception => exact obeys_pure trivial
      | cancelledError => exact obeys_throw _

end Within

/-! Those that only read the clock, the users and the rows, or write rows. -/

def Quiet : Command → Prop
  | .now | .decode _ | .publish _ | .getByEmail _ | .getActivePolicies _ | .select _
  | .insert _ _ _ _ _ | .update _ _ => True
  | _ => False

abbrev Calm {α : Type} (action : Request α) : Prop := Within Quiet action

section Calm
variable {α β : Type}

theorem calm_pure (value : α) : Calm (pure value : Request α) := within_pure value

theorem Within.promises {settings : Settings} {client : Client} {told : History}
    {action : Request α} (calm : Calm action) :
    Promises settings client told action fun _ _ => True := by
  apply Raising.Obeys.mono (calm.obeys told)
  · intro history op quiet
    cases op with
    | encode | setNx | incr | expire => exact quiet.elim
    | _ => trivial
  · exact fun _ _ => id

theorem now_calm : Calm (issue Command.now) := within_issue trivial

theorem select_calm (filter : SessionFilter) : Calm (select filter) :=
  ⟨fun _ => ⟨trivial, fun _ _ _ => trivial⟩⟩

theorem insert_calm (userId : Int) (jti chainId : String) (expiresAt lastUsedAt : Nat) :
    Calm (insert userId jti chainId expiresAt lastUsedAt) :=
  ⟨fun _ => ⟨trivial, fun _ _ _ => trivial⟩⟩

theorem update_calm (filter : SessionFilter) (change : SessionChange) :
    Calm (update filter change) :=
  ⟨fun _ => ⟨trivial, fun _ _ _ => trivial⟩⟩

theorem getByEmail_calm (email : String) : Calm (getByEmail email) :=
  ⟨fun _ => ⟨trivial, fun _ _ _ => trivial⟩⟩

theorem getActivePolicies_calm (email : String) : Calm (getActivePolicies email) :=
  ⟨fun _ => ⟨trivial, fun _ _ _ => trivial⟩⟩

theorem publishSession_calm (email : String) : Calm (publishSession email) := by
  apply Within.caught
  exact ⟨fun _ => ⟨trivial, fun _ _ _ => trivial⟩⟩

theorem scalarOneOrNone_calm (rows : List UserSession) : Calm (scalarOneOrNone rows) := by
  unfold scalarOneOrNone
  split
  · exact calm_pure _
  · exact calm_pure _
  · exact within_throw _

theorem selectOne_calm (filter : SessionFilter) : Calm (select filter >>= scalarOneOrNone) :=
  (select_calm filter).bind scalarOneOrNone_calm

theorem create_calm (userId : Int) (jti chainId : String) (expiresAt : Nat) :
    Calm (create userId jti chainId expiresAt) :=
  now_calm.bind fun _ => insert_calm ..

theorem flushRotation_calm (row : UserSession) (newJti : String) (newExpiresAt : Nat) :
    Calm (flushRotation row newJti newExpiresAt) :=
  now_calm.bind fun _ => (update_calm ..).bind fun _ => calm_pure _

theorem flushRevocation_calm (row : UserSession) : Calm (flushRevocation row) :=
  now_calm.bind fun _ => (update_calm ..).bind fun _ => calm_pure _

theorem decodePayload_calm (token : Token) : Calm (decodePayload token) :=
  ⟨fun _ => ⟨trivial, fun _ _ _ => trivial⟩⟩

/-- A row that was looked for is changed, or there is none. -/
theorem calm_onRow {rows : Request (Option UserSession)} {rest : UserSession → Request α}
    {missing : α} (found : Calm rows) (changed : ∀ row, Calm (rest row)) :
    Calm (do match ← rows with
      | none => return missing
      | some row => rest row) := by
  apply found.bind
  intro row
  cases row with
  | none => exact calm_pure _
  | some row => exact changed row

theorem rotate_calm (oldJti newJti : String) (newExpiresAt : Nat) :
    Calm (rotate oldJti newJti newExpiresAt) :=
  calm_onRow (selectOne_calm _) fun row => (flushRotation_calm row ..).map _

theorem rotateByChainId_calm (chainId newJti : String) (newExpiresAt : Nat) :
    Calm (rotateByChainId chainId newJti newExpiresAt) :=
  calm_onRow (selectOne_calm _) fun row => (flushRotation_calm row ..).map _

theorem revokeById_calm (sessionId userId : Int) : Calm (revokeById sessionId userId) := by
  apply calm_onRow (selectOne_calm _)
  intro row
  split
  · exact calm_pure _
  · exact (flushRevocation_calm row).map _

theorem revokeByJti_calm (jti : String) : Calm (revokeByJti jti) := by
  apply calm_onRow (selectOne_calm _)
  intro row
  split
  · exact calm_pure _
  · exact (flushRevocation_calm row).map _

theorem revokeByChainId_calm (chainId : String) : Calm (revokeByChainId chainId) :=
  calm_onRow (selectOne_calm _) fun row => (flushRevocation_calm row).map _

theorem createSession_calm (userId : Int) (jti chainId : String) (exp : Nat)
    (email : Option String) : Calm (createSession userId jti chainId exp email) := by
  apply Within.caught
  apply (create_calm ..).bind
  intro _
  split
  · exact calm_pure _
  · exact publishSession_calm _

theorem backfill_calm (email : Option String) (newJti chainId : String) (newExp : Nat) :
    Calm (backfill email newJti chainId newExp) := by
  unfold backfill
  split
  · exact calm_pure _
  · apply (getByEmail_calm _).bind
    intro user
    cases user with
    | none => exact calm_pure _
    | some user => exact create_calm ..

theorem rotateSession_calm (oldJti newJti chainId : String) (newExp : Nat)
    (email : Option String) : Calm (rotateSession oldJti newJti chainId newExp email) := by
  apply Within.caught
  apply (rotate_calm ..).bind
  intro rotated
  cases rotated with
  | none => exact backfill_calm ..
  | some _ => exact calm_pure _

theorem rotateSessionByChain_calm (chainId newJti : String) (newExp : Nat)
    (email : Option String) : Calm (rotateSessionByChain chainId newJti newExp email) := by
  apply Within.caught
  apply (rotateByChainId_calm ..).bind
  intro rotated
  cases rotated with
  | none => exact backfill_calm ..
  | some _ => exact calm_pure _

theorem revokeAllSessions_calm (email : String) (exemptChainId : Option String) :
    Calm (revokeAllSessions email exemptChainId) := by
  unfold revokeAllSessions
  split
  · exact calm_pure _
  · apply Within.caught
    apply (getByEmail_calm _).bind
    intro user
    cases user with
    | none => exact calm_pure _
    | some user =>
        simp only
        split
        · exact now_calm.bind fun _ => update_calm ..
        · exact now_calm.bind fun _ => update_calm ..

theorem revokeChain_calm (chainId : String) : Calm (revokeChain chainId) :=
  ((revokeByChainId_calm chainId).map _).caught ()

theorem countActiveSessions_calm (email : String) : Calm (countActiveSessions email) := by
  apply (getByEmail_calm _).bind
  intro user
  cases user with
  | none => exact calm_pure _
  | some user => exact now_calm.bind fun _ => (select_calm _).bind fun _ => calm_pure _

theorem recorded_calm {record : String → Nat → Request Unit}
    (calm : ∀ jti exp, Calm (record jti exp)) (newRefresh : Token) :
    Calm (recorded newRefresh record) := by
  apply (decodePayload_calm _).bind
  intro payload
  cases payload with
  | none => exact calm_pure _
  | some payload =>
      simp only
      split
      · exact calm _ _
      · exact calm_pure _

end Calm
end BalanceSheetAnalysis.Sessions

import BalanceSheetAnalysis.Sessions.JwtService

/-! The requests that begin, continue and end a login session.  The rows of
Postgres follow along as well as they can; only the handlers that a client calls
to end a session ask them anything. -/
namespace BalanceSheetAnalysis.Sessions
open Library Library.Raising
open RateLimiter (Interrupt truthy)

def select (filter : SessionFilter) : Request (List UserSession) :=
  ExceptT.mk (Program.perform (Command.select filter))

def insert (userId : Int) (jti chainId : String) (expiresAt lastUsedAt : Nat) : Request Unit :=
  ExceptT.mk (Program.perform (Command.insert userId jti chainId expiresAt lastUsedAt))

def update (filter : SessionFilter) (change : SessionChange) : Request Unit :=
  ExceptT.mk (Program.perform (Command.update filter change))

def getByEmail (email : String) : Request (Option User) :=
  ExceptT.mk (Program.perform (Command.getByEmail email))

def getActivePolicies (email : String) : Request Unit :=
  ExceptT.mk (Program.perform (Command.getActivePolicies email))

/-- `publish_session_revoked` and `publish_session_created`. -/
def publishSession (email : String) : Request Unit :=
  caught (ExceptT.mk (Program.perform (Command.publish email))) ()

/-! The repository. -/

/-- `scalar_one_or_none` raises where there is more than one row. -/
def scalarOneOrNone : List UserSession → Request (Option UserSession)
  | [] => return none
  | [row] => return some row
  | _ => throw .exception

def getByJti (jti : String) : Request (Option UserSession) :=
  select (.currentJti jti) >>= scalarOneOrNone

def getById (sessionId : Int) : Request (Option UserSession) :=
  select (.id sessionId) >>= scalarOneOrNone

def create (userId : Int) (jti chainId : String) (expiresAt : Nat) : Request Unit := do
  let now ← issue Command.now
  insert userId jti chainId expiresAt now

/-- An ORM row that was changed is written back by its primary key. -/
def flushRotation (row : UserSession) (newJti : String) (newExpiresAt : Nat) :
    Request UserSession := do
  let now ← issue Command.now
  update (.id row.id) (.rotate newJti newExpiresAt now)
  return (SessionChange.rotate newJti newExpiresAt now).apply row

def flushRevocation (row : UserSession) : Request UserSession := do
  let now ← issue Command.now
  update (.id row.id) (.revoke now)
  return (SessionChange.revoke now).apply row

def rotate (oldJti newJti : String) (newExpiresAt : Nat) : Request (Option UserSession) := do
  match ← getByJti oldJti with
  | none => return none
  | some session => some <$> flushRotation session newJti newExpiresAt

def rotateByChainId (chainId newJti : String) (newExpiresAt : Nat) :
    Request (Option UserSession) := do
  match ← select (.activeChain chainId) >>= scalarOneOrNone with
  | none => return none
  | some session => some <$> flushRotation session newJti newExpiresAt

def revokeById (sessionId userId : Int) : Request (Option UserSession) := do
  match ← getById sessionId with
  | none => return none
  | some session =>
      if session.userId ≠ userId ∨ session.revokedAt ≠ none then return none
      else some <$> flushRevocation session

def revokeByJti (jti : String) : Request (Option UserSession) := do
  match ← getByJti jti with
  | none => return none
  | some session =>
      if session.revokedAt ≠ none then return none
      else some <$> flushRevocation session

def revokeByChainId (chainId : String) : Request (Option UserSession) := do
  match ← select (.activeChain chainId) >>= scalarOneOrNone with
  | none => return none
  | some session => some <$> flushRevocation session

def revokeAllForUser (userId : Int) : Request Unit := do
  let now ← issue Command.now
  update (.activeUser userId) (.revoke now)

def revokeAllForUserExceptChain (userId : Int) (exemptChainId : String) : Request Unit := do
  let now ← issue Command.now
  update (.activeUserExcept userId exemptChainId) (.revoke now)

def countActiveForUser (userId : Int) : Request Nat := do
  let now ← issue Command.now
  return (← select (.liveUser userId now)).length

/-! The service. -/

def createSession (userId : Int) (jti chainId : String) (exp : Nat) (email : Option String) :
    Request Unit :=
  caught (do
    create userId jti chainId (microseconds exp)
    match truthy email with
    | none => return ()
    | some email => publishSession email) ()

/-- A session without a row gets one, by whichever name it was not found. -/
def backfill (email : Option String) (newJti chainId : String) (newExp : Nat) : Request Unit :=
  match truthy email with
  | none => return ()
  | some email => do
      match ← getByEmail email with
      | none => return ()
      | some user => create user.id newJti chainId (microseconds newExp)

def rotateSession (oldJti newJti chainId : String) (newExp : Nat) (email : Option String) :
    Request Unit :=
  caught (do
    match ← rotate oldJti newJti (microseconds newExp) with
    | some _ => return ()
    | none => backfill email newJti chainId newExp) ()

def rotateSessionByChain (chainId newJti : String) (newExp : Nat) (email : Option String) :
    Request Unit :=
  caught (do
    match ← rotateByChainId chainId newJti (microseconds newExp) with
    | some _ => return ()
    | none => backfill email newJti chainId newExp) ()

def revokeSessionOnLogout (settings : Settings) (jti email : Option String) : Request Unit :=
  match truthy jti with
  | none => return ()
  | some jti => caught (do
      match ← getByJti jti with
      | none => return ()
      | some session =>
          if session.revokedAt ≠ none then return ()
          else
            match truthy email, truthy session.chainId with
            | some email, some chainId =>
                bumpChainVersion settings email chainId
                publishSession email
            | _, _ => pure ()
            discard (revokeByJti jti)) ()

def revokeAllSessions (email : String) (exemptChainId : Option String) : Request Unit :=
  match truthy (some email) with
  | none => return ()
  | some email => caught (do
      match ← getByEmail email with
      | none => return ()
      | some user =>
          match truthy exemptChainId with
          | some chainId => revokeAllForUserExceptChain user.id chainId
          | none => revokeAllForUser user.id) ()

def revokeChain (chainId : String) : Request Unit :=
  caught (discard (revokeByChainId chainId)) ()

def countActiveSessions (email : String) : Request Nat := do
  match ← getByEmail email with
  | none => return 0
  | some user => countActiveForUser user.id

def revokeOneSession (settings : Settings) (email : String) (sessionId : Int) :
    Request (Option UserSession) := do
  match ← getByEmail email with
  | none => return none
  | some user =>
      match ← revokeById sessionId user.id with
      | none => return none
      | some session =>
          match truthy session.chainId with
          | none => pure ()
          | some chainId => bumpChainVersion settings email chainId
          publishSession email
          return some session

/-! Ending and continuing sessions. -/

def revokeAllTokensForUser (email : String) : Request Nat :=
  caught (do
    let activeCount ← countActiveSessions email
    bumpAccountVersion email
    revokeAllSessions email none
    publishSession email
    return activeCount) 0

def revokeAllTokensForUserExceptChain (email exemptChainId : String) : Request Nat :=
  caught (do
    let activeCount ← countActiveSessions email
    bumpAccountVersion email
    revokeAllSessions email (some exemptChainId)
    publishSession email
    return activeCount - 1) 0

def revokeChainForUser (settings : Settings) (email chainId : String) : Request Unit :=
  caught (do
    bumpChainVersion settings email chainId
    revokeChain chainId
    publishSession email) ()

def handleReuseDetected (settings : Settings) (payload : Token) : Request Unit :=
  match truthy payload.email with
  | none => return ()
  | some email =>
      match truthy payload.chain with
      | some chainId => revokeChainForUser settings email chainId
      -- A token without a chain has an unknown lineage.
      | none => discard (revokeAllTokensForUser email)

/-- The row of a session is given the tokens that were just minted for it. -/
def recorded (newRefresh : Token) (record : String → Nat → Request Unit) : Request Unit := do
  match ← decodePayload newRefresh with
  | none => return ()
  | some payload =>
      match truthy payload.jti, payload.exp.filter (· ≠ 0) with
      | some jti, some exp => record jti exp
      | _, _ => return ()

structure TokenPair where
  accessToken : Token
  refreshToken : Token
  deriving DecidableEq

/-- The two are minted one after the other; a login lets them interleave. -/
def createTokens (settings : Settings) (email chainId : String) : Request TokenPair := do
  let accessToken ← createAccessToken settings email chainId
  let refreshToken ← createRefreshToken settings email chainId
  return { accessToken, refreshToken }

/-- What follows the redeeming of a refresh token. -/
def rotateTokens (settings : Settings) (payload : Token) (jti : String) :
    Request (Option TokenPair) :=
  match truthy payload.email, truthy payload.chain with
  | some email, some chainId => do
      let tokens ← createTokens settings email chainId
      recorded tokens.refreshToken fun newJti newExp =>
        rotateSession jti newJti chainId newExp (some email)
      return some tokens
  | _, _ => return none

def refreshTokens (settings : Settings) (refreshToken : Token) : Request (Option TokenPair) :=
  caught (do
    match ← decodePayload refreshToken with
    | none => return none
    | some payload =>
        match truthy payload.jti with
        | none => return none
        | some jti =>
            if payload.type ≠ some .refresh then return none
            else if ← isCurrentVersion payload then
              if ← claimJtiForRotation jti payload.exp then rotateTokens settings payload jti
              else
                handleReuseDetected settings payload
                return none
            else return none) none

/-- `passwordMatches` is what Argon2 makes of the password and a hash; none is the
dummy hash. -/
def login (settings : Settings) (email password : String)
    (passwordMatches : Option String → Bool) : Request (Option TokenPair) :=
  caught (do
    if email = "" ∨ password = "" then return none
    match ← getByEmail email with
    | none => return none
    | some user =>
        if user.isVerified ∧ user.isActive ∧ passwordMatches (truthy user.hashedPassword) then do
          let chainId ← issue Command.uuid4
          let tokens ← createTokens settings email chainId
          recorded tokens.refreshToken fun jti exp =>
            createSession user.id jti chainId exp (some email)
          return some tokens
        else return none) none

/-! The handlers. -/

/-- The detail is left open where it is "Database error" or "Internal server
error", by the class of what a server raised. -/
structure HttpException where
  status : Nat
  detail : Option String
  deriving DecidableEq

def serverError : HttpException := ⟨500, none⟩

/-- Who is calling: the account of the access token. -/
def getCurrentUser (accessToken : Option Token) : Request (Except HttpException String) :=
  caught (do
    match accessToken with
    | none => return .error ⟨401, some "No access token provided"⟩
    | some accessToken =>
        match ← verifyToken accessToken (some .access) with
        | none => return .error ⟨401, some "Invalid or expired token"⟩
        | some payload =>
            match truthy payload.email with
            | none => return .error ⟨401, some "Invalid token payload"⟩
            | some email =>
                match ← getByEmail email with
                | none => return .error ⟨401, some "User not found"⟩
                | some user =>
                    if user.isActive then do
                      getActivePolicies email
                      return .ok email
                    else return .error ⟨403, some "Account is deactivated"⟩) (.error serverError)

/-- The claims of a cookie that holds a refresh token. -/
def refreshClaims (refreshToken : Option Token) : Request (Option Token) := do
  match refreshToken with
  | none => return none
  | some refreshToken =>
      let payload ← decodePayload refreshToken
      return payload.filter fun payload => payload.type = some .refresh

def sessionNotFound : HttpException := ⟨404, some "Session not found"⟩

def revokeSession (settings : Settings) (accessToken refreshToken : Option Token)
    (sessionId : Int) : Request (Except HttpException Unit) :=
  caught (do
    match ← getCurrentUser accessToken with
    | .error error => return .error error
    | .ok email =>
        match ← getByEmail email with
        | none => return .error sessionNotFound
        | some user =>
            match ← getById sessionId with
            | none => return .error sessionNotFound
            | some target =>
                if target.userId ≠ user.id ∨ target.revokedAt ≠ none then
                  return .error sessionNotFound
                else
                  let current := (← refreshClaims refreshToken).bind (truthy ·.chain)
                  if current ≠ none ∧ target.chainId = current then
                    return .error ⟨400, some "Use Logout to end your current session"⟩
                  else
                    match ← revokeOneSession settings email sessionId with
                    | none => return .error sessionNotFound
                    | some _ => return .ok ()) (.error serverError)

def handleLogout (settings : Settings) (refreshToken : Option Token) : Request Unit :=
  caught (do
    let payload ← refreshClaims refreshToken
    revokeSessionOnLogout settings (payload.bind Token.jti) (payload.bind Token.email)) ()

def handleLogoutAll (refreshToken : Option Token) : Request Unit :=
  caught (do
    match (← refreshClaims refreshToken).bind (truthy ·.email) with
    | none => return ()
    | some email => discard (revokeAllTokensForUser email)) ()

/-- The end of `update_my_profile` after the password of the caller was changed:
every session ends, but the one that knew the password gets new tokens. -/
def reissue (settings : Settings) (email : String) (accessToken : Option Token) :
    Request (Option TokenPair) := do
  let payload ← match accessToken with
    | none => pure none
    | some accessToken => decodePayload accessToken
  match payload.bind (truthy ·.chain) with
  | some chainId =>
      discard (revokeAllTokensForUserExceptChain email chainId)
      let tokens ← createTokens settings email chainId
      recorded tokens.refreshToken fun jti exp =>
        rotateSessionByChain chainId jti exp (some email)
      return some tokens
  | none =>
      discard (revokeAllTokensForUser email)
      return none

/-- `changes` is what becomes of the update before that: the caller may, and the
current password was right. -/
def updateMyProfile (settings : Settings) (accessToken : Option Token) (changes : Bool) :
    Request (Option TokenPair) := do
  match ← getCurrentUser accessToken with
  | .error _ => return none
  | .ok email =>
      match ← getByEmail email with
      | none => return none
      | some _ => if changes then reissue settings email accessToken else return none

inductive Client where
  | authenticate (accessToken : Option Token)
  | login (email password : String) (passwordMatches : Option String → Bool)
  | refresh (refreshToken : Token)
  | logout (refreshToken : Option Token)
  | logoutAll (refreshToken : Option Token)
  | revokeSession (accessToken refreshToken : Option Token) (sessionId : Int)
  | updateMyProfile (accessToken : Option Token) (changes : Bool)
  /-- A password reset, or an administrator changing the password of the account,
  deactivating it or purging it. -/
  | endAllSessions (email : String)

/-- What a client gets out of it: who it is taken for, or tokens. -/
inductive Answer where
  | caller (email : String)
  | tokens (pair : TokenPair)
  | nothing
  deriving DecidableEq

def Answer.ofTokens : Option TokenPair → Answer
  | some pair => .tokens pair
  | none => .nothing

def Answer.ofCaller : Except HttpException String → Answer
  | .ok email => .caller email
  | .error _ => .nothing

def Client.run (settings : Settings) : Client → Request Answer
  | .authenticate accessToken => Answer.ofCaller <$> getCurrentUser accessToken
  | .login email password passwordMatches =>
      Answer.ofTokens <$> Sessions.login settings email password passwordMatches
  | .refresh refreshToken => Answer.ofTokens <$> refreshTokens settings refreshToken
  | .logout refreshToken => (fun _ => .nothing) <$> handleLogout settings refreshToken
  | .logoutAll refreshToken => (fun _ => .nothing) <$> handleLogoutAll refreshToken
  | .revokeSession accessToken refreshToken sessionId =>
      (fun _ => .nothing) <$> Sessions.revokeSession settings accessToken refreshToken sessionId
  | .updateMyProfile accessToken changes =>
      Answer.ofTokens <$> Sessions.updateMyProfile settings accessToken changes
  | .endAllSessions email => (fun _ => .nothing) <$> revokeAllTokensForUser email

end BalanceSheetAnalysis.Sessions

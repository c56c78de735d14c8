import BalanceSheetAnalysis.Sessions.Store

/-! Tokens are minted with the version of their account and of their chain, and
hold while both are what they were.  A refresh token is redeemed once. -/
namespace BalanceSheetAnalysis.Sessions
open Library Library.Raising
open RateLimiter (Interrupt truthy)

/-- `ACCESS_TOKEN_EXPIRE_MINUTES` and `REFRESH_TOKEN_EXPIRE_MINUTES`. -/
structure Settings where
  accessTokenExpireMinutes : Nat
  refreshTokenExpireMinutes : Nat

/-- A request of a client; an exception, or its cancellation, ends it. -/
abbrev Request (α : Type) := ExceptT Interrupt (Program Reply) α

/-- `except Exception`, which lets a cancellation through. -/
def caught {α : Type} (action : Request α) (fallback : α) : Request α :=
  tryCatch action fun
    | .exception => return fallback
    | .cancelledError => throw .cancelledError

def accountVersionKey (email : String) : String := "account_ver:" ++ email

def chainVersionKey (email chainId : String) : String :=
  "chain_ver:" ++ email ++ ":" ++ chainId

def revokedKey (jti : String) : String := "revoked:" ++ jti

def get (key : String) : Request (Option Value) := ExceptT.mk (Program.perform (Command.get key))

def exist (key : String) : Request Bool := ExceptT.mk (Program.perform (Command.exist key))

def setNx (key : String) (seconds : Nat) : Request Bool :=
  ExceptT.mk (Program.perform (Command.setNx key seconds))

def incr (key : String) : Request Nat := ExceptT.mk (Program.perform (Command.incr key))

def expire (key : String) (seconds : Nat) : Request Unit :=
  ExceptT.mk (Program.perform (Command.expire key seconds))

/-- `int(raw) if raw is not None else 0`. -/
def versionOf : Option Value → Request Nat
  | none => return 0
  | some (.number n) => return n
  | some .flag => throw .exception

def readVersion (key : String) : Request Nat := caught (get key >>= versionOf) 0

def getAccountVersion (email : String) : Request Nat := readVersion (accountVersionKey email)

def getChainVersion (email chainId : String) : Request Nat :=
  readVersion (chainVersionKey email chainId)

def createToken (type : TokenType) (expireMinutes : Nat) (email chainId : String) :
    Request Token := do
  let now ← issue Command.now
  let jti ← issue Command.uuid4
  let accountVer ← getAccountVersion email
  let chainVer ← getChainVersion email chainId
  let payload : Token :=
    { email := some email
      type := some type
      jti := some jti
      chain := some chainId
      accountVer := some accountVer
      chainVer := some chainVer
      -- Encoding drops what is less than a second.
      exp := some ((now + microseconds (expireMinutes * 60)) / microseconds 1) }
  issue (Command.encode payload)
  return payload

def createAccessToken (settings : Settings) (email chainId : String) : Request Token :=
  createToken .access settings.accessTokenExpireMinutes email chainId

def createRefreshToken (settings : Settings) (email chainId : String) : Request Token :=
  createToken .refresh settings.refreshTokenExpireMinutes email chainId

def decodePayload (token : Token) : Request (Option Token) := do
  return if ← issue (Command.decode token) then some token else none

def isTokenRevokedByJti (jti : Option String) : Request Bool :=
  match truthy jti with
  | none => return false
  | some jti => exist (revokedKey jti)

/-- A version the token does not carry is not compared. -/
def carries (ver : Option Nat) (current : Request Nat) : Request Bool :=
  match ver with
  | none => return true
  | some ver => return decide (ver = (← current))

def isCurrentVersion (payload : Token) : Request Bool :=
  match truthy payload.email with
  | none => return true
  | some email => do
      if ← carries payload.accountVer (getAccountVersion email) then
        match truthy payload.chain with
        | none => return true
        | some chainId => carries payload.chainVer (getChainVersion email chainId)
      else return false

def verifyToken (token : Token) (expectedType : Option TokenType) : Request (Option Token) :=
  caught (do
    match ← decodePayload token with
    | none => return none
    | some payload =>
        if ← isTokenRevokedByJti payload.jti then return none
        else if ← isCurrentVersion payload then
          if expectedType ≠ none ∧ payload.type ≠ expectedType then return none
          else return some payload
        else return none) none

def claimJtiForRotation (jti : String) (exp : Option Nat) : Request Bool :=
  caught (do
    match exp with
    | none => setNx (revokedKey jti) 1
    | some exp =>
        let now ← issue Command.now
        setNx (revokedKey jti) (max 1 ((microseconds exp - now) / microseconds 1))) false

def bumpAccountVersion (email : String) : Request Unit :=
  caught (do discard (incr (accountVersionKey email))) ()

def bumpChainVersion (settings : Settings) (email chainId : String) : Request Unit :=
  caught (do
    discard (incr (chainVersionKey email chainId))
    expire (chainVersionKey email chainId) (settings.refreshTokenExpireMinutes * 60)) ()

end BalanceSheetAnalysis.Sessions

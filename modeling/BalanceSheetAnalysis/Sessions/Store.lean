import Mathlib.Order.Monotone.Basic
import Mathlib.Order.Nat
import BalanceSheetAnalysis.RateLimiter.Service

/-! What login sessions are made of: signed tokens that the clients hold, version
counters and markers of redeemed tokens in Redis, and a mirror of the sessions in
Postgres.  Times are in microseconds, and one clock is read by all. -/
namespace BalanceSheetAnalysis.Sessions
open Library
open RateLimiter (Fate Interrupt)

inductive TokenType where
  | access
  | refresh
  | verify
  | reset
  deriving DecidableEq

/-- The claims of a token; signed, they are the token.  `exp` is in whole seconds. -/
structure Token where
  email : Option String
  type : Option TokenType
  jti : Option String
  chain : Option String
  accountVer : Option Nat
  chainVer : Option Nat
  exp : Option Nat
  deriving DecidableEq

def microseconds (seconds : Nat) : Nat := seconds * 1000000

/-- The signature is not all that is checked: a token past its `exp` is refused. -/
def Token.Unexpired (token : Token) (now : Nat) : Prop :=
  ∀ exp, token.exp = some exp → now < microseconds exp

instance (token : Token) (now : Nat) : Decidable (token.Unexpired now) :=
  decidable_of_iff (∀ exp ∈ token.exp, now < microseconds exp) Iff.rfl

/-- A counter, or the text that marks a token id as redeemed. -/
inductive Value where
  | number (n : Nat)
  | flag
  deriving DecidableEq

structure Entry where
  value : Value
  deadline : Option Nat
  deriving DecidableEq

def Entry.Live (entry : Entry) (now : Nat) : Prop :=
  ∀ deadline, entry.deadline = some deadline → now < deadline

instance (entry : Entry) (now : Nat) : Decidable (entry.Live now) :=
  decidable_of_iff (∀ deadline ∈ entry.deadline, now < deadline) Iff.rfl

structure UserSession where
  id : Int
  userId : Int
  currentJti : String
  chainId : Option String
  lastUsedAt : Nat
  expiresAt : Nat
  revokedAt : Option Nat
  deriving DecidableEq

/-- What a row of `users` says to a login. -/
structure User where
  id : Int
  hashedPassword : Option String
  isVerified : Bool
  isActive : Bool
  deriving DecidableEq

inductive SessionFilter where
  | id (sessionId : Int)
  | currentJti (jti : String)
  | activeChain (chainId : String)
  | activeUser (userId : Int)
  | activeUserExcept (userId : Int) (chainId : String)
  | liveUser (userId : Int) (now : Nat)
  deriving DecidableEq

def SessionFilter.selects : SessionFilter → UserSession → Bool
  | .id sessionId, row => row.id = sessionId
  | .currentJti jti, row => row.currentJti = jti
  | .activeChain chainId, row => row.chainId = some chainId ∧ row.revokedAt = none
  | .activeUser userId, row => row.userId = userId ∧ row.revokedAt = none
  -- In SQL a null chain differs from nothing.
  | .activeUserExcept userId chainId, row =>
      row.userId = userId ∧ row.revokedAt = none ∧ ∃ chain ∈ row.chainId, chain ≠ chainId
  | .liveUser userId now, row =>
      row.userId = userId ∧ row.revokedAt = none ∧ now < row.expiresAt

inductive SessionChange where
  | revoke (revokedAt : Nat)
  | rotate (newJti : String) (newExpiresAt lastUsedAt : Nat)
  deriving DecidableEq

def SessionChange.apply : SessionChange → UserSession → UserSession
  | .revoke revokedAt, row => { row with revokedAt := some revokedAt }
  | .rotate newJti newExpiresAt lastUsedAt, row =>
      { row with currentJti := newJti, expiresAt := newExpiresAt, lastUsedAt := lastUsedAt }

/-- What a request does to the world outside its process.  `encode` and `decode`
are here because a token is as good as its signature.  What a caller may do goes
into a response only, so of its policies only the reading is here. -/
inductive Command where
  | now
  | uuid4
  | encode (token : Token)
  | decode (token : Token)
  | get (key : String)
  | exist (key : String)
  | setNx (key : String) (seconds : Nat)
  | incr (key : String)
  | expire (key : String) (seconds : Nat)
  | publish (email : String)
  | getByEmail (email : String)
  | getActivePolicies (email : String)
  | select (filter : SessionFilter)
  | insert (userId : Int) (jti chainId : String) (expiresAt lastUsedAt : Nat)
  | update (filter : SessionFilter) (change : SessionChange)
  deriving DecidableEq

@[reducible] def Reply : Command → Type
  | .now => Nat
  | .uuid4 => String
  | .encode _ => Unit
  | .decode _ => Bool
  | .get _ => Except Interrupt (Option Value)
  | .exist _ => Except Interrupt Bool
  | .setNx _ _ => Except Interrupt Bool
  | .incr _ => Except Interrupt Nat
  | .expire _ _ => Except Interrupt Unit
  | .publish _ => Except Interrupt Unit
  | .getByEmail _ => Except Interrupt (Option User)
  | .getActivePolicies _ => Except Interrupt Unit
  | .select _ => Except Interrupt (List UserSession)
  | .insert _ _ _ _ _ => Except Interrupt Unit
  | .update _ _ => Except Interrupt Unit

/-- What the commands find outside, by the number of the command: the time, a
fresh id, the table of users, and whether a server answers. -/
structure Outside where
  clock : Nat → Nat
  monotone : Monotone clock
  hex : Nat → String
  distinct : Function.Injective hex
  users : Nat → String → Option User
  fates : Nat → Fate

structure Store where
  keys : String → Option Entry
  signed : List Token
  sessions : List UserSession
  sessionSequence : Int
  outside : Outside
  issued : Nat

namespace Store

def now (store : Store) : Nat := store.outside.clock store.issued

def fate (store : Store) : Fate := store.outside.fates store.issued

/-- A key whose deadline has come is not there. -/
def find (store : Store) (key : String) : Option Entry :=
  (store.keys key).filter fun entry => entry.Live store.now

def next (store : Store) : Store := { store with issued := store.issued + 1 }

/-- A server is asked; it does its part, or fails before or after it. -/
def put (store : Store) (key : String) (entry : Option Entry) : Store :=
  { store.next with
    keys := if store.fate.takesEffect then Function.update store.keys key entry else store.keys }

/-- `current_jti` is unique. -/
def commit (store : Store) (sessions : List UserSession) : Except Interrupt Unit × Store :=
  if (sessions.map UserSession.currentJti).Nodup then
    (store.fate.answer (), { store.next with
      sessions := if store.fate.takesEffect then sessions else store.sessions
      sessionSequence := store.sessionSequence + 1 })
  else (.error .exception, store.next)

/-- INCR starts a missing counter at 0 and leaves the expiry of the key alone;
what is no number it refuses. -/
def incremented : Option Entry → Option Entry
  | none => some ⟨.number 1, none⟩
  | some ⟨.number n, deadline⟩ => some ⟨.number (n + 1), deadline⟩
  | some ⟨.flag, _⟩ => none

def exec : (op : Command) → (store : Store) → Reply op × Store
  | .now, store => (store.now, store.next)
  | .uuid4, store => (store.outside.hex store.issued, store.next)
  | .encode token, store => ((), { store.next with signed := token :: store.signed })
  | .decode token, store =>
      (decide (token ∈ store.signed ∧ token.Unexpired store.now), store.next)
  | .get key, store => (store.fate.answer ((store.find key).map Entry.value), store.next)
  | .exist key, store => (store.fate.answer (store.find key).isSome, store.next)
  | .setNx key seconds, store =>
      match store.find key with
      | some _ => (store.fate.answer false, store.next)
      | none => (store.fate.answer true,
          store.put key (some ⟨.flag, some (store.now + microseconds seconds)⟩))
  | .incr key, store =>
      match incremented (store.find key) with
      | some ⟨.number n, deadline⟩ =>
          (store.fate.answer n, store.put key (some ⟨.number n, deadline⟩))
      | _ => (.error .exception, store.next)
  | .expire key seconds, store =>
      match store.find key with
      | some entry => (store.fate.answer (),
          store.put key (some { entry with deadline := some (store.now + microseconds seconds) }))
      | none => (store.fate.answer (), store.next)
  | .publish _, store => (store.fate.answer (), store.next)
  | .getByEmail email, store =>
      (store.fate.answer (store.outside.users store.issued email), store.next)
  | .getActivePolicies _, store => (store.fate.answer (), store.next)
  | .select filter, store => (store.fate.answer (store.sessions.filter filter.selects), store.next)
  | .insert userId jti chainId expiresAt lastUsedAt, store =>
      store.commit (store.sessions ++
        [⟨store.sessionSequence, userId, jti, some chainId, lastUsedAt, expiresAt, none⟩])
  | .update filter change, store =>
      store.commit
        (store.sessions.map fun row => if filter.selects row then change.apply row else row)

end Store
end BalanceSheetAnalysis.Sessions

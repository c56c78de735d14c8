import BalanceSheetAnalysis.Sessions.Lineage

/-! The counter of a chain lapses some time after it was bumped, and would then
read 0 again.  By that time every token of the chain has expired. -/
namespace BalanceSheetAnalysis.Sessions
open Library
open RateLimiter (Interrupt truthy)

variable {ι : Type} [DecidableEq ι]

namespace Store

/-- How long a counter lasts that is bumped now. -/
def lapse (settings : Settings) (store : Store) : Nat :=
  store.now + microseconds (settings.refreshTokenExpireMinutes * 60)

/-- The tokens of the chain were minted when it had no counter, and expire before
one that is bumped now would lapse. -/
def Unrevoked (settings : Settings) (email chainId : String) (store : Store) : Prop :=
  ∀ token ∈ store.signed, OfLine email (· = some chainId) token → token.chainVer = some 0 ∧
    ∃ exp, token.exp = some exp ∧ microseconds exp ≤ store.lapse settings

/-- Until it lapses, the counter stands above 0. -/
def Bumped (key : String) (lapse : Nat) (store : Store) : Prop :=
  store.now < lapse → ∃ n deadline, store.keys key = some ⟨.number (n + 1), deadline⟩ ∧
    ∀ time, deadline = some time → lapse ≤ time

theorem Bumped.seen {key : String} {lapse : Nat} {store : Store} (bumped : store.Bumped key lapse)
    (early : store.now < lapse) (answered : store.fate = .delivered) :
    versionSeen (Store.exec (.get key) store).1 ≠ 0 := by
  obtain ⟨n, deadline, stored, lasts⟩ := bumped early
  have found : store.find key = some ⟨.number (n + 1), deadline⟩ :=
    find_eq_some.mpr ⟨stored, fun time isTime => early.trans_le (lasts time isTime)⟩
  simp [Store.exec, found, answered, RateLimiter.Fate.answer, versionSeen]

theorem bumped_of_incr {key : String} {store : Store} (lapse : Nat)
    (effective : store.fate.takesEffect = true) (absent : store.keys key = none) :
    (Store.exec (.incr key) store).2.Bumped key lapse := by
  intro _
  have created : incremented (store.find key) = some ⟨.number 1, none⟩ := by
    simp [find, absent, incremented]
  refine ⟨0, none, exec_incr_keys effective created, ?_⟩
  intro time isTime
  cases isTime

theorem Bumped.step {settings : Settings} {client : Client} {told : History} {op : Command}
    {store : Store} {email chainId : String} {lapse : Nat}
    (bumped : store.Bumped (chainVersionKey email chainId) lapse)
    (permitted : Permitted settings client told op) (since : lapse ≤ store.lapse settings) :
    (Store.exec op store).2.Bumped (chainVersionKey email chainId) lapse := by
  intro early
  have early' := (now_le_exec op store).trans_lt early
  obtain ⟨n, deadline, stored, lasts⟩ := bumped early'
  have found : store.find (chainVersionKey email chainId) = some ⟨.number (n + 1), deadline⟩ :=
    find_eq_some.mpr ⟨stored, fun time isTime => early'.trans_le (lasts time isTime)⟩
  rcases key_of_exec op store (chainVersionKey email chainId) with
    same | ⟨seconds, rfl, _⟩ | ⟨m, deadline', rfl, raised, set⟩ | ⟨seconds, entry, rfl, has, set⟩
  · exact ⟨n, deadline, same.trans stored, lasts⟩
  · obtain ⟨_, jti, _, _, isKey, _⟩ := permitted
    exact absurd isKey (chainVersionKey_ne_revokedKey email chainId jti)
  · rw [found] at raised
    cases raised
    exact ⟨n + 1, deadline, set, lasts⟩
  · cases found.symm.trans has
    obtain ⟨rfl, _⟩ := permitted
    refine ⟨n, _, set, ?_⟩
    rintro time ⟨⟩
    exact since

end Store

section Run
variable {settings : Settings} {clients : ι → Client} {requests : Requests ι}
  {schedule : List ι} {email chainId : String}

/-- A counter is made by a bump. -/
theorem Started.noCounter (started : Started settings clients requests)
    (absent : requests.state.keys (chainVersionKey email chainId) = none)
    (unbumped : ∀ c ∈ requests.trace Store.exec schedule,
      c.op ≠ .incr (chainVersionKey email chainId)) :
    (∀ c ∈ requests.trace Store.exec schedule,
      c.before.keys (chainVersionKey email chainId) = none) ∧
      (requests.runSchedule Store.exec schedule).state.keys (chainVersionKey email chainId) =
        none := by
  apply Pool.holds_throughout
    (fun store : Store => store.keys (chainVersionKey email chainId) = none)
    schedule absent
  intro before c after split absent
  have permitted := started.permitted split
  rcases Store.key_of_exec c.op c.before (chainVersionKey email chainId) with
    same | ⟨_, isSet, _⟩ | ⟨_, _, isIncr, _⟩ | ⟨_, entry, _, found, _⟩
  · exact same.trans absent
  · rw [isSet] at permitted
    obtain ⟨_, jti, _, _, isKey, _⟩ := permitted
    exact absurd isKey (chainVersionKey_ne_revokedKey email chainId jti)
  · exact absurd isIncr (unbumped c (mem_of_split split))
  · rw [(Store.find_eq_some.mp found).1] at absent
    cases absent

/-- The life of a token is that of a refresh token at most. -/
theorem expires_of_minted {client : Client} {told : History} {token : Token}
    {email chainId : String} (minted : Minted settings client told token email chainId)
    (shorter : settings.accessTokenExpireMinutes ≤ settings.refreshTokenExpireMinutes) :
    ∃ now exp, Program.Told told .now now ∧ token.exp = some exp ∧
      microseconds exp ≤ now + microseconds (settings.refreshTokenExpireMinutes * 60) := by
  obtain ⟨now, type, isType, told, isExp⟩ := minted.expires
  refine ⟨now, _, told, isExp, ?_⟩
  have within : settings.lifetime type ≤ settings.refreshTokenExpireMinutes := by
    cases type with
    | access => exact shorter
    | _ => exact le_rfl
  simp only [microseconds]
  omega

theorem Started.unrevoked (started : Started settings clients requests)
    (shorter : settings.accessTokenExpireMinutes ≤ settings.refreshTokenExpireMinutes)
    (absent : requests.state.keys (chainVersionKey email chainId) = none)
    (unrevoked : requests.state.Unrevoked settings email chainId)
    (unbumped : ∀ c ∈ requests.trace Store.exec schedule,
      c.op ≠ .incr (chainVersionKey email chainId)) :
    (requests.runSchedule Store.exec schedule).state.Unrevoked settings email chainId := by
  have noCounter := (started.noCounter absent unbumped).1
  refine (Pool.holds_throughout (Store.Unrevoked settings email chainId) schedule unrevoked
    fun before c after split unrevoked token signed ofLine => ?_).2
  have later : c.before.lapse settings ≤ (Store.exec c.op c.before).2.lapse settings :=
    Nat.add_le_add_right (Store.now_le_exec c.op c.before) _
  rcases mem_signed_of_exec signed with old | isEncode
  · obtain ⟨isVer, exp, isExp, le⟩ := unrevoked token old ofLine
    exact ⟨isVer, exp, isExp, le.trans later⟩
  · have permitted := started.permitted split
    rw [isEncode] at permitted
    obtain ⟨owner, chain, minted⟩ := permitted
    have isOwner := ofLine.2.1
    have isChain := ofLine.2.2
    rw [minted.isEmail] at isOwner
    rw [minted.isChain] at isChain
    cases truthy_some isOwner
    cases truthy_some isChain
    constructor
    · obtain ⟨ver, isVer, seen⟩ := minted.chainVer
      obtain ⟨found, earlier, isSeen⟩ := event_of_seen seen
      have inside : ⟨c.thread, .get (chainVersionKey email chainId), found⟩ ∈
          requests.trace Store.exec schedule := split ▸ List.mem_append_left _ earlier
      have absent : found.keys (chainVersionKey email chainId) = none := noCounter _ inside
      rw [isVer, ← isSeen]
      cases fate : found.fate <;>
        simp [Store.exec, Store.find, absent, fate, RateLimiter.Fate.answer, versionSeen]
    · obtain ⟨now, exp, told, isExp, le⟩ := expires_of_minted minted shorter
      refine ⟨exp, isExp, le.trans (le_trans ?_ later)⟩
      exact Nat.add_le_add_right (told_now_le split told) _

theorem issued_since {before after : List (SessionEvent ι)} {mark : SessionEvent ι}
    (split : requests.trace Store.exec schedule = before ++ mark :: after) {d : SessionEvent ι}
    (member : d ∈ after) :
    d.before.outside = mark.before.outside ∧ mark.before.issued < d.before.issued := by
  have since := Pool.holds_onward (fun store =>
      store.outside = mark.before.outside ∧ mark.before.issued < store.issued) split
    ⟨Store.exec_outside _ _, by rw [Store.exec_issued]; exact Nat.lt_succ_self _⟩
    fun _ c _ _ reached => by
      rw [Store.exec_outside, Store.exec_issued]
      exact ⟨reached.1, reached.2.trans (Nat.lt_succ_self _)⟩
  exact since.1 d member

/-- From a bump on the counter stands, until it lapses. -/
theorem Started.bumped_since (started : Started settings clients requests)
    {before after : List (SessionEvent ι)} {bump : SessionEvent ι}
    (split : requests.trace Store.exec schedule = before ++ bump :: after)
    (bumps : bump.op = .incr (chainVersionKey email chainId))
    (effective : bump.before.fate.takesEffect = true)
    (absent : bump.before.keys (chainVersionKey email chainId) = none) {d : SessionEvent ι}
    (member : d ∈ after) :
    d.before.Bumped (chainVersionKey email chainId) (bump.before.lapse settings) := by
  let good (store : Store) : Prop := bump.before.now ≤ store.now ∧
    store.Bumped (chainVersionKey email chainId) (bump.before.lapse settings)
  have start : good (Store.exec bump.op bump.before).2 := by
    rw [bumps]
    exact ⟨Store.now_le_exec _ _, Store.bumped_of_incr _ effective absent⟩
  have keeps (past : List (SessionEvent ι)) (c : SessionEvent ι) (rest : List (SessionEvent ι))
      (inside : requests.trace Store.exec schedule = past ++ c :: rest)
      (reached : good c.before) : good (Store.exec c.op c.before).2 :=
    ⟨reached.1.trans (Store.now_le_exec _ _),
      reached.2.step (started.permitted inside) (Nat.add_le_add_right reached.1 _)⟩
  exact ((Pool.holds_onward good split start keeps).1 d member).2

end Run

/-- A session that was ended by itself, by logging out, from the list of sessions
or because one of its tokens was used twice, stays ended: no request that began
after its version was bumped gets anything in the name of a token of it, even when
the counter is gone.  No request but the bumping one is under way at the bump, none
is at the time the counter lapses, and Redis answers whoever reads the counter. -/
theorem endedSession_staysEnded {settings : Settings} {clients : ι → Client}
    {requests : Requests ι} (started : Started settings clients requests)
    (shorter : settings.accessTokenExpireMinutes ≤ settings.refreshTokenExpireMinutes)
    {email chainId : String}
    (absent : requests.state.keys (chainVersionKey email chainId) = none)
    (unrevoked : requests.state.Unrevoked settings email chainId)
    (schedule : List ι) {before after : List (SessionEvent ι)} {bump : SessionEvent ι}
    (split : requests.trace Store.exec schedule = before ++ bump :: after)
    (bumps : bump.op = .incr (chainVersionKey email chainId))
    (effective : bump.before.fate.takesEffect = true)
    (first : ∀ c ∈ before, c.op ≠ .incr (chainVersionKey email chainId))
    (drawn : ∃ command < bump.before.issued, bump.before.outside.hex command = chainId)
    (settled : ∀ d ∈ after, d.thread ≠ bump.thread → ∀ c ∈ before, c.thread ≠ d.thread)
    (prompt : ∀ c ∈ after, ∀ d ∈ after, c.thread = d.thread →
      c.before.now < bump.before.lapse settings → d.before.now < bump.before.lapse settings)
    (read : ∀ c ∈ after, c.op = .get (chainVersionKey email chainId) →
      c.before.fate = .delivered)
    {i : ι} (later : Later before bump i) {token : Token} (presents : (clients i).Presents token)
    (isEmail : truthy token.email = some email) (isChain : truthy token.chain = some chainId)
    {answer : Answer}
    (answers : answerOf (requests.runSchedule Store.exec schedule) i = some answer) :
    answer = .nothing := by
  by_contra something
  obtain ⟨honoured, ofSession⟩ := presents.honoured (started.earned answers) something
  obtain ⟨upTo, _, _, _, isBefore, _, found⟩ := Pool.trace_split split
  have unbumped := (started.noCounter absent (isBefore ▸ first)).2
  have unminted := started.unrevoked shorter absent unrevoked (isBefore ▸ first)
  rw [found] at unbumped unminted
  have refused (mid rest : List (SessionEvent ι)) (i : ι) (token : Token)
      (isAfter : after = mid ++ rest) (isLater : Later before bump i)
      (ofLine : OfLine email (· = some chainId) token) (isVer : token.chainVer = some 0)
      (expires : ∃ exp, token.exp = some exp ∧ microseconds exp ≤ bump.before.lapse settings)
      (stillHonoured : Honoured (Pool.historyOf Store.exec (before ++ bump :: mid) i) token) :
      False := by
    have since {d : SessionEvent ι} (own : d.thread = i) (inside : d ∈ before ++ bump :: mid) :
        d ∈ after := isAfter ▸ List.mem_append_left _ (isLater.mem own inside)
    obtain ⟨decoding, isDecoding, valid⟩ := Pool.event_of_told stillHonoured.decoded
    obtain ⟨exp, isExp, le⟩ := expires
    have decodedEarly : decoding.now < bump.before.lapse settings :=
      ((decodes valid).2 exp isExp).trans_le le
    have seen := (stillHonoured.checked email ofLine.2.1).2 chainId 0 ofLine.2.2 isVer
    obtain ⟨reading, isReading, isSeen⟩ := event_of_seen seen
    have readEarly := prompt _ (since rfl isDecoding) _ (since rfl isReading) rfl decodedEarly
    have counter := started.bumped_since split bumps effective unbumped (since rfl isReading)
    exact counter.seen readEarly (read _ (since rfl isReading) rfl) isSeen
  have heirs := started.lineage split bumps settled unminted
    (fun mid rest i token isAfter isLater ofLine dead =>
      refused mid rest i token isAfter isLater ofLine dead.1 dead.2)
    i token later ⟨ofSession, isEmail, isChain⟩ honoured
  rcases heirs with ⟨thread, drawing, _, inside, isDrawn⟩ | ⟨own, changes, isClient, _⟩
  · obtain ⟨command, earlier, isId⟩ := drawn
    obtain ⟨sameOutside, since⟩ := issued_since split inside
    have later : bump.before.issued < drawing.issued := since
    have isChain := (Option.filter_eq_some_iff.mp isChain).1
    have sameId : bump.before.outside.hex command = bump.before.outside.hex drawing.issued := by
      rw [isId, ← sameOutside]
      exact Option.some.inj (isChain.symm.trans isDrawn)
    exact absurd (bump.before.outside.distinct sameId) (by omega)
  · have permitted := started.permitted split
    rw [bumps, isClient] at permitted
    obtain ⟨owner, _, isAccount | ⟨ends, _⟩⟩ := permitted
    · exact accountVersionKey_ne_chainVersionKey owner email chainId isAccount.symm
    · exact ends

/-! Ada logs out. -/

def adaLeaves : Nat → Client
  | 0 => .logout (some adaRefresh)
  | _ => .authenticate (some adaAccess)

theorem adaLeaves_inside : 2 < (servedIn adaLeaves).length := by decide +kernel

theorem endedSession_staysEnded_ada :
    (answerOf ((serving adaLeaves).runSchedule Store.exec inTurn) 1).getD (.caller "ada") =
      .nothing := by
  have split := split_at _ 2 adaLeaves_inside
  have bumps : ((servedIn adaLeaves).get ⟨2, adaLeaves_inside⟩).op =
      .incr (chainVersionKey "ada" (zeros 1)) := by decide +kernel
  have later : Later ((servedIn adaLeaves).take 2)
      ((servedIn adaLeaves).get ⟨2, adaLeaves_inside⟩) 1 :=
    ⟨by decide +kernel, by decide +kernel⟩
  have unrevoked : adaStore.Unrevoked ⟨15, 1440⟩ "ada" (zeros 1) := by
    intro token signed _
    have known : ∀ token ∈ adaStore.signed, token.chainVer = some 0 ∧
        ∃ exp ∈ token.exp, microseconds exp ≤ adaStore.lapse ⟨15, 1440⟩ := by decide +kernel
    exact known token signed
  exact endedSession_staysEnded (serving_started adaLeaves) (by decide) rfl unrevoked inTurn split
    bumps (by decide +kernel) (by decide +kernel) ⟨1, by decide +kernel, by decide +kernel⟩
    (by decide +kernel) (by decide +kernel) (by decide +kernel) later (.inl rfl) (by decide)
    (by decide) (by decide +kernel)

end BalanceSheetAnalysis.Sessions

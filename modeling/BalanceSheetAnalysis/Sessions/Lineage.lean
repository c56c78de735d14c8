import BalanceSheetAnalysis.Sessions.Revocation

/-! Whose tokens come from whose.  A request mints tokens only for the chain of a
token it honoured, so a line of tokens that is refused since some event has no
heirs, but for requests that were under way at that event. -/
namespace BalanceSheetAnalysis.Sessions
open Library
open RateLimiter (Interrupt truthy)

variable {ι : Type} [DecidableEq ι]

/-- The tokens of the sessions of an account, of one chain or of any. -/
def OfLine (email : String) (line : Option String → Prop) (token : Token) : Prop :=
  token.OfSession ∧ truthy token.email = some email ∧ line (truthy token.chain)

/-- A login to the account drew the chain of the token in this stretch of the run. -/
def Begun (clients : ι → Client) (email : String) (events : List (SessionEvent ι))
    (token : Token) : Prop :=
  ∃ i found, (∃ password passwordMatches, clients i = .login email password passwordMatches) ∧
    (⟨i, .uuid4, found⟩ : SessionEvent ι) ∈ events ∧
    token.chain = some (Store.exec .uuid4 found).1

/-- The token is of the session whose password was changed by the client. -/
def Exempt (client : Client) (token : Token) : Prop :=
  ∃ own changes, client = .updateMyProfile (some own) changes ∧
    truthy token.chain = truthy own.chain

omit [DecidableEq ι] in
theorem Begun.mono {clients : ι → Client} {email : String}
    {events events' : List (SessionEvent ι)} {token : Token}
    (begun : Begun clients email events token) (subset : events ⊆ events') :
    Begun clients email events' token := by
  obtain ⟨i, found, isLogin, member, isChain⟩ := begun
  exact ⟨i, found, isLogin, subset member, isChain⟩

section Run
variable {settings : Settings} {clients : ι → Client} {requests : Requests ι}
  {schedule : List ι} {before after : List (SessionEvent ι)} {mark : SessionEvent ι}

/-- The thread of a request that began after the event. -/
def Later (before : List (SessionEvent ι)) (mark : SessionEvent ι) (i : ι) : Prop :=
  i ≠ mark.thread ∧ ∀ c ∈ before, c.thread ≠ i

omit [DecidableEq ι] in
theorem Later.mem {i : ι} (later : Later before mark i) {mid : List (SessionEvent ι)}
    {d : SessionEvent ι} (own : d.thread = i) (inside : d ∈ before ++ mark :: mid) : d ∈ mid := by
  rcases List.mem_append.mp inside with early | here
  · exact absurd own (later.2 d early)
  rcases List.mem_cons.mp here with rfl | since
  · exact absurd own (Ne.symm later.1)
  · exact since

/-- A request that ended sessions mints tokens only if it changed a password. -/
theorem Started.minting_after_ending (started : Started settings clients requests)
    {mid rest : List (SessionEvent ι)} {d : SessionEvent ι} {key : String}
    (split : requests.trace Store.exec schedule = before ++ mark :: (mid ++ d :: rest))
    (ends : mark.op = .incr key) (same : d.thread = mark.thread) {token : Token}
    (mints : d.op = .encode token) {email chainId : String}
    (minted : Minted settings (clients d.thread)
      (Pool.historyOf Store.exec (before ++ mark :: mid) d.thread) token email chainId) :
    ∃ own changes, clients mark.thread = .updateMyProfile (some own) changes ∧
      truthy own.chain = some chainId := by
  have reached : ∃ owner, (clients mark.thread).reaches
      (Pool.historyOf Store.exec before mark.thread) owner := by
    have permitted := started.permitted split
    rw [ends] at permitted
    exact permitted.imp fun _ => And.left
  rw [same] at minted
  rcases minted.entitled with ⟨_, _, isLogin, _⟩ | ⟨own, continues, _, _, _, isChain⟩
  · obtain ⟨owner, reaches⟩ := reached
    rw [isLogin] at reaches
    rcases reaches with ⟨⟨⟩⟩ | ⟨_, ⟨⟩, _⟩
  cases isClient : clients mark.thread with
  | updateMyProfile accessToken changes =>
      rw [isClient] at continues
      obtain rfl : accessToken = some own := continues
      exact ⟨own, changes, rfl, isChain⟩
  | refresh refreshToken =>
      have never : Program.Obeys
          (fun told op => clients d.thread = .refresh refreshToken → IsEncode op →
            ∀ entry ∈ told, ¬IsIncr entry.1) (fun _ _ => True) [] (requests.threads d.thread) := by
        rw [started d.thread, same, isClient]
        exact (refresh_never settings refreshToken).mono (fun _ _ never _ => never)
          fun _ _ => id
      have others (i : ι) : Program.Obeys
          (fun told op => i = d.thread → IsEncode op → ∀ entry ∈ told, ¬IsIncr entry.1)
          (fun _ _ => True) [] (requests.threads i) := by
        by_cases own : i = d.thread
        · rw [own]
          exact never.mono (fun _ _ holds _ => holds (same ▸ isClient)) fun _ _ => id
        · apply Program.Obeys.mono (started.obeys i)
          · exact fun _ _ _ isThread => absurd isThread own
          · exact fun _ _ _ => trivial
      rw [← List.cons_append, ← List.append_assoc] at split
      have clean := Pool.allowed_of_event others split rfl (by rw [mints]; trivial)
      have told : (⟨mark.op, (Store.exec mark.op mark.before).1⟩ : Sigma Reply) ∈
          Pool.historyOf Store.exec (before ++ mark :: mid) mark.thread :=
        Pool.told_of_event (by simp)
      rw [← same] at told
      exact absurd (by rw [ends]; trivial) (clean _ told)
  | _ =>
      rw [isClient] at continues
      exact continues.elim

/-- The line has no heirs. -/
theorem Started.lineage (started : Started settings clients requests) {key : String}
    (split : requests.trace Store.exec schedule = before ++ mark :: after)
    (ends : mark.op = .incr key)
    (settled : ∀ d ∈ after, d.thread ≠ mark.thread → ∀ c ∈ before, c.thread ≠ d.thread)
    {email : String} {line : Option String → Prop} {dead : Token → Prop}
    (old : ∀ token ∈ mark.before.signed, OfLine email line token → dead token)
    (refused : ∀ mid rest i token, after = mid ++ rest → Later before mark i →
      OfLine email line token → dead token →
      ¬Honoured (Pool.historyOf Store.exec (before ++ mark :: mid) i) token) :
    ∀ i token, Later before mark i → OfLine email line token →
      Honoured (Pool.historyOf Store.exec (requests.trace Store.exec schedule) i) token →
      Begun clients email after token ∨ Exempt (clients mark.thread) token := by
  have since := Pool.holds_since (fun mid (store : Store) => ∀ token ∈ store.signed,
      OfLine email line token →
        dead token ∨ Begun clients email mid token ∨ Exempt (clients mark.thread) token) split
    (fun token signed ofLine => .inl (old token (by
      rw [Store.exec_signed, ends] at signed
      exact signed) ofLine))
    fun mid d rest isAfter heirs token signed ofLine => by
      have wider : mid ⊆ mid ++ [d] := List.subset_append_left _ _
      have keep (same : dead token ∨ Begun clients email mid token ∨
          Exempt (clients mark.thread) token) : dead token ∨
            Begun clients email (mid ++ [d]) token ∨ Exempt (clients mark.thread) token :=
        same.imp id (Or.imp (Begun.mono · wider) id)
      rcases mem_signed_of_exec signed with before' | mints
      · exact keep (heirs token before' ofLine)
      have inside : requests.trace Store.exec schedule = (before ++ mark :: mid) ++ d :: rest := by
        rw [split, isAfter, List.append_assoc, List.cons_append]
      have permitted := started.permitted inside
      rw [mints] at permitted
      obtain ⟨owner, chainId, minted⟩ := permitted
      have isOwner := ofLine.2.1
      rw [minted.isEmail] at isOwner
      cases truthy_some isOwner
      by_cases own : d.thread = mark.thread
      · obtain ⟨token', changes, isClient, isChain⟩ :=
          started.minting_after_ending (isAfter ▸ split) ends own mints minted
        refine .inr (.inr ⟨token', changes, isClient, ?_⟩)
        rw [minted.isChain, isChain, truthy_of_truthy isChain]
      · have later : Later before mark d.thread :=
          ⟨own, settled d (isAfter ▸ by simp) own⟩
        rcases minted.entitled with ⟨password, passwordMatches, isLogin, fresh⟩ |
          ⟨parent, _, honoured, ofSession, isEmail, isChain⟩
        · obtain ⟨found, member, isId⟩ := Pool.event_of_told fresh
          refine .inr (.inl ⟨d.thread, found, ⟨password, passwordMatches, isLogin⟩, ?_,
            minted.isChain.trans (congrArg some isId)⟩)
          exact wider (later.mem rfl member)
        · have sameChain : token.chain = parent.chain :=
            minted.isChain.trans (Option.filter_eq_some_iff.mp isChain).1.symm
          have parentOfLine : OfLine email line parent :=
            ⟨ofSession, isEmail, sameChain ▸ ofLine.2.2⟩
          have parentSigned : parent ∈ d.before.signed := by
            obtain ⟨found, member, valid⟩ := Pool.event_of_told honoured.decoded
            obtain ⟨first, last, isStretch⟩ := List.append_of_mem member
            rw [isStretch, List.append_assoc, List.cons_append] at inside
            exact (signed_subset_since inside).1 d (by simp) (decodes valid).1
          rcases heirs parent parentSigned parentOfLine with isDead | begun | exempt
          · exact absurd honoured (refused mid _ _ _ isAfter later parentOfLine isDead)
          · apply keep
            obtain ⟨i, found, isLogin, member, isBegun⟩ := begun
            exact .inr (.inl ⟨i, found, isLogin, member, sameChain.trans isBegun⟩)
          · obtain ⟨token', changes, isClient, isExempt⟩ := exempt
            exact .inr (.inr ⟨token', changes, isClient, sameChain ▸ isExempt⟩)
  intro i token later ofLine honoured
  have signed : token ∈ (requests.runSchedule Store.exec schedule).state.signed := by
    obtain ⟨found, member, valid⟩ := Pool.event_of_told honoured.decoded
    obtain ⟨first, last, inside⟩ := List.append_of_mem member
    exact (signed_subset_since inside).2 (decodes valid).1
  refine (since.2 token signed ofLine).resolve_left fun isDead => ?_
  rw [split] at honoured
  exact refused after [] i token (List.append_nil _).symm later ofLine isDead honoured

end Run

/-- Logging out everywhere: no request that began after the version of an account
was bumped gets anything in the name of a token of the account, unless a login to
the account began the session of the token after the bump, or it is the one that
changed the password.  No request but the bumping one is under way at the bump, and
Redis answers whoever reads the version of the account after it. -/
theorem loggedOut_everywhere {settings : Settings} {clients : ι → Client}
    {requests : Requests ι} (started : Started settings clients requests)
    (start : requests.state.Sound) (schedule : List ι) {before after : List (SessionEvent ι)}
    {bump : SessionEvent ι} (split : requests.trace Store.exec schedule = before ++ bump :: after)
    {email : String} (bumps : bump.op = .incr (accountVersionKey email))
    (effective : bump.before.fate.takesEffect = true)
    (settled : ∀ d ∈ after, d.thread ≠ bump.thread → ∀ c ∈ before, c.thread ≠ d.thread)
    (read : ∀ c ∈ after, c.op = .get (accountVersionKey email) → c.before.fate = .delivered)
    {i : ι} (later : Later before bump i) {token : Token} (presents : (clients i).Presents token)
    (isEmail : truthy token.email = some email) {answer : Answer}
    (answers : answerOf (requests.runSchedule Store.exec schedule) i = some answer)
    (something : answer ≠ .nothing) :
    Begun clients email after token ∨ Exempt (clients bump.thread) token := by
  obtain ⟨honoured, ofSession⟩ := presents.honoured (started.earned answers) something
  have atBump := started.sound start (mem_of_split split)
  let behind (token : Token) : Prop :=
    ∃ ver, token.accountVer = some ver ∧ ver ≤ bump.before.versionAt (accountVersionKey email)
  have old : ∀ token ∈ bump.before.signed, OfLine email (fun _ => True) token →
      behind token := by
    intro token signed ofLine
    obtain ⟨ver, isVer⟩ := Option.ne_none_iff_exists'.mp (atBump.versioned token signed ofLine.1).1
    exact ⟨ver, isVer, atBump.stamped token signed email ver ofLine.2.1 isVer⟩
  apply started.lineage split bumps settled old _ i token later ⟨ofSession, isEmail, trivial⟩
    honoured
  rintro mid rest i token isAfter isLater ofLine ⟨ver, isVer, le⟩ stillHonoured
  have seen := (stillHonoured.checked email ofLine.2.1).1 ver isVer
  obtain ⟨found, inside, isSeen⟩ := event_of_seen seen
  have since : ⟨i, .get (accountVersionKey email), found⟩ ∈ after := by
    rw [isAfter]
    exact List.mem_append_left _ (isLater.mem rfl inside)
  rcases started.seen_since_bump start.counters split bumps effective since with ahead | failed
  · omega
  · exact failed.1 (read _ since rfl)

/-! Ada logs in after her password was reset. -/

def adaAgain : Token :=
  { adaAccess with jti := some (zeros 13), chain := some (zeros 11), accountVer := some 1 }

def adaReturns : Nat → Client
  | 0 => .endAllSessions "ada"
  | 1 => .login "ada" "secret" fun _ => true
  | _ => .authenticate (some adaAgain)

theorem adaReturns_inside : 3 < (servedIn adaReturns).length := by decide +kernel

theorem loggedOut_everywhere_ada :
    Begun adaReturns "ada" ((servedIn adaReturns).drop 4) adaAgain ∨
      Exempt (.endAllSessions "ada") adaAgain := by
  have split := split_at _ 3 adaReturns_inside
  have bumps : ((servedIn adaReturns).get ⟨3, adaReturns_inside⟩).op =
      .incr (accountVersionKey "ada") := by decide +kernel
  have isThread : ((servedIn adaReturns).get ⟨3, adaReturns_inside⟩).thread = 0 := by
    decide +kernel
  have later : Later ((servedIn adaReturns).take 3)
      ((servedIn adaReturns).get ⟨3, adaReturns_inside⟩) 2 :=
    ⟨by decide +kernel, by decide +kernel⟩
  have answers : answerOf ((serving adaReturns).runSchedule Store.exec inTurn) 2 =
      some (.caller "ada") := by decide +kernel
  have heirs := loggedOut_everywhere (serving_started adaReturns) adaStore_sound inTurn split
    bumps (by decide +kernel) (by decide +kernel) (by decide +kernel) later (.inl rfl) (by decide)
    answers nofun
  rwa [isThread] at heirs

end BalanceSheetAnalysis.Sessions

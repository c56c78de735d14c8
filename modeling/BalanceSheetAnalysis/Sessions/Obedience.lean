import BalanceSheetAnalysis.Sessions.Promises

/-! Each request keeps its promises, function by function. -/
namespace BalanceSheetAnalysis.Sessions
open Library Library.Raising
open RateLimiter (Interrupt truthy)

/-- What a request that got something must have been told. -/
def Client.Earned (client : Client) (told : History) : Answer → Prop
  | .nothing => True
  | .caller email => ∃ token, client = .authenticate (some token) ∧ Honoured told token ∧
      token.type = some .access ∧ truthy token.email = some email
  | .tokens _ =>
      (∃ email password passwordMatches, client = .login email password passwordMatches) ∨
      (∃ token changes, client = .updateMyProfile (some token) changes ∧ Honoured told token ∧
        token.type = some .access) ∨
      ∃ token jti seconds, client = .refresh token ∧ Honoured told token ∧
        token.type = some .refresh ∧ truthy token.jti = some jti ∧
        Program.Told told (.setNx (revokedKey jti) seconds) (.ok true)

section Promises
variable {settings : Settings} {client : Client} {told : History}

theorem readVersion_promises (key : String) :
    Promises settings client told (readVersion key) fun later ver => Seen later key ver := by
  refine ⟨trivial, fun reply => ?_⟩
  have wasTold := Program.told_last told (.get key) reply
  cases reply with
  | error interrupt =>
      cases interrupt with
      | exception => exact obeys_pure ⟨_, wasTold, rfl⟩
      | cancelledError => exact obeys_throw _
  | ok raw =>
      cases raw with
      | none => exact obeys_pure ⟨_, wasTold, rfl⟩
      | some value =>
          cases value with
          | number n => exact obeys_pure ⟨_, wasTold, rfl⟩
          | flag => exact obeys_pure ⟨_, wasTold, rfl⟩

theorem now_promises : Promises settings client told (issue Command.now) fun later now =>
    Program.Told later .now now := promises_issue trivial

theorem uuid4_promises : Promises settings client told (issue Command.uuid4) fun later id =>
    Program.Told later .uuid4 id := promises_issue trivial

theorem decodePayload_promises (token : Token) :
    Promises settings client told (decodePayload token) fun later payload =>
      payload = none ∨ payload = some token ∧ Program.Told later (.decode token) true := by
  have asked : Promises settings client told (issue (Command.decode token)) fun later valid =>
      Program.Told later (.decode token) valid := promises_issue trivial
  apply asked.bind
  intro valid later _ wasTold
  cases valid with
  | false => exact promises_pure (.inl rfl)
  | true => exact promises_pure (.inr ⟨rfl, wasTold⟩)

theorem carries_promises {ver : Option Nat} {current : Request Nat} {key : String}
    (read : Promises settings client told current fun later seen => Seen later key seen) :
    Promises settings client told (carries ver current) fun later verdict =>
      (verdict = true → ∀ carried, ver = some carried → Seen later key carried) ∧
      (verdict = false → ∃ carried seen, ver = some carried ∧ Seen later key seen ∧
        seen ≠ carried) := by
  unfold carries
  cases ver with
  | none => exact promises_pure (by simp)
  | some ver =>
      apply read.bind
      intro seen later _ wasSeen
      apply promises_pure
      by_cases same : ver = seen
      · subst same
        simpa using wasSeen
      · simp only [same, decide_false, Bool.false_eq_true, false_imp_iff, true_and]
        exact fun _ => ⟨ver, seen, rfl, wasSeen, Ne.symm same⟩

theorem isCurrentVersion_promises (payload : Token) :
    Promises settings client told (isCurrentVersion payload) fun later verdict =>
      (verdict = true → Checked later payload) ∧ (verdict = false → Outdated later payload) := by
  unfold isCurrentVersion
  cases isEmail : truthy payload.email with
  | none =>
      refine promises_pure ⟨fun _ email isSome => ?_, nofun⟩
      cases isEmail.symm.trans isSome
  | some email =>
      apply (carries_promises (readVersion_promises _)).bind
      intro accountHolds afterAccount _ account
      cases accountHolds with
      | false =>
          obtain ⟨carried, seen, isVer, wasSeen, differ⟩ := account.2 rfl
          exact promises_pure
            ⟨nofun, fun _ => ⟨email, isEmail, .inl ⟨carried, seen, isVer, wasSeen, differ⟩⟩⟩
      | true =>
          have accountRead := account.1 rfl
          simp only [if_true]
          cases isChain : truthy payload.chain with
          | none =>
              refine promises_pure ⟨fun _ email' isSome => ?_, nofun⟩
              cases isEmail.symm.trans isSome
              refine ⟨accountRead, fun chainId ver isSome => ?_⟩
              cases isChain.symm.trans isSome
          | some chainId =>
              apply (carries_promises (readVersion_promises _)).mono
              intro later verdict kept chain
              constructor
              · intro holds email' isSome
                cases isEmail.symm.trans isSome
                refine ⟨fun ver carried => (accountRead ver carried).mono kept, ?_⟩
                intro chainId' ver isSome carried
                cases isChain.symm.trans isSome
                exact chain.1 holds ver carried
              · intro fails
                obtain ⟨carried, seen, isVer, wasSeen, differ⟩ := chain.2 fails
                exact ⟨email, isEmail, .inr ⟨chainId, carried, seen, isChain, isVer, wasSeen,
                  differ⟩⟩

theorem isTokenRevokedByJti_promises (jti : Option String) :
    Promises settings client told (isTokenRevokedByJti jti) fun _ _ => True := by
  unfold isTokenRevokedByJti
  split
  · exact promises_pure trivial
  · exact ⟨trivial, fun _ _ _ => trivial⟩

theorem verifyToken_promises (token : Token) (expectedType : TokenType) :
    Promises settings client told (verifyToken token (some expectedType)) fun later result =>
      ∀ payload, result = some payload →
        payload = token ∧ Honoured later token ∧ token.type = some expectedType := by
  have refused (later : History) : ∀ payload, (none : Option Token) = some payload →
      payload = token ∧ Honoured later token ∧ token.type = some expectedType := nofun
  apply Promises.caught _ fun later _ => refused later
  apply (decodePayload_promises token).bind
  intro decoded afterDecode _ isToken
  cases decoded with
  | none => exact promises_pure (refused _)
  | some payload =>
      obtain ⟨⟨⟩⟩ | ⟨⟨⟩, valid⟩ := isToken
      apply (isTokenRevokedByJti_promises _).bind
      intro revoked afterRevoked keptRevoked _
      cases revoked with
      | true => exact promises_pure (refused _)
      | false =>
          apply (isCurrentVersion_promises token).bind
          intro current afterCurrent keptCurrent verdict
          cases current with
          | false => exact promises_pure (refused _)
          | true =>
              simp only [if_true]
              split
              · exact promises_pure (refused _)
              · rename_i sameType
                apply promises_pure
                rintro _ ⟨⟩
                have stillValid := keptCurrent (keptRevoked valid)
                exact ⟨rfl, ⟨stillValid, verdict.1 rfl⟩, by simpa using sameType⟩

theorem getCurrentUser_promises (accessToken : Option Token) :
    Promises settings client told (getCurrentUser accessToken) fun later result =>
      ∀ email, result = .ok email → ∃ token, accessToken = some token ∧ Honoured later token ∧
        token.type = some .access ∧ truthy token.email = some email := by
  apply Promises.caught _ fun later _ => nofun
  cases accessToken with
  | none => exact promises_pure nofun
  | some token =>
      apply (verifyToken_promises token .access).bind
      intro payload afterVerify _ verified
      cases payload with
      | none => exact promises_pure nofun
      | some payload =>
          obtain ⟨rfl, honoured, isType⟩ := verified payload rfl
          simp only
          cases isEmail : truthy payload.email with
          | none => exact promises_pure nofun
          | some email =>
              apply (getByEmail_calm email).promises.bind
              intro user later kept _
              cases user with
              | none => exact promises_pure nofun
              | some user =>
                  simp only
                  split
                  · apply (getActivePolicies_calm email).promises.bind
                    intro _ last keptLast _
                    apply promises_pure
                    rintro _ ⟨⟩
                    exact ⟨payload, rfl, (honoured.mono kept).mono keptLast, isType, isEmail⟩
                  · exact promises_pure nofun

/-! Minting. -/

theorem createToken_promises {type : TokenType} {email chainId : String}
    (isType : type = .access ∨ type = .refresh) (entitled : client.entitles told email chainId) :
    Promises settings client told (createToken type (settings.lifetime type) email chainId)
      fun _ _ => True := by
  apply now_promises.bind
  intro now afterNow keptNow toldNow
  apply uuid4_promises.bind
  intro jti afterJti keptJti toldJti
  apply (readVersion_promises _).bind
  intro accountVer afterAccount keptAccount sawAccount
  apply (readVersion_promises _).bind
  intro chainVer afterChain keptChain sawChain
  have kept := fun entry member => keptChain (keptAccount (keptJti (keptNow (a := entry) member)))
  refine ⟨⟨email, chainId, rfl, rfl, ?_, ⟨accountVer, rfl, sawAccount.mono keptChain⟩,
    ⟨chainVer, rfl, sawChain⟩, ⟨jti, rfl, keptChain (keptAccount toldJti)⟩, ?_,
    entitled.mono kept⟩, fun _ _ _ => trivial⟩
  · exact isType.imp (congrArg some) (congrArg some)
  · exact ⟨now, type, rfl, keptChain (keptAccount (keptJti toldNow)), rfl⟩

theorem createTokens_promises {email chainId : String}
    (entitled : client.entitles told email chainId) :
    Promises settings client told (createTokens settings email chainId) fun _ _ => True := by
  apply (createToken_promises (.inl rfl) entitled).bind
  intro accessToken later kept _
  apply (createToken_promises (.inr rfl) (entitled.mono kept)).bind
  intro refreshToken _ _ _
  exact promises_pure trivial

/-! Revoking. -/

theorem bumpAccountVersion_promises {email : String} (reaches : client.reaches told email) :
    Promises settings client told (bumpAccountVersion email) fun _ _ => True := by
  apply Promises.caught _ fun _ _ => trivial
  exact ⟨⟨email, reaches, .inl rfl⟩, fun reply => by cases reply <;> exact fun _ _ => trivial⟩

theorem bumpChainVersion_promises {email chainId : String}
    (reaches : client.reaches told email) (ends : client.endsOne) :
    Promises settings client told (bumpChainVersion settings email chainId) fun _ _ => True := by
  apply Promises.caught _ fun _ _ => trivial
  refine ⟨⟨email, reaches, .inr ⟨ends, chainId, rfl⟩⟩, fun reply => ?_⟩
  cases reply with
  | error _ => exact obeys_throw _
  | ok _ =>
      refine ⟨⟨rfl, email, chainId, ?_, rfl⟩, fun _ _ _ => trivial⟩
      exact reaches.mono (List.subset_append_left _ _)

theorem revokeAllTokensForUser_promises {email : String} (reaches : client.reaches told email) :
    Promises settings client told (revokeAllTokensForUser email) fun _ _ => True := by
  apply Promises.caught _ fun _ _ => trivial
  apply (countActiveSessions_calm email).promises.bind
  intro activeCount later kept _
  apply (bumpAccountVersion_promises (reaches.mono kept)).bind
  intro _ later' _ _
  apply Within.promises
  exact (revokeAllSessions_calm ..).bind fun _ =>
    (publishSession_calm _).bind fun _ => calm_pure _

theorem revokeAllTokensForUserExceptChain_promises {email exemptChainId : String}
    (reaches : client.reaches told email) :
    Promises settings client told (revokeAllTokensForUserExceptChain email exemptChainId)
      fun _ _ => True := by
  apply Promises.caught _ fun _ _ => trivial
  apply (countActiveSessions_calm email).promises.bind
  intro activeCount later kept _
  apply (bumpAccountVersion_promises (reaches.mono kept)).bind
  intro _ later' _ _
  apply Within.promises
  exact (revokeAllSessions_calm ..).bind fun _ =>
    (publishSession_calm _).bind fun _ => calm_pure _

theorem revokeChainForUser_promises {email chainId : String}
    (reaches : client.reaches told email) (ends : client.endsOne) :
    Promises settings client told (revokeChainForUser settings email chainId)
      fun _ _ => True := by
  apply Promises.caught _ fun _ _ => trivial
  apply (bumpChainVersion_promises reaches ends).bind
  intro _ later _ _
  exact ((revokeChain_calm _).bind fun _ => publishSession_calm _).promises

theorem handleReuseDetected_promises {payload : Token} (held : client.wields payload)
    (ends : client.endsOne) (decoded : Program.Told told (.decode payload) true) :
    Promises settings client told (handleReuseDetected settings payload) fun _ _ => True := by
  unfold handleReuseDetected
  cases isEmail : truthy payload.email with
  | none => exact promises_pure trivial
  | some email =>
      have reaches : client.reaches told email := .inr ⟨payload, held, decoded, isEmail⟩
      simp only
      split
      · exact revokeChainForUser_promises reaches ends
      · exact (revokeAllTokensForUser_promises reaches).discard

theorem claimJtiForRotation_promises {token : Token} {jti : String}
    (isClient : client = .refresh token) (isJti : truthy token.jti = some jti)
    (honoured : Honoured told token) :
    Promises settings client told (claimJtiForRotation jti token.exp) fun later claimed =>
      claimed = true → ∃ seconds,
        Program.Told later (.setNx (revokedKey jti) seconds) (.ok true) := by
  apply Promises.caught _ fun _ _ => nofun
  have claims {now : History} (seconds : Nat) (kept : told ⊆ now)
      (lasts : Lasts now token seconds) :
      Promises settings client now (setNx (revokedKey jti) seconds) fun later claimed =>
        claimed = true → ∃ seconds,
          Program.Told later (.setNx (revokedKey jti) seconds) (.ok true) := by
    refine ⟨⟨token, jti, isClient, isJti, rfl, honoured.mono kept, lasts⟩, fun reply => ?_⟩
    rintro claimed rfl rfl
    exact ⟨seconds, Program.told_last now _ _⟩
  cases isExp : token.exp with
  | none =>
      refine claims 1 (List.Subset.refl _) ?_
      rw [Lasts, isExp]
  | some exp =>
      apply now_promises.bind
      intro now later kept toldNow
      refine claims _ kept ?_
      rw [Lasts, isExp]
      exact ⟨now, toldNow, rfl⟩

/-! The requests. -/

theorem rotateTokens_promises {payload : Token} {jti : String}
    (continues : client.continues payload)
    (honoured : Honoured told payload) (isRefresh : payload.type = some .refresh) :
    Promises settings client told (rotateTokens settings payload jti) fun _ _ => True := by
  unfold rotateTokens
  split
  · rename_i email chainId isEmail isChain
    have entitled : client.entitles told email chainId :=
      .inr ⟨payload, continues, honoured, .inr isRefresh, isEmail, isChain⟩
    apply (createTokens_promises entitled).bind
    intro tokens later _ _
    apply Within.promises
    exact (recorded_calm (fun _ _ => rotateSession_calm ..) _).bind fun _ => calm_pure _
  · exact promises_pure trivial

theorem refreshTokens_promises {token : Token} (isClient : client = .refresh token) :
    Promises settings client told (refreshTokens settings token) fun later result =>
      result ≠ none → ∃ jti seconds, Honoured later token ∧ token.type = some .refresh ∧
        truthy token.jti = some jti ∧
        Program.Told later (.setNx (revokedKey jti) seconds) (.ok true) := by
  have held : client.wields token := by rw [isClient]; rfl
  have continues : client.continues token := by rw [isClient]; rfl
  apply Promises.caught _ fun _ _ absent => absurd rfl absent
  apply (decodePayload_promises token).bind
  intro decoded afterDecode _ isToken
  cases decoded with
  | none => exact promises_pure fun absent => absurd rfl absent
  | some payload =>
      obtain ⟨⟨⟩⟩ | ⟨⟨⟩, valid⟩ := isToken
      simp only
      cases isJti : truthy token.jti with
      | none => exact promises_pure fun absent => absurd rfl absent
      | some jti =>
          simp only
          split
          · exact promises_pure fun absent => absurd rfl absent
          rename_i notOther
          have isRefresh : token.type = some .refresh := of_not_not notOther
          apply (isCurrentVersion_promises token).bind
          intro current afterCurrent keptCurrent verdict
          cases current with
          | false => exact promises_pure fun absent => absurd rfl absent
          | true =>
              have honoured : Honoured afterCurrent token := ⟨keptCurrent valid, verdict.1 rfl⟩
              apply (claimJtiForRotation_promises isClient isJti honoured).bind
              intro claimed afterClaim keptClaim claim
              cases claimed with
              | false =>
                  have stillValid := keptClaim honoured.decoded
                  have ends : client.endsOne := by rw [isClient]; trivial
                  apply (handleReuseDetected_promises held ends stillValid).bind
                  intro _ _ _ _
                  exact promises_pure fun absent => absurd rfl absent
              | true =>
                  obtain ⟨seconds, wasTold⟩ := claim rfl
                  apply (rotateTokens_promises continues (honoured.mono keptClaim) isRefresh).mono
                  intro later _ kept _ _
                  exact ⟨jti, seconds, (honoured.mono keptClaim).mono kept,
                    isRefresh, rfl, kept wasTold⟩

theorem login_promises {email password : String} {passwordMatches : Option String → Bool}
    (isClient : client = .login email password passwordMatches) :
    Promises settings client told (login settings email password passwordMatches)
      fun _ _ => True := by
  apply Promises.caught _ fun _ _ => trivial
  split
  · exact promises_pure trivial
  apply (getByEmail_calm email).promises.bind
  intro user afterUser _ _
  cases user with
  | none => exact promises_pure trivial
  | some user =>
      simp only
      split
      · apply uuid4_promises.bind
        intro chainId afterChain _ fresh
        apply (createTokens_promises (.inl ⟨password, passwordMatches, isClient, fresh⟩)).bind
        intro tokens later _ _
        apply Within.promises
        exact (recorded_calm (fun _ _ => createSession_calm ..) _).bind fun _ => calm_pure _
      · exact promises_pure trivial

theorem refreshClaims_promises (refreshToken : Option Token) :
    Promises settings client told (refreshClaims refreshToken) fun later payload =>
      ∀ token, payload = some token →
        refreshToken = some token ∧ Program.Told later (.decode token) true := by
  unfold refreshClaims
  cases refreshToken with
  | none => exact promises_pure nofun
  | some token =>
      apply (decodePayload_promises token).bind
      intro decoded later _ isToken
      apply promises_pure
      intro payload isPayload
      obtain rfl | ⟨rfl, valid⟩ := isToken
      · cases isPayload
      · rw [Option.filter_some] at isPayload
        split at isPayload
        · cases isPayload
          exact ⟨rfl, valid⟩
        · cases isPayload

theorem revokeOneSession_promises {email : String} {sessionId : Int}
    (reaches : client.reaches told email) (ends : client.endsOne) :
    Promises settings client told (revokeOneSession settings email sessionId)
      fun _ _ => True := by
  apply (getByEmail_calm email).promises.bind
  intro user afterUser keptUser _
  cases user with
  | none => exact promises_pure trivial
  | some user =>
      apply (revokeById_calm sessionId user.id).promises.bind
      intro revoked afterRevoked keptRevoked _
      cases revoked with
      | none => exact promises_pure trivial
      | some session =>
          have nudges : Calm (do
              publishSession email
              return some session) := (publishSession_calm _).bind fun _ => calm_pure _
          simp only
          split
          · exact nudges.promises
          · apply (bumpChainVersion_promises ((reaches.mono keptUser).mono keptRevoked) ends).bind
            intro _ _ _ _
            exact nudges.promises

theorem revokeSession_promises {accessToken refreshToken : Option Token} {sessionId : Int}
    (isClient : client = .revokeSession accessToken refreshToken sessionId) :
    Promises settings client told (revokeSession settings accessToken refreshToken sessionId)
      fun _ _ => True := by
  apply Promises.caught _ fun _ _ => trivial
  apply (getCurrentUser_promises accessToken).bind
  intro caller afterCaller _ isCaller
  cases caller with
  | error _ => exact promises_pure trivial
  | ok email =>
      obtain ⟨token, isToken, honoured, _, isEmail⟩ := isCaller email rfl
      have reaches : client.reaches afterCaller email := by
        refine .inr ⟨token, ?_, honoured.decoded, isEmail⟩
        rw [isClient]
        exact .inl isToken
      apply (getByEmail_calm email).promises.bind
      intro user afterUser keptUser _
      cases user with
      | none => exact promises_pure trivial
      | some user =>
          apply (selectOne_calm (.id sessionId)).promises.bind
          intro target afterTarget keptTarget _
          cases target with
          | none => exact promises_pure trivial
          | some target =>
              simp only
              split
              · exact promises_pure trivial
              apply (refreshClaims_promises refreshToken).bind
              intro claims afterClaims keptClaims _
              split
              · exact promises_pure trivial
              have still := ((reaches.mono keptUser).mono keptTarget).mono keptClaims
              apply (revokeOneSession_promises still (by rw [isClient]; trivial)).bind
              intro revoked _ _ _
              cases revoked <;> exact promises_pure trivial

theorem revokeSessionOnLogout_promises {jti email : Option String} (ends : client.endsOne)
    (reaches : ∀ owner, truthy email = some owner → client.reaches told owner) :
    Promises settings client told (revokeSessionOnLogout settings jti email)
      fun _ _ => True := by
  unfold revokeSessionOnLogout
  split
  · exact promises_pure trivial
  apply Promises.caught _ fun _ _ => trivial
  apply (selectOne_calm _).promises.bind
  intro session afterSession keptSession _
  cases session with
  | none => exact promises_pure trivial
  | some session =>
      simp only
      split
      · exact promises_pure trivial
      · have marks (jti : String) : Calm (discard (revokeByJti jti)) := (revokeByJti_calm jti).map _
        split
        · rename_i owner chainId isOwner _
          apply (bumpChainVersion_promises ((reaches owner isOwner).mono keptSession) ends).bind
          intro _ _ _ _
          exact ((publishSession_calm owner).bind fun _ => marks _).promises
        · exact ((calm_pure ()).bind fun _ => marks _).promises

theorem handleLogout_promises {refreshToken : Option Token}
    (isClient : client = .logout refreshToken) :
    Promises settings client told (handleLogout settings refreshToken) fun _ _ => True := by
  apply Promises.caught _ fun _ _ => trivial
  apply (refreshClaims_promises refreshToken).bind
  intro payload later _ claims
  apply revokeSessionOnLogout_promises (by rw [isClient]; trivial)
  intro owner isOwner
  cases payload with
  | none => cases isOwner
  | some token =>
      obtain ⟨isToken, decoded⟩ := claims token rfl
      refine .inr ⟨token, ?_, decoded, isOwner⟩
      rw [isClient]
      exact isToken

theorem handleLogoutAll_promises {refreshToken : Option Token}
    (isClient : client = .logoutAll refreshToken) :
    Promises settings client told (handleLogoutAll refreshToken) fun _ _ => True := by
  apply Promises.caught _ fun _ _ => trivial
  apply (refreshClaims_promises refreshToken).bind
  intro payload later _ claims
  cases payload with
  | none => exact promises_pure trivial
  | some token =>
      obtain ⟨isToken, decoded⟩ := claims token rfl
      rw [Option.bind_some]
      cases isEmail : truthy token.email with
      | none => exact promises_pure trivial
      | some email =>
          have reaches : client.reaches later email := by
            refine .inr ⟨token, ?_, decoded, isEmail⟩
            rw [isClient]
            exact isToken
          exact (revokeAllTokensForUser_promises reaches).discard

theorem reissue_promises {token : Token} {email : String} (held : client.wields token)
    (continues : client.continues token) (honoured : Honoured told token)
    (isAccess : token.type = some .access)
    (isEmail : truthy token.email = some email) :
    Promises settings client told (reissue settings email (some token)) fun _ _ => True := by
  have reaches {later : History} (kept : told ⊆ later) : client.reaches later email :=
    .inr ⟨token, held, kept honoured.decoded, isEmail⟩
  apply (decodePayload_promises token).bind
  intro payload later kept isToken
  dsimp only
  split
  · rename_i chainId isChain
    have ofToken : truthy token.chain = some chainId := by
      obtain rfl | ⟨rfl, _⟩ := isToken
      · cases isChain
      · exact isChain
    apply (revokeAllTokensForUserExceptChain_promises (reaches kept)).discard.bind
    intro _ afterRevoke keptRevoke _
    have entitled : client.entitles afterRevoke email chainId :=
      .inr ⟨token, continues, (honoured.mono kept).mono keptRevoke, .inl isAccess, isEmail,
        ofToken⟩
    apply (createTokens_promises entitled).bind
    intro tokens _ _ _
    apply Within.promises
    exact (recorded_calm (fun _ _ => rotateSessionByChain_calm ..) _).bind fun _ => calm_pure _
  · apply (revokeAllTokensForUser_promises (reaches kept)).discard.bind
    intro _ _ _ _
    exact promises_pure trivial

theorem updateMyProfile_promises {accessToken : Option Token} {changes : Bool}
    (isClient : client = .updateMyProfile accessToken changes) :
    Promises settings client told (updateMyProfile settings accessToken changes)
      fun later result => result ≠ none → ∃ token, accessToken = some token ∧
        Honoured later token ∧ token.type = some .access := by
  apply (getCurrentUser_promises accessToken).bind
  intro caller afterCaller _ isCaller
  cases caller with
  | error _ => exact promises_pure fun absent => absurd rfl absent
  | ok email =>
      obtain ⟨token, rfl, honoured, isType, isEmail⟩ := isCaller email rfl
      have held : client.wields token := by rw [isClient]; rfl
      have continues : client.continues token := by rw [isClient]; rfl
      apply (getByEmail_calm email).promises.bind
      intro user afterUser kept _
      cases user with
      | none => exact promises_pure fun absent => absurd rfl absent
      | some user =>
          simp only
          split
          · apply (reissue_promises held continues (honoured.mono kept) isType isEmail).mono
            intro later _ kept' _ _
            exact ⟨token, rfl, (honoured.mono kept).mono kept', isType⟩
          · exact promises_pure fun absent => absurd rfl absent

end Promises

theorem Client.run_promises (settings : Settings) (client : Client) :
    Promises settings client [] (client.run settings) client.Earned := by
  cases client with
  | authenticate accessToken =>
      apply (getCurrentUser_promises accessToken).map
      intro result later _ fits
      cases result with
      | error _ => trivial
      | ok email =>
          obtain ⟨token, rfl, honoured, isType, isEmail⟩ := fits email rfl
          exact ⟨token, rfl, honoured, isType, isEmail⟩
  | login email password passwordMatches =>
      apply (login_promises rfl).map
      intro result later _ _
      cases result with
      | none => trivial
      | some _ => exact .inl ⟨email, password, passwordMatches, rfl⟩
  | refresh refreshToken =>
      apply (refreshTokens_promises rfl).map
      intro result later _ fits
      cases result with
      | none => trivial
      | some _ =>
          obtain ⟨jti, seconds, honoured, isType, isJti, claimed⟩ := fits (Option.some_ne_none _)
          exact .inr (.inr ⟨refreshToken, jti, seconds, rfl, honoured, isType, isJti, claimed⟩)
  | logout refreshToken => exact (handleLogout_promises rfl).map fun _ _ _ _ => trivial
  | logoutAll refreshToken => exact (handleLogoutAll_promises rfl).map fun _ _ _ _ => trivial
  | revokeSession accessToken refreshToken sessionId =>
      exact (revokeSession_promises rfl).map fun _ _ _ _ => trivial
  | updateMyProfile accessToken changes =>
      apply (updateMyProfile_promises rfl).map
      intro result later _ fits
      cases result with
      | none => trivial
      | some _ =>
          obtain ⟨token, rfl, honoured, isType⟩ := fits (Option.some_ne_none _)
          exact .inr (.inl ⟨token, changes, rfl, honoured, isType⟩)
  | endAllSessions email =>
      exact (revokeAllTokensForUser_promises (.inl rfl)).map fun _ _ _ _ => trivial

end BalanceSheetAnalysis.Sessions

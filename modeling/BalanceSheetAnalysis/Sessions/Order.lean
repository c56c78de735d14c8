import BalanceSheetAnalysis.Sessions.Obedience

/-! A refresh either mints tokens or ends sessions.  Only the request that changes
a password mints after it ended sessions, and then for the chain of its caller. -/
namespace BalanceSheetAnalysis.Sessions
open Library Library.Raising
open RateLimiter (Interrupt truthy)

def IsIncr : Command → Prop
  | .incr _ => True
  | _ => False

def IsEncode : Command → Prop
  | .encode _ => True
  | _ => False

theorem Quiet.not_incr {op : Command} (quiet : Quiet op) : ¬IsIncr op := by
  cases op with
  | incr => exact quiet.elim
  | _ => exact id

theorem Quiet.not_encode {op : Command} (quiet : Quiet op) : ¬IsEncode op := by
  cases op with
  | encode => exact quiet.elim
  | _ => exact id

/-! What ends no session. -/

theorem readVersion_noIncr (key : String) : Within (¬IsIncr ·) (readVersion key) := by
  apply Within.caught
  refine ⟨fun _ => ⟨id, fun reply => ?_⟩⟩
  cases reply with
  | error _ => exact obeys_throw _
  | ok raw =>
      cases raw with
      | none => exact obeys_pure trivial
      | some value =>
          cases value with
          | number n => exact obeys_pure trivial
          | flag => exact obeys_throw _

theorem carries_noIncr {ver : Option Nat} {current : Request Nat}
    (read : Within (¬IsIncr ·) current) : Within (¬IsIncr ·) (carries ver current) := by
  cases ver with
  | none => exact within_pure _
  | some ver => exact read.bind fun _ => within_pure _

theorem isCurrentVersion_noIncr (payload : Token) :
    Within (¬IsIncr ·) (isCurrentVersion payload) := by
  unfold isCurrentVersion
  split
  · exact within_pure _
  · apply (carries_noIncr (readVersion_noIncr _)).bind
    intro holds
    split
    · split
      · exact within_pure _
      · exact carries_noIncr (readVersion_noIncr _)
    · exact within_pure _

theorem claimJtiForRotation_noIncr (jti : String) (exp : Option Nat) :
    Within (¬IsIncr ·) (claimJtiForRotation jti exp) := by
  apply Within.caught
  have sets (seconds : Nat) : Within (¬IsIncr ·) (setNx (revokedKey jti) seconds) :=
    ⟨fun _ => ⟨id, fun _ _ _ => trivial⟩⟩
  split
  · exact sets 1
  · exact (within_issue id).bind fun _ => sets _

theorem createToken_noIncr (type : TokenType) (expireMinutes : Nat) (email chainId : String) :
    Within (¬IsIncr ·) (createToken type expireMinutes email chainId) := by
  apply (within_issue id).bind
  intro now
  apply (within_issue id).bind
  intro jti
  apply (readVersion_noIncr _).bind
  intro accountVer
  apply (readVersion_noIncr _).bind
  intro chainVer
  exact (within_issue id).bind fun _ => within_pure _

theorem rotateTokens_noIncr (settings : Settings) (payload : Token) (jti : String) :
    Within (¬IsIncr ·) (rotateTokens settings payload jti) := by
  unfold rotateTokens
  split
  · rename_i email chainId _ _
    apply Within.bind
    · apply (createToken_noIncr ..).bind
      intro accessToken
      exact (createToken_noIncr ..).bind fun _ => within_pure _
    intro tokens
    have records : Calm (recorded tokens.refreshToken fun newJti newExp =>
        rotateSession jti newJti chainId newExp (some email)) :=
      recorded_calm (fun _ _ => rotateSession_calm ..) _
    exact (records.mono fun _ => Quiet.not_incr).bind fun _ => within_pure _
  · exact within_pure _

/-! What mints nothing. -/

theorem bumpAccountVersion_noEncode (email : String) :
    Within (¬IsEncode ·) (bumpAccountVersion email) := by
  apply Within.caught
  exact ⟨fun _ => ⟨id, fun reply => by cases reply <;> exact fun _ _ => trivial⟩⟩

theorem bumpChainVersion_noEncode (settings : Settings) (email chainId : String) :
    Within (¬IsEncode ·) (bumpChainVersion settings email chainId) := by
  apply Within.caught
  refine ⟨fun _ => ⟨id, fun reply => ?_⟩⟩
  cases reply with
  | error _ => exact obeys_throw _
  | ok _ => exact ⟨id, fun _ _ _ => trivial⟩

theorem handleReuseDetected_noEncode (settings : Settings) (payload : Token) :
    Within (¬IsEncode ·) (handleReuseDetected settings payload) := by
  unfold handleReuseDetected
  split
  · exact within_pure _
  split
  · rename_i email _ _ chainId _
    apply Within.caught
    apply (bumpChainVersion_noEncode ..).bind
    intro _
    have ends : Calm (do
        revokeChain chainId
        publishSession email) := (revokeChain_calm _).bind fun _ => publishSession_calm _
    exact ends.mono fun _ => Quiet.not_encode
  · rename_i email _ _ _
    apply Within.map
    apply Within.caught
    apply ((countActiveSessions_calm email).mono fun _ => Quiet.not_encode).bind
    intro activeCount
    apply (bumpAccountVersion_noEncode _).bind
    intro _
    have ends : Calm (do
        revokeAllSessions email none
        publishSession email
        return activeCount) :=
      (revokeAllSessions_calm ..).bind fun _ => (publishSession_calm _).bind fun _ => calm_pure _
    exact ends.mono fun _ => Quiet.not_encode

/-! The order of the two. -/

theorem never_caught {α : Type} {told : History} {action : Request α} {fallback : α}
    (never : Program.NeverAfter IsIncr IsEncode told (ExceptT.run action)) :
    Program.NeverAfter IsIncr IsEncode told (ExceptT.run (caught action fallback)) := by
  apply Program.Obeys.bind never
  intro result later _
  cases result with
  | ok value => trivial
  | error interrupt => cases interrupt <;> trivial

theorem never_bind {α β : Type} {told : History} {action : Request α} {rest : α → Request β}
    (clean : ∀ entry ∈ told, ¬IsIncr entry.1) (first : Within (¬IsIncr ·) action)
    (second : ∀ value later, (∀ entry ∈ later, ¬IsIncr entry.1) →
      Program.NeverAfter IsIncr IsEncode later (ExceptT.run (rest value))) :
    Program.NeverAfter IsIncr IsEncode told (ExceptT.run (action >>= rest)) := by
  rw [ExceptT.run_bind]
  apply Program.NeverAfter.bind (first.obeys told) clean
  intro result later stillClean
  cases result with
  | ok value => exact second value later stillClean
  | error _ => trivial

theorem refresh_never (settings : Settings) (token : Token) :
    Program.NeverAfter IsIncr IsEncode []
      (ExceptT.run ((Client.refresh token).run settings)) := by
  have ended {told : History} (result : Option TokenPair) :
      Program.NeverAfter IsIncr IsEncode told (ExceptT.run (pure result : Request _)) := trivial
  have refreshes : Program.NeverAfter IsIncr IsEncode []
      (ExceptT.run (refreshTokens settings token)) := by
    apply never_caught
    apply never_bind (List.forall_mem_nil _)
      ((decodePayload_calm token).mono fun _ => Quiet.not_incr)
    intro decoded told clean
    cases decoded with
    | none => exact ended none
    | some payload =>
        simp only
        split
        · exact ended none
        split
        · exact ended none
        apply never_bind clean (isCurrentVersion_noIncr payload)
        intro current told clean
        cases current with
        | false => exact ended none
        | true =>
            rename_i jti _ _
            apply never_bind clean (claimJtiForRotation_noIncr jti payload.exp)
            intro claimed told clean
            cases claimed with
            | true =>
                exact Program.neverAfter_of_early ((rotateTokens_noIncr ..).obeys told) clean
            | false =>
                apply Program.neverAfter_of_late
                exact ((handleReuseDetected_noEncode settings payload).bind fun _ =>
                  within_pure none).obeys told
  change Program.NeverAfter IsIncr IsEncode []
    (ExceptT.run (Answer.ofTokens <$> refreshTokens settings token))
  rw [map_eq_pure_bind, ExceptT.run_bind]
  apply Program.Obeys.bind refreshes
  intro result later _
  cases result <;> trivial

end BalanceSheetAnalysis.Sessions

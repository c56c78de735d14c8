import BalanceSheetAnalysis.Access.Coverage
import BalanceSheetAnalysis.Endpoints

/-! The context of a check.  The routes about one company hand the evaluator no
context; `require_authorization` builds one from the request.  The two agree on
every condition but those that only a context can meet. -/
namespace BalanceSheetAnalysis.Access
open Library Authorization BalanceSheetAnalysis.Action

def forbidden : Failure := .httpException 403 "Insufficient permissions"

section Passing
variable {rt : Runtime} {activePolicies : String → List (Policy rt)}

/-- The request gets past its authorization check. -/
def Passes (activePolicies : String → List (Policy rt)) (db : Database) (store : Store)
    (call : Call) : Prop :=
  ((serve activePolicies call).execute db store).1 ≠ .error forbidden

theorem authorized_passes_iff {α : Type} {request : Request} {action resourceType : String}
    {companyId : Int} {rest : Company → Action α} {db : Database} {store : Store}
    {company : Company} (found : store.findCompany companyId = some company)
    (raises : ∀ company, Raises (· ≠ forbidden) (rest company)) :
    ((authorizedCompany activePolicies request action resourceType companyId >>= rest).execute
        db store).1 ≠ .error forbidden ↔
      Allows activePolicies request action resourceType company.id company.groupRootId := by
  rw [execute_bind, execute_authorizedCompany, found]
  dsimp only
  split
  · rename_i value later run
    split at run
    · rename_i allows
      refine iff_of_true (fun failed => ?_) allows
      exact (raises value).outcome db later failed rfl
    · cases run
  · rename_i failure later run
    split at run
    · cases run
    · rename_i denied
      cases run
      exact iff_of_false (fun passed => passed rfl) denied

theorem authorized_ignore_passes_iff {α : Type} {request : Request}
    {action resourceType : String} {companyId : Int} {rest : Company → Action α} {db : Database}
    {store : Store} {company : Company} (found : store.findCompany companyId = some company)
    (raises : ∀ company, Raises (· ≠ forbidden) (rest company)) :
    ((authorizedCompany activePolicies request action resourceType companyId >>=
        rest).ignore.execute db store).1 ≠ .error forbidden ↔
      Allows activePolicies request action resourceType company.id company.groupRootId := by
  rw [Action.ignore, bind_assoc]
  exact authorized_passes_iff found fun company => (raises company).ignore

theorem translate_passes {α : Type} {action : Action α} (raises : Raises Failure.Internal action)
    {handler : Failure → Failure}
    (handled : ∀ failure : Failure, failure.Internal → handler failure ≠ forbidden) :
    Raises (· ≠ forbidden) (action.translate handler) :=
  raises.translate handled

theorem badRequest_passes (failure : Failure) (internal : failure.Internal) :
    badRequest failure ≠ forbidden := by
  cases failure with
  | httpException status detail => exact absurd rfl (internal status detail)
  | _ => simp [badRequest, forbidden]

theorem badGateway_passes (failure : Failure) (internal : failure.Internal) :
    badGateway failure ≠ forbidden := by
  cases failure with
  | httpException status detail => exact absurd rfl (internal status detail)
  | _ => simp [badGateway, forbidden]

theorem gateway_passes (failure : Failure) (internal : failure.Internal) :
    (badGateway ∘ badRequest) failure ≠ forbidden := by
  cases failure with
  | httpException status detail => exact absurd rfl (internal status detail)
  | _ => simp [badRequest, badGateway, forbidden]

theorem unread_passes (companyId year : Int) :
    Raises (· ≠ forbidden)
      (getOr404 (getBalanceSheet companyId year) "Balance sheet not found") := by
  refine ((getBalanceSheet_raises companyId year).mono fun failure internal => ?_).bind ?_
  · exact internal _ _
  · intro found
    cases found with
    | none => exact raises_throw (by simp [forbidden])
    | some sheet => exact raises_pure sheet

/-- A route about one company gets past its check exactly when the caller's
policies allow its action on the stored row, without any context. -/
theorem passes_iff_allows {call : Call} {check : CompanyCheck}
    (isCheck : call.endpoint.companyCheck = some check) {db : Database} {store : Store}
    {company : Company} (found : store.findCompany check.companyId = some company) :
    Passes activePolicies db store call ↔ Allows activePolicies call.request check.action
      check.resourceType company.id company.groupRootId := by
  obtain ⟨request, endpoint⟩ := call
  cases endpoint with
  | addCompany data => cases isCheck
  | listCompanies collation params => cases isCheck
  | getCompany companyId =>
      cases isCheck
      exact authorized_passes_iff found fun company => raises_pure ()
  | editCompany companyId data =>
      cases isCheck
      exact authorized_ignore_passes_iff found fun company =>
        translate_passes (updateCompany_raises company data) badRequest_passes
  | removeCompany companyId =>
      cases isCheck
      exact authorized_passes_iff found fun company =>
        translate_passes (deleteCompany_raises company) badRequest_passes
  | listCompanyBalanceSheets companyId =>
      cases isCheck
      exact authorized_ignore_passes_iff found fun company => raises_query _
  | getCompanyBalanceSheet companyId year =>
      cases isCheck
      exact authorized_ignore_passes_iff found fun company => unread_passes companyId year
  | createCompanyBalanceSheet fetch companyId year =>
      cases isCheck
      exact authorized_ignore_passes_iff found fun company =>
        translate_passes (importBalanceSheet_raises fetch companyId year company.ticker)
          gateway_passes
  | deleteCompanyBalanceSheet companyId year =>
      cases isCheck
      exact authorized_passes_iff found fun company =>
        (unread_passes companyId year).bind fun sheet => raises_query _
  | chat askGroq payload =>
      cases isCheck
      refine authorized_ignore_passes_iff found fun company => raises_query_bind fun _ => ?_
      refine translate_passes ?_ badGateway_passes
      split
      · exact raises_pure _
      · exact raises_throw nofun

end Passing

/-! The built context against none. -/

section Built
variable {rt : Runtime} {request : Request}

/-- The policy has a condition that no check without a context meets. -/
def NeedsContext (policy : Policy rt) : Prop :=
  ∃ condition ∈ policy.block, condition.1 = "network" ∨ condition.1 = "context_attributes"

theorem resolveCurrentDatetime_built
    (roundTrip : rt.datetimeFromIsoformat (rt.isoformat request.now) =
      some ⟨request.now, some 0⟩) (tz : rt.Zone) :
    resolveCurrentDatetime rt request.now (some (buildAuthorizationContext rt request)) tz =
      resolveCurrentDatetime rt request.now none tz := by
  have clock : contextGet (some (buildAuthorizationContext rt request)) "current_time" =
      .str (rt.isoformat request.now) := rfl
  have noOverride : contextGet none "current_time" = .null := rfl
  unfold resolveCurrentDatetime
  rw [clock, noOverride]
  dsimp only
  split
  · simp [Json.text, roundTrip, Json.truthy]
  · rfl

/-- Conditions on time look at the request only through the clock. -/
theorem timeCondition_congr {attempt other : Attempt}
    (sameClock : ∀ tz, resolveCurrentDatetime rt attempt.now attempt.context tz =
      resolveCurrentDatetime rt other.now other.context tz) (value : Json) :
    timeCondition rt value attempt = timeCondition rt value other := by
  unfold timeCondition
  simp only [sameClock]

theorem dateRangeCondition_congr {attempt other : Attempt}
    (sameClock : ∀ tz, resolveCurrentDatetime rt attempt.now attempt.context tz =
      resolveCurrentDatetime rt other.now other.context tz) (value : Json) :
    dateRangeCondition rt value attempt = dateRangeCondition rt value other := by
  unfold dateRangeCondition
  simp only [sameClock]

theorem networkCondition_bare (value : Json) (resource : Option Dict) :
    networkCondition value (request.attempt resource none) = false := by
  have noCaller : contextGet none "ip_address" = .null := rfl
  unfold networkCondition
  split
  · split
    · simp [Request.attempt, noCaller, Json.truthy]
    · rfl
  · rfl

/-- With a context a condition holds that holds without one, and network and
context attributes hold only with one. -/
theorem satisfies_bare_iff
    (roundTrip : rt.datetimeFromIsoformat (rt.isoformat request.now) =
      some ⟨request.now, some 0⟩) {policy : Policy rt} {condition : String × Json}
    (member : condition ∈ policy.block) (resource : Option Dict) :
    satisfies rt (request.attempt resource none) condition = true ↔
      satisfies rt (request.attempt resource (some (buildAuthorizationContext rt request)))
          condition = true ∧
        ¬(condition.1 = "network" ∨ condition.1 = "context_attributes") := by
  obtain ⟨key, value⟩ := condition
  have sameClock (tz : rt.Zone) :
      resolveCurrentDatetime rt (request.attempt resource none).now
          (request.attempt resource none).context tz =
        resolveCurrentDatetime rt
          (request.attempt resource (some (buildAuthorizationContext rt request))).now
          (request.attempt resource (some (buildAuthorizationContext rt request))).context tz :=
    (resolveCurrentDatetime_built roundTrip tz).symm
  have registered := policy.block_key_registered member
  unfold validators at registered
  split at registered
  · simp [satisfies, conditionRegistry, selfOnlyCondition, Request.attempt]
  · simp [satisfies, conditionRegistry, resourceAttributesCondition, Request.attempt]
  · obtain ⟨fields, rfl, nonempty, _⟩ := policy.block_expectations rfl member
    have truthy : (Json.obj fields).truthy = true := by simpa [Json.truthy] using nonempty
    simp [satisfies, conditionRegistry, contextAttributesCondition, Request.attempt, truthy]
  · obtain ⟨fields, rfl, nonempty, _⟩ := policy.block_expectations rfl member
    have truthy : (Json.obj fields).truthy = true := by simpa [Json.truthy] using nonempty
    simp [satisfies, conditionRegistry, securityContextCondition, Request.attempt, truthy,
      buildAuthorizationContext]
  · simp [satisfies, conditionRegistry, timeCondition_congr sameClock value]
  · simp [satisfies, conditionRegistry, dateRangeCondition_congr sameClock value]
  · simp [satisfies, conditionRegistry, networkCondition_bare value resource]
  · simp at registered

theorem satisfied_bare_iff
    (roundTrip : rt.datetimeFromIsoformat (rt.isoformat request.now) =
      some ⟨request.now, some 0⟩) (policy : Policy rt) (resource : Option Dict) :
    policy.Satisfied (request.attempt resource none) ↔
      policy.Satisfied (request.attempt resource (some (buildAuthorizationContext rt request))) ∧
        ¬NeedsContext policy := by
  constructor
  · intro satisfied
    refine ⟨fun condition member => ?_, ?_⟩
    · exact ((satisfies_bare_iff roundTrip member resource).mp (satisfied condition member)).1
    · rintro ⟨condition, member, needs⟩
      exact ((satisfies_bare_iff roundTrip member resource).mp (satisfied condition member)).2 needs
  · rintro ⟨satisfied, independent⟩ condition member
    refine (satisfies_bare_iff roundTrip member resource).mpr ⟨satisfied condition member, ?_⟩
    exact fun needs => independent ⟨condition, member, needs⟩

/-- The attempt on a company under the context of the request. -/
def contextAttempt (rt : Runtime) (request : Request) (company : Company) : Attempt :=
  request.attempt (some (resourceScopeDict company.id company.groupRootId))
    (some (buildAuthorizationContext rt request))

/-- The attempt the route itself checks. -/
def bareAttempt (request : Request) (company : Company) : Attempt :=
  request.attempt (some (resourceScopeDict company.id company.groupRootId)) none

/-- A route about one company decides as the evaluator would under the context
of the request, exactly unless what grants there are only policies with a
network or context condition. -/
theorem passes_iff_builtContext_iff {activePolicies : String → List (Policy rt)}
    {endpoint : Endpoint} {check : CompanyCheck} (isCheck : endpoint.companyCheck = some check)
    {db : Database} {store : Store} {company : Company}
    (found : store.findCompany check.companyId = some company)
    (roundTrip : rt.datetimeFromIsoformat (rt.isoformat request.now) =
      some ⟨request.now, some 0⟩) :
    (Passes activePolicies db store ⟨request, endpoint⟩ ↔
      evaluate (activePolicies request.userEmail) check.action check.resourceType
        (contextAttempt rt request company) = true) ↔
    ((∃ policy ∈ activePolicies request.userEmail,
        policy.AppliesTo check.action check.resourceType ∧ NeedsContext policy ∧
          policy.Satisfied (contextAttempt rt request company)) →
      ∃ policy ∈ activePolicies request.userEmail,
        policy.AppliesTo check.action check.resourceType ∧ ¬NeedsContext policy ∧
          policy.Satisfied (contextAttempt rt request company)) := by
  have bare (policy : Policy rt) := satisfied_bare_iff roundTrip policy
    (some (resourceScopeDict company.id company.groupRootId))
  rw [passes_iff_allows isCheck found, Allows, evaluate_eq_true, evaluate_eq_true]
  simp only [bare]
  constructor
  · rintro agree ⟨policy, member, applies, _, satisfied⟩
    obtain ⟨other, inside, otherApplies, holds, independent⟩ :=
      agree.mpr ⟨policy, member, applies, satisfied⟩
    exact ⟨other, inside, otherApplies, independent, holds⟩
  · intro backed
    constructor
    · rintro ⟨policy, member, applies, satisfied, _⟩
      exact ⟨policy, member, applies, satisfied⟩
    · rintro ⟨policy, member, applies, satisfied⟩
      by_cases needs : NeedsContext policy
      · obtain ⟨other, inside, otherApplies, independent, holds⟩ :=
          backed ⟨policy, member, applies, needs, satisfied⟩
        exact ⟨other, inside, otherApplies, holds, independent⟩
      · exact ⟨policy, member, applies, satisfied, needs⟩

end Built

/-! A reader in the office asks for company 1. -/

def inOffice : Request := ⟨"reader@example.com", some "10.1.2.3", epoch⟩

def jio : Company := ⟨1, "Jio Platforms", "JIO", none, 1, 0⟩

def onlyJio : Store := { Store.empty with companies := [jio] }

def officePolicies (_userEmail : String) : List (Policy utcRuntime) := [officeOnly]

theorem passes_builtContext_inOffice :
    (Passes officePolicies Database.counting onlyJio ⟨inOffice, .getCompany 1⟩ ↔
      evaluate (officePolicies inOffice.userEmail) COMPANY_READ RESOURCE_COMPANY
        (contextAttempt utcRuntime inOffice jio) = true) ↔
    ((∃ policy ∈ officePolicies inOffice.userEmail,
        policy.AppliesTo COMPANY_READ RESOURCE_COMPANY ∧ NeedsContext policy ∧
          policy.Satisfied (contextAttempt utcRuntime inOffice jio)) →
      ∃ policy ∈ officePolicies inOffice.userEmail,
        policy.AppliesTo COMPANY_READ RESOURCE_COMPANY ∧ ¬NeedsContext policy ∧
          policy.Satisfied (contextAttempt utcRuntime inOffice jio)) := by
  have isCheck : (Endpoint.getCompany 1).companyCheck =
      some ⟨COMPANY_READ, RESOURCE_COMPANY, 1⟩ := rfl
  have found : onlyJio.findCompany 1 = some jio := rfl
  exact passes_iff_builtContext_iff isCheck found rfl

/-- The evaluator allows the read under the context of the request, and the
route answers 403. -/
theorem inOffice_denied :
    ¬(Passes officePolicies Database.counting onlyJio ⟨inOffice, .getCompany 1⟩ ↔
      evaluate (officePolicies inOffice.userEmail) COMPANY_READ RESOURCE_COMPANY
        (contextAttempt utcRuntime inOffice jio) = true) := by
  intro agree
  have allowed : evaluate (officePolicies inOffice.userEmail) COMPANY_READ RESOURCE_COMPANY
      (contextAttempt utcRuntime inOffice jio) = true := rfl
  exact agree.mpr allowed rfl

end BalanceSheetAnalysis.Access

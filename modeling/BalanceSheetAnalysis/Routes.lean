import BalanceSheetAnalysis.BalanceSheets.Crud
import BalanceSheetAnalysis.Companies.Crud
import BalanceSheetAnalysis.Companies.Listing
import BalanceSheetAnalysis.Llm.Service

/-! The routes.  A route about one company fetches the row first, and then
authorizes the caller against the row it fetched. -/
namespace BalanceSheetAnalysis
open Library Authorization Access BalanceSheetAnalysis.Action

/-- What the routes see of a request beside path and body.  The server clock
stands still while a request is checked. -/
structure Request where
  userEmail : String
  clientIp : Option String
  now : ServerTime

def buildAuthorizationContext (rt : Runtime) (request : Request) : Context where
  entries :=
    [("ip_address", (request.clientIp.map Json.str).getD .null),
      ("current_time", .str (rt.isoformat request.now))]
  distinct := by simp
  securityContext := some []

def getOr404 {α : Type} (fetch : Action (Option α)) (notFoundDetail : String) : Action α := do
  match ← fetch with
  | some obj => return obj
  | none => throw (.httpException 404 notFoundDetail)

/-- `except ValueError`: status 400. -/
def badRequest : Failure → Failure
  | .valueError detail => .httpException 400 detail
  | failure => failure

/-- `except YFinanceFetchError` and `except RuntimeError`: status 502. -/
def badGateway : Failure → Failure
  | .yFinanceFetchError detail => .httpException 502 detail
  | .runtimeError detail => .httpException 502 detail
  | failure => failure

/-- `resource.get("email") or resource.get("id")`.  The log has `str(...)` of it; here
it is left as the value, and for a company it is null. -/
def resourceIdentifier (resource : Option Dict) : Option Json :=
  resource.bind fun resource =>
    let email := resource.get "email"
    let identifier := if email.truthy then email else resource.get "id"
    if identifier.isNull then none else some identifier

section Routes
variable {rt : Runtime} (activePolicies : String → List (Policy rt)) (request : Request)

/-- The attempt an authorization check of this request is about. -/
def Request.attempt (resource : Option Dict) (context : Option Context) : Attempt :=
  ⟨request.userEmail, resource, context, request.now⟩

def authorizeDetailed (action resourceType : String) (resource : Option Dict)
    (context : Option Context) : AuthorizationDecision :=
  evaluateDetailed (activePolicies request.userEmail) action resourceType
    (request.attempt resource context)

def auditEntry (action resourceType : String) (resource : Option Dict)
    (context : Option Context) (decision : AuthorizationDecision) : AuditEntry where
  userEmail := request.userEmail
  action := action
  resourceType := resourceType
  resourceIdentifier := resourceIdentifier resource
  allowed := decision.allowed
  candidatePolicyNames := decision.matchedPolicies ++ decision.rejectedPolicies
  grantingPolicyNames := decision.matchedPolicies
  failedConditions :=
    if decision.failedConditions.isEmpty then none else some decision.failedConditions
  context := context

/-- `_log_decision`. -/
def logDecision (action resourceType : String) (resource : Option Dict)
    (context : Option Context) (decision : AuthorizationDecision) : Action Unit :=
  query (.insertAudit (auditEntry request action resourceType resource context decision))

def authorize (action resourceType : String) (resource : Option Dict)
    (context : Option Context) : Action Bool := do
  let decision := authorizeDetailed activePolicies request action resourceType resource context
  logDecision request action resourceType resource context decision
  return decision.allowed

def require (action resourceType : String) (resource : Option Dict) (context : Option Context) :
    Action Unit := do
  match ← authorize activePolicies request action resourceType resource context with
  | true => return ()
  | false => throw (.httpException 403 "Insufficient permissions")

/-- The dependency of routes that are not about one resource. -/
def requireAuthorization (action resourceType : String) : Action Unit :=
  require activePolicies request action resourceType none
    (some (buildAuthorizationContext rt request))

/-- How every route about one company begins. -/
def authorizedCompany (action resourceType : String) (companyId : Int) : Action Company := do
  let company ← getOr404 (getCompanyById companyId) "Company not found"
  require activePolicies request action resourceType
    (some (resourceScopeDict company.id company.groupRootId)) none
  return company

def addCompany (data : CompanyCreate) : Action Company := do
  requireAuthorization activePolicies request COMPANY_CREATE RESOURCE_COMPANY
  (createCompany data).translate badRequest

def callerScope (action resourceType : String) : Action CompanyScope :=
  match getCompanyScope (activePolicies request.userEmail) action resourceType with
  | .ok scope => return scope
  | .error _ => throw (.typeError "unhashable type")

/-- The total goes out in the `X-Total-Count` header. -/
def listCompanies (collation : Collation) (params : ListParams) :
    Action (Nat × List (Company × Option String)) := do
  let scope ← callerScope activePolicies request COMPANY_READ RESOURCE_COMPANY
  let total ← countCompaniesInScope collation scope params.search params.hierarchyScope
  let rows ← listCompaniesInScope collation scope params
  return (total, rows)

def getCompany (companyId : Int) : Action Company :=
  authorizedCompany activePolicies request COMPANY_READ RESOURCE_COMPANY companyId

def editCompany (companyId : Int) (data : CompanyUpdate) : Action Company := do
  let company ← authorizedCompany activePolicies request COMPANY_UPDATE RESOURCE_COMPANY companyId
  (updateCompany company data).translate badRequest

def removeCompany (companyId : Int) : Action Unit := do
  let company ← authorizedCompany activePolicies request COMPANY_DELETE RESOURCE_COMPANY companyId
  (deleteCompany company).translate badRequest

def listCompanyBalanceSheets (companyId : Int) : Action (List BalanceSheet) := do
  let _ ← authorizedCompany activePolicies request BALANCE_SHEET_READ RESOURCE_BALANCE_SHEET
    companyId
  listBalanceSheetsForCompany companyId

def getCompanyBalanceSheet (companyId year : Int) : Action BalanceSheet := do
  let _ ← authorizedCompany activePolicies request BALANCE_SHEET_READ RESOURCE_BALANCE_SHEET
    companyId
  getOr404 (getBalanceSheet companyId year) "Balance sheet not found"

def createCompanyBalanceSheet (fetch : Fetch) (companyId year : Int) : Action BalanceSheet := do
  let company ← authorizedCompany activePolicies request BALANCE_SHEET_IMPORT
    RESOURCE_BALANCE_SHEET companyId
  (importBalanceSheet fetch companyId year company.ticker).translate (badGateway ∘ badRequest)

def deleteCompanyBalanceSheet (companyId year : Int) : Action Unit := do
  let _ ← authorizedCompany activePolicies request BALANCE_SHEET_DELETE RESOURCE_BALANCE_SHEET
    companyId
  let sheet ← getOr404 (getBalanceSheet companyId year) "Balance sheet not found"
  deleteBalanceSheet sheet

structure ChatRequest where
  companyId : Int
  years : Option (List Int)
  question : Text 2000

def chat (askGroq : AskGroq) (payload : ChatRequest) : Action String := do
  let company ← authorizedCompany activePolicies request LLM_CHAT RESOURCE_LLM payload.companyId
  let balanceSheets ← listBalanceSheetsForCompanyYears company.id payload.years
  let context := buildGroundingContext company.name company.ticker balanceSheets
  Action.translate badGateway <|
    match askGroq payload.question context with
    | .ok answer => return answer
    | .error detail => throw (.runtimeError detail)

end Routes
end BalanceSheetAnalysis

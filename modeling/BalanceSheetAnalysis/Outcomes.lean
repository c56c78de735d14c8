import BalanceSheetAnalysis.Access.Documented
import BalanceSheetAnalysis.Access.RequestContext
import BalanceSheetAnalysis.BalanceSheets.Columns
import BalanceSheetAnalysis.BalanceSheets.Ledger
import BalanceSheetAnalysis.Companies.Update
import BalanceSheetAnalysis.Store.Columns

/-! What a request that passes its check ends in.  The integers and texts of a
request are not bounded by the columns they are sent to, so a request ends as
documented only while those it gets to send fit. -/
namespace BalanceSheetAnalysis
open Library Authorization Access BalanceSheetAnalysis.Action

/-! The values a request sends, on the store as it stands. -/

/-- The years are sent only once the company is found. -/
def YearsFit (store : Store) (companyId : Int) (years : List Int) : Prop :=
  FitsInteger companyId ∧ (store.findCompany companyId ≠ none → ∀ year ∈ years, FitsInteger year)

/-- Every value the request gets to send fits its column. -/
def Endpoint.Fits (store : Store) : Endpoint → Prop
  | .addCompany data => CreateFits store data
  | .getCompany companyId | .removeCompany companyId | .listCompanyBalanceSheets companyId =>
      FitsInteger companyId
  | .editCompany companyId data =>
      FitsInteger companyId ∧
        ∀ company, store.findCompany companyId = some company → UpdateFits store company data
  | .getCompanyBalanceSheet companyId year | .createCompanyBalanceSheet _ companyId year
  | .deleteCompanyBalanceSheet companyId year => YearsFit store companyId [year]
  | .chat _ payload => YearsFit store payload.companyId (payload.years.getD [])
  -- The list is not about one row; when its query is answered says `Answerable`.
  | .listCompanies _ _ => False

/-! What it is documented to end in. -/

/-- The statuses of a request that passes its check, beside success. -/
def Endpoint.statuses : Endpoint → List Nat
  | .addCompany _ => [400]
  | .editCompany _ _ | .removeCompany _ => [400, 404]
  | .createCompanyBalanceSheet _ _ _ => [400, 404, 502]
  | .getCompany _ | .listCompanyBalanceSheets _ | .getCompanyBalanceSheet _ _
  | .deleteCompanyBalanceSheet _ _ => [404]
  | .chat _ _ => [404, 502]
  | .listCompanies _ _ => []

/-- Success, or an HTTP error with one of the statuses. -/
def EndsIn {α : Type} (statuses : List Nat) (result : Except Failure α) : Prop :=
  ∀ failure, result = .error failure →
    ∃ status ∈ statuses, ∃ detail, failure = .httpException status detail

/-- No documented outcome is the database's own error. -/
def Endpoint.Documented (endpoint : Endpoint) (outcome : Option (Except Failure Unit)) : Prop :=
  ∃ result, outcome = some result ∧ EndsIn endpoint.statuses result

section Accepted
variable {db : Database} {store : Store}

section Routes
variable {rt : Runtime} {activePolicies : String → List (Policy rt)} {request : Request}

/-! What the routes end in on any columns. -/

theorem endsIn_ok {α : Type} (statuses : List Nat) (value : α) : EndsIn statuses (.ok value) :=
  nofun

theorem endsIn_http {α : Type} {statuses : List Nat} {status : Nat} (member : status ∈ statuses)
    (detail : String) :
    EndsIn statuses (.error (.httpException status detail) : Except Failure α) := by
  rintro _ ⟨⟩
  exact ⟨status, member, detail, rfl⟩

theorem endsIn_bind {α β : Type} {statuses : List Nat} {action : Action α} {rest : α → Action β}
    (first : EndsIn statuses (action.execute db store).1)
    (continues : ∀ value later, EndsIn statuses ((rest value).execute db later).1) :
    EndsIn statuses ((action >>= rest).execute db store).1 := by
  rw [execute_bind]
  rcases run : action.execute db store with ⟨_ | value, later⟩
  · rw [run] at first
    rintro _ ⟨⟩
    exact first _ rfl
  · exact continues value later

theorem endsIn_ignore {α : Type} {statuses : List Nat} {action : Action α}
    (ends : EndsIn statuses (action.execute db store).1) :
    EndsIn statuses (action.ignore.execute db store).1 :=
  endsIn_bind ends fun _ _ => endsIn_ok _ _

theorem endsIn_authorized {α : Type} {statuses : List Nat} {action resourceType : String}
    {companyId : Int} {rest : Company → Action α} (absent : 404 ∈ statuses)
    (allows : ∀ company, store.findCompany companyId = some company →
      Allows activePolicies request action resourceType company.id company.groupRootId)
    (continues : ∀ company, store.findCompany companyId = some company →
      EndsIn statuses ((rest company).execute db
        (recorded activePolicies request action resourceType company store)).1) :
    EndsIn statuses
      ((authorizedCompany activePolicies request action resourceType companyId >>= rest).execute db
        store).1 := by
  rw [execute_authorizedCompany_bind]
  cases found : store.findCompany companyId with
  | none => exact endsIn_http absent _
  | some company =>
      dsimp only
      rw [if_pos (allows company found)]
      exact continues company found

theorem endsIn_createCompany {statuses : List Nat} (badRequestIn : 400 ∈ statuses)
    (wf : store.WellFormed db) (data : CompanyCreate) :
    EndsIn statuses (((createCompany data).translate badRequest).execute db store).1 := by
  rw [execute_translate]
  rcases execute_createCompany wf data with ⟨detail, later, raised, _⟩ | ⟨row, later, created, _⟩
  · rw [raised]
    exact endsIn_http badRequestIn detail
  · rw [created]
    exact endsIn_ok _ _

theorem endsIn_updateCompany {statuses : List Nat} (badRequestIn : 400 ∈ statuses)
    (wf : store.WellFormed db) {company : Company} (member : company ∈ store.companies)
    (data : CompanyUpdate) :
    EndsIn statuses (((updateCompany company data).translate badRequest).execute db store).1 := by
  rw [execute_translate]
  rcases (settled_updateCompany db wf.companyConstraints member data).1 with
    ⟨row, _, committed⟩ | ⟨detail, raised⟩
  · rw [Option.some.inj (congrArg Prod.fst committed)]
    exact endsIn_ok _ _
  · rw [Option.some.inj (congrArg Prod.fst raised)]
    exact endsIn_http badRequestIn detail

theorem endsIn_deleteCompany {statuses : List Nat} (badRequestIn : 400 ∈ statuses)
    (company : Company) :
    EndsIn statuses (((deleteCompany company).translate badRequest).execute db store).1 := by
  rw [execute_translate]
  rcases execute_deleteCompany db store company with ⟨detail, raised⟩ | ⟨_, deleted⟩
  · rw [raised]
    exact endsIn_http badRequestIn detail
  · rw [deleted]
    exact endsIn_ok _ _

theorem endsIn_importBalanceSheet {statuses : List Nat} (badRequestIn : 400 ∈ statuses)
    (badGatewayIn : 502 ∈ statuses) (wf : store.WellFormed db) (fetch : Fetch)
    {companyId year : Int} {company : Company}
    (found : store.findCompany companyId = some company) :
    EndsIn statuses (((importBalanceSheet fetch companyId year company.ticker).translate
      (badGateway ∘ badRequest)).execute db store).1 := by
  rw [execute_translate]
  by_cases accepted : store.sheetAt (companyId, year) = none ∧
      ∃ fields, fetch company.ticker year = .ok (some fields)
  · obtain ⟨absent, fields, fetched⟩ := accepted
    rw [execute_importBalanceSheet_new wf found absent fetched]
    exact endsIn_ok _ _
  · have refused : store.sheetAt (companyId, year) ≠ none ∨
        ∀ fields, fetch company.ticker year ≠ .ok (some fields) := by
      rw [not_and_or, not_exists] at accepted
      exact accepted
    obtain ⟨failure, raised, kind⟩ := execute_importBalanceSheet_refused wf fetch refused
    rw [raised]
    rcases kind with ⟨detail, rfl⟩ | ⟨detail, rfl⟩
    · exact endsIn_http badRequestIn detail
    · exact endsIn_http badGatewayIn detail

theorem endsIn_getBalanceSheet {statuses : List Nat} (absent : 404 ∈ statuses)
    (wf : store.WellFormed db) (companyId year : Int) :
    EndsIn statuses ((getOr404 (getBalanceSheet companyId year) "Balance sheet not found").execute
      db store).1 := by
  rw [getOr404, execute_bind, execute_getBalanceSheet wf]
  cases store.sheetAt (companyId, year) with
  | none => exact endsIn_http absent _
  | some sheet => exact endsIn_ok _ _

/-! Every route but the list. -/

theorem allows_of_passes {call : Call} {check : CompanyCheck}
    (passes : Passes activePolicies db store call)
    (isCheck : call.endpoint.companyCheck = some check) (company : Company)
    (found : store.findCompany check.companyId = some company) :
    Allows activePolicies call.request check.action check.resourceType company.id
      company.groupRootId :=
  (passes_iff_allows isCheck found).mp passes

/-- A creation that passes its check leaves the check on record. -/
theorem execute_requireAuthorization {data : CompanyCreate}
    (passes : Passes activePolicies db store ⟨request, .addCompany data⟩) :
    ∃ log, (requireAuthorization activePolicies request COMPANY_CREATE RESOURCE_COMPANY).execute db
      store = (.ok (), { store with auditLog := log }) := by
  rw [requireAuthorization, execute_require]
  refine ⟨_, Prod.ext (if_pos ?_) rfl⟩
  by_contra denied
  apply passes
  show ((addCompany activePolicies request data).ignore.execute db store).1 = _
  rw [addCompany, Action.ignore, bind_assoc, requireAuthorization, execute_bind, execute_require,
    if_neg denied]
  rfl

theorem yearsFit_iff {companyId : Int} {years : List Int} :
    YearsFit store companyId years ↔ FitsInteger companyId ∧
      ∀ company, store.findCompany companyId = some company →
        FitsInteger companyId ∧ ∀ year ∈ years, FitsInteger year := by
  unfold YearsFit
  apply and_congr_right
  intro fits
  cases store.findCompany companyId <;> simp [fits]

theorem yearsFit_singleton {companyId year : Int} :
    YearsFit store companyId [year] ↔ FitsInteger companyId ∧
      ∀ company, store.findCompany companyId = some company →
        FitsInteger companyId ∧ FitsInteger year := by
  rw [yearsFit_iff]
  simp only [List.forall_mem_singleton]

theorem serve_endsIn (wf : store.WellFormed db) {call : Call}
    (oneRow : ∀ collation params, call.endpoint ≠ .listCompanies collation params)
    (passes : Passes activePolicies db store call) :
    EndsIn call.endpoint.statuses ((serve activePolicies call).execute db store).1 := by
  have allows {check : CompanyCheck} (isCheck : call.endpoint.companyCheck = some check) :=
    allows_of_passes passes isCheck
  obtain ⟨request, endpoint⟩ := call
  have kept (log : List AuditEntry) : ({ store with auditLog := log }).WellFormed db := { wf with }
  cases endpoint with
  | addCompany data =>
      obtain ⟨log, checked⟩ := execute_requireAuthorization passes
      apply endsIn_ignore
      rw [addCompany, execute_bind, checked]
      exact endsIn_createCompany (.head _) (kept log) data
  | listCompanies collation params => exact absurd rfl (oneRow collation params)
  | getCompany companyId =>
      apply endsIn_ignore
      rw [getCompany, ← bind_pure (authorizedCompany ..)]
      exact endsIn_authorized (.head _) (allows rfl) fun company _ => endsIn_ok _ company
  | editCompany companyId data =>
      apply endsIn_ignore
      refine endsIn_authorized (.tail _ (.head _)) (allows rfl) fun company found => ?_
      refine endsIn_updateCompany (.head _) (kept _) ?_ data
      exact (Table.find_eq_some found).1
  | removeCompany companyId =>
      refine endsIn_authorized (.tail _ (.head _)) (allows rfl) fun company _ => ?_
      exact endsIn_deleteCompany (.head _) company
  | listCompanyBalanceSheets companyId =>
      apply endsIn_ignore
      exact endsIn_authorized (.head _) (allows rfl) fun _ _ => endsIn_ok _ _
  | getCompanyBalanceSheet companyId year =>
      apply endsIn_ignore
      refine endsIn_authorized (.head _) (allows rfl) fun _ _ => ?_
      exact endsIn_getBalanceSheet (.head _) (kept _) companyId year
  | createCompanyBalanceSheet fetch companyId year =>
      apply endsIn_ignore
      refine endsIn_authorized (.tail _ (.head _)) (allows rfl) fun company found => ?_
      refine endsIn_importBalanceSheet (.head _) (.tail _ (.tail _ (.head _))) (kept _) fetch ?_
      exact found
  | deleteCompanyBalanceSheet companyId year =>
      refine endsIn_authorized (.head _) (allows rfl) fun _ _ => ?_
      refine endsIn_bind ?_ fun _ _ => endsIn_ok _ _
      exact endsIn_getBalanceSheet (.head _) (kept _) companyId year
  | chat askGroq payload =>
      apply endsIn_ignore
      refine endsIn_authorized (.head _) (allows rfl) fun company _ => ?_
      refine endsIn_bind (endsIn_ok _ _) fun sheets later => ?_
      rw [execute_translate]
      cases askGroq payload.question (buildGroundingContext company.name company.ticker sheets) with
      | ok answer => exact endsIn_ok _ _
      | error detail => exact endsIn_http (.tail _ (.head _)) detail

theorem accepted_serve_iff (wf : store.WellFormed db) (typed : store.Typed db) {call : Call}
    (oneRow : ∀ collation params, call.endpoint ≠ .listCompanies collation params)
    (passes : Passes activePolicies db store call) :
    Accepted db store (serve activePolicies call) ↔ call.endpoint.Fits store := by
  have allows {check : CompanyCheck} (isCheck : call.endpoint.companyCheck = some check) :=
    allows_of_passes passes isCheck
  obtain ⟨request, endpoint⟩ := call
  have kept (log : List AuditEntry) : ({ store with auditLog := log }).WellFormed db := { wf with }
  have still (log : List AuditEntry) : ({ store with auditLog := log }).Typed db := { typed with }
  cases endpoint with
  | addCompany data =>
      refine (accepted_ignore _).trans ?_
      obtain ⟨log, checked⟩ := execute_requireAuthorization passes
      rw [addCompany, accepted_bind_ok checked, accepted_translate,
        accepted_createCompany (still log)]
      exact and_iff_right (accepted_require _ _ _ _)
  | listCompanies collation params => exact absurd rfl (oneRow collation params)
  | getCompany companyId => exact (accepted_ignore _).trans (accepted_authorizedCompany _ _ _)
  | editCompany companyId data =>
      refine (accepted_ignore _).trans (accepted_authorized (allows rfl) fun company found => ?_)
      refine (accepted_translate _ _).trans (accepted_updateCompany (still _).companyColumns ?_)
      exact (Table.find_eq_some found).1
  | removeCompany companyId =>
      refine (accepted_authorized (allows rfl) fun company found => ?_).trans
        (and_iff_left fun _ _ => trivial)
      refine (accepted_translate _ _).trans (iff_true_intro (accepted_deleteCompany (still _) ?_))
      exact (Table.find_eq_some found).1
  | listCompanyBalanceSheets companyId =>
      refine (accepted_ignore _).trans ?_
      refine (accepted_authorized (allows rfl) fun company found => accepted_query _).trans ?_
      exact and_iff_left_of_imp fun fits _ _ => ⟨fits, List.forall_mem_nil _⟩
  | getCompanyBalanceSheet companyId year =>
      refine (accepted_ignore _).trans ?_
      refine Iff.trans ?_ yearsFit_singleton.symm
      exact accepted_authorized (allows rfl) fun _ _ => accepted_getOr404_getBalanceSheet
  | createCompanyBalanceSheet fetch companyId year =>
      refine (accepted_ignore _).trans ?_
      refine (accepted_authorized (allows rfl) fun company found => ?_).trans
        yearsFit_singleton.symm
      refine (accepted_translate _ _).trans ?_
      exact accepted_importBalanceSheet (still _) (kept _) fetch company.ticker
  | deleteCompanyBalanceSheet companyId year =>
      refine (accepted_authorized (allows rfl) fun _ _ => ?_).trans yearsFit_singleton.symm
      exact accepted_deleteBalanceSheet (still _) (kept _)
  | chat askGroq payload =>
      refine (accepted_ignore _).trans ?_
      refine (accepted_authorized (allows rfl) fun company found => ?_).trans yearsFit_iff.symm
      have same : company.id = payload.companyId := (Table.find_eq_some found).2
      rw [same]
      refine (accepted_query_bind _ _).trans (and_iff_left ?_)
      rw [accepted_translate]
      generalize askGroq _ _ = answer
      cases answer <;> trivial

/-- A request that passes its check ends in a documented outcome exactly when
every value it gets to send fits its column. -/
theorem serve_documented_iff (wf : store.WellFormed db) (typed : store.Typed db) {call : Call}
    (oneRow : ∀ collation params, call.endpoint ≠ .listCompanies collation params)
    (passes : Passes activePolicies db store call) :
    call.endpoint.Documented ((serve activePolicies call).executeTyped db store).1 ↔
      call.endpoint.Fits store := by
  rw [← accepted_serve_iff wf typed oneRow passes]
  by_cases accepted : Accepted db store (serve activePolicies call)
  · rw [executeTyped_of_accepted accepted]
    exact iff_of_true ⟨_, rfl, serve_endsIn wf oneRow passes⟩ accepted
  · rw [executeTyped_of_refused accepted]
    refine iff_of_false ?_ accepted
    rintro ⟨_, ⟨⟩, _⟩

end Routes

end Accepted

/-! A caller who may create and read every company. -/

def openPolicies (_userEmail : String) : List (Policy utcRuntime) :=
  [policyForAll [COMPANY_CREATE, COMPANY_READ]]

theorem empty_typed : Store.empty.Typed .counting where
  companyIds := nofun
  groups := nofun
  names := nofun
  tickers := nofun
  sheetIds := nofun
  nextCompany := by decide
  nextSheet := by decide

theorem serve_documented_jio :
    (Endpoint.addCompany (jioPlatforms none)).Documented
      ((serve openPolicies ⟨inOffice, .addCompany (jioPlatforms none)⟩).executeTyped .counting
        .empty).1 := by
  have passes : Passes openPolicies .counting .empty
      ⟨inOffice, .addCompany (jioPlatforms none)⟩ := by
    rintro ⟨⟩
  have documented := serve_documented_iff (Store.wellFormed_empty .counting) empty_typed
    (fun _ _ => by simp) passes
  exact documented.mpr ⟨nofun, fun _ => ⟨by decide, by decide⟩⟩

/-- No company has the id 2147483648, and the answer is not the documented 404. -/
theorem getCompany_undocumented :
    Passes openPolicies .counting .empty ⟨inOffice, .getCompany (2 ^ 31)⟩ ∧
      ¬(Endpoint.getCompany (2 ^ 31)).Documented
        ((serve openPolicies ⟨inOffice, .getCompany (2 ^ 31)⟩).executeTyped .counting
          .empty).1 := by
  refine ⟨by rintro ⟨⟩, ?_⟩
  rintro ⟨_, ended, _⟩
  cases ended

end BalanceSheetAnalysis

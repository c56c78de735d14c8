import BalanceSheetAnalysis.Routes

/-! Requests of any kind, and the one statement the results about runs of them
start from: what a request may write, given what it was told. -/
namespace BalanceSheetAnalysis
open Library Authorization Access BalanceSheetAnalysis.Action

/-- A route with its arguments; what the services outside answer during the
request comes with it. -/
inductive Endpoint where
  | addCompany (data : CompanyCreate)
  | listCompanies (collation : Collation) (params : ListParams)
  | getCompany (companyId : Int)
  | editCompany (companyId : Int) (data : CompanyUpdate)
  | removeCompany (companyId : Int)
  | listCompanyBalanceSheets (companyId : Int)
  | getCompanyBalanceSheet (companyId year : Int)
  | createCompanyBalanceSheet (fetch : Fetch) (companyId year : Int)
  | deleteCompanyBalanceSheet (companyId year : Int)
  | chat (askGroq : AskGroq) (payload : ChatRequest)

structure CompanyCheck where
  action : String
  resourceType : String
  companyId : Int

/-- The check a route about one company makes. -/
def Endpoint.companyCheck : Endpoint → Option CompanyCheck
  | .getCompany companyId => some ⟨COMPANY_READ, RESOURCE_COMPANY, companyId⟩
  | .editCompany companyId _ => some ⟨COMPANY_UPDATE, RESOURCE_COMPANY, companyId⟩
  | .removeCompany companyId => some ⟨COMPANY_DELETE, RESOURCE_COMPANY, companyId⟩
  | .listCompanyBalanceSheets companyId =>
      some ⟨BALANCE_SHEET_READ, RESOURCE_BALANCE_SHEET, companyId⟩
  | .getCompanyBalanceSheet companyId _ =>
      some ⟨BALANCE_SHEET_READ, RESOURCE_BALANCE_SHEET, companyId⟩
  | .createCompanyBalanceSheet _ companyId _ =>
      some ⟨BALANCE_SHEET_IMPORT, RESOURCE_BALANCE_SHEET, companyId⟩
  | .deleteCompanyBalanceSheet companyId _ =>
      some ⟨BALANCE_SHEET_DELETE, RESOURCE_BALANCE_SHEET, companyId⟩
  | .chat _ payload => some ⟨LLM_CHAT, RESOURCE_LLM, payload.companyId⟩
  | .addCompany _ | .listCompanies _ _ => none

structure Call where
  request : Request
  endpoint : Endpoint

section Serve
variable {rt : Runtime} (activePolicies : String → List (Policy rt))

def serve (call : Call) : Action Unit :=
  let request := call.request
  match call.endpoint with
  | .addCompany data => (addCompany activePolicies request data).ignore
  | .listCompanies collation params =>
      (listCompanies activePolicies request collation params).ignore
  | .getCompany companyId => (getCompany activePolicies request companyId).ignore
  | .editCompany companyId data => (editCompany activePolicies request companyId data).ignore
  | .removeCompany companyId => removeCompany activePolicies request companyId
  | .listCompanyBalanceSheets companyId =>
      (listCompanyBalanceSheets activePolicies request companyId).ignore
  | .getCompanyBalanceSheet companyId year =>
      (getCompanyBalanceSheet activePolicies request companyId year).ignore
  | .createCompanyBalanceSheet fetch companyId year =>
      (createCompanyBalanceSheet activePolicies request fetch companyId year).ignore
  | .deleteCompanyBalanceSheet companyId year =>
      deleteCompanyBalanceSheet activePolicies request companyId year
  | .chat askGroq payload => (chat activePolicies request askGroq payload).ignore

/-- The caller's policies allow the action on a company with this id and group. -/
def Allows (request : Request) (action resourceType : String) (companyId groupRootId : Int) :
    Prop :=
  evaluate (activePolicies request.userEmail) action resourceType
    (request.attempt (some (resourceScopeDict companyId groupRootId)) none) = true

/-- The request was told this row, and its caller's policies allow the action on
the row as it was told. -/
def Cleared (request : Request) (action resourceType : String) (companyId : Int)
    (told : Program.History Reply) (company : Company) : Prop :=
  Program.Told told (.getCompany companyId) (some company) ∧
    Allows activePolicies request action resourceType company.id company.groupRootId

/-- What a call may write, given what it was told. -/
def MayWrite (call : Call) (told : Program.History Reply) (op : Operation) : Prop :=
  let cleared := Cleared activePolicies call.request
  match call.endpoint with
  | .addCompany data => ∃ groupRootId, GroupRead told data.parentCompanyId groupRootId ∧
      op = .insertCompany ⟨data.name, data.ticker, data.parentCompanyId, groupRootId⟩
  | .editCompany companyId data => ∃ company place,
      cleared COMPANY_UPDATE RESOURCE_COMPANY companyId told company ∧
      Placed told company data.parentCompanyId place ∧
      op = .updateCompany company (data.assign company place)
  | .removeCompany companyId => ∃ company,
      cleared COMPANY_DELETE RESOURCE_COMPANY companyId told company ∧
      Program.Told told (.countSubsidiaries company.id) 0 ∧ op = .deleteCompany company.id
  | .createCompanyBalanceSheet fetch companyId year => ∃ company fields,
      cleared BALANCE_SHEET_IMPORT RESOURCE_BALANCE_SHEET companyId told company ∧
      fetch company.ticker year = .ok (some fields) ∧
      op = .insertBalanceSheet companyId year (knownFields fields)
  | .deleteCompanyBalanceSheet companyId year => ∃ company sheet,
      cleared BALANCE_SHEET_DELETE RESOURCE_BALANCE_SHEET companyId told company ∧
      Program.Told told (.selectBalanceSheet companyId year) [sheet] ∧
      op = .deleteBalanceSheet sheet.id
  | _ => False

/-- The store once the check of the company's row is on record. -/
def recorded (request : Request) (action resourceType : String) (company : Company)
    (store : Store) : Store :=
  let resource := some (resourceScopeDict company.id company.groupRootId)
  { store with auditLog := store.auditLog ++
      [auditEntry request action resourceType resource none
        (authorizeDetailed activePolicies request action resourceType resource none)] }

instance (request : Request) (action resourceType : String) (companyId groupRootId : Int) :
    Decidable (Allows activePolicies request action resourceType companyId groupRootId) :=
  inferInstanceAs (Decidable (_ = true))

theorem execute_require (request : Request) (action resourceType : String)
    (resource : Option Dict) (context : Option Context) (db : Database) (store : Store) :
    (require activePolicies request action resourceType resource context).execute db store =
      (if evaluate (activePolicies request.userEmail) action resourceType
          (request.attempt resource context) then .ok ()
        else .error (.httpException 403 "Insufficient permissions"),
      { store with
        auditLog := store.auditLog ++ [auditEntry request action resourceType resource context
          (authorizeDetailed activePolicies request action resourceType resource context)] }) := by
  have decided : (authorizeDetailed activePolicies request action resourceType resource
      context).allowed = evaluate (activePolicies request.userEmail) action resourceType
        (request.attempt resource context) := rfl
  rw [require, authorize, bind_assoc]
  refine (execute_query_bind db store _ _).trans ?_
  rw [pure_bind, decided]
  cases evaluate (activePolicies request.userEmail) action resourceType
    (request.attempt resource context) <;> rfl

/-- What the head of a route about one company does, alone. -/
theorem execute_authorizedCompany (request : Request) (action resourceType : String)
    (companyId : Int) (db : Database) (store : Store) :
    (authorizedCompany activePolicies request action resourceType companyId).execute db store =
      match store.findCompany companyId with
      | none => (.error (.httpException 404 "Company not found"), store)
      | some company =>
          (if Allows activePolicies request action resourceType company.id company.groupRootId then
            .ok company
          else .error (.httpException 403 "Insufficient permissions"),
          recorded activePolicies request action resourceType company store) := by
  rw [authorizedCompany, getOr404, getCompanyById, bind_assoc]
  refine (execute_query_bind db store _ _).trans ?_
  have isFound : (Store.exec db (.getCompany companyId) store).1 = store.findCompany companyId :=
    rfl
  have unchanged : (Store.exec db (.getCompany companyId) store).2 = store := rfl
  rw [isFound, unchanged]
  cases store.findCompany companyId with
  | none => rfl
  | some company =>
      rw [pure_bind, execute_bind, execute_require]
      dsimp only
      by_cases allows : Allows activePolicies request action resourceType company.id
          company.groupRootId
      · rw [if_pos allows, if_pos (show evaluate _ _ _ _ = true from allows)]
        rfl
      · rw [if_neg allows, if_neg (show ¬evaluate _ _ _ _ = true from allows)]
        rfl

theorem execute_authorizedCompany_bind {α : Type} (request : Request)
    (action resourceType : String) (companyId : Int) (rest : Company → Action α) (db : Database)
    (store : Store) :
    (authorizedCompany activePolicies request action resourceType companyId >>= rest).execute db
        store =
      match store.findCompany companyId with
      | none => (.error (.httpException 404 "Company not found"), store)
      | some company =>
          if Allows activePolicies request action resourceType company.id company.groupRootId then
            (rest company).execute db
              (recorded activePolicies request action resourceType company store)
          else (.error (.httpException 403 "Insufficient permissions"),
            recorded activePolicies request action resourceType company store) := by
  rw [execute_bind, execute_authorizedCompany]
  cases store.findCompany companyId with
  | none => rfl
  | some company =>
      by_cases allows : Allows activePolicies request action resourceType company.id
          company.groupRootId
      · simp only [if_pos allows]
      · simp only [if_neg allows]

variable {activePolicies} {request : Request} {told : Program.History Reply}

/-! What the head of a route sends. -/

section Accepted
variable {db : Database} {store : Store}

theorem accepted_require (action resourceType : String) (resource : Option Dict)
    (context : Option Context) :
    Accepted db store (require activePolicies request action resourceType resource context) := by
  rw [require, authorize, bind_assoc]
  refine (accepted_query_bind _ _).mpr ⟨trivial, ?_⟩
  rw [pure_bind]
  cases (authorizeDetailed activePolicies request action resourceType resource context).allowed <;>
    trivial

theorem accepted_authorizedCompany (action resourceType : String) (companyId : Int) :
    Accepted db store (authorizedCompany activePolicies request action resourceType companyId) ↔
      FitsInteger companyId := by
  rw [authorizedCompany, getOr404, getCompanyById, bind_assoc]
  refine (accepted_query_bind _ _).trans (and_iff_left ?_)
  generalize (Store.exec db (.getCompany companyId) store).1 = found
  cases found with
  | none => trivial
  | some company =>
      rw [pure_bind]
      refine (accepted_bind _ _).mpr ⟨accepted_require _ _ _ _, fun _ _ _ => trivial⟩

/-- Past the check the route goes on with the stored row; whatever it decides then,
it decides on the tables as they were. -/
theorem accepted_authorized {α : Type} {action resourceType : String} {companyId : Int}
    {rest : Company → Action α} {fits : Company → Prop}
    (allows : ∀ company, store.findCompany companyId = some company →
      Allows activePolicies request action resourceType company.id company.groupRootId)
    (continues : ∀ company, store.findCompany companyId = some company →
      (Accepted db (recorded activePolicies request action resourceType company store)
        (rest company) ↔ fits company)) :
    Accepted db store
        (authorizedCompany activePolicies request action resourceType companyId >>= rest) ↔
      FitsInteger companyId ∧ ∀ company, store.findCompany companyId = some company →
        fits company := by
  rw [accepted_bind, accepted_authorizedCompany, execute_authorizedCompany]
  apply and_congr_right
  intro _
  cases found : store.findCompany companyId with
  | none => simp
  | some company =>
      dsimp only
      rw [if_pos (allows company found)]
      constructor
      · rintro accepted _ ⟨⟩
        exact (continues company found).mp (accepted _ _ rfl)
      · rintro fitting _ _ ⟨⟩
        exact (continues company found).mpr (fitting company rfl)

/-- What a route about one company does on columns with types; past the check it
goes on with the stored row. -/
theorem executeTyped_authorizedCompany_bind {α : Type} (typed : store.Typed db)
    (action resourceType : String) (companyId : Int) (rest : Company → Action α) :
    (authorizedCompany activePolicies request action resourceType companyId >>= rest).executeTyped
        db store =
      match store.findCompany companyId with
      | none => (if FitsInteger companyId then
            some (.error (.httpException 404 "Company not found"))
          else none, store)
      | some company =>
          if Allows activePolicies request action resourceType company.id company.groupRootId then
            (rest company).executeTyped db
              (recorded activePolicies request action resourceType company store)
          else (some (.error (.httpException 403 "Insufficient permissions")),
            recorded activePolicies request action resourceType company store) := by
  by_cases fits : FitsInteger companyId
  · have accepted : Accepted db store
        (authorizedCompany activePolicies request action resourceType companyId) :=
      (accepted_authorizedCompany _ _ _).mpr fits
    rw [executeTyped_bind, executeTyped_eq_of_accepted accepted, execute_authorizedCompany]
    cases store.findCompany companyId with
    | none => simp [fits]
    | some company =>
        by_cases allows : Allows activePolicies request action resourceType company.id
            company.groupRootId
        · simp only [if_pos allows]
        · simp only [if_neg allows]
  · have absent : store.findCompany companyId = none := by
      refine Table.find_eq_none.mpr fun company member same => fits ?_
      rw [← same]
      exact typed.companyIds company member
    rw [absent, authorizedCompany, getOr404, getCompanyById, bind_assoc, bind_assoc]
    have refused : ¬(Operation.getCompany companyId).InDomain := fits
    refine (executeTyped_query_refused refused).trans ?_
    simp [fits]

end Accepted

/-- Only PATCH updates a company. -/
theorem mayWrite_updateCompany {call : Call} {loaded : Company}
    {current : CompanyDraft}
    (may : MayWrite activePolicies call told (.updateCompany loaded current)) :
    ∃ companyId data place, call.endpoint = .editCompany companyId data ∧
      Cleared activePolicies call.request COMPANY_UPDATE RESOURCE_COMPANY companyId told loaded ∧
      Placed told loaded data.parentCompanyId place ∧ current = data.assign loaded place := by
  obtain ⟨request, endpoint⟩ := call
  cases endpoint with
  | editCompany companyId data =>
      obtain ⟨company, place, cleared, placed, same⟩ := may
      cases same
      exact ⟨companyId, data, place, rfl, cleared, placed, rfl⟩
  | addCompany data =>
      obtain ⟨_, _, same⟩ := may
      cases same
  | removeCompany companyId =>
      obtain ⟨_, _, _, same⟩ := may
      cases same
  | createCompanyBalanceSheet fetch companyId year =>
      obtain ⟨_, _, _, _, same⟩ := may
      cases same
  | deleteCompanyBalanceSheet companyId year =>
      obtain ⟨_, _, _, _, same⟩ := may
      cases same
  | _ => cases may

theorem getOr404_reads {α : Type} {fetch : Action (Option α)} {detail : String}
    {post : Program.History Reply → α → Prop}
    (reads : Reads (fun later found => ∀ obj, found = some obj → post later obj) told fetch) :
    Reads post told (getOr404 fetch detail) := by
  apply reads.bind
  intro found later fits _
  cases found with
  | none => exact obeys_throw _
  | some obj => exact obeys_pure (fits obj rfl)

theorem require_reads (action resourceType : String) (resource : Option Dict)
    (context : Option Context) :
    Reads (fun _ _ => evaluate (activePolicies request.userEmail) action resourceType
      (request.attempt resource context) = true) told
      (require activePolicies request action resourceType resource context) := by
  have decided : Reads (fun _ allowed => allowed = evaluate (activePolicies request.userEmail)
      action resourceType (request.attempt resource context)) told
      (authorize activePolicies request action resourceType resource context) :=
    obeys_query_bind trivial fun _ => obeys_pure rfl
  apply decided.bind
  intro allowed _ isDecision _
  cases allowed with
  | true => exact obeys_pure isDecision.symm
  | false => exact obeys_throw _

theorem authorizedCompany_reads (action resourceType : String) (companyId : Int) :
    Reads (Cleared activePolicies request action resourceType companyId) told
      (authorizedCompany activePolicies request action resourceType companyId) := by
  have found : Reads (fun later company =>
      Program.Told later (.getCompany companyId) (some company)) told
      (getOr404 (getCompanyById companyId) "Company not found") := by
    exact getOr404_reads (getCompanyById_reads companyId)
  apply found.bind
  intro company later isTold _
  apply (require_reads _ _ _ _).bind
  intro _ last allowed grown
  exact obeys_pure ⟨grown isTold, allowed⟩

theorem Cleared.mono {action resourceType : String} {companyId : Int}
    {later : Program.History Reply} {company : Company} (grown : told ⊆ later)
    (cleared : Cleared activePolicies request action resourceType companyId told company) :
    Cleared activePolicies request action resourceType companyId later company :=
  ⟨grown cleared.1, cleared.2⟩

/-- What a route about one company does after the check, it does knowing the
check. -/
theorem authorizedCompany_writesOnce {α : Type} {action resourceType : String} {companyId : Int}
    {rest : Company → Action α} {allowed : Company → Program.History Reply → Operation → Prop}
    (writes : ∀ company told, Calm told → WritesOnce (allowed company) told (rest company)) :
    WritesOnce (fun told op => ∃ company,
      Cleared activePolicies request action resourceType companyId told company ∧
        allowed company told op) []
      (authorizedCompany activePolicies request action resourceType companyId >>= rest) := by
  apply (authorizedCompany_reads action resourceType companyId).bind_writesOnce calm_nil
  intro company later cleared _ calm
  apply (writes company later calm).since.mono
  intro told op known
  exact ⟨company, cleared.mono known.1, known.2⟩

theorem addCompany_writesOnce (data : CompanyCreate) :
    WritesOnce (MayWrite activePolicies ⟨request, .addCompany data⟩) []
      (addCompany activePolicies request data) := by
  apply (require_reads _ _ _ _).bind_writesOnce calm_nil
  intro _ later _ _ calm
  exact (createCompany_writesOnce data calm).translate badRequest

theorem editCompany_writesOnce (companyId : Int) (data : CompanyUpdate) :
    WritesOnce (MayWrite activePolicies ⟨request, .editCompany companyId data⟩) []
      (editCompany activePolicies request companyId data) := by
  refine (authorizedCompany_writesOnce fun company told calm =>
    (updateCompany_writesOnce company data calm).translate badRequest).mono ?_
  rintro told op ⟨company, cleared, place, placed, same⟩
  exact ⟨company, place, cleared, placed, same⟩

theorem removeCompany_writesOnce (companyId : Int) :
    WritesOnce (MayWrite activePolicies ⟨request, .removeCompany companyId⟩) []
      (removeCompany activePolicies request companyId) :=
  authorizedCompany_writesOnce fun company _ calm =>
    (deleteCompany_writesOnce company calm).translate badRequest

theorem createCompanyBalanceSheet_writesOnce (fetch : Fetch) (companyId year : Int) :
    WritesOnce (MayWrite activePolicies
      ⟨request, .createCompanyBalanceSheet fetch companyId year⟩) []
      (createCompanyBalanceSheet activePolicies request fetch companyId year) := by
  refine (authorizedCompany_writesOnce fun company told calm =>
    (importBalanceSheet_writesOnce fetch companyId year company.ticker calm).translate _).mono ?_
  rintro told op ⟨company, cleared, fields, fetched, same⟩
  exact ⟨company, fields, cleared, fetched, same⟩

theorem deleteCompanyBalanceSheet_writesOnce (companyId year : Int) :
    WritesOnce (MayWrite activePolicies ⟨request, .deleteCompanyBalanceSheet companyId year⟩) []
      (deleteCompanyBalanceSheet activePolicies request companyId year) := by
  have deletes (told : Program.History Reply) (calm : Calm told) :
      WritesOnce (fun told op => ∃ sheet,
        Program.Told told (.selectBalanceSheet companyId year) [sheet] ∧
          op = .deleteBalanceSheet sheet.id) told
        (getOr404 (getBalanceSheet companyId year) "Balance sheet not found" >>=
          deleteBalanceSheet) := by
    apply (getOr404_reads (getBalanceSheet_reads companyId year)).bind_writesOnce calm
    intro sheet later isTold _ stillCalm
    exact obeys_query (.inr ⟨stillCalm, sheet, isTold, rfl⟩) fun _ => trivial
  refine (authorizedCompany_writesOnce fun _ told calm => deletes told calm).mono ?_
  rintro told op ⟨company, cleared, sheet, isTold, same⟩
  exact ⟨company, sheet, cleared, isTold, same⟩

/-- A route about one company that only reads. -/
theorem authorizedCompany_bind_reads {α : Type} {action resourceType : String} {companyId : Int}
    {rest : Company → Action α}
    (reads : ∀ company told, Reads (fun _ _ => True) told (rest company)) :
    Reads (fun _ _ => True) told
      (authorizedCompany activePolicies request action resourceType companyId >>= rest) :=
  (authorizedCompany_reads action resourceType companyId).bind fun company later _ _ =>
    reads company later

theorem listCompanies_reads (collation : Collation) (params : ListParams) :
    Reads (fun _ _ => True) told (listCompanies activePolicies request collation params) := by
  have derived : Reads (fun _ _ => True) told
      (callerScope activePolicies request COMPANY_READ RESOURCE_COMPANY) := by
    unfold callerScope
    split
    · exact obeys_pure trivial
    · exact obeys_throw _
  apply derived.bind
  intro scope _ _ _
  unfold countCompaniesInScope listCompaniesInScope
  split
  · exact obeys_pure trivial
  · exact obeys_query_bind trivial fun _ => obeys_query_bind trivial fun _ => obeys_pure trivial

theorem chat_reads (askGroq : AskGroq) (payload : ChatRequest) :
    Reads (fun _ _ => True) told (chat activePolicies request askGroq payload) := by
  apply authorizedCompany_bind_reads
  intro company told
  refine obeys_query_bind trivial fun sheets => Obeys.translate ?_ _
  split
  · exact obeys_pure trivial
  · exact obeys_throw _

/-- A request writes at most once, and only what it may. -/
theorem serve_writesOnce (call : Call) :
    WritesOnce (MayWrite activePolicies call) [] (serve activePolicies call) := by
  obtain ⟨request, endpoint⟩ := call
  cases endpoint with
  | addCompany data => exact (addCompany_writesOnce data).ignore
  | listCompanies collation params => exact (listCompanies_reads collation params).writesOnce.ignore
  | getCompany companyId => exact (authorizedCompany_reads _ _ companyId).writesOnce.ignore
  | editCompany companyId data => exact (editCompany_writesOnce companyId data).ignore
  | removeCompany companyId => exact removeCompany_writesOnce companyId
  | listCompanyBalanceSheets companyId =>
      refine (authorizedCompany_bind_reads fun _ _ => ?_).writesOnce.ignore
      exact reads_query trivial fun _ => trivial
  | getCompanyBalanceSheet companyId year =>
      refine (authorizedCompany_bind_reads fun _ _ => ?_).writesOnce.ignore
      exact getOr404_reads ((getBalanceSheet_reads companyId year).mono (fun _ _ => id)
        fun _ _ _ _ _ => trivial)
  | createCompanyBalanceSheet fetch companyId year =>
      exact (createCompanyBalanceSheet_writesOnce fetch companyId year).ignore
  | deleteCompanyBalanceSheet companyId year =>
      exact deleteCompanyBalanceSheet_writesOnce companyId year
  | chat askGroq payload => exact (chat_reads askGroq payload).writesOnce.ignore

/-! Requests one after the other. -/

def serveAll (activePolicies : String → List (Policy rt)) (db : Database) (calls : List Call)
    (store : Store) : Store :=
  calls.foldl (fun store call => (serve activePolicies call).after db store) store

theorem serveAll_concat (db : Database) (calls : List Call) (call : Call) (store : Store) :
    serveAll activePolicies db (calls ++ [call]) store =
      (serve activePolicies call).after db (serveAll activePolicies db calls store) :=
  List.foldl_concat ..

theorem wellFormed_serveAll {db : Database} {store : Store} (wf : Store.WellFormed db store)
    (calls : List Call) : Store.WellFormed db (serveAll activePolicies db calls store) := by
  induction calls generalizing store with
  | nil => exact wf
  | cons call calls ih => exact ih (wellFormed_after wf _)

/-- What one request alone does to the tables: nothing, or one write it may do
knowing what the tables hold. -/
theorem serve_after {db : Database} {store : Store} (wf : Store.WellFormed db store)
    (call : Call) :
    ((serve activePolicies call).after db store).data = store.data ∨
      ∃ told op found, Store.WellFormed db found ∧ found.data = store.data ∧
        Answered db store told ∧ MayWrite activePolicies call told op ∧
        ((serve activePolicies call).after db store).data = (Store.exec db op found).2.data :=
  (serve_writesOnce call).after wf

/-! Requests in flight together. -/

section Together
variable {ι : Type}

/-- The requests, none of which has begun. -/
def inFlight (activePolicies : String → List (Policy rt)) (calls : ι → Call) (store : Store) :
    Pool Reply Store ι (Except Failure Unit) where
  state := store
  threads i := ExceptT.run (serve activePolicies (calls i))

variable {calls : ι → Call} {db : Database} {store : Store} {schedule : List ι}
  {before after : List (Event Operation Store ι)} {e : Event Operation Store ι}

theorem inFlight_obeys (i : ι) :
    Program.Obeys (Program.WritesOnce Operation.Quiet (MayWrite activePolicies (calls i)))
      (fun _ _ => True) [] ((inFlight activePolicies calls store).threads i) :=
  Program.Obeys.mono (serve_writesOnce (calls i)) (fun _ _ => id) fun _ _ _ => trivial

theorem wellFormed_of_event [DecidableEq ι] (wf : Store.WellFormed db store)
    (split : (inFlight activePolicies calls store).trace (Store.exec db) schedule =
      before ++ e :: after)
    {earlier : Event Operation Store ι} (member : earlier ∈ before) :
    Store.WellFormed db earlier.before := by
  have keeps (op : Operation) (state : Store) (wf : Store.WellFormed db state) :
      Store.WellFormed db (Store.exec db op state).2 := wf.exec op
  have start : Store.WellFormed db (inFlight activePolicies calls store).state := wf
  have inTrace :
      earlier ∈ (inFlight activePolicies calls store).trace (Store.exec db) schedule := by
    rw [split]
    exact List.mem_append_left _ member
  exact Pool.invariant_at keeps start inTrace

/-- In any interleaving a write comes after quiet steps of its own request only,
and is one the request may write knowing what these found. -/
theorem mayWrite_of_event [DecidableEq ι]
    (split : (inFlight activePolicies calls store).trace (Store.exec db) schedule =
      before ++ e :: after) (writes : ¬e.op.Quiet) :
    (∀ earlier ∈ before, earlier.thread = e.thread → earlier.op.Quiet) ∧
      MayWrite activePolicies (calls e.thread) (Pool.historyOf (Store.exec db) before e.thread)
        e.op := by
  obtain ⟨calm, permitted⟩ :=
    (Pool.allowed_of_event inFlight_obeys split).resolve_left writes
  refine ⟨fun earlier member same =>
    calm ⟨earlier.op, (Store.exec db earlier.op earlier.before).1⟩ ?_, permitted⟩
  exact List.mem_map.mpr ⟨earlier, List.mem_filter.mpr ⟨member, decide_eq_true same⟩, rfl⟩

end Together

end Serve
end BalanceSheetAnalysis

import BalanceSheetAnalysis.Access.Documented
import BalanceSheetAnalysis.BalanceSheets.Columns
import BalanceSheetAnalysis.Endpoints
import BalanceSheetAnalysis.Library.Machine

/-! What the balance sheet routes are for: a finite map from a company and a
year to figures.  The ledger below is that map with the operations on it, and
every run of the routes is a run of the ledger, as long as the years the calls
ask about fit their column. -/
namespace BalanceSheetAnalysis
open Library Authorization Access BalanceSheetAnalysis.Action

abbrev Figures := List (String × Figure)

inductive SheetCall where
  | createCompany (data : CompanyCreate)
  | deleteCompany (companyId : Int)
  | importSheet (fetch : Fetch) (companyId year : Int)
  | getSheet (companyId year : Int)
  | listSheets (companyId : Int)
  | listSheetsYears (companyId : Int) (years : Option (List Int))
  | deleteSheet (companyId year : Int)

inductive Answer where
  | company (id : Int)
  | done
  | sheet (figures : Figures)
  | sheets (rows : List (Int × Figures))

/-- One call, whether its authorization check lets it pass, and what it answers
or raises; `none` is the database's own error. -/
structure Exchange where
  call : SheetCall
  granted : Bool
  answer : Option (Except Failure Answer)

/-- Raised, by the application or by the database. -/
def Raised (answer : Option (Except Failure Answer)) : Prop :=
  ∀ value, answer ≠ some (.ok value)

def sheetNotFound : Failure := .httpException 404 "Balance sheet not found"

/-! The map. -/

/-- The tickers of the companies there are, and the map itself. -/
@[ext] structure Ledger where
  ticker : Int → Option String
  figures : Int × Int → Option Figures

def Ledger.empty : Ledger := ⟨fun _ => none, fun _ => none⟩

def Ledger.setTicker (ledger : Ledger) (companyId : Int) (ticker : String) : Ledger :=
  { ledger with ticker := Function.update ledger.ticker companyId (some ticker) }

def Ledger.setFigures (ledger : Ledger) (key : Int × Int) (figures : Option Figures) : Ledger :=
  { ledger with figures := Function.update ledger.figures key figures }

def Ledger.dropCompany (ledger : Ledger) (companyId : Int) : Ledger where
  ticker := Function.update ledger.ticker companyId none
  figures key := if key.1 = companyId then none else ledger.figures key

/-- What may come of a call.  Creating or deleting a company may fail for
reasons of its own; everything else is settled by the map. -/
inductive Ledger.Step (ledger : Ledger) : Exchange → Ledger → Prop where
  | denied {call : SheetCall} {answer : Option (Except Failure Answer)} (raised : Raised answer) :
      Step ledger ⟨call, false, answer⟩ ledger
  | created {data : CompanyCreate} {id : Int} (fresh : ledger.ticker id = none) :
      Step ledger ⟨.createCompany data, true, some (.ok (.company id))⟩
        (ledger.setTicker id data.ticker)
  | notCreated {data : CompanyCreate} {answer : Option (Except Failure Answer)}
      (raised : Raised answer) : Step ledger ⟨.createCompany data, true, answer⟩ ledger
  | deleted {companyId : Int} :
      Step ledger ⟨.deleteCompany companyId, true, some (.ok .done)⟩
        (ledger.dropCompany companyId)
  | notDeleted {companyId : Int} {answer : Option (Except Failure Answer)}
      (raised : Raised answer) : Step ledger ⟨.deleteCompany companyId, true, answer⟩ ledger
  /-- Of what the fetch returned, the record is all that stands under the name of a
  column. -/
  | imported {fetch : Fetch} {companyId year : Int} {ticker : String} {fields record : Figures}
      (stands : ledger.ticker companyId = some ticker)
      (absent : ledger.figures (companyId, year) = none)
      (fetched : fetch ticker year = .ok (some fields))
      (isRecord : record = fields.filter fun entry => entry.1 ∈ YFINANCE_COLUMN_NAMES) :
      Step ledger ⟨.importSheet fetch companyId year, true, some (.ok (.sheet record))⟩
        (ledger.setFigures (companyId, year) (some record))
  | notImported {fetch : Fetch} {companyId year : Int} {ticker : String}
      {answer : Option (Except Failure Answer)} (raised : Raised answer)
      (stands : ledger.ticker companyId = some ticker)
      (refused : ledger.figures (companyId, year) ≠ none ∨
        ∀ fields, fetch ticker year ≠ .ok (some fields)) :
      Step ledger ⟨.importSheet fetch companyId year, true, answer⟩ ledger
  | got {companyId year : Int} {figures : Figures}
      (present : ledger.figures (companyId, year) = some figures) :
      Step ledger ⟨.getSheet companyId year, true, some (.ok (.sheet figures))⟩ ledger
  | notGot {companyId year : Int} (absent : ledger.figures (companyId, year) = none) :
      Step ledger ⟨.getSheet companyId year, true, some (.error sheetNotFound)⟩ ledger
  | listed {companyId : Int} {rows : List (Int × Figures)}
      (increasing : rows.Pairwise fun earlier later => earlier.1 < later.1)
      (exactly : ∀ year figures, (year, figures) ∈ rows ↔
        ledger.figures (companyId, year) = some figures) :
      Step ledger ⟨.listSheets companyId, true, some (.ok (.sheets rows))⟩ ledger
  | listedYears {companyId : Int} {years : Option (List Int)} {rows : List (Int × Figures)}
      (increasing : rows.Pairwise fun earlier later => earlier.1 < later.1)
      (exactly : ∀ year figures, (year, figures) ∈ rows ↔
        ledger.figures (companyId, year) = some figures ∧
          (years.getD [] = [] ∨ year ∈ years.getD [])) :
      Step ledger ⟨.listSheetsYears companyId years, true, some (.ok (.sheets rows))⟩ ledger
  | erased {companyId year : Int} (present : ledger.figures (companyId, year) ≠ none) :
      Step ledger ⟨.deleteSheet companyId year, true, some (.ok .done)⟩
        (ledger.setFigures (companyId, year) none)
  | notErased {companyId year : Int} (absent : ledger.figures (companyId, year) = none) :
      Step ledger ⟨.deleteSheet companyId year, true, some (.error sheetNotFound)⟩ ledger

/-! The routes. -/

def SheetCall.companyCheck : SheetCall → Option CompanyCheck
  | .createCompany _ => none
  | .deleteCompany companyId => some ⟨COMPANY_DELETE, RESOURCE_COMPANY, companyId⟩
  | .importSheet _ companyId _ => some ⟨BALANCE_SHEET_IMPORT, RESOURCE_BALANCE_SHEET, companyId⟩
  | .getSheet companyId _ => some ⟨BALANCE_SHEET_READ, RESOURCE_BALANCE_SHEET, companyId⟩
  | .listSheets companyId => some ⟨BALANCE_SHEET_READ, RESOURCE_BALANCE_SHEET, companyId⟩
  | .listSheetsYears companyId _ => some ⟨LLM_CHAT, RESOURCE_LLM, companyId⟩
  | .deleteSheet companyId _ => some ⟨BALANCE_SHEET_DELETE, RESOURCE_BALANCE_SHEET, companyId⟩

def sheetRow (sheet : BalanceSheet) : Int × Figures := (sheet.year, sheet.figures)

section Serve
variable {rt : Runtime} (activePolicies : String → List (Policy rt)) (request : Request)

/-- The chat route is the one that lists by years. -/
def SheetCall.serve : SheetCall → Action Answer
  | .createCompany data => do
      let company ← addCompany activePolicies request data
      return .company company.id
  | .deleteCompany companyId => do
      removeCompany activePolicies request companyId
      return .done
  | .importSheet fetch companyId year => do
      let sheet ← createCompanyBalanceSheet activePolicies request fetch companyId year
      return .sheet sheet.figures
  | .getSheet companyId year => do
      let sheet ← getCompanyBalanceSheet activePolicies request companyId year
      return .sheet sheet.figures
  | .listSheets companyId => do
      let sheets ← listCompanyBalanceSheets activePolicies request companyId
      return .sheets (sheets.map sheetRow)
  | .listSheetsYears companyId years => do
      let company ← authorizedCompany activePolicies request LLM_CHAT RESOURCE_LLM companyId
      let sheets ← listBalanceSheetsForCompanyYears company.id years
      return .sheets (sheets.map sheetRow)
  | .deleteSheet companyId year => do
      deleteCompanyBalanceSheet activePolicies request companyId year
      return .done

/-- The call is about a stored company, and passes the check. -/
def SheetCall.granted (store : Store) (call : SheetCall) : Bool :=
  match call.companyCheck with
  | none => evaluate (activePolicies request.userEmail) COMPANY_CREATE RESOURCE_COMPANY
      (request.attempt none (some (buildAuthorizationContext rt request)))
  | some check =>
      match store.findCompany check.companyId with
      | none => false
      | some company => decide (Allows activePolicies request check.action check.resourceType
          company.id company.groupRootId)

def exchange (db : Database) (call : SheetCall) (store : Store) : Exchange × Store :=
  let result := (call.serve activePolicies request).executeTyped db store
  (⟨call, call.granted activePolicies request store, result.1⟩, result.2)

end Serve

/-- One request after the other. -/
def exchanges {rt : Runtime} (activePolicies : String → List (Policy rt)) (db : Database) :
    List (Request × SheetCall) → Store → List Exchange × Store
  | [], store => ([], store)
  | (request, call) :: calls, store =>
      let first := exchange activePolicies request db call store
      let rest := exchanges activePolicies db calls first.2
      (first.1 :: rest.1, rest.2)

/-! Every exchange is a step of the ledger. -/

/-- The ledger the two tables hold. -/
def ledgerOf (store : Store) : Ledger where
  ticker id := (store.findCompany id).map Company.ticker
  figures key := (store.sheetAt key).map BalanceSheet.figures

section Refinement
variable {rt : Runtime} {activePolicies : String → List (Policy rt)} {request : Request}
  {db : Database} {store later : Store}

theorem ledgerOf_congr (same : later.data = store.data) : ledgerOf later = ledgerOf store := by
  have sameSheets : later.sheetAt = store.sheetAt :=
    congrArg (Table.find Store.sheetKey) (congrArg Prod.snd same)
  rw [ledgerOf, ledgerOf, Store.findCompany_of_data same, sameSheets]

theorem ticker_update {id : Int} {row : Option Company}
    (edited : later.findCompany = Function.update store.findCompany id row) :
    (ledgerOf later).ticker =
      Function.update (ledgerOf store).ticker id (row.map Company.ticker) := by
  funext other
  simp only [ledgerOf, edited, Function.update_apply]
  split <;> rfl

theorem figures_update {key : Int × Int} {sheet : Option BalanceSheet}
    (edited : later.sheetAt = Function.update store.sheetAt key sheet) :
    (ledgerOf later).figures =
      Function.update (ledgerOf store).figures key (sheet.map BalanceSheet.figures) := by
  funext other
  simp only [ledgerOf, edited, Function.update_apply]
  split <;> rfl

/-- What is sent fits, and the run on any columns is the run on these. -/
theorem executeTyped_answer {α : Type} {action : Action α} (accepted : Accepted db store action)
    {result : Except Failure α} (run : action.execute db store = (result, later))
    (handler : Failure → Failure) (answer : α → Answer) :
    (action.translate handler >>= fun value => pure (answer value)).executeTyped db store =
      (some ((result.mapError handler).map answer), later) := by
  have sends : Accepted db store (action.translate handler >>= fun value =>
      pure (answer value)) := by
    rw [accepted_bind, accepted_translate]
    exact ⟨accepted, fun _ _ _ => trivial⟩
  rw [executeTyped_eq_of_accepted sends, execute_bind, execute_translate, run]
  cases result <;> rfl

theorem executeTyped_answer_refused {α : Type} {action : Action α}
    (refused : action.executeTyped db store = (none, later)) (handler : Failure → Failure)
    (answer : α → Answer) :
    (action.translate handler >>= fun value => pure (answer value)).executeTyped db store =
      (none, later) := by
  rw [executeTyped_bind, executeTyped_translate, refused]
  rfl

theorem raised_error (failure : Failure) : Raised (some (.error failure)) := by
  rintro _ ⟨⟩

theorem raised_none : Raised none := by
  rintro _ ⟨⟩

/-- A call about one company goes as its route goes on after the check. -/
theorem step_of_authorized {call : SheetCall} {check : CompanyCheck}
    (isCheck : call.companyCheck = some check) {rest : Company → Action Answer}
    (isServe : call.serve activePolicies request =
      authorizedCompany activePolicies request check.action check.resourceType check.companyId >>=
        rest)
    (wf : store.WellFormed db) (typed : store.Typed db)
    (step : ∀ found company, found.WellFormed db → found.Typed db → found.data = store.data →
      found.findCompany check.companyId = some company →
      call.granted activePolicies request store = true →
      Ledger.Step (ledgerOf found) ⟨call, true, ((rest company).executeTyped db found).1⟩
        (ledgerOf ((rest company).executeTyped db found).2)) :
    Ledger.Step (ledgerOf store) (exchange activePolicies request db call store).1
      (ledgerOf (exchange activePolicies request db call store).2) := by
  have granted : call.granted activePolicies request store =
      match store.findCompany check.companyId with
      | none => false
      | some company => decide (Allows activePolicies request check.action check.resourceType
          company.id company.groupRootId) := by
    unfold SheetCall.granted
    rw [isCheck]
  unfold exchange
  rw [isServe, executeTyped_authorizedCompany_bind typed]
  cases found : store.findCompany check.companyId with
  | none =>
      rw [found] at granted
      dsimp only at granted ⊢
      rw [granted]
      refine .denied ?_
      split
      · exact raised_error _
      · exact raised_none
  | some company =>
      rw [found] at granted
      dsimp only at granted ⊢
      by_cases allows : Allows activePolicies request check.action check.resourceType company.id
          company.groupRootId
      · rw [decide_eq_true allows] at granted
        rw [if_pos allows, granted]
        exact step (recorded activePolicies request check.action check.resourceType company store)
          company { wf with } { typed with } rfl found granted
      · rw [decide_eq_false allows] at granted
        rw [if_neg allows, granted]
        exact .denied (raised_error _)

theorem step_deleteCompany (typed : store.Typed db) {companyId : Int} {company : Company}
    (found : store.findCompany companyId = some company) :
    Ledger.Step (ledgerOf store) ⟨.deleteCompany companyId, true,
        (((deleteCompany company).translate badRequest >>= fun _ =>
          pure Answer.done).executeTyped db store).1⟩
      (ledgerOf (((deleteCompany company).translate badRequest >>= fun _ =>
        pure Answer.done).executeTyped db store).2) := by
  obtain ⟨member, rfl⟩ := Table.find_eq_some found
  have accepted := accepted_deleteCompany typed member
  rcases execute_deleteCompany db store company with ⟨detail, run⟩ |
    ⟨childless, run⟩
  · rw [executeTyped_answer accepted run badRequest fun _ => .done]
    exact .notDeleted (raised_error _)
  · rw [executeTyped_answer accepted run badRequest fun _ => .done]
    have isLedger : ledgerOf (Store.deleteCompany company.id store) =
        (ledgerOf store).dropCompany company.id := by
      apply Ledger.ext (ticker_update (Store.findCompany_delete childless))
      funext key
      simp only [ledgerOf, Store.sheetAt_deleteCompany found, Ledger.dropCompany]
      split <;> rfl
    rw [isLedger]
    exact .deleted

/-- The years a call asks about fit their column; an import may also ask for
another, if the fetch has no data of it. -/
def SheetCall.YearsFit (store : Store) : SheetCall → Prop
  | .importSheet fetch companyId year => FitsInteger year ∨
      ∀ company, store.findCompany companyId = some company →
        ∀ fields, fetch company.ticker year ≠ .ok (some fields)
  | .getSheet _ year | .deleteSheet _ year => FitsInteger year
  | .listSheetsYears _ years => ∀ year ∈ years.getD [], FitsInteger year
  | _ => True

theorem step_importSheet (wf : Store.WellFormed db store) (typed : store.Typed db)
    {fetch : Fetch} {companyId year : Int} {company : Company}
    (found : store.findCompany companyId = some company)
    (fits : (SheetCall.importSheet fetch companyId year).YearsFit store)
    (handler : Failure → Failure) :
    Ledger.Step (ledgerOf store) ⟨.importSheet fetch companyId year, true,
        (((importBalanceSheet fetch companyId year company.ticker).translate handler >>=
          fun sheet => pure (Answer.sheet sheet.figures)).executeTyped db store).1⟩
      (ledgerOf (((importBalanceSheet fetch companyId year company.ticker).translate handler >>=
        fun sheet => pure (Answer.sheet sheet.figures)).executeTyped db store).2) := by
  have stands : (ledgerOf store).ticker companyId = some company.ticker :=
    congrArg (Option.map Company.ticker) found
  by_cases yearFits : FitsInteger year
  · have accepted := (accepted_importBalanceSheet typed wf fetch company.ticker).mpr
      ⟨typed.of_find found, yearFits⟩
    by_cases imports : store.sheetAt (companyId, year) = none ∧
        ∃ fields, fetch company.ticker year = .ok (some fields)
    · obtain ⟨absent, fields, fetched⟩ := imports
      rw [executeTyped_answer accepted (execute_importBalanceSheet_new wf found absent fetched)
        handler fun sheet => .sheet sheet.figures]
      have isLedger : ledgerOf { store with
          sheetsDrawn := store.sheetsDrawn + 1
          balanceSheets := store.balanceSheets ++ [store.importedSheet db companyId year fields] } =
          (ledgerOf store).setFigures (companyId, year) (some (knownFields fields)) :=
        Ledger.ext rfl (figures_update (Store.sheetAt_import absent fields))
      rw [isLedger]
      exact .imported stands (congrArg (Option.map BalanceSheet.figures) absent) fetched rfl
    · have refused : store.sheetAt (companyId, year) ≠ none ∨
          ∀ fields, fetch company.ticker year ≠ .ok (some fields) := by
        by_cases absent : store.sheetAt (companyId, year) = none
        · exact .inr fun fields fetched => imports ⟨absent, fields, fetched⟩
        · exact .inl absent
      obtain ⟨failure, run, _⟩ := execute_importBalanceSheet_refused wf fetch refused
      rw [executeTyped_answer accepted run handler fun sheet => .sheet sheet.figures]
      exact .notImported (raised_error _) stands (refused.imp_left fun present =>
        (Option.map_eq_none_iff.not).mpr present)
  · rw [executeTyped_answer_refused (executeTyped_importBalanceSheet_refused fetch
      company.ticker yearFits) handler fun sheet => Answer.sheet sheet.figures]
    exact .notImported raised_none stands (.inr (fits.resolve_left yearFits company found))

/-- What a route finds under a company and a year. -/
theorem execute_getOr404_getBalanceSheet (wf : Store.WellFormed db store) (companyId year : Int) :
    (getOr404 (getBalanceSheet companyId year) "Balance sheet not found").execute db store =
      (match store.sheetAt (companyId, year) with
        | some sheet => .ok sheet
        | none => .error sheetNotFound, store) := by
  rw [getOr404, execute_bind, execute_getBalanceSheet wf]
  cases store.sheetAt (companyId, year) <;> rfl

theorem accepted_getOr404_getBalanceSheet {companyId year : Int} :
    Accepted db store (getOr404 (getBalanceSheet companyId year) "Balance sheet not found") ↔
      FitsInteger companyId ∧ FitsInteger year := by
  rw [getOr404, accepted_bind, accepted_getBalanceSheet]
  refine and_iff_left fun found later _ => ?_
  cases found <;> trivial

/-- The id that is deleted is the one that was read. -/
theorem accepted_deleteBalanceSheet (typed : store.Typed db) (wf : store.WellFormed db)
    {companyId year : Int} :
    Accepted db store (getOr404 (getBalanceSheet companyId year) "Balance sheet not found" >>=
      deleteBalanceSheet) ↔ FitsInteger companyId ∧ FitsInteger year := by
  rw [accepted_bind, accepted_getOr404_getBalanceSheet]
  refine and_iff_left fun sheet later found => ?_
  rw [execute_getOr404_getBalanceSheet wf] at found
  cases stored : store.sheetAt (companyId, year) with
  | none =>
      rw [stored] at found
      cases found
  | some row =>
      rw [stored] at found
      cases found
      exact (accepted_query _).mpr (typed.sheetIds sheet (wf.sheetAt_iff.mp stored).1)

theorem step_getSheet (wf : Store.WellFormed db store) {companyId year : Int}
    (idFits : FitsInteger companyId) (yearFits : FitsInteger year) :
    Ledger.Step (ledgerOf store) ⟨.getSheet companyId year, true,
        ((getOr404 (getBalanceSheet companyId year) "Balance sheet not found" >>= fun sheet =>
          pure (Answer.sheet sheet.figures)).executeTyped db store).1⟩
      (ledgerOf ((getOr404 (getBalanceSheet companyId year) "Balance sheet not found" >>=
        fun sheet => pure (Answer.sheet sheet.figures)).executeTyped db store).2) := by
  have accepted : Accepted db store (getOr404 (getBalanceSheet companyId year)
      "Balance sheet not found" >>= fun sheet => pure (Answer.sheet sheet.figures)) :=
    (accepted_bind _ _).mpr ⟨accepted_getOr404_getBalanceSheet.mpr ⟨idFits, yearFits⟩,
      fun _ _ _ => trivial⟩
  rw [executeTyped_eq_of_accepted accepted, execute_bind, execute_getOr404_getBalanceSheet wf]
  cases found : store.sheetAt (companyId, year) with
  | none => exact .notGot (congrArg (Option.map BalanceSheet.figures) found)
  | some sheet => exact .got (congrArg (Option.map BalanceSheet.figures) found)

theorem step_deleteSheet (wf : Store.WellFormed db store) (typed : store.Typed db)
    {companyId year : Int} (idFits : FitsInteger companyId) (yearFits : FitsInteger year) :
    Ledger.Step (ledgerOf store) ⟨.deleteSheet companyId year, true,
        ((getOr404 (getBalanceSheet companyId year) "Balance sheet not found" >>= fun sheet =>
          deleteBalanceSheet sheet >>= fun _ => pure Answer.done).executeTyped db store).1⟩
      (ledgerOf ((getOr404 (getBalanceSheet companyId year) "Balance sheet not found" >>=
        fun sheet => deleteBalanceSheet sheet >>= fun _ => pure Answer.done).executeTyped db
          store).2) := by
  have accepted : Accepted db store (getOr404 (getBalanceSheet companyId year)
      "Balance sheet not found" >>= fun sheet => deleteBalanceSheet sheet >>= fun _ =>
        pure Answer.done) := by
    rw [← bind_assoc]
    exact (accepted_bind _ _).mpr ⟨(accepted_deleteBalanceSheet typed wf).mpr ⟨idFits, yearFits⟩,
      fun _ _ _ => trivial⟩
  rw [executeTyped_eq_of_accepted accepted, execute_bind, execute_getOr404_getBalanceSheet wf]
  cases found : store.sheetAt (companyId, year) with
  | none => exact .notErased (congrArg (Option.map BalanceSheet.figures) found)
  | some sheet =>
      obtain ⟨member, isKey⟩ := wf.sheetAt_iff.mp found
      have isLedger : ledgerOf { store with
          balanceSheets := Table.remove BalanceSheet.id store.balanceSheets sheet.id } =
          (ledgerOf store).setFigures (companyId, year) none :=
        Ledger.ext rfl (figures_update (isKey ▸ Store.sheetAt_delete wf member))
      dsimp only
      rw [deleteBalanceSheet, execute_query_bind, Store.exec, execute_pure, isLedger]
      refine .erased ?_
      rw [show (ledgerOf store).figures (companyId, year) = some sheet.figures from
        congrArg (Option.map BalanceSheet.figures) found]
      exact Option.some_ne_none _

/-- The rows of a query by company and years are the entries of the map. -/
theorem mem_sheetRows (wf : Store.WellFormed db store) {companyId : Int}
    {years : Option (List Int)} {year : Int} {figures : Figures} :
    (year, figures) ∈ (store.selectBalanceSheets companyId years).map sheetRow ↔
      (ledgerOf store).figures (companyId, year) = some figures ∧
        (years.getD [] = [] ∨ year ∈ years.getD []) := by
  rw [List.mem_map, show (ledgerOf store).figures (companyId, year) =
    (store.sheetAt (companyId, year)).map BalanceSheet.figures from rfl, Option.map_eq_some_iff]
  constructor
  · rintro ⟨sheet, member, isRow⟩
    obtain ⟨rfl, rfl⟩ := Prod.mk.inj isRow
    obtain ⟨stored, rfl, wanted⟩ := Store.mem_selectBalanceSheets.mp member
    exact ⟨⟨sheet, wf.sheetAt_iff.mpr ⟨stored, rfl⟩, rfl⟩, wanted⟩
  · rintro ⟨⟨sheet, found, rfl⟩, wanted⟩
    obtain ⟨stored, isKey⟩ := wf.sheetAt_iff.mp found
    obtain ⟨rfl, rfl⟩ := Prod.mk.inj isKey
    exact ⟨sheet, Store.mem_selectBalanceSheets.mpr ⟨stored, rfl, wanted⟩, rfl⟩

theorem sheetRows_increasing (wf : Store.WellFormed db store) (companyId : Int)
    (years : Option (List Int)) :
    ((store.selectBalanceSheets companyId years).map sheetRow).Pairwise fun earlier later =>
      earlier.1 < later.1 :=
  List.pairwise_map.mpr (wf.selectBalanceSheets_increasing companyId years)

theorem step_listSheets (wf : Store.WellFormed db store) {companyId : Int}
    (idFits : FitsInteger companyId) :
    Ledger.Step (ledgerOf store) ⟨.listSheets companyId, true,
        ((listBalanceSheetsForCompany companyId >>= fun sheets =>
          pure (Answer.sheets (sheets.map sheetRow))).executeTyped db store).1⟩
      (ledgerOf ((listBalanceSheetsForCompany companyId >>= fun sheets =>
        pure (Answer.sheets (sheets.map sheetRow))).executeTyped db store).2) := by
  have sends : (Operation.selectBalanceSheets companyId none).InDomain :=
    ⟨idFits, List.forall_mem_nil _⟩
  rw [listBalanceSheetsForCompany, executeTyped_query_bind sends, Store.exec]
  refine .listed (sheetRows_increasing wf companyId none) fun year figures => ?_
  rw [mem_sheetRows wf]
  simp

theorem step_listSheetsYears (wf : Store.WellFormed db store) {companyId : Int}
    (idFits : FitsInteger companyId) {years : Option (List Int)}
    (yearsFit : ∀ year ∈ years.getD [], FitsInteger year) :
    Ledger.Step (ledgerOf store) ⟨.listSheetsYears companyId years, true,
        ((listBalanceSheetsForCompanyYears companyId years >>= fun sheets =>
          pure (Answer.sheets (sheets.map sheetRow))).executeTyped db store).1⟩
      (ledgerOf ((listBalanceSheetsForCompanyYears companyId years >>= fun sheets =>
        pure (Answer.sheets (sheets.map sheetRow))).executeTyped db store).2) := by
  have sends : (Operation.selectBalanceSheets companyId years).InDomain := ⟨idFits, yearsFit⟩
  rw [listBalanceSheetsForCompanyYears, executeTyped_query_bind sends, Store.exec]
  exact .listedYears (sheetRows_increasing wf companyId years) fun year figures =>
    mem_sheetRows wf

theorem step_createCompany (wf : Store.WellFormed db store) (typed : store.Typed db)
    (data : CompanyCreate) :
    Ledger.Step (ledgerOf store) ⟨.createCompany data, true,
        (((createCompany data).translate badRequest >>= fun company =>
          pure (Answer.company company.id)).executeTyped db store).1⟩
      (ledgerOf (((createCompany data).translate badRequest >>= fun company =>
        pure (Answer.company company.id)).executeTyped db store).2) := by
  by_cases fits : CreateFits store data
  · have accepted := (accepted_createCompany typed data).mpr fits
    rcases execute_createCompany wf data with ⟨detail, later, run, same⟩ |
      ⟨row, later, run, sameSheets, fresh, updated, isTicker⟩
    · rw [executeTyped_answer accepted run badRequest fun company => .company company.id,
        show ledgerOf (_, later).2 = ledgerOf store from ledgerOf_congr same]
      exact .notCreated (raised_error _)
    · have isLedger : ledgerOf later = (ledgerOf store).setTicker row.id data.ticker := by
        have sameLookup : later.sheetAt = store.sheetAt :=
          congrArg (Table.find Store.sheetKey) sameSheets
        refine Ledger.ext ?_ ?_
        · rw [ticker_update updated, Option.map_some, isTicker]
          rfl
        · simp only [ledgerOf, sameLookup, Ledger.setTicker]
      rw [executeTyped_answer accepted run badRequest fun company => .company company.id, isLedger]
      exact .created (congrArg (Option.map Company.ticker) fresh)
  · rw [executeTyped_answer_refused (executeTyped_createCompany_refused db fits) badRequest
      fun company => Answer.company company.id]
    exact .notCreated raised_none

/-- Creating a company is checked with no row at hand. -/
theorem exchange_createCompany (wf : store.WellFormed db) (typed : store.Typed db)
    (data : CompanyCreate) :
    Ledger.Step (ledgerOf store) (exchange activePolicies request db (.createCompany data) store).1
      (ledgerOf (exchange activePolicies request db (.createCompany data) store).2) := by
  let context := some (buildAuthorizationContext rt request)
  let audited : Store := { store with auditLog := store.auditLog ++
      [auditEntry request COMPANY_CREATE RESOURCE_COMPANY none context
        (authorizeDetailed activePolicies request COMPANY_CREATE RESOURCE_COMPANY none
          context)] }
  have wfAudited : audited.WellFormed db := { wf with }
  have typedAudited : audited.Typed db := { typed with }
  unfold exchange SheetCall.granted SheetCall.serve addCompany requireAuthorization
  dsimp only [SheetCall.companyCheck]
  rw [bind_assoc, executeTyped_bind, executeTyped_eq_of_accepted (accepted_require _ _ _ _),
    execute_require]
  cases evaluate (activePolicies request.userEmail) COMPANY_CREATE RESOURCE_COMPANY
    (request.attempt none (some (buildAuthorizationContext rt request))) with
  | false => exact .denied (raised_error _)
  | true => exact step_createCompany wfAudited typedAudited data

/-- One exchange is one step. -/
theorem exchange_step (request : Request) (wf : store.WellFormed db) (typed : store.Typed db)
    (call : SheetCall)
    (fits : call.granted activePolicies request store = true → call.YearsFit store) :
    Ledger.Step (ledgerOf store) (exchange activePolicies request db call store).1
      (ledgerOf (exchange activePolicies request db call store).2) := by
  cases call with
  | createCompany data => exact exchange_createCompany wf typed data
  | deleteCompany companyId =>
      have isServe : (SheetCall.deleteCompany companyId).serve activePolicies request =
          authorizedCompany activePolicies request COMPANY_DELETE RESOURCE_COMPANY companyId >>=
            fun company => (deleteCompany company).translate badRequest >>= fun _ =>
              pure .done := by
        simp only [SheetCall.serve, removeCompany, bind_assoc]
      refine step_of_authorized rfl isServe wf typed fun found company _ typed _ isFound _ => ?_
      exact step_deleteCompany typed isFound
  | importSheet fetch companyId year =>
      have isServe : (SheetCall.importSheet fetch companyId year).serve activePolicies request =
          authorizedCompany activePolicies request BALANCE_SHEET_IMPORT RESOURCE_BALANCE_SHEET
            companyId >>= fun company => (importBalanceSheet fetch companyId year
              company.ticker).translate (badGateway ∘ badRequest) >>= fun sheet =>
                pure (.sheet sheet.figures) := by
        simp only [SheetCall.serve, createCompanyBalanceSheet, bind_assoc]
      refine step_of_authorized rfl isServe wf typed
        fun found company wf typed same isFound granted => ?_
      have fits := fits granted
      rw [SheetCall.YearsFit, ← Store.findCompany_of_data same] at fits
      exact step_importSheet wf typed isFound fits (badGateway ∘ badRequest)
  | getSheet companyId year =>
      have isServe : (SheetCall.getSheet companyId year).serve activePolicies request =
          authorizedCompany activePolicies request BALANCE_SHEET_READ RESOURCE_BALANCE_SHEET
            companyId >>= fun _ => getOr404 (getBalanceSheet companyId year)
              "Balance sheet not found" >>= fun sheet => pure (.sheet sheet.figures) := by
        simp only [SheetCall.serve, getCompanyBalanceSheet, bind_assoc]
      refine step_of_authorized rfl isServe wf typed
        fun found company wf typed _ isFound granted => ?_
      exact step_getSheet wf (typed.of_find isFound) (fits granted)
  | listSheets companyId =>
      have isServe : (SheetCall.listSheets companyId).serve activePolicies request =
          authorizedCompany activePolicies request BALANCE_SHEET_READ RESOURCE_BALANCE_SHEET
            companyId >>= fun _ => listBalanceSheetsForCompany companyId >>= fun sheets =>
              pure (.sheets (sheets.map sheetRow)) := by
        simp only [SheetCall.serve, listCompanyBalanceSheets, bind_assoc]
      refine step_of_authorized rfl isServe wf typed fun found company wf typed _ isFound _ => ?_
      exact step_listSheets wf (typed.of_find isFound)
  | listSheetsYears companyId years =>
      refine step_of_authorized rfl rfl wf typed fun found company wf typed _ isFound granted => ?_
      obtain ⟨inside, rfl⟩ := Table.find_eq_some isFound
      exact step_listSheetsYears wf (typed.companyIds company inside) (fits granted)
  | deleteSheet companyId year =>
      have isServe : (SheetCall.deleteSheet companyId year).serve activePolicies request =
          authorizedCompany activePolicies request BALANCE_SHEET_DELETE RESOURCE_BALANCE_SHEET
            companyId >>= fun _ => getOr404 (getBalanceSheet companyId year)
              "Balance sheet not found" >>= fun sheet => deleteBalanceSheet sheet >>= fun _ =>
                pure .done := by
        simp only [SheetCall.serve, deleteCompanyBalanceSheet, bind_assoc]
      refine step_of_authorized rfl isServe wf typed
        fun found company wf typed _ isFound granted => ?_
      exact step_deleteSheet wf typed (typed.of_find isFound) (fits granted)

/-- The sequences still have ids, and past its check the call asks about years
that fit. -/
def Meets (activePolicies : String → List (Policy rt)) (db : Database) (store : Store)
    (entry : Request × SheetCall) : Prop :=
  Store.Drawable db store ∧
    (entry.2.granted activePolicies entry.1 store = true → entry.2.YearsFit store)

/-- What one exchange makes of the store. -/
def afterExchange (activePolicies : String → List (Policy rt)) (db : Database) (store : Store)
    (entry : Request × SheetCall) : Store :=
  (exchange activePolicies entry.1 db entry.2 store).2

/-- The database serves one request that meets the condition. -/
def Served (activePolicies : String → List (Policy rt)) (db : Database) (store : Store)
    (label : Exchange) (later : Store) : Prop :=
  ∃ request call, Meets activePolicies db store (request, call) ∧
    exchange activePolicies request db call store = (label, later)

theorem exchanges_served {calls : List (Request × SheetCall)}
    (along : Machine.Along (afterExchange activePolicies db) (Meets activePolicies db) store
      calls) :
    Runs (Served activePolicies db) store (exchanges activePolicies db calls store).1
      (exchanges activePolicies db calls store).2 := by
  induction calls generalizing store with
  | nil => exact .nil store
  | cons entry calls ih => exact .cons ⟨entry.1, entry.2, along.1, rfl⟩ (ih along.2)

/-- The constraints, and the types while the sequences last. -/
def Kept (db : Database) (store : Store) : Prop :=
  store.WellFormed db ∧ (Store.Drawable db store → store.Typed db)

theorem served_kept (first : Store) (label : Exchange) (next : Store) (kept : Kept db first)
    (served : Served activePolicies db first label next) : Kept db next := by
  obtain ⟨request, call, _, run⟩ := served
  rw [← show (exchange activePolicies request db call first).2 = next from congrArg Prod.snd run]
  exact kept_executeTyped _ kept.1 kept.2

theorem served_step (first : Store) (label : Exchange) (next : Store) (kept : Kept db first)
    (served : Served activePolicies db first label next) :
    Ledger.Step (ledgerOf first) label (ledgerOf next) := by
  obtain ⟨request, call, ⟨drawable, fits⟩, run⟩ := served
  have step := exchange_step request kept.1 (kept.2 drawable) call fits
  rwa [run] at step

end Refinement

theorem kept_empty (db : Database) : Kept db Store.empty := by
  refine ⟨Store.wellFormed_empty db, fun drawable => ?_⟩
  refine ⟨nofun, nofun, nofun, nofun, nofun, ?_, ?_⟩
  · exact drawable.companies 0 le_rfl
  · exact drawable.sheets 0 le_rfl

/-- Whatever callers ask, one request after the other, from an empty database on:
what they are answered and what the tables hold in the end is a run of the
ledger, if every call meets the condition in the state that it finds. -/
theorem exchanges_refine_ledger {rt : Runtime} (activePolicies : String → List (Policy rt))
    (db : Database) {calls : List (Request × SheetCall)}
    (along : Machine.Along (afterExchange activePolicies db) (Meets activePolicies db) Store.empty
      calls) :
    Runs Ledger.Step Ledger.empty (exchanges activePolicies db calls Store.empty).1
      (ledgerOf (exchanges activePolicies db calls Store.empty).2) :=
  (exchanges_served along).simulate served_kept served_step (kept_empty db)

/-! A company, a sheet of it, and a year no sheet can have. -/

def bookkeepers (_userEmail : String) : List (Policy utcRuntime) :=
  [policyForAll [COMPANY_CREATE, BALANCE_SHEET_IMPORT, BALANCE_SHEET_READ]]

def totalAssets : Fetch := fun _ _ => .ok (some [("total_assets", .finite 5), ("unknown", .nan)])

def bookkeeping : List (Request × SheetCall) :=
  [(viewer, .createCompany (jioPlatforms none)), (viewer, .importSheet totalAssets 1 2024),
    (viewer, .getSheet 1 2024)]

theorem drawable_counting {store : Store} (companies : store.companiesDrawn < 2 ^ 30)
    (sheets : store.sheetsDrawn < 2 ^ 30) : Store.Drawable .counting store := by
  have counts (n : Nat) (below : n < 2 ^ 30) : FitsInteger (n + 1) := by
    unfold FitsInteger
    omega
  exact ⟨fun n le => counts n (le.trans_lt companies), fun n le => counts n (le.trans_lt sheets)⟩

theorem exchanges_refine_ledger_bookkeeping :
    Runs Ledger.Step Ledger.empty (exchanges bookkeepers .counting bookkeeping Store.empty).1
      (ledgerOf (exchanges bookkeepers .counting bookkeeping Store.empty).2) := by
  apply exchanges_refine_ledger
  refine ⟨⟨drawable_counting (by decide) (by decide), fun _ => trivial⟩,
    ⟨drawable_counting (by decide +kernel) (by decide +kernel), fun _ => .inl (by decide)⟩,
    ⟨drawable_counting (by decide +kernel) (by decide +kernel), fun _ => ?_⟩, trivial⟩
  show FitsInteger 2024
  decide

/-- A call for one sheet that passes its check has an answer of its own. -/
theorem not_step_of_unanswered {ledger later : Ledger} {exchange : Exchange} {companyId year : Int}
    (isCall : exchange.call = .getSheet companyId year) (granted : exchange.granted = true)
    (unanswered : exchange.answer.isNone = true) : ¬Ledger.Step ledger exchange later := by
  intro step
  cases step with
  | got | notGot => cases unanswered
  | denied => cases granted
  | _ => cases isCall

/-- The year 2147483648 is not answered with a 404: the database raises. -/
theorem getSheet_outOfRange :
    ¬∀ calls : List (Request × SheetCall),
      Runs Ledger.Step Ledger.empty (exchanges bookkeepers .counting calls Store.empty).1
        (ledgerOf (exchanges bookkeepers .counting calls Store.empty).2) := by
  intro refines
  let created := (exchange bookkeepers viewer .counting (.createCompany (jioPlatforms none))
    Store.empty).2
  have granted : (exchange bookkeepers viewer .counting (.getSheet 1 (2 ^ 31)) created).1.granted =
      true := by decide +kernel
  have unanswered : (exchange bookkeepers viewer .counting (.getSheet 1 (2 ^ 31))
      created).1.answer.isNone = true := by decide +kernel
  have runs := refines
    [(viewer, .createCompany (jioPlatforms none)), (viewer, .getSheet 1 (2 ^ 31))]
  rcases runs with _ | ⟨_, _ | ⟨step, _⟩⟩
  exact not_step_of_unanswered rfl granted unanswered step

end BalanceSheetAnalysis

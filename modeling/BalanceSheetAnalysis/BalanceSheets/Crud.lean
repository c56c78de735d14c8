import BalanceSheetAnalysis.Store.Action

/-! Balance sheets: importing one fiscal year from yfinance, reading and
deleting.  A company has at most one sheet a year. -/
namespace BalanceSheetAnalysis
open Library BalanceSheetAnalysis.Action

def YFINANCE_COLUMN_NAMES : List String :=
  ["treasury_shares_number", "ordinary_shares_number", "share_issued", "net_debt", "total_debt",
    "tangible_book_value", "invested_capital", "working_capital", "net_tangible_assets",
    "capital_lease_obligations", "common_stock_equity", "total_capitalization",
    "total_equity_gross_minority_interest", "stockholders_equity",
    "gains_losses_not_affecting_retained_earnings", "other_equity_adjustments",
    "retained_earnings", "capital_stock", "common_stock",
    "total_liabilities_net_minority_interest",
    "total_non_current_liabilities_net_minority_interest", "other_non_current_liabilities",
    "trade_and_other_payables_non_current", "long_term_debt_and_capital_lease_obligation",
    "long_term_capital_lease_obligation", "long_term_debt", "current_liabilities",
    "other_current_liabilities", "current_deferred_liabilities", "current_deferred_revenue",
    "current_debt_and_capital_lease_obligation", "current_capital_lease_obligation",
    "current_debt", "other_current_borrowings", "commercial_paper",
    "payables_and_accrued_expenses", "payables", "total_tax_payable", "income_tax_payable",
    "accounts_payable", "total_assets", "total_non_current_assets", "other_non_current_assets",
    "non_current_deferred_assets", "non_current_deferred_taxes_assets",
    "investments_and_advances", "other_investments", "investment_in_financial_assets",
    "available_for_sale_securities", "net_ppe", "accumulated_depreciation", "gross_ppe",
    "leases", "other_properties", "machinery_furniture_equipment", "land_and_improvements",
    "properties", "current_assets", "other_current_assets", "inventory", "receivables",
    "other_receivables", "accounts_receivable",
    "cash_cash_equivalents_and_short_term_investments", "other_short_term_investments",
    "cash_and_cash_equivalents", "cash_equivalents", "cash_financial"]

/-- What the call to yfinance does for a ticker and a year: it fails with a
text, has no data, or returns the sanitized fields. -/
abbrev Fetch := String → Int → Except String (Option (List (String × Figure)))

def sheetExists (companyId year : Int) : Failure :=
  .valueError s!"Balance sheet for company {companyId}, year {year} already exists"

/-- `scalar_one_or_none`. -/
def scalarOneOrNone {α : Type} : List α → Action (Option α)
  | [] => return none
  | [row] => return some row
  | _ => throw .multipleResultsFound

def getBalanceSheet (companyId year : Int) : Action (Option BalanceSheet) := do
  scalarOneOrNone (← query (.selectBalanceSheet companyId year))

/-- `_fetch_balance_sheet_row_sync`. -/
def fetchBalanceSheetRow (fetch : Fetch) (ticker : String) (year : Int) :
    Action (Option (List (String × Figure))) :=
  match fetch ticker year with
  | .ok fields => return fields
  | .error exc => throw (.yFinanceFetchError
      s!"Failed to fetch balance sheet for '{ticker}' from yfinance: {exc}")

def knownFields (fields : List (String × Figure)) : List (String × Figure) :=
  fields.filter (·.1 ∈ YFINANCE_COLUMN_NAMES)

def refreshBalanceSheet (id : Int) : Action BalanceSheet := do
  match ← query (.getBalanceSheet id) with
  | some sheet => return sheet
  | none => throw .invalidRequestError

def importBalanceSheet (fetch : Fetch) (companyId year : Int) (ticker : String) :
    Action BalanceSheet := do
  match ← getBalanceSheet companyId year with
  | some _ => throw (sheetExists companyId year)
  | none =>
      match ← fetchBalanceSheetRow fetch ticker year with
      | none => throw (.valueError
          s!"No yfinance balance sheet data for ticker '{ticker}', year {year}")
      | some fields =>
          match ← query (.insertBalanceSheet companyId year (knownFields fields)) with
          | .ok id => refreshBalanceSheet id
          -- Another request may have inserted the row since the check.
          | .error _ => throw (sheetExists companyId year)

def listBalanceSheetsForCompany (companyId : Int) : Action (List BalanceSheet) :=
  query (.selectBalanceSheets companyId none)

def listBalanceSheetsForCompanyYears (companyId : Int) (years : Option (List Int)) :
    Action (List BalanceSheet) :=
  query (.selectBalanceSheets companyId years)

def deleteBalanceSheet (sheet : BalanceSheet) : Action Unit :=
  query (.deleteBalanceSheet sheet.id)

/-! What they write, given what they were told. -/

variable {told : Program.History Reply}

theorem getBalanceSheet_reads (companyId year : Int) :
    Reads (fun later found => ∀ sheet, found = some sheet →
      Program.Told later (.selectBalanceSheet companyId year) [sheet]) told
      (getBalanceSheet companyId year) := by
  apply obeys_query_bind trivial
  intro reply
  match reply with
  | [] => exact obeys_pure nofun
  | [row] =>
      apply obeys_pure
      rintro _ ⟨⟩
      exact Program.told_last _ _ _
  | _ :: _ :: _ => exact obeys_throw _

theorem fetchBalanceSheetRow_reads (fetch : Fetch) (ticker : String) (year : Int) :
    Reads (fun _ fields => fetch ticker year = .ok fields) told
      (fetchBalanceSheetRow fetch ticker year) := by
  unfold fetchBalanceSheetRow
  split
  · rename_i fields fetched
    exact obeys_pure fetched
  · exact obeys_throw _

theorem refreshBalanceSheet_reads (id : Int) :
    Reads (fun _ _ => True) told (refreshBalanceSheet id) := by
  apply obeys_query_bind trivial
  intro reply
  cases reply with
  | none => exact obeys_throw _
  | some sheet => exact obeys_pure trivial

/-- An import writes the fetched fields under the key it was given. -/
theorem importBalanceSheet_writesOnce (fetch : Fetch) (companyId year : Int) (ticker : String)
    (calm : Calm told) :
    WritesOnce (fun _ op => ∃ fields, fetch ticker year = .ok (some fields) ∧
      op = .insertBalanceSheet companyId year (knownFields fields))
      told (importBalanceSheet fetch companyId year ticker) := by
  apply (getBalanceSheet_reads companyId year).bind_writesOnce calm
  intro existing later _ _ calm
  match existing with
  | some _ => exact obeys_throw _
  | none =>
      apply (fetchBalanceSheetRow_reads fetch ticker year).bind_writesOnce calm
      intro result later fetched _ calm
      match result with
      | none => exact obeys_throw _
      | some fields =>
          apply writesOnce_query_bind calm ⟨fields, fetched, rfl⟩
          intro reply
          cases reply with
          | ok id => exact refreshBalanceSheet_reads id
          | error _ => exact obeys_throw _

/-! None of them raises an HTTP error. -/

theorem getBalanceSheet_raises (companyId year : Int) :
    Raises Failure.Internal (getBalanceSheet companyId year) := by
  apply raises_query_bind
  intro reply
  match reply with
  | [] => exact raises_pure _
  | [row] => exact raises_pure _
  | _ :: _ :: _ => exact raises_throw nofun

theorem importBalanceSheet_raises (fetch : Fetch) (companyId year : Int) (ticker : String) :
    Raises Failure.Internal (importBalanceSheet fetch companyId year ticker) := by
  have fetching : Raises Failure.Internal (fetchBalanceSheetRow fetch ticker year) := by
    unfold fetchBalanceSheetRow
    split
    · exact raises_pure _
    · exact raises_throw nofun
  apply (getBalanceSheet_raises companyId year).bind
  intro existing
  match existing with
  | some _ => exact raises_throw nofun
  | none =>
      apply fetching.bind
      intro fields
      match fields with
      | none => exact raises_throw nofun
      | some fields =>
          apply raises_query_bind
          intro reply
          match reply with
          | .error _ => exact raises_throw nofun
          | .ok id =>
              apply raises_query_bind
              intro found
              cases found with
              | none => exact raises_throw nofun
              | some sheet => exact raises_pure _

end BalanceSheetAnalysis

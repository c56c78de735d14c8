import BalanceSheetAnalysis.Access.Documented
import BalanceSheetAnalysis.Store.Frame

/-! Where stored figures come from.  A sheet is kept under the id of its company
and not under the ticker it was fetched with, so it outlives a change of the
ticker. -/
namespace BalanceSheetAnalysis
open Library Authorization Access BalanceSheetAnalysis.Action

section Provenance
variable {rt : Runtime} (activePolicies : String → List (Policy rt)) (db : Database)

/-- A request of the run stored the sheet, from what yfinance had for the ticker
the row of its company held then: the fetched figures that have a column, as they
are.  `rest` is the run after it. -/
def FetchedWith (calls : List Call) (sheet : BalanceSheet) (ticker : String)
    (rest : List Call) : Prop :=
  ∃ first request fetch fields company,
    calls = first ++ ⟨request, .createCompanyBalanceSheet fetch sheet.companyId sheet.year⟩ ::
      rest ∧
    (serveAll activePolicies db first Store.empty).findCompany sheet.companyId = some company ∧
    company.ticker = ticker ∧ fetch ticker sheet.year = .ok (some fields) ∧
    (sheet.figures = fields.filter fun figure => figure.1 ∈ YFINANCE_COLUMN_NAMES) ∧
    sheet ∉ (serveAll activePolicies db first Store.empty).balanceSheets ∧
    sheet ∈ (serveAll activePolicies db
      (first ++ [⟨request, .createCompanyBalanceSheet fetch sheet.companyId sheet.year⟩])
      Store.empty).balanceSheets

/-- Some edit of the company asks for another ticker. -/
def Retickers (calls : List Call) (companyId : Int) (ticker : String) : Prop :=
  ∃ request data newTicker, ⟨request, .editCompany companyId data⟩ ∈ calls ∧
    data.ticker = some (some newTicker) ∧ newTicker.val ≠ ticker

variable {activePolicies db}

theorem FetchedWith.append {calls : List Call} {sheet : BalanceSheet} {ticker : String}
    {rest : List Call} (fetchedWith : FetchedWith activePolicies db calls sheet ticker rest)
    (more : List Call) :
    FetchedWith activePolicies db (calls ++ more) sheet ticker (rest ++ more) := by
  obtain ⟨first, request, fetch, fields, company, rfl, same⟩ := fetchedWith
  exact ⟨first, request, fetch, fields, company, by simp, same⟩

theorem Retickers.append {calls : List Call} {companyId : Int} {ticker : String}
    (retickers : Retickers calls companyId ticker) (more : List Call) :
    Retickers (calls ++ more) companyId ticker := by
  obtain ⟨request, data, newTicker, member, same⟩ := retickers
  exact ⟨request, data, newTicker, List.mem_append_left _ member, same⟩

end Provenance

/-! An analyst imports the figures of JIO and then corrects the ticker. -/

end BalanceSheetAnalysis

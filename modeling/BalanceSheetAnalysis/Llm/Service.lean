import BalanceSheetAnalysis.Store.Tables

/-! The text of balance sheet figures the chat puts before a question. -/
namespace BalanceSheetAnalysis

def KEY_METRICS : List String :=
  ["total_assets", "total_liabilities_net_minority_interest", "stockholders_equity", "total_debt",
    "net_debt", "current_assets", "current_liabilities", "working_capital",
    "cash_and_cash_equivalents", "retained_earnings", "inventory", "accounts_receivable"]

/-- The nearest integer, the even one of two. -/
def roundHalfEven (value : ℚ) : Int :=
  let rest := value - value.floor
  if rest < 1 / 2 then value.floor
  else if 1 / 2 < rest then value.floor + 1
  else if value.floor % 2 = 0 then value.floor
  else value.floor + 1

def insertCommas : List Char → List Char
  | [] => []
  | digit :: digits =>
      if digits ≠ [] ∧ digits.length % 3 = 0 then digit :: ',' :: insertCommas digits
      else digit :: insertCommas digits

/-- The format `,.0f`: the sign stays when the figure rounds to zero. -/
def formatFigure : Figure → String
  | .finite value =>
      let digits := insertCommas (Nat.toDigits 10 (roundHalfEven |value|).toNat)
      (if value < 0 then "-" else "") ++ String.ofList digits
  | .negativeZero => "-0"
  | .infinity negative => if negative then "-inf" else "inf"
  | .nan => "nan"

def metricLine (sheet : BalanceSheet) (field : String) : Option String :=
  let label := field.replace "_" " "
  (sheet.figures.lookup field).map fun value => s!"  - {label}: {formatFigure value}"

def sheetLines (sheet : BalanceSheet) : List String :=
  s!"\nFiscal year {sheet.year}:" :: KEY_METRICS.filterMap (metricLine sheet)

def buildGroundingContext (companyName ticker : String) (balanceSheets : List BalanceSheet) :
    String :=
  if balanceSheets.isEmpty then
    s!"No balance sheet data is currently on file for {companyName} ({ticker})."
  else
    let sorted := balanceSheets.mergeSort fun earlier later => earlier.year ≤ later.year
    "\n".intercalate (s!"Balance sheet figures for {companyName} ({ticker}), in reporting currency:"
      :: sorted.flatMap sheetLines)

/-- `ask_groq` for a question and its context: the answer, or the text of a
`RuntimeError`. -/
abbrev AskGroq := String → String → Except String String

end BalanceSheetAnalysis

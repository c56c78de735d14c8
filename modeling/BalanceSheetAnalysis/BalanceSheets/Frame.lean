import BalanceSheetAnalysis.BalanceSheets.Columns
import BalanceSheetAnalysis.BalanceSheets.Sanitize
import BalanceSheetAnalysis.Companies.Runs

/-! The frame yfinance returns, and the sheet an import stores of it.  A frame
has a value for each of its labels in each of its periods, where a missing one
is a NaN; a label it does not have reads as None. -/
namespace BalanceSheetAnalysis
open Library BalanceSheetAnalysis.Action

def YFINANCE_TO_DB_FIELDS : List (String × String) :=
  [("Accounts Payable", "accounts_payable"),
    ("Accounts Receivable", "accounts_receivable"),
    ("Accumulated Depreciation", "accumulated_depreciation"),
    ("Available For Sale Securities", "available_for_sale_securities"),
    ("Capital Lease Obligations", "capital_lease_obligations"),
    ("Capital Stock", "capital_stock"),
    ("Cash And Cash Equivalents", "cash_and_cash_equivalents"),
    ("Cash Cash Equivalents And Short Term Investments",
      "cash_cash_equivalents_and_short_term_investments"),
    ("Cash Equivalents", "cash_equivalents"),
    ("Cash Financial", "cash_financial"),
    ("Commercial Paper", "commercial_paper"),
    ("Common Stock", "common_stock"),
    ("Common Stock Equity", "common_stock_equity"),
    ("Current Assets", "current_assets"),
    ("Current Capital Lease Obligation", "current_capital_lease_obligation"),
    ("Current Debt", "current_debt"),
    ("Current Debt And Capital Lease Obligation", "current_debt_and_capital_lease_obligation"),
    ("Current Deferred Liabilities", "current_deferred_liabilities"),
    ("Current Deferred Revenue", "current_deferred_revenue"),
    ("Current Liabilities", "current_liabilities"),
    ("Gains Losses Not Affecting Retained Earnings",
      "gains_losses_not_affecting_retained_earnings"),
    ("Gross PPE", "gross_ppe"),
    ("Income Tax Payable", "income_tax_payable"),
    ("Inventory", "inventory"),
    ("Invested Capital", "invested_capital"),
    ("Investmentin Financial Assets", "investment_in_financial_assets"),
    ("Investments And Advances", "investments_and_advances"),
    ("Land And Improvements", "land_and_improvements"),
    ("Leases", "leases"),
    ("Long Term Capital Lease Obligation", "long_term_capital_lease_obligation"),
    ("Long Term Debt", "long_term_debt"),
    ("Long Term Debt And Capital Lease Obligation",
      "long_term_debt_and_capital_lease_obligation"),
    ("Machinery Furniture Equipment", "machinery_furniture_equipment"),
    ("Net Debt", "net_debt"),
    ("Net PPE", "net_ppe"),
    ("Net Tangible Assets", "net_tangible_assets"),
    ("Non Current Deferred Assets", "non_current_deferred_assets"),
    ("Non Current Deferred Taxes Assets", "non_current_deferred_taxes_assets"),
    ("Ordinary Shares Number", "ordinary_shares_number"),
    ("Other Current Assets", "other_current_assets"),
    ("Other Current Borrowings", "other_current_borrowings"),
    ("Other Current Liabilities", "other_current_liabilities"),
    ("Other Equity Adjustments", "other_equity_adjustments"),
    ("Other Investments", "other_investments"),
    ("Other Non Current Assets", "other_non_current_assets"),
    ("Other Non Current Liabilities", "other_non_current_liabilities"),
    ("Other Properties", "other_properties"),
    ("Other Receivables", "other_receivables"),
    ("Other Short Term Investments", "other_short_term_investments"),
    ("Payables", "payables"),
    ("Payables And Accrued Expenses", "payables_and_accrued_expenses"),
    ("Properties", "properties"),
    ("Receivables", "receivables"),
    ("Retained Earnings", "retained_earnings"),
    ("Share Issued", "share_issued"),
    ("Stockholders Equity", "stockholders_equity"),
    ("Tangible Book Value", "tangible_book_value"),
    ("Total Assets", "total_assets"),
    ("Total Capitalization", "total_capitalization"),
    ("Total Debt", "total_debt"),
    ("Total Equity Gross Minority Interest", "total_equity_gross_minority_interest"),
    ("Total Liabilities Net Minority Interest", "total_liabilities_net_minority_interest"),
    ("Total Non Current Assets", "total_non_current_assets"),
    ("Total Non Current Liabilities Net Minority Interest",
      "total_non_current_liabilities_net_minority_interest"),
    ("Total Tax Payable", "total_tax_payable"),
    ("Tradeand Other Payables Non Current", "trade_and_other_payables_non_current"),
    ("Treasury Shares Number", "treasury_shares_number"),
    ("Working Capital", "working_capital")]

structure Date where
  year : Int
  month : Int
  day : Int
  deriving DecidableEq

/-- A value that never reaches the database, or that its `Float` column takes as
it is.  Left out are the integers beyond 2^53, which the column would round to a
double, and a `complex64`, which passes the sanitizer and which the driver turns
down; a frame of yfinance's has neither. -/
def Scalar.Storable : Scalar → Prop
  | .int value | .npInteger value => value.natAbs ≤ 2 ^ 53
  | .npComplex .complex64 _ _ => False
  | _ => True

structure Cell where
  value : Scalar
  storable : value.Storable

structure Period where
  date : Date
  cells : String → Cell

/-- `stock.balance_sheet`: a row for each label, a column for each date. -/
structure Frame where
  labels : List String
  periods : List Period
  dates : Table.Keyed Period.date periods

theorem fields_keyed : Table.Keyed Prod.snd YFINANCE_TO_DB_FIELDS := by
  change (YFINANCE_TO_DB_FIELDS.map Prod.snd).Nodup
  decide +kernel

theorem fields_known : ∀ entry ∈ YFINANCE_TO_DB_FIELDS, entry.2 ∈ YFINANCE_COLUMN_NAMES := by
  decide +kernel

namespace Frame

/-- `bs.empty`. -/
def empty (frame : Frame) : Bool := frame.labels = [] || frame.periods.isEmpty

/-- `bs.index`, after the transposition. -/
def index (frame : Frame) : List Date := frame.periods.map Period.date

def loc (frame : Frame) (date : Date) : Option Period :=
  Table.find Period.date frame.periods date

/-- `bs_year.get`. -/
def get (frame : Frame) (period : Period) (label : String) : Scalar :=
  if label ∈ frame.labels then (period.cells label).value else .none

def rawField (frame : Frame) (period : Period) (entry : String × String) :
    Option (String × Scalar) :=
  let value := frame.get period entry.1
  if value = .none then none else some (entry.2, value)

theorem keyed_rawFields (frame : Frame) (period : Period) {fields : List (String × String)}
    (keyed : Table.Keyed Prod.snd fields) :
    Table.Keyed Prod.fst (fields.filterMap (frame.rawField period)) := by
  apply keyed.filterMap
  intro entry out isOut
  unfold rawField at isOut
  dsimp only at isOut
  split at isOut
  · cases isOut
  · cases isOut
    rfl

def rawFields (frame : Frame) (period : Period) : Mapping String Scalar :=
  ⟨YFINANCE_TO_DB_FIELDS.filterMap (frame.rawField period),
    frame.keyed_rawFields period fields_keyed⟩

/-- What `_fetch_balance_sheet_row_sync` makes of a downloaded frame. -/
def balanceSheetRow (frame : Frame) (year : Int) : Option (Mapping String Scalar) :=
  if frame.empty then none
  else ((frame.index.find? (·.year = year)).bind frame.loc).map fun period =>
    sanitizeMapping (frame.rawFields period)

end Frame

/-- The value of a `Float` column that is set to a native number. -/
def columnValue : Scalar → Option Figure
  | .int value => some (.finite value)
  | .float value => some value
  | _ => none

/-- An import that downloads its frame. -/
def yfinanceFetch (download : String → Except String Frame) : Fetch := fun ticker year =>
  match download ticker with
  | .error exc => .error exc
  | .ok frame => .ok ((frame.balanceSheetRow year).map fun row =>
      row.entries.filterMap fun entry => (columnValue entry.2).map (entry.1, ·))

/-! What a sheet is to hold. -/

/-- The finite real number a value is, if it is one. -/
def Scalar.real : Scalar → Option Figure
  | .int value | .npInteger value => some (.finite value)
  | .float value | .npFloat _ value =>
      if isnan value || isinf value then Option.none else some value
  | _ => Option.none

def BalanceSheet.column (sheet : BalanceSheet) (field : String) : Option Figure :=
  (Table.find Prod.fst sheet.figures field).map Prod.snd

/-- The first period dated in the year. -/
def Frame.periodOf (frame : Frame) (year : Int) : Option Period :=
  frame.periods.find? (·.date.year = year)

/-- A mapped label of the period has a usable value. -/
def Frame.Usable (frame : Frame) (period : Period) : Prop :=
  ∃ entry ∈ YFINANCE_TO_DB_FIELDS, (frame.get period entry.1).real ≠ none

/-- Each mapped column has the usable value of its label, and all others are null. -/
structure HoldsPeriod (frame : Frame) (period : Period) (sheet : BalanceSheet) : Prop where
  mapped : ∀ entry ∈ YFINANCE_TO_DB_FIELDS,
    sheet.column entry.2 = (frame.get period entry.1).real
  elsewhere : ∀ field, field ∉ YFINANCE_TO_DB_FIELDS.map Prod.snd → sheet.column field = none

def noData (ticker : String) (year : Int) : Failure :=
  .valueError s!"No yfinance balance sheet data for ticker '{ticker}', year {year}"

/-- The sheet is stored if the year has usable figures, and then it holds exactly
these; otherwise nothing is stored. -/
structure ImportsUsable (store : Store) (frame : Frame) (companyId year : Int) (ticker : String)
    (outcome : Option (Except Failure BalanceSheet) × Store) : Prop where
  stored : ∀ period, frame.periodOf year = some period → frame.Usable period →
    ∃ sheet, outcome = (some (.ok sheet), { store with
        sheetsDrawn := store.sheetsDrawn + 1
        balanceSheets := store.balanceSheets ++ [sheet] }) ∧
      sheet.companyId = companyId ∧ sheet.year = year ∧ HoldsPeriod frame period sheet
  refused : (∀ period, frame.periodOf year = some period → ¬frame.Usable period) →
    outcome = (some (.error (noData ticker year)), store)

/-! The stages of an import, one value at a time. -/

/-- What becomes of one value. -/
def Scalar.stored (value : Scalar) : Option Figure :=
  if isValidValue value then columnValue (convertValue value) else Option.none

namespace Scalar

theorem real_of_finite {value : Scalar} (real : value.FiniteReal) :
    value.real = columnValue (convertValue value) := by
  cases value with
  | int _ | npInteger _ => rfl
  | float figure | npFloat _ figure =>
      have finite : ¬(isnan figure || isinf figure) = true := by
        rw [show isnan figure = false from real.1, show isinf figure = false from real.2]
        exact nofun
      rw [Scalar.real, if_neg finite]
      rfl
  | none | complex _ _ | npComplex _ _ _ => cases real

theorem real_of_not_finite {value : Scalar} (unreal : ¬value.FiniteReal) :
    value.real = Option.none := by
  cases value with
  | int _ | npInteger _ => exact absurd trivial unreal
  | float figure | npFloat _ figure =>
      apply if_pos
      cases figure with
      | finite _ | negativeZero => exact absurd ⟨rfl, rfl⟩ unreal
      | infinity _ | nan => rfl
  | none | complex _ _ | npComplex _ _ _ => rfl

/-- A wide value is stored if it is a finite real number. -/
theorem stored_of_wide {value : Scalar} (wide : ¬value.Narrow) : value.stored = value.real := by
  unfold stored
  by_cases real : value.FiniteReal
  · rw [if_pos ((isValidValue_iff value).mpr (.inl real)), real_of_finite real]
  · rw [if_neg (mt (isValidValue_iff value).mp (not_or.mpr ⟨real, wide⟩)), real_of_not_finite real]

theorem stored_of_narrow {value : Scalar} (storable : value.Storable) (narrow : value.Narrow) :
    value.stored ≠ value.real := by
  have unreal : ¬value.FiniteReal := fun real =>
    not_clean_of_narrow narrow (clean_convertValue real)
  rw [stored, if_pos ((isValidValue_iff value).mpr (.inr narrow)), real_of_not_finite unreal]
  cases value with
  | npFloat _ _ => exact nofun
  | npComplex width _ _ =>
      cases width with
      | complex64 => cases storable
      | complex128 => cases narrow
  | none | int _ | float _ | complex _ _ | npInteger _ => cases narrow

end Scalar

section Stages
variable {frame : Frame} {period : Period}

theorem storable_get (frame : Frame) (period : Period) (label : String) :
    (frame.get period label).Storable := by
  unfold Frame.get
  split
  · exact (period.cells label).storable
  · trivial

theorem mem_rawFields {field : String} {value : Scalar} :
    (field, value) ∈ (frame.rawFields period).entries ↔
      ∃ label, (label, field) ∈ YFINANCE_TO_DB_FIELDS ∧ frame.get period label = value ∧
        value ≠ .none := by
  simp only [Frame.rawFields, List.mem_filterMap, Prod.exists, Frame.rawField]
  constructor
  · rintro ⟨label, _, member, isRaw⟩
    split at isRaw
    · cases isRaw
    · rename_i present
      cases isRaw
      exact ⟨label, member, rfl, present⟩
  · rintro ⟨label, member, rfl, present⟩
    exact ⟨label, field, member, if_neg present⟩

/-- The fields a fetched row has. -/
def Frame.figures (frame : Frame) (period : Period) : List (String × Figure) :=
  (sanitizeMapping (frame.rawFields period)).entries.filterMap fun entry =>
    (columnValue entry.2).map (entry.1, ·)

theorem mem_figures {field : String} {figure : Figure} :
    (field, figure) ∈ frame.figures period ↔
      ∃ label, (label, field) ∈ YFINANCE_TO_DB_FIELDS ∧
        (frame.get period label).stored = some figure := by
  have isStored {value : Scalar} : value.stored = some figure ↔
      isValidValue value = true ∧ columnValue (convertValue value) = some figure := by
    simp [Scalar.stored]
  have cleaned {value : Scalar} :
      (field, value) ∈ (sanitizeMapping (frame.rawFields period)).entries ↔
        ∃ given, (field, given) ∈ (frame.rawFields period).entries ∧
          isValidValue given = true ∧ value = convertValue given := by
    simp only [Scalar.isValidValue_iff]
    exact mem_sanitizeEntries
  have figured : (field, figure) ∈ frame.figures period ↔
      ∃ value, (field, value) ∈ (sanitizeMapping (frame.rawFields period)).entries ∧
        columnValue value = some figure := by
    simp [Frame.figures]
  rw [figured]
  constructor
  · rintro ⟨_, member, isColumn⟩
    obtain ⟨given, isRaw, valid, rfl⟩ := cleaned.mp member
    obtain ⟨label, mapped, rfl, _⟩ := mem_rawFields.mp isRaw
    exact ⟨label, mapped, isStored.mpr ⟨valid, isColumn⟩⟩
  · rintro ⟨label, mapped, stores⟩
    obtain ⟨valid, isColumn⟩ := isStored.mp stores
    have present : frame.get period label ≠ .none := by
      intro absent
      rw [absent] at valid
      cases valid
    exact ⟨_, cleaned.mpr ⟨_, mem_rawFields.mpr ⟨label, mapped, rfl, present⟩, valid, rfl⟩,
      isColumn⟩

/-- Every field of a fetched row is a column. -/
theorem knownFields_figures : knownFields (frame.figures period) = frame.figures period := by
  apply List.filter_eq_self.mpr
  rintro ⟨field, figure⟩ member
  obtain ⟨label, mapped, _⟩ := mem_figures.mp member
  exact decide_eq_true (fields_known (label, field) mapped)

theorem keyed_figures : Table.Keyed Prod.fst (frame.figures period) := by
  apply (sanitizeMapping (frame.rawFields period)).keys.filterMap
  intro entry out isOut
  obtain ⟨figure, _, rfl⟩ := Option.map_eq_some_iff.mp isOut
  rfl

theorem column_iff {sheet : BalanceSheet} (isRow : sheet.figures = frame.figures period)
    {field : String} {figure : Figure} :
    sheet.column field = some figure ↔
      ∃ label, (label, field) ∈ YFINANCE_TO_DB_FIELDS ∧
        (frame.get period label).stored = some figure := by
  rw [BalanceSheet.column, isRow, ← mem_figures]
  simp [Table.find_eq_some_iff keyed_figures]

theorem column_mapped {sheet : BalanceSheet} (isRow : sheet.figures = frame.figures period)
    {entry : String × String} (member : entry ∈ YFINANCE_TO_DB_FIELDS) :
    sheet.column entry.2 = (frame.get period entry.1).stored := by
  ext figure
  rw [column_iff isRow]
  constructor
  · rintro ⟨label, mapped, stores⟩
    have same := List.inj_on_of_nodup_map fields_keyed mapped member rfl
    rwa [← same]
  · intro stores
    exact ⟨entry.1, member, stores⟩

/-- The sheet holds the period exactly if none of its mapped values is narrow. -/
theorem holdsPeriod_iff {sheet : BalanceSheet} (isRow : sheet.figures = frame.figures period) :
    HoldsPeriod frame period sheet ↔
      ∀ entry ∈ YFINANCE_TO_DB_FIELDS, ¬(frame.get period entry.1).Narrow := by
  constructor
  · intro holds entry member narrow
    apply Scalar.stored_of_narrow (storable_get frame period entry.1) narrow
    rw [← column_mapped isRow member, holds.mapped entry member]
  · intro wide
    constructor
    · intro entry member
      rw [column_mapped isRow member, Scalar.stored_of_wide (wide entry member)]
    · intro field unmapped
      rw [Option.eq_none_iff_forall_ne_some]
      intro figure isColumn
      obtain ⟨label, mapped, _⟩ := (column_iff isRow).mp isColumn
      exact unmapped (List.mem_map_of_mem mapped)

/-- The row of the first period dated in the year, in a frame with labels. -/
theorem balanceSheetRow_eq (frame : Frame) (year : Int) :
    frame.balanceSheetRow year =
      if frame.labels = [] then none
      else (frame.periodOf year).map fun period => sanitizeMapping (frame.rawFields period) := by
  have located : (frame.index.find? (·.year = year)).bind frame.loc = frame.periodOf year := by
    rw [Frame.index, List.find?_map, Frame.periodOf]
    cases found : frame.periods.find? (·.date.year = year) with
    | none =>
        rw [show frame.periods.find? ((fun date => decide (date.year = year)) ∘ Period.date) = none
          from found]
        rfl
    | some period =>
        rw [show frame.periods.find? ((fun date => decide (date.year = year)) ∘ Period.date) =
          some period from found]
        exact Table.find_of_mem frame.dates (List.mem_of_find?_eq_some found)
  unfold Frame.balanceSheetRow Frame.empty
  rw [located]
  by_cases unlabelled : frame.labels = []
  · simp [unlabelled]
  · cases hasPeriods : frame.periods with
    | nil => simp [unlabelled, Frame.periodOf, hasPeriods]
    | cons period periods => simp [unlabelled]

/-- Without labels nothing is usable. -/
theorem labels_of_usable (usable : frame.Usable period) : frame.labels ≠ [] := by
  rintro unlabelled
  obtain ⟨entry, _, isReal⟩ := usable
  apply isReal
  rw [Frame.get, unlabelled, if_neg List.not_mem_nil]
  rfl

end Stages

section Import
variable {db : Database} {store : Store} {download : String → Except String Frame}
  {companyId year : Int} {ticker : String} {frame : Frame}

theorem execute_importBalanceSheet_noData (wf : Store.WellFormed db store) {fetch : Fetch}
    (absent : store.sheetAt (companyId, year) = none) (fetched : fetch ticker year = .ok none) :
    (importBalanceSheet fetch companyId year ticker).execute db store =
      (.error (noData ticker year), store) := by
  rw [importBalanceSheet, execute_bind, execute_getBalanceSheet wf, absent]
  dsimp only
  rw [fetchBalanceSheetRow, fetched]
  rfl

theorem yfinanceFetch_none (downloaded : download ticker = .ok frame)
    (nothing : frame.labels = [] ∨ frame.periodOf year = none) :
    yfinanceFetch download ticker year = .ok none := by
  simp only [yfinanceFetch, downloaded, balanceSheetRow_eq]
  rcases nothing with unlabelled | undated
  · rw [if_pos unlabelled]
    rfl
  · rw [undated]
    simp

theorem yfinanceFetch_some (downloaded : download ticker = .ok frame) (labels : frame.labels ≠ [])
    {period : Period} (dated : frame.periodOf year = some period) :
    yfinanceFetch download ticker year = .ok (some (frame.figures period)) := by
  simp only [yfinanceFetch, downloaded, balanceSheetRow_eq, if_neg labels, dated]
  rfl

/-- Either way the import has an outcome of its own, and not the database's. -/
theorem ImportsUsable.answered {outcome : Option (Except Failure BalanceSheet) × Store}
    (imports : ImportsUsable store frame companyId year ticker outcome) : outcome.1 ≠ none := by
  by_cases usable : ∃ period, frame.periodOf year = some period ∧ frame.Usable period
  · obtain ⟨period, dated, isUsable⟩ := usable
    obtain ⟨sheet, rfl, _⟩ := imports.stored period dated isUsable
    exact Option.some_ne_none _
  · rw [imports.refused fun period dated isUsable => usable ⟨period, dated, isUsable⟩]
    exact Option.some_ne_none _

/-- While the year fits its column, an import stores exactly the usable figures of
the year, and nothing when there are none, if and only if a period of the year
that yfinance has values for has a usable one, and no narrow one. -/
theorem importsUsable_of_fits (wf : Store.WellFormed db store) {company : Company}
    (found : store.findCompany companyId = some company)
    (absent : store.sheetAt (companyId, year) = none) (downloaded : download ticker = .ok frame) :
    let run := (importBalanceSheet (yfinanceFetch download) companyId year ticker).execute db store
    ImportsUsable store frame companyId year ticker (some run.1, run.2) ↔
      ∀ period, frame.periodOf year = some period → frame.labels ≠ [] →
        frame.Usable period ∧
          ∀ entry ∈ YFINANCE_TO_DB_FIELDS, ¬(frame.get period entry.1).Narrow := by
  dsimp only
  by_cases nothing : frame.labels = [] ∨ frame.periodOf year = none
  · rw [execute_importBalanceSheet_noData wf absent (yfinanceFetch_none downloaded nothing)]
    have unusable (period : Period) (dated : frame.periodOf year = some period) :
        frame.labels = [] := by
      apply nothing.resolve_right
      rw [dated]
      exact nofun
    apply iff_of_true
    · constructor
      · intro period dated usable
        exact absurd (unusable period dated) (labels_of_usable usable)
      · intro _
        rfl
    · intro period dated labels
      exact absurd (unusable period dated) labels
  rw [not_or] at nothing
  obtain ⟨period, dated⟩ := Option.ne_none_iff_exists'.mp nothing.2
  have committed := execute_importBalanceSheet_new wf found absent
    (yfinanceFetch_some downloaded nothing.1 dated)
  have isRow : (store.importedSheet db companyId year (frame.figures period)).figures =
      frame.figures period := knownFields_figures
  rw [committed]
  constructor
  · intro imports other otherDated _
    obtain rfl : period = other := Option.some.inj (dated.symm.trans otherDated)
    have usable : frame.Usable period := by
      by_contra unusable
      have refused := imports.refused fun other otherDated =>
        Option.some.inj (dated.symm.trans otherDated) ▸ unusable
      cases congrArg Prod.fst refused
    obtain ⟨sheet, same, _, _, holds⟩ := imports.stored period dated usable
    cases Except.ok.inj (Option.some.inj (congrArg Prod.fst same))
    exact ⟨usable, (holdsPeriod_iff isRow).mp holds⟩
  · intro condition
    obtain ⟨usable, wide⟩ := condition period dated nothing.1
    constructor
    · intro other otherDated _
      obtain rfl : period = other := Option.some.inj (dated.symm.trans otherDated)
      exact ⟨_, rfl, rfl, rfl, (holdsPeriod_iff isRow).mpr wide⟩
    · intro unusable
      exact absurd usable (unusable period dated)

/-- An import stores exactly the usable figures of the year, and nothing when
there are none, if and only if the year fits its column, and a period of the year
that yfinance has values for has a usable one, and no narrow one. -/
theorem import_usable_iff (wf : Store.WellFormed db store) (typed : store.Typed db)
    {company : Company} (found : store.findCompany companyId = some company)
    (absent : store.sheetAt (companyId, year) = none) (downloaded : download ticker = .ok frame) :
    ImportsUsable store frame companyId year ticker
        ((importBalanceSheet (yfinanceFetch download) companyId year ticker).executeTyped db
          store) ↔
      FitsInteger year ∧ ∀ period, frame.periodOf year = some period → frame.labels ≠ [] →
        frame.Usable period ∧
          ∀ entry ∈ YFINANCE_TO_DB_FIELDS, ¬(frame.get period entry.1).Narrow := by
  have sends : Accepted db store (importBalanceSheet (yfinanceFetch download) companyId year
      ticker) ↔ FitsInteger year :=
    (accepted_importBalanceSheet typed wf _ ticker).trans (and_iff_right (typed.of_find found))
  by_cases fits : FitsInteger year
  · rw [executeTyped_eq_of_accepted (sends.mpr fits), and_iff_right fits]
    exact importsUsable_of_fits wf found absent downloaded
  · refine iff_of_false (fun imports => imports.answered ?_) fun both => fits both.1
    exact executeTyped_of_refused (mt sends.mp fits)

end Import

/-- A frame with one label and one period. -/
def totalDebt (value : Figure) : Frame where
  labels := ["Total Debt"]
  periods := [⟨⟨2024, 3, 31⟩, fun _ => ⟨.npFloat .float64 value, trivial⟩⟩]
  dates := List.nodup_singleton _

theorem import_usable_iff_totalDebt :
    ImportsUsable twoGroups (totalDebt (.finite 5)) 2 2024 "TATA"
      ((importBalanceSheet (yfinanceFetch fun _ => .ok (totalDebt (.finite 5))) 2 2024
        "TATA").executeTyped .counting twoGroups) := by
  have reached : Reached Database.counting twoGroups := ⟨_, rfl⟩
  have found : twoGroups.findCompany 2 = some tata := rfl
  refine (import_usable_iff reached.wellFormed twoGroups_typed found rfl rfl).mpr
    ⟨by decide, ?_⟩
  rintro _ ⟨⟩ _
  refine ⟨⟨("Total Debt", "total_debt"), by decide +kernel, ?_⟩, fun entry _ => ?_⟩
  · exact nofun
  · unfold Frame.get
    split
    · exact id
    · exact id

/-- A year whose only value is a NaN is stored as an empty sheet. -/
theorem totalDebt_nan_stored :
    ((importBalanceSheet (yfinanceFetch fun _ => .ok (totalDebt .nan)) 2 2024 "TATA").executeTyped
        .counting twoGroups).2.balanceSheets = [⟨1, 2, 2024, []⟩] ∧
      ¬ImportsUsable twoGroups (totalDebt .nan) 2 2024 "TATA"
        ((importBalanceSheet (yfinanceFetch fun _ => .ok (totalDebt .nan)) 2 2024
          "TATA").executeTyped .counting twoGroups) := by
  have stored : ((importBalanceSheet (yfinanceFetch fun _ => .ok (totalDebt .nan)) 2 2024
      "TATA").executeTyped .counting twoGroups).2.balanceSheets = [⟨1, 2, 2024, []⟩] := by
    decide +kernel
  refine ⟨stored, fun imports => ?_⟩
  have refused := imports.refused fun period dated => by
    cases dated
    rintro ⟨entry, _, usable⟩
    apply usable
    unfold Frame.get
    split <;> rfl
  rw [refused] at stored
  cases stored

end BalanceSheetAnalysis

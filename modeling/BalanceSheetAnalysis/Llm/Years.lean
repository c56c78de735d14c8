import BalanceSheetAnalysis.Access.Chat
import BalanceSheetAnalysis.BalanceSheets.Execution
import BalanceSheetAnalysis.Llm.Grounding

/-! The fiscal years a chat is grounded in: those of the sheets the route
fetches, and those the text opens a section for. -/
namespace BalanceSheetAnalysis
open Library Text Authorization Access BalanceSheetAnalysis.Action

section Route
variable {rt : Runtime} (activePolicies : String → List (Policy rt)) (request : Request)

/-- What `chat` fetches before it asks the model. -/
def chatGrounding (payload : ChatRequest) : Action (Company × List BalanceSheet) := do
  let company ← authorizedCompany activePolicies request LLM_CHAT RESOURCE_LLM payload.companyId
  let balanceSheets ← listBalanceSheetsForCompanyYears company.id payload.years
  return (company, balanceSheets)

/-- The rest of `chat`: the question goes to the model with the text. -/
def askAbout (askGroq : AskGroq) (question : String)
    (grounding : Company × List BalanceSheet) : Action String :=
  Action.translate badGateway <|
    match askGroq question
        (buildGroundingContext grounding.1.name grounding.1.ticker grounding.2) with
    | .ok answer => return answer
    | .error detail => throw (.runtimeError detail)

theorem chat_eq (askGroq : AskGroq) (payload : ChatRequest) :
    chat activePolicies request askGroq payload =
      chatGrounding activePolicies request payload >>= askAbout askGroq payload.question := by
  let company := authorizedCompany activePolicies request LLM_CHAT RESOURCE_LLM payload.companyId
  unfold chatGrounding
  refine Eq.trans ?_ (bind_assoc company _ _).symm
  rfl

variable {activePolicies request}

/-- Past the check the years asked about are sent, to a column of 32 bits. -/
theorem executeTyped_chatGrounding {db : Database} {store : Store} (typed : store.Typed db)
    {company : Company} {payload : ChatRequest}
    (found : store.findCompany payload.companyId = some company)
    (allowed : Allows activePolicies request LLM_CHAT RESOURCE_LLM company.id
      company.groupRootId) :
    (chatGrounding activePolicies request payload).executeTyped db store =
      (if ∀ year ∈ payload.years.getD [], FitsInteger year then
          some (.ok (company, store.selectBalanceSheets company.id payload.years))
        else none,
        recorded activePolicies request LLM_CHAT RESOURCE_LLM company store) := by
  rw [chatGrounding, executeTyped_authorizedCompany_bind typed, found]
  dsimp only
  rw [if_pos allowed]
  have fitsId : FitsInteger company.id := typed.companyIds company (Table.find_eq_some found).1
  by_cases fits : ∀ year ∈ payload.years.getD [], FitsInteger year
  · rw [if_pos fits]
    have domain : (Operation.selectBalanceSheets company.id payload.years).InDomain :=
      ⟨fitsId, fits⟩
    exact executeTyped_query_bind domain
  · rw [if_neg fits]
    have refused : ¬(Operation.selectBalanceSheets company.id payload.years).InDomain :=
      fun domain => fits domain.2
    exact executeTyped_query_refused refused

end Route

/-! The years of the sheets, and of the text. -/

/-- The request asks for this year: it is listed, or there is no list. -/
def Wanted (years : Option (List Int)) (year : Int) : Prop :=
  ∀ listed, years = some listed → year ∈ listed

def Statement.openedYear : Statement → Option Int
  | .opens year => some year
  | .states _ _ _ => none

/-- The years of the sections, in the order of the text. -/
def sectionYears (breaks : LineBreaks) (text : String) : List Int :=
  (readText breaks text).filterMap Statement.openedYear

/-- These are the sheets of the company in the wanted years. -/
def FetchesExactly (store : Store) (company : Company) (years : Option (List Int))
    (balanceSheets : List BalanceSheet) : Prop :=
  ∀ sheet, sheet ∈ balanceSheets ↔
    sheet ∈ store.balanceSheets ∧ sheet.companyId = company.id ∧ Wanted years sheet.year

/-- The sheets are those wanted, and the text has one section for each of them
in strictly increasing order, or says that there is none. -/
structure GroundedInYears (breaks : LineBreaks) (store : Store) (company : Company)
    (years : Option (List Int)) (balanceSheets : List BalanceSheet) (text : String) : Prop where
  exactly : FetchesExactly store company years balanceSheets
  once : balanceSheets.Nodup
  increasing : balanceSheets ≠ [] → (sectionYears breaks text).Pairwise (· < ·)
  sections : balanceSheets ≠ [] → ∀ year, year ∈ sectionYears breaks text ↔
    ∃ sheet ∈ balanceSheets, sheet.year = year
  noSheets : text = nothingOnFile company.name company.ticker ↔ balanceSheets = []

section Years
variable {breaks : LineBreaks} {store : Store}

/-- An empty list of years is treated as none. -/
theorem fetchesExactly_iff {company : Company} {years : Option (List Int)} :
    FetchesExactly store company years (store.selectBalanceSheets company.id years) ↔
      (years = some [] → ∀ sheet ∈ store.balanceSheets, sheet.companyId ≠ company.id) := by
  constructor
  · rintro exactly rfl sheet member sameCompany
    have fetched : sheet ∈ store.selectBalanceSheets company.id (some []) :=
      Store.mem_selectBalanceSheets.mpr ⟨member, sameCompany, .inl rfl⟩
    cases ((exactly sheet).mp fetched).2.2 [] rfl
  · intro listed sheet
    rw [Store.mem_selectBalanceSheets]
    apply and_congr_right
    intro member
    apply and_congr_right
    intro sameCompany
    cases years with
    | none => simp [Wanted]
    | some years =>
        have nonempty : years ≠ [] := fun empty =>
          listed (congrArg some empty) sheet member sameCompany
        simp [Wanted, nonempty]

theorem sectionYears_sections (balanceSheets : List BalanceSheet) :
    ((byYear balanceSheets).flatMap sheetStatements).filterMap Statement.openedYear =
      (byYear balanceSheets).map BalanceSheet.year := by
  have ofSheet (sheet : BalanceSheet) :
      (sheetStatements sheet).filterMap Statement.openedYear = [sheet.year] := by
    have figures : (KEY_METRICS.filterMap (figureStatement sheet)).filterMap
        Statement.openedYear = [] := by
      rw [List.filterMap_eq_nil_iff]
      intro statement member
      obtain ⟨field, _, isStatement⟩ := List.mem_filterMap.mp member
      obtain ⟨figure, value, _, _, rfl⟩ := figureStatement_iff.mp isStatement
      rfl
    have opens : Statement.openedYear (.opens sheet.year) = some sheet.year := rfl
    rw [sheetStatements, List.filterMap_cons_some opens, figures]
  induction byYear balanceSheets with
  | nil => rfl
  | cons sheet sheets ih =>
      rw [List.flatMap_cons, List.filterMap_append, ofSheet, ih]
      rfl

/-- Sheets already in order are written in that order. -/
theorem byYear_of_increasing {balanceSheets : List BalanceSheet}
    (increasing : balanceSheets.Pairwise fun earlier later => earlier.year < later.year) :
    byYear balanceSheets = balanceSheets := by
  apply List.mergeSort_of_pairwise
  exact increasing.imp fun before => decide_eq_true before.le

theorem sectionYears_eq {company : Company} {balanceSheets : List BalanceSheet}
    (increasing : balanceSheets.Pairwise fun earlier later => earlier.year < later.year) :
    sectionYears breaks (buildGroundingContext company.name company.ticker balanceSheets) =
      sectionYears breaks (heading company.name company.ticker balanceSheets) ++
        balanceSheets.map BalanceSheet.year := by
  rw [sectionYears, readText_buildGroundingContext, List.filterMap_append,
    sectionYears_sections, byYear_of_increasing increasing]
  rfl

/-- A text about some sheets is not the sentence that there are none. -/
theorem buildGroundingContext_nothingOnFile {companyName ticker : String}
    {balanceSheets : List BalanceSheet} :
    buildGroundingContext companyName ticker balanceSheets = nothingOnFile companyName ticker ↔
      balanceSheets = [] := by
  have sentence : (nothingOnFile companyName ticker).toList.head? = some 'N' := by
    unfold nothingOnFile
    simp only [String.toList_append]
    rfl
  constructor
  · intro same
    cases balanceSheets with
    | nil => rfl
    | cons sheet sheets =>
        have figures : (buildGroundingContext companyName ticker (sheet :: sheets)).toList.head? =
            some 'B' := by
          unfold buildGroundingContext
          rw [List.isEmpty_cons, if_neg Bool.false_ne_true, String.toList_intercalate]
          cases (sheet :: sheets).mergeSort _ |>.flatMap sheetLines with
          | nil =>
              simp only [List.map_cons, List.map_nil, List.intercalate_singleton,
                String.toList_append]
              rfl
          | cons line lines =>
              simp only [List.map_cons, List.intercalate_cons_cons, String.toList_append]
              rfl
        rw [same, sentence] at figures
        cases figures
  · rintro rfl
    rfl

theorem sections_iff {company : Company} {balanceSheets : List BalanceSheet}
    (increasing : balanceSheets.Pairwise fun earlier later => earlier.year < later.year) :
    let years := sectionYears breaks
      (buildGroundingContext company.name company.ticker balanceSheets)
    (years.Pairwise (· < ·) ∧
        ∀ year, year ∈ years ↔ ∃ sheet ∈ balanceSheets, sheet.year = year) ↔
      ¬OpensYear breaks company.name ∧ ¬OpensYear breaks company.ticker := by
  intro years
  have isYears : years = _ := sectionYears_eq increasing
  rw [isYears, ← not_or]
  constructor
  · rintro ⟨ordered, onFile⟩ imitated
    obtain ⟨year, inHeading⟩ := readText_heading_opens balanceSheets imitated
    have opened : year ∈ sectionYears breaks
        (heading company.name company.ticker balanceSheets) :=
      List.mem_filterMap.mpr ⟨_, inHeading, rfl⟩
    have onSheet : year ∈ balanceSheets.map BalanceSheet.year :=
      List.mem_map.mpr ((onFile year).mp (List.mem_append_left _ opened))
    exact lt_irrefl year ((List.pairwise_append.mp ordered).2.2 year opened year onSheet)
  · intro clean
    rw [sectionYears, readText_heading_clean balanceSheets clean]
    refine ⟨List.pairwise_map.mpr increasing, ?_⟩
    intro year
    exact List.mem_map

end Years

/-- The route passes on the sheets of the wanted years, and writes a section
for each, exactly when every year it asks about fits the column; the list of years
is not empty, or the company has no sheets; and neither its name nor its ticker,
as long as they head some sheets, has a line that opens a year. -/
theorem chat_groundedInYears_iff {rt : Runtime} {activePolicies : String → List (Policy rt)}
    {request : Request} {db : Database} {store : Store} (wf : Store.WellFormed db store)
    (typed : store.Typed db) {payload : ChatRequest} {company : Company}
    (found : store.findCompany payload.companyId = some company)
    (allowed : Allows activePolicies request LLM_CHAT RESOURCE_LLM company.id
      company.groupRootId) (breaks : LineBreaks) :
    (∃ balanceSheets later,
      (chatGrounding activePolicies request payload).executeTyped db store =
        (some (.ok (company, balanceSheets)), later) ∧
      (∀ askGroq, (chat activePolicies request askGroq payload).executeTyped db store =
        (askAbout askGroq payload.question (company, balanceSheets)).executeTyped db later) ∧
      GroundedInYears breaks store company payload.years balanceSheets
        (buildGroundingContext company.name company.ticker balanceSheets)) ↔
      (∀ year ∈ payload.years.getD [], FitsInteger year) ∧
        (payload.years = some [] → ∀ sheet ∈ store.balanceSheets, sheet.companyId ≠ company.id) ∧
          ((∃ sheet ∈ store.balanceSheets, sheet.companyId = company.id ∧
              Wanted payload.years sheet.year) →
            ¬OpensYear breaks company.name ∧ ¬OpensYear breaks company.ticker) := by
  let sheets := store.selectBalanceSheets company.id payload.years
  have fetched := executeTyped_chatGrounding typed found allowed
  have increasing : sheets.Pairwise fun earlier later => earlier.year < later.year :=
    wf.selectBalanceSheets_increasing company.id payload.years
  have sections := @sections_iff breaks company sheets increasing
  by_cases fits : ∀ year ∈ payload.years.getD [], FitsInteger year
  · rw [if_pos fits] at fetched
    rw [and_iff_right fits]
    constructor
    · rintro ⟨balanceSheets, later, isFetched, -, grounded⟩
      obtain rfl : sheets = balanceSheets := by
        rw [fetched] at isFetched
        cases isFetched
        rfl
      refine ⟨fetchesExactly_iff.mp grounded.exactly, ?_⟩
      rintro ⟨sheet, wanted⟩
      have some : sheets ≠ [] := List.ne_nil_of_mem ((grounded.exactly sheet).mpr wanted)
      exact sections.mp ⟨grounded.increasing some, grounded.sections some⟩
    · rintro ⟨listed, clean⟩
      have exactly := fetchesExactly_iff.mpr listed
      have written (some : sheets ≠ []) := sections.mpr <| clean <|
        (List.exists_mem_of_ne_nil sheets some).imp fun sheet => (exactly sheet).mp
      refine ⟨sheets, _, fetched, ?_, exactly, increasing.imp ?_, fun some => (written some).1,
        fun some => (written some).2, buildGroundingContext_nothingOnFile⟩
      · intro askGroq
        rw [chat_eq, executeTyped_bind, fetched]
      · rintro _ _ before rfl
        exact lt_irrefl _ before
  · rw [if_neg fits] at fetched
    refine iff_of_false ?_ fun both => fits both.1
    rintro ⟨balanceSheets, later, isFetched, -⟩
    rw [fetched] at isFetched
    cases isFetched

def jioTwoYears : Store := ⟨[jio], twoYears, [], 1, 2⟩

theorem wellFormed_jioTwoYears : Store.WellFormed Database.counting jioTwoYears where
  companyKeys := List.nodup_singleton _
  companyDrawn := by
    intro company member
    rw [List.mem_singleton.mp member]
    exact ⟨0, Nat.one_pos, rfl⟩
  tickers := List.nodup_singleton _
  parents := by
    intro company member parentId hangs
    rw [List.mem_singleton.mp member] at hangs
    cases hangs
  sheetIdKeys := show (twoYears.map BalanceSheet.id).Nodup by decide
  sheetDrawn := by
    have drawn : ∀ sheet ∈ twoYears, ∃ n : Fin 2, sheet.id = (n : Nat) + 1 := by decide
    intro sheet member
    obtain ⟨n, isId⟩ := drawn sheet member
    exact ⟨n, n.isLt, isId⟩
  sheetKeys := show (twoYears.map Store.sheetKey).Nodup by decide
  sheetCompanies := by decide

theorem typed_jioTwoYears : jioTwoYears.Typed Database.counting := by
  constructor <;> decide +kernel

/-- One of the two years on file, asked for twice, and one that is not. -/
theorem chat_groundedInYears_jio :
    ∃ balanceSheets later,
      (chatGrounding chatPolicies inOffice ⟨1, some [2024, 1999, 2024], howMuchDebt⟩).executeTyped
          Database.counting jioTwoYears = (some (.ok (jio, balanceSheets)), later) ∧
        GroundedInYears .splitlines jioTwoYears jio (some [2024, 1999, 2024]) balanceSheets
          (buildGroundingContext jio.name jio.ticker balanceSheets) := by
  have found : jioTwoYears.findCompany 1 = some jio := rfl
  have allowed : Allows chatPolicies inOffice LLM_CHAT RESOURCE_LLM jio.id jio.groupRootId := rfl
  let payload : ChatRequest := ⟨1, some [2024, 1999, 2024], howMuchDebt⟩
  have fits : ∀ year ∈ payload.years.getD [], FitsInteger year := by decide
  have named : ¬OpensYear .splitlines jio.name ∧ ¬OpensYear .splitlines jio.ticker := by decide
  have grounded := @chat_groundedInYears_iff _ _ _ _ _ wellFormed_jioTwoYears typed_jioTwoYears
    payload _ found allowed .splitlines
  obtain ⟨balanceSheets, later, isFetched, _, inYears⟩ :=
    grounded.mpr ⟨fits, nofun, fun _ => named⟩
  exact ⟨balanceSheets, later, isFetched, inYears⟩

/-- An empty list of years brings both sheets. -/
theorem chat_groundedInYears_empty :
    ¬∃ balanceSheets later,
      (chatGrounding chatPolicies inOffice ⟨1, some [], howMuchDebt⟩).executeTyped
          Database.counting jioTwoYears = (some (.ok (jio, balanceSheets)), later) ∧
        GroundedInYears .newlineOnly jioTwoYears jio (some []) balanceSheets
          (buildGroundingContext jio.name jio.ticker balanceSheets) := by
  rintro ⟨balanceSheets, later, isFetched, grounded⟩
  have found : jioTwoYears.findCompany 1 = some jio := rfl
  have allowed : Allows chatPolicies inOffice LLM_CHAT RESOURCE_LLM jio.id jio.groupRootId := rfl
  let payload : ChatRequest := ⟨1, some [], howMuchDebt⟩
  have fits : ∀ year ∈ payload.years.getD [], FitsInteger year := nofun
  have fetched := @executeTyped_chatGrounding _ chatPolicies inOffice Database.counting
    jioTwoYears typed_jioTwoYears jio payload found allowed
  rw [isFetched, if_pos fits] at fetched
  cases fetched
  have noSheets := fetchesExactly_iff.mp grounded.exactly rfl
  exact noSheets _ List.mem_cons_self rfl

end BalanceSheetAnalysis

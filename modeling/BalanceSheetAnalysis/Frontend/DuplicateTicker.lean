import BalanceSheetAnalysis.BalanceSheets.Execution
import BalanceSheetAnalysis.Companies.Pages
import BalanceSheetAnalysis.Companies.Search
import BalanceSheetAnalysis.Companies.Update
import BalanceSheetAnalysis.Frontend.CompanyForm

/-! The duplicate check of the company form.  It searches the list for the typed
ticker and compares the first five rows with it, case aside; the unique
constraint compares all rows with the ticker as it was typed. -/
namespace BalanceSheetAnalysis.Frontend
open Library Text Authorization Access BalanceSheetAnalysis.Action

/-- `listCompaniesApi({ search: debouncedTicker, limit: 5 })`. -/
def duplicateCheckParams (debouncedTicker : String) : ListParams :=
  ⟨5, 0, some debouncedTicker, none, none, "asc"⟩

namespace CompanyForm

/-- The first row of the answer that the form takes for a duplicate; the
debounced ticker is the trimmed one once the user stops typing. -/
def duplicateTickerCompany (toLowerCase : String → String) (form : CompanyForm)
    (data : List Company) : Option Company :=
  let debouncedTicker := trim form.ticker
  data.find? fun c => toLowerCase c.ticker = toLowerCase debouncedTicker &&
    some c.id ≠ form.editingCompany.map Company.id

end CompanyForm

/-- What the server reads of the payload the form submits. -/
structure Payload (form : CompanyForm) where
  name : Text 255
  ticker : Text 32
  parentCompanyId : Option Int
  sameName : name.val = form.name
  sameTicker : ticker.val = form.ticker

namespace Payload
variable {form : CompanyForm}

def create (payload : Payload form) : CompanyCreate :=
  ⟨payload.name, payload.ticker, payload.parentCompanyId⟩

def update (payload : Payload form) : CompanyUpdate :=
  ⟨some (some payload.name), some (some payload.ticker), some payload.parentCompanyId⟩

/-- `handleSubmit`: PATCH the edited company, or POST a new one. -/
def handleSubmit (payload : Payload form) : CompanyCall :=
  match form.editingCompany with
  | some company => .update company.id payload.update
  | none => .create payload.create

/-- The edited company is still there, and nothing is wrong with the parent. -/
def OtherwiseFine (store : Store) (payload : Payload form) : Prop :=
  match form.editingCompany with
  | some company => ∃ row, store.findCompany company.id = some row ∧
      ¬ParentRefused store row payload.update
  | none => ∀ parentId ∈ payload.parentCompanyId, store.findCompany parentId ≠ none

/-- Submitting fails because another company holds the ticker. -/
def FailsOnTicker (db : Database) (store : Store) (payload : Payload form) : Prop :=
  (payload.handleSubmit.run.execute db store).1 = .error (tickerTaken form.ticker)

end Payload

/-- Another company than the edited one holds the ticker as it was typed. -/
def Holds (form : CompanyForm) (company : Company) : Prop :=
  company.ticker = form.ticker ∧ some company.id ≠ form.editingCompany.map Company.id

section Submit
variable {db : Database} {store : Store} {form : CompanyForm} {payload : Payload form}

theorem updateCompany_tickerTaken_iff (kept : Store.CompanyConstraints store.companies)
    {company : Company} (member : company ∈ store.companies) {data : CompanyUpdate}
    (complete : ¬SetsNull data) (accepted : ¬ParentRefused store company data) :
    ((updateCompany company data).execute db store).1 =
        .error (tickerTaken ((data.ticker.bind id).elim "None" Subtype.val)) ↔
      TickerHeld store company data := by
  rcases placeCompany_cases db store company data with
    ⟨_, _, refused, _⟩ | ⟨place, placed, _, fits⟩
  · exact absurd refused accepted
  rcases assign_cases company data place with ⟨sets, _⟩ | ⟨_, row, isRow⟩
  · exact absurd sets complete
  rcases execute_updateCompany_complete kept member placed fits isRow with
    ⟨held, raised⟩ | ⟨free, committed⟩
  · rw [raised]
    exact iff_of_true rfl held
  · rw [committed]
    exact iff_of_false (fun failed => by cases failed) free

/-- With nothing else wrong, a submission fails when another company holds the
ticker as it was typed, and then only. -/
theorem failsOnTicker_iff (wf : store.WellFormed db) (fine : payload.OtherwiseFine store) :
    payload.FailsOnTicker db store ↔ ∃ other ∈ store.companies, Holds form other := by
  unfold Payload.FailsOnTicker Payload.handleSubmit Holds
  unfold Payload.OtherwiseFine at fine
  rw [← payload.sameTicker]
  cases editing : form.editingCompany with
  | none =>
      rw [editing] at fine
      refine (execute_ignore_error _ _).trans ?_
      have created : ((createCompany payload.create).execute db store).1 =
          .error (tickerTaken payload.ticker) ↔ _ := createCompany_tickerTaken_iff fine
      rw [created]
      simp [Payload.create]
  | some company =>
      rw [editing] at fine
      obtain ⟨row, found, accepted⟩ := fine
      obtain ⟨member, sameId⟩ := Table.find_eq_some found
      have complete : ¬SetsNull payload.update := by
        rintro (noName | noTicker)
        · cases noName
        · cases noTicker
      dsimp only
      rw [CompanyCall.run, execute_withCompany found]
      refine (execute_ignore_error _ _).trans ?_
      refine (updateCompany_tickerTaken_iff wf.companyConstraints member complete accepted).trans ?_
      simp [TickerHeld, Payload.update, sameId, and_comm]

end Submit

/-! The query. -/

section Query
variable {rt : Runtime} (activePolicies : String → List (Policy rt)) (request : Request)
  (collation : Collation) (db : Database) (store : Store) (form : CompanyForm)

/-- The caller may read companies without any condition. -/
def ReadsAll (policies : List (Policy rt)) : Prop :=
  ∃ policy ∈ policies, policy.AppliesTo COMPANY_READ RESOURCE_COMPANY ∧ Unconditioned policy

/-- The query for the trimmed ticker is enabled and has answered with these rows. -/
def Answered (data : List Company) : Prop :=
  form.showForm = true ∧ trim form.ticker ≠ "" ∧ ∃ total rows,
    ((listCompanies activePolicies request collation
      (duplicateCheckParams (trim form.ticker))).execute db store).1 = .ok (total, rows) ∧
    data = rows.map Prod.fst

/-- The companies the search for the ticker matches. -/
def searched : List Company :=
  store.companies.filter (searchFilter collation (some (trim form.ticker)))

variable {activePolicies request collation db store form} {data : List Company}

theorem admits_of_readsAll {scope : CompanyScope}
    (readsAll : ReadsAll (activePolicies request.userEmail))
    (derived : getCompanyScope (activePolicies request.userEmail) COMPANY_READ RESOURCE_COMPANY =
      .ok scope) (companyId groupRootId : Int) : scope.admits companyId groupRootId = true := by
  obtain ⟨policy, member, applies, bare⟩ := readsAll
  rw [getCompanyScope_admits derived]
  exact ⟨policy, member, applies, (readAsAbout_iff_covers (.inl bare) _ _).mpr (.inl bare)⟩

/-- A caller who reads all is answered with the first five rows of the search. -/
theorem Answered.rows (answered : Answered activePolicies request collation db store form data)
    (keys : Table.Keyed Company.id store.companies)
    (readsAll : ReadsAll (activePolicies request.userEmail)) :
    ∃ rows : List Company, rows.Perm (searched collation store form) ∧
      rows.Pairwise (fun left right => left.id < right.id) ∧ data = rows.take 5 := by
  obtain ⟨_, _, total, rows, listed, rfl⟩ := answered
  cases derived : getCompanyScope (activePolicies request.userEmail) COMPANY_READ
    RESOURCE_COMPANY with
  | error failure =>
      unfold listCompanies callerScope at listed
      rw [derived] at listed
      cases listed
  | ok scope =>
      have admits := admits_of_readsAll readsAll derived
      rw [execute_listCompanies derived db store] at listed
      cases listed
      have everyone : applyScopeAndFilters collation scope (some (trim form.ticker)) none
          store.companies = searched collation store form := by
        unfold applyScopeAndFilters searched
        apply List.filter_congr
        intro company _
        simp [admits, hierarchyFilter]
      rw [← everyone]
      exact ⟨_, orderedRows_fst collation scope (duplicateCheckParams (trim form.ticker))
        store.companies, orderedRows_sorted keys rfl rfl, List.map_take⟩

variable (collation store form) in
/-- The search brings the holder of the ticker among its first five rows. -/
structure Findable : Prop where
  asTyped : trim form.ticker = form.ticker
  noBackslash : '\\' ∉ form.ticker.toList
  early : ∀ holder ∈ store.companies, Holds form holder →
    ((searched collation store form).filter fun other => other.id < holder.id).length < 5

theorem mem_searched_of_holds {holder : Company} (member : holder ∈ store.companies)
    (holds : Holds form holder) (findable : Findable collation store form)
    (nonempty : trim form.ticker ≠ "")
    (refl : ∀ char, collation.sameIgnoringCase char char = true) :
    holder ∈ searched collation store form := by
  apply List.mem_filter.mpr ⟨member, ?_⟩
  rw [searchFilter_eq collation nonempty]
  right
  rw [findable.asTyped, holds.1, like_percent]
  exact ⟨[], form.ticker.toList, rfl, like_self refl findable.noBackslash⟩

theorem Answered.mem_of_holds
    (answered : Answered activePolicies request collation db store form data)
    (keys : Table.Keyed Company.id store.companies)
    (readsAll : ReadsAll (activePolicies request.userEmail))
    (findable : Findable collation store form)
    (refl : ∀ char, collation.sameIgnoringCase char char = true) {holder : Company}
    (member : holder ∈ store.companies) (holds : Holds form holder) : holder ∈ data := by
  obtain ⟨rows, matching, sorted, rfl⟩ := answered.rows keys readsAll
  have listed : holder ∈ rows :=
    matching.mem_iff.mpr (mem_searched_of_holds member holds findable answered.2.1 refl)
  apply Paging.mem_take_of_few_before sorted listed
  rw [(matching.filter _).length_eq]
  exact findable.early holder member holds

variable {payload : Payload form} (toLowerCase : String → String)

/-- The check foresees every failure on a ticker whose holder the search can find;
what it reports beside them is a company whose ticker differs from the submitted
one in case or in blanks around it only. -/
theorem duplicateTicker_upToCase (wf : store.WellFormed db)
    (readsAll : ReadsAll (activePolicies request.userEmail))
    (answered : Answered activePolicies request collation db store form data)
    (fine : payload.OtherwiseFine store)
    (refl : ∀ char, collation.sameIgnoringCase char char = true) :
    (payload.FailsOnTicker db store → Findable collation store form →
      (form.duplicateTickerCompany toLowerCase data).isSome = true) ∧
    ∀ company, form.duplicateTickerCompany toLowerCase data = some company →
      payload.FailsOnTicker db store ∨ company ∈ store.companies ∧
        company.ticker ≠ form.ticker ∧
        toLowerCase company.ticker = toLowerCase (trim form.ticker) := by
  have keys := wf.companyConstraints.keys
  rw [failsOnTicker_iff wf fine]
  unfold CompanyForm.duplicateTickerCompany
  constructor
  · rintro ⟨holder, member, holds⟩ findable
    have listed := answered.mem_of_holds keys readsAll findable refl member holds
    rw [List.find?_isSome]
    exact ⟨holder, listed, by simp [holds.1, holds.2, findable.asTyped]⟩
  · intro company reported
    obtain ⟨rows, matching, _, rfl⟩ := answered.rows keys readsAll
    have inAnswer := List.mem_of_find?_eq_some reported
    have member : company ∈ store.companies :=
      (List.mem_filter.mp (matching.mem_iff.mp (List.mem_of_mem_take inAnswer))).1
    have similar := List.find?_some reported
    simp only [Bool.and_eq_true, decide_eq_true_eq] at similar
    by_cases same : company.ticker = form.ticker
    · exact .inl ⟨company, member, same, similar.2⟩
    · exact .inr ⟨member, same, similar.1⟩

end Query

/-! A reader of every company adds one. -/

def readerPolicies (_userEmail : String) : List (Policy utcRuntime) := [policyForAll [COMPANY_READ]]

def lowercase (text : String) : String := String.ofList (text.toList.map Char.toLower)

def typing (ticker : Text 32) : CompanyForm :=
  Machine.run CompanyForm.step .initial
    [.openCreateForm, .setTicker ticker, .setName "Tata Steel"]

def submitted (ticker : Text 32) : Payload (typing ticker) where
  name := ⟨"Tata Steel", by decide⟩
  ticker := ticker
  parentCompanyId := none
  sameName := rfl
  sameTicker := rfl

theorem readsAll_viewer : ReadsAll (readerPolicies viewer.userEmail) :=
  ⟨_, List.mem_singleton_self _, ⟨.inr rfl, List.mem_singleton_self _⟩, rfl⟩

/-- The query of an enabled check answers. -/
theorem exists_answered (store : Store) {ticker : Text 32} (nonempty : trim ticker ≠ "") :
    ∃ data, Answered readerPolicies viewer asciiOrder .counting store (typing ticker) data :=
  ⟨_, rfl, nonempty, _, _, congrArg Prod.fst (execute_listCompanies rfl .counting store), rfl⟩

def tataTicker : Text 32 := ⟨tata.ticker, by decide⟩

theorem duplicateTicker_upToCase_tata :
    ∃ data, Answered readerPolicies viewer asciiOrder .counting twoGroups (typing tataTicker) data ∧
      (submitted tataTicker).FailsOnTicker .counting twoGroups ∧
      ((typing tataTicker).duplicateTickerCompany lowercase data).isSome = true := by
  have wf : twoGroups.WellFormed .counting := Reached.wellFormed ⟨_, rfl⟩
  have fine : (submitted tataTicker).OtherwiseFine twoGroups := nofun
  have few : (searched asciiOrder twoGroups (typing tataTicker)).length < 5 := by decide
  have findable : Findable asciiOrder twoGroups (typing tataTicker) := by
    refine ⟨by decide, by decide, fun holder _ _ => ?_⟩
    exact (List.length_filter_le _ _).trans_lt few
  obtain ⟨data, answered⟩ := exists_answered twoGroups (by decide : trim tataTicker ≠ "")
  have foresees := duplicateTicker_upToCase lowercase wf readsAll_viewer answered fine
    asciiOrder_ignoresCase.refl
  have fails : (submitted tataTicker).FailsOnTicker .counting twoGroups :=
    (failsOnTicker_iff wf fine).mpr ⟨tata, by decide, rfl, by decide⟩
  exact ⟨data, answered, fails, foresees.1 fails findable⟩

/-- The check is answered, and does not agree with a submission. -/
def Disagrees (store : Store) (ticker : Text 32) : Prop :=
  ∃ data, Answered readerPolicies viewer asciiOrder .counting store (typing ticker) data ∧
    ¬(((typing ticker).duplicateTickerCompany lowercase data).isSome = true ↔
      (submitted ticker).FailsOnTicker .counting store)

/-- Companies are stored in the order of their ids here, and listed so. -/
theorem disagrees_of_differs {store : Store} {ticker : Text 32} (reached : Reached .counting store)
    (nonempty : trim ticker ≠ "")
    (sorted : store.companies.Pairwise fun left right => left.id < right.id)
    (differs : ((typing ticker).duplicateTickerCompany lowercase
        ((searched asciiOrder store (typing ticker)).take 5)).isSome =
      !store.companies.any fun company => company.ticker = ticker.val) :
    Disagrees store ticker := by
  have wf : store.WellFormed .counting := reached.wellFormed
  have fine : (submitted ticker).OtherwiseFine store := nofun
  obtain ⟨data, answered⟩ := exists_answered store nonempty
  refine ⟨data, answered, fun agrees => ?_⟩
  obtain ⟨rows, matching, byId, rfl⟩ := answered.rows wf.companyConstraints.keys readsAll_viewer
  have sameRows : rows = searched asciiOrder store (typing ticker) := by
    apply matching.eq_of_pairwise _ byId (sorted.filter _)
    intro left right _ _ before after
    exact absurd (before.trans after) (lt_irrefl _)
  rw [sameRows, differs, failsOnTicker_iff wf fine] at agrees
  have held : (∃ other ∈ store.companies, Holds (typing ticker) other) ↔
      (store.companies.any fun company => company.ticker = ticker.val) = true := by
    simp [Holds, typing, CompanyForm.step, CompanyForm.openCreateForm]
  rw [held] at agrees
  revert agrees
  cases store.companies.any fun company => company.ticker = ticker.val <;> simp

/-- The tickers go from 26 letters down to one. -/
def vertical (number : Fin 26) : CompanyCreate where
  name := ⟨"Vertical", by decide⟩
  ticker := ⟨String.ofList (List.replicate (26 - number) 'V'), by
    rw [String.length_ofList, List.length_replicate]
    omega⟩
  parentCompanyId := none

def verticals : Store :=
  runCompanyCalls Database.counting ((List.finRange 26).map fun number => .create (vertical number))
    Store.empty

def backslashTicker : Text 32 := ⟨"A\\B", by decide⟩

def backslashed : Store :=
  runCompanyCalls Database.counting [.create { vertical 0 with ticker := backslashTicker }]
    Store.empty

/-- The form takes `tata` and ` TATA` for duplicates of `TATA`, and the database
does not; the search misses the holder of a ticker with a backslash, and one
that more than four matching companies come before. -/
theorem duplicateTicker_disagrees :
    Disagrees twoGroups ⟨"tata", by decide⟩ ∧ Disagrees twoGroups ⟨" TATA", by decide⟩ ∧
      Disagrees backslashed backslashTicker ∧ Disagrees verticals (vertical 25).ticker := by
  refine ⟨?_, ?_, ?_, ?_⟩
  · exact disagrees_of_differs ⟨_, rfl⟩ (by decide) (by decide) (by decide)
  · exact disagrees_of_differs ⟨_, rfl⟩ (by decide) (by decide) (by decide)
  · exact disagrees_of_differs ⟨_, rfl⟩ (by decide) (by decide) (by decide)
  · exact disagrees_of_differs ⟨_, rfl⟩ (by decide +kernel) (by decide +kernel) (by decide +kernel)

end BalanceSheetAnalysis.Frontend

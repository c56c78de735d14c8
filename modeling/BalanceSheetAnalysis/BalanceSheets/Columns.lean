import BalanceSheetAnalysis.BalanceSheets.Execution
import BalanceSheetAnalysis.Store.Columns

/-! What the operations on companies and balance sheets send, and when the
database takes all of it. -/
namespace BalanceSheetAnalysis
open Library BalanceSheetAnalysis.Action

/-- The texts are sent only once the parent is found. -/
def CreateFits (store : Store) (data : CompanyCreate) : Prop :=
  (∀ parentId ∈ data.parentCompanyId, FitsInteger parentId) ∧
    ((∀ parentId ∈ data.parentCompanyId, store.findCompany parentId ≠ none) →
      FitsText data.name ∧ FitsText data.ticker)

variable {db : Database} {store : Store}

/-! Companies. -/

theorem accepted_groupOfParent (parentCompanyId : Option Int) :
    Accepted db store (groupOfParent parentCompanyId) ↔
      ∀ parentId ∈ parentCompanyId, FitsInteger parentId := by
  cases parentCompanyId with
  | none => exact iff_of_true trivial nofun
  | some parentId =>
      rw [groupOfParent, accepted_query_bind]
      simp only [Option.mem_def, Option.some.injEq, forall_eq']
      refine and_iff_left ?_
      generalize (Store.exec db (.getCompany parentId) store).1 = found
      cases found <;> trivial

theorem accepted_refreshCompany {id : Int} :
    Accepted db store (refreshCompany id) ↔ FitsInteger id := by
  rw [refreshCompany, accepted_query_bind]
  refine and_iff_left ?_
  generalize (Store.exec db (.getCompany id) store).1 = found
  cases found <;> trivial

theorem accepted_refreshBalanceSheet {id : Int} :
    Accepted db store (refreshBalanceSheet id) ↔ FitsInteger id := by
  rw [refreshBalanceSheet, accepted_query_bind]
  refine and_iff_left ?_
  generalize (Store.exec db (.getBalanceSheet id) store).1 = found
  cases found <;> trivial

/-- The new row is sent with its texts, and fetched again under the id it got. -/
theorem accepted_insertCompany (typed : store.Typed db) {row : CompanyInsert}
    (parent : ∀ id ∈ row.parentCompanyId, FitsInteger id)
    (group : ∀ id ∈ row.groupRootId, FitsInteger id)
    {rest : Except WriteError Int → Action Company}
    (refreshes : ∀ id later, FitsInteger id → Accepted db later (rest (.ok id)))
    (raises : ∀ error later, Accepted db later (rest (.error error))) :
    Accepted db store (query (.insertCompany row) >>= rest) ↔
      FitsText row.name ∧ FitsText row.ticker := by
  rw [accepted_query_bind]
  have sends : (Operation.insertCompany row).InDomain ↔ FitsText row.name ∧ FitsText row.ticker :=
    and_congr_right fun _ => and_iff_left ⟨parent, group⟩
  rw [sends]
  refine and_iff_left ?_
  rcases Store.insertCompany_cases db row store with failed | ⟨_, _, committed⟩
  · rw [Store.exec, failed]
    exact raises _ _
  · rw [Store.exec, committed]
    exact refreshes _ _ typed.nextCompany

/-- With the group at hand, only the texts may be refused. -/
theorem accepted_createCompany_of_grouped (typed : store.Typed db) {data : CompanyCreate}
    {groupRootId : Option Int}
    (grouped : (groupOfParent data.parentCompanyId).execute db store = (.ok groupRootId, store))
    (group : ∀ id ∈ groupRootId, FitsInteger id)
    (parent : ∀ id ∈ data.parentCompanyId, FitsInteger id) :
    Accepted db store (createCompany data) ↔ FitsText data.name ∧ FitsText data.ticker := by
  rw [createCompany, accepted_bind_ok grouped, accepted_groupOfParent, and_iff_right parent]
  apply accepted_insertCompany typed parent group
  · intro id later fits
    exact accepted_refreshCompany.mpr fits
  · intro error later
    trivial

theorem accepted_createCompany (typed : store.Typed db) (data : CompanyCreate) :
    Accepted db store (createCompany data) ↔ CreateFits store data := by
  unfold CreateFits
  by_cases parent : ∀ parentId ∈ data.parentCompanyId, FitsInteger parentId
  · rw [and_iff_right parent]
    by_cases found : ∀ parentId ∈ data.parentCompanyId, store.findCompany parentId ≠ none
    · obtain ⟨groupRootId, grouped, ofRow⟩ := execute_groupOfParent_of_found db store found
      have group : ∀ id ∈ groupRootId, FitsInteger id := by
        intro id isGroup
        obtain ⟨row, inside, rfl⟩ := ofRow id isGroup
        exact typed.groups row inside
      rw [accepted_createCompany_of_grouped typed grouped group parent, imp_iff_right found]
    · obtain ⟨detail, missing⟩ := execute_groupOfParent_of_missing db found
      rw [createCompany, accepted_bind_error missing, accepted_groupOfParent]
      exact iff_of_true parent fun stored => absurd stored found
  · rw [createCompany, accepted_bind, accepted_groupOfParent]
    exact iff_of_false (fun accepted => parent accepted.1) fun fits => parent fits.1

/-- A creation that is turned down has only looked up the parent. -/
theorem executeTyped_createCompany_refused (db : Database) {data : CompanyCreate}
    (refused : ¬CreateFits store data) : (createCompany data).executeTyped db store =
      (none, store) := by
  by_cases parent : ∀ parentId ∈ data.parentCompanyId, FitsInteger parentId
  · have texts := not_and.mp refused parent
    obtain ⟨found, unfit⟩ := Classical.not_imp.mp texts
    obtain ⟨groupRootId, grouped, _⟩ := execute_groupOfParent_of_found db store found
    rw [createCompany, executeTyped_bind,
      executeTyped_eq_of_accepted ((accepted_groupOfParent _).mpr parent), grouped]
    exact executeTyped_query_refused fun sends => unfit ⟨sends.1, sends.2.1⟩
  · rw [createCompany, executeTyped_bind]
    cases asked : data.parentCompanyId with
    | none => exact absurd (fun _ isParent => by rw [asked] at isParent; cases isParent) parent
    | some parentId =>
        have unfit : ¬FitsInteger parentId := by
          intro fits
          apply parent
          rw [asked]
          rintro _ ⟨⟩
          exact fits
        have refusedLookup : ¬(Operation.getCompany parentId).InDomain := unfit
        rw [groupOfParent, executeTyped_query_refused refusedLookup]

theorem accepted_deleteCompany (typed : store.Typed db) {company : Company}
    (member : company ∈ store.companies) : Accepted db store (deleteCompany company) := by
  rw [deleteCompany]
  refine (accepted_query_bind _ _).mpr ⟨typed.companyIds company member, ?_⟩
  split
  · trivial
  · exact (accepted_query _).mpr (typed.companyIds company member)

/-! Balance sheets. -/

theorem accepted_getBalanceSheet {companyId year : Int} :
    Accepted db store (getBalanceSheet companyId year) ↔
      FitsInteger companyId ∧ FitsInteger year := by
  rw [getBalanceSheet, accepted_query_bind]
  refine and_iff_left ?_
  generalize (Store.exec db (.selectBalanceSheet companyId year) store).1 = rows
  cases rows with
  | nil => trivial
  | cons row rows => cases rows <;> trivial

/-- An import of a year out of its column is turned down at its first look-up. -/
theorem executeTyped_importBalanceSheet_refused (fetch : Fetch) {companyId year : Int}
    (ticker : String) (unfit : ¬FitsInteger year) :
    (importBalanceSheet fetch companyId year ticker).executeTyped db store = (none, store) := by
  rw [importBalanceSheet, getBalanceSheet, bind_assoc]
  exact executeTyped_query_refused fun sends => unfit sends.2

theorem accepted_fetchBalanceSheetRow (fetch : Fetch) (ticker : String) (year : Int) :
    Accepted db store (fetchBalanceSheetRow fetch ticker year) := by
  unfold fetchBalanceSheetRow
  cases fetch ticker year <;> trivial

/-- The new sheet is sent under the key that was looked up. -/
theorem accepted_importBalanceSheet (typed : store.Typed db) (wf : store.WellFormed db)
    (fetch : Fetch) {companyId year : Int} (ticker : String) :
    Accepted db store (importBalanceSheet fetch companyId year ticker) ↔
      FitsInteger companyId ∧ FitsInteger year := by
  rw [importBalanceSheet, accepted_bind_ok (execute_getBalanceSheet wf companyId year),
    accepted_getBalanceSheet]
  apply and_iff_left_of_imp
  intro fits
  cases store.sheetAt (companyId, year) with
  | some _ => trivial
  | none =>
      refine (accepted_bind _ _).mpr ⟨accepted_fetchBalanceSheetRow fetch ticker year, ?_⟩
      intro fields later fetched
      have unchanged : later = store := by
        unfold fetchBalanceSheetRow at fetched
        cases row : fetch ticker year <;> rw [row] at fetched <;> cases fetched
        rfl
      subst unchanged
      cases fields with
      | none => trivial
      | some fields =>
          refine (accepted_query_bind _ _).mpr ⟨fits, ?_⟩
          rcases Store.insertBalanceSheet_cases db companyId year (knownFields fields) later with
            failed | ⟨_, _, committed⟩
          · rw [Store.exec, failed]
            trivial
          · rw [Store.exec, committed]
            exact accepted_refreshBalanceSheet.mpr typed.nextSheet

end BalanceSheetAnalysis

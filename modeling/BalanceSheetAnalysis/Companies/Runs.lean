import BalanceSheetAnalysis.Companies.Hierarchy
import BalanceSheetAnalysis.Store.Columns

/-! Runs of company operations, one at a time, from an empty database. -/
namespace BalanceSheetAnalysis
open Library BalanceSheetAnalysis.Action

/-- A call of `create_company`, `update_company` or `delete_company`; the last
two are handed the row stored under the id. -/
inductive CompanyCall where
  | create (data : CompanyCreate)
  | update (companyId : Int) (data : CompanyUpdate)
  | delete (companyId : Int)

/-- Fetch the row, if there is one, and go on with it. -/
def withCompany (companyId : Int) (use : Company → Action Unit) : Action Unit := do
  match ← getCompanyById companyId with
  | some company => use company
  | none => return ()

def CompanyCall.run : CompanyCall → Action Unit
  | .create data => (createCompany data).ignore
  | .update companyId data => withCompany companyId fun company =>
      (updateCompany company data).ignore
  | .delete companyId => withCompany companyId deleteCompany

def runCompanyCalls (db : Database) (calls : List CompanyCall) (store : Store) : Store :=
  calls.foldl (fun store call => call.run.after db store) store

theorem execute_withCompany {companyId : Int} {use : Company → Action Unit} {store : Store}
    {company : Company} (found : store.findCompany companyId = some company) (db : Database) :
    (withCompany companyId use).execute db store = (use company).execute db store := by
  rw [withCompany, getCompanyById]
  refine (execute_query_bind db store _ _).trans ?_
  rw [Store.exec, found]

theorem withCompany_writesOnce {companyId : Int} {use : Company → Action Unit}
    (writes : ∀ company told, Calm told → Program.Told told (.getCompany companyId) (some company) →
      WritesOnce Guarded told (use company)) :
    WritesOnce Guarded [] (withCompany companyId use) := by
  apply (getCompanyById_reads companyId).bind_writesOnce calm_nil
  intro found later isTold _ calm
  cases found with
  | none => exact obeys_pure trivial
  | some company => exact writes company later calm (isTold company rfl)

theorem CompanyCall.run_writesOnce (call : CompanyCall) : WritesOnce Guarded [] call.run := by
  cases call with
  | create data =>
      refine ((createCompany_writesOnce data calm_nil).mono ?_).ignore
      rintro told op ⟨groupRootId, read, rfl⟩
      exact read
  | update companyId data =>
      apply withCompany_writesOnce
      intro company told calm isTold
      refine ((updateCompany_writesOnce company data calm).since.mono ?_).ignore
      rintro told op ⟨grown, place, placed, rfl⟩
      exact ⟨⟨companyId, grown isTold⟩, data.parentCompanyId, placed⟩
  | delete companyId =>
      apply withCompany_writesOnce
      intro company told calm isTold
      apply (deleteCompany_writesOnce company calm).mono
      rintro told op ⟨counted, rfl⟩
      exact counted

theorem runCompanyCalls_invariant (db : Database) (calls : List CompanyCall) {store : Store}
    (wf : Store.WellFormed db store) (hierarchy : Hierarchy store) :
    Store.WellFormed db (runCompanyCalls db calls store) ∧
      Hierarchy (runCompanyCalls db calls store) := by
  induction calls generalizing store with
  | nil => exact ⟨wf, hierarchy⟩
  | cons call calls ih =>
      exact ih (wellFormed_after wf call.run) (hierarchy.after wf call.run_writesOnce)

/-- A state the company operations reach from the empty database. -/
def Reached (db : Database) (store : Store) : Prop :=
  ∃ calls, store = runCompanyCalls db calls Store.empty

def jioPlatforms (parentCompanyId : Option Int) : CompanyCreate :=
  ⟨⟨"Jio Platforms", by decide⟩, ⟨"JIO", by decide⟩, parentCompanyId⟩

/-- Company 3 is a subsidiary of company 1; company 2 stands alone. -/
def twoGroups : Store :=
  runCompanyCalls Database.counting
    [.create ⟨⟨"Reliance Industries", by decide⟩, ⟨"RELIANCE", by decide⟩, none⟩,
      .create ⟨⟨"Tata Motors", by decide⟩, ⟨"TATA", by decide⟩, none⟩,
      .create (jioPlatforms (some 1))] Store.empty

theorem twoGroups_columns : Store.CompanyColumns twoGroups.companies where
  ids := by decide
  groups := by decide
  names := by decide
  tickers := by decide

theorem twoGroups_typed : twoGroups.Typed .counting where
  companyIds := twoGroups_columns.ids
  groups := twoGroups_columns.groups
  names := twoGroups_columns.names
  tickers := twoGroups_columns.tickers
  sheetIds := by decide
  nextCompany := by decide
  nextSheet := by decide

def tata : Company := ⟨2, "Tata Motors", "TATA", none, 2, 0⟩

theorem Reached.wellFormed {db : Database} {store : Store} (reached : Reached db store) :
    Store.WellFormed db store := by
  obtain ⟨calls, rfl⟩ := reached
  exact (runCompanyCalls_invariant db calls (Store.wellFormed_empty db) hierarchy_empty).1

theorem Reached.hierarchy {db : Database} {store : Store} (reached : Reached db store) :
    Hierarchy store := by
  obtain ⟨calls, rfl⟩ := reached
  exact (runCompanyCalls_invariant db calls (Store.wellFormed_empty db) hierarchy_empty).2

/-- However the companies were created, edited and deleted: walking up from any
row passes through stored rows only, never returns, and ends at its
`group_root_id`. -/
theorem groupRootId_top_of_runCompanyCalls (db : Database) (calls : List CompanyCall) :
    let store := runCompanyCalls db calls Store.empty
    Forest.Acyclic (parentOf store) ∧
      (∀ company ∈ store.companies, ∀ parentId, company.parentCompanyId = some parentId →
        ∃ parent ∈ store.companies, parent.id = parentId) ∧
      ∀ company ∈ store.companies,
        Forest.Top (parentOf store) company.id company.groupRootId := by
  intro store
  have reached : Reached db store := ⟨calls, rfl⟩
  refine ⟨reached.hierarchy.grounded.acyclic, reached.wellFormed.parents, ?_⟩
  exact fun company member => reached.hierarchy.top reached.wellFormed member

end BalanceSheetAnalysis

import BalanceSheetAnalysis.BalanceSheets.Crud
import BalanceSheetAnalysis.Companies.Hierarchy
import BalanceSheetAnalysis.Store.Frame

/-! What the operations on companies and balance sheets do to a database of
their own: outcome and effect together. -/
namespace BalanceSheetAnalysis
open Library BalanceSheetAnalysis.Action

variable {db : Database} {store : Store}

namespace Store

/-- The sheet stored under a company and a year. -/
def sheetAt (store : Store) (key : Int × Int) : Option BalanceSheet :=
  Table.find sheetKey store.balanceSheets key

theorem WellFormed.sheetAt_iff (wf : WellFormed db store) {key : Int × Int}
    {sheet : BalanceSheet} :
    store.sheetAt key = some sheet ↔ sheet ∈ store.balanceSheets ∧ sheetKey sheet = key :=
  Table.find_eq_some_iff wf.sheetKeys

theorem WellFormed.selectBalanceSheet (wf : WellFormed db store) (companyId year : Int) :
    store.selectBalanceSheet companyId year = (store.sheetAt (companyId, year)).toList := by
  have sameKey : (fun sheet : BalanceSheet =>
      decide (sheet.companyId = companyId ∧ sheet.year = year)) =
        fun sheet => decide (sheetKey sheet = (companyId, year)) := by
    funext sheet
    simp [sheetKey]
  rw [Store.selectBalanceSheet, sameKey]
  exact Table.filter_key wf.sheetKeys _

theorem mem_selectBalanceSheets {companyId : Int} {years : Option (List Int)}
    {sheet : BalanceSheet} :
    sheet ∈ store.selectBalanceSheets companyId years ↔
      sheet ∈ store.balanceSheets ∧ sheet.companyId = companyId ∧
        (years.getD [] = [] ∨ sheet.year ∈ years.getD []) := by
  simp [selectBalanceSheets, List.mem_mergeSort]

/-- A company has one sheet a year, so ordered by year they strictly increase. -/
theorem WellFormed.selectBalanceSheets_increasing (wf : WellFormed db store) (companyId : Int)
    (years : Option (List Int)) :
    (store.selectBalanceSheets companyId years).Pairwise fun earlier later =>
      earlier.year < later.year := by
  have sorted : (store.selectBalanceSheets companyId years).Pairwise fun earlier later =>
      decide (earlier.year ≤ later.year) = true := by
    refine List.pairwise_mergeSort (fun a b c first second => ?_) (fun a b => ?_) _
    · simp only [decide_eq_true_eq] at first second ⊢
      omega
    · simp only [Bool.or_eq_true, decide_eq_true_eq]
      omega
  have keys : (store.selectBalanceSheets companyId years).Pairwise fun earlier later =>
      sheetKey earlier ≠ sheetKey later := by
    have stored : store.balanceSheets.Pairwise fun earlier later =>
        sheetKey earlier ≠ sheetKey later := List.pairwise_map.mp wf.sheetKeys
    apply (List.Perm.pairwise_iff Ne.symm (List.mergeSort_perm _ _)).mpr
    exact stored.filter _
  refine (sorted.and keys).imp_of_mem fun first second ⟨before, apart⟩ => ?_
  have sameCompany := (mem_selectBalanceSheets.mp first).2.1.trans
    (mem_selectBalanceSheets.mp second).2.1.symm
  have otherYear := fun same => apart (Prod.ext sameCompany same)
  exact lt_of_le_of_ne (of_decide_eq_true before) otherYear

end Store

/-! Balance sheets. -/

theorem execute_getBalanceSheet (wf : Store.WellFormed db store) (companyId year : Int) :
    (getBalanceSheet companyId year).execute db store =
      (.ok (store.sheetAt (companyId, year)), store) := by
  rw [getBalanceSheet, execute_query_bind]
  have selected : (Store.exec db (.selectBalanceSheet companyId year) store).1 =
      (store.sheetAt (companyId, year)).toList := wf.selectBalanceSheet companyId year
  rw [selected]
  cases store.sheetAt (companyId, year) <;> rfl

theorem execute_importBalanceSheet_refused (wf : Store.WellFormed db store) (fetch : Fetch)
    {companyId year : Int} {ticker : String}
    (refused : store.sheetAt (companyId, year) ≠ none ∨
      ∀ fields, fetch ticker year ≠ .ok (some fields)) :
    ∃ failure, (importBalanceSheet fetch companyId year ticker).execute db store =
        (.error failure, store) ∧
      ((∃ detail, failure = .valueError detail) ∨
        ∃ detail, failure = .yFinanceFetchError detail) := by
  rw [importBalanceSheet, execute_bind, execute_getBalanceSheet wf]
  cases present : store.sheetAt (companyId, year) with
  | some sheet => exact ⟨_, rfl, .inl ⟨_, rfl⟩⟩
  | none =>
      have noData := refused.resolve_left (not_not.mpr present)
      dsimp only
      rw [execute_bind, fetchBalanceSheetRow]
      match fetched : fetch ticker year with
      | .error exc => exact ⟨_, rfl, .inr ⟨_, rfl⟩⟩
      | .ok none => exact ⟨_, rfl, .inl ⟨_, rfl⟩⟩
      | .ok (some fields) => exact absurd fetched (noData fields)

/-- The sheet an import stores. -/
def Store.importedSheet (db : Database) (store : Store) (companyId year : Int)
    (fields : List (String × Figure)) : BalanceSheet :=
  ⟨db.sheetIds store.sheetsDrawn, companyId, year, knownFields fields⟩

theorem execute_importBalanceSheet_new (wf : Store.WellFormed db store) {fetch : Fetch}
    {companyId year : Int} {ticker : String} {company : Company}
    (found : store.findCompany companyId = some company)
    (absent : store.sheetAt (companyId, year) = none) {fields : List (String × Figure)}
    (fetched : fetch ticker year = .ok (some fields)) :
    (importBalanceSheet fetch companyId year ticker).execute db store =
      (.ok (store.importedSheet db companyId year fields), { store with
        sheetsDrawn := store.sheetsDrawn + 1
        balanceSheets := store.balanceSheets ++
          [store.importedSheet db companyId year fields] }) := by
  have committed : Store.insertBalanceSheet db companyId year (knownFields fields) store =
      (.ok (db.sheetIds store.sheetsDrawn), { store with
        sheetsDrawn := store.sheetsDrawn + 1
        balanceSheets := store.balanceSheets ++
          [store.importedSheet db companyId year fields] }) := by
    rcases Store.insertBalanceSheet_cases db companyId year (knownFields fields) store with
      failed | ⟨_, _, committed⟩
    · unfold Store.insertBalanceSheet at failed
      simp only [found, Option.isNone_some, Bool.false_or] at failed
      split at failed
      · rename_i taken
        obtain ⟨sheet, member, same⟩ := List.any_eq_true.mp taken
        exact absurd (of_decide_eq_true same) (Table.find_eq_none.mp absent sheet member)
      · cases failed
    · exact committed
  have reread : Table.find BalanceSheet.id (store.balanceSheets ++
      [store.importedSheet db companyId year fields]) (db.sheetIds store.sheetsDrawn) =
        some (store.importedSheet db companyId year fields) := by
    rw [Table.find_append (store.importedSheet db companyId year fields) wf.freshSheet]
    exact Function.update_self ..
  rw [importBalanceSheet, execute_bind, execute_getBalanceSheet wf, absent]
  dsimp only
  rw [fetchBalanceSheetRow, fetched]
  refine (execute_query_bind db store _ _).trans ?_
  rw [Store.exec, committed]
  dsimp only
  rw [refreshBalanceSheet]
  refine (execute_query_bind db _ _ _).trans ?_
  rw [Store.exec, Store.findBalanceSheet, reread]
  rfl

/-! Companies. -/

/-- A parent that is stored gives the group its row has. -/
theorem execute_groupOfParent_of_found (db : Database) (store : Store)
    {parentCompanyId : Option Int}
    (found : ∀ parentId ∈ parentCompanyId, store.findCompany parentId ≠ none) :
    ∃ groupRootId, (groupOfParent parentCompanyId).execute db store = (.ok groupRootId, store) ∧
      ∀ id ∈ groupRootId, ∃ row ∈ store.companies, row.groupRootId = id := by
  cases parentCompanyId with
  | none => exact ⟨none, rfl, nofun⟩
  | some parentId =>
      obtain ⟨row, isRow⟩ := Option.ne_none_iff_exists'.mp (found parentId rfl)
      refine ⟨some row.groupRootId, ?_, ?_⟩
      · rw [groupOfParent, execute_query_bind, Store.exec, isRow]
        rfl
      · rintro _ ⟨⟩
        exact ⟨row, (Table.find_eq_some isRow).1, rfl⟩

theorem execute_groupOfParent_of_missing (db : Database) {store : Store}
    {parentCompanyId : Option Int}
    (missing : ¬∀ parentId ∈ parentCompanyId, store.findCompany parentId ≠ none) :
    ∃ detail, (groupOfParent parentCompanyId).execute db store =
      (.error (.valueError detail), store) := by
  simp only [not_forall, not_not] at missing
  obtain ⟨parentId, asked, absent⟩ := missing
  rw [Option.mem_def.mp asked, groupOfParent, execute_query_bind, Store.exec, absent]
  exact ⟨_, rfl⟩

theorem execute_groupOfParent (db : Database) (store : Store) (parentCompanyId : Option Int) :
    (∃ detail, (groupOfParent parentCompanyId).execute db store =
        (.error (.valueError detail), store)) ∨
      ∃ groupRootId, (groupOfParent parentCompanyId).execute db store =
        (.ok groupRootId, store) := by
  by_cases found : ∀ parentId ∈ parentCompanyId, store.findCompany parentId ≠ none
  · obtain ⟨groupRootId, grouped, _⟩ := execute_groupOfParent_of_found db store found
    exact .inr ⟨groupRootId, grouped⟩
  · exact .inl (execute_groupOfParent_of_missing db found)

/-- A creation whose parent is stored fails exactly on a ticker that is taken. -/
theorem createCompany_tickerTaken_iff {data : CompanyCreate}
    (found : ∀ parentId ∈ data.parentCompanyId, store.findCompany parentId ≠ none) :
    ((createCompany data).execute db store).1 = .error (tickerTaken data.ticker) ↔
      ∃ other ∈ store.companies, other.ticker = data.ticker := by
  obtain ⟨groupRootId, grouped, _⟩ := execute_groupOfParent_of_found db store found
  let row : CompanyInsert := ⟨data.name, data.ticker, data.parentCompanyId, groupRootId⟩
  have parent : Store.parentExists store.companies (store.inserted db row).id
      data.parentCompanyId = true := by
    cases asked : data.parentCompanyId with
    | none => rfl
    | some parentId =>
        obtain ⟨parent, isRow⟩ := Option.ne_none_iff_exists'.mp (found parentId asked)
        exact Store.parentExists_some.mpr (.inr ⟨parent, Table.find_eq_some isRow⟩)
  rw [createCompany, execute_bind, grouped]
  dsimp only
  rw [execute_query_bind, Store.exec]
  by_cases taken : ∃ other ∈ store.companies, other.ticker = data.ticker
  · have failed : Store.insertCompany db row store =
        (.error .integrityError, { store with companiesDrawn := store.companiesDrawn + 1 }) := by
      unfold Store.insertCompany
      rw [if_pos]
      simpa using .inl taken
    rw [show Store.insertCompany db _ store = _ from failed]
    exact iff_of_true rfl taken
  · have committed : Store.insertCompany db row store =
      (.ok (store.inserted db row).id, { store with
        companiesDrawn := store.companiesDrawn + 1
        companies := store.companies ++ [store.inserted db row] }) := by
      unfold Store.insertCompany
      rw [if_neg]
      simp only [Bool.or_eq_true, Bool.not_eq_true', not_or, Bool.not_eq_false]
      exact ⟨by simpa using taken, parent⟩
    rw [show Store.insertCompany db _ store = _ from committed]
    refine iff_of_false ?_ taken
    dsimp only
    rw [refreshCompany, execute_query_bind]
    generalize (Store.exec db (.getCompany (store.inserted db row).id) _).1 = reread
    cases reread with
    | none => exact fun failed => by cases failed
    | some company => exact fun failed => by cases failed

/-- A company is created, with an id no row had, or the tables are as before. -/
theorem execute_createCompany (wf : Store.WellFormed db store) (data : CompanyCreate) :
    (∃ detail later, (createCompany data).execute db store =
        (.error (.valueError detail), later) ∧ later.data = store.data) ∨
      ∃ row later, (createCompany data).execute db store = (.ok row, later) ∧
        later.balanceSheets = store.balanceSheets ∧ store.findCompany row.id = none ∧
        later.findCompany = Function.update store.findCompany row.id (some row) ∧
        row.ticker = data.ticker := by
  rw [createCompany, execute_bind]
  rcases execute_groupOfParent db store data.parentCompanyId with
    ⟨detail, missing⟩ | ⟨groupRootId, grouped⟩
  · rw [missing]
    exact .inl ⟨detail, store, rfl, rfl⟩
  · rw [grouped]
    dsimp only
    rw [execute_query_bind, Store.exec]
    let insert : CompanyInsert := ⟨data.name, data.ticker, data.parentCompanyId, groupRootId⟩
    rcases Store.insertCompany_cases db insert store with failed | ⟨_, _, committed⟩
    · rw [show Store.insertCompany db _ store = _ from failed]
      exact .inl ⟨_, _, rfl, rfl⟩
    · rw [show Store.insertCompany db _ store = _ from committed]
      have updated := Store.findCompany_insert wf insert (store.companiesDrawn + 1)
      dsimp only
      rw [refreshCompany, execute_query_bind, Store.exec, updated, Function.update_self]
      refine .inr ⟨_, _, rfl, rfl, ?_, updated, rfl⟩
      exact Table.find_eq_none.mpr wf.fresh

/-- A company is deleted only while no row names it as parent. -/
theorem execute_deleteCompany (db : Database) (store : Store) (company : Company) :
    (∃ detail, (deleteCompany company).execute db store =
        (.error (.valueError detail), store)) ∨
      Childless store company.id ∧
        (deleteCompany company).execute db store =
          (.ok (), Store.deleteCompany company.id store) := by
  rw [deleteCompany, execute_query_bind, Store.exec]
  by_cases isZero : (store.subsidiaries company.id).length = 0
  · refine .inr ⟨childless_of_count isZero, ?_⟩
    rw [if_neg (not_not.mpr isZero)]
    rfl
  · rw [if_pos isZero]
    exact .inl ⟨_, rfl⟩

/-! The lookup of sheets after each write. -/

namespace Store

theorem sheetAt_import {companyId year : Int}
    (absent : store.sheetAt (companyId, year) = none) (fields : List (String × Figure)) :
    sheetAt { store with
      sheetsDrawn := store.sheetsDrawn + 1
      balanceSheets := store.balanceSheets ++ [store.importedSheet db companyId year fields] } =
      Function.update store.sheetAt (companyId, year)
        (some (store.importedSheet db companyId year fields)) :=
  Table.find_append (store.importedSheet db companyId year fields) (Table.find_eq_none.mp absent)

theorem sheetAt_delete (wf : WellFormed db store) {sheet : BalanceSheet}
    (member : sheet ∈ store.balanceSheets) :
    sheetAt { store with
      balanceSheets := Table.remove BalanceSheet.id store.balanceSheets sheet.id } =
      Function.update store.sheetAt (sheetKey sheet) none := by
  rw [Table.remove_other wf.sheetIdKeys wf.sheetKeys member]
  exact Table.find_remove (sheetKey sheet)

theorem sheetAt_deleteCompany {id : Int} {company : Company}
    (found : store.findCompany id = some company) (key : Int × Int) :
    (deleteCompany id store).sheetAt key = if key.1 = id then none else store.sheetAt key := by
  have cascaded : (deleteCompany id store).balanceSheets =
      store.balanceSheets.filter fun sheet => decide ((sheetKey sheet).1 ≠ id) := by
    rw [deleteCompany, found]
    rfl
  rw [sheetAt, cascaded, Table.find_filter (fun key : Int × Int => decide (key.1 ≠ id)) key]
  by_cases same : key.1 = id <;> simp [same, sheetAt]

end Store
end BalanceSheetAnalysis

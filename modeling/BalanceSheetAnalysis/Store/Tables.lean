import BalanceSheetAnalysis.Authorization.Conditions
import BalanceSheetAnalysis.Library.Program
import BalanceSheetAnalysis.Library.Table
import Mathlib.Logic.Embedding.Basic

/-! The database: its tables, the statements the application issues against
them, and the constraints the database enforces when a statement is executed.
One operation below is one step of a request: it sees the latest committed
data, and a write is committed at once. -/
namespace BalanceSheetAnalysis
open Library Authorization

structure Company where
  id : Int
  name : String
  ticker : String
  parentCompanyId : Option Int
  groupRootId : Int
  createdAt : Int
  deriving DecidableEq

/-- A value of a nullable `Float` column. -/
inductive Figure where
  | finite (value : ℚ)
  | negativeZero
  | infinity (negative : Bool)
  | nan
  deriving DecidableEq

/-- `figures` holds the yfinance columns that are not null. -/
structure BalanceSheet where
  id : Int
  companyId : Int
  year : Int
  figures : List (String × Figure)
  deriving DecidableEq

structure AuditEntry where
  userEmail : String
  action : String
  resourceType : String
  /-- The value `str` is applied to. -/
  resourceIdentifier : Option Json
  allowed : Bool
  candidatePolicyNames : List String
  grantingPolicyNames : List String
  failedConditions : Option (List (String × List String))
  context : Option Context

/-- `companiesDrawn` and `sheetsDrawn` count the ids the two sequences have
handed out, also to inserts that failed. -/
structure Store where
  companies : List Company
  balanceSheets : List BalanceSheet
  auditLog : List AuditEntry
  companiesDrawn : Nat
  sheetsDrawn : Nat

def Store.empty : Store := ⟨[], [], [], 0, 0⟩

/-- What a database decides by itself: the ids its sequences hand out, never
one twice, and the time it stamps on the rows. -/
structure Database where
  companyIds : Nat ↪ Int
  sheetIds : Nat ↪ Int
  createdAt : Nat → Int

/-- Both sequences count 1, 2, 3 and so on, and the clock stands still. -/
def Database.counting : Database :=
  let ids : Nat ↪ Int := ⟨fun n => n + 1, fun _ _ same => by simpa using same⟩
  ⟨ids, ids, fun _ => 0⟩

/-- An INSERT into `companies`; without a group the row gets its own id. -/
structure CompanyInsert where
  name : String
  ticker : String
  parentCompanyId : Option Int
  groupRootId : Option Int

/-- The columns of a loaded `Company` object after the program assigned to
them; null where the column forbids it. -/
structure CompanyDraft where
  name : Option String
  ticker : Option String
  parentCompanyId : Option Int
  groupRootId : Int
  deriving DecidableEq

def Company.draft (company : Company) : CompanyDraft :=
  ⟨some company.name, some company.ticker, company.parentCompanyId, company.groupRootId⟩

/-- How a committing write fails. -/
inductive WriteError where
  | integrityError
  /-- The UPDATE matched no row. -/
  | staleDataError
  deriving DecidableEq

/-- The values a query on the companies is sent with. -/
structure Parameters where
  ids : List Json
  texts : List String
  /-- LIMIT and OFFSET. -/
  range : List Nat

inductive Operation where
  | getCompany (id : Int)
  | countSubsidiaries (id : Int)
  | selectCompanies (parameters : Parameters)
  | insertCompany (row : CompanyInsert)
  | updateCompany (loaded : Company) (current : CompanyDraft)
  | deleteCompany (id : Int)
  | insertAudit (entry : AuditEntry)
  | getBalanceSheet (id : Int)
  | selectBalanceSheet (companyId year : Int)
  | selectBalanceSheets (companyId : Int) (years : Option (List Int))
  | insertBalanceSheet (companyId year : Int) (figures : List (String × Figure))
  | deleteBalanceSheet (id : Int)

/-- The operation reads, or writes the audit log only. -/
def Operation.Quiet : Operation → Prop
  | .insertCompany _ | .updateCompany _ _ | .deleteCompany _ => False
  | .insertBalanceSheet _ _ _ | .deleteBalanceSheet _ => False
  | _ => True

@[reducible] def Reply : Operation → Type
  | .getCompany _ => Option Company
  | .countSubsidiaries _ => Nat
  | .selectCompanies _ => List Company
  | .insertCompany _ => Except WriteError Int
  | .updateCompany _ _ => Except WriteError Unit
  | .deleteCompany _ => Unit
  | .insertAudit _ => Unit
  | .getBalanceSheet _ => Option BalanceSheet
  | .selectBalanceSheet _ _ => List BalanceSheet
  | .selectBalanceSheets _ _ => List BalanceSheet
  | .insertBalanceSheet _ _ _ => Except WriteError Int
  | .deleteBalanceSheet _ => Unit

namespace Store

def findCompany (store : Store) (id : Int) : Option Company :=
  Table.find Company.id store.companies id

def subsidiaries (store : Store) (id : Int) : List Company :=
  store.companies.filter (·.parentCompanyId = some id)

/-- The parent foreign key; a row may reference itself. -/
def parentExists (companies : List Company) (id : Int) (parentCompanyId : Option Int) : Bool :=
  match parentCompanyId with
  | none => true
  | some parentId => parentId = id || companies.any (·.id = parentId)

/-- The row an INSERT makes. -/
def inserted (db : Database) (row : CompanyInsert) (store : Store) : Company :=
  let id := db.companyIds store.companiesDrawn
  { id, name := row.name, ticker := row.ticker
    parentCompanyId := row.parentCompanyId
    groupRootId := row.groupRootId.getD id
    createdAt := db.createdAt store.companiesDrawn }

def insertCompany (db : Database) (row : CompanyInsert) (store : Store) :
    Except WriteError Int × Store :=
  let company := inserted db row store
  let drawn := { store with companiesDrawn := store.companiesDrawn + 1 }
  if store.companies.any (·.ticker = row.ticker) ||
      !parentExists store.companies company.id row.parentCompanyId then
    (.error .integrityError, drawn)
  else (.ok company.id, { drawn with companies := store.companies ++ [company] })

/-- The value of a column after the UPDATE, which sets it only if the program
changed what it had loaded. -/
def written {α : Type} [DecidableEq α] (loaded current stored : α) : α :=
  if current = loaded then stored else current

@[simp] theorem written_self {α : Type} [DecidableEq α] (stored current : α) :
    written stored current stored = current := by
  unfold written
  split
  · rename_i same
    exact same.symm
  · rfl

/-- The stored row after the UPDATE; `none` if a column would become null. -/
def flushed (loaded : Company) (current : CompanyDraft) (stored : Company) : Option Company :=
  match written (some loaded.name) current.name (some stored.name),
      written (some loaded.ticker) current.ticker (some stored.ticker) with
  | some name, some ticker => some { stored with
      name, ticker
      parentCompanyId :=
        written loaded.parentCompanyId current.parentCompanyId stored.parentCompanyId
      groupRootId := written loaded.groupRootId current.groupRootId stored.groupRootId }
  | _, _ => none

/-- An object none of whose columns changed is not written at all. -/
def updateCompany (loaded : Company) (current : CompanyDraft) (store : Store) :
    Except WriteError Unit × Store :=
  if current = loaded.draft then (.ok (), store)
  else match store.findCompany loaded.id with
    | none => (.error .staleDataError, store)
    | some stored =>
        match flushed loaded current stored with
        | none => (.error .integrityError, store)
        | some row =>
            if store.companies.any (fun other => other.id ≠ row.id ∧ other.ticker = row.ticker) ||
                !parentExists store.companies row.id row.parentCompanyId then
              (.error .integrityError, store)
            else (.ok (), { store with
              companies := Table.modify Company.id store.companies loaded.id fun old =>
                (flushed loaded current old).getD old })

/-- `ON DELETE SET NULL` for the subsidiaries, `ON DELETE CASCADE` for the
balance sheets. -/
def deleteCompany (id : Int) (store : Store) : Store :=
  if (store.findCompany id).isNone then store
  else { store with
    companies := (Table.remove Company.id store.companies id).map fun company =>
      if company.parentCompanyId = some id then { company with parentCompanyId := none }
      else company
    balanceSheets := store.balanceSheets.filter (·.companyId ≠ id) }

def sheetKey (sheet : BalanceSheet) : Int × Int := (sheet.companyId, sheet.year)

def findBalanceSheet (store : Store) (id : Int) : Option BalanceSheet :=
  Table.find BalanceSheet.id store.balanceSheets id

def selectBalanceSheet (store : Store) (companyId year : Int) : List BalanceSheet :=
  store.balanceSheets.filter fun sheet => sheet.companyId = companyId ∧ sheet.year = year

/-- Ordered by year; a falsy list of years does not narrow the query. -/
def selectBalanceSheets (store : Store) (companyId : Int) (years : Option (List Int)) :
    List BalanceSheet :=
  let years := years.getD []
  (store.balanceSheets.filter fun sheet =>
    sheet.companyId = companyId ∧ (years = [] ∨ sheet.year ∈ years)).mergeSort
      fun earlier later => earlier.year ≤ later.year

def insertBalanceSheet (db : Database) (companyId year : Int) (figures : List (String × Figure))
    (store : Store) : Except WriteError Int × Store :=
  let id := db.sheetIds store.sheetsDrawn
  let drawn := { store with sheetsDrawn := store.sheetsDrawn + 1 }
  if (store.findCompany companyId).isNone ||
      store.balanceSheets.any (sheetKey · = (companyId, year)) then
    (.error .integrityError, drawn)
  else
    (.ok id, { drawn with
      balanceSheets := store.balanceSheets ++ [{ id, companyId, year, figures }] })

@[simp] theorem insertBalanceSheet_companies (db : Database) (companyId year : Int)
    (figures : List (String × Figure)) (store : Store) :
    (insertBalanceSheet db companyId year figures store).2.companies = store.companies := by
  unfold insertBalanceSheet
  dsimp only
  split <;> rfl

/-- Execute one operation: its reply, and the committed data after it. -/
def exec (db : Database) : (op : Operation) → Store → Reply op × Store
  | .getCompany id, store => (store.findCompany id, store)
  | .countSubsidiaries id, store => ((store.subsidiaries id).length, store)
  | .selectCompanies _, store => (store.companies, store)
  | .insertCompany row, store => insertCompany db row store
  | .updateCompany loaded current, store => updateCompany loaded current store
  | .deleteCompany id, store => ((), deleteCompany id store)
  | .insertAudit entry, store => ((), { store with auditLog := store.auditLog ++ [entry] })
  | .getBalanceSheet id, store => (store.findBalanceSheet id, store)
  | .selectBalanceSheet companyId year, store => (store.selectBalanceSheet companyId year, store)
  | .selectBalanceSheets companyId years, store =>
      (store.selectBalanceSheets companyId years, store)
  | .insertBalanceSheet companyId year figures, store =>
      insertBalanceSheet db companyId year figures store
  | .deleteBalanceSheet id, store =>
      ((), { store with balanceSheets := Table.remove BalanceSheet.id store.balanceSheets id })

/-- The two tables of the application itself. -/
def data (store : Store) : List Company × List BalanceSheet :=
  (store.companies, store.balanceSheets)

theorem findCompany_of_data {store later : Store} (same : later.data = store.data) :
    later.findCompany = store.findCompany :=
  congrArg (Table.find Company.id) (congrArg Prod.fst same)

theorem exec_quiet (db : Database) (op : Operation) (store : Store) (quiet : op.Quiet) :
    (exec db op store).2.data = store.data := by
  cases op <;> first | rfl | cases quiet

/-! The constraints. -/

structure WellFormed (db : Database) (store : Store) : Prop where
  companyKeys : Table.Keyed Company.id store.companies
  companyDrawn : ∀ company ∈ store.companies, ∃ n < store.companiesDrawn,
    company.id = db.companyIds n
  tickers : Table.Keyed Company.ticker store.companies
  parents : ∀ company ∈ store.companies, ∀ parentId, company.parentCompanyId = some parentId →
    ∃ parent ∈ store.companies, parent.id = parentId
  sheetIdKeys : Table.Keyed BalanceSheet.id store.balanceSheets
  sheetDrawn : ∀ sheet ∈ store.balanceSheets, ∃ n < store.sheetsDrawn, sheet.id = db.sheetIds n
  sheetKeys : Table.Keyed sheetKey store.balanceSheets
  sheetCompanies : ∀ sheet ∈ store.balanceSheets, ∃ company ∈ store.companies,
    company.id = sheet.companyId

/-- The constraints of the companies table by itself. -/
structure CompanyConstraints (companies : List Company) : Prop where
  keys : Table.Keyed Company.id companies
  tickers : Table.Keyed Company.ticker companies
  parents : ∀ company ∈ companies, ∀ parentId, company.parentCompanyId = some parentId →
    ∃ parent ∈ companies, parent.id = parentId

theorem WellFormed.companyConstraints {db : Database} {store : Store}
    (wf : WellFormed db store) : CompanyConstraints store.companies :=
  ⟨wf.companyKeys, wf.tickers, wf.parents⟩

theorem wellFormed_empty (db : Database) : WellFormed db empty where
  companyKeys := Table.keyed_nil
  companyDrawn := nofun
  tickers := Table.keyed_nil
  parents := nofun
  sheetIdKeys := Table.keyed_nil
  sheetDrawn := nofun
  sheetKeys := Table.keyed_nil
  sheetCompanies := nofun

theorem parentExists_some {companies : List Company} {id parentId : Int} :
    parentExists companies id (some parentId) = true ↔
      parentId = id ∨ ∃ parent ∈ companies, parent.id = parentId := by
  simp [parentExists]

@[simp] theorem flushed_id {loaded stored row : Company} {current : CompanyDraft}
    (written : flushed loaded current stored = some row) : row.id = stored.id := by
  unfold flushed at written
  split at written
  · cases written
    rfl
  · cases written

theorem flushed_place {loaded stored row : Company} {current : CompanyDraft}
    (isRow : flushed loaded current stored = some row) :
    row.parentCompanyId =
        written loaded.parentCompanyId current.parentCompanyId stored.parentCompanyId ∧
      row.groupRootId = written loaded.groupRootId current.groupRootId stored.groupRootId := by
  unfold flushed at isRow
  split at isRow
  · cases isRow
    exact ⟨rfl, rfl⟩
  · cases isRow

/-- On the row as it was loaded the UPDATE sets every column as assigned. -/
theorem flushed_self {stored row : Company} {current : CompanyDraft}
    (written : flushed stored current stored = some row) :
    row.draft = current ∧ row.createdAt = stored.createdAt := by
  unfold flushed at written
  simp only [written_self] at written
  split at written
  · rename_i name ticker isName isTicker
    cases written
    cases current
    simp_all [Company.draft]
  · cases written

theorem flushed_getD_id (loaded : Company) (current : CompanyDraft) (stored : Company) :
    ((flushed loaded current stored).getD stored).id = stored.id := by
  cases written : flushed loaded current stored with
  | none => rfl
  | some row => exact flushed_id written

variable {db : Database} {store : Store}

/-- The id an insert draws is the id of no row. -/
theorem WellFormed.fresh (wf : WellFormed db store) :
    ∀ company ∈ store.companies, company.id ≠ db.companyIds store.companiesDrawn := by
  intro company member same
  obtain ⟨n, below, drawn⟩ := wf.companyDrawn company member
  have := db.companyIds.injective (drawn.symm.trans same)
  omega

theorem WellFormed.freshSheet (wf : WellFormed db store) :
    ∀ sheet ∈ store.balanceSheets, sheet.id ≠ db.sheetIds store.sheetsDrawn := by
  intro sheet member same
  obtain ⟨n, below, drawn⟩ := wf.sheetDrawn sheet member
  have := db.sheetIds.injective (drawn.symm.trans same)
  omega

theorem WellFormed.find_iff (wf : WellFormed db store) {id : Int} {company : Company} :
    store.findCompany id = some company ↔ company ∈ store.companies ∧ company.id = id :=
  Table.find_eq_some_iff wf.companyKeys

/-- Drawing an id changes no table. -/
theorem WellFormed.draw (wf : WellFormed db store) :
    WellFormed db { store with companiesDrawn := store.companiesDrawn + 1 } :=
  { wf with
    companyDrawn := fun company member =>
      let ⟨n, below, drawn⟩ := wf.companyDrawn company member
      ⟨n, Nat.lt_succ_of_lt below, drawn⟩ }

theorem WellFormed.drawSheet (wf : WellFormed db store) :
    WellFormed db { store with sheetsDrawn := store.sheetsDrawn + 1 } :=
  { wf with
    sheetDrawn := fun sheet member =>
      let ⟨n, below, drawn⟩ := wf.sheetDrawn sheet member
      ⟨n, Nat.lt_succ_of_lt below, drawn⟩ }

/-- An INSERT fails and draws an id, or adds its row within the constraints. -/
theorem insertCompany_cases (db : Database) (row : CompanyInsert) (store : Store) :
    insertCompany db row store = (.error .integrityError,
        { store with companiesDrawn := store.companiesDrawn + 1 }) ∨
      (∀ other ∈ store.companies, other.ticker ≠ row.ticker) ∧
        parentExists store.companies (inserted db row store).id row.parentCompanyId = true ∧
        insertCompany db row store = (.ok (inserted db row store).id, { store with
          companiesDrawn := store.companiesDrawn + 1
          companies := store.companies ++ [inserted db row store] }) := by
  unfold insertCompany
  simp only [Bool.or_eq_true, Bool.not_eq_true']
  split
  · exact .inl rfl
  · rename_i accepted
    simp only [not_or, List.any_eq_true, decide_eq_true_eq, not_exists, not_and,
      Bool.not_eq_false] at accepted
    exact .inr ⟨accepted.1, accepted.2, rfl⟩

theorem WellFormed.insertCompany (wf : WellFormed db store) (row : CompanyInsert) :
    WellFormed db (insertCompany db row store).2 := by
  rcases insertCompany_cases db row store with failed | ⟨newTicker, parent, committed⟩
  · rw [failed]
    exact wf.draw
  · rw [committed]
    refine { wf.draw with
      companyKeys := ?_, companyDrawn := ?_, tickers := ?_, parents := ?_, sheetCompanies := ?_ }
    · exact wf.companyKeys.append wf.fresh
    · intro company member
      rcases List.mem_append.mp member with old | new
      · exact wf.draw.companyDrawn company old
      · rw [List.mem_singleton] at new
        exact ⟨store.companiesDrawn, Nat.lt_succ_self _, by rw [new]; rfl⟩
    · exact wf.tickers.append newTicker
    · intro company member parentId hangs
      rcases List.mem_append.mp member with old | new
      · obtain ⟨found, inside, same⟩ := wf.parents company old parentId hangs
        exact ⟨found, List.mem_append_left _ inside, same⟩
      · rw [List.mem_singleton] at new
        subst new
        rw [show row.parentCompanyId = some parentId from hangs, parentExists_some] at parent
        rcases parent with self | ⟨found, inside, same⟩
        · exact ⟨_, List.mem_append_right _ (List.mem_singleton_self _), self.symm⟩
        · exact ⟨found, List.mem_append_left _ inside, same⟩
    · intro sheet member
      obtain ⟨company, inside, same⟩ := wf.sheetCompanies sheet member
      exact ⟨company, List.mem_append_left _ inside, same⟩

/-- What a committed UPDATE did: nothing, or exactly the changed columns of one
row, within the constraints. -/
theorem updateCompany_cases (loaded : Company) (current : CompanyDraft) (store : Store) :
    ((updateCompany loaded current store).2 = store) ∨
      ∃ stored row, store.findCompany loaded.id = some stored ∧
        current ≠ loaded.draft ∧
        flushed loaded current stored = some row ∧
        (∀ other ∈ store.companies, other.id ≠ row.id → other.ticker ≠ row.ticker) ∧
        parentExists store.companies row.id row.parentCompanyId = true ∧
        (updateCompany loaded current store) = (.ok (), { store with
          companies := Table.modify Company.id store.companies loaded.id fun old =>
            (flushed loaded current old).getD old }) := by
  unfold updateCompany
  split
  · exact .inl rfl
  · rename_i changed
    split
    · exact .inl rfl
    · rename_i stored found
      split
      · exact .inl rfl
      · rename_i row written
        split
        · exact .inl rfl
        · rename_i accepted
          simp only [Bool.or_eq_true, Bool.not_eq_true', not_or, List.any_eq_true,
            decide_eq_true_eq, not_exists, not_and, Bool.not_eq_false] at accepted
          exact .inr ⟨stored, row, found, changed, written, accepted.1, accepted.2, rfl⟩

theorem WellFormed.updateCompany (wf : WellFormed db store) (loaded : Company)
    (current : CompanyDraft) : WellFormed db (updateCompany loaded current store).2 := by
  rcases updateCompany_cases loaded current store with same |
    ⟨stored, row, found, _, written, newTicker, parent, committed⟩
  · rw [same]
    exact wf
  · rw [committed]
    obtain ⟨member, isLoaded⟩ := Table.find_eq_some found
    have rowId : row.id = loaded.id := (flushed_id written).trans isLoaded
    have edited {company : Company} (inside : company ∈ Table.modify Company.id store.companies
        loaded.id fun old => (flushed loaded current old).getD old) :
        (company ∈ store.companies ∧ company.id ≠ loaded.id) ∨ company = row := by
      have either := Table.mem_modify_cases wf.companyKeys found inside
      rwa [written] at either
    have stays {id : Int} (present : ∃ company ∈ store.companies, company.id = id) :
        ∃ company ∈ Table.modify Company.id store.companies loaded.id
          (fun old => (flushed loaded current old).getD old), company.id = id :=
      Table.exists_key_modify (flushed_getD_id loaded current) present
    refine { wf with
      companyKeys := ?_, companyDrawn := ?_, tickers := ?_, parents := ?_, sheetCompanies := ?_ }
    · exact wf.companyKeys.modify (flushed_getD_id loaded current)
    · intro company inside
      rcases edited inside with ⟨old, _⟩ | rfl
      · exact wf.companyDrawn company old
      · rw [rowId, ← isLoaded]
        exact wf.companyDrawn stored member
    · refine (List.nodup_map_iff_inj_on (wf.companyKeys.modify
        (flushed_getD_id loaded current)).of_map).mpr ?_
      intro first firstIn second secondIn same
      rcases edited firstIn with ⟨old, away⟩ | rfl <;>
        rcases edited secondIn with ⟨old', away'⟩ | rfl
      · exact List.inj_on_of_nodup_map wf.tickers old old' same
      · exact absurd same (newTicker first old (rowId ▸ away))
      · exact absurd same.symm (newTicker second old' (rowId ▸ away'))
      · rfl
    · intro company inside parentId hangs
      rcases edited inside with ⟨old, _⟩ | rfl
      · exact stays (wf.parents company old parentId hangs)
      · rw [hangs, parentExists_some] at parent
        rcases parent with self | present
        · exact ⟨company, inside, self.symm⟩
        · exact stays present
    · intro sheet inside
      exact stays (wf.sheetCompanies sheet inside)

/-- A row that survives the deletion of another, with the parent link cut if it
led there. -/
def orphaned (id : Int) (company : Company) : Company :=
  if company.parentCompanyId = some id then { company with parentCompanyId := none } else company

@[simp] theorem orphaned_id (id : Int) (company : Company) :
    (orphaned id company).id = company.id := by
  unfold orphaned
  split <;> rfl

@[simp] theorem orphaned_ticker (id : Int) (company : Company) :
    (orphaned id company).ticker = company.ticker := by
  unfold orphaned
  split <;> rfl

theorem deleteCompany_of_present {id : Int} (present : ¬(store.findCompany id).isNone) :
    deleteCompany id store = { store with
      companies := (Table.remove Company.id store.companies id).map (orphaned id)
      balanceSheets := store.balanceSheets.filter (·.companyId ≠ id) } := by
  rw [deleteCompany, if_neg present]
  rfl

theorem mem_orphaned {id : Int} {company : Company} :
    company ∈ (Table.remove Company.id store.companies id).map (orphaned id) ↔
      ∃ old ∈ store.companies, old.id ≠ id ∧ orphaned id old = company := by
  simp only [List.mem_map, Table.mem_remove, and_assoc]

theorem mem_deleteCompany {id : Int} {company : Company}
    (present : ¬(store.findCompany id).isNone) :
    company ∈ (deleteCompany id store).companies ↔
      ∃ old ∈ store.companies, old.id ≠ id ∧ orphaned id old = company := by
  rw [deleteCompany_of_present present]
  exact mem_orphaned

/-- A deletion keeps the rows other than the one it is about. -/
theorem exists_orphaned {id other : Int} (stored : ∃ company ∈ store.companies, company.id = other)
    (away : other ≠ id) :
    ∃ company ∈ (Table.remove Company.id store.companies id).map (orphaned id),
      company.id = other := by
  obtain ⟨company, inside, rfl⟩ := stored
  exact ⟨orphaned id company, mem_orphaned.mpr ⟨company, inside, away, rfl⟩,
    orphaned_id id company⟩

theorem WellFormed.deleteCompany (wf : WellFormed db store) (id : Int) :
    WellFormed db (deleteCompany id store) := by
  by_cases absent : (store.findCompany id).isNone
  · rw [Store.deleteCompany, if_pos absent]
    exact wf
  rw [deleteCompany_of_present absent]
  refine ⟨?_, ?_, ?_, ?_, ?_, ?_, ?_, ?_⟩
  · rw [Table.Keyed, List.map_map,
      show Company.id ∘ orphaned id = Company.id from funext (orphaned_id id)]
    exact wf.companyKeys.filter _
  · intro company inside
    obtain ⟨old, oldMember, _, rfl⟩ := mem_orphaned.mp inside
    rw [orphaned_id]
    exact wf.companyDrawn old oldMember
  · rw [Table.Keyed, List.map_map,
      show Company.ticker ∘ orphaned id = Company.ticker from funext (orphaned_ticker id)]
    exact wf.tickers.filter _
  · intro company inside parentId hangs
    obtain ⟨old, oldMember, _, rfl⟩ := mem_orphaned.mp inside
    unfold orphaned at hangs
    split at hangs
    · cases hangs
    · rename_i elsewhere
      exact exists_orphaned (wf.parents old oldMember parentId hangs)
        fun same => elsewhere (same ▸ hangs)
  · exact wf.sheetIdKeys.filter _
  · intro sheet inside
    exact wf.sheetDrawn sheet (List.mem_of_mem_filter inside)
  · exact wf.sheetKeys.filter _
  · intro sheet inside
    rw [List.mem_filter, decide_eq_true_eq] at inside
    exact exists_orphaned (wf.sheetCompanies sheet inside.1) inside.2

theorem insertBalanceSheet_cases (db : Database) (companyId year : Int)
    (figures : List (String × Figure)) (store : Store) :
    insertBalanceSheet db companyId year figures store = (.error .integrityError,
        { store with sheetsDrawn := store.sheetsDrawn + 1 }) ∨
      (∃ company, store.findCompany companyId = some company) ∧
        (∀ sheet ∈ store.balanceSheets, sheetKey sheet ≠ (companyId, year)) ∧
        insertBalanceSheet db companyId year figures store =
          (.ok (db.sheetIds store.sheetsDrawn), { store with
            sheetsDrawn := store.sheetsDrawn + 1
            balanceSheets := store.balanceSheets ++
              [⟨db.sheetIds store.sheetsDrawn, companyId, year, figures⟩] }) := by
  unfold insertBalanceSheet
  simp only [Bool.or_eq_true]
  split
  · exact .inl rfl
  · rename_i accepted
    simp only [not_or, List.any_eq_true, decide_eq_true_eq, not_exists, not_and] at accepted
    refine .inr ⟨?_, accepted.2, rfl⟩
    exact Option.ne_none_iff_exists'.mp (mt Option.isNone_iff_eq_none.mpr accepted.1)

theorem WellFormed.insertBalanceSheet (wf : WellFormed db store) (companyId year : Int)
    (figures : List (String × Figure)) :
    WellFormed db (insertBalanceSheet db companyId year figures store).2 := by
  rcases insertBalanceSheet_cases db companyId year figures store with failed |
    ⟨⟨company, found⟩, newKey, committed⟩
  · rw [failed]
    exact wf.drawSheet
  · rw [committed]
    refine { wf.drawSheet with
      sheetIdKeys := ?_, sheetDrawn := ?_, sheetKeys := ?_, sheetCompanies := ?_ }
    · exact wf.sheetIdKeys.append wf.freshSheet
    · intro sheet member
      rcases List.mem_append.mp member with old | new
      · exact wf.drawSheet.sheetDrawn sheet old
      · rw [List.mem_singleton] at new
        exact ⟨store.sheetsDrawn, Nat.lt_succ_self _, by rw [new]⟩
    · exact wf.sheetKeys.append newKey
    · intro sheet member
      rcases List.mem_append.mp member with old | new
      · exact wf.sheetCompanies sheet old
      · rw [List.mem_singleton] at new
        obtain ⟨inside, same⟩ := Table.find_eq_some found
        exact ⟨company, inside, by rw [same, new]⟩

theorem WellFormed.deleteBalanceSheet (wf : WellFormed db store) (id : Int) :
    WellFormed db { store with
      balanceSheets := Table.remove BalanceSheet.id store.balanceSheets id } :=
  { wf with
    sheetIdKeys := wf.sheetIdKeys.filter _
    sheetDrawn := fun sheet member => wf.sheetDrawn sheet (List.mem_of_mem_filter member)
    sheetKeys := wf.sheetKeys.filter _
    sheetCompanies := fun sheet member => wf.sheetCompanies sheet (List.mem_of_mem_filter member) }

/-! The writes on companies as point updates of the lookup by id. -/

theorem findCompany_insert (wf : WellFormed db store) (row : CompanyInsert) (drawn : Nat) :
    findCompany { store with
      companiesDrawn := drawn
      companies := store.companies ++ [inserted db row store] } =
      Function.update store.findCompany (inserted db row store).id
        (some (inserted db row store)) :=
  Table.find_append _ wf.fresh

theorem findCompany_update {loaded stored row : Company} {current : CompanyDraft}
    (found : store.findCompany loaded.id = some stored)
    (written : flushed loaded current stored = some row) :
    findCompany { store with
      companies := Table.modify Company.id store.companies loaded.id fun old =>
        (flushed loaded current old).getD old } =
      Function.update store.findCompany row.id (some row) := by
  have isLoaded : row.id = loaded.id :=
    (flushed_id written).trans (Table.find_eq_some found).2
  have changed : (Table.find Company.id store.companies loaded.id).map (fun old =>
      (flushed loaded current old).getD old) = some row := by
    rw [show Table.find Company.id store.companies loaded.id = some stored from found,
      Option.map_some, written, Option.getD_some]
  rw [isLoaded, ← changed]
  exact Table.find_modify (flushed_getD_id loaded current)

theorem findCompany_delete {id : Int}
    (childless : ∀ company ∈ store.companies, company.parentCompanyId ≠ some id) :
    findCompany (deleteCompany id store) = Function.update store.findCompany id none := by
  by_cases absent : (store.findCompany id).isNone
  · rw [deleteCompany, if_pos absent, eq_comm, Function.update_eq_self_iff]
    exact (Option.isNone_iff_eq_none.mp absent).symm
  · have unlinked : (Table.remove Company.id store.companies id).map (orphaned id) =
        Table.remove Company.id store.companies id := by
      refine (List.map_congr_left fun company member => ?_).trans (List.map_id _)
      exact if_neg (childless company (Table.mem_remove.mp member).1)
    rw [deleteCompany, if_neg absent]
    exact (congrArg (Table.find Company.id) unlinked).trans (Table.find_remove id)

/-- The database keeps its constraints, whatever is executed. -/
theorem WellFormed.exec (wf : WellFormed db store) (op : Operation) :
    WellFormed db (exec db op store).2 := by
  cases op with
  | insertCompany row => exact wf.insertCompany row
  | updateCompany loaded current => exact wf.updateCompany loaded current
  | deleteCompany id => exact wf.deleteCompany id
  | insertAudit entry => exact { wf with }
  | insertBalanceSheet companyId year figures => exact wf.insertBalanceSheet companyId year figures
  | deleteBalanceSheet id => exact wf.deleteBalanceSheet id
  | _ => exact wf

end Store
end BalanceSheetAnalysis

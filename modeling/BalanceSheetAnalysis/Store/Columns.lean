import BalanceSheetAnalysis.Store.Action
import Mathlib.Data.Int.Interval

/-! The types of the columns.  The request types are wider: a value outside its
column's domain makes the database raise.  Neither `IntegrityError` nor any
other class that an `except` clause names covers that error, so it ends the
request. -/
namespace BalanceSheetAnalysis
open Library

/-- `sa.Integer()`, of 32 bits. -/
def FitsInteger (value : Int) : Prop := -2 ^ 31 ≤ value ∧ value < 2 ^ 31

/-- `sa.String()`, which holds any character but NUL. -/
def FitsText (text : String) : Prop := Char.ofNat 0 ∉ text.toList

instance (value : Int) : Decidable (FitsInteger value) := inferInstanceAs (Decidable (_ ∧ _))

instance (text : String) : Decidable (FitsText text) := inferInstanceAs (Decidable (¬_))

/-- A LIMIT or OFFSET, sent as a `bigint`. -/
def FitsBigint (value : Nat) : Prop := value < 2 ^ 63

instance (value : Nat) : Decidable (FitsBigint value) := inferInstanceAs (Decidable (_ < _))

/-- An id from a policy, sent for an integer column.  The type of a scope promises
integers; of anything else the driver may take some, so it is left out. -/
def FitsId : Json → Prop
  | .int id => FitsInteger id
  | _ => False

instance (id : Json) : Decidable (FitsId id) := by
  cases id <;> unfold FitsId <;> infer_instance

/-- What an UPDATE sends for a column: nothing unless the program changed it. -/
def sent {α : Type} [DecidableEq α] (loaded current : Option α) : Option α :=
  if current = loaded then none else current

/-- Every value the statement sends fits the column it is stored in or compared
with.  The texts of the audit log are read from the database themselves. -/
def Operation.InDomain : Operation → Prop
  | .getCompany id | .countSubsidiaries id | .deleteCompany id => FitsInteger id
  | .getBalanceSheet id | .deleteBalanceSheet id => FitsInteger id
  | .insertCompany row =>
      FitsText row.name ∧ FitsText row.ticker ∧ (∀ id ∈ row.parentCompanyId, FitsInteger id) ∧
        ∀ id ∈ row.groupRootId, FitsInteger id
  | .updateCompany loaded current =>
      (current ≠ loaded.draft → FitsInteger loaded.id) ∧
        (∀ name ∈ sent (some loaded.name) current.name, FitsText name) ∧
        (∀ ticker ∈ sent (some loaded.ticker) current.ticker, FitsText ticker) ∧
        (∀ id ∈ sent loaded.parentCompanyId current.parentCompanyId, FitsInteger id) ∧
        ∀ id ∈ sent (some loaded.groupRootId) (some current.groupRootId), FitsInteger id
  | .selectBalanceSheet companyId year | .insertBalanceSheet companyId year _ =>
      FitsInteger companyId ∧ FitsInteger year
  | .selectBalanceSheets companyId years =>
      FitsInteger companyId ∧ ∀ year ∈ years.getD [], FitsInteger year
  | .selectCompanies parameters =>
      (∀ id ∈ parameters.ids, FitsId id) ∧ (∀ text ∈ parameters.texts, FitsText text) ∧
        ∀ bound ∈ parameters.range, FitsBigint bound
  | .insertAudit _ => True

instance : DecidablePred Operation.InDomain := by
  intro op
  cases op <;> unfold Operation.InDomain <;> infer_instance

/-- What the columns hold, and the ids the sequences hand out next. -/
structure Store.Typed (db : Database) (store : Store) : Prop where
  companyIds : ∀ company ∈ store.companies, FitsInteger company.id
  groups : ∀ company ∈ store.companies, FitsInteger company.groupRootId
  names : ∀ company ∈ store.companies, FitsText company.name
  tickers : ∀ company ∈ store.companies, FitsText company.ticker
  sheetIds : ∀ sheet ∈ store.balanceSheets, FitsInteger sheet.id
  nextCompany : FitsInteger (db.companyIds store.companiesDrawn)
  nextSheet : FitsInteger (db.sheetIds store.sheetsDrawn)

namespace Store

/-- What the columns of the companies hold. -/
structure CompanyColumns (companies : List Company) : Prop where
  ids : ∀ company ∈ companies, FitsInteger company.id
  groups : ∀ company ∈ companies, FitsInteger company.groupRootId
  names : ∀ company ∈ companies, FitsText company.name
  tickers : ∀ company ∈ companies, FitsText company.ticker

theorem Typed.companyColumns {db : Database} {store : Store} (typed : store.Typed db) :
    CompanyColumns store.companies :=
  ⟨typed.companyIds, typed.groups, typed.names, typed.tickers⟩

/-- The id of a stored company fits. -/
theorem Typed.of_find {db : Database} {store : Store} (typed : store.Typed db) {id : Int}
    {company : Company} (found : store.findCompany id = some company) : FitsInteger id := by
  obtain ⟨member, rfl⟩ := Table.find_eq_some found
  exact typed.companyIds company member

/-- There are no more rows than ids. -/
theorem CompanyColumns.few {companies : List Company} (columns : CompanyColumns companies)
    (keys : Table.Keyed Company.id companies) : companies.length ≤ 2 ^ 32 := by
  have inside : (companies.map Company.id).toFinset ⊆ Finset.Ico (-2 ^ 31) (2 ^ 31) := by
    intro id member
    obtain ⟨company, stored, rfl⟩ := List.mem_map.mp (List.mem_toFinset.mp member)
    exact Finset.mem_Ico.mpr (columns.ids company stored)
  calc
    companies.length = (companies.map Company.id).toFinset.card := by
      rw [List.toFinset_card_of_nodup keys, List.length_map]
    _ ≤ (Finset.Ico (-2 ^ 31 : ℤ) (2 ^ 31)).card := Finset.card_le_card inside
    _ = 2 ^ 32 := by
      rw [Int.card_Ico]
      rfl

/-- The sequences have not handed out an id past the columns, and have one more. -/
structure Drawable (db : Database) (store : Store) : Prop where
  companies : ∀ n ≤ store.companiesDrawn, FitsInteger (db.companyIds n)
  sheets : ∀ n ≤ store.sheetsDrawn, FitsInteger (db.sheetIds n)

theorem draws_exec (db : Database) (op : Operation) (store : Store) :
    store.companiesDrawn ≤ (exec db op store).2.companiesDrawn ∧
      store.sheetsDrawn ≤ (exec db op store).2.sheetsDrawn := by
  cases op with
  | insertCompany row =>
      rcases insertCompany_cases db row store with failed | ⟨_, _, committed⟩
      · rw [exec, failed]
        exact ⟨Nat.le_succ _, le_rfl⟩
      · rw [exec, committed]
        exact ⟨Nat.le_succ _, le_rfl⟩
  | updateCompany loaded current =>
      rcases updateCompany_cases loaded current store with same | ⟨_, _, _, _, _, _, _, committed⟩
      · rw [exec, same]
        exact ⟨le_rfl, le_rfl⟩
      · rw [exec, committed]
        exact ⟨le_rfl, le_rfl⟩
  | deleteCompany id =>
      rw [exec, deleteCompany]
      split <;> exact ⟨le_rfl, le_rfl⟩
  | insertBalanceSheet companyId year figures =>
      rcases insertBalanceSheet_cases db companyId year figures store with
        failed | ⟨_, _, committed⟩
      · rw [exec, failed]
        exact ⟨le_rfl, Nat.le_succ _⟩
      · rw [exec, committed]
        exact ⟨le_rfl, Nat.le_succ _⟩
  | _ => exact ⟨le_rfl, le_rfl⟩

theorem Drawable.earlier {db : Database} {op : Operation} {store : Store}
    (drawable : Drawable db (exec db op store).2) : Drawable db store where
  companies n le := drawable.companies n (le.trans (draws_exec db op store).1)
  sheets n le := drawable.sheets n (le.trans (draws_exec db op store).2)

/-- What an UPDATE leaves in a column was there before or was sent. -/
theorem fits_of_written {α : Type} [DecidableEq α] {fits : α → Prop}
    {loaded current stored : Option α} {value : α}
    (isValue : written loaded current stored = some value)
    (holds : ∀ value ∈ stored, fits value) (sends : ∀ value ∈ sent loaded current, fits value) :
    fits value := by
  unfold written at isValue
  unfold sent at sends
  split at isValue
  · exact holds value isValue
  · rename_i changed
    rw [if_neg changed] at sends
    exact sends value isValue

section Typed
variable {db : Database} {store : Store}

/-- The same, row by row. -/
theorem companyColumns_iff {companies : List Company} :
    CompanyColumns companies ↔ ∀ row ∈ companies, FitsInteger row.id ∧
      FitsInteger row.groupRootId ∧ FitsText row.name ∧ FitsText row.ticker := by
  constructor
  · intro columns row member
    exact ⟨columns.ids row member, columns.groups row member, columns.names row member,
      columns.tickers row member⟩
  · intro rows
    constructor
    · exact fun row member => (rows row member).1
    · exact fun row member => (rows row member).2.1
    · exact fun row member => (rows row member).2.2.1
    · exact fun row member => (rows row member).2.2.2

theorem CompanyColumns.append {companies : List Company} (columns : CompanyColumns companies)
    {row : Company} (fits : FitsInteger row.id ∧ FitsInteger row.groupRootId ∧
      FitsText row.name ∧ FitsText row.ticker) : CompanyColumns (companies ++ [row]) := by
  rw [companyColumns_iff, List.forall_mem_append, List.forall_mem_singleton]
  exact ⟨companyColumns_iff.mp columns, fits⟩

/-- The row an UPDATE leaves fits, if what it sends does. -/
theorem CompanyColumns.flushed {companies : List Company} (columns : CompanyColumns companies)
    {loaded : Company} {current : CompanyDraft} (fits : (Operation.updateCompany loaded
      current).InDomain) {stored row : Company} (member : stored ∈ companies)
    (isRow : Store.flushed loaded current stored = some row) :
    FitsInteger row.id ∧ FitsInteger row.groupRootId ∧ FitsText row.name ∧
      FitsText row.ticker := by
  obtain ⟨_, sentName, sentTicker, _, sentGroup⟩ := fits
  unfold Store.flushed at isRow
  split at isRow
  · rename_i name ticker isName isTicker
    cases isRow
    refine ⟨columns.ids stored member, ?_, ?_, ?_⟩
    · have group : written (some loaded.groupRootId) (some current.groupRootId)
          (some stored.groupRootId) = some (written loaded.groupRootId current.groupRootId
            stored.groupRootId) := by
        simp only [written, Option.some_inj]
        split <;> rfl
      refine fits_of_written group ?_ sentGroup
      rintro _ ⟨⟩
      exact columns.groups stored member
    · refine fits_of_written isName ?_ sentName
      rintro _ ⟨⟩
      exact columns.names stored member
    · refine fits_of_written isTicker ?_ sentTicker
      rintro _ ⟨⟩
      exact columns.tickers stored member
  · cases isRow

/-- An UPDATE leaves the old rows and the one it writes. -/
theorem CompanyColumns.modify (columns : CompanyColumns store.companies)
    (wf : store.WellFormed db) {loaded : Company} {current : CompanyDraft}
    (fits : (Operation.updateCompany loaded current).InDomain) {stored row : Company}
    (found : store.findCompany loaded.id = some stored)
    (written : Store.flushed loaded current stored = some row) :
    CompanyColumns (Table.modify Company.id store.companies loaded.id fun old =>
      (Store.flushed loaded current old).getD old) := by
  refine companyColumns_iff.mpr fun company inside => ?_
  have either := Table.mem_modify_cases wf.companyKeys found inside
  rw [written] at either
  rcases either with ⟨old, _⟩ | rfl
  · exact companyColumns_iff.mp columns company old
  · exact columns.flushed fits (Table.find_eq_some found).1 written

theorem CompanyColumns.orphan (columns : CompanyColumns store.companies) (id : Int) :
    CompanyColumns ((Table.remove Company.id store.companies id).map (orphaned id)) := by
  refine companyColumns_iff.mpr fun company inside => ?_
  obtain ⟨row, member, _, rfl⟩ := mem_orphaned.mp inside
  have fits := companyColumns_iff.mp columns row member
  rw [orphaned_id, orphaned_ticker]
  unfold orphaned
  split <;> exact fits

/-- Beside the companies nothing but the ids drawn matters. -/
theorem Typed.of_columns {later : Store} (columns : CompanyColumns later.companies)
    (sheetIds : ∀ sheet ∈ later.balanceSheets, FitsInteger sheet.id)
    (drawable : Drawable db later) : later.Typed db :=
  ⟨columns.ids, columns.groups, columns.names, columns.tickers, sheetIds,
    drawable.companies _ le_rfl, drawable.sheets _ le_rfl⟩

/-- A database whose columns have types keeps them, whatever it accepts. -/
theorem Typed.exec (typed : store.Typed db) (wf : store.WellFormed db) {op : Operation}
    (fits : op.InDomain) (drawable : Drawable db (exec db op store).2) :
    (exec db op store).2.Typed db := by
  have columns := typed.companyColumns
  cases op with
  | insertCompany row =>
      rcases insertCompany_cases db row store with failed | ⟨_, _, committed⟩
      · rw [Store.exec, failed] at drawable ⊢
        exact .of_columns columns typed.sheetIds drawable
      · rw [Store.exec, committed] at drawable ⊢
        have group : FitsInteger (inserted db row store).groupRootId := by
          unfold inserted
          cases isGroup : row.groupRootId with
          | none => exact typed.nextCompany
          | some id => exact fits.2.2.2 id isGroup
        exact .of_columns (columns.append ⟨typed.nextCompany, group, fits.1, fits.2.1⟩)
          typed.sheetIds drawable
  | updateCompany loaded current =>
      rcases updateCompany_cases loaded current store with
        same | ⟨_, _, found, _, written, _, _, committed⟩
      · rw [Store.exec, same]
        exact typed
      · rw [Store.exec, committed] at drawable ⊢
        exact .of_columns (columns.modify wf fits found written) typed.sheetIds drawable
  | deleteCompany id =>
      by_cases absent : (store.findCompany id).isNone
      · rw [Store.exec, Store.deleteCompany, if_pos absent]
        exact typed
      · rw [Store.exec, deleteCompany_of_present absent] at drawable ⊢
        exact .of_columns (columns.orphan id)
          (fun sheet inside => typed.sheetIds sheet (List.mem_of_mem_filter inside)) drawable
  | insertBalanceSheet companyId year figures =>
      rcases insertBalanceSheet_cases db companyId year figures store with
        failed | ⟨_, _, committed⟩
      · rw [Store.exec, failed] at drawable ⊢
        exact .of_columns columns typed.sheetIds drawable
      · rw [Store.exec, committed] at drawable ⊢
        refine .of_columns columns ?_ drawable
        rw [List.forall_mem_append, List.forall_mem_singleton]
        exact ⟨typed.sheetIds, typed.nextSheet⟩
  | deleteBalanceSheet id =>
      exact { typed with
        sheetIds := fun sheet inside => typed.sheetIds sheet (List.mem_of_mem_filter inside) }
  | insertAudit entry => exact { typed with }
  | _ => exact typed

end Typed
end Store

theorem sent_fits {α : Type} [DecidableEq α] {fits : α → Prop} {loaded : α} {current : Option α}
    (stored : fits loaded) :
    (∀ value ∈ sent (some loaded) current, fits value) ↔ ∀ value ∈ current, fits value := by
  unfold sent
  split
  · rename_i same
    simpa [same] using stored
  · rfl

namespace Action
variable {α β : Type}

/-- The outcome on a database whose columns have types; `none` is its error. -/
def executeTyped (db : Database) (action : Action α) (store : Store) :
    Option (Except Failure α) × Store :=
  Program.runAccepting (Store.exec db) Operation.InDomain (ExceptT.run action) store

/-- Run alone, the action sends nothing outside of a column's domain. -/
def Accepted (db : Database) (store : Store) (action : Action α) : Prop :=
  Program.Accepted (Store.exec db) Operation.InDomain (ExceptT.run action) store

section Accepted
variable {db : Database} {store : Store}

theorem executeTyped_eq_of_accepted {action : Action α} (accepted : Accepted db store action) :
    action.executeTyped db store =
      (some (action.execute db store).1, (action.execute db store).2) :=
  Program.runAccepting_of_accepted accepted

theorem executeTyped_of_accepted {action : Action α} (accepted : Accepted db store action) :
    (action.executeTyped db store).1 = some (action.execute db store).1 :=
  congrArg Prod.fst (executeTyped_eq_of_accepted accepted)

theorem executeTyped_of_refused {action : Action α} (refused : ¬Accepted db store action) :
    (action.executeTyped db store).1 = none :=
  Program.runAccepting_of_refused refused

theorem executeTyped_bind (action : Action α) (rest : α → Action β) :
    executeTyped db (action >>= rest) store =
      match executeTyped db action store with
      | (some (.ok value), later) => executeTyped db (rest value) later
      | (some (.error failure), later) => (some (.error failure), later)
      | (none, later) => (none, later) := by
  unfold executeTyped
  rw [ExceptT.run_bind, Program.runAccepting_bind]
  rcases Program.runAccepting (Store.exec db) Operation.InDomain (ExceptT.run action) store with
    ⟨_ | _ | _, later⟩ <;> rfl

theorem executeTyped_query_refused {op : Operation} {rest : Reply op → Action β}
    (refused : ¬op.InDomain) : executeTyped db (query op >>= rest) store = (none, store) :=
  if_neg refused

theorem executeTyped_query_bind {op : Operation} {rest : Reply op → Action β}
    (fits : op.InDomain) :
    executeTyped db (query op >>= rest) store =
      executeTyped db (rest (Store.exec db op store).1) (Store.exec db op store).2 :=
  if_pos fits

theorem executeTyped_translate (handler : Failure → Failure) (action : Action α) :
    executeTyped db (action.translate handler) store =
      ((action.executeTyped db store).1.map (Except.mapError handler),
        (action.executeTyped db store).2) := by
  have adapted : ExceptT.run (action.translate handler) =
      (Except.mapError handler) <$> action.run := rfl
  rw [executeTyped, adapted, map_eq_pure_bind, Program.runAccepting_bind]
  unfold executeTyped
  rcases Program.runAccepting (Store.exec db) Operation.InDomain (ExceptT.run action) store with
    ⟨_ | _, later⟩ <;> rfl

/-- A run alone keeps the constraints and, while the sequences last, the types. -/
theorem kept_executeTyped (action : Action α) (wf : store.WellFormed db)
    (typed : Store.Drawable db store → store.Typed db) :
    (action.executeTyped db store).2.WellFormed db ∧
      (Store.Drawable db (action.executeTyped db store).2 →
        (action.executeTyped db store).2.Typed db) := by
  let inv (found : Store) : Prop :=
    found.WellFormed db ∧ (Store.Drawable db found → found.Typed db)
  have keeps (op : Operation) (found : Store) (fits : op.InDomain) (holds : inv found) :
      inv (Store.exec db op found).2 :=
    ⟨holds.1.exec op, fun drawable => (holds.2 drawable.earlier).exec holds.1 fits drawable⟩
  have start : inv store := ⟨wf, typed⟩
  exact Program.runAccepting_invariant keeps (ExceptT.run action) start

theorem executeTyped_eq_some {action : Action α} {result : Except Failure α} :
    (action.executeTyped db store).1 = some result ↔
      Accepted db store action ∧ (action.execute db store).1 = result := by
  by_cases accepted : Accepted db store action
  · rw [executeTyped_of_accepted accepted, Option.some_inj, and_iff_right accepted]
  · rw [executeTyped_of_refused accepted]
    exact iff_of_false nofun fun both => accepted both.1

@[simp] theorem accepted_query (op : Operation) :
    Accepted db store (query op) ↔ op.InDomain := (and_true _).to_iff

theorem accepted_bind (action : Action α) (rest : α → Action β) :
    Accepted db store (action >>= rest) ↔ Accepted db store action ∧
      ∀ value later, action.execute db store = (.ok value, later) →
        Accepted db later (rest value) := by
  rw [Accepted, ExceptT.run_bind, Program.accepted_bind]
  apply and_congr_right
  intro _
  unfold execute
  cases Program.run (Store.exec db) (ExceptT.run action) store with
  | mk result later =>
      cases result with
      | error failure => exact iff_of_true trivial fun value last returned => by cases returned
      | ok value =>
          constructor
          · rintro accepted _ _ ⟨⟩
            exact accepted
          · intro accepted
            exact accepted value later rfl

theorem accepted_bind_ok {action : Action α} {rest : α → Action β} {value : α} {later : Store}
    (returned : action.execute db store = (.ok value, later)) :
    Accepted db store (action >>= rest) ↔
      Accepted db store action ∧ Accepted db later (rest value) := by
  rw [accepted_bind, returned]
  simp

theorem accepted_bind_error {action : Action α} {rest : α → Action β} {failure : Failure}
    {later : Store} (raised : action.execute db store = (.error failure, later)) :
    Accepted db store (action >>= rest) ↔ Accepted db store action := by
  rw [accepted_bind, raised]
  simp

theorem accepted_query_bind (op : Operation) (rest : Reply op → Action β) :
    Accepted db store (query op >>= rest) ↔ op.InDomain ∧
      Accepted db (Store.exec db op store).2 (rest (Store.exec db op store).1) := Iff.rfl

@[simp] theorem accepted_translate (handler : Failure → Failure) (action : Action α) :
    Accepted db store (action.translate handler) ↔ Accepted db store action := by
  have adapted : ExceptT.run (action.translate handler) =
      Except.mapError handler <$> action.run := rfl
  rw [Accepted, adapted, map_eq_pure_bind, Program.accepted_bind]
  exact (and_true _).to_iff

@[simp] theorem accepted_ignore (action : Action α) :
    Accepted db store action.ignore ↔ Accepted db store action := by
  rw [Action.ignore, accepted_bind]
  exact and_iff_left fun _ _ _ => trivial

end Accepted
end Action
end BalanceSheetAnalysis

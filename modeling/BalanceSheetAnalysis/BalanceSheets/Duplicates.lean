import BalanceSheetAnalysis.BalanceSheets.Execution
import BalanceSheetAnalysis.Companies.Runs

/-! Creates, imports and deletions while they interleave.  Where an INSERT fails
the message says that the row exists already; it may also have been the foreign
key. -/
namespace BalanceSheetAnalysis
open Library BalanceSheetAnalysis.Action

inductive CrudCall where
  | createCompany (data : CompanyCreate)
  | importBalanceSheet (fetch : Fetch) (companyId year : Int) (ticker : String)
  | deleteCompany (company : Company)
  | deleteBalanceSheet (sheet : BalanceSheet)

def CrudCall.run : CrudCall → Action Unit
  | .createCompany data => (BalanceSheetAnalysis.createCompany data).ignore
  | .importBalanceSheet fetch companyId year ticker =>
      (BalanceSheetAnalysis.importBalanceSheet fetch companyId year ticker).ignore
  | .deleteCompany company => BalanceSheetAnalysis.deleteCompany company
  | .deleteBalanceSheet sheet => BalanceSheetAnalysis.deleteBalanceSheet sheet

def crudPool {ι : Type} (calls : ι → CrudCall) (store : Store) :
    Pool Reply Store ι (Except Failure Unit) where
  state := store
  threads i := ExceptT.run (calls i).run

/-- A ValueError that says the row exists already. -/
def Failure.AlreadyExists (failure : Failure) : Prop :=
  (∃ ticker, failure = tickerTaken ticker) ∨
    ∃ companyId year, failure = sheetExists companyId year

/-- A committed row has the ticker, or the company and year, of the call. -/
def CrudCall.Taken (store : Store) : CrudCall → Prop
  | .createCompany data => ∃ company ∈ store.companies, company.ticker = data.ticker.val
  | .importBalanceSheet _ companyId year _ =>
      ∃ sheet ∈ store.balanceSheets, sheet.companyId = companyId ∧ sheet.year = year
  | _ => False

/-- The row of the foreign key of an INSERT is there. -/
def ReferencePresent (db : Database) (store : Store) : Operation → Prop
  | .insertCompany row => Store.parentExists store.companies
      (Store.inserted db row store).id row.parentCompanyId = true
  | .insertBalanceSheet companyId _ _ => ∃ company ∈ store.companies, company.id = companyId
  | _ => True

/-- The check of a call, or its INSERT when it failed. -/
def CheckOrFailedInsert : Sigma Reply → Prop
  | ⟨.selectBalanceSheet _ _, _⟩ => True
  | ⟨.insertCompany _, .error _⟩ => True
  | ⟨.insertBalanceSheet _ _ _, .error _⟩ => True
  | _ => False

/-- The check that found the row, or a failed INSERT. -/
def Refusal : Sigma Reply → Prop
  | ⟨.selectBalanceSheet _ _, [_]⟩ => True
  | ⟨.insertCompany _, .error _⟩ => True
  | ⟨.insertBalanceSheet _ _ _, .error _⟩ => True
  | _ => False

/-! What a call issues, and the reply that refuses it. -/

/-- The operations that look for a duplicate look for the one of the call. -/
def CrudCall.Issues (call : CrudCall) : Operation → Prop
  | .insertCompany row => ∃ data, call = .createCompany data ∧ row.ticker = data.ticker
  | .selectBalanceSheet companyId year | .insertBalanceSheet companyId year _ =>
      ∃ fetch ticker, call = .importBalanceSheet fetch companyId year ticker
  | _ => True

abbrev Refused {α : Type} (result : Except Failure α) : Prop :=
  ∃ failure, result = .error failure ∧ failure.AlreadyExists

def Undecided (told : Program.History Reply) : Prop := ∀ entry ∈ told, ¬Refusal entry

def Decided {α : Type} (call : CrudCall) (told : Program.History Reply) (action : Action α) :
    Prop :=
  Program.Decided call.Issues Refusal Refused told (ExceptT.run action)

section Decided
variable {α β : Type} {call : CrudCall} {told : Program.History Reply}

theorem undecided_append (undecided : Undecided told) {op : Operation} {reply : Reply op}
    (goesOn : ¬Refusal ⟨op, reply⟩) : Undecided (told ++ [⟨op, reply⟩]) := by
  intro entry member
  rcases List.mem_append.mp member with old | new
  · exact undecided entry old
  · rw [List.mem_singleton] at new
    exact new ▸ goesOn

theorem not_refusal_of_undecided (undecided : Undecided told) : ¬∃ entry ∈ told, Refusal entry := by
  rintro ⟨entry, member, refusal⟩
  exact undecided entry member refusal

theorem decided_pure (undecided : Undecided told) (value : α) :
    Decided call told (pure value : Action α) := by
  refine ⟨?_, fun refusal => absurd refusal (not_refusal_of_undecided undecided)⟩
  rintro ⟨failure, ⟨⟩, _⟩

theorem decided_throw (undecided : Undecided told) {failure : Failure}
    (other : ¬failure.AlreadyExists) : Decided call told (throw failure : Action α) := by
  refine ⟨?_, fun refusal => absurd refusal (not_refusal_of_undecided undecided)⟩
  rintro ⟨_, ⟨⟩, isRefused⟩
  exact absurd isRefused other

theorem decided_refuse {op : Operation} {reply : Reply op} (refusal : Refusal ⟨op, reply⟩)
    {failure : Failure} (isRefused : failure.AlreadyExists) :
    Decided call (told ++ [⟨op, reply⟩]) (throw failure : Action α) :=
  ⟨fun _ => ⟨_, Program.told_last told op reply, refusal⟩, fun _ => ⟨failure, rfl, isRefused⟩⟩

theorem Decided.bind {action : Action α} {rest : α → Action β} (first : Decided call told action)
    (second : ∀ value later, Undecided later → Decided call later (rest value)) :
    Decided call told (action >>= rest) := by
  apply Raising.obeys_run_bind first
  · intro value later decided
    apply second value later
    intro entry member refusal
    obtain ⟨_, ⟨⟩, _⟩ := decided.mpr ⟨entry, member, refusal⟩
  · intro failure later decided
    rw [← decided]
    simp [Refused]

theorem decided_query_bind (undecided : Undecided told) {op : Operation} (issues : call.Issues op)
    {rest : Reply op → Action β}
    (later : ∀ reply, Decided call (told ++ [⟨op, reply⟩]) (rest reply)) :
    Decided call told (query op >>= rest) := ⟨⟨undecided, issues⟩, later⟩

theorem not_alreadyExists_of_head {detail : String}
    (other : detail.toList.head? ≠ some 'A' ∧ detail.toList.head? ≠ some 'B') :
    ¬(Failure.valueError detail).AlreadyExists := by
  rintro (⟨ticker, same⟩ | ⟨companyId, year, same⟩)
  · apply other.1
    rw [Failure.valueError.inj same]
    simp [toString_string]
  · apply other.2
    rw [Failure.valueError.inj same]
    simp [toString_string]

theorem groupOfParent_decided (undecided : Undecided told) (parentCompanyId : Option Int) :
    Decided call told (groupOfParent parentCompanyId) := by
  cases parentCompanyId with
  | none => exact decided_pure undecided _
  | some parentId =>
      have issues : call.Issues (.getCompany parentId) := trivial
      apply decided_query_bind undecided issues
      intro reply
      have still : Undecided (told ++ [⟨.getCompany parentId, reply⟩]) :=
        undecided_append undecided id
      cases reply with
      | none =>
          apply decided_throw still
          apply not_alreadyExists_of_head
          simp [toString_string]
      | some parent => exact decided_pure still _

theorem refreshCompany_decided (undecided : Undecided told) (id : Int) :
    Decided call told (refreshCompany id) := by
  have issues : call.Issues (.getCompany id) := trivial
  apply decided_query_bind undecided issues
  intro reply
  have still : Undecided (told ++ [⟨.getCompany id, reply⟩]) := undecided_append undecided nofun
  cases reply with
  | none => exact decided_throw still nofun
  | some company => exact decided_pure still company

theorem createCompany_decided (data : CompanyCreate) :
    Decided (.createCompany data) [] (createCompany data) := by
  apply (groupOfParent_decided (List.forall_mem_nil _) data.parentCompanyId).bind
  intro groupRootId later undecided
  let insert : Operation :=
    .insertCompany ⟨data.name, data.ticker, data.parentCompanyId, groupRootId⟩
  have issues : (CrudCall.createCompany data).Issues insert := ⟨data, rfl, rfl⟩
  apply decided_query_bind undecided issues
  intro reply
  cases reply with
  | ok id =>
      have still : Undecided (later ++ [⟨insert, .ok id⟩]) := undecided_append undecided nofun
      exact refreshCompany_decided still id
  | error failure =>
      have refusal : Refusal ⟨insert, .error failure⟩ := trivial
      exact decided_refuse refusal (.inl ⟨_, rfl⟩)

theorem fetchBalanceSheetRow_decided (undecided : Undecided told) (fetch : Fetch)
    (ticker : String) (year : Int) :
    Decided call told (fetchBalanceSheetRow fetch ticker year) := by
  unfold fetchBalanceSheetRow
  split
  · exact decided_pure undecided _
  · exact decided_throw undecided nofun

theorem refreshBalanceSheet_decided (undecided : Undecided told) (id : Int) :
    Decided call told (refreshBalanceSheet id) := by
  have issues : call.Issues (.getBalanceSheet id) := trivial
  apply decided_query_bind undecided issues
  intro reply
  have still : Undecided (told ++ [⟨.getBalanceSheet id, reply⟩]) :=
    undecided_append undecided nofun
  cases reply with
  | none => exact decided_throw still nofun
  | some sheet => exact decided_pure still sheet

theorem importBalanceSheet_decided (fetch : Fetch) (companyId year : Int) (ticker : String) :
    Decided (.importBalanceSheet fetch companyId year ticker) []
      (importBalanceSheet fetch companyId year ticker) := by
  let call : CrudCall := .importBalanceSheet fetch companyId year ticker
  have isTaken : (sheetExists companyId year).AlreadyExists := .inr ⟨companyId, year, rfl⟩
  have checks : call.Issues (.selectBalanceSheet companyId year) := ⟨fetch, ticker, rfl⟩
  rw [importBalanceSheet, getBalanceSheet, bind_assoc]
  apply decided_query_bind (List.forall_mem_nil _) checks
  intro reply
  cases reply with
  | cons first rest =>
      cases rest with
      | nil =>
          have refusal : Refusal ⟨.selectBalanceSheet companyId year, [first]⟩ := trivial
          exact decided_refuse refusal isTaken
      | cons second rest =>
          have still : Undecided [⟨.selectBalanceSheet companyId year, first :: second :: rest⟩] :=
            undecided_append (List.forall_mem_nil _) id
          apply decided_throw still
          rintro (⟨_, ⟨⟩⟩ | ⟨_, _, ⟨⟩⟩)
  | nil =>
      have still : Undecided [⟨.selectBalanceSheet companyId year, []⟩] :=
        undecided_append (List.forall_mem_nil _) id
      apply (fetchBalanceSheetRow_decided still fetch ticker year).bind
      intro result later undecided
      cases result with
      | none =>
          apply decided_throw undecided
          apply not_alreadyExists_of_head
          simp [toString_string]
      | some fields =>
          let insert : Operation := .insertBalanceSheet companyId year (knownFields fields)
          have issues : call.Issues insert := ⟨fetch, ticker, rfl⟩
          apply decided_query_bind undecided issues
          intro reply
          cases reply with
          | ok id =>
              have accepted : ¬Refusal ⟨insert, .ok id⟩ := fun refusal => refusal
              exact refreshBalanceSheet_decided (undecided_append undecided accepted) id
          | error failure =>
              have refusal : Refusal ⟨insert, .error failure⟩ := trivial
              exact decided_refuse refusal isTaken

theorem decided_query (undecided : Undecided told) {op : Operation} (issues : call.Issues op)
    (goesOn : ∀ reply, ¬Refusal ⟨op, reply⟩) : Decided call told (query op) :=
  decided_query_bind undecided issues fun reply =>
    decided_pure (undecided_append undecided (goesOn reply)) reply

theorem deleteCompany_decided (company : Company) :
    Decided (.deleteCompany company) [] (deleteCompany company) := by
  let call : CrudCall := .deleteCompany company
  have counts : call.Issues (.countSubsidiaries company.id) := trivial
  apply decided_query_bind (List.forall_mem_nil _) counts
  intro reply
  have still : Undecided [⟨.countSubsidiaries company.id, reply⟩] :=
    undecided_append (List.forall_mem_nil _) nofun
  split
  · apply decided_throw still
    apply not_alreadyExists_of_head
    simp [toString_string]
  · have deletes : call.Issues (.deleteCompany company.id) := trivial
    exact decided_query still deletes nofun

theorem CrudCall.run_decided (call : CrudCall) : Decided call [] call.run := by
  have ignored {α : Type} {action : Action α} (decided : Decided call [] action) :
      Decided call [] action.ignore :=
    decided.bind fun _ _ undecided => decided_pure undecided ()
  cases call with
  | createCompany data => exact ignored (createCompany_decided data)
  | importBalanceSheet fetch companyId year ticker =>
      exact ignored (importBalanceSheet_decided fetch companyId year ticker)
  | deleteCompany company => exact deleteCompany_decided company
  | deleteBalanceSheet sheet =>
      have deletes : (CrudCall.deleteBalanceSheet sheet).Issues (.deleteBalanceSheet sheet.id) :=
        trivial
      exact decided_query (List.forall_mem_nil _) deletes nofun

end Decided

/-! When an INSERT fails. -/

section Refusal
variable {db : Database} {store : Store}

theorem insertCompany_fails_iff (row : CompanyInsert) :
    (∃ failure, (Store.exec db (.insertCompany row) store).1 = .error failure) ↔
      (∃ company ∈ store.companies, company.ticker = row.ticker) ∨
        ¬ReferencePresent db store (.insertCompany row) := by
  have taken : store.companies.any (·.ticker = row.ticker) = true ↔
      ∃ company ∈ store.companies, company.ticker = row.ticker := by simp
  simp only [ReferencePresent, Store.exec, Store.insertCompany, Bool.or_eq_true, taken,
    Bool.not_eq_true', Bool.not_eq_true]
  split
  · rename_i fails
    exact iff_of_true ⟨_, rfl⟩ fails
  · rename_i succeeds
    refine iff_of_false ?_ succeeds
    rintro ⟨_, ⟨⟩⟩

theorem insertBalanceSheet_fails_iff (companyId year : Int) (figures : List (String × Figure)) :
    (∃ failure,
        (Store.exec db (.insertBalanceSheet companyId year figures) store).1 = .error failure) ↔
      (∃ sheet ∈ store.balanceSheets, sheet.companyId = companyId ∧ sheet.year = year) ∨
        ¬ReferencePresent db store (.insertBalanceSheet companyId year figures) := by
  have taken : store.balanceSheets.any (Store.sheetKey · = (companyId, year)) = true ↔
      ∃ sheet ∈ store.balanceSheets, sheet.companyId = companyId ∧ sheet.year = year := by
    simp [Store.sheetKey]
  have absent : (store.findCompany companyId).isNone = true ↔
      ¬∃ company ∈ store.companies, company.id = companyId := by
    simp [Store.findCompany, Option.isNone_iff_eq_none]
  simp only [ReferencePresent, Store.exec, Store.insertBalanceSheet, Bool.or_eq_true, taken, absent]
  split
  · rename_i fails
    exact iff_of_true ⟨_, rfl⟩ fails.symm
  · rename_i succeeds
    refine iff_of_false ?_ (mt Or.symm succeeds)
    rintro ⟨_, ⟨⟩⟩

theorem refusal_selectBalanceSheet (wf : Store.WellFormed db store) (companyId year : Int) :
    Refusal ⟨.selectBalanceSheet companyId year, store.selectBalanceSheet companyId year⟩ ↔
      ∃ sheet ∈ store.balanceSheets, sheet.companyId = companyId ∧ sheet.year = year := by
  have present : store.sheetAt (companyId, year) = none ↔
      ¬∃ sheet ∈ store.balanceSheets, sheet.companyId = companyId ∧ sheet.year = year := by
    simp [Store.sheetAt, Store.sheetKey]
  rw [wf.selectBalanceSheet]
  cases found : store.sheetAt (companyId, year) with
  | none => exact iff_of_false id (present.mp found)
  | some sheet =>
      refine iff_of_true trivial (not_not.mp (mt present.mpr ?_))
      rw [found]
      exact Option.some_ne_none _

/-- The reply that refuses a call is its check finding the row, or its INSERT
failing for either reason. -/
theorem refusal_iff (wf : Store.WellFormed db store) {call : CrudCall} {op : Operation}
    (issues : call.Issues op) :
    Refusal ⟨op, (Store.exec db op store).1⟩ ↔
      (CheckOrFailedInsert ⟨op, (Store.exec db op store).1⟩ ∧ call.Taken store) ∨
        ¬ReferencePresent db store op ∧ ¬call.Taken store := by
  have ofInsert {refusal looks taken present : Prop} (same : looks ↔ refusal)
      (fails : refusal ↔ taken ∨ ¬present) :
      refusal ↔ looks ∧ taken ∨ ¬present ∧ ¬taken := by
    tauto
  cases op with
  | selectBalanceSheet companyId year =>
      obtain ⟨fetch, ticker, rfl⟩ := issues
      refine (refusal_selectBalanceSheet wf companyId year).trans ?_
      simp [CheckOrFailedInsert, ReferencePresent, CrudCall.Taken]
  | insertCompany row =>
      obtain ⟨data, rfl, sameTicker⟩ := issues
      have fails := @insertCompany_fails_iff db store row
      rw [sameTicker] at fails
      apply ofInsert
      · cases (Store.exec db (.insertCompany row) store).1 <;> rfl
      · refine Iff.trans ?_ fails
        cases (Store.exec db (.insertCompany row) store).1 <;> simp [Refusal]
  | insertBalanceSheet companyId year figures =>
      obtain ⟨fetch, ticker, rfl⟩ := issues
      have fails := @insertBalanceSheet_fails_iff db store companyId year figures
      apply ofInsert
      · cases (Store.exec db (.insertBalanceSheet companyId year figures) store).1 <;> rfl
      · refine Iff.trans ?_ fails
        cases (Store.exec db (.insertBalanceSheet companyId year figures) store).1 <;>
          simp [Refusal]
  | _ =>
      apply iff_of_false
      · exact nofun
      · rintro (⟨⟨⟩, _⟩ | ⟨absent, _⟩)
        exact absent trivial

end Refusal

/-- No ticker, and no year of a company, has two rows. -/
structure AtMostOneRow (store : Store) : Prop where
  ticker : ∀ ticker, (store.companies.filter (·.ticker = ticker)).length ≤ 1
  year : ∀ companyId year, (store.selectBalanceSheet companyId year).length ≤ 1

theorem atMostOneRow {db : Database} {store : Store} (wf : Store.WellFormed db store) :
    AtMostOneRow store := by
  constructor
  · intro ticker
    rw [Table.filter_key wf.tickers]
    exact Option.length_toList_le
  · intro companyId year
    rw [wf.selectBalanceSheet]
    exact Option.length_toList_le

/-- Any calls in any interleaving leave at most one row for a ticker and for a
year of a company.  Every message that a row exists already is true if and only
if every INSERT finds the row of its foreign key, or the one it repeats. -/
theorem alreadyExists_truthful_iff {ι : Type} [DecidableEq ι] {db : Database} {store : Store}
    (wf : Store.WellFormed db store) (calls : ι → CrudCall) (schedule : List ι) :
    let run := (crudPool calls store).runSchedule (Store.exec db) schedule
    let trace := (crudPool calls store).trace (Store.exec db) schedule
    AtMostOneRow run.state ∧
      ((∀ i failure, run.threads i = .done (.error failure) → failure.AlreadyExists →
          ∃ e ∈ trace, e.thread = i ∧
            CheckOrFailedInsert ⟨e.op, (Store.exec db e.op e.before).1⟩ ∧
            (calls i).Taken e.before) ↔
        ∀ e ∈ trace, ReferencePresent db e.before e.op ∨ (calls e.thread).Taken e.before) := by
  intro run trace
  have keeps (op : Operation) (store : Store) (wf : Store.WellFormed db store) :
      Store.WellFormed db (Store.exec db op store).2 := wf.exec op
  have decided (i : ι) : Program.Decided (calls i).Issues Refusal Refused []
      ((crudPool calls store).threads i) := (calls i).run_decided
  have wfAt {e : Event Operation Store ι} (member : e ∈ trace) : Store.WellFormed db e.before :=
    Pool.invariant_at keeps wf member
  have issues {e : Event Operation Store ι} (member : e ∈ trace) :
      (calls e.thread).Issues e.op := by
    obtain ⟨before, after, split⟩ := List.append_of_mem member
    exact (Pool.allowed_of_event decided split).2
  have refusal {e : Event Operation Store ι} (member : e ∈ trace) :=
    refusal_iff (wfAt member) (issues member)
  have always (op : Operation) (state : Store) (wf : Store.WellFormed db state) (_ : True) :
      Store.WellFormed db (Store.exec db op state).2 := wf.exec op
  have reached : Store.WellFormed db run.state :=
    Pool.runSchedule_invariant always wf schedule fun _ _ => trivial
  refine ⟨atMostOneRow reached, fun truthful e member => ?_,
    fun present i failure ended isTaken => ?_⟩
  · by_contra unfounded
    rw [not_or] at unfounded
    have refuses := (refusal member).mpr (.inr unfounded)
    obtain ⟨_, ended, failure, rfl, isTaken⟩ :=
      (Pool.verdict_iff decided schedule e.thread).mpr ⟨e, member, rfl, refuses⟩
    obtain ⟨other, otherIn, sameThread, looks, taken⟩ :=
      truthful e.thread failure ended isTaken
    have otherRefuses := (refusal otherIn).mpr (.inl ⟨looks, sameThread ▸ taken⟩)
    have same := Pool.decides_once decided otherIn member sameThread otherRefuses refuses
    exact unfounded.2 (same ▸ taken)
  · obtain ⟨e, member, rfl, refuses⟩ :=
      (Pool.verdict_iff decided schedule i).mp ⟨_, ended, failure, rfl, isTaken⟩
    rcases (refusal member).mp refuses with found | ⟨absent, free⟩
    · exact ⟨e, member, rfl, found⟩
    · exact absurd (present e member) (not_or.mpr ⟨absent, free⟩)

/-- Two creates for one ticker. -/
def rivals (_ : Bool) : CrudCall :=
  .createCompany ⟨⟨"Tata Consultancy Services", by decide⟩, ⟨"TCS", by decide⟩, none⟩

theorem alreadyExists_truthful_iff_rivals :
    let run := (crudPool rivals twoGroups).runSchedule (Store.exec .counting) [false, true]
    let trace := (crudPool rivals twoGroups).trace (Store.exec .counting) [false, true]
    AtMostOneRow run.state ∧
      ∀ i failure, run.threads i = .done (.error failure) → failure.AlreadyExists →
        ∃ e ∈ trace, e.thread = i ∧
          CheckOrFailedInsert ⟨e.op, (Store.exec .counting e.op e.before).1⟩ ∧
          (rivals i).Taken e.before := by
  have reached : Reached Database.counting twoGroups := ⟨_, rfl⟩
  have held := alreadyExists_truthful_iff reached.wellFormed rivals [false, true]
  refine ⟨held.1, held.2.mpr ?_⟩
  refine List.forall_mem_cons.mpr ⟨.inl rfl, ?_⟩
  exact List.forall_mem_cons.mpr ⟨.inl rfl, List.forall_mem_nil _⟩

/-- An import of company 2, and its deletion. -/
def importAndDelete : Bool → CrudCall
  | false => .importBalanceSheet (fun _ _ => .ok (some [("net_debt", .finite 5)])) 2 2024 "TATA"
  | true => .deleteCompany tata

/-- The company is deleted between the check and the INSERT. -/
theorem importAndDelete_untruthful :
    ¬∀ schedule i failure,
      ((crudPool importAndDelete twoGroups).runSchedule (Store.exec .counting) schedule).threads i =
          .done (.error failure) → failure.AlreadyExists →
        ∃ e ∈ (crudPool importAndDelete twoGroups).trace (Store.exec .counting) schedule,
          e.thread = i ∧ CheckOrFailedInsert ⟨e.op, (Store.exec .counting e.op e.before).1⟩ ∧
          (importAndDelete i).Taken e.before := by
  intro truthful
  obtain ⟨e, member, isImport, _, taken⟩ := truthful [false, true, true, false] false
    (sheetExists 2 2024) rfl (.inr ⟨2, 2024, rfl⟩)
  have empty : ∀ e ∈ (crudPool importAndDelete twoGroups).trace (Store.exec .counting)
      [false, true, true, false], e.before.balanceSheets = [] := by
    refine List.forall_mem_cons.mpr ⟨rfl, ?_⟩
    refine List.forall_mem_cons.mpr ⟨rfl, ?_⟩
    refine List.forall_mem_cons.mpr ⟨rfl, ?_⟩
    exact List.forall_mem_cons.mpr ⟨rfl, List.forall_mem_nil _⟩
  obtain ⟨sheet, stored, _⟩ := taken
  rw [empty e member] at stored
  cases stored

end BalanceSheetAnalysis

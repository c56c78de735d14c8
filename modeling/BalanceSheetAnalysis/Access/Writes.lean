import BalanceSheetAnalysis.Access.Documented
import BalanceSheetAnalysis.Store.Frame

/-! Checks and writes with other requests in between.  A route checks the caller
against the row it fetched and writes some steps later, without looking at the
row's group again. -/
namespace BalanceSheetAnalysis.Access
open Library Authorization BalanceSheetAnalysis.Action

/-- The company whose row or balance sheets an operation writes. -/
def writtenCompany (store : Store) : Operation → Option Int
  | .updateCompany loaded _ => some loaded.id
  | .deleteCompany id => some id
  | .insertBalanceSheet companyId _ _ => some companyId
  | .deleteBalanceSheet id => (store.findBalanceSheet id).map BalanceSheet.companyId
  | _ => none

/-- The operation leaves the stored row of the company in another group. -/
def Regrouped (db : Database) (companyId : Int) (op : Operation) (store : Store) : Prop :=
  ∃ company later, store.findCompany companyId = some company ∧
    (Store.exec db op store).2.findCompany companyId = some later ∧
    later.groupRootId ≠ company.groupRootId

/-- Only an UPDATE of the row does that. -/
theorem Regrouped.isUpdate {db : Database} {companyId : Int} {op : Operation} {store : Store}
    (wf : Store.WellFormed db store) (regrouped : Regrouped db companyId op store) :
    ∃ loaded current, op = .updateCompany loaded current ∧ loaded.id = companyId := by
  obtain ⟨company, later, isFound, isLater, moved⟩ := regrouped
  obtain ⟨inside, isCompany⟩ := Table.find_eq_some isFound
  obtain ⟨member, same⟩ := Table.find_eq_some isLater
  rcases Store.company_of_exec wf member with ⟨row, _, rfl⟩ | ⟨old, stored, became⟩
  · obtain ⟨n, below, isDrawn⟩ := wf.companyDrawn company inside
    have reused := db.companyIds.injective (isDrawn.symm.trans (isCompany.trans same.symm))
    omega
  · have isOld : old.id = companyId := became.id.symm.trans same
    obtain rfl : company = old :=
      List.inj_on_of_nodup_map wf.companyKeys inside stored (isCompany.trans isOld.symm)
    cases became with
    | untouched => exact absurd rfl moved
    | updated isUpdate isLoaded _ => exact ⟨_, _, isUpdate, isLoaded.trans isOld⟩
    | orphaned _ =>
        refine absurd ?_ moved
        unfold Store.orphaned
        split <;> rfl

section Stable
variable {db : Database} {store : Store}

/-- The id has been drawn, and a row under it has this group. -/
structure GroupStays (db : Database) (companyId groupRootId : Int) (store : Store) : Prop where
  wellFormed : Store.WellFormed db store
  drawn : ∃ n < store.companiesDrawn, companyId = db.companyIds n
  group : ∀ company ∈ store.companies, company.id = companyId → company.groupRootId = groupRootId

theorem groupStays_of_find (wf : Store.WellFormed db store) {company : Company} {companyId : Int}
    (found : store.findCompany companyId = some company) :
    GroupStays db companyId company.groupRootId store := by
  obtain ⟨member, rfl⟩ := wf.find_iff.mp found
  refine ⟨wf, wf.companyDrawn company member, fun other inside same => ?_⟩
  rw [List.inj_on_of_nodup_map wf.companyKeys inside member same]

theorem GroupStays.exec {companyId groupRootId : Int}
    (stays : GroupStays db companyId groupRootId store) {op : Operation}
    (keeps : ¬Regrouped db companyId op store) :
    GroupStays db companyId groupRootId (Store.exec db op store).2 := by
  obtain ⟨n, below, isDrawn⟩ := stays.drawn
  have wfLater := stays.wellFormed.exec op
  refine ⟨wfLater, ⟨n, below.trans_le Store.drawn_exec.1, isDrawn⟩, ?_⟩
  intro company member isCompany
  rcases Store.company_of_exec stays.wellFormed member with ⟨row, _, rfl⟩ | ⟨old, inside, became⟩
  · have reused := db.companyIds.injective (isDrawn.symm.trans isCompany.symm)
    omega
  · have isOld : old.id = companyId := became.id.symm.trans isCompany
    rw [← stays.group old inside isOld]
    by_contra moved
    exact keeps ⟨old, company, stays.wellFormed.find_iff.mpr ⟨inside, isOld⟩,
      wfLater.find_iff.mpr ⟨member, isCompany⟩, moved⟩

/-- The id has been drawn, and a sheet under it is one of this company. -/
structure SheetStays (db : Database) (sheetId companyId : Int) (store : Store) : Prop where
  wellFormed : Store.WellFormed db store
  drawn : ∃ n < store.sheetsDrawn, sheetId = db.sheetIds n
  company : ∀ sheet ∈ store.balanceSheets, sheet.id = sheetId → sheet.companyId = companyId

theorem sheetStays_of_mem (wf : Store.WellFormed db store) {sheet : BalanceSheet}
    (member : sheet ∈ store.balanceSheets) : SheetStays db sheet.id sheet.companyId store := by
  refine ⟨wf, wf.sheetDrawn sheet member, fun other inside same => ?_⟩
  rw [List.inj_on_of_nodup_map wf.sheetIdKeys inside member same]

theorem SheetStays.exec {sheetId companyId : Int} (stays : SheetStays db sheetId companyId store)
    (op : Operation) : SheetStays db sheetId companyId (Store.exec db op store).2 := by
  obtain ⟨n, below, isDrawn⟩ := stays.drawn
  refine ⟨stays.wellFormed.exec op, ⟨n, below.trans_le Store.drawn_exec.2, isDrawn⟩, ?_⟩
  intro sheet member isSheet
  rcases Store.sheet_of_exec member with ⟨_, _, _, _, rfl⟩ | old
  · have reused := db.sheetIds.injective (isDrawn.symm.trans isSheet.symm)
    omega
  · exact stays.company sheet old isSheet

end Stable

section Writes
variable {rt : Runtime} {activePolicies : String → List (Policy rt)}

/-- The write is on the company the request checked, as far as the request can
tell. -/
def OnChecked (told : Program.History Reply) (companyId : Int) (company : Company) :
    Operation → Prop
  | .updateCompany loaded _ => loaded = company
  | .deleteCompany id => id = company.id
  | .insertBalanceSheet id _ _ => id = companyId
  | .deleteBalanceSheet id => ∃ year sheet,
      Program.Told told (.selectBalanceSheet companyId year) [sheet] ∧ id = sheet.id
  | _ => False

/-- Creating a company is the one write not checked against a row. -/
theorem onChecked_of_mayWrite {call : Call} {told : Program.History Reply} {op : Operation}
    (may : MayWrite activePolicies call told op) :
    (∃ row, op = .insertCompany row) ∨ ∃ check company,
      call.endpoint.companyCheck = some check ∧
      Cleared activePolicies call.request check.action check.resourceType check.companyId told
        company ∧ OnChecked told check.companyId company op := by
  obtain ⟨request, endpoint⟩ := call
  cases endpoint with
  | addCompany data =>
      obtain ⟨_, _, rfl⟩ := may
      exact .inl ⟨_, rfl⟩
  | editCompany companyId data =>
      obtain ⟨company, _, cleared, _, rfl⟩ := may
      exact .inr ⟨_, company, rfl, cleared, rfl⟩
  | removeCompany companyId =>
      obtain ⟨company, cleared, _, rfl⟩ := may
      exact .inr ⟨_, company, rfl, cleared, rfl⟩
  | createCompanyBalanceSheet fetch companyId year =>
      obtain ⟨company, _, cleared, _, rfl⟩ := may
      exact .inr ⟨_, company, rfl, cleared, rfl⟩
  | deleteCompanyBalanceSheet companyId year =>
      obtain ⟨company, sheet, cleared, isTold, rfl⟩ := may
      exact .inr ⟨_, company, rfl, cleared, year, sheet, isTold, rfl⟩
  | _ => cases may

variable {ι : Type} [DecidableEq ι] {calls : ι → Call} {db : Database} {store : Store}
  {schedule : List ι} {before after : List (Event Operation Store ι)}
  {e : Event Operation Store ι}

/-- What the request took for the company it writes is the company it writes. -/
theorem writtenCompany_onChecked (wf : Store.WellFormed db store)
    (split : (inFlight activePolicies calls store).trace (Store.exec db) schedule =
      before ++ e :: after)
    {companyId checkedId : Int} {company : Company} (isCompany : company.id = checkedId)
    (onChecked : OnChecked (Pool.historyOf (Store.exec db) before e.thread) checkedId company e.op)
    (writes : writtenCompany e.before e.op = some companyId) : companyId = checkedId := by
  cases isOp : e.op with
  | updateCompany loaded current =>
      rw [isOp] at onChecked writes
      rw [← isCompany, ← show loaded = company from onChecked]
      exact (Option.some.inj writes).symm
  | deleteCompany id =>
      rw [isOp] at onChecked writes
      exact (Option.some.inj writes).symm.trans (onChecked.trans isCompany)
  | insertBalanceSheet id year figures =>
      rw [isOp] at onChecked writes
      exact (Option.some.inj writes).symm.trans onChecked
  | deleteBalanceSheet id =>
      rw [isOp] at onChecked writes
      obtain ⟨year, sheet, isTold, rfl⟩ := onChecked
      obtain ⟨found, member, answer⟩ := Pool.event_of_told isTold
      have selected : sheet ∈ found.selectBalanceSheet checkedId year := by
        rw [← show [sheet] = found.selectBalanceSheet checkedId year from answer]
        exact List.mem_singleton_self _
      obtain ⟨inside, isChecked, _⟩ := by
        simpa [Store.selectBalanceSheet] using selected
      have wfFound : Store.WellFormed db found := wellFormed_of_event wf split member
      obtain ⟨first, middle, rfl⟩ := List.append_of_mem member
      have keeps (op : Operation) (state : Store)
          (stays : SheetStays db sheet.id sheet.companyId state) (_ : True) := stays.exec op
      have stays : SheetStays db sheet.id sheet.companyId e.before :=
        Pool.invariant_between keeps split (sheetStays_of_mem wfFound inside) fun _ _ => trivial
      obtain ⟨stored, isStored, rfl⟩ := Option.map_eq_some_iff.mp writes
      obtain ⟨storedInside, storedId⟩ := Table.find_eq_some isStored
      rw [stays.company stored storedInside storedId, isChecked]
  | _ =>
      rw [isOp] at onChecked
      cases onChecked

/-- A company nobody regroups between two steps is still in the group the first
one read. -/
theorem groupStays_between (wf : Store.WellFormed db store) {thread : ι} {companyId : Int}
    {first middle : List (Event Operation Store ι)} {found : Store} {company : Company}
    (split : (inFlight activePolicies calls store).trace (Store.exec db) schedule =
      (first ++ ⟨thread, .getCompany companyId, found⟩ :: middle) ++ e :: after)
    (isFound : found.findCompany companyId = some company)
    (unmoved : ∀ between ∈ middle, ¬Regrouped db companyId between.op between.before) :
    GroupStays db companyId company.groupRootId e.before := by
  have wfFound : Store.WellFormed db found :=
    wellFormed_of_event wf split (List.mem_append_right _ (List.mem_cons_self ..))
  have keeps (op : Operation) (state : Store)
      (stays : GroupStays db companyId company.groupRootId state)
      (safe : ¬Regrouped db companyId op state) := stays.exec safe
  apply Pool.invariant_between keeps split (groupStays_of_find wfFound isFound)
  intro between inside
  rcases List.mem_cons.mp inside with rfl | later
  · intro regrouped
    obtain ⟨_, _, isUpdate, _⟩ := regrouped.isUpdate wfFound
    cases isUpdate
  · exact unmoved between later

/-- Only a PATCH of the company, by another request than one that has not written
yet, gives its row another group. -/
theorem editCompany_of_regrouped (wf : Store.WellFormed db store)
    (split : (inFlight activePolicies calls store).trace (Store.exec db) schedule =
      before ++ e :: after)
    (calm : ∀ earlier ∈ before, earlier.thread = e.thread → earlier.op.Quiet)
    {between : Event Operation Store ι} (inside : between ∈ before) {companyId : Int}
    (regrouped : Regrouped db companyId between.op between.before) :
    between.thread ≠ e.thread ∧
      ∃ data, (calls between.thread).endpoint = .editCompany companyId data := by
  have wfBetween : Store.WellFormed db between.before := wellFormed_of_event wf split inside
  obtain ⟨loaded, current, isUpdate, isLoaded⟩ := regrouped.isUpdate wfBetween
  have notQuiet : ¬between.op.Quiet := by
    rw [isUpdate]
    exact id
  refine ⟨fun own => notQuiet (calm between inside own), ?_⟩
  obtain ⟨first, middle, rfl⟩ := List.append_of_mem inside
  rw [List.append_assoc, List.cons_append] at split
  obtain ⟨_, may⟩ := mayWrite_of_event split notQuiet
  rw [isUpdate] at may
  obtain ⟨checkedId, data, _, isEdit, ⟨isTold, _⟩, _⟩ := mayWrite_updateCompany may
  obtain ⟨found, _, answer⟩ := Pool.event_of_told isTold
  have isFound : found.findCompany checkedId = some loaded := answer.symm
  have isChecked := (Table.find_eq_some isFound).2
  rw [isLoaded] at isChecked
  exact ⟨data, isChecked ▸ isEdit⟩

/-- If the operation is a write that takes effect, the caller's policies allow
it on the row stored when it does. -/
def AllowedAtCommit (activePolicies : String → List (Policy rt)) (calls : ι → Call)
    (db : Database) (e : Event Operation Store ι) : Prop :=
  (Store.exec db e.op e.before).2.data ≠ e.before.data → ∀ check companyId stored,
    (calls e.thread).endpoint.companyCheck = some check →
    writtenCompany e.before e.op = some companyId →
    e.before.findCompany companyId = some stored →
    Allows activePolicies (calls e.thread).request check.action check.resourceType companyId
      stored.groupRootId

/-- In any interleaving, every write to a company or its balance sheets is one
the caller's policies allow on the row the request itself read before; and on
the row stored when it is committed, unless the PATCH of another request left the
stored row in another group in between. -/
theorem written_allowed_as_read (wf : Store.WellFormed db store)
    (split : (inFlight activePolicies calls store).trace (Store.exec db) schedule =
      before ++ e :: after)
    {companyId : Int} (writes : writtenCompany e.before e.op = some companyId) :
    ∃ check company first middle found,
      (calls e.thread).endpoint.companyCheck = some check ∧ check.companyId = companyId ∧
      before = first ++ ⟨e.thread, .getCompany companyId, found⟩ :: middle ∧
      found.findCompany companyId = some company ∧
      Allows activePolicies (calls e.thread).request check.action check.resourceType companyId
        company.groupRootId ∧
      ((∃ between ∈ middle, between.thread ≠ e.thread ∧
          (∃ data, (calls between.thread).endpoint = .editCompany companyId data) ∧
          Regrouped db companyId between.op between.before) ∨
        ∀ stored, e.before.findCompany companyId = some stored →
          Allows activePolicies (calls e.thread).request check.action check.resourceType companyId
            stored.groupRootId) := by
  have notQuiet : ¬e.op.Quiet := by
    cases isOp : e.op with
    | insertCompany row => exact id
    | updateCompany loaded current => exact id
    | deleteCompany id => exact fun quiet => quiet
    | insertBalanceSheet companyId year figures => exact id
    | deleteBalanceSheet id => exact fun quiet => quiet
    | _ =>
        rw [isOp] at writes
        cases writes
  obtain ⟨calm, may⟩ := mayWrite_of_event split notQuiet
  rcases onChecked_of_mayWrite may with ⟨row, isInsert⟩ |
    ⟨check, company, isCheck, ⟨isTold, allows⟩, onChecked⟩
  · rw [isInsert] at writes
    cases writes
  obtain ⟨found, member, answer⟩ := Pool.event_of_told isTold
  have isFound : found.findCompany check.companyId = some company := answer.symm
  have isCompany := (Table.find_eq_some isFound).2
  obtain rfl := writtenCompany_onChecked wf split isCompany onChecked writes
  rw [isCompany] at allows
  obtain ⟨first, middle, rfl⟩ := List.append_of_mem member
  refine ⟨check, company, first, middle, found, isCheck, rfl, rfl, isFound, allows, ?_⟩
  by_cases moved : ∃ between ∈ middle, Regrouped db check.companyId between.op between.before
  · obtain ⟨between, inside, regrouped⟩ := moved
    obtain ⟨stranger, isEdit⟩ := editCompany_of_regrouped wf split calm
      (List.mem_append_right _ (List.mem_cons_of_mem _ inside)) regrouped
    exact .inl ⟨between, inside, stranger, isEdit, regrouped⟩
  · push Not at moved
    refine .inr fun stored isStored => ?_
    have stays := groupStays_between wf split isFound moved
    obtain ⟨storedInside, storedId⟩ := Table.find_eq_some isStored
    rw [stays.group stored storedInside storedId]
    exact allows

end Writes

/-! An analyst of group 1 renames company 3 while an administrator moves it to
group 2. -/

def analystAndAdmin (userEmail : String) : List (Policy utcRuntime) :=
  if userEmail = "analyst@example.com" then [policyNaming [COMPANY_UPDATE] "group_root_id" 1]
  else [policyForAll [COMPANY_UPDATE]]

def renameAndMove : Bool → Call
  | false => ⟨⟨"analyst@example.com", none, epoch⟩,
      .editCompany 3 ⟨some (some ⟨"Jio", by decide⟩), none, none⟩⟩
  | true => ⟨⟨"admin@example.com", none, epoch⟩,
      .editCompany 3 ⟨none, none, some (some 2)⟩⟩

/-- The move happens after the analyst's row is checked and before it is written. -/
def moveBetween : List Bool := [false, false, true, true, true, true, true]

theorem written_allowed_as_read_moveBetween :
    ∃ e, (inFlight analystAndAdmin renameAndMove twoGroups).trace
        (Store.exec Database.counting) (moveBetween ++ [false]) =
          (inFlight analystAndAdmin renameAndMove twoGroups).trace
            (Store.exec Database.counting) moveBetween ++ [e] ∧
      ∃ check company first middle found,
        (renameAndMove e.thread).endpoint.companyCheck = some check ∧ check.companyId = 3 ∧
        (inFlight analystAndAdmin renameAndMove twoGroups).trace
          (Store.exec Database.counting) moveBetween =
            first ++ ⟨e.thread, .getCompany 3, found⟩ :: middle ∧
        found.findCompany 3 = some company ∧
        Allows analystAndAdmin (renameAndMove e.thread).request check.action check.resourceType 3
          company.groupRootId ∧
        ((∃ between ∈ middle, between.thread ≠ e.thread ∧
            (∃ data, (renameAndMove between.thread).endpoint = .editCompany 3 data) ∧
            Regrouped Database.counting 3 between.op between.before) ∨
          ∀ stored, e.before.findCompany 3 = some stored →
            Allows analystAndAdmin (renameAndMove e.thread).request check.action
              check.resourceType 3 stored.groupRootId) := by
  have wf : Store.WellFormed Database.counting twoGroups := Reached.wellFormed ⟨_, rfl⟩
  have split := Pool.trace_append (Store.exec Database.counting)
    (inFlight analystAndAdmin renameAndMove twoGroups) moveBetween [false]
  exact ⟨_, split, written_allowed_as_read wf split rfl⟩

theorem renamed_after_move :
    ¬∀ e ∈ (inFlight analystAndAdmin renameAndMove twoGroups).trace
        (Store.exec Database.counting) (moveBetween ++ [false]),
      AllowedAtCommit analystAndAdmin renameAndMove Database.counting e := by
  intro always
  have renamed := always _ (List.mem_of_getElem? (show (Pool.trace _ _ _)[7]? = some _ from rfl))
  have allowed := renamed (by decide) _ 3 _ rfl rfl rfl
  revert allowed
  decide

end BalanceSheetAnalysis.Access

import BalanceSheetAnalysis.Access.Documented

/-! The hierarchy while requests interleave.  The guards of a write are read in
earlier steps and nothing looks at them again when it is committed; the
hierarchy survives as long as they are then still true. -/
namespace BalanceSheetAnalysis
open Library Authorization Access BalanceSheetAnalysis.Action

/-- No cycle, and a child repeats the group of its parent. -/
def Consistent (store : Store) : Prop :=
  Forest.Acyclic (parentOf store) ∧
    ∀ child ∈ store.companies, ∀ parent ∈ store.companies,
      child.parentCompanyId = some parent.id → child.groupRootId = parent.groupRootId

/-- The guards of a write, asked of the store it is committed to: the parent
still has the group that was read, and a row that moves still has no
subsidiaries and, where its group is left as loaded, the group it was loaded
with. -/
def StillGuarded (store : Store) : Operation → Prop
  | .insertCompany row => GroupNow store row.parentCompanyId row.groupRootId
  | .updateCompany loaded current =>
      current.parentCompanyId = loaded.parentCompanyId ∨
        Childless store loaded.id ∧
        (∃ groupRootId, GroupNow store current.parentCompanyId groupRootId ∧
          current.groupRootId = groupRootId.getD loaded.id) ∧
        (current.groupRootId = loaded.groupRootId → ∀ stored,
          store.findCompany loaded.id = some stored → stored.groupRootId = loaded.groupRootId)
  | .deleteCompany id => Childless store id
  | _ => True

section Concurrency
variable {rt : Runtime} {activePolicies : String → List (Policy rt)} {db : Database}
  {store : Store} {told : Program.History Reply}

/-- The row an UPDATE leaves keeps its place or stands right. -/
theorem stillGuarded_row {loaded stored row : Company} {current : CompanyDraft}
    {requested : Option (Option Int)}
    (placed : Placed told loaded requested (current.parentCompanyId, current.groupRootId))
    (guarded : StillGuarded store (.updateCompany loaded current))
    (found : store.findCompany loaded.id = some stored)
    (isWritten : Store.flushed loaded current stored = some row) :
    row.parentCompanyId = stored.parentCompanyId ∧ row.groupRootId = stored.groupRootId ∨
      Childless store row.id ∧ StandsRight store row := by
  obtain ⟨parentWritten, groupWritten⟩ := Store.flushed_place isWritten
  have rowId : row.id = loaded.id :=
    (Store.flushed_id isWritten).trans (Table.find_eq_some found).2
  rcases placed with unmoved | ⟨_, moves, other, _⟩
  · obtain ⟨sameParent, sameGroup⟩ := Prod.mk.inj unmoved
    rw [Store.written, if_pos sameParent] at parentWritten
    rw [Store.written, if_pos sameGroup] at groupWritten
    exact .inl ⟨parentWritten, groupWritten⟩
  · obtain ⟨childless, ⟨groupRootId, now, isGroup⟩, kept⟩ := guarded.resolve_left moves
    rw [Store.written, if_neg moves] at parentWritten
    have isCurrent : row.groupRootId = current.groupRootId := by
      rw [groupWritten, Store.written]
      split
      · rename_i same
        rw [kept same stored found, same]
      · rfl
    refine .inr ⟨rowId ▸ childless, ?_, groupRootId, parentWritten ▸ now, ?_⟩
    · rw [parentWritten, rowId]
      exact other
    · rw [isCurrent, isGroup, rowId]

/-- One committed step. -/
theorem Hierarchy.exec_stillGuarded (hierarchy : Hierarchy store)
    (wf : Store.WellFormed db store) {call : Call} {op : Operation}
    (permitted : Program.WritesOnce Operation.Quiet (MayWrite activePolicies call) told op)
    (guarded : StillGuarded store op) : Hierarchy (Store.exec db op store).2 := by
  rcases permitted with quiet | ⟨_, may⟩
  · exact hierarchy_congr (congrArg Prod.fst (Store.exec_quiet db op store quiet)) hierarchy
  cases op with
  | insertCompany row => exact hierarchy.insertCompany wf guarded
  | updateCompany loaded current =>
      obtain ⟨_, data, place, _, _, placed, rfl⟩ := mayWrite_updateCompany may
      exact hierarchy.updateCompany wf fun stored row found isWritten =>
        stillGuarded_row placed guarded found isWritten
  | deleteCompany id => exact hierarchy.deleteCompany wf guarded
  | insertBalanceSheet companyId year figures =>
      exact hierarchy_congr (Store.insertBalanceSheet_companies ..) hierarchy
  | _ => refine hierarchy_congr ?_ hierarchy; rfl

/-- Any number of requests, in any interleaving in which every write that takes
effect finds its guards still true: the hierarchy stays consistent. -/
theorem consistent_of_stillGuarded {ι : Type} [DecidableEq ι] (wf : Store.WellFormed db store)
    (hierarchy : Hierarchy store) (calls : ι → Call) (schedule : List ι)
    (guarded : ∀ e ∈ (inFlight activePolicies calls store).trace (Store.exec db) schedule,
      (Store.exec db e.op e.before).2.data ≠ e.before.data → StillGuarded e.before e.op) :
    Consistent
      ((inFlight activePolicies calls store).runSchedule (Store.exec db) schedule).state := by
  have start : Store.WellFormed db (inFlight activePolicies calls store).state ∧
      Hierarchy (inFlight activePolicies calls store).state := ⟨wf, hierarchy⟩
  have keeps (i : ι) (told : Program.History Reply) (op : Operation) (state : Store)
      (permitted : Program.WritesOnce Operation.Quiet (MayWrite activePolicies (calls i)) told op)
      (sound : Store.WellFormed db state ∧ Hierarchy state)
      (safe : (Store.exec db op state).2.data ≠ state.data → StillGuarded state op) :
      Store.WellFormed db (Store.exec db op state).2 ∧ Hierarchy (Store.exec db op state).2 := by
    refine ⟨sound.1.exec op, ?_⟩
    by_cases unchanged : (Store.exec db op state).2.data = state.data
    · exact hierarchy_congr (congrArg Prod.fst unchanged) sound.2
    · exact sound.2.exec_stillGuarded sound.1 permitted (safe unchanged)
  obtain ⟨_, reached⟩ := Pool.invariant_runSchedule start inFlight_obeys keeps schedule guarded
  exact ⟨reached.grounded.acyclic, reached.childGroup⟩

end Concurrency

/-! Two moves at once: company 2 under company 3, and company 3 under company 2. -/

def adminPolicies (_userEmail : String) : List (Policy utcRuntime) :=
  [policyForAll [COMPANY_CREATE, COMPANY_UPDATE, COMPANY_DELETE]]

def admin : Request := ⟨"admin@example.com", none, epoch⟩

def crossMoves : Bool → Call
  | false => ⟨admin, .editCompany 2 ⟨none, none, some (some 3)⟩⟩
  | true => ⟨admin, .editCompany 3 ⟨none, none, some (some 2)⟩⟩

theorem consistent_of_stillGuarded_crossMoves :
    Consistent ((inFlight adminPolicies crossMoves twoGroups).runSchedule
      (Store.exec Database.counting) [false, false, false, false, false]).state := by
  have reached : Reached Database.counting twoGroups := ⟨_, rfl⟩
  apply consistent_of_stillGuarded reached.wellFormed reached.hierarchy crossMoves _
  refine List.forall_mem_cons.mpr ⟨fun _ => trivial, ?_⟩
  refine List.forall_mem_cons.mpr ⟨fun _ => trivial, ?_⟩
  refine List.forall_mem_cons.mpr ⟨fun _ => trivial, ?_⟩
  refine List.forall_mem_cons.mpr ⟨fun _ => trivial, ?_⟩
  refine List.forall_mem_cons.mpr ⟨fun _ => ?_, List.forall_mem_nil _⟩
  refine .inr ⟨?_, ⟨some 1, ⟨_, rfl, rfl⟩, rfl⟩, fun same => absurd same (by decide)⟩
  intro company member
  revert company
  decide

/-- Both pass their guards before either commits. -/
theorem crossMoves_cycle :
    ¬∀ schedule, Consistent ((inFlight adminPolicies crossMoves twoGroups).runSchedule
      (Store.exec Database.counting) schedule).state := by
  intro always
  obtain ⟨acyclic, _⟩ := always [false, false, false, false, true, true, true, true, false, true]
  refine acyclic 2 (.tail (.single (show parentOf _ 2 = some 3 from rfl)) ?_)
  exact show parentOf _ 3 = some 2 from rfl

end BalanceSheetAnalysis

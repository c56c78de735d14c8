import BalanceSheetAnalysis.Companies.Crud
import BalanceSheetAnalysis.Library.Forest

/-! The hierarchy of companies: what `group_root_id` caches, and the guards of
the three writes under which the cache stays right. -/
namespace BalanceSheetAnalysis
open Library BalanceSheetAnalysis.Action

def parentOf (store : Store) (id : Int) : Option Int :=
  (store.findCompany id).bind Company.parentCompanyId

/-- Parent links form a forest and every row repeats the group of its parent. -/
structure Hierarchy (store : Store) : Prop where
  grounded : Forest.Grounded (parentOf store)
  rootGroup : ∀ company ∈ store.companies, company.parentCompanyId = none →
    company.groupRootId = company.id
  childGroup : ∀ company ∈ store.companies, ∀ parent ∈ store.companies,
    company.parentCompanyId = some parent.id → company.groupRootId = parent.groupRootId

theorem hierarchy_empty : Hierarchy Store.empty where
  grounded := Forest.grounded_empty
  rootGroup := nofun
  childGroup := nofun

section Meaning
variable {db : Database} {store : Store}

theorem parentOf_of_mem (wf : Store.WellFormed db store) {company : Company}
    (member : company ∈ store.companies) :
    parentOf store company.id = company.parentCompanyId := by
  rw [parentOf, wf.find_iff.mpr ⟨member, rfl⟩]
  rfl

/-- The cached group is the end of the walk up. -/
theorem Hierarchy.top (hierarchy : Hierarchy store) (wf : Store.WellFormed db store)
    {company : Company} (member : company ∈ store.companies) :
    Forest.Top (parentOf store) company.id company.groupRootId := by
  let label (id : Int) : Int := ((store.findCompany id).map Company.groupRootId).getD id
  have label_of_mem {other : Company} (inside : other ∈ store.companies) :
      label other.id = other.groupRootId := by
    simp only [label, wf.find_iff.mpr ⟨inside, rfl⟩, Option.map_some, Option.getD_some]
  rw [← label_of_mem member]
  refine Forest.top_label hierarchy.grounded (fun id => ∃ other ∈ store.companies, other.id = id)
    label ?_ ?_ company.id ⟨company, member, rfl⟩
  · rintro _ ⟨other, inside, rfl⟩ isRoot
    rw [parentOf_of_mem wf inside] at isRoot
    rw [label_of_mem inside, hierarchy.rootGroup other inside isRoot]
  · rintro _ parentId ⟨other, inside, rfl⟩ up
    rw [parentOf_of_mem wf inside] at up
    obtain ⟨parent, parentInside, rfl⟩ := wf.parents other inside parentId up
    refine ⟨⟨parent, parentInside, rfl⟩, ?_⟩
    rw [label_of_mem inside, label_of_mem parentInside]
    exact hierarchy.childGroup other inside parent parentInside up

end Meaning

/-! The three ways one row changes. -/

section Edits
variable {db : Database} {store later : Store}

/-- The group of a row's parent as it is stored; `none` without a parent. -/
def GroupNow (store : Store) (parentCompanyId groupRootId : Option Int) : Prop :=
  match parentCompanyId with
  | none => groupRootId = none
  | some parentId => ∃ parent, store.findCompany parentId = some parent ∧
      groupRootId = some parent.groupRootId

/-- A row may stand here: under another row, with that row's group, or at the
top, with its own id for a group. -/
def StandsRight (store : Store) (row : Company) : Prop :=
  row.parentCompanyId ≠ some row.id ∧
    ∃ groupRootId, GroupNow store row.parentCompanyId groupRootId ∧
      row.groupRootId = groupRootId.getD row.id

def Childless (store : Store) (id : Int) : Prop :=
  ∀ company ∈ store.companies, company.parentCompanyId ≠ some id

theorem Childless.parentOf {id : Int} (childless : Childless store id) (other : Int) :
    parentOf store other ≠ some id := by
  intro up
  obtain ⟨company, found, hangs⟩ := Option.bind_eq_some_iff.mp up
  exact childless company (Table.find_eq_some found).1 hangs

theorem mem_edited (wf : Store.WellFormed db store) (wfLater : Store.WellFormed db later)
    {id : Int} {row : Option Company}
    (edited : later.findCompany = Function.update store.findCompany id row) {company : Company}
    (member : company ∈ later.companies) :
    company.id = id ∧ row = some company ∨ company.id ≠ id ∧ company ∈ store.companies := by
  have found := wfLater.find_iff.mpr ⟨member, rfl⟩
  rw [edited, Function.update_apply] at found
  split at found
  · rename_i same
    exact .inl ⟨same, found⟩
  · rename_i away
    exact .inr ⟨away, (wf.find_iff.mp found).1⟩

theorem parentOf_edited {id : Int} {row : Option Company}
    (edited : later.findCompany = Function.update store.findCompany id row) :
    parentOf later = Function.update (parentOf store) id (row.bind Company.parentCompanyId) := by
  funext other
  rw [parentOf, edited, Function.update_apply, Function.update_apply, parentOf]
  split <;> rfl

/-- A row nobody hangs under takes any right place. -/
theorem Hierarchy.place (hierarchy : Hierarchy store) (wf : Store.WellFormed db store)
    (wfLater : Store.WellFormed db later) {row : Company}
    (edited : later.findCompany = Function.update store.findCompany row.id (some row))
    (childless : Childless store row.id) (right : StandsRight store row) : Hierarchy later := by
  obtain ⟨other, groupRootId, now, grouped⟩ := right
  refine ⟨?_, ?_, ?_⟩
  · rw [parentOf_edited edited]
    exact hierarchy.grounded.update childless.parentOf other
  · intro company member isRoot
    rcases mem_edited wf wfLater edited member with ⟨_, same⟩ | ⟨_, old⟩
    · cases same
      rw [isRoot] at now
      rw [grouped, show groupRootId = none from now]
      rfl
    · exact hierarchy.rootGroup company old isRoot
  · intro company member parent parentMember hangs
    rcases mem_edited wf wfLater edited member with ⟨_, same⟩ | ⟨_, old⟩
    · cases same
      rcases mem_edited wf wfLater edited parentMember with ⟨isRow, _⟩ | ⟨_, parentOld⟩
      · exact absurd (isRow ▸ hangs) other
      · rw [hangs] at now
        obtain ⟨found, isFound, rfl⟩ := now
        rw [wf.find_iff.mpr ⟨parentOld, rfl⟩] at isFound
        cases isFound
        rw [grouped, Option.getD_some]
    · rcases mem_edited wf wfLater edited parentMember with ⟨isRow, _⟩ | ⟨_, parentOld⟩
      · exact absurd (isRow ▸ hangs) (childless company old)
      · exact hierarchy.childGroup company old parent parentOld hangs

/-- A row that keeps its place may change its other columns. -/
theorem Hierarchy.rename (hierarchy : Hierarchy store) (wf : Store.WellFormed db store)
    (wfLater : Store.WellFormed db later) {row stored : Company}
    (edited : later.findCompany = Function.update store.findCompany row.id (some row))
    (found : store.findCompany row.id = some stored)
    (sameParent : row.parentCompanyId = stored.parentCompanyId)
    (sameGroup : row.groupRootId = stored.groupRootId) : Hierarchy later := by
  obtain ⟨storedMember, storedId⟩ := wf.find_iff.mp found
  have old {company : Company} (member : company ∈ later.companies) :
      ∃ before ∈ store.companies, before.id = company.id ∧
        before.parentCompanyId = company.parentCompanyId ∧
        before.groupRootId = company.groupRootId := by
    rcases mem_edited wf wfLater edited member with ⟨_, same⟩ | ⟨_, inside⟩
    · cases same
      exact ⟨stored, storedMember, storedId, sameParent.symm, sameGroup.symm⟩
    · exact ⟨company, inside, rfl, rfl, rfl⟩
  refine ⟨?_, ?_, ?_⟩
  · have unmoved : parentOf later = parentOf store := by
      rw [parentOf_edited edited, Function.update_eq_self_iff, parentOf, found]
      exact sameParent
    rw [unmoved]
    exact hierarchy.grounded
  · intro company member isRoot
    obtain ⟨before, inside, sameId, parent, group⟩ := old member
    rw [← group, ← sameId]
    exact hierarchy.rootGroup before inside (parent.trans isRoot)
  · intro company member parent parentMember hangs
    obtain ⟨before, inside, _, up, group⟩ := old member
    obtain ⟨beforeParent, parentInside, parentId, _, parentGroup⟩ := old parentMember
    rw [← group, ← parentGroup]
    exact hierarchy.childGroup before inside beforeParent parentInside
      (by rw [up, hangs, parentId])

/-- A row nobody hangs under may go. -/
theorem Hierarchy.drop (hierarchy : Hierarchy store) (wf : Store.WellFormed db store)
    (wfLater : Store.WellFormed db later) {id : Int}
    (edited : later.findCompany = Function.update store.findCompany id none)
    (childless : Childless store id) : Hierarchy later := by
  have old {company : Company} (member : company ∈ later.companies) :
      company ∈ store.companies :=
    (mem_edited wf wfLater edited member).elim (fun gone => nomatch gone.2) And.right
  refine ⟨?_, ?_, ?_⟩
  · rw [parentOf_edited edited]
    exact hierarchy.grounded.update childless.parentOf nofun
  · exact fun company member => hierarchy.rootGroup company (old member)
  · exact fun company member parent parentMember =>
      hierarchy.childGroup company (old member) parent (old parentMember)

/-! The three writes. -/

theorem Hierarchy.insertCompany (hierarchy : Hierarchy store) (wf : Store.WellFormed db store)
    {row : CompanyInsert} (now : GroupNow store row.parentCompanyId row.groupRootId) :
    Hierarchy (Store.insertCompany db row store).2 := by
  rcases Store.insertCompany_cases db row store with failed | ⟨_, _, committed⟩
  · rw [failed]
    exact ⟨hierarchy.grounded, hierarchy.rootGroup, hierarchy.childGroup⟩
  · have wfLater := wf.insertCompany row
    rw [committed] at wfLater ⊢
    have newId := wf.fresh
    refine hierarchy.place wf wfLater (Store.findCompany_insert wf row _) ?_ ⟨?_, ?_⟩
    · intro company member hangs
      obtain ⟨parent, inside, same⟩ := wf.parents company member _ hangs
      exact newId parent inside same
    · intro self
      rw [show row.parentCompanyId = some (Store.inserted db row store).id from self] at now
      obtain ⟨parent, found, _⟩ := now
      obtain ⟨inside, same⟩ := wf.find_iff.mp found
      exact newId parent inside same
    · exact ⟨row.groupRootId, now, rfl⟩

theorem Hierarchy.updateCompany (hierarchy : Hierarchy store) (wf : Store.WellFormed db store)
    {loaded : Company} {current : CompanyDraft}
    (placed : ∀ stored row, store.findCompany loaded.id = some stored →
      Store.flushed loaded current stored = some row →
      row.parentCompanyId = stored.parentCompanyId ∧ row.groupRootId = stored.groupRootId ∨
        Childless store row.id ∧ StandsRight store row) :
    Hierarchy (Store.updateCompany loaded current store).2 := by
  have wfLater := wf.updateCompany loaded current
  rcases Store.updateCompany_cases loaded current store with same |
    ⟨stored, row, found, _, written, _, _, committed⟩
  · rw [same]
    exact hierarchy
  · rw [committed] at wfLater ⊢
    have edited := Store.findCompany_update found written
    rcases placed stored row found written with ⟨sameParent, sameGroup⟩ | ⟨childless, right⟩
    · have isLoaded := (Store.flushed_id written).trans (Table.find_eq_some found).2
      exact hierarchy.rename wf wfLater edited (isLoaded ▸ found) sameParent sameGroup
    · exact hierarchy.place wf wfLater edited childless right

theorem Hierarchy.deleteCompany (hierarchy : Hierarchy store) (wf : Store.WellFormed db store)
    {id : Int} (childless : Childless store id) : Hierarchy (Store.deleteCompany id store) :=
  hierarchy.drop wf (wf.deleteCompany id) (Store.findCompany_delete childless) childless

end Edits

/-! What the guards read, when no other request comes between. -/

section Alone
variable {db : Database} {store found later : Store} {told : Program.History Reply}

theorem hierarchy_congr (same : later.companies = store.companies) (hierarchy : Hierarchy store) :
    Hierarchy later := by
  have sameParent : parentOf later = parentOf store := by
    funext id
    rw [parentOf, parentOf, Store.findCompany, Store.findCompany, same]
  exact ⟨sameParent ▸ hierarchy.grounded, same ▸ hierarchy.rootGroup, same ▸ hierarchy.childGroup⟩

theorem GroupRead.now (answered : Answered db store told) {parentCompanyId groupRootId : Option Int}
    (read : GroupRead told parentCompanyId groupRootId) :
    GroupNow store parentCompanyId groupRootId := by
  cases parentCompanyId with
  | none => exact read
  | some parentId =>
      obtain ⟨parent, isTold, same⟩ := read
      exact ⟨parent, answered.getCompany isTold, same⟩

theorem childless_of_count {id : Int} (none : (store.subsidiaries id).length = 0) :
    Childless store id := by
  intro company member hangs
  have : company ∈ store.subsidiaries id :=
    List.mem_filter.mpr ⟨member, decide_eq_true hangs⟩
  rw [List.length_eq_zero_iff.mp none] at this
  cases this

/-- What the company operations write, given what they were told. -/
def Guarded (told : Program.History Reply) : Operation → Prop
  | .insertCompany row => GroupRead told row.parentCompanyId row.groupRootId
  | .updateCompany loaded current =>
      (∃ id, Program.Told told (.getCompany id) (some loaded)) ∧
        ∃ requested, Placed told loaded requested (current.parentCompanyId, current.groupRootId)
  | .deleteCompany id => Program.Told told (.countSubsidiaries id) 0
  | _ => True

/-- A guarded write keeps the hierarchy while what it was told is still true. -/
theorem Hierarchy.exec (hierarchy : Hierarchy store) (wf : Store.WellFormed db store)
    (answered : Answered db store told) {op : Operation} (guarded : Guarded told op) :
    Hierarchy (Store.exec db op store).2 := by
  cases op with
  | insertCompany row => exact hierarchy.insertCompany wf (GroupRead.now answered guarded)
  | updateCompany loaded current =>
      obtain ⟨⟨id, isTold⟩, requested, placed⟩ := guarded
      obtain ⟨_, rfl⟩ := wf.find_iff.mp (answered.getCompany isTold)
      apply hierarchy.updateCompany wf
      intro stored row isStored written
      rw [answered.getCompany isTold] at isStored
      cases isStored
      have sameId := Store.flushed_id written
      obtain ⟨rfl, _⟩ := Store.flushed_self written
      rcases placed with unmoved | ⟨_, _, other, counted, groupRootId, read, grouped⟩
      · exact .inl (Prod.mk.inj unmoved)
      · refine .inr ⟨?_, ?_, groupRootId, read.now answered, ?_⟩
        · rw [sameId]
          exact childless_of_count (answered.countSubsidiaries counted)
        · rw [sameId]
          exact other
        · rw [sameId]
          exact grouped
  | deleteCompany id =>
      exact hierarchy.deleteCompany wf (childless_of_count (answered.countSubsidiaries guarded))
  | insertBalanceSheet companyId year figures =>
      exact hierarchy_congr (Store.insertBalanceSheet_companies ..) hierarchy
  | _ => refine hierarchy_congr ?_ hierarchy; rfl

/-- The run rule for one request: alone, a request whose writes are guarded
keeps the hierarchy. -/
theorem Hierarchy.after {α : Type} {action : Action α} (hierarchy : Hierarchy store)
    (wf : Store.WellFormed db store) (writes : WritesOnce Guarded [] action) :
    Hierarchy (action.after db store) := by
  rcases writes.after wf with same | ⟨told, op, found, wfFound, sameData, answered, guarded, wrote⟩
  · exact hierarchy_congr (congrArg Prod.fst same) hierarchy
  · have foundHierarchy : Hierarchy found := hierarchy_congr (congrArg Prod.fst sameData) hierarchy
    have foundAnswered : Answered db found told := by
      rw [Answered, sameData]
      exact answered
    exact hierarchy_congr (congrArg Prod.fst wrote)
      (foundHierarchy.exec wfFound foundAnswered guarded)

end Alone

end BalanceSheetAnalysis

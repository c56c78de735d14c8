import BalanceSheetAnalysis.BalanceSheets.Columns
import BalanceSheetAnalysis.Companies.Runs

/-! One edit of a company, alone.  It commits the fields of the request, or
raises and commits nothing; the message about the ticker also covers a null that
the columns forbid. -/
namespace BalanceSheetAnalysis
open Library BalanceSheetAnalysis.Action

/-- The request moves the row, and one of the checks before the write refuses
the new parent. -/
def ParentRefused (store : Store) (company : Company) (data : CompanyUpdate) : Prop :=
  ∃ newParentId, data.parentCompanyId = some newParentId ∧
    newParentId ≠ company.parentCompanyId ∧
    (newParentId = some company.id ∨ store.subsidiaries company.id ≠ [] ∨
      ∃ parentId, newParentId = some parentId ∧ store.findCompany parentId = none)

/-- Another row has the ticker the request asks for. -/
def TickerHeld (store : Store) (company : Company) (data : CompanyUpdate) : Prop :=
  ∃ ticker, data.ticker = some (some ticker) ∧
    ∃ other ∈ store.companies, other.id ≠ company.id ∧ other.ticker = ticker.val

/-- The request sets a column to null that must not be. -/
def SetsNull (data : CompanyUpdate) : Prop := data.name = some none ∨ data.ticker = some none

/-- The row after the request: the fields of the body, all others as they were,
and the group of the new parent where the parent changes. -/
structure Applied (store : Store) (data : CompanyUpdate) (company row : Company) : Prop where
  id : row.id = company.id
  createdAt : row.createdAt = company.createdAt
  name : some row.name = (data.name.map (Option.map Subtype.val)).getD (some company.name)
  ticker : some row.ticker = (data.ticker.map (Option.map Subtype.val)).getD (some company.ticker)
  parent : row.parentCompanyId = data.parentCompanyId.getD company.parentCompanyId
  group : if row.parentCompanyId = company.parentCompanyId then
      row.groupRootId = company.groupRootId
    else match row.parentCompanyId with
      | none => row.groupRootId = company.id
      | some parentId => ∃ parent, store.findCompany parentId = some parent ∧
          row.groupRootId = parent.groupRootId

section Place
variable {db : Database} {store : Store} {company : Company} {data : CompanyUpdate}

/-- The place an edit gives the row. -/
def PlacedAt (store : Store) (company : Company) (data : CompanyUpdate)
    (place : Option Int × Int) : Prop :=
  place.1 = data.parentCompanyId.getD company.parentCompanyId ∧
    if place.1 = company.parentCompanyId then place.2 = company.groupRootId
    else match place.1 with
      | none => place.2 = company.id
      | some parentId => ∃ parent, store.findCompany parentId = some parent ∧
          place.2 = parent.groupRootId

/-- A ValueError, and not the one about a ticker. -/
def OtherError (failure : Failure) : Prop :=
  (∃ detail, failure = .valueError detail) ∧ ∀ ticker, failure ≠ tickerTaken ticker

/-- The messages differ in their first letters. -/
theorem otherError_of_take {detail : String} (length : Nat)
    (differs : ∀ ticker : String, detail.toList.take length ≠
      s!"A company with ticker '{ticker}' already exists".toList.take length) :
    OtherError (.valueError detail) := by
  refine ⟨⟨detail, rfl⟩, fun ticker same => differs ticker ?_⟩
  exact congrArg (fun text => text.toList.take length) (Failure.valueError.inj same)

theorem placeCompany_cases (db : Database) (store : Store) (company : Company)
    (data : CompanyUpdate) :
    (∃ failure, (placeCompany company data.parentCompanyId).execute db store =
        (.error failure, store) ∧ ParentRefused store company data ∧ OtherError failure) ∨
      ∃ place, (placeCompany company data.parentCompanyId).execute db store = (.ok place, store) ∧
        ¬ParentRefused store company data ∧ PlacedAt store company data place := by
  unfold ParentRefused PlacedAt
  cases asked : data.parentCompanyId with
  | none => exact .inr ⟨_, rfl, by simp, by simp⟩
  | some newParentId =>
      simp only [placeCompany]
      by_cases unmoved : newParentId = company.parentCompanyId
      · rw [if_pos unmoved]
        refine .inr ⟨_, rfl, ?_, by simp [unmoved]⟩
        rintro ⟨_, ⟨⟩, moves, _⟩
        exact moves unmoved
      rw [if_neg unmoved]
      by_cases own : newParentId = some company.id
      · rw [if_pos own]
        refine .inl ⟨_, rfl, ⟨newParentId, rfl, unmoved, .inl own⟩, ?_⟩
        exact otherError_of_take 11 (by simp [toString_string])
      rw [if_neg own, execute_query_bind]
      have counted : (Store.exec db (.countSubsidiaries company.id) store).1 =
          (store.subsidiaries company.id).length := rfl
      have unchanged : (Store.exec db (.countSubsidiaries company.id) store).2 = store := rfl
      rw [counted, unchanged]
      by_cases childless : store.subsidiaries company.id = []
      · rw [childless, List.length_nil, if_neg (not_not.mpr rfl)]
        cases newParentId with
        | none =>
            refine .inr ⟨(none, company.id), rfl, ?_, ?_⟩
            · rintro ⟨_, ⟨⟩, _, isOwn | parented | ⟨_, ⟨⟩, _⟩⟩
              · exact own isOwn
              · exact parented rfl
            · simp [unmoved]
        | some parentId =>
            rw [execute_bind, groupOfParent]
            cases found : store.findCompany parentId with
            | none =>
                refine .inl
                  ⟨.valueError s!"parent_company_id {parentId} does not exist", ?_, ?_, ?_⟩
                · rw [execute_query_bind, Store.exec, found]
                  rfl
                · exact ⟨some parentId, rfl, unmoved, .inr (.inr ⟨parentId, rfl, found⟩)⟩
                · exact otherError_of_take 1 (by simp [toString_string])
            | some parent =>
                refine .inr ⟨(some parentId, parent.groupRootId), ?_, ?_, ?_⟩
                · rw [execute_query_bind, Store.exec, found]
                  rfl
                · rintro ⟨_, ⟨⟩, _, isOwn | parented | ⟨_, ⟨⟩, absent⟩⟩
                  · exact own isOwn
                  · exact parented rfl
                  · rw [found] at absent
                    cases absent
                · simp [unmoved, found]
      · rw [if_pos (mt List.length_eq_zero_iff.mp childless)]
        refine .inl ⟨_, rfl, ⟨newParentId, rfl, unmoved, .inr (.inl childless)⟩, ?_⟩
        exact otherError_of_take 1 (by simp [toString_string])

end Place

/-! The write, by a program that loaded the row as it is stored. -/

namespace Store
variable {store : Store} {company : Company}

theorem flushed_loaded (company : Company) (draft : CompanyDraft) :
    flushed company draft company =
      match draft.name, draft.ticker with
      | some name, some ticker => some { company with
          name, ticker
          parentCompanyId := draft.parentCompanyId
          groupRootId := draft.groupRootId }
      | _, _ => none := by
  cases name : draft.name <;> cases ticker : draft.ticker <;>
    simp only [flushed, written_self, name, ticker]

theorem updateCompany_null (found : store.findCompany company.id = some company)
    {draft : CompanyDraft} (isNull : draft.name = none ∨ draft.ticker = none) :
    updateCompany company draft store = (.error .integrityError, store) := by
  have changed : draft ≠ company.draft := by
    rintro rfl
    simp [Company.draft] at isNull
  have unwritable : flushed company draft company = none := by
    rw [flushed_loaded]
    rcases isNull with noName | noTicker
    · simp [noName]
    · cases draft.name <;> simp [noTicker]
  simp only [updateCompany, if_neg changed, found, unwritable]

/-- The row alone is replaced: no other row has its id. -/
theorem modify_flushed (keys : Table.Keyed Company.id store.companies)
    (member : company ∈ store.companies) {draft : CompanyDraft} {row : Company}
    (isRow : flushed company draft company = some row) :
    Table.modify Company.id store.companies company.id
        (fun old => (flushed company draft old).getD old) =
      Table.modify Company.id store.companies company.id fun _ => row := by
  apply List.map_congr_left
  intro old inside
  split
  · rename_i sameId
    obtain rfl : old = company := List.inj_on_of_nodup_map keys inside member sameId
    exact (congrArg (Option.getD · old) isRow).trans (Option.getD_some ..)
  · rfl

theorem modify_same (keys : Table.Keyed Company.id store.companies)
    (member : company ∈ store.companies) :
    (Table.modify Company.id store.companies company.id fun _ => company) = store.companies := by
  refine (List.map_congr_left fun old inside => ?_).trans (List.map_id _)
  split
  · rename_i sameId
    exact (List.inj_on_of_nodup_map keys inside member sameId).symm
  · rfl

/-- A complete row within the foreign key is written unless another row has its
ticker. -/
theorem updateCompany_complete (kept : CompanyConstraints store.companies)
    (member : company ∈ store.companies) {draft : CompanyDraft} {row : Company}
    (isRow : flushed company draft company = some row)
    (parent : parentExists store.companies row.id row.parentCompanyId = true) :
    updateCompany company draft store =
      if ∃ other ∈ store.companies, other.id ≠ row.id ∧ other.ticker = row.ticker then
        (.error .integrityError, store)
      else (.ok (), { store with
        companies := Table.modify Company.id store.companies company.id fun _ => row }) := by
  have found : store.findCompany company.id = some company := Table.find_of_mem kept.keys member
  have isDraft : row.draft = draft := (flushed_self isRow).1
  by_cases unchanged : draft = company.draft
  · have sameRow : row = company := by
      rw [unchanged, flushed_loaded] at isRow
      exact (Option.some.inj isRow).symm
    have free : ¬∃ other ∈ store.companies, other.id ≠ row.id ∧ other.ticker = row.ticker := by
      rintro ⟨other, inside, away, sameTicker⟩
      subst sameRow
      exact away
        (congrArg Company.id (List.inj_on_of_nodup_map kept.tickers inside member sameTicker))
    rw [if_neg free, updateCompany, if_pos unchanged, sameRow, modify_same kept.keys member]
  · have taken : store.companies.any
          (fun other => other.id ≠ row.id ∧ other.ticker = row.ticker) = true ↔
        ∃ other ∈ store.companies, other.id ≠ row.id ∧ other.ticker = row.ticker := by simp
    simp only [updateCompany, if_neg unchanged, found, isRow, parent, Bool.not_true, Bool.or_false,
      taken, modify_flushed kept.keys member isRow]

theorem findCompany_modify (keys : Table.Keyed Company.id store.companies)
    (member : company ∈ store.companies) {draft : CompanyDraft} {row : Company}
    (isRow : flushed company draft company = some row) :
    findCompany { store with
      companies := Table.modify Company.id store.companies company.id fun _ => row } company.id =
        some row := by
  have found : store.findCompany company.id = some company := Table.find_of_mem keys member
  rw [← modify_flushed keys member isRow, findCompany_update found isRow, flushed_id isRow]
  exact Function.update_self ..

end Store

section Update
variable {db : Database} {store : Store} {company : Company} {data : CompanyUpdate}

theorem PlacedAt.parentExists (kept : Store.CompanyConstraints store.companies)
    (member : company ∈ store.companies) {place : Option Int × Int}
    (placed : PlacedAt store company data place) :
    Store.parentExists store.companies company.id place.1 = true := by
  obtain ⟨_, group⟩ := placed
  cases hangs : place.1 with
  | none => rfl
  | some parentId =>
      rw [Store.parentExists_some]
      rw [hangs] at group
      right
      split at group
      · rename_i unmoved
        exact kept.parents company member parentId unmoved.symm
      · obtain ⟨parent, found, _⟩ := group
        exact ⟨parent, Table.find_eq_some found⟩

theorem PlacedAt.applied {place : Option Int × Int} (placed : PlacedAt store company data place)
    {row : Company}
    (isRow : Store.flushed company (data.assign company place) company = some row) :
    Applied store data company row := by
  obtain ⟨isDraft, createdAt⟩ := Store.flushed_self isRow
  have parent : row.parentCompanyId = place.1 := congrArg CompanyDraft.parentCompanyId isDraft
  have group : row.groupRootId = place.2 := congrArg CompanyDraft.groupRootId isDraft
  refine ⟨Store.flushed_id isRow, createdAt, ?_, ?_, ?_, ?_⟩
  · exact congrArg CompanyDraft.name isDraft
  · exact congrArg CompanyDraft.ticker isDraft
  · exact parent.trans placed.1
  · rw [parent, group]
    exact placed.2

/-- The columns are complete unless the request sets one to null. -/
theorem assign_cases (company : Company) (data : CompanyUpdate) (place : Option Int × Int) :
    (SetsNull data ∧ ((data.assign company place).name = none ∨
        (data.assign company place).ticker = none)) ∨
      ¬SetsNull data ∧
        ∃ row, Store.flushed company (data.assign company place) company = some row := by
  unfold SetsNull
  by_cases noName : data.name = some none
  · exact .inl ⟨.inl noName, .inl (by simp [CompanyUpdate.assign, noName])⟩
  by_cases noTicker : data.ticker = some none
  · exact .inl ⟨.inr noTicker, .inr (by simp [CompanyUpdate.assign, noTicker])⟩
  refine .inr ⟨by simp [noName, noTicker], ?_⟩
  have setName : ∃ name, (data.assign company place).name = some name := by
    rcases named : data.name with _ | _ | name
    · exact ⟨company.name, by simp [CompanyUpdate.assign, named]⟩
    · exact absurd named noName
    · exact ⟨name.val, by simp [CompanyUpdate.assign, named]⟩
  have setTicker : ∃ ticker, (data.assign company place).ticker = some ticker := by
    rcases ticked : data.ticker with _ | _ | ticker
    · exact ⟨company.ticker, by simp [CompanyUpdate.assign, ticked]⟩
    · exact absurd ticked noTicker
    · exact ⟨ticker.val, by simp [CompanyUpdate.assign, ticked]⟩
  obtain ⟨name, isName⟩ := setName
  obtain ⟨ticker, isTicker⟩ := setTicker
  rw [Store.flushed_loaded, isName, isTicker]
  exact ⟨_, rfl⟩

/-- The row would share its ticker with another: so it is the requested one. -/
theorem tickerHeld_iff (kept : Store.CompanyConstraints store.companies)
    (member : company ∈ store.companies) {row : Company}
    (applied : Applied store data company row) :
    (∃ other ∈ store.companies, other.id ≠ row.id ∧ other.ticker = row.ticker) ↔
      TickerHeld store company data := by
  rw [applied.id]
  have isTicker := applied.ticker
  unfold TickerHeld
  rcases asked : data.ticker with _ | _ | ticker
  · rw [asked] at isTicker
    have same : row.ticker = company.ticker := Option.some.inj isTicker
    simp only [reduceCtorEq, false_and, exists_false, iff_false]
    rintro ⟨other, inside, away, shared⟩
    exact away (congrArg Company.id
      (List.inj_on_of_nodup_map kept.tickers inside member (shared.trans same)))
  · rw [asked] at isTicker
    cases isTicker
  · rw [asked] at isTicker
    have same : row.ticker = ticker.val := Option.some.inj isTicker
    rw [same]
    constructor
    · intro held
      exact ⟨ticker, rfl, held⟩
    · rintro ⟨_, ⟨⟩, held⟩
      exact held

/-- The write and the fetch after it, once the row has its place. -/
theorem execute_updateCompany {place : Option Int × Int}
    (placed : (placeCompany company data.parentCompanyId).execute db store = (.ok place, store)) :
    (updateCompany company data).execute db store =
      match Store.updateCompany company (data.assign company place) store with
      | (.ok (), later) => (refreshCompany company.id).execute db later
      | (.error .integrityError, later) =>
          (.error (tickerTaken ((data.ticker.bind id).elim "None" Subtype.val)), later)
      | (.error .staleDataError, later) => (.error .staleDataError, later) := by
  rw [updateCompany, execute_bind, placed]
  dsimp only
  rw [execute_query_bind, Store.exec]
  rcases Store.updateCompany company (data.assign company place) store with ⟨_ | _, later⟩
  · rename_i failure
    cases failure <;> rfl
  · rfl

theorem execute_updateCompany_null (kept : Store.CompanyConstraints store.companies)
    (member : company ∈ store.companies) {place : Option Int × Int}
    (placed : (placeCompany company data.parentCompanyId).execute db store = (.ok place, store))
    (isNull : (data.assign company place).name = none ∨
      (data.assign company place).ticker = none) :
    (updateCompany company data).execute db store =
      (.error (tickerTaken ((data.ticker.bind id).elim "None" Subtype.val)), store) := by
  have found : store.findCompany company.id = some company := Table.find_of_mem kept.keys member
  rw [execute_updateCompany placed, Store.updateCompany_null found isNull]

theorem execute_updateCompany_complete (kept : Store.CompanyConstraints store.companies)
    (member : company ∈ store.companies) {place : Option Int × Int}
    (placed : (placeCompany company data.parentCompanyId).execute db store = (.ok place, store))
    (fits : PlacedAt store company data place) {row : Company}
    (isRow : Store.flushed company (data.assign company place) company = some row) :
    (TickerHeld store company data ∧ (updateCompany company data).execute db store =
        (.error (tickerTaken ((data.ticker.bind id).elim "None" Subtype.val)), store)) ∨
      ¬TickerHeld store company data ∧
        (updateCompany company data).execute db store = (.ok row, { store with
          companies := Table.modify Company.id store.companies company.id fun _ => row }) := by
  have applied := fits.applied isRow
  have parent : Store.parentExists store.companies row.id row.parentCompanyId = true := by
    rw [applied.id, applied.parent, ← fits.1]
    exact fits.parentExists kept member
  rw [execute_updateCompany placed, Store.updateCompany_complete kept member isRow parent]
  by_cases held : TickerHeld store company data
  · rw [if_pos ((tickerHeld_iff kept member applied).mpr held)]
    exact .inl ⟨held, rfl⟩
  · rw [if_neg (mt (tickerHeld_iff kept member applied).mp held)]
    refine .inr ⟨held, ?_⟩
    dsimp only
    rw [refreshCompany, execute_query_bind, Store.exec,
      Store.findCompany_modify kept.keys member isRow]
    rfl

/-! What the edit sends. -/

/-- The parent an edit looks up: one it moves the row to, past the checks that
come before. -/
def LooksUp (store : Store) (company : Company) (data : CompanyUpdate) (parentId : Int) : Prop :=
  data.parentCompanyId = some (some parentId) ∧ company.parentCompanyId ≠ some parentId ∧
    parentId ≠ company.id ∧ store.subsidiaries company.id = []

/-- The texts are sent only once the parent is accepted. -/
def UpdateFits (store : Store) (company : Company) (data : CompanyUpdate) : Prop :=
  (∀ parentId, LooksUp store company data parentId → FitsInteger parentId) ∧
    (¬ParentRefused store company data →
      (∀ name, data.name = some (some name) → FitsText name) ∧
        ∀ ticker, data.ticker = some (some ticker) → FitsText ticker)

theorem accepted_placeCompany (columns : Store.CompanyColumns store.companies)
    (member : company ∈ store.companies) :
    Accepted db store (placeCompany company data.parentCompanyId) ↔
      ∀ parentId, LooksUp store company data parentId → FitsInteger parentId := by
  unfold LooksUp
  cases asked : data.parentCompanyId with
  | none => exact iff_of_true trivial fun parentId looksUp => by cases looksUp.1
  | some newParentId =>
      simp only [placeCompany]
      by_cases unmoved : newParentId = company.parentCompanyId
      · rw [if_pos unmoved]
        refine iff_of_true trivial fun parentId looksUp => ?_
        exact absurd (unmoved.symm.trans (Option.some.inj looksUp.1)) looksUp.2.1
      rw [if_neg unmoved]
      by_cases own : newParentId = some company.id
      · rw [if_pos own]
        refine iff_of_true trivial fun parentId looksUp => ?_
        exact absurd (Option.some.inj ((Option.some.inj looksUp.1).symm.trans own)) looksUp.2.2.1
      rw [if_neg own, accepted_query_bind]
      refine (and_iff_right (columns.ids company member)).trans ?_
      have counted : (Store.exec db (.countSubsidiaries company.id) store).1 =
          (store.subsidiaries company.id).length := rfl
      have unchanged : (Store.exec db (.countSubsidiaries company.id) store).2 = store := rfl
      rw [counted, unchanged]
      by_cases childless : store.subsidiaries company.id = []
      · rw [childless, List.length_nil, if_neg (not_not.mpr rfl), accepted_bind,
          accepted_groupOfParent]
        refine (and_iff_left fun _ _ _ => trivial).trans ?_
        constructor
        · intro fits parentId looksUp
          exact fits parentId (Option.some.inj looksUp.1)
        · rintro fits parentId rfl
          refine fits parentId ⟨rfl, Ne.symm unmoved, ?_, rfl⟩
          exact fun same => own (congrArg some same)
      · rw [if_pos (mt List.length_eq_zero_iff.mp childless)]
        exact iff_of_true trivial fun parentId looksUp => absurd looksUp.2.2.2 childless

/-- Only the texts of the request can be out of domain once the row has its place. -/
theorem updateCompany_inDomain (columns : Store.CompanyColumns store.companies)
    (member : company ∈ store.companies) {place : Option Int × Int}
    (placed : PlacedAt store company data place) :
    (Operation.updateCompany company (data.assign company place)).InDomain ↔
      (∀ name, data.name = some (some name) → FitsText name) ∧
        ∀ ticker, data.ticker = some (some ticker) → FitsText ticker := by
  have name : (∀ name ∈ sent (some company.name) (data.assign company place).name,
      FitsText name) ↔ ∀ name, data.name = some (some name) → FitsText name := by
    rw [sent_fits (columns.names company member)]
    rcases asked : data.name with _ | _ | name <;>
      simp [CompanyUpdate.assign, asked, columns.names company member]
  have ticker : (∀ ticker ∈ sent (some company.ticker) (data.assign company place).ticker,
      FitsText ticker) ↔ ∀ ticker, data.ticker = some (some ticker) → FitsText ticker := by
    rw [sent_fits (columns.tickers company member)]
    rcases asked : data.ticker with _ | _ | ticker <;>
      simp [CompanyUpdate.assign, asked, columns.tickers company member]
  have stays := placed.2
  have parent : ∀ id ∈ sent company.parentCompanyId place.1, FitsInteger id := by
    unfold sent
    split
    · exact fun id isParent => absurd isParent (Option.not_mem_none id)
    · rename_i moves
      rw [if_neg moves] at stays
      intro id isParent
      rw [Option.mem_def.mp isParent] at stays
      obtain ⟨row, found, _⟩ := stays
      obtain ⟨inside, rfl⟩ := Table.find_eq_some found
      exact columns.ids row inside
  have group : ∀ id ∈ sent (some company.groupRootId) (some place.2), FitsInteger id := by
    rw [sent_fits (columns.groups company member)]
    rintro _ ⟨⟩
    split at stays
    · rw [stays]
      exact columns.groups company member
    · split at stays
      · rw [stays]
        exact columns.ids company member
      · obtain ⟨row, found, same⟩ := stays
        rw [same]
        exact columns.groups row (Table.find_eq_some found).1
  refine (and_iff_right fun _ => columns.ids company member).trans ?_
  exact and_congr name ((and_iff_left ⟨parent, group⟩).trans ticker)

theorem accepted_updateCompany (columns : Store.CompanyColumns store.companies)
    (member : company ∈ store.companies) :
    Accepted db store (updateCompany company data) ↔ UpdateFits store company data := by
  have looks : Accepted db store (placeCompany company data.parentCompanyId) ↔ _ :=
    accepted_placeCompany columns member
  rcases placeCompany_cases db store company data with
    ⟨failure, failed, refused, _⟩ | ⟨place, placed, accepted, fits⟩
  · rw [updateCompany, accepted_bind_error failed, looks]
    exact (and_iff_left fun accepted => absurd refused accepted).symm
  · rw [updateCompany, accepted_bind_ok placed, looks, accepted_query_bind,
      updateCompany_inDomain columns member fits]
    apply and_congr_right
    intro _
    rw [imp_iff_right accepted]
    refine and_iff_left ?_
    generalize (Store.exec db (.updateCompany company (data.assign company place)) store).1 = reply
    cases reply with
    | ok done => exact accepted_refreshCompany.mpr (columns.ids company member)
    | error error => cases error <;> trivial

/-! The edit on a database whose columns have types. -/

/-- The edit is committed as asked, or a ValueError left the tables alone. -/
def Settled (store : Store) (company : Company) (data : CompanyUpdate)
    (outcome : Option (Except Failure Company) × Store) : Prop :=
  (∃ row, Applied store data company row ∧ outcome = (some (.ok row), { store with
      companies := Table.modify Company.id store.companies company.id fun _ => row })) ∨
    ∃ detail, outcome = (some (.error (.valueError detail)), store)

/-- The error about the ticker is raised only when another row has it. -/
def Truthful (store : Store) (company : Company) (data : CompanyUpdate)
    (outcome : Option (Except Failure Company) × Store) : Prop :=
  ∀ ticker, outcome.1 = some (.error (tickerTaken ticker)) → TickerHeld store company data

/-- An edit that sends nothing out of its column settles; its message about the
ticker is true except where a null for the name or the ticker reached the
database. -/
theorem settled_updateCompany (db : Database) (kept : Store.CompanyConstraints store.companies)
    (member : company ∈ store.companies) (data : CompanyUpdate) :
    let run := (updateCompany company data).execute db store
    Settled store company data (some run.1, run.2) ∧
      (Truthful store company data (some run.1, run.2) ↔
        (SetsNull data → ParentRefused store company data ∨ TickerHeld store company data)) := by
  intro run
  rcases placeCompany_cases db store company data with
    ⟨failure, failed, refused, ⟨detail, isValue⟩, other⟩ | ⟨place, placed, accepted, fits⟩
  · have raised : run = (.error failure, store) :=
      (execute_bind ..).trans (by rw [failed])
    rw [raised]
    refine ⟨.inr ⟨detail, by rw [isValue]⟩, fun _ _ => .inl refused, fun _ ticker same => ?_⟩
    exact absurd (Except.error.inj (Option.some.inj same)) (other ticker)
  rcases assign_cases company data place with ⟨sets, isNull⟩ | ⟨complete, row, isRow⟩
  · have raised : run = _ := execute_updateCompany_null kept member placed isNull
    rw [raised]
    refine ⟨.inr ⟨_, rfl⟩, fun truthful _ => .inr (truthful _ rfl), fun known _ _ => ?_⟩
    exact (known sets).resolve_left accepted
  · rcases execute_updateCompany_complete kept member placed fits isRow with
      ⟨held, raised⟩ | ⟨_, committed⟩
    · rw [show run = _ from raised]
      refine ⟨.inr ⟨_, rfl⟩, fun _ sets => absurd sets complete, fun _ _ _ => held⟩
    · rw [show run = _ from committed]
      refine ⟨.inl ⟨row, fits.applied isRow, rfl⟩, fun _ sets => absurd sets complete, ?_⟩
      rintro _ ticker ⟨⟩

/-- An edit settles, and truthfully, exactly when what it sends fits its columns
and no null for the name or the ticker reaches the database with no other row at
the ticker. -/
theorem updateCompany_alone (db : Database) (kept : Store.CompanyConstraints store.companies)
    (columns : Store.CompanyColumns store.companies) (member : company ∈ store.companies)
    (data : CompanyUpdate) :
    (Settled store company data ((updateCompany company data).executeTyped db store) ∧
        Truthful store company data ((updateCompany company data).executeTyped db store)) ↔
      UpdateFits store company data ∧
        (SetsNull data → ParentRefused store company data ∨ TickerHeld store company data) := by
  have fits : Accepted db store (updateCompany company data) ↔ UpdateFits store company data :=
    accepted_updateCompany columns member
  rw [← fits]
  by_cases accepted : Accepted db store (updateCompany company data)
  · obtain ⟨settles, truthful⟩ := settled_updateCompany db kept member data
    rw [executeTyped_eq_of_accepted accepted, and_iff_right settles, truthful,
      and_iff_right accepted]
  · refine iff_of_false (fun both => ?_) fun both => accepted both.1
    have refused : ((updateCompany company data).executeTyped db store).1 = none :=
      executeTyped_of_refused accepted
    rcases both.1 with ⟨row, _, committed⟩ | ⟨detail, raised⟩
    · rw [committed] at refused
      cases refused
    · rw [raised] at refused
      cases refused

end Update

theorem twoGroups_constraints : Store.CompanyConstraints twoGroups.companies :=
  (Reached.wellFormed ⟨_, rfl⟩).companyConstraints

/-- The body `{"name": "Tata Group"}`. -/
def renamed : CompanyUpdate := ⟨some (some ⟨"Tata Group", by decide⟩), none, none⟩

theorem updateCompany_alone_renamed :
    Settled twoGroups tata renamed ((updateCompany tata renamed).executeTyped .counting
        twoGroups) ∧
      Truthful twoGroups tata renamed ((updateCompany tata renamed).executeTyped .counting
        twoGroups) := by
  have fits : UpdateFits twoGroups tata renamed := by
    refine ⟨?_, fun _ => ⟨?_, ?_⟩⟩
    · rintro _ ⟨⟨⟩, _⟩
    · rintro _ ⟨⟩
      decide
    · rintro _ ⟨⟩
  have complete : ¬SetsNull renamed := by
    rintro (noName | noTicker)
    · cases noName
    · cases noTicker
  exact (updateCompany_alone .counting twoGroups_constraints twoGroups_columns
    (by decide : tata ∈ twoGroups.companies) renamed).mpr ⟨fits, fun sets => absurd sets complete⟩

/-- The body `{"name": null}`. -/
def unnamed : CompanyUpdate := ⟨some none, none, none⟩

/-- The null name is reported as a ticker that is taken; no other row has it. -/
theorem unnamed_untruthful :
    ((updateCompany tata unnamed).executeTyped .counting twoGroups).1 =
        some (.error (.valueError "A company with ticker 'None' already exists")) ∧
      (∀ company ∈ twoGroups.companies, company.ticker ≠ "None") ∧
      ¬Truthful twoGroups tata unnamed
        ((updateCompany tata unnamed).executeTyped .counting twoGroups) := by
  have raised : ((updateCompany tata unnamed).executeTyped .counting twoGroups).1 =
      some (.error (tickerTaken "None")) := by decide
  refine ⟨raised, by decide, fun truthful => ?_⟩
  obtain ⟨_, asked, _⟩ := truthful "None" raised
  cases asked

end BalanceSheetAnalysis

import BalanceSheetAnalysis.Companies.Pages
import BalanceSheetAnalysis.Frontend.DuplicateTicker
import BalanceSheetAnalysis.Library.Machine

/-! The table of the companies page, 25 rows at a time.  The page goes back to 1
when the search, the filter or the sort changes; the number of pages also
changes with the companies. -/
namespace BalanceSheetAnalysis.Frontend
open Library Machine Access BalanceSheetAnalysis.Action

def PAGE_SIZE : Nat := 25

inductive SortDirection where
  | asc
  | desc
  deriving DecidableEq

def SortDirection.text : SortDirection → String
  | .asc => "asc"
  | .desc => "desc"

structure SortState where
  key : String
  direction : SortDirection

/-- Another column starts ascending; the same one turns around. -/
def SortState.toggle (sort : SortState) (key : String) : SortState where
  key := key
  direction := if sort.key = key ∧ sort.direction = .asc then .desc else .asc

/-- The value of the scope filter; `ALL_VALUE` is empty. -/
def hierarchyValue : Option HierarchyScope → String
  | none => ""
  | some .root => "root"
  | some .subsidiary => "subsidiary"

structure CompaniesPageResult where
  companies : List (Company × Option String)
  total : Nat

/-- The table with the database behind it. -/
structure CompaniesTable where
  page : Nat
  debouncedSearch : String
  hierarchy : Option HierarchyScope
  sort : SortState
  /-- The last answer; it stays while the next page loads. -/
  data : Option CompaniesPageResult
  isFetching : Bool
  store : Store

/-- What serves the list, beside the tables. -/
structure Server where
  db : Database
  collation : Collation
  scope : CompanyScope

def Server.total (server : Server) (store : Store) (params : ListParams) : Nat :=
  (applyScopeAndFilters server.collation server.scope params.search params.hierarchyScope
    store.companies).length

def Server.answer (server : Server) (store : Store) (params : ListParams) :
    CompaniesPageResult where
  companies := page (orderedRows server.collation server.scope params store.companies)
    params.limit params.offset
  total := server.total store params

/-- The list endpoint answers so, with the total in its header. -/
theorem Server.answer_eq {rt : Authorization.Runtime}
    {activePolicies : String → List (Authorization.Policy rt)} {request : Request}
    {server : Server} {store : Store} {params : ListParams}
    (derived : getCompanyScope (activePolicies request.userEmail) COMPANY_READ RESOURCE_COMPANY =
      .ok server.scope) :
    ((listCompanies activePolicies request server.collation params).execute server.db store).1 =
      .ok ((server.answer store params).total, (server.answer store params).companies) :=
  congrArg Prod.fst (execute_listCompanies derived server.db store)

/-- A page that starts before the last row shows one. -/
theorem Server.answer_companies {server : Server} {store : Store} {params : ListParams}
    {number : Nat} (positive : 0 < params.limit) (offset : params.offset = number * params.limit)
    (inside : number * params.limit < server.total store params) :
    (server.answer store params).companies ≠ [] := by
  unfold Server.answer page
  dsimp only
  rw [offset, Paging.slice_ne_nil_iff positive, length_orderedRows]
  exact inside

/-- The number pages of the pager: the first, the last and a window between;
`none` is the ellipsis. -/
def buildPageList (page totalPages : Nat) : List (Option Nat) :=
  let siblingCount := 1
  let start := max 2 (page - siblingCount)
  let stop := min (totalPages - 1) (page + siblingCount)
  [some 1] ++ (if 2 < start then [none] else []) ++
    (List.range' start (stop + 1 - start)).map some ++
    (if stop < totalPages - 1 then [none] else []) ++
    (if 1 < totalPages then [some totalPages] else [])

inductive TableEvent where
  | search (debouncedSearch : String)
  | filter (hierarchy : Option HierarchyScope)
  | sortBy (key : String)
  | choosePage (page : Nat)
  /-- The user creates, edits or deletes a company. -/
  | mutate (call : CompanyCall)
  /-- So do others, unseen until the next answer. -/
  | others (calls : List CompanyCall)
  | refetch
  | answered

namespace CompaniesTable

def initial (store : Store) : CompaniesTable := ⟨1, "", none, ⟨"", .desc⟩, none, true, store⟩

/-- The key of `usePageResetOn`. -/
def resetKey (table : CompaniesTable) : String :=
  table.debouncedSearch ++ "|" ++ table.sort.key ++ "|" ++ table.sort.direction.text ++ "|" ++
    hierarchyValue table.hierarchy

def params (table : CompaniesTable) : ListParams where
  limit := PAGE_SIZE
  offset := (table.page - 1) * PAGE_SIZE
  search := if table.debouncedSearch = "" then none else some table.debouncedSearch
  hierarchyScope := table.hierarchy
  sortBy := if table.sort.key = "" then none else some table.sort.key
  sortDir := table.sort.direction.text

/-- `Math.max(1, Math.ceil(total / PAGE_SIZE))`. -/
def totalPages (table : CompaniesTable) : Nat :=
  match table.data with
  | some data => max 1 ((data.total + (PAGE_SIZE - 1)) / PAGE_SIZE)
  | none => 1

/-- The pager has a button for the page that is not disabled. -/
def Offers (table : CompaniesTable) (page : Nat) : Prop :=
  some page ∈ buildPageList table.page (max 1 table.totalPages) ∨
    (1 < table.page ∧ page = table.page - 1) ∨
    (table.page < table.totalPages ∧ page = table.page + 1)

instance (table : CompaniesTable) (page : Nat) : Decidable (table.Offers page) :=
  inferInstanceAs (Decidable (_ ∨ _))

/-- `usePageResetOn`, once the state it watches has changed; the query is another
one then. -/
def resetPage (table changed : CompaniesTable) : CompaniesTable :=
  if changed.resetKey ≠ table.resetKey then { changed with page := 1, isFetching := true }
  else changed

def step (server : Server) (table : CompaniesTable) : TableEvent → CompaniesTable
  | .search debouncedSearch => table.resetPage { table with debouncedSearch }
  | .filter hierarchy => table.resetPage { table with hierarchy }
  | .sortBy key => table.resetPage { table with sort := table.sort.toggle key }
  | .choosePage page =>
      if table.Offers page ∧ page ≠ table.page then { table with page, isFetching := true }
      else table
  | .mutate call =>
      match call.run.execute server.db table.store with
      | (.ok (), store) => { table with store, isFetching := true }
      | (.error _, store) => { table with store }
  | .others calls => { table with store := runCompanyCalls server.db calls table.store }
  | .refetch => { table with isFetching := true }
  | .answered =>
      if table.isFetching then
        { table with data := some (server.answer table.store table.params), isFetching := false }
      else table

/-! Where the user stands. -/

/-- With rows on the server and no request pending, the page is one of those the
total makes, and shows a row. -/
def Stands (table : CompaniesTable) : Prop :=
  table.isFetching = false → ∀ result ∈ table.data, 0 < result.total →
    1 ≤ table.page ∧ table.page ≤ (result.total + (PAGE_SIZE - 1)) / PAGE_SIZE ∧
      result.companies ≠ []

/-- Some row is on the page, unless it is the first or there are no rows at all. -/
def HasPage (total page : Nat) : Prop := page = 1 ∨ total = 0 ∨ (page - 1) * PAGE_SIZE < total

/-- Company calls leave the current page where it was, whoever made them, and a
page chosen from the pager, which counts the pages of the last answer, is there
still. -/
def KeepsPage (server : Server) (table : CompaniesTable) : TableEvent → Prop
  | .choosePage page => table.Offers page → HasPage (server.total table.store table.params) page
  | .mutate call =>
      HasPage (server.total (call.run.after server.db table.store) table.params) table.page
  | .others calls =>
      HasPage (server.total (runCompanyCalls server.db calls table.store) table.params) table.page
  | .search _ | .filter _ | .sortBy _ | .refetch | .answered => True

/-! The query stays when its key does. -/

theorem hierarchyValue_injective : Function.Injective hierarchyValue := by
  intro left right same
  rcases left with _ | _ | _ <;> rcases right with _ | _ | _ <;>
    first | rfl | exact absurd same (by decide)

theorem search_of_resetKey {table : CompaniesTable} {debouncedSearch : String}
    (same : ({ table with debouncedSearch } : CompaniesTable).resetKey = table.resetKey) :
    debouncedSearch = table.debouncedSearch := by
  unfold resetKey at same
  simpa only [String.append_left_inj] using same

theorem hierarchy_of_resetKey {table : CompaniesTable} {hierarchy : Option HierarchyScope}
    (same : ({ table with hierarchy } : CompaniesTable).resetKey = table.resetKey) :
    hierarchy = table.hierarchy := by
  unfold resetKey at same
  exact hierarchyValue_injective ((String.append_right_inj _).mp same)

/-- A page of the pager is not before the first. -/
theorem pos_of_mem_buildPageList {page totalPages number : Nat}
    (member : some number ∈ buildPageList page totalPages) : 1 ≤ number := by
  simp only [buildPageList, List.mem_append, List.mem_map, List.mem_range'_1] at member
  rcases member with (((first | ellipsis) | ⟨between, inside, same⟩) | ellipsis) | last
  · simp at first
    omega
  · split at ellipsis <;> simp at ellipsis
  · cases same
    omega
  · split at ellipsis <;> simp at ellipsis
  · split at last <;> simp at last
    omega

theorem Offers.pos {table : CompaniesTable} {page : Nat} (offers : table.Offers page) :
    1 ≤ page := by
  rcases offers with button | ⟨before, rfl⟩ | ⟨_, rfl⟩
  · exact pos_of_mem_buildPageList button
  · omega
  · omega

/-! Keeping the page. -/

/-- The page exists on the server, and on the screen once the answer is there. -/
structure Sound (server : Server) (table : CompaniesTable) : Prop where
  pos : 1 ≤ table.page
  hasPage : HasPage (server.total table.store table.params) table.page
  stands : table.Stands

section Step
variable {server : Server} {table changed : CompaniesTable}

/-- While a request is pending nothing is said of the answer shown. -/
theorem stands_of_isFetching (pending : table.isFetching = true) : table.Stands := by
  intro settled
  exact absurd (pending.symm.trans settled) (by decide)

theorem Sound.of_isFetching (pos : 1 ≤ table.page)
    (hasPage : HasPage (server.total table.store table.params) table.page)
    (pending : table.isFetching = true) : Sound server table :=
  ⟨pos, hasPage, stands_of_isFetching pending⟩

theorem Sound.resetPage (sound : changed.resetKey = table.resetKey → Sound server changed) :
    Sound server (table.resetPage changed) := by
  unfold CompaniesTable.resetPage
  split
  · exact .of_isFetching (le_refl 1) (.inl rfl) rfl
  · rename_i same
    exact sound (not_not.mp same)

theorem page_pred_mul_lt (pos : 1 ≤ table.page) {total : Nat} :
    (table.page - 1) * PAGE_SIZE < total ↔
      table.page ≤ (total + (PAGE_SIZE - 1)) / PAGE_SIZE := by
  have ceil := @Paging.lt_ceil_iff PAGE_SIZE (by decide) (table.page - 1) total
  rw [← ceil]
  omega

theorem Sound.answered (pos : 1 ≤ table.page)
    (hasPage : HasPage (server.total table.store table.params) table.page) :
    Sound server { table with
      data := some (server.answer table.store table.params), isFetching := false } := by
  refine ⟨pos, hasPage, ?_⟩
  rintro - result ⟨⟩ someRow
  dsimp only [Server.answer] at someRow
  have inside : (table.page - 1) * PAGE_SIZE < server.total table.store table.params := by
    rcases hasPage with first | none | inside
    · rw [first]
      simpa using someRow
    · omega
    · exact inside
  have positive : 0 < table.params.limit := Nat.succ_pos 24
  have offset : table.params.offset = (table.page - 1) * table.params.limit := rfl
  exact ⟨pos, (page_pred_mul_lt pos).mp inside, Server.answer_companies positive offset inside⟩

/-- A button of the pager leads to its page; no request starts for the page the
user is on. -/
theorem step_choosePage (server : Server) {page : Nat} (offers : table.Offers page) :
    ∃ isFetching, table.step server (.choosePage page) = { table with page, isFetching } ∧
      (isFetching = false → table.page = page ∧ table.isFetching = false) := by
  unfold CompaniesTable.step
  dsimp only
  by_cases same : page = table.page
  · subst same
    rw [if_neg fun chosen => chosen.2 rfl]
    exact ⟨table.isFetching, rfl, fun settled => ⟨rfl, settled⟩⟩
  · rw [if_pos ⟨offers, same⟩]
    exact ⟨true, rfl, fun settled => absurd settled (by decide)⟩

/-- A call changes the store, and starts a request if it succeeds. -/
theorem step_mutate (server : Server) (table : CompaniesTable) (call : CompanyCall) :
    ∃ isFetching, table.step server (.mutate call) =
        { table with store := call.run.after server.db table.store, isFetching } ∧
      (isFetching = false → table.isFetching = false) := by
  unfold CompaniesTable.step Action.after
  dsimp only
  split
  · rename_i store executed
    rw [executed]
    exact ⟨true, rfl, fun settled => absurd settled (by decide)⟩
  · rename_i store executed
    rw [executed]
    exact ⟨table.isFetching, rfl, id⟩

/-- Each event but a company call and a choice of page keeps the page by itself. -/
theorem Sound.step (event : TableEvent) (sound : Sound server table)
    (keeps : KeepsPage server table event) : Sound server (table.step server event) := by
  cases event with
  | search debouncedSearch =>
      apply Sound.resetPage
      intro same
      cases search_of_resetKey same
      exact sound
  | filter hierarchy =>
      apply Sound.resetPage
      intro same
      cases hierarchy_of_resetKey same
      exact sound
  | sortBy key =>
      apply Sound.resetPage
      intro _
      exact ⟨sound.pos, sound.hasPage, sound.stands⟩
  | choosePage page =>
      by_cases offers : table.Offers page
      · obtain ⟨isFetching, stepped, settled⟩ := step_choosePage server offers
        rw [stepped]
        refine ⟨offers.pos, keeps offers, fun isSettled => ?_⟩
        obtain ⟨rfl, idle⟩ := settled isSettled
        exact sound.stands idle
      · have stays : table.step server (.choosePage page) = table :=
          if_neg fun chosen => offers chosen.1
        rw [stays]
        exact sound
  | mutate call =>
      obtain ⟨isFetching, stepped, settled⟩ := step_mutate server table call
      rw [stepped]
      exact ⟨sound.pos, keeps, fun isSettled => sound.stands (settled isSettled)⟩
  | others calls => exact ⟨sound.pos, keeps, sound.stands⟩
  | refetch => exact .of_isFetching sound.pos sound.hasPage rfl
  | answered =>
      unfold CompaniesTable.step
      dsimp only
      split
      · exact .answered sound.pos sound.hasPage
      · exact sound

/-- An event that loses the page leaves the user on it. -/
theorem not_hasPage_of_not_keepsPage {event : TableEvent}
    (loses : ¬KeepsPage server table event) :
    ¬HasPage (server.total (table.step server event).store (table.step server event).params)
      (table.step server event).page := by
  cases event with
  | choosePage page =>
      unfold KeepsPage at loses
      dsimp only at loses
      rw [Classical.not_imp] at loses
      obtain ⟨isFetching, stepped, _⟩ := step_choosePage server loses.1
      rw [stepped]
      exact loses.2
  | mutate call =>
      obtain ⟨isFetching, stepped, _⟩ := step_mutate server table call
      rw [stepped]
      exact loses
  | others calls => exact loses
  | _ => exact absurd trivial loses

/-- The next answer shows a page that is not there, while there are rows. -/
theorem not_stands_of_not_hasPage
    (lost : ¬HasPage (server.total table.store table.params) table.page) :
    ¬(run (CompaniesTable.step server) table [.refetch, .answered]).Stands := by
  intro stands
  rw [HasPage, not_or, not_or, not_lt] at lost
  obtain ⟨_, someRow, beyond⟩ := lost
  obtain ⟨pos, reached, _⟩ := stands rfl _ rfl (Nat.pos_of_ne_zero someRow)
  have inside : (table.page - 1) * PAGE_SIZE < server.total table.store table.params :=
    (page_pred_mul_lt pos).mpr reached
  exact absurd beyond (not_le.mpr inside)

end Step

/-- A run never strands the user, whenever the list is refetched, exactly when
every company call in it leaves the current page on the server and every page
chosen is still there. -/
theorem neverStrands_iff (server : Server) (store : Store) (events : List TableEvent) :
    (∀ before, before <+: events → (run (step server) (initial store) before).Stands ∧
        (run (step server) (initial store) (before ++ [.refetch, .answered])).Stands) ↔
      Along (step server) (KeepsPage server) (initial store) events := by
  constructor
  · intro stands
    by_contra fails
    obtain ⟨before, event, rest, rfl, loses⟩ := exists_of_not_along fails
    have after := (stands (before ++ [event]) ⟨rest, List.append_cons .. ▸ rfl⟩).2
    rw [run_append, run_append] at after
    exact not_stands_of_not_hasPage (not_hasPage_of_not_keepsPage loses) after
  · intro along before isPrefix
    have start : Sound server (initial store) := .of_isFetching (le_refl 1) (.inl rfl) rfl
    have keeps (table : CompaniesTable) (event : TableEvent) (sound : Sound server table)
        (keeps : KeepsPage server table event) : Sound server (table.step server event) :=
      sound.step event keeps
    have along := along.prefix isPrefix
    have refetched : Along (step server) (KeepsPage server) (initial store)
        (before ++ [.refetch, .answered]) := along_append.mpr ⟨along, trivial, trivial, trivial⟩
    exact ⟨(along.invariant keeps start).stands, (refetched.invariant keeps start).stands⟩

end CompaniesTable

/-! The user deletes the only company on the second page. -/

open CompaniesTable

def readsEvery : Server := ⟨Database.counting, asciiOrder, ⟨true, [], []⟩⟩

def deleteTheLast : List TableEvent :=
  [.answered, .choosePage 2, .answered, .mutate (.delete 26), .answered]

theorem deleteTheLast_strands :
    ¬(run (step readsEvery) (initial verticals) deleteTheLast).Stands := by
  let table := run (step readsEvery) (initial verticals) deleteTheLast
  have settled : table.isFetching = false := by decide +kernel
  have second : table.page = 2 := by decide +kernel
  have left : table.data.map CompaniesPageResult.total = some 25 := by decide +kernel
  obtain ⟨result, isResult, total⟩ := Option.map_eq_some_iff.mp left
  intro stands
  obtain ⟨_, reached, _⟩ := stands settled result isResult (by omega)
  rw [second, total] at reached
  exact absurd reached (by decide)

end BalanceSheetAnalysis.Frontend

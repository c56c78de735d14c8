import BalanceSheetAnalysis.Access.Documented

/-! Editors of one group against the viewers of another.  An edit is checked
against the group the row is in, not against the group of the parent it names. -/
namespace BalanceSheetAnalysis.Access
open Library Authorization BalanceSheetAnalysis.Action

section Edits
variable {rt : Runtime} {activePolicies : String → List (Policy rt)} {db : Database}
  {store : Store}

/-- What became of the parent and group of a row in an edit. -/
def Replaced (store : Store) (requested : Option (Option Int)) (loaded row : Company) : Prop :=
  row.parentCompanyId = loaded.parentCompanyId ∧ row.groupRootId = loaded.groupRootId ∨
    requested = some row.parentCompanyId ∧ ∃ groupRootId,
      GroupNow store row.parentCompanyId groupRootId ∧
        row.groupRootId = groupRootId.getD loaded.id

/-- An edit replaces the one row it was allowed on. -/
theorem editCompany_after (activePolicies : String → List (Policy rt))
    (wf : Store.WellFormed db store) (request : Request) (companyId : Int) (data : CompanyUpdate) :
    ((serve activePolicies ⟨request, .editCompany companyId data⟩).after db store).companies =
        store.companies ∨
      ∃ loaded row, store.findCompany companyId = some loaded ∧
        Allows activePolicies request COMPANY_UPDATE RESOURCE_COMPANY loaded.id
          loaded.groupRootId ∧
        row.id = loaded.id ∧ Replaced store data.parentCompanyId loaded row ∧
        ((serve activePolicies ⟨request, .editCompany companyId data⟩).after db store).findCompany =
          Function.update store.findCompany companyId (some row) := by
  rcases serve_after wf ⟨request, .editCompany companyId data⟩ with same |
    ⟨told, op, found, wfFound, sameData, answered, may, wrote⟩
  · exact .inl (congrArg Prod.fst same)
  obtain ⟨loaded, place, ⟨isTold, allows⟩, placed, rfl⟩ := may
  have isLoaded := answered.getCompany isTold
  have sameFind := Store.findCompany_of_data sameData
  rcases Store.updateCompany_cases loaded (data.assign loaded place) found with unchanged |
    ⟨stored, row, isStored, _, isWritten, _, _, committed⟩
  · refine .inl ((congrArg Prod.fst wrote).trans ?_)
    exact (congrArg Store.companies unchanged).trans (congrArg Prod.fst sameData)
  have sameId : loaded.id = companyId := (Table.find_eq_some isLoaded).2
  rw [sameFind, sameId, isLoaded] at isStored
  obtain rfl := Option.some.inj isStored
  have rowId := Store.flushed_id isWritten
  obtain ⟨assigned, _⟩ := Store.flushed_self isWritten
  have isPlace : (row.parentCompanyId, row.groupRootId) = place :=
    congrArg (fun draft : CompanyDraft => (draft.parentCompanyId, draft.groupRootId)) assigned
  refine .inr ⟨loaded, row, isLoaded, allows, rowId, ?_, ?_⟩
  · rw [← isPlace] at placed
    rcases placed with unmoved | ⟨named, _, _, _, groupRootId, read, isGroup⟩
    · exact .inl (Prod.mk.inj unmoved)
    · exact .inr ⟨named, groupRootId, read.now answered, isGroup⟩
  · have updated := Store.findCompany_update (sameFind ▸ sameId ▸ isLoaded) isWritten
    rw [Store.findCompany_of_data wrote, Store.exec, committed, updated, rowId, sameId, sameFind]

/-- Some edit of the run names for the company a parent that is in the group when
it does. -/
def MovedInto (activePolicies : String → List (Policy rt)) (db : Database) (store : Store)
    (calls : List Call) (companyId groupRootId : Int) : Prop :=
  ∃ first request data rest parentId parent,
    calls = first ++ ⟨request, .editCompany companyId data⟩ :: rest ∧
    data.parentCompanyId = some (some parentId) ∧
    (serveAll activePolicies db first store).findCompany parentId = some parent ∧
    parent.groupRootId = groupRootId

theorem MovedInto.append {calls : List Call} {companyId groupRootId : Int}
    (moved : MovedInto activePolicies db store calls companyId groupRootId) (more : List Call) :
    MovedInto activePolicies db store (calls ++ more) companyId groupRootId := by
  obtain ⟨first, request, data, rest, parentId, parent, rfl, same⟩ := moved
  exact ⟨first, request, data, rest ++ more, parentId, parent, by simp, same⟩

/-- Every policy to edit companies is for the group, or for one company that is
in the group. -/
def EditsOnly (policies : List (Policy rt)) (store : Store) (groupRootId : Int) : Prop :=
  ∀ policy ∈ policies, policy.AppliesTo COMPANY_UPDATE RESOURCE_COMPANY →
    NamesOnly policy "group_root_id" groupRootId ∨ ∃ company ∈ store.companies,
      NamesOnly policy "company_id" company.id ∧ company.groupRootId = groupRootId

theorem EditsOnly.of_allows {request : Request} {groupRootId companyId group : Int}
    (within : EditsOnly (activePolicies request.userEmail) store groupRootId)
    (allows : Allows activePolicies request COMPANY_UPDATE RESOURCE_COMPANY companyId group) :
    group = groupRootId ∨ ∃ company ∈ store.companies,
      company.id = companyId ∧ company.groupRootId = groupRootId := by
  obtain ⟨policy, member, applies, satisfied⟩ := evaluate_eq_true.mp allows
  rcases within policy member applies with shape | ⟨company, inside, shape, isGroup⟩
  · have covers := (satisfied_iff_covers (.inr (.inr ⟨_, shape⟩)) rfl).mp satisfied
    rw [covers_iff_of_namesOnly shape] at covers
    exact .inl (covers.resolve_left (fun named => absurd named.1 (by decide))).2.symm
  · have covers := (satisfied_iff_covers (.inr (.inl ⟨_, shape⟩)) rfl).mp satisfied
    rw [covers_iff_of_namesOnly shape] at covers
    have isCompany := (covers.resolve_right (fun named => absurd named.1 (by decide))).2
    exact .inr ⟨company, inside, isCompany, isGroup⟩

/-- A row an editor of one group may edit is none of those that were in another
group at the start and were left alone since. -/
theorem EditsOnly.spares {now : Store} (wf : Store.WellFormed db store)
    (wfNow : Store.WellFormed db now) {own other : Int} (distinct : own ≠ other)
    (stayed : ∀ company ∈ store.companies, company.groupRootId = other →
      company ∈ now.companies)
    {request : Request} (within : EditsOnly (activePolicies request.userEmail) store own)
    {loaded : Company} (member : loaded ∈ now.companies)
    (allows : Allows activePolicies request COMPANY_UPDATE RESOURCE_COMPANY loaded.id
      loaded.groupRootId)
    {company : Company} (inside : company ∈ store.companies)
    (isOther : company.groupRootId = other) : company.id ≠ loaded.id := by
  intro same
  have isCompany : company = loaded :=
    List.inj_on_of_nodup_map wfNow.companyKeys (stayed company inside isOther) member same
  subst isCompany
  rcases within.of_allows allows with isOwn | ⟨mine, mineInside, sameId, isOwn⟩
  · exact distinct (isOwn.symm.trans isOther)
  · rw [List.inj_on_of_nodup_map wf.companyKeys mineInside inside sameId] at isOwn
    exact distinct (isOwn.symm.trans isOther)

/-- How a replaced row comes to be in a group: it was, it is the group's root
now, or it went under a row of the group. -/
theorem Replaced.group {requested : Option (Option Int)} {loaded row : Company}
    (replaced : Replaced store requested loaded row) :
    row.groupRootId = loaded.groupRootId ∨ row.groupRootId = loaded.id ∨
      ∃ parentId parent, requested = some (some parentId) ∧
        store.findCompany parentId = some parent ∧ parent.groupRootId = row.groupRootId := by
  rcases replaced with ⟨_, same⟩ | ⟨isNamed, groupRootId, now, isGroup⟩
  · exact .inl same
  · cases isParent : row.parentCompanyId with
    | none =>
        rw [isParent] at now
        rw [show groupRootId = none from now] at isGroup
        exact .inr (.inl isGroup)
    | some parentId =>
        rw [isParent] at now isNamed
        obtain ⟨parent, found, rfl⟩ := now
        exact .inr (.inr ⟨parentId, parent, isNamed, found, isGroup.symm⟩)

/-- The step rule: an edit replaces no row that was in another group at the
start, and brings into that group only a row it names a parent of the group for. -/
theorem group_after_edit {now : Store} (wf : Store.WellFormed db store)
    (wfNow : Store.WellFormed db now) {own other : Int} (distinct : own ≠ other) {root : Company}
    (isStored : root ∈ store.companies) (rootGroup : root.groupRootId = other)
    (isOtherRoot : root.id = other) {request : Request}
    (within : EditsOnly (activePolicies request.userEmail) store own)
    (stayed : ∀ company ∈ store.companies, company.groupRootId = other →
      company ∈ now.companies)
    (companyId : Int) (data : CompanyUpdate) {later : Store}
    (isLater : (serve activePolicies ⟨request, .editCompany companyId data⟩).after db now = later) :
    (∀ company ∈ store.companies, company.groupRootId = other → company ∈ later.companies) ∧
      ∀ company ∈ later.companies, company.groupRootId = other →
        company ∈ now.companies ∨
        (∃ old ∈ now.companies, old ∉ store.companies ∧ old.id = company.id ∧
          old.groupRootId = other) ∨
        company.id = companyId ∧ ∃ parentId parent,
          data.parentCompanyId = some (some parentId) ∧
          now.findCompany parentId = some parent ∧ parent.groupRootId = other := by
  have wfLater : Store.WellFormed db later := isLater ▸ wellFormed_after wfNow _
  have edited := editCompany_after activePolicies wfNow request companyId data
  rw [isLater] at edited
  rcases edited with same | ⟨loaded, row, isLoaded, allows, rowId, replaced, updated⟩
  · rw [same]
    exact ⟨stayed, fun company member _ => .inl member⟩
  obtain ⟨loadedMember, loadedId⟩ := Table.find_eq_some isLoaded
  have spares {company : Company} (member : company ∈ store.companies)
      (isOther : company.groupRootId = other) : company.id ≠ companyId :=
    loadedId ▸ within.spares wf wfNow distinct stayed loadedMember allows member isOther
  constructor
  · intro company member isOther
    have found : later.findCompany company.id = some company := by
      rw [updated, Function.update_of_ne (spares member isOther)]
      exact wfNow.find_iff.mpr ⟨stayed company member isOther, rfl⟩
    exact (wfLater.find_iff.mp found).1
  · intro company member isOther
    have found := wfLater.find_iff.mpr ⟨member, rfl⟩
    rw [updated, Function.update_apply] at found
    split at found
    · obtain rfl := Option.some.inj found
      rcases replaced.group with same | isOwnRoot | ⟨parentId, parent, isNamed, isParent, same⟩
      · have loadedGroup : loaded.groupRootId = other := same ▸ isOther
        have notOld : loaded ∉ store.companies := fun old => spares old loadedGroup loadedId
        exact .inr (.inl ⟨loaded, loadedMember, notOld, rowId.symm, loadedGroup⟩)
      · refine absurd ?_ (spares isStored rootGroup)
        rw [isOtherRoot, ← isOther, isOwnRoot, loadedId]
      · exact .inr (.inr ⟨rowId.trans loadedId, parentId, parent, isNamed, isParent,
          same.trans isOther⟩)
    · exact .inl (wfNow.find_iff.mp found).1

/-- The run rule: no edit touches a row that was in another group at the start,
and into that group come only rows that were moved there. -/
theorem group_after_edits (reached : Reached db store) {own other : Int} (distinct : own ≠ other)
    {root : Company} (isStored : root ∈ store.companies) (isRoot : root.parentCompanyId = none)
    (isOtherRoot : root.id = other) {editor : String}
    (within : EditsOnly (activePolicies editor) store own)
    (calls : List Call) (edits : ∀ call ∈ calls, call.request.userEmail = editor ∧
      ∃ companyId data, call.endpoint = .editCompany companyId data) :
    (∀ company ∈ store.companies, company.groupRootId = other →
        company ∈ (serveAll activePolicies db calls store).companies) ∧
      ∀ company ∈ (serveAll activePolicies db calls store).companies,
        company.groupRootId = other → company ∈ store.companies ∨
          MovedInto activePolicies db store calls company.id other := by
  have wf := reached.wellFormed
  have rootGroup : root.groupRootId = other :=
    (reached.hierarchy.rootGroup root isStored isRoot).trans isOtherRoot
  induction calls using List.reverseRecOn with
  | nil => exact ⟨fun _ member _ => member, fun _ member _ => .inl member⟩
  | append_singleton calls call ih =>
      obtain ⟨stayed, came⟩ := ih fun call member => edits call (List.mem_append_left _ member)
      obtain ⟨isEditor, companyId, data, isEdit⟩ :=
        edits call (List.mem_append_right _ (List.mem_singleton_self _))
      obtain ⟨request, endpoint⟩ := call
      obtain rfl : endpoint = .editCompany companyId data := isEdit
      obtain rfl : request.userEmail = editor := isEditor
      obtain ⟨stillThere, new⟩ := group_after_edit wf (wellFormed_serveAll wf calls) distinct
        isStored rootGroup isOtherRoot within stayed companyId data
        (serveAll_concat db calls _ store).symm
      refine ⟨stillThere, fun company member isOther => ?_⟩
      rcases new company member isOther with before | ⟨old, inside, notOld, sameId, isOld⟩ |
        ⟨isEdited, parentId, parent, isNamed, isParent, same⟩
      · exact (came company before isOther).imp_right (·.append _)
      · rw [← sameId]
        exact .inr (((came old inside isOld).resolve_left notOld).append _)
      · rw [isEdited]
        exact .inr ⟨calls, request, data, [], parentId, parent, rfl, isNamed, isParent, same⟩

/-- The policy of a viewer of one group, as the list endpoint reads it. -/
theorem admits_of_viewsOnly {policies : List (Policy rt)} {groupRootId : Int}
    (some_view : ∃ policy ∈ policies, policy.AppliesTo COMPANY_READ RESOURCE_COMPANY)
    (views : ∀ policy ∈ policies, policy.AppliesTo COMPANY_READ RESOURCE_COMPANY →
      NamesOnly policy "group_root_id" groupRootId) :
    ∃ scope, getCompanyScope policies COMPANY_READ RESOURCE_COMPANY = .ok scope ∧
      ∀ companyId group, scope.admits companyId group = true ↔ group = groupRootId := by
  obtain ⟨scope, derived⟩ := getCompanyScope_isOk.mpr fun policy member applies =>
    not_namesUnhashable (.inr (.inr ⟨_, views policy member applies⟩))
  refine ⟨scope, derived, fun companyId group => ?_⟩
  have reads {policy : Policy rt} (shape : NamesOnly policy "group_root_id" groupRootId) :
      ReadAsAbout policy companyId group ↔ group = groupRootId := by
    rw [readAsAbout_iff_covers (.inr (.inr ⟨_, shape⟩)), covers_iff_of_namesOnly shape]
    simp [eq_comm]
  rw [getCompanyScope_admits derived]
  constructor
  · rintro ⟨policy, member, applies, about⟩
    exact (reads (views policy member applies)).mp about
  · intro same
    obtain ⟨policy, member, applies⟩ := some_view
    exact ⟨policy, member, applies, (reads (views policy member applies)).mpr same⟩

/-- Whatever an editor of one group edits, a viewer of another group goes on
seeing every row of it as it was, and sees besides only rows the editor moved
under a row of that group. -/
theorem listed_after_edits (reached : Reached db store) {own other : Int} (distinct : own ≠ other)
    {root : Company} (isStored : root ∈ store.companies) (isRoot : root.parentCompanyId = none)
    (isOtherRoot : root.id = other) {editor viewer : String}
    (within : EditsOnly (activePolicies editor) store own)
    (calls : List Call) (edits : ∀ call ∈ calls, call.request.userEmail = editor ∧
      ∃ companyId data, call.endpoint = .editCompany companyId data)
    (some_view : ∃ policy ∈ activePolicies viewer,
      policy.AppliesTo COMPANY_READ RESOURCE_COMPANY)
    (views : ∀ policy ∈ activePolicies viewer, policy.AppliesTo COMPANY_READ RESOURCE_COMPANY →
      NamesOnly policy "group_root_id" other)
    (collation : Collation) (limit : Nat) (positive : 0 < limit) (sortBy : Option String)
    (sortDir : String) :
    ∃ scope, getCompanyScope (activePolicies viewer) COMPANY_READ RESOURCE_COMPANY = .ok scope ∧
      ∀ company,
        (Listed collation scope db store limit sortBy sortDir company →
          Listed collation scope db (serveAll activePolicies db calls store) limit sortBy sortDir
            company) ∧
        (Listed collation scope db (serveAll activePolicies db calls store) limit sortBy sortDir
            company →
          Listed collation scope db store limit sortBy sortDir company ∨
            MovedInto activePolicies db store calls company.id other) := by
  obtain ⟨scope, derived, admits⟩ := admits_of_viewsOnly some_view views
  obtain ⟨stayed, came⟩ :=
    group_after_edits reached distinct isStored isRoot isOtherRoot within calls edits
  refine ⟨scope, derived, fun company => ?_⟩
  rw [listed_iff positive, listed_iff positive, admits]
  constructor
  · rintro ⟨member, isOther⟩
    exact ⟨stayed company member isOther, isOther⟩
  · rintro ⟨member, isOther⟩
    exact (came company member isOther).imp_left fun old => ⟨old, isOther⟩

end Edits

/-! An editor of group 1 moves company 3 under company 2. -/

def editorAndViewer (userEmail : String) : List (Policy utcRuntime) :=
  if userEmail = "editor@example.com" then [policyNaming [COMPANY_UPDATE] "group_root_id" 1]
  else [policyNaming [COMPANY_READ] "group_root_id" 2]

def moveOut : Call :=
  ⟨⟨"editor@example.com", none, epoch⟩, .editCompany 3 ⟨none, none, some (some 2)⟩⟩

theorem listed_after_edits_moveOut :
    ∃ scope, getCompanyScope (editorAndViewer "viewer@example.com") COMPANY_READ
        RESOURCE_COMPANY = .ok scope ∧
      ∀ company,
        (Listed asciiOrder scope Database.counting twoGroups 10 none "asc" company →
          Listed asciiOrder scope Database.counting
            (serveAll editorAndViewer Database.counting [moveOut] twoGroups) 10 none "asc"
            company) ∧
        (Listed asciiOrder scope Database.counting
            (serveAll editorAndViewer Database.counting [moveOut] twoGroups) 10 none "asc"
            company →
          Listed asciiOrder scope Database.counting twoGroups 10 none "asc" company ∨
            MovedInto editorAndViewer Database.counting twoGroups [moveOut] company.id 2) := by
  have editors : editorAndViewer "editor@example.com" =
      [policyNaming [COMPANY_UPDATE] "group_root_id" 1] := if_pos rfl
  have viewers : editorAndViewer "viewer@example.com" =
      [policyNaming [COMPANY_READ] "group_root_id" 2] := if_neg (by decide)
  have reached : Reached Database.counting twoGroups := ⟨_, rfl⟩
  have tata : ⟨2, "Tata Motors", "TATA", none, 2, 0⟩ ∈ twoGroups.companies := by decide
  have within : EditsOnly (editorAndViewer "editor@example.com") twoGroups 1 := by
    intro policy member _
    rw [editors, List.mem_singleton] at member
    exact .inl (member ▸ rfl)
  refine listed_after_edits reached (by decide) tata rfl rfl within [moveOut] ?_ ?_ ?_ asciiOrder
    10 (by decide) none "asc"
  · intro call member
    rw [List.mem_singleton.mp member]
    exact ⟨rfl, 3, _, rfl⟩
  · rw [viewers]
    exact ⟨_, List.mem_singleton_self _, by decide⟩
  · intro policy member _
    rw [viewers, List.mem_singleton] at member
    exact member ▸ rfl

/-- The viewer of group 2 sees company 3 afterwards, and did not before. -/
theorem moveOut_listed :
    ¬∀ scope, getCompanyScope (editorAndViewer "viewer@example.com") COMPANY_READ
        RESOURCE_COMPANY = .ok scope → ∀ company,
      Listed asciiOrder scope Database.counting twoGroups 10 none "asc" company ↔
        Listed asciiOrder scope Database.counting
          (serveAll editorAndViewer Database.counting [moveOut] twoGroups) 10 none "asc"
          company := by
  intro isolated
  have same := isolated ⟨false, [], [.int 2]⟩ rfl ⟨3, "Jio Platforms", "JIO", some 2, 2, 0⟩
  rw [listed_iff (by decide), listed_iff (by decide)] at same
  revert same
  decide

end BalanceSheetAnalysis.Access

import BalanceSheetAnalysis.Store.Action

/-! Creating, editing and deleting companies.  A row's `group_root_id` is the
id at the top of its group; it is copied from the parent when the row is placed
under one, and never walked again. -/
namespace BalanceSheetAnalysis
open Library BalanceSheetAnalysis.Action

/-- `Field(min_length=1, max_length=...)`. -/
abbrev Text (maxLength : Nat) := { text : String // 1 ≤ text.length ∧ text.length ≤ maxLength }

structure CompanyCreate where
  name : Text 255
  ticker : Text 32
  parentCompanyId : Option Int

/-- The outer `none` is a field the request does not set. -/
structure CompanyUpdate where
  name : Option (Option (Text 255))
  ticker : Option (Option (Text 32))
  parentCompanyId : Option (Option Int)

def tickerTaken (ticker : String) : Failure :=
  .valueError s!"A company with ticker '{ticker}' already exists"

/-- `db.refresh`. -/
def refreshCompany (id : Int) : Action Company := do
  match ← query (.getCompany id) with
  | some company => return company
  | none => throw .invalidRequestError

/-- The group of a row's parent; `none` without a parent. -/
def groupOfParent (parentCompanyId : Option Int) : Action (Option Int) :=
  match parentCompanyId with
  | none => return none
  | some parentId => do
      match ← query (.getCompany parentId) with
      | some parent => return some parent.groupRootId
      | none => throw (.valueError s!"parent_company_id {parentId} does not exist")

def createCompany (data : CompanyCreate) : Action Company := do
  let groupRootId ← groupOfParent data.parentCompanyId
  -- The placeholder group never leaves the transaction, so this is one write.
  match ← query (.insertCompany
      ⟨data.name, data.ticker, data.parentCompanyId, groupRootId⟩) with
  | .ok id => refreshCompany id
  | .error _ => throw (tickerTaken data.ticker)

/-- The parent and group of the row after the request. -/
def placeCompany (company : Company) (parentCompanyId : Option (Option Int)) :
    Action (Option Int × Int) :=
  match parentCompanyId with
  | none => return (company.parentCompanyId, company.groupRootId)
  | some newParentId =>
      if newParentId = company.parentCompanyId then
        return (company.parentCompanyId, company.groupRootId)
      else if newParentId = some company.id then
        throw (.valueError "A company cannot be its own parent")
      else do
        let subsidiaryCount ← query (.countSubsidiaries company.id)
        if subsidiaryCount ≠ 0 then
          throw (.valueError (s!"Cannot reparent '{company.name}': it has {subsidiaryCount} " ++
            "subsidiary company(ies), whose group_root_id would then be left pointing at the " ++
            "wrong group."))
        else do
          let groupRootId ← groupOfParent newParentId
          return (newParentId, groupRootId.getD company.id)

/-- The columns of the loaded row once the fields of the request are assigned. -/
def CompanyUpdate.assign (data : CompanyUpdate) (company : Company)
    (place : Option Int × Int) : CompanyDraft where
  name := (data.name.map (Option.map Subtype.val)).getD (some company.name)
  ticker := (data.ticker.map (Option.map Subtype.val)).getD (some company.ticker)
  parentCompanyId := place.1
  groupRootId := place.2

def updateCompany (company : Company) (data : CompanyUpdate) : Action Company := do
  let place ← placeCompany company data.parentCompanyId
  match ← query (.updateCompany company (data.assign company place)) with
  | .ok () => refreshCompany company.id
  | .error .integrityError =>
      -- `fields.get('ticker')` prints as `None` when it is absent or null.
      throw (tickerTaken ((data.ticker.bind id).elim "None" Subtype.val))
  | .error .staleDataError => throw .staleDataError

def deleteCompany (company : Company) : Action Unit := do
  let subsidiaryCount ← query (.countSubsidiaries company.id)
  if subsidiaryCount ≠ 0 then
    throw (.valueError (s!"Cannot delete '{company.name}': it has {subsidiaryCount} " ++
      "subsidiary company(ies). Delete or reassign those first."))
  else query (.deleteCompany company.id)

def getCompanyById (companyId : Int) : Action (Option Company) :=
  query (.getCompany companyId)

/-! What each of them writes, given what it was told. -/

/-- The group is that of the parent as it was read, if there is a parent. -/
def GroupRead (told : Program.History Reply) (parentCompanyId groupRootId : Option Int) : Prop :=
  match parentCompanyId with
  | none => groupRootId = none
  | some parentId => ∃ parent, Program.Told told (.getCompany parentId) (some parent) ∧
      groupRootId = some parent.groupRootId

/-- Where an edit may put a row: where it was, or under another row once it was
seen to have no subsidiaries. -/
def Placed (told : Program.History Reply) (company : Company)
    (parentCompanyId : Option (Option Int)) (place : Option Int × Int) : Prop :=
  place = (company.parentCompanyId, company.groupRootId) ∨
    parentCompanyId = some place.1 ∧ place.1 ≠ company.parentCompanyId ∧
      place.1 ≠ some company.id ∧ Program.Told told (.countSubsidiaries company.id) 0 ∧
      ∃ groupRootId, GroupRead told place.1 groupRootId ∧
        place.2 = groupRootId.getD company.id

variable {told : Program.History Reply}

theorem refreshCompany_reads (id : Int) :
    Reads (fun _ _ => True) told (refreshCompany id) := by
  apply obeys_query_bind trivial
  intro reply
  cases reply with
  | none => exact obeys_throw _
  | some company => exact obeys_pure trivial

theorem getCompanyById_reads (companyId : Int) :
    Reads (fun later found => ∀ company, found = some company →
      Program.Told later (.getCompany companyId) (some company)) told
      (getCompanyById companyId) := by
  have quiet : (Operation.getCompany companyId).Quiet := trivial
  apply reads_query quiet
  intro reply
  rintro company rfl
  exact Program.told_last _ _ _

theorem groupOfParent_reads (parentCompanyId : Option Int) :
    Reads (fun later groupRootId => GroupRead later parentCompanyId groupRootId) told
      (groupOfParent parentCompanyId) := by
  cases parentCompanyId with
  | none => exact obeys_pure rfl
  | some parentId =>
      apply obeys_query_bind trivial
      intro reply
      cases reply with
      | none => exact obeys_throw _
      | some parent => exact obeys_pure ⟨parent, Program.told_last _ _ _, rfl⟩

theorem createCompany_writesOnce (data : CompanyCreate) (calm : Calm told) :
    WritesOnce (fun told op => ∃ groupRootId, GroupRead told data.parentCompanyId groupRootId ∧
      op = .insertCompany ⟨data.name, data.ticker, data.parentCompanyId, groupRootId⟩)
      told (createCompany data) := by
  apply (groupOfParent_reads data.parentCompanyId).bind_writesOnce calm
  intro groupRootId later read _ stillCalm
  apply writesOnce_query_bind stillCalm ⟨groupRootId, read, rfl⟩
  intro reply
  cases reply with
  | ok id => exact refreshCompany_reads id
  | error _ => exact obeys_throw _

theorem placeCompany_reads (company : Company) (parentCompanyId : Option (Option Int)) :
    Reads (fun later place => Placed later company parentCompanyId place) told
      (placeCompany company parentCompanyId) := by
  cases parentCompanyId with
  | none => exact obeys_pure (.inl rfl)
  | some newParentId =>
      simp only [placeCompany]
      split
      · exact obeys_pure (.inl rfl)
      rename_i moves
      split
      · exact obeys_throw _
      rename_i other
      apply obeys_query_bind trivial
      intro subsidiaryCount
      split
      · exact obeys_throw _
      rename_i childless
      rw [not_not] at childless
      subst childless
      apply (groupOfParent_reads newParentId).bind
      intro groupRootId later read grown
      exact obeys_pure (.inr ⟨rfl, moves, other, grown (Program.told_last _ _ _),
        groupRootId, read, rfl⟩)

/-- An edit writes the row it was given, once, and only the assigned columns. -/
theorem updateCompany_writesOnce (company : Company) (data : CompanyUpdate) (calm : Calm told) :
    WritesOnce (fun told op => ∃ place, Placed told company data.parentCompanyId place ∧
      op = .updateCompany company (data.assign company place))
      told (updateCompany company data) := by
  apply (placeCompany_reads company data.parentCompanyId).bind_writesOnce calm
  intro place later placed _ stillCalm
  apply writesOnce_query_bind stillCalm ⟨place, placed, rfl⟩
  intro reply
  match reply with
  | .ok () => exact refreshCompany_reads company.id
  | .error .integrityError => exact obeys_throw _
  | .error .staleDataError => exact obeys_throw _

theorem deleteCompany_writesOnce (company : Company) (calm : Calm told) :
    WritesOnce (fun told op => Program.Told told (.countSubsidiaries company.id) 0 ∧
      op = .deleteCompany company.id) told (deleteCompany company) := by
  apply obeys_query_bind (.inl trivial)
  intro subsidiaryCount
  split
  · exact obeys_throw _
  rename_i childless
  rw [not_not] at childless
  subst childless
  refine obeys_query (.inr ⟨?_, Program.told_last _ _ _, rfl⟩) fun _ => trivial
  exact calm_append calm trivial

/-! None of them raises an HTTP error. -/

theorem refreshCompany_raises (id : Int) : Raises Failure.Internal (refreshCompany id) := by
  apply raises_query_bind
  intro reply
  cases reply with
  | none => exact raises_throw nofun
  | some company => exact raises_pure company

theorem groupOfParent_raises (parentCompanyId : Option Int) :
    Raises Failure.Internal (groupOfParent parentCompanyId) := by
  cases parentCompanyId with
  | none => exact raises_pure _
  | some parentId =>
      apply raises_query_bind
      intro reply
      cases reply with
      | none => exact raises_throw nofun
      | some parent => exact raises_pure _

theorem placeCompany_raises (company : Company) (parentCompanyId : Option (Option Int)) :
    Raises Failure.Internal (placeCompany company parentCompanyId) := by
  cases parentCompanyId with
  | none => exact raises_pure _
  | some newParentId =>
      simp only [placeCompany]
      split
      · exact raises_pure _
      split
      · exact raises_throw nofun
      apply raises_query_bind
      intro subsidiaryCount
      split
      · exact raises_throw nofun
      · exact (groupOfParent_raises newParentId).bind fun _ => raises_pure _

theorem updateCompany_raises (company : Company) (data : CompanyUpdate) :
    Raises Failure.Internal (updateCompany company data) := by
  apply (placeCompany_raises company data.parentCompanyId).bind
  intro place
  apply raises_query_bind
  intro reply
  match reply with
  | .ok () => exact refreshCompany_raises company.id
  | .error .integrityError => exact raises_throw nofun
  | .error .staleDataError => exact raises_throw nofun

theorem deleteCompany_raises (company : Company) :
    Raises Failure.Internal (deleteCompany company) := by
  apply raises_query_bind
  intro subsidiaryCount
  split
  · exact raises_throw nofun
  · exact raises_query _

end BalanceSheetAnalysis

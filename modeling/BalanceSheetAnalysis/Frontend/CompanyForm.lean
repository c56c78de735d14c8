import BalanceSheetAnalysis.Library.Machine
import BalanceSheetAnalysis.Library.Text
import BalanceSheetAnalysis.Store.Tables

/-! The form of the companies page, and the lookup that fills in the name.  A
lookup starts when the ticker field loses focus while the name is blank; its
answer may come at any later time, and others may be in flight with it. -/
namespace BalanceSheetAnalysis.Frontend
open Library Text Machine

/-- What `trim` removes. -/
def isSpace (char : Char) : Bool :=
  char.toNat ∈ [9, 10, 11, 12, 13, 32, 160, 5760, 8232, 8233, 8239, 8287, 12288, 65279] ||
    8192 ≤ char.toNat && char.toNat ≤ 8202

def trim (text : String) : String := strip isSpace text

structure TickerSearchResult where
  ticker : String
  name : String
  exchange : String

/-- What `await lookupCompanyTickerApi` comes to: a body, or an error with the
`detail` of its response, if it had one. -/
inductive LookupAnswer where
  | data (name : Option String)
  | error (detail : Option String)

structure CompanyForm where
  showForm : Bool
  editingCompany : Option Company
  name : String
  ticker : String
  parentCompanyId : String
  isLookingUpTicker : Bool
  /-- The tickers of the lookups in flight, oldest first. -/
  lookups : List String
  toasts : List String

/-- The page as it is first rendered. -/
def CompanyForm.initial : CompanyForm := ⟨false, none, "", "", "", false, [], []⟩

/-- The handlers, with what the user or the network hands to them.  The page
offers some of them only while the form is shown; here any may come at any time. -/
inductive FormEvent where
  | setName (text : String)
  | setTicker (text : String)
  | setParentCompanyId (text : String)
  | tickerBlur
  | selectTickerSuggestion (result : TickerSearchResult)
  | openCreateForm
  | openEditForm (company : Company)
  | closeForm
  /-- The lookup with this number among those in flight is answered. -/
  | lookupAnswer (index : Nat) (answer : LookupAnswer)

namespace CompanyForm

def closeForm (form : CompanyForm) : CompanyForm :=
  { form with showForm := false, editingCompany := none, name := "", ticker := ""
              parentCompanyId := "" }

def openCreateForm (form : CompanyForm) : CompanyForm :=
  { form with showForm := true, editingCompany := none, name := "", ticker := ""
              parentCompanyId := "" }

def openEditForm (form : CompanyForm) (company : Company) : CompanyForm :=
  { form with
    showForm := true
    editingCompany := some company
    name := company.name
    ticker := company.ticker
    parentCompanyId := company.parentCompanyId.elim "" toString }

/-- `handleTickerBlur` up to the `await`. -/
def tickerBlur (form : CompanyForm) : CompanyForm :=
  let trimmedTicker := trim form.ticker
  if trimmedTicker = "" ∨ trim form.name ≠ "" then form
  else { form with isLookingUpTicker := true, lookups := form.lookups ++ [trimmedTicker] }

/-- `handleTickerBlur` from the `await` on; the empty name is falsy. -/
def lookupAnswer (form : CompanyForm) (trimmedTicker : String) : LookupAnswer → CompanyForm
  | .data (some name) =>
      if name ≠ "" then { form with name, isLookingUpTicker := false }
      else { form with
        isLookingUpTicker := false
        toasts := form.toasts ++ [s!"No company found for ticker '{trimmedTicker}'"] }
  | .data none => { form with
      isLookingUpTicker := false
      toasts := form.toasts ++ [s!"No company found for ticker '{trimmedTicker}'"] }
  | .error detail => { form with
      isLookingUpTicker := false
      toasts := form.toasts ++
        [detail.getD "Couldn't look up that ticker, enter the company name manually"] }

def step (form : CompanyForm) : FormEvent → CompanyForm
  | .setName text => { form with name := text }
  | .setTicker text => { form with ticker := text }
  | .setParentCompanyId text => { form with parentCompanyId := text }
  | .tickerBlur => form.tickerBlur
  | .selectTickerSuggestion result => { form with ticker := result.ticker, name := result.name }
  | .openCreateForm => form.openCreateForm
  | .openEditForm company => form.openEditForm company
  | .closeForm => form.closeForm
  | .lookupAnswer index answer =>
      match form.lookups[index]? with
      | none => form
      | some trimmedTicker =>
          { form with lookups := form.lookups.eraseIdx index }.lookupAnswer trimmedTicker answer

/-! What a step gives the two fields, and the lookups it leaves and starts. -/

def nameGiven (form : CompanyForm) : FormEvent → Option String
  | .setName text => some text
  | .selectTickerSuggestion result => some result.name
  | .openCreateForm | .closeForm => some ""
  | .openEditForm company => some company.name
  | .lookupAnswer index (.data name) =>
      if index < form.lookups.length then name.filter (· ≠ "") else none
  | .setTicker _ | .setParentCompanyId _ | .tickerBlur | .lookupAnswer _ (.error _) => none

def tickerGiven : FormEvent → Option String
  | .setTicker text => some text
  | .selectTickerSuggestion result => some result.ticker
  | .openCreateForm | .closeForm => some ""
  | .openEditForm company => some company.ticker
  | .setName _ | .setParentCompanyId _ | .tickerBlur | .lookupAnswer _ _ => none

def lookupsLeft (form : CompanyForm) : FormEvent → List String
  | .lookupAnswer index _ => form.lookups.eraseIdx index
  | _ => form.lookups

/-- A blur starts a lookup of the ticker, unless the name is filled in. -/
def lookupStarted (form : CompanyForm) (event : FormEvent) : List String :=
  match event with
  | .tickerBlur => if trim form.ticker = "" ∨ trim form.name ≠ "" then [] else [trim form.ticker]
  | _ => []

section LookupAnswer
variable (form : CompanyForm) (looked : String) (answer : LookupAnswer)

theorem lookupAnswer_name : (form.lookupAnswer looked answer).name =
    match answer with
    | .data name => (name.filter (· ≠ "")).getD form.name
    | .error _ => form.name := by
  unfold lookupAnswer
  cases answer with
  | error detail => rfl
  | data name =>
      cases name with
      | none => rfl
      | some name => by_cases empty : name = "" <;> simp [empty, Option.filter]

theorem lookupAnswer_ticker : (form.lookupAnswer looked answer).ticker = form.ticker := by
  unfold lookupAnswer
  split
  · split <;> rfl
  · rfl
  · rfl

theorem lookupAnswer_lookups : (form.lookupAnswer looked answer).lookups = form.lookups := by
  unfold lookupAnswer
  split
  · split <;> rfl
  · rfl
  · rfl

end LookupAnswer

section Step
variable (form : CompanyForm) (event : FormEvent)

theorem step_name : (step form event).name = (form.nameGiven event).getD form.name := by
  cases event with
  | tickerBlur =>
      simp only [step, tickerBlur, nameGiven]
      split <;> rfl
  | lookupAnswer index answer =>
      simp only [step]
      cases inFlight : form.lookups[index]? with
      | none =>
          have absent : ¬index < form.lookups.length := by
            rw [List.getElem?_eq_none_iff] at inFlight
            omega
          cases answer <;> simp [nameGiven, absent]
      | some looked =>
          have present : index < form.lookups.length := (List.getElem?_eq_some_iff.mp inFlight).1
          dsimp only
          rw [lookupAnswer_name]
          cases answer <;> simp [nameGiven, present]
  | _ => rfl

theorem step_ticker : (step form event).ticker = (tickerGiven event).getD form.ticker := by
  cases event with
  | tickerBlur =>
      simp only [step, tickerBlur, tickerGiven]
      split <;> rfl
  | lookupAnswer index answer =>
      simp only [step]
      split
      · rfl
      · exact lookupAnswer_ticker _ _ _
  | _ => rfl

theorem step_lookups :
    (step form event).lookups = form.lookupsLeft event ++ form.lookupStarted event := by
  cases event with
  | tickerBlur =>
      simp only [step, tickerBlur, lookupsLeft, lookupStarted]
      split
      · exact (List.append_nil _).symm
      · rfl
  | lookupAnswer index answer =>
      simp only [step, lookupsLeft, lookupStarted, List.append_nil]
      cases inFlight : form.lookups[index]? with
      | none => exact (List.eraseIdx_of_length_le (List.getElem?_eq_none_iff.mp inFlight)).symm
      | some looked => exact lookupAnswer_lookups _ _ _
  | _ => exact (List.append_nil _).symm

end Step

/-! What an answer finds. -/

/-- A name an answer writes, it writes over a blank one, and the ticker field
holds the ticker that was looked up. -/
def Respects (form : CompanyForm) (event : FormEvent) : Prop :=
  ∀ index name looked, event = .lookupAnswer index (.data (some name)) → name ≠ "" →
    form.lookups[index]? = some looked → trim form.name = "" ∧ trim form.ticker = looked

/-- Autofill never overwrites the user in this run. -/
def NeverOverwrites (events : List FormEvent) : Prop := Along step Respects initial events

/-- The event leaves the name blank and the ticker as it was looked up, for every
lookup it leaves in flight. -/
def Undisturbed (form : CompanyForm) (event : FormEvent) : Prop :=
  ∀ looked ∈ form.lookupsLeft event, (∀ text ∈ form.nameGiven event, trim text = "") ∧
    ∀ text ∈ tickerGiven event, trim text = looked

/-- Every lookup in flight may be answered. -/
def Ready (form : CompanyForm) : Prop :=
  ∀ looked ∈ form.lookups, trim form.name = "" ∧ trim form.ticker = looked

theorem lookupsLeft_subset (form : CompanyForm) (event : FormEvent) :
    form.lookupsLeft event ⊆ form.lookups := by
  cases event with
  | lookupAnswer index answer => exact List.eraseIdx_subset
  | _ => exact List.Subset.refl _

theorem Ready.step {form : CompanyForm} (event : FormEvent) (ready : form.Ready)
    (undisturbed : Undisturbed form event) : (form.step event).Ready := by
  intro looked member
  rw [step_lookups] at member
  rw [step_name, step_ticker]
  rcases List.mem_append.mp member with left | started
  · obtain ⟨blank, same⟩ := ready looked (lookupsLeft_subset form event left)
    obtain ⟨givenBlank, givenSame⟩ := undisturbed looked left
    constructor
    · cases given : form.nameGiven event with
      | none => exact blank
      | some text => exact givenBlank text given
    · cases given : tickerGiven event with
      | none => exact same
      | some text => exact givenSame text given
  · cases event with
    | tickerBlur =>
        unfold lookupStarted at started
        dsimp only at started
        split at started
        · cases started
        · rename_i fresh
          rw [not_or, not_not] at fresh
          exact ⟨fresh.2, (List.mem_singleton.mp started).symm⟩
    | _ => cases started

theorem Ready.respects {form : CompanyForm} (ready : form.Ready) (event : FormEvent) :
    Respects form event := by
  intro index name looked _ _ inFlight
  exact ready looked (List.mem_of_getElem? inFlight)

theorem ready_initial : initial.Ready := nofun

/-- What a disturbed lookup writes if it is answered next, it writes over the user. -/
theorem exists_not_respects {form : CompanyForm} {event : FormEvent}
    (disturbed : ¬Undisturbed form event) :
    ∃ index answer, ¬Respects (form.step event) (.lookupAnswer index answer) := by
  by_contra safe
  apply disturbed
  intro looked left
  have inFlight : looked ∈ (form.step event).lookups := by
    rw [step_lookups]
    exact List.mem_append_left _ left
  obtain ⟨index, isIndex⟩ := List.mem_iff_getElem?.mp inFlight
  have respects : Respects (form.step event) (.lookupAnswer index (.data (some "name"))) :=
    by_contra fun overwrites => safe ⟨index, _, overwrites⟩
  obtain ⟨blank, same⟩ := respects index "name" looked rfl (by decide) isIndex
  rw [step_name] at blank
  rw [step_ticker] at same
  constructor
  · intro text given
    rwa [Option.mem_def.mp given] at blank
  · intro text given
    rwa [Option.mem_def.mp given] at same

/-- A run overwrites nothing, whenever the lookups in flight are answered, exactly
when no event of it disturbs a lookup in flight. -/
theorem neverOverwrites_iff (events : List FormEvent) :
    (NeverOverwrites events ∧ ∀ before, before <+: events → ∀ index answer,
        NeverOverwrites (before ++ [.lookupAnswer index answer])) ↔
      Along step Undisturbed initial events := by
  have keeps (form : CompanyForm) (event : FormEvent) (ready : form.Ready)
      (undisturbed : Undisturbed form event) : (form.step event).Ready :=
    ready.step event undisturbed
  have promises (form : CompanyForm) (event : FormEvent) (ready : form.Ready)
      (_ : Undisturbed form event) : Respects form event := ready.respects event
  constructor
  · rintro ⟨_, always⟩
    by_contra fails
    obtain ⟨before, event, rest, rfl, disturbed⟩ := exists_of_not_along fails
    obtain ⟨index, answer, overwrites⟩ := exists_not_respects disturbed
    have along := always (before ++ [event]) ⟨rest, List.append_cons .. ▸ rfl⟩ index answer
    apply overwrites
    have last := (along_append.mp along).2
    rw [run_append] at last
    exact along_singleton.mp last
  · intro along
    refine ⟨along.promised keeps promises ready_initial, ?_⟩
    intro before isPrefix index answer
    have start := along.prefix isPrefix
    apply along_append.mpr
    exact ⟨start.promised keeps promises ready_initial,
      along_singleton.mpr ((start.invariant keeps ready_initial).respects _)⟩

end CompanyForm

/-! The user opens the form, types a ticker, and leaves its field. -/

open CompanyForm

def lookUpReliance : List FormEvent := [.openCreateForm, .setTicker "RRVL.NS ", .tickerBlur]

def relianceName : LookupAnswer := .data (some "Reliance Retail Ventures")

/-- The name is typed while the lookup is under way, and the answer replaces it. -/
theorem lateAnswer_overwrites :
    ¬NeverOverwrites (lookUpReliance ++
      [.setName "My Custom Name", .lookupAnswer 0 relianceName]) := by
  intro never
  have answered :=
    never.2.2.2.2.1 0 "Reliance Retail Ventures" "RRVL.NS" rfl (by decide) (by decide)
  exact absurd answered.1 (by decide)

end BalanceSheetAnalysis.Frontend

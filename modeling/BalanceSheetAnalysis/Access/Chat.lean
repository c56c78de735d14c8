import BalanceSheetAnalysis.Access.Documented
import BalanceSheetAnalysis.Access.RequestContext

/-! Chat against reading.  A chat about a company sends its figures to the
caller, and the three routes check three actions on three resource types, each
over all policies of the caller. -/
namespace BalanceSheetAnalysis.Access
open Library Authorization BalanceSheetAnalysis.Action

section Reach
variable {rt : Runtime}

/-- Of the other conditions only `self_only: false` can be met: the routes about a
company check without a context, and a company has no email. -/
def Meetable (policy : Policy rt) : Prop :=
  ∀ condition ∈ policy.block, condition = ("self_only", .bool false) ∨
    condition.1 = "resource_attributes" ∨ condition.1 = "time" ∨ condition.1 = "date_range"

/-- At this instant the time and date windows of the policy are open. -/
def OpenAt (policy : Policy rt) (now : ServerTime) : Prop :=
  ∀ condition ∈ policy.block, condition.1 = "time" ∨ condition.1 = "date_range" →
    satisfies rt ⟨"", none, none, now⟩ condition = true

/-- What a policy says of a company and an instant. -/
structure Reaches (policy : Policy rt) (companyId groupRootId : Int) (now : ServerTime) :
    Prop where
  meetable : Meetable policy
  meets : MeetsAttributes policy companyId groupRootId
  isOpen : OpenAt policy now

variable {request : Request} {company : Company}

/-- The clock is all that time and date windows look at. -/
theorem satisfies_window {condition : String × Json}
    (isWindow : condition.1 = "time" ∨ condition.1 = "date_range") :
    satisfies rt (bareAttempt request company) condition =
      satisfies rt ⟨"", none, none, request.now⟩ condition := by
  obtain ⟨key, value⟩ := condition
  have sameClock (tz : rt.Zone) :
      resolveCurrentDatetime rt (bareAttempt request company).now
          (bareAttempt request company).context tz =
        resolveCurrentDatetime rt request.now none tz := rfl
  rcases isWindow with isTime | isRange
  · obtain rfl : key = "time" := isTime
    exact timeCondition_congr sameClock value
  · obtain rfl : key = "date_range" := isRange
    exact dateRangeCondition_congr sameClock value

theorem meetable_of_satisfies {policy : Policy rt} {condition : String × Json}
    (member : condition ∈ policy.block)
    (holds : satisfies rt (bareAttempt request company) condition = true) :
    condition = ("self_only", .bool false) ∨
      condition.1 = "resource_attributes" ∨ condition.1 = "time" ∨ condition.1 = "date_range" := by
  obtain ⟨key, value⟩ := condition
  have accepted := policy.block_accepted member
  have registered := policy.block_key_registered member
  unfold validators at registered
  split at registered
  · cases value with
    | bool on =>
        cases on with
        | false => exact .inl rfl
        | true =>
            have noEmail : (resourceScopeDict company.id company.groupRootId).get "email" =
              .null := rfl
            simp [satisfies, conditionRegistry, selfOnlyCondition, bareAttempt, Request.attempt,
              Json.truthy, noEmail, Json.pyEq, Json.isNull] at holds
    | _ => simp [conditionErrors, validators, validateSelfOnly] at accepted
  · exact .inr (.inl rfl)
  · obtain ⟨fields, rfl, nonempty, _⟩ := policy.block_expectations rfl member
    have truthy : (Json.obj fields).truthy = true := by simpa [Json.truthy] using nonempty
    simp [satisfies, conditionRegistry, contextAttributesCondition, bareAttempt, Request.attempt,
      truthy] at holds
  · obtain ⟨fields, rfl, nonempty, _⟩ := policy.block_expectations rfl member
    have truthy : (Json.obj fields).truthy = true := by simpa [Json.truthy] using nonempty
    simp [satisfies, conditionRegistry, securityContextCondition, bareAttempt, Request.attempt,
      truthy] at holds
  · exact .inr (.inr (.inl rfl))
  · exact .inr (.inr (.inr rfl))
  · have unmet : satisfies rt (bareAttempt request company) ("network", value) = false :=
      networkCondition_bare value _
    exact absurd (unmet.symm.trans holds) Bool.false_ne_true
  · simp at registered

theorem satisfied_iff_reaches (policy : Policy rt) :
    policy.Satisfied (bareAttempt request company) ↔
      Reaches policy company.id company.groupRootId request.now := by
  constructor
  · intro satisfied
    refine ⟨fun condition member => meetable_of_satisfies member (satisfied condition member),
      meetsAttributes_of_satisfied rfl satisfied, ?_⟩
    intro condition member isWindow
    rw [← satisfies_window isWindow]
    exact satisfied condition member
  · rintro ⟨meetable, meets, isOpen⟩ ⟨key, value⟩ member
    rcases meetable _ member with off | attributes | isWindow
    · cases off
      rfl
    · obtain rfl : key = "resource_attributes" := attributes
      obtain ⟨fields, rfl, nonempty, isSome⟩ := attributesOf_of_mem_block member
      exact (resourceAttributes_met_iff nonempty rfl).mpr (meets fields isSome)
    · rw [satisfies_window isWindow]
      exact isOpen _ member isWindow

end Reach

section Written
variable {rt : Runtime} {policy reader : Policy rt} {policies : List (Policy rt)}

/-! Two policies compared by what they expect of a company. -/

/-- The id the policy gives, as the number Python takes it for. -/
def givenId (policy : Policy rt) (field : String) : Option ℚ :=
  (named policy field).bind Json.number

/-- A company can be as the policy expects, which is an integer for an id and
null for any other field. -/
def Attainable (policy : Policy rt) : Prop :=
  ∀ attributes, attributesOf policy = some attributes → ∀ field wanted,
    (field, wanted) ∈ attributes →
      if field ∈ ["company_id", "group_root_id"] then ∃ id : Int, wanted.number = some (id : ℚ)
      else wanted = .null

/-- Whatever id the reader gives, the policy gives too. -/
def NoNarrower (reader policy : Policy rt) : Prop :=
  Attainable reader ∧ ∀ field ∈ ["company_id", "group_root_id"], ∀ id,
    givenId reader field = some id → givenId policy field = some id

theorem givenId_of_member {attributes : Dict} (isSome : attributesOf policy = some attributes)
    {field : String} {wanted : Json} (member : (field, wanted) ∈ attributes) :
    givenId policy field = wanted.number := by
  obtain ⟨inBlock, _⟩ := mem_block_of_attributesOf isSome
  obtain ⟨fields, same, _, distinct⟩ := policy.block_expectations rfl inBlock
  cases same
  rw [givenId, named, isSome, Option.bind_some, Dict.find?_of_mem distinct member,
    Option.bind_some]

/-- Both fields of the resource are integers. -/
theorem exists_id (companyId groupRootId : Int) {field : String}
    (isId : field ∈ ["company_id", "group_root_id"]) :
    ∃ id, (resourceScopeDict companyId groupRootId).get field = .int id := by
  rcases List.mem_pair.mp isId with rfl | rfl
  · exact ⟨companyId, rfl⟩
  · exact ⟨groupRootId, rfl⟩

theorem meetsAttributes_iff {companyId groupRootId : Int} :
    MeetsAttributes policy companyId groupRootId ↔ Attainable policy ∧
      ∀ field ∈ ["company_id", "group_root_id"], ∀ id, givenId policy field = some id →
        ((resourceScopeDict companyId groupRootId).get field).number = some id := by
  constructor
  · intro meets
    constructor
    · intro attributes isSome field wanted member
      have equal := meets attributes isSome field wanted member
      split
      · rename_i isId
        obtain ⟨id, isInt⟩ := exists_id companyId groupRootId isId
        rw [isInt, Json.pyEq_int] at equal
        exact ⟨id, equal⟩
      · rename_i notId
        rw [List.mem_pair, not_or] at notId
        rwa [resourceScopeDict_other _ _ notId.1 notId.2, Json.pyEq_null] at equal
    · intro field _ id given
      obtain ⟨wanted, isNamed, isNumber⟩ := Option.bind_eq_some_iff.mp given
      obtain ⟨attributes, isSome, found⟩ := Option.bind_eq_some_iff.mp isNamed
      have equal := meets attributes isSome field wanted (Dict.mem_of_find? found)
      rw [pyEq_number equal, isNumber]
  · rintro ⟨attainable, given⟩ attributes isSome field wanted member
    have expected := attainable attributes isSome field wanted member
    split at expected
    · rename_i isId
      obtain ⟨id, isNumber⟩ := expected
      have isGiven : givenId policy field = some (id : ℚ) :=
        (givenId_of_member isSome member).trans isNumber
      have same := given field isId id isGiven
      obtain ⟨held, isInt⟩ := exists_id companyId groupRootId isId
      rw [isInt] at same ⊢
      rw [Json.pyEq_int, isNumber, ← same]
      rfl
    · rename_i notId
      rw [List.mem_pair, not_or] at notId
      rw [resourceScopeDict_other _ _ notId.1 notId.2, Json.pyEq_null]
      exact expected

theorem meetsAttributes_of_noNarrower (noNarrower : NoNarrower reader policy)
    {companyId groupRootId : Int} (meets : MeetsAttributes policy companyId groupRootId) :
    MeetsAttributes reader companyId groupRootId := by
  rw [meetsAttributes_iff] at meets ⊢
  exact ⟨noNarrower.1, fun field isId id given =>
    meets.2 field isId id (noNarrower.2 field isId id given)⟩

/-- No policy gives a fresh id. -/
theorem exists_fresh (policies : List (Policy rt)) (field : String) :
    ∃ fresh : Int, ∀ reader ∈ policies, givenId reader field ≠ some (fresh : ℚ) := by
  obtain ⟨fresh, isFresh⟩ := Infinite.exists_notMem_finset
    (policies.map fun reader => ((givenId reader field).getD 0).floor).toFinset
  refine ⟨fresh, fun reader member given => isFresh ?_⟩
  rw [List.mem_toFinset]
  refine List.mem_map.mpr ⟨reader, member, ?_⟩
  rw [given, Option.getD_some]
  exact Rat.floor_intCast fresh

/-- The id the policy gives or, as it gives none, one that no policy gives. -/
theorem exists_typicalId (policies : List (Policy rt)) (attainable : Attainable policy)
    {field : String} (isId : field ∈ ["company_id", "group_root_id"]) :
    ∃ typical : Int, (∀ id, givenId policy field = some id → (typical : ℚ) = id) ∧
      ∀ reader ∈ policies, givenId reader field = some (typical : ℚ) →
        givenId policy field = some (typical : ℚ) := by
  cases given : givenId policy field with
  | none =>
      obtain ⟨fresh, isFresh⟩ := exists_fresh policies field
      exact ⟨fresh, nofun, fun reader member same => absurd same (isFresh reader member)⟩
  | some id =>
      obtain ⟨wanted, isNamed, isNumber⟩ := Option.bind_eq_some_iff.mp given
      obtain ⟨attributes, isSome, found⟩ := Option.bind_eq_some_iff.mp isNamed
      have expected := attainable attributes isSome field wanted (Dict.mem_of_find? found)
      rw [if_pos isId] at expected
      obtain ⟨typical, same⟩ := expected
      obtain rfl : id = typical := Option.some.inj (isNumber.symm.trans same)
      exact ⟨typical, fun _ => Option.some.inj, fun _ _ _ => rfl⟩

/-- On a company of its own, whatever policy meets what it expects is no narrower. -/
theorem exists_typical (policies : List (Policy rt)) (attainable : Attainable policy) :
    ∃ companyId groupRootId, MeetsAttributes policy companyId groupRootId ∧
      ∀ reader ∈ policies, MeetsAttributes reader companyId groupRootId →
        NoNarrower reader policy := by
  obtain ⟨companyId, ownCompany, companyOnly⟩ :=
    exists_typicalId policies attainable (List.mem_pair.mpr (.inl rfl))
  obtain ⟨groupRootId, ownGroup, groupOnly⟩ :=
    exists_typicalId policies attainable (List.mem_pair.mpr (.inr rfl))
  refine ⟨companyId, groupRootId, meetsAttributes_iff.mpr ⟨attainable, ?_⟩, ?_⟩
  · intro field isId id given
    rcases List.mem_pair.mp isId with rfl | rfl
    · exact congrArg some (ownCompany id given)
    · exact congrArg some (ownGroup id given)
  · intro reader member meets
    obtain ⟨isAttainable, holds⟩ := meetsAttributes_iff.mp meets
    refine ⟨isAttainable, fun field isId id given => ?_⟩
    have held := holds field isId id given
    rcases List.mem_pair.mp isId with rfl | rfl
    · cases held
      exact companyOnly reader member given
    · cases held
      exact groupOnly reader member given

end Written

section Chat
variable {rt : Runtime} {activePolicies : String → List (Policy rt)} {db : Database}
  {store : Store} {company : Company}

/-- Some policy for the action reaches the company at this instant. -/
def AnyReaches (policies : List (Policy rt)) (action resourceType : String)
    (companyId groupRootId : Int) (now : ServerTime) : Prop :=
  ∃ policy ∈ policies, policy.AppliesTo action resourceType ∧
    Reaches policy companyId groupRootId now

theorem passes_iff_anyReaches {request : Request} {endpoint : Endpoint} {check : CompanyCheck}
    (isCheck : endpoint.companyCheck = some check)
    (found : store.findCompany check.companyId = some company) :
    Passes activePolicies db store ⟨request, endpoint⟩ ↔
      AnyReaches (activePolicies request.userEmail) check.action check.resourceType company.id
        company.groupRootId request.now := by
  rw [passes_iff_allows isCheck found, Allows, evaluate_eq_true, AnyReaches]
  simp only [← satisfied_iff_reaches]
  rfl

/-- Whenever the caller may chat about the company, it may read the company and
its balance sheets. -/
def ChatWithinReads (activePolicies : String → List (Policy rt)) (userEmail : String)
    (db : Database) (store : Store) (company : Company) : Prop :=
  ∀ request askGroq years question, request.userEmail = userEmail →
    Passes activePolicies db store ⟨request, .chat askGroq ⟨company.id, years, question⟩⟩ →
      Passes activePolicies db store ⟨request, .getCompany company.id⟩ ∧
        Passes activePolicies db store ⟨request, .listCompanyBalanceSheets company.id⟩

/-- Whatever instant a policy for chat reaches the company at, policies for the
two reads reach it too, be they one or several. -/
def ChatCovered (policies : List (Policy rt)) (companyId groupRootId : Int) : Prop :=
  ∀ policy ∈ policies, policy.AppliesTo LLM_CHAT RESOURCE_LLM →
    ∀ now, Reaches policy companyId groupRootId now →
      AnyReaches policies COMPANY_READ RESOURCE_COMPANY companyId groupRootId now ∧
        AnyReaches policies BALANCE_SHEET_READ RESOURCE_BALANCE_SHEET companyId groupRootId now

theorem chatWithinReads_iff (found : store.findCompany company.id = some company)
    (userEmail : String) :
    ChatWithinReads activePolicies userEmail db store company ↔
      ChatCovered (activePolicies userEmail) company.id company.groupRootId := by
  have read (request : Request) : Passes activePolicies db store
      ⟨request, .getCompany company.id⟩ ↔ _ := passes_iff_anyReaches rfl found
  have sheets (request : Request) : Passes activePolicies db store
      ⟨request, .listCompanyBalanceSheets company.id⟩ ↔ _ := passes_iff_anyReaches rfl found
  constructor
  · intro within policy member applies now reaches
    let request : Request := ⟨userEmail, none, now⟩
    have both := within request (fun _ _ => .ok "") none ⟨"a question", by decide⟩ rfl
      ((passes_iff_anyReaches rfl found).mpr ⟨policy, member, applies, reaches⟩)
    exact ⟨(read request).mp both.1, (sheets request).mp both.2⟩
  · rintro covered request askGroq years question rfl chats
    obtain ⟨policy, member, applies, reaches⟩ := (passes_iff_anyReaches rfl found).mp chats
    have both := covered policy member applies request.now reaches
    exact ⟨(read request).mpr both.1, (sheets request).mpr both.2⟩

/-- A policy for the action that is open at this instant is no narrower. -/
def AnyNoNarrower (policies : List (Policy rt)) (action resourceType : String)
    (policy : Policy rt) (now : ServerTime) : Prop :=
  ∃ reader ∈ policies, reader.AppliesTo action resourceType ∧ Meetable reader ∧
    OpenAt reader now ∧ NoNarrower reader policy

/-- Each policy for chat that can grant at all stands, as long as its windows are
open, beside no narrower ones for the two reads. -/
def ChatBacked (policies : List (Policy rt)) : Prop :=
  ∀ policy ∈ policies, policy.AppliesTo LLM_CHAT RESOURCE_LLM → Meetable policy →
    Attainable policy → ∀ now, OpenAt policy now →
      AnyNoNarrower policies COMPANY_READ RESOURCE_COMPANY policy now ∧
        AnyNoNarrower policies BALANCE_SHEET_READ RESOURCE_BALANCE_SHEET policy now

theorem anyReaches_of_anyNoNarrower {policies : List (Policy rt)} {action resourceType : String}
    {policy : Policy rt} {companyId groupRootId : Int} {now : ServerTime}
    (meets : MeetsAttributes policy companyId groupRootId)
    (backed : AnyNoNarrower policies action resourceType policy now) :
    AnyReaches policies action resourceType companyId groupRootId now := by
  obtain ⟨reader, member, applies, meetable, isOpen, noNarrower⟩ := backed
  exact ⟨reader, member, applies, meetable, meetsAttributes_of_noNarrower noNarrower meets,
    isOpen⟩

theorem chatCovered_forall_iff {policies : List (Policy rt)} :
    (∀ companyId groupRootId, ChatCovered policies companyId groupRootId) ↔
      ChatBacked policies := by
  constructor
  · intro covered policy member applies meetable attainable now isOpen
    obtain ⟨companyId, groupRootId, meets, typical⟩ := exists_typical policies attainable
    have backs {action resourceType : String}
        (reached : AnyReaches policies action resourceType companyId groupRootId now) :
        AnyNoNarrower policies action resourceType policy now := by
      obtain ⟨reader, inside, isFor, reaches⟩ := reached
      exact ⟨reader, inside, isFor, reaches.meetable, reaches.isOpen,
        typical reader inside reaches.meets⟩
    have both := covered companyId groupRootId policy member applies now ⟨meetable, meets, isOpen⟩
    exact ⟨backs both.1, backs both.2⟩
  · intro backed companyId groupRootId policy member applies now reaches
    have both := backed policy member applies reaches.meetable
      (meetsAttributes_iff.mp reaches.meets).1 now reaches.isOpen
    exact ⟨anyReaches_of_anyNoNarrower reaches.meets both.1,
      anyReaches_of_anyNoNarrower reaches.meets both.2⟩

/-- A policy for chat on resources of every type that also has the two read
actions, as the seeded policies for chat are. -/
def Bundled (policy : Policy rt) : Prop :=
  policy.resourceType = "*" ∧ COMPANY_READ ∈ policy.actions ∧ BALANCE_SHEET_READ ∈ policy.actions

theorem chatBacked_of_bundled {policies : List (Policy rt)}
    (bundled : ∀ policy ∈ policies, policy.AppliesTo LLM_CHAT RESOURCE_LLM → Bundled policy) :
    ChatBacked policies := by
  intro policy member applies meetable attainable now isOpen
  obtain ⟨everyType, reads, readsSheets⟩ := bundled policy member applies
  have itself : NoNarrower policy policy := ⟨attainable, fun _ _ _ given => given⟩
  exact ⟨⟨policy, member, ⟨.inr everyType, reads⟩, meetable, isOpen, itself⟩,
    ⟨policy, member, ⟨.inr everyType, readsSheets⟩, meetable, isOpen, itself⟩⟩

/-- Whoever may chat about a company may read it and its balance sheets: for all
companies exactly if each policy for chat stands beside no narrower ones for the
reads, as it does if it bundles them; for one company exactly if policies for the
reads reach it whenever one for chat does. -/
theorem chat_within_reads_iff (activePolicies : String → List (Policy rt)) (userEmail : String)
    (db : Database) :
    ((∀ store company, store.findCompany company.id = some company →
        ChatWithinReads activePolicies userEmail db store company) ↔
      ChatBacked (activePolicies userEmail)) ∧
    ((∀ policy ∈ activePolicies userEmail, policy.AppliesTo LLM_CHAT RESOURCE_LLM →
        Bundled policy) → ChatBacked (activePolicies userEmail)) ∧
    ∀ store company, store.findCompany company.id = some company →
      (ChatWithinReads activePolicies userEmail db store company ↔
        ChatCovered (activePolicies userEmail) company.id company.groupRootId) := by
  refine ⟨?_, chatBacked_of_bundled, fun store company found => chatWithinReads_iff found userEmail⟩
  rw [← chatCovered_forall_iff]
  constructor
  · intro within companyId groupRootId
    let company : Company := ⟨companyId, "", "", none, groupRootId, 0⟩
    let store : Store := { Store.empty with companies := [company] }
    have found : store.findCompany company.id = some company := by
      simp [store, company, Store.findCompany, Table.find]
    exact (chatWithinReads_iff found userEmail).mp (within store company found)
  · intro covered store company found
    exact (chatWithinReads_iff found userEmail).mpr (covered company.id company.groupRootId)

end Chat

/-! A caller whose one policy is for chat, and one whose policy bundles the reads. -/

def chatPolicies (_userEmail : String) : List (Policy utcRuntime) := [policyForAll [LLM_CHAT]]

def bundledPolicies (_userEmail : String) : List (Policy utcRuntime) :=
  [policyForAll [LLM_CHAT, COMPANY_READ, BALANCE_SHEET_READ]]

def howMuchDebt : Text 2000 := ⟨"How much debt?", by decide⟩

def answerNone : AskGroq := fun _ _ => .ok "None."

theorem chat_within_reads_iff_jio :
    ChatWithinReads bundledPolicies "reader@example.com" Database.counting onlyJio jio := by
  obtain ⟨everywhere, backed, _⟩ :=
    chat_within_reads_iff bundledPolicies "reader@example.com" Database.counting
  refine everywhere.mpr (backed ?_) onlyJio jio rfl
  intro policy member _
  rw [List.mem_singleton.mp member]
  exact ⟨rfl, by decide, by decide⟩

/-- The chat is answered, and reading the company is forbidden. -/
theorem chat_unread :
    ¬ChatWithinReads chatPolicies inOffice.userEmail Database.counting onlyJio jio := by
  intro within
  have chats : Passes chatPolicies Database.counting onlyJio
      ⟨inOffice, .chat answerNone ⟨1, none, howMuchDebt⟩⟩ := by
    have isCheck : (Endpoint.chat answerNone ⟨1, none, howMuchDebt⟩).companyCheck =
        some ⟨LLM_CHAT, RESOURCE_LLM, 1⟩ := rfl
    have found : onlyJio.findCompany 1 = some jio := rfl
    rw [passes_iff_allows isCheck found]
    rfl
  exact (within inOffice answerNone none howMuchDebt rfl chats).1 rfl

end BalanceSheetAnalysis.Access

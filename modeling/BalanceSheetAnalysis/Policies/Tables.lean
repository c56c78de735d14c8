import BalanceSheetAnalysis.Library.Table
import BalanceSheetAnalysis.Policies.Promises

/-! What one command makes of a policy, of who holds it, of its history and of
the cache. -/
namespace BalanceSheetAnalysis.Policies
open Library
open Authorization hiding Policy PolicyUpdate

variable {rt : Runtime} {keyspace : Keyspace}

def UserPolicy.link (held : UserPolicy) : Int × Int := (held.userId, held.policyId)

namespace Store

/-- Ids are distinct, and the sequence is past all of them; nobody holds a policy
twice. -/
structure WellFormed (store : Store rt) : Prop where
  keyed : Table.Keyed Policy.id store.policies
  drawn : ∀ policy ∈ store.policies, policy.id < store.policySequence
  held : Table.Keyed UserPolicy.link store.userPolicies

variable {store : Store rt}

theorem named_eq_some {name : String} {policy : Policy rt}
    (found : store.named name = some policy) :
    policy ∈ store.policies ∧ policy.definition.name = name :=
  ⟨List.mem_of_find?_eq_some found, by simpa using List.find?_some found⟩

theorem WellFormed.find_named (wellFormed : store.WellFormed) {name : String} {policy : Policy rt}
    (found : store.named name = some policy) : store.findPolicy policy.id = some policy :=
  Table.find_of_mem wellFormed.keyed (named_eq_some found).1

theorem WellFormed.find_drawn (wellFormed : store.WellFormed) :
    store.findPolicy store.policySequence = none := by
  apply Table.find_eq_none.mpr
  intro policy member same
  exact absurd (wellFormed.drawn policy member) (by rw [same]; exact lt_irrefl _)

/-- What a command may make of the policies. -/
theorem policies_of_exec (keyspace : Keyspace) (op : Command rt) (store : Store rt) :
    ((exec keyspace op store).2.policies = store.policies ∧
      store.policySequence ≤ (exec keyspace op store).2.policySequence) ∨
    (∃ definition createdBy, op = .insertPolicy definition createdBy ∧
      (exec keyspace op store).2.policies =
        store.policies ++ [⟨store.policySequence, definition, some createdBy⟩] ∧
      (exec keyspace op store).2.policySequence = store.policySequence + 1) ∨
    (∃ loaded new change, op = .updatePolicy loaded new change ∧
      (exec keyspace op store).2.policies =
        Table.modify Policy.id store.policies loaded.id (fun policy =>
          { policy with definition := loaded.definition.write new policy.definition }) ∧
      (exec keyspace op store).2.policySequence = store.policySequence) ∨
    ∃ loaded changedBy changeReason, op = .deletePolicy loaded changedBy changeReason ∧
      (exec keyspace op store).2.policies = Table.remove Policy.id store.policies loaded.id ∧
      (exec keyspace op store).2.policySequence = store.policySequence := by
  cases op with
  | insertPolicy definition createdBy =>
      simp only [exec, insertPolicy]
      split
      · exact .inl ⟨rfl, by simp⟩
      · exact .inr (.inl ⟨definition, createdBy, rfl, rfl, rfl⟩)
  | updatePolicy loaded new change =>
      simp only [exec, updatePolicy]
      split
      · exact .inl ⟨rfl, le_rfl⟩
      · split
        · exact .inl ⟨rfl, le_rfl⟩
        · split
          · exact .inl ⟨rfl, le_rfl⟩
          · exact .inr (.inr (.inl ⟨loaded, new, change, rfl, rfl, rfl⟩))
  | deletePolicy loaded changedBy changeReason =>
      exact .inr (.inr (.inr ⟨loaded, changedBy, changeReason, rfl, rfl, rfl⟩))
  | setUserPolicies | deleteKey =>
      simp only [exec, setCache]
      split <;> exact .inl ⟨rfl, le_rfl⟩
  | insertUserPolicy =>
      simp only [exec, insertUserPolicy]
      split <;> exact .inl ⟨rfl, le_rfl⟩
  | _ => exact .inl ⟨rfl, le_rfl⟩

/-- What a command may make of the policy with an id. -/
theorem WellFormed.find_of_exec (keyspace : Keyspace) (wellFormed : store.WellFormed)
    (op : Command rt) (policyId : Int) :
    (Store.exec keyspace op store).2.findPolicy policyId = store.findPolicy policyId ∨
    (∃ definition createdBy, op = .insertPolicy definition createdBy ∧
      store.findPolicy policyId = none ∧ (Store.exec keyspace op store).2.findPolicy policyId =
        some ⟨policyId, definition, some createdBy⟩) ∨
    (∃ loaded new change row, op = .updatePolicy loaded new change ∧ loaded.id = policyId ∧
      store.findPolicy policyId = some row ∧ (Store.exec keyspace op store).2.findPolicy policyId =
        some { row with definition := loaded.definition.write new row.definition }) ∨
    ∃ loaded changedBy changeReason, op = .deletePolicy loaded changedBy changeReason ∧
      loaded.id = policyId ∧ (Store.exec keyspace op store).2.findPolicy policyId = none := by
  unfold findPolicy
  rcases policies_of_exec keyspace op store with
    ⟨same, _⟩ | ⟨definition, createdBy, isOp, same, _⟩ | ⟨loaded, new, change, isOp, same, _⟩ |
    ⟨loaded, changedBy, changeReason, isOp, same, _⟩
  · exact .inl (by rw [same])
  · let new : Policy rt := ⟨store.policySequence, definition, some createdBy⟩
    have added : Table.find Policy.id (store.policies ++ [new]) =
        Function.update (Table.find Policy.id store.policies) new.id (some new) :=
      Table.find_append new fun other member => (wellFormed.drawn other member).ne
    rw [same, added]
    by_cases isNew : policyId = store.policySequence
    · subst isNew
      exact .inr (.inl ⟨definition, createdBy, isOp, wellFormed.find_drawn,
        Function.update_self _ _ _⟩)
    · exact .inl (Function.update_of_ne isNew _ _)
  · have edited : Table.find Policy.id (Table.modify Policy.id store.policies loaded.id
        fun policy => { policy with
          definition := loaded.definition.write new policy.definition }) =
        Function.update (Table.find Policy.id store.policies) loaded.id _ :=
      Table.find_modify fun _ => rfl
    rw [same, edited]
    by_cases own : policyId = loaded.id
    · subst own
      rw [Function.update_self]
      cases found : Table.find Policy.id store.policies loaded.id with
      | none => exact .inl rfl
      | some row => exact .inr (.inr (.inl ⟨loaded, new, change, row, isOp, rfl, rfl, rfl⟩))
    · exact .inl (Function.update_of_ne own _ _)
  · rw [same, Table.find_remove]
    by_cases own : policyId = loaded.id
    · subst own
      exact .inr (.inr (.inr ⟨loaded, changedBy, changeReason, isOp, rfl, by simp⟩))
    · exact .inl (Function.update_of_ne own _ _)

/-- What a command may make of the assignments. -/
theorem userPolicies_of_exec (keyspace : Keyspace) (op : Command rt) (store : Store rt) :
    (exec keyspace op store).2.userPolicies = store.userPolicies ∨
    (∃ new, op = .insertUserPolicy new ∧ (∀ held ∈ store.userPolicies, held.link ≠ new.link) ∧
      (exec keyspace op store).2.userPolicies = store.userPolicies ++ [new]) ∨
    (∃ userId policyId, op = .deleteUserPolicy userId policyId ∧
      (exec keyspace op store).2.userPolicies = store.userPolicies.filter fun held =>
        ¬(held.userId = userId ∧ held.policyId = policyId)) ∨
    ∃ loaded changedBy changeReason, op = .deletePolicy loaded changedBy changeReason ∧
      (exec keyspace op store).2.userPolicies =
        store.userPolicies.filter (·.policyId ≠ loaded.id) := by
  cases op with
  | insertUserPolicy new =>
      simp only [exec, insertUserPolicy]
      split
      · exact .inl rfl
      · rename_i accepted
        refine .inr (.inl ⟨new, rfl, fun held member same => accepted (.inl ?_), rfl⟩)
        have ids := Prod.mk.inj same
        exact List.any_eq_true.mpr ⟨held, member, by simpa using ids⟩
  | deleteUserPolicy userId policyId => exact .inr (.inr (.inl ⟨userId, policyId, rfl, rfl⟩))
  | deletePolicy loaded changedBy changeReason =>
      exact .inr (.inr (.inr ⟨loaded, changedBy, changeReason, rfl, rfl⟩))
  | setUserPolicies | deleteKey =>
      simp only [exec, setCache]
      split <;> exact .inl rfl
  | insertPolicy =>
      simp only [exec, insertPolicy]
      split <;> exact .inl rfl
  | updatePolicy =>
      simp only [exec, updatePolicy]
      split
      · exact .inl rfl
      · split
        · exact .inl rfl
        · split <;> exact .inl rfl
  | _ => exact .inl rfl

theorem WellFormed.keyed_exec (wellFormed : store.WellFormed) (op : Command rt) :
    Table.Keyed Policy.id (Store.exec keyspace op store).2.policies := by
  rcases policies_of_exec keyspace op store with
    ⟨same, _⟩ | ⟨_, _, _, same, _⟩ | ⟨_, _, _, _, same, _⟩ | ⟨_, _, _, _, same, _⟩
  · exact same ▸ wellFormed.keyed
  · rw [same]
    exact wellFormed.keyed.append fun other member => (wellFormed.drawn other member).ne
  · rw [same]
    exact wellFormed.keyed.modify fun _ => rfl
  · rw [same]
    exact wellFormed.keyed.filter _

theorem WellFormed.drawn_exec (wellFormed : store.WellFormed) (op : Command rt) :
    ∀ policy ∈ (Store.exec keyspace op store).2.policies,
      policy.id < (Store.exec keyspace op store).2.policySequence := by
  intro policy member
  rcases policies_of_exec keyspace op store with
    ⟨same, grows⟩ | ⟨_, _, _, same, drawn⟩ | ⟨_, _, _, _, same, drawn⟩ | ⟨_, _, _, _, same, drawn⟩
  · exact (wellFormed.drawn policy (same ▸ member)).trans_le grows
  · rw [same, List.mem_append, List.mem_singleton] at member
    rw [drawn]
    rcases member with old | rfl
    · exact (wellFormed.drawn policy old).trans (Int.lt_succ _)
    · exact Int.lt_succ _
  · rw [same] at member
    rw [drawn]
    obtain ⟨old, inside, rfl⟩ := Table.mem_modify.mp member
    have bound := wellFormed.drawn old inside
    split <;> exact bound
  · rw [same] at member
    rw [drawn]
    exact wellFormed.drawn policy (Table.mem_remove.mp member).1

theorem WellFormed.held_exec (wellFormed : store.WellFormed) (op : Command rt) :
    Table.Keyed UserPolicy.link (Store.exec keyspace op store).2.userPolicies := by
  rcases userPolicies_of_exec keyspace op store with
    same | ⟨_, _, fresh, same⟩ | ⟨_, _, _, same⟩ | ⟨_, _, _, _, same⟩
  · exact same ▸ wellFormed.held
  · rw [same]
    exact wellFormed.held.append fresh
  · rw [same]
    exact wellFormed.held.filter _
  · rw [same]
    exact wellFormed.held.filter _

theorem WellFormed.exec (wellFormed : store.WellFormed) (op : Command rt) :
    (Store.exec keyspace op store).2.WellFormed :=
  ⟨wellFormed.keyed_exec op, wellFormed.drawn_exec op, wellFormed.held_exec op⟩

theorem users_exec (op : Command rt) (store : Store rt) :
    (exec keyspace op store).2.users = store.users := by
  cases op <;> simp only [exec, setCache, insertPolicy, updatePolicy, insertUserPolicy] <;>
    (try split) <;> (try split) <;> (try split) <;> rfl

/-- What is in the cache was there, or is stored now. -/
theorem cache_of_exec {op : Command rt} {userEmail : String} {entry : CacheEntry rt}
    (stored : (userEmail, entry) ∈ (exec keyspace op store).2.cache) :
    (userEmail, entry) ∈ store.cache ∨ op = .setUserPolicies userEmail entry.policies := by
  cases op with
  | setUserPolicies email policies =>
      simp only [exec, setCache] at stored
      split at stored
      · simp only [Option.map_some, Option.toList_some, List.mem_append, List.mem_singleton,
          Table.mem_remove] at stored
        rcases stored with old | new
        · exact .inl old.1
        · cases new
          exact .inr rfl
      · exact .inl stored
  | deleteKey email =>
      simp only [exec, setCache] at stored
      split at stored
      · simp only [Option.map_none, Option.toList_none, List.append_nil, Table.mem_remove] at stored
        exact .inl stored.1
      · exact .inl stored
  | insertPolicy =>
      simp only [exec, insertPolicy] at stored
      split at stored <;> exact .inl stored
  | updatePolicy =>
      simp only [exec, updatePolicy] at stored
      split at stored
      · exact .inl stored
      · split at stored
        · exact .inl stored
        · split at stored <;> exact .inl stored
  | insertUserPolicy =>
      simp only [exec, insertUserPolicy] at stored
      split at stored <;> exact .inl stored
  | _ => exact .inl stored

end Store
end BalanceSheetAnalysis.Policies

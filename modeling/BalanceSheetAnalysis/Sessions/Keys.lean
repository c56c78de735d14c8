import BalanceSheetAnalysis.Sessions.Obedience

/-! The keys of Redis do not run into each other, and what a command can do to
one of them. -/
namespace BalanceSheetAnalysis.Sessions
open Library
open RateLimiter (Fate)

theorem accountVersionKey_injective : Function.Injective accountVersionKey :=
  fun _ _ same => (String.append_right_inj _).mp same

theorem revokedKey_injective : Function.Injective revokedKey :=
  fun _ _ same => (String.append_right_inj _).mp same

theorem accountVersionKey_ne_chainVersionKey (email owner chainId : String) :
    accountVersionKey email ≠ chainVersionKey owner chainId := by
  intro same
  have texts := congrArg String.toList same
  simp [accountVersionKey, chainVersionKey] at texts

theorem accountVersionKey_ne_revokedKey (email jti : String) :
    accountVersionKey email ≠ revokedKey jti := by
  intro same
  have texts := congrArg String.toList same
  simp [accountVersionKey, revokedKey] at texts

theorem chainVersionKey_ne_revokedKey (email chainId jti : String) :
    chainVersionKey email chainId ≠ revokedKey jti := by
  intro same
  have texts := congrArg String.toList same
  simp [chainVersionKey, revokedKey] at texts

theorem takeWhile_to_colon {id rest : List Char} (plain : ':' ∉ id) :
    (id ++ ':' :: rest).takeWhile (· ≠ ':') = id := by
  rw [List.takeWhile_append_of_pos fun char inside => by grind]
  simp

/-- Of an address without a colon, the first colon after the prefix is the end. -/
theorem chainVersionKey_owner {email owner chainId chainId' : String}
    (plain : ':' ∉ email.toList) (plain' : ':' ∉ owner.toList)
    (same : chainVersionKey email chainId = chainVersionKey owner chainId') : email = owner := by
  have texts := congrArg String.toList same
  simp only [chainVersionKey, String.toList_append, List.append_assoc] at texts
  have cut (address : String) (plain : ':' ∉ address.toList) (rest : List Char) :
      (address.toList ++ ((":" : String).toList ++ rest)).takeWhile (· ≠ ':') =
        address.toList := takeWhile_to_colon plain
  have addresses := congrArg (List.takeWhile (· ≠ ':')) (List.append_cancel_left texts)
  rw [cut _ plain, cut _ plain'] at addresses
  exact String.toList_injective addresses

namespace Store

variable {op : Command} {store : Store}

theorem exec_outside (op : Command) (store : Store) :
    (exec op store).2.outside = store.outside := by
  cases op <;> simp only [exec] <;> (try split) <;> simp [put, commit, next] <;> split <;> rfl

theorem exec_issued (op : Command) (store : Store) :
    (exec op store).2.issued = store.issued + 1 := by
  cases op <;> simp only [exec] <;> (try split) <;> simp [put, commit, next] <;> split <;> rfl

theorem now_le_exec (op : Command) (store : Store) : store.now ≤ (exec op store).2.now := by
  rw [now, now, exec_outside, exec_issued]
  exact store.outside.monotone (Nat.le_succ _)

theorem exec_signed (op : Command) (store : Store) :
    (exec op store).2.signed =
      match op with
      | .encode token => token :: store.signed
      | _ => store.signed := by
  cases op <;> simp only [exec] <;> (try split) <;> simp [put, commit, next] <;> split <;> rfl

theorem find_eq_some {key : String} {entry : Entry} :
    store.find key = some entry ↔ store.keys key = some entry ∧ entry.Live store.now := by
  simp [find, Option.filter_eq_some_iff]

theorem find_eq_none {key : String} :
    store.find key = none ↔ ∀ entry, store.keys key = some entry → ¬entry.Live store.now := by
  simp [find]

/-- A key without a deadline stays. -/
theorem find_of_lasting {key : String} {value : Value}
    (stored : store.keys key = some ⟨value, none⟩) : store.find key = some ⟨value, none⟩ := by
  simp [find, stored, Entry.Live]

/-- What a command may make of a key. -/
theorem key_of_exec (op : Command) (store : Store) (key : String) :
    (exec op store).2.keys key = store.keys key ∨
    (∃ seconds, op = .setNx key seconds ∧ store.find key = none ∧
      (exec op store).2.keys key = some ⟨.flag, some (store.now + microseconds seconds)⟩) ∨
    (∃ n deadline, op = .incr key ∧
      incremented (store.find key) = some ⟨.number n, deadline⟩ ∧
      (exec op store).2.keys key = some ⟨.number n, deadline⟩) ∨
    ∃ seconds entry, op = .expire key seconds ∧ store.find key = some entry ∧
      (exec op store).2.keys key =
        some { entry with deadline := some (store.now + microseconds seconds) } := by
  have putKey (key' : String) (entry : Option Entry) : (store.put key' entry).keys key =
      store.keys key ∨ key' = key ∧ (store.put key' entry).keys key = entry := by
    unfold put
    by_cases effect : store.fate.takesEffect = true
    · by_cases same : key' = key
      · subst same
        simp [effect]
      · simp [effect, Function.update_of_ne (Ne.symm same)]
    · simp [effect]
  cases op with
  | setNx key' seconds =>
      simp only [exec]
      cases found : store.find key' with
      | some entry => exact .inl rfl
      | none =>
          apply (putKey key' _).imp_right
          intro ⟨same, set⟩
          exact .inl ⟨seconds, by rw [same], by rw [← same, found], set⟩
  | incr key' =>
      simp only [exec]
      split
      · rename_i n deadline raised
        apply (putKey key' _).imp_right
        intro ⟨same, set⟩
        exact .inr (.inl ⟨n, deadline, by rw [same], by rw [← same, raised], set⟩)
      · exact .inl rfl
  | expire key' seconds =>
      simp only [exec]
      cases found : store.find key' with
      | none => exact .inl rfl
      | some entry =>
          apply (putKey key' _).imp_right
          intro ⟨same, set⟩
          exact .inr (.inr ⟨seconds, entry, by rw [same], by rw [← same, found], set⟩)
  | insert | update =>
      simp only [exec, commit]
      split <;> exact .inl rfl
  | _ => exact .inl rfl

/-- Of the commands that change keys, only INCR and EXPIRE touch a counter. -/
theorem exec_incr_keys {key : String} (effective : store.fate.takesEffect = true) {n : Nat}
    {deadline : Option Nat} (raised : incremented (store.find key) = some ⟨.number n, deadline⟩) :
    (exec (.incr key) store).2.keys key = some ⟨.number n, deadline⟩ := by
  simp [exec, raised, put, effective]

end Store
end BalanceSheetAnalysis.Sessions

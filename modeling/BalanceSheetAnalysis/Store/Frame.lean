import BalanceSheetAnalysis.Store.Tables

/-! Where a row found after an operation comes from.  Ids are never drawn
again, so what is said of a row under an id stays a statement about that row. -/
namespace BalanceSheetAnalysis.Store
open Library

variable {db : Database} {store : Store} {op : Operation}

/-- A row that was there before, under the same id, and what became of it. -/
inductive Became (op : Operation) (old : Company) : Company → Prop where
  | untouched : Became op old old
  | updated {loaded : Company} {current : CompanyDraft} {row : Company}
      (isUpdate : op = .updateCompany loaded current) (isLoaded : loaded.id = old.id)
      (written : flushed loaded current old = some row) : Became op old row
  | orphaned {id : Int} (isDelete : op = .deleteCompany id) :
      Became op old (Store.orphaned id old)

theorem Became.id {old company : Company} (became : Became op old company) :
    company.id = old.id := by
  cases became with
  | untouched => rfl
  | updated _ _ written => exact flushed_id written
  | orphaned _ => exact orphaned_id _ old

/-- Every row after an operation was inserted by it or comes from a row before. -/
theorem company_of_exec (wf : WellFormed db store) {company : Company}
    (member : company ∈ (exec db op store).2.companies) :
    (∃ row, op = .insertCompany row ∧ company = inserted db row store) ∨
      ∃ old ∈ store.companies, Became op old company := by
  have stayed (unchanged : (exec db op store).2.companies = store.companies) :
      ∃ old ∈ store.companies, Became op old company :=
    ⟨company, unchanged ▸ member, .untouched⟩
  cases op with
  | insertCompany row =>
      rcases insertCompany_cases db row store with failed | ⟨_, _, committed⟩
      · exact .inr (stayed (congrArg (·.2.companies) failed))
      · rw [exec, committed] at member
        rcases List.mem_append.mp member with old | new
        · exact .inr ⟨company, old, .untouched⟩
        · exact .inl ⟨row, rfl, List.mem_singleton.mp new⟩
  | updateCompany loaded current =>
      rcases updateCompany_cases loaded current store with same |
        ⟨stored, row, found, _, written, _, _, committed⟩
      · exact .inr (stayed (congrArg Store.companies same))
      · rw [exec, committed] at member
        obtain ⟨old, inside, isRow⟩ := Table.mem_modify.mp member
        split at isRow
        · rename_i isLoaded
          have : old = stored :=
            Option.some.inj ((wf.find_iff.mpr ⟨inside, isLoaded⟩).symm.trans found)
          subst this
          rw [written, Option.getD_some] at isRow
          exact .inr ⟨old, inside, .updated rfl isLoaded.symm (isRow ▸ written)⟩
        · exact .inr ⟨old, inside, isRow ▸ .untouched⟩
  | deleteCompany id =>
      by_cases absent : (store.findCompany id).isNone
      · have nothing : deleteCompany id store = store := if_pos absent
        exact .inr (stayed (congrArg Store.companies nothing))
      · obtain ⟨old, inside, _, isRow⟩ := (mem_deleteCompany absent).mp member
        exact .inr ⟨old, inside, isRow ▸ .orphaned rfl⟩
  | insertBalanceSheet companyId year figures =>
      exact .inr (stayed (insertBalanceSheet_companies db companyId year figures store))
  | _ => exact .inr (stayed rfl)

/-- Every sheet after an operation was inserted by it or is one from before. -/
theorem sheet_of_exec {sheet : BalanceSheet}
    (member : sheet ∈ (exec db op store).2.balanceSheets) :
    (∃ companyId year figures, op = .insertBalanceSheet companyId year figures ∧
        sheet = ⟨db.sheetIds store.sheetsDrawn, companyId, year, figures⟩) ∨
      sheet ∈ store.balanceSheets := by
  cases op with
  | insertCompany row =>
      rcases insertCompany_cases db row store with failed | ⟨_, _, committed⟩
      · rw [exec, failed] at member
        exact .inr member
      · rw [exec, committed] at member
        exact .inr member
  | updateCompany loaded current =>
      rcases updateCompany_cases loaded current store with same | ⟨_, _, _, _, _, _, _, committed⟩
      · rw [exec, same] at member
        exact .inr member
      · rw [exec, committed] at member
        exact .inr member
  | deleteCompany id =>
      rw [exec, deleteCompany] at member
      split at member
      · exact .inr member
      · exact .inr (List.mem_of_mem_filter member)
  | insertBalanceSheet companyId year figures =>
      rcases insertBalanceSheet_cases db companyId year figures store with
        failed | ⟨_, _, committed⟩
      · rw [exec, failed] at member
        exact .inr member
      · rw [exec, committed] at member
        rcases List.mem_append.mp member with old | new
        · exact .inr old
        · exact .inl ⟨companyId, year, figures, rfl, List.mem_singleton.mp new⟩
  | deleteBalanceSheet id => exact .inr (Table.mem_remove.mp member).1
  | _ => exact .inr member

/-- Sequences only go forward. -/
theorem drawn_exec : store.companiesDrawn ≤ (exec db op store).2.companiesDrawn ∧
    store.sheetsDrawn ≤ (exec db op store).2.sheetsDrawn := by
  cases op with
  | insertCompany row =>
      rcases insertCompany_cases db row store with failed | ⟨_, _, committed⟩
      · rw [exec, failed]
        exact ⟨Nat.le_succ _, Nat.le_refl _⟩
      · rw [exec, committed]
        exact ⟨Nat.le_succ _, Nat.le_refl _⟩
  | updateCompany loaded current =>
      rcases updateCompany_cases loaded current store with same | ⟨_, _, _, _, _, _, _, committed⟩
      · rw [exec, same]
        exact ⟨Nat.le_refl _, Nat.le_refl _⟩
      · rw [exec, committed]
        exact ⟨Nat.le_refl _, Nat.le_refl _⟩
  | deleteCompany id =>
      rw [exec, deleteCompany]
      split <;> exact ⟨Nat.le_refl _, Nat.le_refl _⟩
  | insertBalanceSheet companyId year figures =>
      rcases insertBalanceSheet_cases db companyId year figures store with
        failed | ⟨_, _, committed⟩
      · rw [exec, failed]
        exact ⟨Nat.le_refl _, Nat.le_succ _⟩
      · rw [exec, committed]
        exact ⟨Nat.le_refl _, Nat.le_succ _⟩
  | _ => exact ⟨Nat.le_refl _, Nat.le_refl _⟩

end BalanceSheetAnalysis.Store

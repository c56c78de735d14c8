import BalanceSheetAnalysis.Library.Program

/-! Programs that may raise.  What is promised of the value holds wherever the
program returns one. -/
namespace Library.Raising

variable {Op : Type} {Reply : Op → Type} {ε ε' α β : Type}

def issue (op : Op) : ExceptT ε (Program Reply) (Reply op) := ExceptT.lift (Program.perform op)

/-! What is promised of the result, whether it is a value or an error. -/

section Result
variable {allowed : Program.History Reply → Op → Prop} {history : Program.History Reply}
  {action : ExceptT ε (Program Reply) α} {middle : Program.History Reply → Except ε α → Prop}

/-- An error passes by the rest. -/
theorem obeys_run_bind {rest : α → ExceptT ε (Program Reply) β}
    {post : Program.History Reply → Except ε β → Prop}
    (first : Program.Obeys allowed middle history (ExceptT.run action))
    (returned : ∀ value later, middle later (.ok value) →
      Program.Obeys allowed post later (ExceptT.run (rest value)))
    (raised : ∀ error later, middle later (.error error) → post later (.error error)) :
    Program.Obeys allowed post history (ExceptT.run (action >>= rest)) := by
  rw [ExceptT.run_bind]
  apply Program.Obeys.bind first
  intro result later fits
  cases result with
  | ok value => exact returned value later fits
  | error error => exact raised error later fits

theorem obeys_run_adapt {handler : ε → ε'} {post : Program.History Reply → Except ε' α → Prop}
    (first : Program.Obeys allowed middle history (ExceptT.run action))
    (fits : ∀ later result, middle later result → post later (result.mapError handler)) :
    Program.Obeys allowed post history (ExceptT.run (ExceptT.adapt handler action)) := by
  have adapted : ExceptT.run (ExceptT.adapt handler action) =
      Except.mapError handler <$> action.run := rfl
  rw [adapted, map_eq_pure_bind]
  apply Program.Obeys.bind first
  intro result later
  exact fits later result

end Result

/-! What is promised of the value alone. -/

/-- Every operation is `allowed` by what was told before it, and a value that is
returned fits all that was told. -/
def Obeys (allowed : Program.History Reply → Op → Prop)
    (post : Program.History Reply → α → Prop) (history : Program.History Reply)
    (action : ExceptT ε (Program Reply) α) : Prop :=
  Program.Obeys allowed (fun told result => ∀ value, result = .ok value → post told value)
    history (ExceptT.run action)

section Obeys
variable {allowed : Program.History Reply → Op → Prop}
  {post : Program.History Reply → α → Prop} {history : Program.History Reply}

theorem obeys_pure {value : α} (fits : post history value) :
    Obeys allowed post history (pure value : ExceptT ε (Program Reply) α) := by
  rintro _ ⟨⟩
  exact fits

theorem obeys_throw (error : ε) :
    Obeys allowed post history (throw error : ExceptT ε (Program Reply) α) := nofun

theorem obeys_issue {op : Op} {post : Program.History Reply → Reply op → Prop}
    (permitted : allowed history op) (fits : ∀ reply, post (history ++ [⟨op, reply⟩]) reply) :
    Obeys allowed post history (issue op : ExceptT ε (Program Reply) (Reply op)) := by
  refine ⟨permitted, fun reply => ?_⟩
  rintro _ ⟨⟩
  exact fits reply

theorem Obeys.bind {action : ExceptT ε (Program Reply) α} {rest : α → ExceptT ε (Program Reply) β}
    {middle : Program.History Reply → α → Prop} {post : Program.History Reply → β → Prop}
    (first : Obeys allowed middle history action)
    (second : ∀ value later, middle later value → Obeys allowed post later (rest value)) :
    Obeys allowed post history (action >>= rest) := by
  apply obeys_run_bind first
  · intro value later fits
    exact second value later (fits value rfl)
  · intro error later _ value returned
    cases returned

theorem obeys_issue_bind {op : Op} {rest : Reply op → ExceptT ε (Program Reply) β}
    {post : Program.History Reply → β → Prop} (permitted : allowed history op)
    (later : ∀ reply, Obeys allowed post (history ++ [⟨op, reply⟩]) (rest reply)) :
    Obeys allowed post history (issue op >>= rest) := ⟨permitted, later⟩

theorem Obeys.mono {action : ExceptT ε (Program Reply) α}
    {allowed' : Program.History Reply → Op → Prop} {post' : Program.History Reply → α → Prop}
    (obeys : Obeys allowed post history action)
    (weaker : ∀ history op, allowed history op → allowed' history op)
    (weakerPost : ∀ history value, post history value → post' history value) :
    Obeys allowed' post' history action :=
  Program.Obeys.mono obeys weaker fun history _ fits value returned =>
    weakerPost history value (fits value returned)

theorem Obeys.adapt {action : ExceptT ε (Program Reply) α}
    (obeys : Obeys allowed post history action) (handler : ε → ε') :
    Obeys allowed post history (ExceptT.adapt handler action) := by
  apply obeys_run_adapt obeys
  intro later result fits value returned
  cases result with
  | ok actual =>
      cases returned
      exact fits value rfl
  | error error => cases returned

/-- Nothing that was told is forgotten. -/
theorem Obeys.kept {action : ExceptT ε (Program Reply) α}
    (obeys : Obeys allowed post history action) :
    Obeys allowed (fun later value => history ⊆ later ∧ post later value) history action := by
  apply (Program.Obeys.kept obeys).mono (fun _ _ => id)
  intro later result kept value returned
  exact ⟨kept.1, kept.2 value returned⟩

theorem Obeys.followed {action : ExceptT ε (Program Reply) α}
    {rest : α → ExceptT ε (Program Reply) β}
    {middle : Program.History Reply → α → Prop} {post : Program.History Reply → β → Prop}
    (first : Obeys allowed middle history action)
    (second : ∀ value later, history ⊆ later → middle later value →
      Obeys allowed post later (rest value)) :
    Obeys allowed post history (action >>= rest) :=
  first.kept.bind fun value later kept => second value later kept.1 kept.2

theorem Obeys.map {action : ExceptT ε (Program Reply) α} {f : α → β}
    {middle : Program.History Reply → α → Prop} {post : Program.History Reply → β → Prop}
    (first : Obeys allowed middle history action)
    (fits : ∀ value later, history ⊆ later → middle later value → post later (f value)) :
    Obeys allowed post history (f <$> action) := by
  rw [map_eq_pure_bind]
  exact first.followed fun value later kept holds => obeys_pure (fits value later kept holds)

theorem obeys_told {op : Op} (permitted : allowed history op) :
    Obeys allowed (fun later reply => Program.Told later op reply) history
      (issue op : ExceptT ε (Program Reply) (Reply op)) :=
  obeys_issue permitted fun reply => Program.told_last history op reply

end Obeys
end Library.Raising

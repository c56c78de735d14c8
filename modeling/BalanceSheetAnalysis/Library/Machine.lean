import Mathlib.Data.List.Infix

/-! Machines whose events carry all that comes from outside.  A state is what
the events so far made of the first one. -/
namespace Library.Machine

variable {σ ε : Type} (step : σ → ε → σ)

def run (start : σ) (events : List ε) : σ := events.foldl step start

@[simp] theorem run_nil (start : σ) : run step start [] = start := rfl

@[simp] theorem run_cons (start : σ) (event : ε) (events : List ε) :
    run step start (event :: events) = run step (step start event) events := rfl

theorem run_append (start : σ) (first second : List ε) :
    run step start (first ++ second) = run step (run step start first) second :=
  List.foldl_append

/-- Every event meets the condition, in the state that it finds. -/
def Along (meets : σ → ε → Prop) : σ → List ε → Prop
  | _, [] => True
  | state, event :: events => meets state event ∧ Along meets (step state event) events

variable {step} {meets : σ → ε → Prop} {start : σ}

theorem along_append {first second : List ε} :
    Along step meets start (first ++ second) ↔
      Along step meets start first ∧ Along step meets (run step start first) second := by
  induction first generalizing start with
  | nil => exact (true_and _).to_iff.symm
  | cons event first ih => exact (and_congr_right fun _ => ih).trans and_assoc.symm

theorem along_singleton {event : ε} : Along step meets start [event] ↔ meets start event :=
  (and_true _).to_iff

theorem Along.prefix {events before : List ε} (along : Along step meets start events)
    (isPrefix : before <+: events) : Along step meets start before := by
  obtain ⟨rest, rfl⟩ := isPrefix
  exact (along_append.mp along).1

/-- The first event that fails, with what came before it. -/
theorem exists_of_not_along {events : List ε} (fails : ¬Along step meets start events) :
    ∃ before event rest, events = before ++ event :: rest ∧
      ¬meets (run step start before) event := by
  induction events generalizing start with
  | nil => exact absurd trivial fails
  | cons event events ih =>
      by_cases here : meets start event
      · obtain ⟨before, later, rest, rfl, isFailure⟩ := ih fun along => fails ⟨here, along⟩
        exact ⟨event :: before, later, rest, rfl, isFailure⟩
      · exact ⟨[], event, events, rfl, here⟩

/-! The invariant rule. -/

section Invariant
variable {inv : σ → Prop} (keeps : ∀ state event, inv state → meets state event →
  inv (step state event))
include keeps

theorem Along.invariant {events : List ε} (along : Along step meets start events)
    (holds : inv start) : inv (run step start events) := by
  induction events generalizing start with
  | nil => exact holds
  | cons event events ih => exact ih along.2 (keeps start event holds along.1)

/-- What the invariant promises of an event holds along the run. -/
theorem Along.promised {promised : σ → ε → Prop}
    (promises : ∀ state event, inv state → meets state event → promised state event)
    {events : List ε} (along : Along step meets start events) (holds : inv start) :
    Along step promised start events := by
  induction events generalizing start with
  | nil => trivial
  | cons event events ih =>
      exact ⟨promises start event holds along.1, ih along.2 (keeps start event holds along.1)⟩

end Invariant
end Library.Machine

/-! Runs of a labelled transition system, and the rule by which one system
refines another: every step is a step of the other under an abstraction of the
states, with the same label. -/
namespace Library

variable {σ τ Label : Type}

inductive Runs (step : σ → Label → σ → Prop) : σ → List Label → σ → Prop where
  | nil (state : σ) : Runs step state [] state
  | cons {first middle last : σ} {label : Label} {labels : List Label} :
      step first label middle → Runs step middle labels last →
        Runs step first (label :: labels) last

theorem Runs.simulate {step : σ → Label → σ → Prop} {spec : τ → Label → τ → Prop}
    {inv : σ → Prop} {abstraction : σ → τ}
    (keeps : ∀ first label next, inv first → step first label next → inv next)
    (refines : ∀ first label next, inv first → step first label next →
      spec (abstraction first) label (abstraction next))
    {first last : σ} {labels : List Label} (runs : Runs step first labels last)
    (start : inv first) : Runs spec (abstraction first) labels (abstraction last) := by
  induction runs with
  | nil state => exact .nil _
  | cons one _ ih => exact .cons (refines _ _ _ start one) (ih (keeps _ _ _ start one))

end Library

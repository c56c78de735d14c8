import Mathlib.Logic.Relation
import Mathlib.Logic.Function.Basic
import Mathlib.Order.WellFounded

/-! Forests given by a parent pointer.  A walk follows the pointers; it ends
at a node without a parent.  The one edit studied is the one a store makes to
a single row: hanging a childless node elsewhere. -/
namespace Library.Forest

variable {α : Type*} (parent : α → Option α)

def Up (a b : α) : Prop := parent a = some b

def Acyclic : Prop := ∀ a, ¬ Relation.TransGen (Up parent) a a

/-- The walk up from the first node ends at the second. -/
def Top (a root : α) : Prop :=
  Relation.ReflTransGen (Up parent) a root ∧ parent root = none

/-- No walk goes on for ever. -/
def Grounded : Prop := WellFounded fun b a => Up parent a b

variable {parent}

theorem Grounded.acyclic (grounded : Grounded parent) : Acyclic parent := by
  intro a loop
  have swapped : Relation.TransGen (fun b a => Up parent a b) a a :=
    Relation.transGen_swap.mp loop
  exact grounded.transGen.irrefl.irrefl a swapped

theorem grounded_empty : Grounded (fun _ : α => none) :=
  ⟨fun _ => ⟨_, fun _ up => by cases up⟩⟩

theorem Top.of_up {a b root : α} (up : parent a = some b) (top : Top parent b root) :
    Top parent a root :=
  ⟨.head up top.1, top.2⟩

theorem top_self {a : α} (isRoot : parent a = none) : Top parent a a :=
  ⟨.refl, isRoot⟩

theorem Top.unique {a first second : α} (left : Top parent a first)
    (right : Top parent a second) : first = second := by
  obtain ⟨walk, ended⟩ := left
  induction walk using Relation.ReflTransGen.head_induction_on with
  | refl =>
      cases right.1.cases_head with
      | inl same => exact same
      | inr next =>
          obtain ⟨b, up, _⟩ := next
          rw [Up, ended] at up
          cases up
  | head up _ ih =>
      cases right.1.cases_head with
      | inl same =>
          subst same
          rw [Up, right.2] at up
          cases up
      | inr next =>
          obtain ⟨c, up', walk'⟩ := next
          rw [Up, up] at up'
          cases up'
          exact ih ⟨walk', right.2⟩

/-- A walk that starts inside a set closed upwards ends inside it. -/
theorem Top.inside {inside : α → Prop} (closed : ∀ a b, inside a → parent a = some b → inside b)
    {a root : α} (top : Top parent a root) (member : inside a) : inside root := by
  have walk : Relation.ReflTransGen (Up parent) a root := top.1
  clear top
  induction walk with
  | refl => exact member
  | tail _ up ih => exact closed _ _ ih up

/-- A label that is copied from parent to child and is the node itself at the
roots names the end of every walk. -/
theorem top_label (grounded : Grounded parent) (inside : α → Prop) (label : α → α)
    (root : ∀ a, inside a → parent a = none → label a = a)
    (child : ∀ a b, inside a → parent a = some b → inside b ∧ label a = label b)
    (a : α) (member : inside a) : Top parent a (label a) := by
  induction a using grounded.induction with
  | _ a ih =>
      cases up : parent a with
      | none =>
          rw [root a member up]
          exact top_self up
      | some b =>
          obtain ⟨memberUp, same⟩ := child a b member up
          rw [same]
          exact (ih b up memberUp).of_up up

/-- Hanging a childless node under any other node, or under none, leaves every
walk finite: no other walk passes through it. -/
theorem Grounded.update [DecidableEq α] (grounded : Grounded parent) {leaf : α}
    {target : Option α} (childless : ∀ a, parent a ≠ some leaf) (other : target ≠ some leaf) :
    Grounded (Function.update parent leaf target) := by
  have elsewhere (a : α) : a ≠ leaf →
      Acc (fun b a => Up (Function.update parent leaf target) a b) a := by
    induction a using grounded.induction with
    | _ a ih =>
        intro away
        refine ⟨a, fun b up => ?_⟩
        rw [Up, Function.update_of_ne away] at up
        exact ih b up fun same => childless a (same ▸ up)
  refine ⟨fun a => ?_⟩
  by_cases same : a = leaf
  · subst same
    refine ⟨a, fun b up => elsewhere b fun back => other ?_⟩
    rw [Up, Function.update_self] at up
    rw [up, back]
  · exact elsewhere a same

end Library.Forest

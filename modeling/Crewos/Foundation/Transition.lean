import Mathlib.Data.List.Basic

/-! # Runs of labelled transition systems

A run strings steps together and keeps their labels. Safety properties are
proved of one step and carried to every run here. -/

namespace Foundation

theorem snoc_split {Label : Type u} {labels before after : List Label} {last label : Label}
    (split : labels ++ [last] = before ++ label :: after) :
    (after = [] ∧ before = labels ∧ label = last) ∨
      ∃ rest, after = rest ++ [last] ∧ labels = before ++ label :: rest := by
  rcases List.eq_nil_or_concat after with rfl | ⟨rest, final, rfl⟩
  · obtain ⟨rfl, same⟩ := List.append_inj' split rfl
    cases same
    exact .inl ⟨rfl, rfl, rfl⟩
  · rw [List.concat_eq_append, ← List.cons_append, ← List.append_assoc] at split
    obtain ⟨rfl, same⟩ := List.append_inj' split rfl
    cases same
    exact .inr ⟨rest, List.concat_eq_append, rfl⟩

/-- States connected by a list of labelled steps. -/
inductive Run {State : Type u} {Label : Type v} (Step : State → Label → State → Prop) :
    State → List Label → State → Prop
  | nil (state) : Run Step state [] state
  | cons {first middle last label labels} :
      Step first label middle → Run Step middle labels last →
      Run Step first (label :: labels) last

namespace Run

variable {State : Type u} {Label : Type v} {Step : State → Label → State → Prop}

theorem single {first last : State} {label : Label} (step : Step first label last) :
    Run Step first [label] last := .cons step (.nil _)

theorem append {first middle last : State} {before after : List Label}
    (left : Run Step first before middle) (right : Run Step middle after last) :
    Run Step first (before ++ after) last := by
  induction left with
  | nil => exact right
  | cons step _ induction => exact .cons step (induction right)

theorem snoc {first middle last : State} {labels : List Label} {label : Label}
    (run : Run Step first labels middle) (step : Step middle label last) :
    Run Step first (labels ++ [label]) last := run.append (.single step)

theorem split {first last : State} {before after : List Label}
    (run : Run Step first (before ++ after) last) :
    ∃ middle, Run Step first before middle ∧ Run Step middle after last := by
  induction before generalizing first with
  | nil => exact ⟨first, .nil _, run⟩
  | cons label labels induction =>
      cases run with
      | cons step rest =>
          obtain ⟨middle, left, right⟩ := induction rest
          exact ⟨middle, .cons step left, right⟩

theorem mono {Weak : State → Label → State → Prop}
    (implies : ∀ state label next, Step state label next → Weak state label next)
    {first last : State} {labels : List Label} (run : Run Step first labels last) :
    Run Weak first labels last := by
  induction run with
  | nil => exact .nil _
  | cons step _ induction => exact .cons (implies _ _ _ step) induction

/-- A property every step preserves holds at the end of a run. -/
theorem preserves {Invariant : State → Prop}
    (step : ∀ state label next, Invariant state → Step state label next → Invariant next)
    {first last : State} {labels : List Label} (run : Run Step first labels last)
    (holds : Invariant first) : Invariant last := by
  induction run with
  | nil => exact holds
  | cons taken _ induction => exact induction (step _ _ _ holds taken)

/-- Induction over a run that sees the labels taken so far. The run starts
after the labels `past`. -/
theorem traced {Property : List Label → State → Prop}
    (step : ∀ past state label next, Property past state → Step state label next →
      Property (past ++ [label]) next)
    {first last : State} {labels : List Label} (run : Run Step first labels last)
    {past : List Label} (holds : Property past first) :
    Property (past ++ labels) last := by
  induction run generalizing past with
  | nil => simpa using holds
  | cons taken _ induction =>
      have later := induction (step _ _ _ _ holds taken)
      simpa [List.append_assoc] using later

end Run

/-- States some run reaches from an initial state. -/
def Reachable {State : Type u} {Label : Type v} (Step : State → Label → State → Prop)
    (Initial : State → Prop) (state : State) : Prop :=
  ∃ first labels, Initial first ∧ Run Step first labels state

namespace Reachable

variable {State : Type u} {Label : Type v} {Step : State → Label → State → Prop}
  {Initial : State → Prop}

theorem run {state last : State} {labels : List Label}
    (reachable : Reachable Step Initial state) (run : Run Step state labels last) :
    Reachable Step Initial last := by
  obtain ⟨first, before, initial, earlier⟩ := reachable
  exact ⟨first, before ++ labels, initial, earlier.append run⟩

end Reachable

end Foundation

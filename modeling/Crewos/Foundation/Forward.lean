import Crewos.Foundation.Transition
import Mathlib.Data.List.Forall2

/-! # Forward simulation

A step of one system is shown by a block of steps of another. -/

namespace Foundation

variable {State Label Shadow Sign : Type*} {Step : State → Label → State → Prop}
  {Move : Shadow → Sign → Shadow → Prop}

/-- A run is shown by the blocks of its steps, one after the other. -/
theorem Run.simulate (Related : State → Shadow → Prop) {Block : Label → List Sign → Prop}
    (step : ∀ state label next shadow, Related state shadow → Step state label next →
      ∃ signs later, Run Move shadow signs later ∧ Block label signs ∧ Related next later)
    {first last : State} {labels : List Label} (run : Run Step first labels last)
    {shadow : Shadow} (related : Related first shadow) :
    ∃ blocks later, Run Move shadow blocks.flatten later ∧ List.Forall₂ Block labels blocks ∧
      Related last later := by
  induction run generalizing shadow with
  | nil => exact ⟨[], shadow, .nil _, .nil, related⟩
  | cons taken _ induction =>
      obtain ⟨signs, middle, moves, block, onward⟩ := step _ _ _ _ related taken
      obtain ⟨blocks, later, rest, following, ends⟩ := induction onward
      exact ⟨signs :: blocks, later, moves.append rest, .cons block following, ends⟩

theorem filterMap_flatten {Mark : Type*} {seen : Label → Option Mark} {shown : Sign → Option Mark}
    {labels : List Label} {blocks : List (List Sign)}
    (following : List.Forall₂ (fun label signs => signs.filterMap shown = (seen label).toList)
      labels blocks) : blocks.flatten.filterMap shown = labels.filterMap seen := by
  induction following with
  | nil => rfl
  | @cons label signs labels blocks block _ induction =>
      rw [List.flatten_cons, List.filterMap_append, block, induction]
      cases found : seen label <;> simp [found]

theorem mem_flatten {labels : List Label} {blocks : List (List Sign)}
    {Accounts : Label → Sign → Prop}
    (following : List.Forall₂ (fun label signs => ∀ sign ∈ signs, Accounts label sign)
      labels blocks) {sign : Sign} (member : sign ∈ blocks.flatten) :
    ∃ label ∈ labels, Accounts label sign := by
  induction following with
  | nil => cases member
  | cons block _ induction =>
      rw [List.flatten_cons, List.mem_append] at member
      rcases member with here | there
      · exact ⟨_, List.mem_cons_self, block sign here⟩
      · obtain ⟨label, later, accounts⟩ := induction there
        exact ⟨label, List.mem_cons_of_mem _ later, accounts⟩

end Foundation

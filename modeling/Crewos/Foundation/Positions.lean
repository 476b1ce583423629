import Mathlib.Data.List.Basic
import Mathlib.Data.List.TakeDrop

/-! # Positions among the chosen

The members of a list that satisfy a test, numbered as if the others were not
there. -/

namespace Foundation

variable {α : Type u}

/-- How many members before the index pass the test. -/
def position (test : α → Bool) (members : List α) (index : Nat) : Nat :=
  (members.take index).countP test

variable {test : α → Bool} {members : List α} {index other : Nat} {member : α}

theorem position_lt (found : members[index]? = some member) (passes : test member = true) :
    position test members index < members.countP test := by
  obtain ⟨within, same⟩ := List.getElem?_eq_some_iff.mp found
  have split : members = members.take index ++ member :: members.drop (index + 1) := by
    rw [← same, List.cons_getElem_drop_succ, List.take_append_drop]
  calc position test members index
      < position test members index + 1 := Nat.lt_succ_self _
    _ ≤ (members.take index ++ member :: members.drop (index + 1)).countP test := by
        rw [List.countP_append, List.countP_cons_of_pos passes, position]
        omega
    _ = members.countP test := by rw [← split]

theorem position_lt_of_lt (found : members[index]? = some member) (passes : test member = true)
    (before : index < other) : position test members index < position test members other := by
  have taken : (members.take other)[index]? = some member := by
    rw [List.getElem?_take_of_lt before, found]
  have least := position_lt taken passes
  rwa [position, List.take_take, Nat.min_eq_left (Nat.le_of_lt before)] at least

theorem position_ne {rival : α} (found : members[index]? = some member)
    (passes : test member = true) (foundOther : members[other]? = some rival)
    (passesOther : test rival = true) (different : index ≠ other) :
    position test members index ≠ position test members other := by
  rcases Nat.lt_or_gt_of_ne different with less | more
  · exact Nat.ne_of_lt (position_lt_of_lt found passes less)
  · exact (Nat.ne_of_lt (position_lt_of_lt foundOther passesOther more)).symm

theorem position_append (more : List α) (within : index ≤ members.length) :
    position test (members ++ more) index = position test members index := by
  rw [position, List.take_append_of_le_length within, position]

theorem countP_set {replaced : α} (found : members[index]? = some member)
    (same : test replaced = test member) :
    (members.set index replaced).countP test = members.countP test := by
  induction members generalizing index with
  | nil => cases found
  | cons first rest induction =>
      cases index with
      | zero =>
          cases found
          simp [List.countP_cons, same]
      | succ index => simp [List.countP_cons, induction found]

theorem position_set {replaced : α} (found : members[index]? = some member)
    (same : test replaced = test member) :
    position test (members.set index replaced) other = position test members other := by
  rcases Nat.lt_or_ge index other with before | beyond
  · have taken : (members.take other)[index]? = some member := by
      rw [List.getElem?_take_of_lt before, found]
    rw [position, List.take_set, countP_set taken same, position]
  · rw [position, List.take_set_of_le beyond, position]

end Foundation

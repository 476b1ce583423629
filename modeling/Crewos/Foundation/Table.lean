import Mathlib.Data.List.Basic
import Mathlib.Data.List.Nodup

/-! # Keyed tables

A table is a list of rows; a key function reads a row's primary key. Updates
select rows by a condition and change them in place. -/

namespace Foundation

namespace Table

variable {Row : Type u} {Key : Type v} [DecidableEq Key]

def find (key : Row → Key) (wanted : Key) (rows : List Row) : Option Row :=
  rows.find? fun row => key row = wanted

def update (selects : Row → Bool) (change : Row → Row) (rows : List Row) : List Row :=
  rows.map fun row => if selects row then change row else row

theorem mem_of_find {key : Row → Key} {wanted : Key} {rows : List Row} {row : Row}
    (found : find key wanted rows = some row) : row ∈ rows :=
  List.mem_of_find?_eq_some found

theorem key_of_find {key : Row → Key} {wanted : Key} {rows : List Row} {row : Row}
    (found : find key wanted rows = some row) : key row = wanted := by
  simpa using List.find?_some found

theorem find_eq_none {key : Row → Key} {wanted : Key} {rows : List Row} :
    find key wanted rows = none ↔ ∀ row ∈ rows, key row ≠ wanted := by
  simp [find]

theorem find_of_mem {key : Row → Key} {rows : List Row}
    (nodup : (rows.map key).Nodup) {row : Row} (member : row ∈ rows) :
    find key (key row) rows = some row := by
  induction rows with
  | nil => cases member
  | cons head tail induction =>
      rw [List.map_cons, List.nodup_cons] at nodup
      rcases List.mem_cons.mp member with equal | inTail
      · subst equal
        simp [find]
      · have different : key head ≠ key row := fun equal =>
          nodup.1 (equal ▸ List.mem_map_of_mem inTail)
        simpa [find, different] using induction nodup.2 inTail

theorem map_update (field : Row → α) (selects : Row → Bool) (change : Row → Row)
    (keeps : ∀ row, field (change row) = field row) (rows : List Row) :
    (update selects change rows).map field = rows.map field := by
  simp only [update, List.map_map]
  apply List.map_congr_left
  intro row _
  by_cases selected : selects row <;> simp [selected, keeps]

theorem find_update_same (key : Row → Key) (wanted : Key) (change : Row → Row)
    (keeps : ∀ row, key (change row) = key row) (rows : List Row) :
    find key wanted (update (fun row => key row = wanted) change rows) =
      (find key wanted rows).map change := by
  induction rows with
  | nil => rfl
  | cons head tail induction =>
      by_cases equal : key head = wanted
      · simp [find, update, equal, keeps]
      · simpa [find, update, equal] using induction

theorem find_update_other (key : Row → Key) {wanted other : Key} (change : Row → Row)
    (keeps : ∀ row, key (change row) = key row) (different : wanted ≠ other)
    (rows : List Row) :
    find key wanted (update (fun row => key row = other) change rows) =
      find key wanted rows := by
  induction rows with
  | nil => rfl
  | cons head tail induction =>
      by_cases equal : key head = other
      · have headDifferent : key head ≠ wanted := fun same => different (same ▸ equal)
        simpa [find, update, equal, keeps, Ne.symm different] using induction
      · by_cases same : key head = wanted
        · simp [find, update, same, different]
        · simpa [find, update, equal, same] using induction

theorem filter_update (part selects : Row → Bool) (change : Row → Row)
    (keeps : ∀ row, part (change row) = part row) (rows : List Row) :
    (update selects change rows).filter part =
      update selects change (rows.filter part) := by
  induction rows with
  | nil => rfl
  | cons head tail induction =>
      simp only [update, List.map_cons] at induction ⊢
      by_cases selected : selects head <;> by_cases inside : part head <;>
        simp [selected, inside, keeps, induction]

theorem update_of_none (selects : Row → Bool) (change : Row → Row) (rows : List Row)
    (none : ∀ row ∈ rows, selects row = false) : update selects change rows = rows := by
  unfold update
  conv => rhs; rw [← List.map_id rows]
  apply List.map_congr_left
  intro row member
  simp [none row member]

theorem mem_update {selects : Row → Bool} {change : Row → Row} {rows : List Row}
    {row : Row} : row ∈ update selects change rows ↔
      ∃ old ∈ rows, row = if selects old then change old else old := by
  simp only [update, List.mem_map]
  exact exists_congr fun old => and_congr_right fun _ => eq_comm

end Table

end Foundation

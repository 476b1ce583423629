import Crewos.Foundation.Json

/-! # Sorted keys

Sorting the keys of a value a second time changes nothing, and the order of a
dictionary's keys can be ignored before or after some of them are dropped. -/

namespace Foundation

/-- The order that sorting by key uses. -/
abbrev KeyLe (left right : String × Json) : Prop := left.1 ≤ right.1

instance : Std.Total KeyLe := ⟨fun left right => String.le_total left.1 right.1⟩

instance : IsTrans (String × Json) KeyLe := ⟨fun _ _ _ => String.le_trans⟩

namespace Json

theorem sortFields_eq_map (fields : List (String × Json)) :
    sortFields fields = fields.map fun field => (field.1, field.2.sortKeys) := by
  induction fields with
  | nil => rfl
  | cons field fields induction => exact congrArg (List.cons _) induction

theorem sortFields_insertionSort (fields : List (String × Json)) :
    sortFields (fields.insertionSort KeyLe) = (sortFields fields).insertionSort KeyLe := by
  rw [sortFields_eq_map, sortFields_eq_map]
  exact List.map_insertionSort _ _ _ _ fun _ _ _ _ => Iff.rfl

theorem insertionSort_insertionSort (fields : List (String × Json)) :
    (fields.insertionSort KeyLe).insertionSort KeyLe = fields.insertionSort KeyLe :=
  (List.pairwise_insertionSort KeyLe fields).insertionSort_eq

mutual
theorem sortKeys_sortKeys : ∀ json : Json, json.sortKeys.sortKeys = json.sortKeys
  | .arr items => by simp only [sortKeys, sortItems_sortItems items]
  | .obj fields => by
      have inner : sortFields ((sortFields fields).insertionSort KeyLe) =
          (sortFields fields).insertionSort KeyLe := by
        rw [sortFields_insertionSort, sortFields_sortFields fields]
      simp only [sortKeys]
      rw [inner, insertionSort_insertionSort]
  | .null | .bool _ | .int _ | .float _ | .str _ => rfl

theorem sortItems_sortItems : ∀ items : List Json, sortItems (sortItems items) = sortItems items
  | [] => rfl
  | item :: items => by
      simp only [sortItems, sortKeys_sortKeys item, sortItems_sortItems items]

theorem sortFields_sortFields :
    ∀ fields : List (String × Json), sortFields (sortFields fields) = sortFields fields
  | [] => rfl
  | (key, value) :: fields => by
      simp only [sortFields, sortKeys_sortKeys value, sortFields_sortFields fields]
end

theorem filter_orderedInsert (keep : String × Json → Bool) (field : String × Json)
    {fields : List (String × Json)} (sorted : fields.Pairwise KeyLe) :
    (fields.orderedInsert KeyLe field).filter keep =
      if keep field then (fields.filter keep).orderedInsert KeyLe field
      else fields.filter keep := by
  induction sorted with
  | nil => cases kept : keep field <;> simp [kept]
  | @cons head rest first _ induction =>
      rw [List.orderedInsert_cons]
      split
      · rename_i before
        -- Everything that is left stands after the field that is inserted.
        have least : ∀ other ∈ (head :: rest).filter keep, KeyLe field other := by
          intro other member
          rcases List.mem_cons.mp (List.mem_filter.mp member).1 with rfl | later
          · exact before
          · exact String.le_trans before (first other later)
        rw [List.filter_cons]
        split
        · cases kept : (head :: rest).filter keep with
          | nil => rfl
          | cons next others =>
              have before : KeyLe field next := least next (by rw [kept]; exact .head _)
              rw [List.orderedInsert_cons, if_pos before]
        · rfl
      · rename_i after
        rw [List.filter_cons, List.filter_cons, induction]
        cases keep field <;> cases keep head <;> simp [after]

theorem filter_insertionSort (keep : String × Json → Bool) (fields : List (String × Json)) :
    (fields.insertionSort KeyLe).filter keep = (fields.filter keep).insertionSort KeyLe := by
  induction fields with
  | nil => rfl
  | cons field fields induction =>
      rw [List.insertionSort_cons,
        filter_orderedInsert keep field (List.pairwise_insertionSort KeyLe fields), induction,
        List.filter_cons]
      split <;> rfl

end Json

namespace Dict

/-- A dictionary that loses keys after it was sorted is as if it had lost them before. -/
theorem sorted_filter (dict : Dict) (keep : String → Bool) :
    Dict.sorted (dict.sorted.filter fun field => keep field.1) =
      Dict.sorted (dict.filter fun field => keep field.1) := by
  have dropped : ∀ fields : Dict, (Json.sortFields fields).filter (fun field => keep field.1) =
      Json.sortFields (fields.filter fun field => keep field.1) := by
    intro fields
    rw [Json.sortFields_eq_map, Json.sortFields_eq_map, List.filter_map]
    rfl
  calc Dict.sorted (dict.sorted.filter fun field => keep field.1)
      = (Json.sortFields (((Json.sortFields dict).filter fun field => keep field.1).insertionSort
          KeyLe)).insertionSort KeyLe := by
        rw [← Json.filter_insertionSort]
        rfl
    _ = (((Json.sortFields (Json.sortFields (dict.filter fun field => keep field.1)))).insertionSort
          KeyLe).insertionSort KeyLe := by
        rw [dropped, Json.sortFields_insertionSort]
    _ = Dict.sorted (dict.filter fun field => keep field.1) := by
        rw [Json.sortFields_sortFields, Json.insertionSort_insertionSort]
        rfl

end Dict

end Foundation

import Crewos.Foundation.Fields
import Crewos.Foundation.SortedKeys

/-! # Readers that ignore the order of keys

A value is stored with its keys sorted. A reader that looks its fields up by name
reads the stored value as it would have read the one that was dumped. -/

namespace Foundation

namespace Dict

theorem get?_orderedInsert (field : String × Json) (fields : Dict) (key : String) :
    Dict.get? (fields.orderedInsert KeyLe field) key = Dict.get? (field :: fields) key := by
  induction fields with
  | nil => rfl
  | cons head rest induction =>
      rw [List.orderedInsert_cons]
      split
      · rfl
      · rename_i after
        have different : field.1 ≠ head.1 := by
          intro same
          have below : field.1 ≤ head.1 := same ▸ String.le_refl field.1
          exact after below
        rw [get?_cons head.1 head.2, induction, get?_cons field.1 field.2,
          get?_cons field.1 field.2, get?_cons head.1 head.2]
        by_cases isField : key = field.1
        · have notHead : key ≠ head.1 := isField ▸ different
          rw [if_neg notHead, if_pos isField, if_pos isField]
        · rw [if_neg isField, if_neg isField]

theorem get?_insertionSort (fields : Dict) (key : String) :
    Dict.get? (fields.insertionSort KeyLe) key = fields.get? key := by
  induction fields with
  | nil => rfl
  | cons field fields induction =>
      rw [List.insertionSort_cons, get?_orderedInsert, get?_cons field.1 field.2, induction,
        ← get?_cons field.1 field.2]

theorem get?_sortFields (fields : Dict) (key : String) :
    Dict.get? (Json.sortFields fields) key = (fields.get? key).map Json.sortKeys := by
  induction fields with
  | nil => rfl
  | cons field fields induction =>
      rcases field with ⟨name, value⟩
      rw [Json.sortFields, get?_cons, get?_cons, induction]
      split <;> rfl

theorem get?_sorted (dict : Dict) (key : String) :
    dict.sorted.get? key = (dict.get? key).map Json.sortKeys :=
  (get?_insertionSort _ key).trans (get?_sortFields dict key)

theorem all_sorted (dict : Dict) (accepts : String → Bool) :
    (dict.sorted.all fun field => accepts field.1) = dict.all fun field => accepts field.1 := by
  have sorted := (List.perm_insertionSort KeyLe (Json.sortFields dict)).all_eq
    (f := fun field => accepts field.1)
  refine Eq.trans sorted ?_
  rw [Json.sortFields_eq_map, List.all_map]
  rfl

end Dict

namespace Fields

/-- A reader that reads a value with sorted keys as the value itself. -/
def Unordered (read : Json → Option α) : Prop := ∀ json : Json, read json.sortKeys = read json

theorem Unordered.of_scalar {read : Json → Option α} (items : ∀ items, read (.arr items) = none)
    (fields : ∀ fields, read (.obj fields) = none) : Unordered read := by
  intro json
  cases json with
  | arr => rw [Json.sortKeys, items, items]
  | obj => rw [Json.sortKeys, fields, fields]
  | _ => rfl

theorem unordered_text : Unordered text := .of_scalar (fun _ => rfl) fun _ => rfl

theorem unordered_natural (least : Nat) : Unordered (natural least) :=
  .of_scalar (fun _ => rfl) fun _ => rfl

theorem unordered_boolean : Unordered boolean := .of_scalar (fun _ => rfl) fun _ => rfl

theorem unordered_uuid : Unordered uuid := .of_scalar (fun _ => rfl) fun _ => rfl

theorem unordered_choice (spellings : List (String × α)) : Unordered (choice spellings) :=
  .of_scalar (fun _ => rfl) fun _ => rfl

theorem unordered_stripped (most : Option Nat) : Unordered (Stripped.read most) :=
  .of_scalar (fun _ => rfl) fun _ => rfl

theorem all_sortItems {read : Json → Option α} (unordered : Unordered read)
    (values : List Json) : all read (Json.sortItems values) = all read values := by
  induction values with
  | nil => rfl
  | cons value values induction => simp only [Json.sortItems, all, unordered value, induction]

theorem Unordered.items {read : Json → Option α} (unordered : Unordered read) :
    Unordered (items read) := by
  intro json
  cases json with
  | arr values => exact all_sortItems unordered values
  | _ => rfl

theorem object_sortKeys (allowed : List String) (json : Json) :
    object allowed json.sortKeys = (object allowed json).map Dict.sorted := by
  cases json with
  | obj data =>
      have same := Dict.all_sorted data fun name => name ∈ allowed
      show (if (Dict.sorted data).all (fun field => field.1 ∈ allowed) then
          some (Dict.sorted data) else none) =
        Option.map Dict.sorted (if data.all (fun field => field.1 ∈ allowed) then some data
          else none)
      rw [same]
      split <;> rfl
  | _ => rfl

theorem required_sorted {read : Json → Option α} (unordered : Unordered read) (data : Dict)
    (key : String) : required data.sorted key read = required data key read := by
  unfold required
  rw [Dict.get?_sorted]
  cases data.get? key with
  | none => rfl
  | some value => exact unordered value

theorem optional_sorted {read : Json → Option α} (unordered : Unordered read) (data : Dict)
    (key : String) (default : α) :
    optional data.sorted key default read = optional data key default read := by
  unfold optional
  rw [Dict.get?_sorted]
  cases data.get? key with
  | none => rfl
  | some value => exact unordered value

end Fields

end Foundation

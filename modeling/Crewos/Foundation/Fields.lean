import Crewos.Foundation.Json
import Crewos.Foundation.Text
import Crewos.Foundation.Uuid

/-! # Reading models from JSON

Readers for the fields of a model that forbids unknown ones. A reader fails on
anything it does not accept; what a value is dumped as, its reader accepts. -/

namespace Foundation

namespace Fields

/-- The fields of an object that has no others than the allowed ones. -/
def object (allowed : List String) : Json → Option Dict
  | .obj data => if data.all fun field => field.1 ∈ allowed then some data else none
  | _ => none

def required (data : Dict) (key : String) (read : Json → Option α) : Option α :=
  match data.get? key with
  | some value => read value
  | none => none

def optional (data : Dict) (key : String) (default : α) (read : Json → Option α) : Option α :=
  match data.get? key with
  | some value => read value
  | none => some default

/-! ## Values -/

def text : Json → Option String
  | .str value => some value
  | _ => none

def natural (least : Nat) : Json → Option Nat
  | .int (.ofNat value) => if least ≤ value then some value else none
  | _ => none

def boolean : Json → Option Bool
  | .bool value => some value
  | _ => none

def uuid : Json → Option Uuid4
  | .str value => Uuid4.parse value
  | _ => none

def dictionary : Json → Option Dict
  | .obj data => some data
  | _ => none

def choice (spellings : List (String × α)) : Json → Option α
  | .str value => spellings.lookup value
  | _ => none

def all (read : Json → Option α) : List Json → Option (List α)
  | [] => some []
  | item :: items => do
      let value ← read item
      let values ← all read items
      return value :: values

def items (read : Json → Option α) : Json → Option (List α)
  | .arr items => all read items
  | _ => none

theorem all_map {read : Json → Option α} {dump : α → Json}
    (reads : ∀ value, read (dump value) = some value) (values : List α) :
    all read (values.map dump) = some values := by
  induction values with
  | nil => rfl
  | cons value values induction => simp [all, reads, induction]

theorem items_map {read : Json → Option α} {dump : α → Json}
    (reads : ∀ value, read (dump value) = some value) (values : List α) :
    items read (.arr (values.map dump)) = some values := all_map reads values

theorem natural_ofNat {least value : Nat} (bound : least ≤ value) :
    natural least (.int value) = some value := by
  show (if least ≤ value then some value else none) = some value
  rw [if_pos bound]

@[simp] theorem uuid_text (id : Uuid4) : uuid (.str id.text) = some id := id.parse_text

end Fields

/-! ## Stripped text -/

/-- A strict string, stripped, of at least one character and at most `most`
when there is a bound. -/
@[ext]
structure Stripped (most : Option Nat) where
  value : String
  stripped : Text.strip Text.whiteSpace value = value
  nonempty : 1 ≤ value.length
  bounded : ∀ limit ∈ most, value.length ≤ limit

namespace Stripped

variable {most : Option Nat}

instance : DecidableEq (Stripped most) := fun left right =>
  decidable_of_iff (left.value = right.value) Stripped.ext_iff.symm

def read (most : Option Nat) : Json → Option (Stripped most)
  | .str text =>
      let value := Text.strip Text.whiteSpace text
      if bounds : 1 ≤ value.length ∧ ∀ limit ∈ most, value.length ≤ limit then
        some ⟨value, Text.strip_idem _ _, bounds.1, bounds.2⟩
      else none
  | _ => none

@[simp] theorem read_value (field : Stripped most) : read most (.str field.value) = some field := by
  have bounds : 1 ≤ (Text.strip Text.whiteSpace field.value).length ∧
      ∀ limit ∈ most, (Text.strip Text.whiteSpace field.value).length ≤ limit := by
    rw [field.stripped]
    exact ⟨field.nonempty, field.bounded⟩
  simp only [read]
  rw [dif_pos bounds]
  rcases field with ⟨value, stripped, _, _⟩
  simp only [stripped]

theorem eq_of_value {left right : Stripped most} (same : left.value = right.value) :
    left = right := by
  cases left
  cases right
  cases same
  rfl

theorem toList_ne_nil (text : Stripped most) : text.value.toList ≠ [] := by
  intro empty
  have nonempty := text.nonempty
  rw [← String.length_toList, empty] at nonempty
  cases nonempty

end Stripped

end Foundation

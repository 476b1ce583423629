import Mathlib.Data.List.Sort

/-! # JSON values and dictionaries

Values that survive a trip through JSON text, the dictionaries that hold them
and the two ways of printing them. Nothing here depends on who stores what. -/

namespace Foundation

/-- A JSON value. A float is carried by its shortest round-trip spelling, so
two floats are the same value exactly when they print alike. -/
inductive Json where
  | null
  | bool (value : Bool)
  | int (value : Int)
  | float (spelling : String)
  | str (value : String)
  | arr (items : List Json)
  | obj (fields : List (String × Json))
  deriving Repr, Inhabited

/-- A dictionary in insertion order. -/
abbrev Dict := List (String × Json)

namespace Json

mutual
def decEq : (left right : Json) → Decidable (left = right)
  | .null, .null => isTrue rfl
  | .bool left, .bool right => decidable_of_iff (left = right) (by simp)
  | .int left, .int right => decidable_of_iff (left = right) (by simp)
  | .float left, .float right => decidable_of_iff (left = right) (by simp)
  | .str left, .str right => decidable_of_iff (left = right) (by simp)
  | .arr left, .arr right =>
      have := decEqItems left right
      decidable_of_iff (left = right) (by simp)
  | .obj left, .obj right =>
      have := decEqFields left right
      decidable_of_iff (left = right) (by simp)
  | .null, .bool _ | .null, .int _ | .null, .float _ | .null, .str _
  | .null, .arr _ | .null, .obj _ | .bool _, .null | .bool _, .int _
  | .bool _, .float _ | .bool _, .str _ | .bool _, .arr _ | .bool _, .obj _
  | .int _, .null | .int _, .bool _ | .int _, .float _ | .int _, .str _
  | .int _, .arr _ | .int _, .obj _ | .float _, .null | .float _, .bool _
  | .float _, .int _ | .float _, .str _ | .float _, .arr _
  | .float _, .obj _ | .str _, .null | .str _, .bool _ | .str _, .int _
  | .str _, .float _ | .str _, .arr _ | .str _, .obj _ | .arr _, .null
  | .arr _, .bool _ | .arr _, .int _ | .arr _, .float _ | .arr _, .str _
  | .arr _, .obj _ | .obj _, .null | .obj _, .bool _ | .obj _, .int _
  | .obj _, .float _ | .obj _, .str _ | .obj _, .arr _ =>
      isFalse (by intro equal; cases equal)

def decEqItems : (left right : List Json) → Decidable (left = right)
  | [], [] => isTrue rfl
  | [], _ :: _ | _ :: _, [] => isFalse (by intro equal; cases equal)
  | left :: lefts, right :: rights =>
      have := decEq left right
      have := decEqItems lefts rights
      decidable_of_iff (left = right ∧ lefts = rights) (by simp)

def decEqFields : (left right : List (String × Json)) → Decidable (left = right)
  | [], [] => isTrue rfl
  | [], _ :: _ | _ :: _, [] => isFalse (by intro equal; cases equal)
  | (leftKey, left) :: lefts, (rightKey, right) :: rights =>
      have := decEq left right
      have := decEqFields lefts rights
      decidable_of_iff (leftKey = rightKey ∧ left = right ∧ lefts = rights)
        (by simp [and_assoc])
end

instance : DecidableEq Json := decEq

/-- The value a condition sees: empty, zero and missing values are false. -/
def truthy : Json → Bool
  | .null => false
  | .bool value => value
  | .int value => value != 0
  | .float spelling => spelling != "0.0" && spelling != "-0.0"
  | .str value => value != ""
  | .arr items => !items.isEmpty
  | .obj fields => !fields.isEmpty

mutual
/-- Every object with its keys in code-point order. -/
def sortKeys : Json → Json
  | .arr items => .arr (sortItems items)
  | .obj fields => .obj
      ((sortFields fields).insertionSort fun left right => left.1 ≤ right.1)
  | value => value

def sortItems : List Json → List Json
  | [] => []
  | item :: items => item.sortKeys :: sortItems items

def sortFields : List (String × Json) → List (String × Json)
  | [] => []
  | (key, value) :: fields => (key, value.sortKeys) :: sortFields fields
end

/-! ## Printing -/

def hexDigit (value : Nat) : Char :=
  if value < 10 then Char.ofNat (48 + value) else Char.ofNat (87 + value)

/-- `\uXXXX` for one UTF-16 code unit. -/
def escapeUnit (unit : Nat) : List Char :=
  ['\\', 'u', hexDigit (unit / 4096 % 16), hexDigit (unit / 256 % 16),
    hexDigit (unit / 16 % 16), hexDigit (unit % 16)]

/-- A character inside a string literal. With `ascii`, everything outside the
printable ASCII range is escaped, as a surrogate pair above the BMP. -/
def escapeChar (ascii : Bool) (char : Char) : List Char :=
  if char = '"' then ['\\', '"']
  else if char = '\\' then ['\\', '\\']
  else if char = '\n' then ['\\', 'n']
  else if char = '\r' then ['\\', 'r']
  else if char = '\t' then ['\\', 't']
  else if char.toNat = 8 then ['\\', 'b']
  else if char.toNat = 12 then ['\\', 'f']
  else if char.toNat < 32 then escapeUnit char.toNat
  else if !ascii || char.toNat < 127 then [char]
  else if char.toNat < 65536 then escapeUnit char.toNat
  else
    escapeUnit (55296 + (char.toNat - 65536) / 1024) ++
      escapeUnit (56320 + (char.toNat - 65536) % 1024)

def quote (ascii : Bool) (value : String) : String :=
  "\"" ++ String.ofList (value.toList.flatMap (escapeChar ascii)) ++ "\""

/-- How `model_dump_json` spells a float. Exponents have no plus sign and no leading
zeros, ten to the minus five is written out, and only finite floats are numbers. -/
def modelFloat (spelling : String) : String :=
  let digits := spelling.toList.takeWhile (· ≠ 'e')
  match spelling.toList.dropWhile (· ≠ 'e') with
  | _ :: sign :: exponent =>
      let exponent := exponent.dropWhile (· = '0')
      if sign ≠ '-' then String.ofList (digits ++ 'e' :: exponent)
      else if exponent = ['5'] then
        String.ofList (digits.takeWhile (· = '-') ++ "0.0000".toList ++
          digits.filter Char.isDigit)
      else String.ofList (digits ++ 'e' :: '-' :: exponent)
  | _ => if spelling ∈ ["NaN", "Infinity", "-Infinity"] then "null" else spelling

example : ["0.5", "1e+16", "-2.5e-05", "1e-07"].map modelFloat =
    ["0.5", "1e16", "-0.000025", "1e-7"] := by decide +kernel

/-- How a value is spelled: the two separators, whether the text is ASCII, and how a
float is written. -/
structure Layout where
  item : String
  field : String
  ascii : Bool
  float : String → String

def spaced : Layout := { item := ", ", field := ": ", ascii := true, float := id }

def dense : Layout := { item := ",", field := ":", ascii := true, float := id }

/-- The layout of a model dumped as JSON text. -/
def compact : Layout := { item := ",", field := ":", ascii := false, float := modelFloat }

mutual
def render (layout : Layout) : Json → String
  | .null => "null"
  | .bool true => "true"
  | .bool false => "false"
  | .int value => toString value
  | .float spelling => layout.float spelling
  | .str value => quote layout.ascii value
  | .arr items => "[" ++ layout.item.intercalate (renderItems layout items) ++ "]"
  | .obj fields => "\x7b" ++ layout.item.intercalate (renderFields layout fields) ++ "\x7d"

def renderItems (layout : Layout) : List Json → List String
  | [] => []
  | item :: items => item.render layout :: renderItems layout items

def renderFields (layout : Layout) : List (String × Json) → List String
  | [] => []
  | (key, value) :: fields =>
      (quote layout.ascii key ++ layout.field ++ value.render layout) ::
        renderFields layout fields
end

example : Json.render spaced (.obj [("a", .arr [.int 1, .null])]) =
    "\x7b\"a\": [1, null]\x7d" := by decide +kernel

end Json

/-! ## Dictionaries -/

namespace Dict

def get? (dict : Dict) (key : String) : Option Json := dict.lookup key

def contains (dict : Dict) (key : String) : Bool := (dict.get? key).isSome

def getD (dict : Dict) (key : String) (default : Json) : Json :=
  (dict.get? key).getD default

/-- The dictionary `json.dumps(…, sort_keys=True)` prints. -/
def sorted (dict : Dict) : Dict :=
  (Json.sortFields dict).insertionSort fun left right => left.1 ≤ right.1

/-- Assign one key: in place when present, at the end otherwise. -/
def set : Dict → String → Json → Dict
  | [], key, value => [(key, value)]
  | (head, old) :: rest, key, value =>
      if head = key then (head, value) :: rest else (head, old) :: set rest key value

/-- Assign every key of `updates` in turn. -/
def update (dict updates : Dict) : Dict :=
  updates.foldl (fun current field => current.set field.1 field.2) dict

theorem get?_nil (key : String) : Dict.get? [] key = none := rfl

theorem get?_cons (name : String) (value : Json) (rest : Dict) (key : String) :
    Dict.get? ((name, value) :: rest) key = if key = name then some value else rest.get? key := by
  by_cases same : key = name
  · simp [get?, same]
  · simp [get?, List.lookup_cons, same, beq_false_of_ne same]

@[simp] theorem get?_set_same (dict : Dict) (key : String) (value : Json) :
    (dict.set key value).get? key = some value := by
  induction dict with
  | nil => simp [set, get?]
  | cons head rest induction =>
      rcases head with ⟨name, old⟩
      by_cases equal : name = key
      · simp [set, get?, equal]
      · have different : (key == name) = false := by simpa using Ne.symm equal
        simpa [set, get?, equal, List.lookup_cons, different] using induction

@[simp] theorem get?_set_other (dict : Dict) {key other : String} (value : Json)
    (different : other ≠ key) : (dict.set key value).get? other = dict.get? other := by
  induction dict with
  | nil => simp [set, get?, List.lookup_cons, beq_false_of_ne different]
  | cons head rest induction =>
      rcases head with ⟨name, old⟩
      by_cases equal : name = key
      · subst equal
        simp [set, get?, List.lookup_cons, beq_false_of_ne different]
      · simp only [set, equal, if_false, get?, List.lookup_cons]
        cases other == name with
        | true => rfl
        | false => exact induction

@[simp] theorem update_nil (dict : Dict) : dict.update [] = dict := rfl

@[simp] theorem update_cons (dict : Dict) (key : String) (value : Json) (rest : Dict) :
    dict.update ((key, value) :: rest) = (dict.set key value).update rest := rfl

theorem get?_update_of_not_mem (dict updates : Dict) {key : String}
    (absent : key ∉ updates.map Prod.fst) :
    (dict.update updates).get? key = dict.get? key := by
  induction updates generalizing dict with
  | nil => rfl
  | cons head rest induction =>
      rcases head with ⟨name, value⟩
      simp only [List.map_cons, List.mem_cons, not_or] at absent
      rw [update_cons, induction _ absent.2, get?_set_other _ _ absent.1]

theorem get?_update (dict : Dict) {updates : Dict}
    (distinct : (updates.map Prod.fst).Nodup) (key : String) :
    (dict.update updates).get? key = (updates.get? key).or (dict.get? key) := by
  induction updates generalizing dict with
  | nil => rfl
  | cons head rest induction =>
      rcases head with ⟨name, value⟩
      rw [List.map_cons, List.nodup_cons] at distinct
      rw [update_cons, get?_cons]
      by_cases same : key = name
      · subst same
        rw [get?_update_of_not_mem _ _ distinct.1, get?_set_same, if_pos rfl]
        rfl
      · rw [induction _ distinct.2, get?_set_other _ _ same, if_neg same]

theorem mem_of_get? {dict : Dict} {key : String} {value : Json}
    (stored : dict.get? key = some value) : (key, value) ∈ dict := by
  obtain ⟨before, after, rfl, _⟩ := List.lookup_eq_some_iff.mp stored
  exact List.mem_append_right _ List.mem_cons_self

theorem get?_of_mem {dict : Dict} (distinct : (dict.map Prod.fst).Nodup) {key : String}
    {value : Json} (member : (key, value) ∈ dict) : dict.get? key = some value := by
  induction dict with
  | nil => cases member
  | cons head rest induction =>
      rcases head with ⟨name, old⟩
      rw [List.map_cons, List.nodup_cons] at distinct
      rw [get?_cons]
      rcases List.mem_cons.mp member with same | later
      · cases same
        rw [if_pos rfl]
      · have named := List.mem_map_of_mem (f := Prod.fst) later
        have different : key ≠ name := fun same => distinct.1 (same ▸ named)
        rw [if_neg different, induction distinct.2 later]

theorem mem_set {dict : Dict} {key : String} {value : Json} {field : String × Json}
    (member : field ∈ dict.set key value) : field ∈ dict ∨ field = (key, value) := by
  induction dict with
  | nil => exact .inr (List.mem_singleton.mp member)
  | cons head rest induction =>
      rcases head with ⟨name, old⟩
      unfold set at member
      split at member
      · rename_i same
        rcases List.mem_cons.mp member with rfl | member
        · exact .inr (by rw [same])
        · exact .inl (List.mem_cons_of_mem _ member)
      · rcases List.mem_cons.mp member with rfl | member
        · exact .inl List.mem_cons_self
        · exact (induction member).imp_left (List.mem_cons_of_mem _)

theorem mem_update {dict updates : Dict} {field : String × Json}
    (member : field ∈ dict.update updates) : field ∈ dict ∨ field ∈ updates := by
  induction updates generalizing dict with
  | nil => exact .inl member
  | cons head rest induction =>
      rcases induction member with kept | later
      · rcases mem_set kept with kept | rfl
        · exact .inl kept
        · exact .inr List.mem_cons_self
      · exact .inr (List.mem_cons_of_mem _ later)

end Dict

end Foundation

import Mathlib.Data.List.SplitBy
import Mathlib.Data.List.TakeWhile
import Crewos.Foundation.Json

/-! # Local references in JSON schemas

A schema refers to its definitions by local pointers. Following them unfolds the
schema; definitions can be moved to other names when the pointers move along. -/

namespace Foundation

namespace Schema

/-! ## Pointers -/

def localStart : List Char := "#/$defs/".toList

def localPointer (rest : List Char) : String := String.ofList (localStart ++ rest)

def localRest (pointer : String) : Option (List Char) :=
  if localStart.isPrefixOf pointer.toList then some (pointer.toList.drop localStart.length)
  else none

@[simp] theorem localRest_localPointer (rest : List Char) :
    localRest (localPointer rest) = some rest := by
  have starts : localStart.isPrefixOf (localStart ++ rest) = true :=
    List.isPrefixOf_iff_prefix.mpr (List.prefix_append _ _)
  simp [localRest, localPointer, starts]

/-- The value of a key `$ref` that is a local pointer. -/
def refTarget (key : String) (value : Json) : Option (List Char) :=
  if key = "$ref" then
    match value with
    | .str pointer => localRest pointer
    | _ => none
  else none

theorem refTarget_str {key : String} {value : Json} {rest : List Char}
    (target : refTarget key value = some rest) :
    key = "$ref" ∧ ∃ pointer, value = .str pointer := by
  unfold refTarget at target
  split at target
  · rename_i isRef
    split at target
    · exact ⟨isRef, _, rfl⟩
    · cases target
  · cases target

/-! ## Moving the pointers -/

mutual
/-- Change what follows the start of every local pointer under a key `$ref`. -/
def mapRefs (change : List Char → List Char) : Json → Json
  | .arr items => .arr (mapRefsItems change items)
  | .obj fields => .obj (mapRefsFields change fields)
  | .null => .null
  | .bool value => .bool value
  | .int value => .int value
  | .float spelling => .float spelling
  | .str value => .str value

def mapRefsItems (change : List Char → List Char) : List Json → List Json
  | [] => []
  | item :: items => mapRefs change item :: mapRefsItems change items

def mapRefsFields (change : List Char → List Char) :
    List (String × Json) → List (String × Json)
  | [] => []
  | (key, value) :: fields =>
      (key, match refTarget key value with
        | some rest => .str (localPointer (change rest))
        | none => mapRefs change value) :: mapRefsFields change fields
end

def movedValue (change : List Char → List Char) (key : String) (value : Json) : Json :=
  match refTarget key value with
  | some rest => .str (localPointer (change rest))
  | none => mapRefs change value

theorem mapRefsFields_eq (change : List Char → List Char) (fields : List (String × Json)) :
    mapRefsFields change fields =
      fields.map fun field => (field.1, movedValue change field.1 field.2) := by
  induction fields with
  | nil => rfl
  | cons field fields induction => simp [mapRefsFields, movedValue, induction]

theorem mapRefsItems_eq (change : List Char → List Char) (items : List Json) :
    mapRefsItems change items = items.map (mapRefs change) := by
  induction items with
  | nil => rfl
  | cons item items induction => simp [mapRefsItems, induction]

theorem get?_mapRefsFields (change : List Char → List Char) (fields : Dict) (key : String) :
    Dict.get? (mapRefsFields change fields) key =
      (fields.get? key).map (movedValue change key) := by
  induction fields with
  | nil => rfl
  | cons field fields induction =>
      rcases field with ⟨name, value⟩
      rw [mapRefsFields, Dict.get?_cons, Dict.get?_cons, induction]
      by_cases same : key = name
      · rw [if_pos same, if_pos same, same]
        rfl
      · rw [if_neg same, if_neg same]

theorem refTarget_mapRefs (change : List Char → List Char) (key : String) (value : Json) :
    refTarget key (mapRefs change value) = refTarget key value := by
  cases value <;> rfl

theorem refTarget_movedValue (change : List Char → List Char) (key : String) (value : Json) :
    refTarget key (movedValue change key value) = (refTarget key value).map change := by
  unfold movedValue
  cases target : refTarget key value with
  | some rest =>
      obtain ⟨rfl, _⟩ := refTarget_str target
      simp [refTarget]
  | none =>
      dsimp only
      rw [refTarget_mapRefs, target]
      rfl

/-! ## References -/

mutual
/-- What follows the start of every local pointer under a key `$ref`. -/
def refs : Json → List (List Char)
  | .arr items => refsItems items
  | .obj fields => refsFields fields
  | .null | .bool _ | .int _ | .float _ | .str _ => []

def refsItems : List Json → List (List Char)
  | [] => []
  | item :: items => refs item ++ refsItems items

def refsFields : List (String × Json) → List (List Char)
  | [] => []
  | (key, value) :: fields =>
      (match refTarget key value with
        | some rest => [rest]
        | none => refs value) ++ refsFields fields
end

mutual
theorem refs_mapRefs (change : List Char → List Char) :
    ∀ json : Json, refs (mapRefs change json) = (refs json).map change
  | .arr items => refsItems_mapRefsItems change items
  | .obj fields => refsFields_mapRefsFields change fields
  | .null | .bool _ | .int _ | .float _ | .str _ => rfl

theorem refsItems_mapRefsItems (change : List Char → List Char) :
    ∀ items : List Json, refsItems (mapRefsItems change items) = (refsItems items).map change
  | [] => rfl
  | item :: items => by
      simp only [mapRefsItems, refsItems, refs_mapRefs change item,
        refsItems_mapRefsItems change items, List.map_append]

theorem refsFields_mapRefsFields (change : List Char → List Char) :
    ∀ fields : List (String × Json),
      refsFields (mapRefsFields change fields) = (refsFields fields).map change
  | [] => rfl
  | (key, value) :: fields => by
      have target := refTarget_movedValue change key value
      simp only [mapRefsFields, refsFields, refsFields_mapRefsFields change fields,
        List.map_append, List.append_cancel_right_eq]
      unfold movedValue at target
      cases found : refTarget key value with
      | some rest =>
          rw [found] at target
          simp only [Option.map_some] at target
          simp only [target, List.map_cons, List.map_nil]
      | none =>
          rw [found] at target
          simp only [Option.map_none] at target
          simp only [target, refs_mapRefs change value]
end

/-! ## Discriminators -/

/-- A local pointer in a mapping. Under a key `$ref` it is a reference already. -/
def mappingTarget (key : String) (value : Json) : Option (List Char) :=
  if key = "$ref" then none
  else
    match value with
    | .str pointer => localRest pointer
    | _ => none

/-- The local pointers in the mapping of a discriminator. -/
def mappingTargets : Json → List (List Char)
  | .obj fields =>
      match Dict.get? fields "mapping" with
      | some (.obj mapping) => mapping.filterMap fun field => mappingTarget field.1 field.2
      | _ => []
  | _ => []

mutual
/-- What follows the start of every local pointer in the mapping of a discriminator. -/
def mapped : Json → List (List Char)
  | .arr items => mappedItems items
  | .obj fields => mappedFields fields
  | .null | .bool _ | .int _ | .float _ | .str _ => []

def mappedItems : List Json → List (List Char)
  | [] => []
  | item :: items => mapped item ++ mappedItems items

def mappedFields : List (String × Json) → List (List Char)
  | [] => []
  | (key, value) :: fields =>
      ((if key = "discriminator" then mappingTargets value else []) ++ mapped value) ++
        mappedFields fields
end

theorem mappingTarget_movedValue (change : List Char → List Char) (key : String)
    (value : Json) : mappingTarget key (movedValue change key value) = mappingTarget key value := by
  by_cases isRef : key = "$ref"
  · simp [mappingTarget, isRef]
  · have target : refTarget key value = none := by simp [refTarget, isRef]
    simp only [movedValue, target]
    cases value <;> rfl

theorem mappingTargets_mapRefs (change : List Char → List Char) (json : Json) :
    mappingTargets (mapRefs change json) = mappingTargets json := by
  cases json with
  | obj fields =>
      simp only [mapRefs, mappingTargets, get?_mapRefsFields]
      cases Dict.get? fields "mapping" with
      | none => rfl
      | some value =>
          have target : refTarget "mapping" value = none := by simp [refTarget]
          simp only [Option.map_some, movedValue, target]
          cases value with
          | obj mapping =>
              simp only [mapRefs, mapRefsFields_eq, List.filterMap_map]
              congr 1
              funext field
              exact mappingTarget_movedValue change field.1 field.2
          | _ => rfl
  | _ => rfl

mutual
theorem mapped_mapRefs (change : List Char → List Char) :
    ∀ json : Json, mapped (mapRefs change json) = mapped json
  | .arr items => mappedItems_mapRefsItems change items
  | .obj fields => mappedFields_mapRefsFields change fields
  | .null | .bool _ | .int _ | .float _ | .str _ => rfl

theorem mappedItems_mapRefsItems (change : List Char → List Char) :
    ∀ items : List Json, mappedItems (mapRefsItems change items) = mappedItems items
  | [] => rfl
  | item :: items => by
      simp only [mapRefsItems, mappedItems, mapped_mapRefs change item,
        mappedItems_mapRefsItems change items]

theorem mappedFields_mapRefsFields (change : List Char → List Char) :
    ∀ fields : List (String × Json),
      mappedFields (mapRefsFields change fields) = mappedFields fields
  | [] => rfl
  | (key, value) :: fields => by
      simp only [mapRefsFields, mappedFields, mappedFields_mapRefsFields change fields,
        List.append_cancel_right_eq]
      cases found : refTarget key value with
      | some rest =>
          obtain ⟨rfl, pointer, rfl⟩ := refTarget_str found
          rfl
      | none => simp only [mapped_mapRefs change value, mappingTargets_mapRefs change value]
end

def pointers (json : Json) : List (List Char) := refs json ++ mapped json

theorem mem_pointers_mapRefs {change : List Char → List Char} {json : Json}
    {rest : List Char} :
    rest ∈ pointers (mapRefs change json) ↔
      (∃ original ∈ refs json, change original = rest) ∨ rest ∈ mapped json := by
  rw [pointers, refs_mapRefs, mapped_mapRefs, List.mem_append, List.mem_map]

def fieldPointers (key : String) (value : Json) : List (List Char) :=
  (match refTarget key value with
    | some rest => [rest]
    | none => refs value) ++
    ((if key = "discriminator" then mappingTargets value else []) ++ mapped value)

theorem mem_pointers_obj {fields : List (String × Json)} {rest : List Char} :
    rest ∈ pointers (.obj fields) ↔ ∃ field ∈ fields, rest ∈ fieldPointers field.1 field.2 := by
  rw [pointers, List.mem_append]
  change rest ∈ refsFields fields ∨ rest ∈ mappedFields fields ↔ _
  induction fields with
  | nil => simp [refsFields, mappedFields]
  | cons field fields induction =>
      rcases field with ⟨key, value⟩
      rw [List.exists_mem_cons_iff, ← induction]
      simp only [refsFields, mappedFields, fieldPointers, List.mem_append]
      tauto

theorem mem_pointers_arr {items : List Json} {rest : List Char} :
    rest ∈ pointers (.arr items) ↔ ∃ item ∈ items, rest ∈ pointers item := by
  rw [pointers, List.mem_append]
  change rest ∈ refsItems items ∨ rest ∈ mappedItems items ↔ _
  induction items with
  | nil => simp [refsItems, mappedItems]
  | cons item items induction =>
      rw [List.exists_mem_cons_iff, ← induction]
      simp only [refsItems, mappedItems, pointers, List.mem_append]
      tauto

theorem fieldPointers_of_ne {key : String} (value : Json) (notRef : key ≠ "$ref")
    (notDiscriminator : key ≠ "discriminator") : fieldPointers key value = pointers value := by
  have target : refTarget key value = none := by simp [refTarget, notRef]
  rw [fieldPointers, target, if_neg notDiscriminator]
  rfl

theorem mem_fieldPointers {key : String} {value : Json} {rest : List Char}
    (member : rest ∈ pointers value) : rest ∈ fieldPointers key value := by
  unfold fieldPointers
  cases found : refTarget key value with
  | some target =>
      obtain ⟨_, pointer, rfl⟩ := refTarget_str found
      cases member
  | none =>
      rcases List.mem_append.mp member with isRef | isMapped
      · exact List.mem_append_left _ isRef
      · exact List.mem_append_right _ (List.mem_append_right _ isMapped)

/-! ## Resolving -/

/-- `~1` and `~0` stand for the two characters a token cannot hold. -/
def unescape : List Char → List Char
  | '~' :: '1' :: rest => '/' :: unescape rest
  | '~' :: '0' :: rest => '~' :: unescape rest
  | char :: rest => char :: unescape rest
  | [] => []

/-- The definition a local pointer names. -/
def nameOf (rest : List Char) : String :=
  String.ofList (unescape (rest.takeWhile fun char => char != '/'))

def pathOf (rest : List Char) : List String :=
  (((rest.dropWhile fun char => char != '/').splitOn '/').drop 1).map fun token =>
    String.ofList (unescape token)

def indexOf (token : String) : Option Nat :=
  if token.toList.all Char.isDigit then token.toNat? else none

def childOf : Json → String → Option Json
  | .obj fields, token => Dict.get? fields token
  | .arr items, token => (indexOf token).bind fun index => items[index]?
  | _, _ => none

def navigate : List String → Json → Option Json
  | [], json => some json
  | token :: path, json => (childOf json token).bind (navigate path)

def isSchema : Json → Bool
  | .obj _ | .bool _ => true
  | _ => false

/-- The schema a local pointer stands for. -/
def resolve (definitions : Dict) (rest : List Char) : Option Json :=
  ((definitions.get? (nameOf rest)).bind (navigate (pathOf rest))).filter isSchema

theorem isSchema_mapRefs (change : List Char → List Char) (json : Json) :
    isSchema (mapRefs change json) = isSchema json := by
  cases json <;> rfl

theorem navigate_str (path : List String) (text : String) :
    (navigate path (.str text)).filter isSchema = none := by
  cases path <;> rfl

theorem navigate_mapRefs (change : List Char → List Char) (path : List String) (json : Json) :
    (navigate path (mapRefs change json)).filter isSchema =
      ((navigate path json).filter isSchema).map (mapRefs change) := by
  induction path generalizing json with
  | nil =>
      simp only [navigate, Option.filter_some, isSchema_mapRefs]
      split <;> rfl
  | cons token path induction =>
      cases json with
      | obj fields =>
          simp only [navigate, mapRefs, childOf, get?_mapRefsFields]
          cases Dict.get? fields token with
          | none => rfl
          | some value =>
              simp only [Option.map_some, Option.bind_some, movedValue]
              cases target : refTarget token value with
              | none => exact induction value
              | some rest =>
                  obtain ⟨_, pointer, rfl⟩ := refTarget_str target
                  rw [navigate_str, navigate_str]
                  rfl
      | arr items =>
          simp only [navigate, mapRefs, childOf, mapRefsItems_eq]
          cases indexOf token with
          | none => rfl
          | some index =>
              simp only [Option.bind_some, List.getElem?_map]
              cases items[index]? with
              | none => rfl
              | some item => exact induction item
      | _ => rfl

/-! ## Unfolding -/

/-- A schema with its local references followed, as far as it was unfolded. -/
inductive Unfolded where
  | leaf (value : Json)
  | arr (items : List Unfolded)
  | obj (fields : List (String × Unfolded))
  /-- A reference that resolves to no schema. -/
  | dangling
  /-- A reference that was not followed any more. -/
  | cut

mutual
/-- Put what `follow` gives in the place of every local reference. -/
def unfoldWith (follow : List Char → Unfolded) : Json → Unfolded
  | .arr items => .arr (unfoldItems follow items)
  | .obj fields => .obj (unfoldFields follow fields)
  | .null => .leaf .null
  | .bool value => .leaf (.bool value)
  | .int value => .leaf (.int value)
  | .float spelling => .leaf (.float spelling)
  | .str value => .leaf (.str value)

def unfoldItems (follow : List Char → Unfolded) : List Json → List Unfolded
  | [] => []
  | item :: items => unfoldWith follow item :: unfoldItems follow items

def unfoldFields (follow : List Char → Unfolded) :
    List (String × Json) → List (String × Unfolded)
  | [] => []
  | (key, value) :: fields =>
      (key, match refTarget key value with
        | some rest => follow rest
        | none => unfoldWith follow value) :: unfoldFields follow fields
end

/-- Follow references through the definitions, `fuel` of them one after the other. -/
def unfold (definitions : Dict) : Nat → Json → Unfolded
  | 0 => unfoldWith fun _ => .cut
  | fuel + 1 => unfoldWith fun rest =>
      match resolve definitions rest with
      | some target => unfold definitions fuel target
      | none => .dangling

mutual
theorem unfoldWith_mapRefs (change : List Char → List Char) (follow : List Char → Unfolded) :
    ∀ json : Json, unfoldWith follow (mapRefs change json) =
      unfoldWith (fun rest => follow (change rest)) json
  | .arr items => congrArg Unfolded.arr (unfoldItems_mapRefs change follow items)
  | .obj fields => congrArg Unfolded.obj (unfoldFields_mapRefs change follow fields)
  | .null | .bool _ | .int _ | .float _ | .str _ => rfl

theorem unfoldItems_mapRefs (change : List Char → List Char) (follow : List Char → Unfolded) :
    ∀ items : List Json, unfoldItems follow (mapRefsItems change items) =
      unfoldItems (fun rest => follow (change rest)) items
  | [] => rfl
  | item :: items => by
      simp only [mapRefsItems, unfoldItems, unfoldWith_mapRefs change follow item,
        unfoldItems_mapRefs change follow items]

theorem unfoldFields_mapRefs (change : List Char → List Char) (follow : List Char → Unfolded) :
    ∀ fields : List (String × Json), unfoldFields follow (mapRefsFields change fields) =
      unfoldFields (fun rest => follow (change rest)) fields
  | [] => rfl
  | (key, value) :: fields => by
      have target := refTarget_movedValue change key value
      unfold movedValue at target
      simp only [mapRefsFields, unfoldFields, unfoldFields_mapRefs change follow fields,
        List.cons.injEq, Prod.mk.injEq, true_and, and_true]
      cases found : refTarget key value with
      | some rest =>
          rw [found] at target
          simp only [Option.map_some] at target
          simp only [target]
      | none =>
          rw [found] at target
          simp only [Option.map_none] at target
          simp only [target, unfoldWith_mapRefs change follow value]
end

/-! ## Moved definitions -/

/-- A prefix that leaves the tokens of a pointer alone. -/
def Verbatim (start : List Char) : Prop := ∀ char ∈ start, char ≠ '/' ∧ char ≠ '~'

theorem unescape_append {start : List Char} (plain : Verbatim start) (rest : List Char) :
    unescape (start ++ rest) = start ++ unescape rest := by
  induction start with
  | nil => rfl
  | cons char start induction =>
      have here := (plain char List.mem_cons_self).2
      have later := induction fun other member => plain other (List.mem_cons_of_mem _ member)
      rw [List.cons_append, unescape.eq_3 _ _ (by simp [here]) (by simp [here]), later]
      rfl

theorem nameOf_append {start : List Char} (plain : Verbatim start) (rest : List Char) :
    nameOf (start ++ rest) = String.ofList start ++ nameOf rest := by
  have inside : ∀ char ∈ start, (char != '/') = true := fun char member => by
    simpa using (plain char member).1
  unfold nameOf
  rw [List.takeWhile_append_of_pos inside, unescape_append plain, String.ofList_append]

theorem pathOf_append {start : List Char} (plain : Verbatim start) (rest : List Char) :
    pathOf (start ++ rest) = pathOf rest := by
  have inside : ∀ char ∈ start, (char != '/') = true := fun char member => by
    simpa using (plain char member).1
  unfold pathOf
  rw [List.dropWhile_append_of_pos inside]

/-- The definitions of `own` stand in `definitions` under prefixed names, with
their references moved along. -/
def Moved (start : List Char) (own definitions : Dict) : Prop := ∀ name,
  definitions.get? (String.ofList start ++ name) =
    (own.get? name).map (mapRefs (start ++ ·))

theorem resolve_moved {start : List Char} (plain : Verbatim start) {own definitions : Dict}
    (moved : Moved start own definitions) (rest : List Char) :
    resolve definitions (start ++ rest) = (resolve own rest).map (mapRefs (start ++ ·)) := by
  unfold resolve
  rw [nameOf_append plain, pathOf_append plain, moved]
  cases own.get? (nameOf rest) with
  | none => rfl
  | some definition => exact navigate_mapRefs _ _ _

/-- A schema whose definitions and references were moved unfolds as before. -/
theorem unfold_moved {start : List Char} (plain : Verbatim start) {own definitions : Dict}
    (moved : Moved start own definitions) (fuel : Nat) (json : Json) :
    unfold definitions fuel (mapRefs (start ++ ·) json) = unfold own fuel json := by
  induction fuel generalizing json with
  | zero => exact unfoldWith_mapRefs _ _ json
  | succ fuel induction =>
      rw [unfold, unfold, unfoldWith_mapRefs]
      congr 1
      funext rest
      rw [resolve_moved plain moved]
      cases resolve own rest with
      | none => rfl
      | some target => exact induction target

/-! ## Reachable definitions -/

/-- The definitions that a schema refers to, itself or through others. -/
inductive Reaches (definitions : Dict) : Json → String → Prop
  | here {json : Json} {rest : List Char} (refers : rest ∈ refs json) :
      Reaches definitions json (nameOf rest)
  | through {json definition : Json} {rest : List Char} {name : String}
      (refers : rest ∈ refs json) (defined : definitions.get? (nameOf rest) = some definition)
      (reaches : Reaches definitions definition name) : Reaches definitions json name

theorem reaches_moved {start : List Char} (plain : Verbatim start) {own definitions : Dict}
    (moved : Moved start own definitions) {json : Json} {name : String}
    (reaches : Reaches definitions (mapRefs (start ++ ·) json) name) :
    ∃ original, name = String.ofList start ++ original ∧ Reaches own json original := by
  generalize source : mapRefs (start ++ ·) json = whole at reaches
  induction reaches generalizing json with
  | here refers =>
      subst source
      rw [refs_mapRefs, List.mem_map] at refers
      obtain ⟨rest, member, rfl⟩ := refers
      exact ⟨nameOf rest, nameOf_append plain rest, .here member⟩
  | through refers defined _ induction =>
      subst source
      rw [refs_mapRefs, List.mem_map] at refers
      obtain ⟨rest, member, rfl⟩ := refers
      rw [nameOf_append plain, moved] at defined
      obtain ⟨definition, found, same⟩ := Option.map_eq_some_iff.mp defined
      obtain ⟨original, name, reaches⟩ := induction same
      exact ⟨original, name, .through member found reaches⟩

end Schema

end Foundation

import Mathlib.Data.List.DropRight

/-! # Text

White space, stripping and the character-class patterns that validate short
identifiers. Lengths count code points. -/

namespace Foundation

namespace Text

/-- The Unicode property `White_Space`. -/
def whiteSpace (char : Char) : Bool :=
  let point := char.toNat
  (9 ≤ point && point ≤ 13) || point == 32 || point == 133 || point == 160 ||
    point == 5760 || (8192 ≤ point && point ≤ 8202) || point == 8232 || point == 8233 ||
    point == 8239 || point == 8287 || point == 12288

/-- What `str.isspace` accepts: white space and the four separator controls. -/
def isspace (char : Char) : Bool :=
  whiteSpace char || (28 ≤ char.toNat && char.toNat ≤ 31)

/-- The text without the characters of a class at either end. -/
def strip (blank : Char → Bool) (text : String) : String :=
  String.ofList ((text.toList.dropWhile blank).rdropWhile blank)

theorem dropWhile_rdropWhile (blank : α → Bool) {items : List α}
    (trimmed : items.dropWhile blank = items) :
    (items.rdropWhile blank).dropWhile blank = items.rdropWhile blank := by
  rw [List.dropWhile_eq_self_iff] at trimmed ⊢
  intro nonempty
  obtain ⟨rest, split⟩ := List.rdropWhile_prefix blank items
  generalize items.rdropWhile blank = kept at *
  subst split
  have first := trimmed (by rw [List.length_append]; omega)
  rwa [List.getElem_append_left nonempty] at first

theorem strip_idem (blank : Char → Bool) (text : String) :
    strip blank (strip blank text) = strip blank text := by
  have trimmed := dropWhile_rdropWhile blank (List.dropWhile_idempotent blank text.toList)
  simp only [strip, String.toList_ofList, trimmed]
  rw [List.rdropWhile_idempotent]

/-- A full match of a character class repeated between `least` and `most`
times. -/
def fullmatch (allowed : Char → Bool) (least most : Nat) (text : String) : Bool :=
  text.toList.all allowed && least ≤ text.length && text.length ≤ most

/-- `[A-Za-z0-9_-]` -/
def identifierChar (char : Char) : Bool := char.isAlphanum || char == '_' || char == '-'

end Text

end Foundation

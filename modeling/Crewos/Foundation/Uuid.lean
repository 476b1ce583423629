import Mathlib.Data.List.Basic

/-! # Version 4 identifiers

An identifier is its canonical text: lower-case hexadecimal in groups of 8, 4,
4, 4 and 12. Parsing accepts the four usual spellings. -/

namespace Foundation

def hexDigits : List Char := "0123456789abcdef".toList

/-- Canonical text with the version digit 4. -/
def canonicalUuid4 (text : List Char) : Bool :=
  text.length == 36 &&
    text.zipIdx.all (fun place =>
      if place.2 ∈ [8, 13, 18, 23] then place.1 == '-' else hexDigits.contains place.1) &&
    text.getD 14 '0' == '4'

structure Uuid4 where
  text : String
  canonical : canonicalUuid4 text.toList = true
  deriving DecidableEq, Repr

namespace Uuid4

/-- The variant digit of a random identifier. -/
def rfcVariant (id : Uuid4) : Bool := ['8', '9', 'a', 'b'].contains (id.text.toList.getD 19 '0')

/-- The characters between the optional wrappings of an identifier. -/
def unwrap (chars : List Char) : List Char :=
  if chars.length = 45 ∧ chars.take 9 = "urn:uuid:".toList then chars.drop 9
  else if chars.length = 38 ∧ chars.head? = some '\x7b' ∧ chars.getLast? = some '\x7d' then
    chars.tail.dropLast
  else if chars.length = 32 then
    chars.take 8 ++ '-' :: (chars.drop 8).take 4 ++ '-' :: (chars.drop 12).take 4 ++
      '-' :: (chars.drop 16).take 4 ++ '-' :: chars.drop 20
  else chars

def parse (text : String) : Option Uuid4 :=
  let chars := (unwrap text.toList).map Char.toLower
  if canonical : canonicalUuid4 (String.ofList chars).toList = true then
    some ⟨String.ofList chars, canonical⟩
  else
    none

theorem ext_text {left right : Uuid4} (same : left.text = right.text) : left = right := by
  rcases left with ⟨text, _⟩
  cases same
  rfl

theorem toLower_of_place {char : Char} (hex : char = '-' ∨ char ∈ hexDigits) :
    char.toLower = char := by
  rcases hex with rfl | hex
  · decide
  · have every : hexDigits.all (fun char => char.toLower = char) = true := by decide
    simpa using List.all_eq_true.mp every char hex

theorem parse_text (id : Uuid4) : parse id.text = some id := by
  have canonical := id.canonical
  simp only [canonicalUuid4, Bool.and_eq_true, beq_iff_eq, List.all_eq_true] at canonical
  obtain ⟨⟨length, places⟩, _⟩ := canonical
  have unwrapped : unwrap id.text.toList = id.text.toList := by
    simp [unwrap, length]
  have lower : id.text.toList.map Char.toLower = id.text.toList := by
    conv => rhs; rw [← List.map_id id.text.toList]
    apply List.map_congr_left
    intro char member
    obtain ⟨place, bound, rfl⟩ := List.getElem_of_mem member
    have here := places (id.text.toList[place], place) (by
      rw [List.mem_zipIdx_iff_getElem?]
      simp [bound])
    apply toLower_of_place
    split at here
    · exact .inl (by simpa using here)
    · exact .inr (by simpa using here)
  have same : String.ofList ((unwrap id.text.toList).map Char.toLower) = id.text := by
    rw [unwrapped, lower, String.ofList_toList]
  unfold parse
  simp only [same]
  rw [dif_pos id.canonical]

/-! Two identifiers for samples. -/

def first : Uuid4 := ⟨"00000000-0000-4000-8000-000000000001", by decide +kernel⟩

def second : Uuid4 := ⟨"00000000-0000-4000-8000-000000000002", by decide +kernel⟩

end Uuid4

end Foundation

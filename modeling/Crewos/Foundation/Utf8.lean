import Mathlib.Data.List.Basic

/-! # UTF-8

Encoding a text and decoding it again, strictly or without a marker in front of
it. -/

namespace Foundation

namespace Utf8

/-- `text.encode("utf-8")` -/
def encode (text : String) : List UInt8 := text.toList.flatMap String.utf8EncodeChar

/-- `content.decode("utf-8")`, nothing where it is malformed. -/
def decode (content : List UInt8) : Option String :=
  content.toByteArray.utf8Decode?.map fun chars => String.ofList chars.toList

/-- `codecs.BOM_UTF8` -/
def marker : List UInt8 := [0xEF, 0xBB, 0xBF]

/-- `content.decode("utf-8-sig")` -/
def decodeSig (content : List UInt8) : Option String :=
  if marker.isPrefixOf content then decode (content.drop marker.length) else decode content

def markerChar : Char := '\uFEFF'

def Marked (text : String) : Prop := text.toList.head? = some markerChar

instance (text : String) : Decidable (Marked text) := inferInstanceAs (Decidable (_ = _))

/-- The text without a marker in front of it. -/
def unmarked (text : String) : String :=
  if Marked text then String.ofList (text.toList.drop 1) else text

theorem decode_encode (text : String) : decode (encode text) = some text := by
  have same : (encode text).toByteArray = text.toList.utf8Encode := rfl
  rw [decode, same, List.utf8Decode?_utf8Encode]
  simp

theorem encode_marker : String.utf8EncodeChar markerChar = marker := by decide

/-- Encoded texts begin with the marker when the texts begin with its character. -/
theorem marker_prefix_iff (text : String) : marker <+: encode text ↔ Marked text := by
  unfold encode Marked
  cases text.toList with
  | nil => simp [marker]
  | cons first rest =>
      rw [List.flatMap_cons, List.head?_cons, Option.some.injEq]
      constructor
      · rintro ⟨tail, same⟩
        have bytes := congrArg List.toByteArray same
        rw [← encode_marker, List.toByteArray_append, List.toByteArray_append] at bytes
        have chars := congrArg (fun content => content.utf8DecodeChar? 0) bytes
        simp only [ByteArray.utf8DecodeChar?_utf8EncodeChar_append] at chars
        exact (Option.some.inj chars).symm
      · rintro rfl
        rw [encode_marker]
        exact List.prefix_append _ _

/-- What is decoded is what was encoded, without a marker in front of it. -/
theorem decodeSig_encode (text : String) : decodeSig (encode text) = some (unmarked text) := by
  unfold decodeSig unmarked
  by_cases marked : Marked text
  · have starts := List.isPrefixOf_iff_prefix.mpr ((marker_prefix_iff text).mpr marked)
    have rest : (encode text).drop marker.length = encode (String.ofList (text.toList.drop 1)) := by
      unfold Marked at marked
      unfold encode
      rw [String.toList_ofList]
      cases chars : text.toList with
      | nil => rw [chars] at marked; cases marked
      | cons first rest =>
          rw [chars, List.head?_cons, Option.some.injEq] at marked
          rw [marked, List.flatMap_cons, encode_marker, List.drop_left]
          rfl
    rw [if_pos starts, if_pos marked, rest, decode_encode]
  · have starts : ¬marker.isPrefixOf (encode text) = true := fun starts =>
      marked ((marker_prefix_iff text).mp (List.isPrefixOf_iff_prefix.mp starts))
    rw [if_neg starts, if_neg marked, decode_encode]

theorem unmarked_eq_iff (text : String) : unmarked text = text ↔ ¬Marked text := by
  constructor
  · intro same marked
    have lengths := congrArg (fun text => text.toList.length) same
    unfold unmarked at lengths
    rw [if_pos marked] at lengths
    unfold Marked at marked
    cases chars : text.toList with
    | nil => rw [chars] at marked; cases marked
    | cons first rest =>
        simp [chars] at lengths
  · intro unmarked
    exact if_neg unmarked

end Utf8

end Foundation

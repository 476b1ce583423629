import Mathlib.Data.List.Basic

/-! # Base64

The standard alphabet with padding. Decoding is strict: whole groups of four
characters, padding only at the end. -/

namespace Foundation

namespace Base64

def alphabet : List Char :=
  "ABCDEFGHIJKLMNOPQRSTUVWXYZabcdefghijklmnopqrstuvwxyz0123456789+/".toList

def digit (value : Nat) : Char := alphabet.getD value '='

def value (char : Char) : Option Nat := alphabet.idxOf? char

/-- Three bytes become four digits; a shorter last group is padded. -/
def encodeChars : List UInt8 → List Char
  | [] => []
  | [first] =>
      let bits := first.toNat * 16
      [digit (bits / 64), digit (bits % 64), '=', '=']
  | [first, second] =>
      let bits := first.toNat * 1024 + second.toNat * 4
      [digit (bits / 4096), digit (bits / 64 % 64), digit (bits % 64), '=']
  | first :: second :: third :: rest =>
      let bits := first.toNat * 65536 + second.toNat * 256 + third.toNat
      digit (bits / 262144) :: digit (bits / 4096 % 64) :: digit (bits / 64 % 64) ::
        digit (bits % 64) :: encodeChars rest

def decodeLast (first second third : Char) : Option (List UInt8) :=
  if third = '=' then do
    let bits := (← value first) * 64 + (← value second)
    return [UInt8.ofNat (bits / 16)]
  else do
    let bits := (← value first) * 4096 + (← value second) * 64 + (← value third)
    return [UInt8.ofNat (bits / 1024), UInt8.ofNat (bits / 4 % 256)]

def decodeChars : List Char → Option (List UInt8)
  | [] => some []
  | first :: second :: third :: fourth :: rest =>
      if fourth = '=' then
        if rest = [] then decodeLast first second third else none
      else do
        let bits := (← value first) * 262144 + (← value second) * 4096 +
          (← value third) * 64 + (← value fourth)
        let bytes ← decodeChars rest
        return UInt8.ofNat (bits / 65536) :: UInt8.ofNat (bits / 256 % 256) ::
          UInt8.ofNat (bits % 256) :: bytes
  | _ => none

def encode (bytes : List UInt8) : String := String.ofList (encodeChars bytes)

def decode (text : String) : Option (List UInt8) := decodeChars text.toList

theorem value_digit {number : Nat} (small : number < 64) :
    value (digit number) = some number := by
  have every : ∀ number < 64, value (digit number) = some number := by
    decide +kernel
  exact every number small

theorem digit_ne_pad {number : Nat} (small : number < 64) : digit number ≠ '=' := by
  have every : ∀ number < 64, digit number ≠ '=' := by decide +kernel
  exact every number small

theorem ofNat_eq (byte : UInt8) {number : Nat} (same : number = byte.toNat) :
    UInt8.ofNat number = byte := by
  rw [same]
  exact UInt8.ofNat_toNat

theorem decodeChars_encodeChars (bytes : List UInt8) :
    decodeChars (encodeChars bytes) = some bytes := by
  induction bytes using encodeChars.induct with
  | case1 => rfl
  | case2 first =>
      have bound := first.toNat_lt
      simp only [encodeChars, decodeChars, decodeLast, if_true]
      rw [value_digit (by omega), value_digit (by omega)]
      simp only [Option.bind_eq_bind, Option.bind_some, Option.pure_def]
      rw [ofNat_eq first (by omega)]
  | case3 first second =>
      have bound := first.toNat_lt
      have secondBound := second.toNat_lt
      simp only [encodeChars, decodeChars, decodeLast, if_true]
      rw [if_neg (digit_ne_pad (by omega)), value_digit (by omega), value_digit (by omega),
        value_digit (by omega)]
      simp only [Option.bind_eq_bind, Option.bind_some, Option.pure_def]
      rw [ofNat_eq first (by omega), ofNat_eq second (by omega)]
  | case4 first second third rest induction =>
      have bound := first.toNat_lt
      have secondBound := second.toNat_lt
      have thirdBound := third.toNat_lt
      simp only [encodeChars, decodeChars]
      rw [if_neg (digit_ne_pad (by omega)), value_digit (by omega), value_digit (by omega),
        value_digit (by omega), value_digit (by omega), induction]
      simp only [Option.bind_eq_bind, Option.bind_some, Option.pure_def]
      rw [ofNat_eq first (by omega), ofNat_eq second (by omega),
        ofNat_eq third (by omega)]

theorem decode_encode (bytes : List UInt8) : decode (encode bytes) = some bytes := by
  rw [decode, encode, String.toList_ofList]
  exact decodeChars_encodeChars bytes

end Base64

end Foundation

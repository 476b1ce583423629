import Mathlib.Algebra.Order.Field.Power
import Mathlib.Algebra.Order.Field.Rat
import Mathlib.Data.List.TakeWhile
import Mathlib.Tactic.FieldSimp
import Mathlib.Tactic.Ring

/-! # Decimal numbers

An exact decimal is a coefficient and a power of ten. It is spelled as
`decimal.Decimal` spells it and reads its own spelling back. -/

namespace Foundation

structure Decimal where
  coefficient : Int
  exponent : Int
  deriving DecidableEq, Repr

namespace Decimal

def ofInt (value : Int) : Decimal := { coefficient := value, exponent := 0 }

def value (decimal : Decimal) : ℚ := decimal.coefficient * (10 : ℚ) ^ decimal.exponent

def coefficientAt (decimal : Decimal) (exponent : Int) : Int :=
  decimal.coefficient * 10 ^ (decimal.exponent - exponent).toNat

def add (left right : Decimal) : Decimal :=
  let exponent := min left.exponent right.exponent
  { coefficient := left.coefficientAt exponent + right.coefficientAt exponent, exponent }

def mul (left right : Decimal) : Decimal :=
  { coefficient := left.coefficient * right.coefficient,
    exponent := left.exponent + right.exponent }

def trim : Nat → Decimal → Decimal
  | 0, decimal => decimal
  | places + 1, decimal =>
      if decimal.coefficient % 10 = 0 then
        trim places
          { coefficient := decimal.coefficient / 10, exponent := decimal.exponent + 1 }
      else decimal

/-- Divide by a power of ten; the exponent comes as close to the dividend's as
the digits allow. -/
def shift (decimal : Decimal) (places : Nat) : Decimal :=
  trim places { decimal with exponent := decimal.exponent - places }

def le (left right : Decimal) : Bool :=
  let exponent := min left.exponent right.exponent
  left.coefficientAt exponent ≤ right.coefficientAt exponent

def min (left right : Decimal) : Decimal := if right.le left && !left.le right then right else left

/-! ## Values -/

@[simp] theorem value_ofInt (number : Int) : (ofInt number).value = number := by
  simp [ofInt, value]

theorem coefficientAt_value (decimal : Decimal) {exponent : Int}
    (lower : exponent ≤ decimal.exponent) :
    (decimal.coefficientAt exponent : ℚ) * (10 : ℚ) ^ exponent = decimal.value := by
  have places : ((decimal.exponent - exponent).toNat : Int) = decimal.exponent - exponent := by
    omega
  have power : (10 : ℚ) ^ (decimal.exponent - exponent).toNat * (10 : ℚ) ^ exponent =
      (10 : ℚ) ^ decimal.exponent := by
    rw [← zpow_natCast, places, ← zpow_add₀ (by decide)]
    congr 1
    omega
  rw [coefficientAt, value]
  push_cast
  rw [mul_assoc, power]

theorem value_add (left right : Decimal) : (left.add right).value = left.value + right.value := by
  have first := left.coefficientAt_value (min_le_left left.exponent right.exponent)
  have second := right.coefficientAt_value (min_le_right left.exponent right.exponent)
  rw [← first, ← second, ← add_mul, add, value]
  push_cast
  rfl

theorem value_mul (left right : Decimal) : (left.mul right).value = left.value * right.value := by
  rw [mul, value, value, value, zpow_add₀ (by decide)]
  push_cast
  ring

theorem value_trim (places : Nat) (decimal : Decimal) :
    (trim places decimal).value = decimal.value := by
  induction places generalizing decimal with
  | zero => rfl
  | succ places induction =>
      unfold trim
      split
      · rename_i trailing
        rw [induction]
        have whole : decimal.coefficient = decimal.coefficient / 10 * 10 := by omega
        simp only [value]
        conv => rhs; rw [whole]
        rw [zpow_add₀ (by decide)]
        push_cast
        ring
      · rfl

theorem value_shift (decimal : Decimal) (places : Nat) :
    (decimal.shift places).value = decimal.value / 10 ^ places := by
  rw [shift, value_trim, value, value]
  simp only
  rw [zpow_sub₀ (by decide), zpow_natCast, mul_div_assoc]

theorem le_iff (left right : Decimal) : left.le right = true ↔ left.value ≤ right.value := by
  have first := left.coefficientAt_value (min_le_left left.exponent right.exponent)
  have second := right.coefficientAt_value (min_le_right left.exponent right.exponent)
  have positive : (0 : ℚ) < (10 : ℚ) ^ Min.min left.exponent right.exponent :=
    zpow_pos (by decide) _
  rw [← first, ← second, mul_le_mul_iff_left₀ positive]
  simp [le]

theorem value_min (left right : Decimal) :
    (left.min right).value = Min.min left.value right.value := by
  unfold Decimal.min
  by_cases smaller : right.value < left.value
  · have notLe : ¬left.value ≤ right.value := not_le.mpr smaller
    rw [← le_iff] at notLe
    simp [(le_iff right left).mpr smaller.le, notLe, smaller.le]
  · have le := not_lt.mp smaller
    simp [(le_iff left right).mpr le, le]

/-! ## Spelling -/

def digits (number : Nat) : List Char := Nat.toDigits 10 number

def signed (number : Int) : List Char :=
  (if number < 0 then '-' else '+') :: digits number.natAbs

def spell (digits : List Char) (exponent : Int) : List Char :=
  let left := exponent + digits.length
  if exponent ≤ 0 ∧ -6 < left then
    if left ≤ 0 then '0' :: '.' :: (List.replicate (-left).toNat '0' ++ digits)
    else if exponent = 0 then digits
    else digits.take left.toNat ++ '.' :: digits.drop left.toNat
  else
    digits.take 1 ++ (if digits.length = 1 then [] else '.' :: digits.drop 1) ++
      'E' :: signed (left - 1)

/-- `str` of a decimal. -/
def text (decimal : Decimal) : String :=
  String.ofList ((if decimal.coefficient < 0 then ['-'] else []) ++
    spell (digits decimal.coefficient.natAbs) decimal.exponent)

/-! ## Reading -/

def readSign : List Char → Int × List Char
  | '-' :: rest => (-1, rest)
  | '+' :: rest => (1, rest)
  | rest => (1, rest)

def readDigits (chars : List Char) : Option Nat :=
  if chars ≠ [] ∧ chars.all Char.isDigit then some (Nat.ofDigitChars 10 chars 0) else none

def readInteger (chars : List Char) : Option Int :=
  let (sign, rest) := readSign chars
  (readDigits rest).map fun number : Nat => sign * (number : Int)

def exponentMark (char : Char) : Bool := char == 'E' || char == 'e'

def readMantissa (chars : List Char) : Option Decimal :=
  let whole := chars.takeWhile (· != '.')
  let fraction := (chars.dropWhile (· != '.')).drop 1
  (readDigits (whole ++ fraction)).map fun coefficient : Nat =>
    { coefficient := (coefficient : Int), exponent := -(fraction.length : Int) }

def readUnsigned (chars : List Char) : Option Decimal := do
  let mantissa ← readMantissa (chars.takeWhile fun char => !exponentMark char)
  let exponent ← match chars.dropWhile fun char => !exponentMark char with
    | [] => some 0
    | _ :: power => readInteger power
  return { mantissa with exponent := mantissa.exponent + exponent }

/-- A finite decimal, as `Decimal(text)` reads it. -/
def parse (text : String) : Option Decimal :=
  let (sign, rest) := readSign text.toList
  (readUnsigned rest).map fun decimal =>
    { decimal with coefficient := sign * decimal.coefficient }

/-! ## Round trip -/

theorem isDigit_of_mem_digits {number : Nat} {char : Char} (member : char ∈ digits number) :
    char.isDigit = true :=
  Nat.isDigit_of_mem_toDigits (by decide) (by decide) member

theorem not_mark_of_isDigit {char : Char} (digit : char.isDigit = true) :
    (!exponentMark char) = true ∧ (char != '.') = true ∧ char ≠ '-' ∧ char ≠ '+' := by
  refine ⟨?_, ?_, ?_, ?_⟩
  · by_contra mark
    simp only [exponentMark, Bool.not_eq_true, Bool.not_eq_false', Bool.or_eq_true,
      beq_iff_eq] at mark
    rcases mark with rfl | rfl <;> exact absurd digit (by decide)
  · by_contra point
    simp only [bne_iff_ne, ne_eq, not_not] at point
    subst point
    exact absurd digit (by decide)
  · rintro rfl
    exact absurd digit (by decide)
  · rintro rfl
    exact absurd digit (by decide)

theorem readSign_of_head {chars : List Char}
    (unsigned : ∀ char ∈ chars.head?, char ≠ '-' ∧ char ≠ '+') : readSign chars = (1, chars) := by
  cases chars with
  | nil => rfl
  | cons char rest =>
      have different := unsigned char rfl
      unfold readSign
      split
      · rename_i same
        exact absurd (List.cons.inj same).1 different.1
      · rename_i same
        exact absurd (List.cons.inj same).1 different.2
      · rfl

theorem readDigits_digits (number : Nat) : readDigits (digits number) = some number := by
  rw [readDigits, if_pos, digits, Nat.ofDigitChars_ten_toDigits]
  exact ⟨Nat.toDigits_ne_nil, List.all_eq_true.mpr fun char => isDigit_of_mem_digits⟩

theorem readInteger_signed (number : Int) : readInteger (signed number) = some number := by
  have minus (rest : List Char) : readSign ('-' :: rest) = (-1, rest) := rfl
  have plus (rest : List Char) : readSign ('+' :: rest) = (1, rest) := rfl
  by_cases negative : number < 0
  · simp only [readInteger, signed, negative, if_true, minus, readDigits_digits,
      Option.map_some, Option.some.injEq]
    omega
  · simp only [readInteger, signed, negative, if_false, plus, readDigits_digits,
      Option.map_some, Option.some.injEq]
    omega

theorem split_at_mark {keeps : Char → Bool} {front : List Char} (mark : Char)
    (rest : List Char) (every : ∀ char ∈ front, keeps char = true) (stops : keeps mark = false) :
    (front ++ mark :: rest).takeWhile keeps = front ∧
      (front ++ mark :: rest).dropWhile keeps = mark :: rest := by
  rw [List.takeWhile_append_of_pos every, List.dropWhile_append_of_pos every]
  simp [stops]

theorem split_without_mark {keeps : Char → Bool} {front : List Char}
    (every : ∀ char ∈ front, keeps char = true) :
    front.takeWhile keeps = front ∧ front.dropWhile keeps = [] :=
  ⟨List.takeWhile_eq_self_iff.mpr every, List.dropWhile_eq_nil_iff.mpr every⟩

theorem readMantissa_whole {number : Nat} {whole : List Char}
    (read : readDigits whole = some number) :
    readMantissa whole = some { coefficient := number, exponent := 0 } := by
  have every : ∀ char ∈ whole, (char != '.') = true := by
    intro char member
    unfold readDigits at read
    split at read
    · rename_i holds
      exact (not_mark_of_isDigit (List.all_eq_true.mp holds.2 char member)).2.1
    · cases read
  obtain ⟨front, tail⟩ := split_without_mark every
  simp [readMantissa, front, tail, read]

theorem readMantissa_point {number : Nat} {whole fraction : List Char}
    (read : readDigits (whole ++ fraction) = some number) :
    readMantissa (whole ++ '.' :: fraction) =
      some { coefficient := number, exponent := -(fraction.length : Int) } := by
  have every : ∀ char ∈ whole, (char != '.') = true := by
    intro char member
    unfold readDigits at read
    split at read
    · rename_i holds
      have digit := List.all_eq_true.mp holds.2 char (List.mem_append_left _ member)
      exact (not_mark_of_isDigit digit).2.1
    · cases read
  obtain ⟨front, tail⟩ := split_at_mark '.' fraction every (by decide)
  simp [readMantissa, front, tail, read]

theorem readUnsigned_plain {chars : List Char} {decimal : Decimal}
    (every : ∀ char ∈ chars, (!exponentMark char) = true)
    (read : readMantissa chars = some decimal) : readUnsigned chars = some decimal := by
  obtain ⟨front, tail⟩ := split_without_mark every
  simp [readUnsigned, front, tail, read]

theorem readUnsigned_power {chars : List Char} {decimal : Decimal} (power : Int)
    (every : ∀ char ∈ chars, (!exponentMark char) = true)
    (read : readMantissa chars = some decimal) :
    readUnsigned (chars ++ 'E' :: signed power) =
      some { decimal with exponent := decimal.exponent + power } := by
  obtain ⟨front, tail⟩ := split_at_mark 'E' (signed power) every (by decide)
  simp [readUnsigned, front, tail, read, readInteger_signed]

theorem readDigits_padded (zeros number : Nat) :
    readDigits (List.replicate zeros '0' ++ digits number) = some number := by
  rw [readDigits, if_pos]
  · rw [Nat.ofDigitChars_append, Nat.ofDigitChars_replicate_zero, Nat.mul_zero, digits,
      Nat.ofDigitChars_ten_toDigits]
  · refine ⟨by simp [digits, Nat.toDigits_ne_nil], List.all_eq_true.mpr ?_⟩
    intro char member
    rcases List.mem_append.mp member with zero | digit
    · rw [List.eq_of_mem_replicate zero]
      decide
    · exact isDigit_of_mem_digits digit

theorem not_mark_of_point {front rest : List Char}
    (front_digits : ∀ char ∈ front, char.isDigit = true)
    (rest_digits : ∀ char ∈ rest, char.isDigit = true) :
    ∀ char ∈ front ++ '.' :: rest, (!exponentMark char) = true := by
  intro char member
  rcases List.mem_append.mp member with inFront | inRest
  · exact (not_mark_of_isDigit (front_digits char inFront)).1
  · rcases List.mem_cons.mp inRest with rfl | inRest
    · decide
    · exact (not_mark_of_isDigit (rest_digits char inRest)).1

theorem readUnsigned_spell (number : Nat) (exponent : Int) :
    readUnsigned (spell (digits number) exponent) =
      some { coefficient := number, exponent } := by
  have positive : 0 < (digits number).length := Nat.length_toDigits_pos
  have every : ∀ char ∈ digits number, char.isDigit = true := fun _ => isDigit_of_mem_digits
  have noMark : ∀ char ∈ digits number, (!exponentMark char) = true :=
    fun char member => (not_mark_of_isDigit (every char member)).1
  unfold spell
  simp only
  split
  · rename_i plain
    split
    · -- All the digits stand after the point.
      rename_i small
      have zeros : ∀ char ∈ List.replicate (-(exponent + (digits number).length)).toNat '0' ++
          digits number, char.isDigit = true := by
        intro char member
        rcases List.mem_append.mp member with zero | digit
        · rw [List.eq_of_mem_replicate zero]
          decide
        · exact every char digit
      have padded := readDigits_padded ((-(exponent + (digits number).length)).toNat + 1) number
      rw [List.replicate_succ, List.cons_append] at padded
      generalize fraction_eq : List.replicate (-(exponent + (digits number).length)).toNat '0' ++
        digits number = fraction at padded zeros ⊢
      have read : readMantissa (['0'] ++ '.' :: fraction) = _ := readMantissa_point padded
      have noMark : ∀ char ∈ ['0'] ++ '.' :: fraction, (!exponentMark char) = true :=
        not_mark_of_point (List.forall_mem_singleton.mpr (by decide)) zeros
      refine (readUnsigned_plain noMark read).trans ?_
      rw [← fraction_eq, List.length_append, List.length_replicate]
      simp only [Option.some.injEq, Decimal.mk.injEq, true_and]
      omega
    · split
      · rename_i whole
        subst whole
        exact readUnsigned_plain noMark (readMantissa_whole (readDigits_digits number))
      · have read : readMantissa ((digits number).take _ ++ '.' :: (digits number).drop
            (exponent + (digits number).length).toNat) = _ :=
          readMantissa_point (by rw [List.take_append_drop]; exact readDigits_digits number)
        refine (readUnsigned_plain (not_mark_of_point
          (fun char member => every char (List.mem_of_mem_take member))
          (fun char member => every char (List.mem_of_mem_drop member))) read).trans ?_
        simp only [List.length_drop, Option.some.injEq, Decimal.mk.injEq, true_and]
        omega
  · split
    · rename_i single
      have all : (digits number).take 1 = digits number :=
        List.take_of_length_le (by omega)
      rw [all, List.append_nil, readUnsigned_power _ noMark
        (readMantissa_whole (readDigits_digits number))]
      simp only [Option.some.injEq, Decimal.mk.injEq, true_and]
      omega
    · have read : readMantissa ((digits number).take 1 ++ '.' :: (digits number).drop 1) = _ :=
        readMantissa_point (by rw [List.take_append_drop]; exact readDigits_digits number)
      rw [readUnsigned_power _ (not_mark_of_point
        (fun char member => every char (List.mem_of_mem_take member))
        (fun char member => every char (List.mem_of_mem_drop member))) read]
      simp only [List.length_drop, Option.some.injEq, Decimal.mk.injEq, true_and]
      omega

theorem spell_head (number : Nat) (exponent : Int) :
    ∀ char ∈ (spell (digits number) exponent).head?, char ≠ '-' ∧ char ≠ '+' := by
  have starts : ∃ first rest, digits number = first :: rest ∧ first.isDigit = true := by
    cases spelled : digits number with
    | nil => exact absurd spelled Nat.toDigits_ne_nil
    | cons first rest =>
        exact ⟨first, rest, rfl, isDigit_of_mem_digits (spelled ▸ List.mem_cons_self)⟩
  obtain ⟨first, rest, spelled, digit⟩ := starts
  have unsigned := (not_mark_of_isDigit digit).2.2
  intro char head
  unfold spell at head
  simp only [spelled] at head
  split at head
  · split at head
    · simp only [List.head?_cons, Option.mem_def, Option.some.injEq] at head
      subst head
      decide
    · split at head
      · simp only [List.head?_cons, Option.mem_def, Option.some.injEq] at head
        exact head ▸ unsigned
      · rename_i big _
        obtain ⟨places, same⟩ : ∃ places,
            (exponent + ((first :: rest).length : Int)).toNat = places + 1 :=
          ⟨_, (Nat.succ_pred_eq_of_pos (by omega)).symm⟩
        rw [same, List.take_succ_cons, List.cons_append, List.head?_cons, Option.mem_def,
          Option.some.injEq] at head
        exact head ▸ unsigned
  · simp only [List.take_succ_cons, List.cons_append, List.head?_cons, Option.mem_def,
      Option.some.injEq] at head
    exact head ▸ unsigned

/-- A decimal reads its own spelling. -/
theorem parse_text (decimal : Decimal) : parse decimal.text = some decimal := by
  rcases decimal with ⟨coefficient, exponent⟩
  have read := readUnsigned_spell coefficient.natAbs exponent
  by_cases negative : coefficient < 0
  · have sign (rest : List Char) : readSign ('-' :: rest) = (-1, rest) := rfl
    simp only [parse, text, String.toList_ofList, negative, if_true, List.singleton_append,
      sign, read, Option.map_some, Option.some.injEq, Decimal.mk.injEq, and_true]
    omega
  · have sign := readSign_of_head (spell_head coefficient.natAbs exponent)
    simp only [parse, text, String.toList_ofList, negative, if_false, List.nil_append,
      sign, read, Option.map_some, Option.some.injEq, Decimal.mk.injEq, and_true]
    omega

example : ({ coefficient := -1230, exponent := -5 } : Decimal).text = "-0.01230" := by
  decide +kernel

example : ({ coefficient := 15, exponent := -8 } : Decimal).text = "1.5E-7" := by
  decide +kernel

end Decimal

end Foundation

import Mathlib.Data.List.TakeWhile
import Crewos.Foundation.Decimal
import Crewos.Foundation.SortedKeys

/-! # Reading printed JSON

A string literal and a number show where they end, and so does whatever is built
from them: a value without floats can be told from its text. -/

namespace Foundation

namespace Json

/-! ## Characters -/

def hexValue (char : Char) : Nat :=
  if char.isDigit then char.toNat - 48 else char.toNat - 87

theorem hexValue_hexDigit : ∀ value < 16, hexValue (hexDigit value) = value := by decide

def readUnit : List Char → Option (Nat × List Char)
  | first :: second :: third :: fourth :: rest =>
      some (hexValue first * 4096 + hexValue second * 256 + hexValue third * 16 +
        hexValue fourth, rest)
  | _ => none

/-- The character an escape sequence stands for, after its backslash. -/
def readEscape : List Char → Option (Char × List Char)
  | [] => none
  | kind :: rest =>
      if kind = 'u' then do
        let (unit, rest) ← readUnit rest
        if 55296 ≤ unit ∧ unit < 56320 then do
          -- The second half of a surrogate pair follows.
          let (low, rest) ← readUnit (rest.drop 2)
          return (Char.ofNat (65536 + (unit - 55296) * 1024 + (low - 56320)), rest)
        else return (Char.ofNat unit, rest)
      else if kind = 'n' then some ('\n', rest)
      else if kind = 'r' then some ('\r', rest)
      else if kind = 't' then some ('\t', rest)
      else if kind = 'b' then some (Char.ofNat 8, rest)
      else if kind = 'f' then some (Char.ofNat 12, rest)
      else some (kind, rest)

def readChar : List Char → Option (Char × List Char)
  | [] => none
  | first :: rest => if first = '\\' then readEscape rest else some (first, rest)

theorem readUnit_escapeUnit {unit : Nat} (small : unit < 65536) (rest : List Char) :
    readUnit ((escapeUnit unit).drop 2 ++ rest) = some (unit, rest) := by
  have first := hexValue_hexDigit (unit / 4096 % 16) (Nat.mod_lt _ (by decide))
  have second := hexValue_hexDigit (unit / 256 % 16) (Nat.mod_lt _ (by decide))
  have third := hexValue_hexDigit (unit / 16 % 16) (Nat.mod_lt _ (by decide))
  have fourth := hexValue_hexDigit (unit % 16) (Nat.mod_lt _ (by decide))
  simp only [escapeUnit, List.drop_succ_cons, List.drop_zero, List.cons_append, List.nil_append,
    readUnit, first, second, third, fourth, Option.some.injEq, Prod.mk.injEq, and_true]
  omega

theorem readChar_escapeUnit {unit : Nat} (small : unit < 65536)
    (single : ¬(55296 ≤ unit ∧ unit < 56320)) (rest : List Char) :
    readChar (escapeUnit unit ++ rest) = some (Char.ofNat unit, rest) := by
  have read := readUnit_escapeUnit small rest
  have shape : escapeUnit unit ++ rest = '\\' :: 'u' :: ((escapeUnit unit).drop 2 ++ rest) := rfl
  rw [shape]
  simp [readChar, readEscape, read, single]

theorem readChar_halves {high low : Nat} (first : 55296 ≤ high ∧ high < 56320)
    (small : low < 65536) (rest : List Char) :
    readChar (escapeUnit high ++ escapeUnit low ++ rest) =
      some (Char.ofNat (65536 + (high - 55296) * 1024 + (low - 56320)), rest) := by
  have smallHigh : high < 65536 := by omega
  have readHigh := readUnit_escapeUnit smallHigh (escapeUnit low ++ rest)
  have readLow := readUnit_escapeUnit small rest
  have shape : escapeUnit high ++ escapeUnit low ++ rest =
      '\\' :: 'u' :: ((escapeUnit high).drop 2 ++ (escapeUnit low ++ rest)) := rfl
  have follows : (escapeUnit low ++ rest).drop 2 = (escapeUnit low).drop 2 ++ rest := rfl
  rw [shape]
  simp only [readChar, readEscape, if_true, readHigh, Option.bind_eq_bind, Option.bind_some,
    if_pos first, follows, readLow, Option.pure_def]

theorem readChar_pair {code : Nat} (least : 65536 ≤ code) (most : code < 1114112)
    (rest : List Char) :
    readChar (escapeUnit (55296 + (code - 65536) / 1024) ++
      escapeUnit (56320 + (code - 65536) % 1024) ++ rest) = some (Char.ofNat code, rest) := by
  have whole : 65536 + (55296 + (code - 65536) / 1024 - 55296) * 1024 +
      (56320 + (code - 65536) % 1024 - 56320) = code := by omega
  rw [readChar_halves (by omega) (by omega), whole]

/-- An escaped character reads back, whatever follows it. -/
theorem readChar_escapeChar (ascii : Bool) (char : Char) (rest : List Char) :
    readChar (escapeChar ascii char ++ rest) = some (char, rest) := by
  have single : ¬(55296 ≤ char.toNat ∧ char.toNat < 56320) := by
    rcases char.valid with low | ⟨high, _⟩ <;> simp only [Char.toNat] at * <;> omega
  have most : char.toNat < 1114112 := by
    rcases char.valid with low | ⟨_, high⟩ <;> simp only [Char.toNat] at * <;> omega
  have unit (small : char.toNat < 65536) :
      readChar (escapeUnit char.toNat ++ rest) = some (char, rest) := by
    rw [readChar_escapeUnit small single, Char.ofNat_toNat]
  unfold escapeChar
  -- The two characters with an escape of their own are named by their code.
  have named (code : Nat) (same : char.toNat = code) : Char.ofNat code = char := by
    rw [← same, Char.ofNat_toNat]
  split_ifs with quoteMark backslash newline return_ tab backspace formFeed control printable basic
  · simp [readChar, readEscape, quoteMark]
  · simp [readChar, readEscape, backslash]
  · simp [readChar, readEscape, newline]
  · simp [readChar, readEscape, return_]
  · simp [readChar, readEscape, tab]
  · simpa [readChar, readEscape] using named 8 backspace
  · simpa [readChar, readEscape] using named 12 formFeed
  · exact unit (by omega)
  · simp [readChar, backslash]
  · exact unit basic
  · rw [readChar_pair (not_lt.mp basic) most, Char.ofNat_toNat]

theorem escapeChar_head (ascii : Bool) (char : Char) :
    ∃ first rest, escapeChar ascii char = first :: rest ∧ first ≠ '"' := by
  have unit (code : Nat) : ∃ rest, escapeUnit code = '\\' :: rest := ⟨_, rfl⟩
  unfold escapeChar
  split_ifs with quoteMark <;> try exact ⟨_, _, rfl, by decide⟩
  · exact ⟨_, _, rfl, quoteMark⟩

/-! ## Literals and numbers -/

/-- What is left after a value starts with a character that no number contains. -/
def Stops (rest : List Char) : Prop :=
  ∃ mark tail, rest = mark :: tail ∧ mark.isDigit = false

theorem literal_inj (ascii : Bool) {left right leftRest rightRest : List Char}
    (same : left.flatMap (escapeChar ascii) ++ '"' :: leftRest =
      right.flatMap (escapeChar ascii) ++ '"' :: rightRest) :
    left = right ∧ leftRest = rightRest := by
  induction left generalizing right with
  | nil =>
      cases right with
      | nil => exact ⟨rfl, (List.cons.inj same).2⟩
      | cons char right =>
          obtain ⟨first, rest, spelled, notEnd⟩ := escapeChar_head ascii char
          rw [List.flatMap_cons, spelled] at same
          exact absurd (List.cons.inj same).1.symm notEnd
  | cons char left induction =>
      cases right with
      | nil =>
          obtain ⟨first, rest, spelled, notEnd⟩ := escapeChar_head ascii char
          rw [List.flatMap_cons, spelled] at same
          exact absurd (List.cons.inj same).1 notEnd
      | cons other right =>
          rw [List.flatMap_cons, List.flatMap_cons, List.append_assoc, List.append_assoc] at same
          have read := congrArg readChar same
          rw [readChar_escapeChar, readChar_escapeChar] at read
          obtain ⟨rfl, tails⟩ := Prod.mk.inj (Option.some.inj read)
          obtain ⟨rfl, rests⟩ := induction tails
          exact ⟨rfl, rests⟩

/-- What follows a string literal, read from its inside or from after a backslash. -/
def skipLiteral : Bool → List Char → Option (List Char)
  | _, [] => none
  | true, _ :: rest => skipLiteral false rest
  | false, first :: rest => if first = '"' then some rest else skipLiteral (first == '\\') rest

theorem skipLiteral_plain {first : Char} (rest : List Char) (noEnd : first ≠ '"')
    (noEscape : first ≠ '\\') : skipLiteral false (first :: rest) = skipLiteral false rest := by
  rw [skipLiteral, if_neg noEnd, beq_false_of_ne noEscape]

theorem hexDigit_plain : ∀ value < 16, hexDigit value ≠ '"' ∧ hexDigit value ≠ '\\' := by decide

theorem skipLiteral_escapeUnit (unit : Nat) (rest : List Char) :
    skipLiteral false (escapeUnit unit ++ rest) = skipLiteral false rest := by
  have plain (value : Nat) (rest : List Char) :
      skipLiteral false (hexDigit (value % 16) :: rest) = skipLiteral false rest := by
    have digit := hexDigit_plain (value % 16) (Nat.mod_lt _ (by decide))
    exact skipLiteral_plain rest digit.1 digit.2
  have escape (rest : List Char) :
      skipLiteral false ('\\' :: 'u' :: rest) = skipLiteral false rest := rfl
  simp only [escapeUnit, List.cons_append, List.nil_append, escape, plain]

theorem skipLiteral_escapeChar (ascii : Bool) (char : Char) (rest : List Char) :
    skipLiteral false (escapeChar ascii char ++ rest) = skipLiteral false rest := by
  unfold escapeChar
  split_ifs with quoteMark backslash <;> try exact skipLiteral_escapeUnit _ rest
  all_goals try rfl
  · exact skipLiteral_plain rest quoteMark backslash
  · rw [List.append_assoc, skipLiteral_escapeUnit, skipLiteral_escapeUnit]

theorem skipLiteral_literal (ascii : Bool) (text rest : List Char) :
    skipLiteral false (text.flatMap (escapeChar ascii) ++ '"' :: rest) = some rest := by
  induction text with
  | nil => rfl
  | cons char text induction =>
      rw [List.flatMap_cons, List.append_assoc, skipLiteral_escapeChar, induction]

theorem quote_toList (ascii : Bool) (value : String) (rest : List Char) :
    (quote ascii value).toList ++ rest =
      '"' :: (value.toList.flatMap (escapeChar ascii) ++ '"' :: rest) := by
  simp [quote]

theorem quote_inj (ascii : Bool) {left right : String} {leftRest rightRest : List Char}
    (same : (quote ascii left).toList ++ leftRest = (quote ascii right).toList ++ rightRest) :
    left = right ∧ leftRest = rightRest := by
  rw [quote_toList, quote_toList] at same
  obtain ⟨chars, rests⟩ := literal_inj ascii (List.cons.inj same).2
  exact ⟨String.toList_inj.mp chars, rests⟩

theorem digits_inj {left right : Nat} {leftRest rightRest : List Char} (leftStops : Stops leftRest)
    (rightStops : Stops rightRest)
    (same : Decimal.digits left ++ leftRest = Decimal.digits right ++ rightRest) :
    left = right ∧ leftRest = rightRest := by
  obtain ⟨leftMark, leftTail, rfl, leftStop⟩ := leftStops
  obtain ⟨rightMark, rightTail, rfl, rightStop⟩ := rightStops
  have splitLeft := Decimal.split_at_mark leftMark leftTail
    (fun _ => @Decimal.isDigit_of_mem_digits left _) leftStop
  have splitRight := Decimal.split_at_mark rightMark rightTail
    (fun _ => @Decimal.isDigit_of_mem_digits right _) rightStop
  rw [same] at splitLeft
  have numbers := splitLeft.1.symm.trans splitRight.1
  refine ⟨?_, splitLeft.2.symm.trans splitRight.2⟩
  have read := Decimal.readDigits_digits left
  rw [numbers, Decimal.readDigits_digits] at read
  exact (Option.some.inj read).symm

theorem digits_head (number : Nat) :
    ∃ first rest, Decimal.digits number = first :: rest ∧ first.isDigit = true := by
  cases spelled : Decimal.digits number with
  | nil => exact absurd spelled Nat.toDigits_ne_nil
  | cons first rest =>
      exact ⟨first, rest, rfl, Decimal.isDigit_of_mem_digits (spelled ▸ List.mem_cons_self)⟩

theorem render_int (layout : Layout) (value : Nat) :
    (render layout (.int value)).toList = Decimal.digits value := Nat.toList_repr

theorem render_negative (layout : Layout) (value : Nat) :
    (render layout (.int (.negSucc value))).toList = '-' :: Decimal.digits (value + 1) := by
  have spelled : (toString (Int.negSucc value)).toList =
      ("-" ++ toString (value + 1)).toList := rfl
  rw [render, spelled, String.toList_append, show (toString (value + 1)).toList = _ from
    Nat.toList_repr]
  rfl

/-! ## Values -/

mutual
/-- A value without floats, whose spelling is left open. -/
def plain : Json → Bool
  | .float _ => false
  | .arr items => plainItems items
  | .obj fields => plainFields fields
  | .null | .bool _ | .int _ | .str _ => true

def plainItems : List Json → Bool
  | [] => true
  | item :: items => item.plain && plainItems items

def plainFields : List (String × Json) → Bool
  | [] => true
  | (_, value) :: fields => value.plain && plainFields fields
end

theorem plainItems_iff {items : List Json} :
    plainItems items = true ↔ ∀ item ∈ items, item.plain = true := by
  induction items with
  | nil => simp [plainItems]
  | cons item items induction => simp [plainItems, induction]

theorem plainFields_iff {fields : List (String × Json)} :
    plainFields fields = true ↔ ∀ field ∈ fields, field.2.plain = true := by
  induction fields with
  | nil => simp [plainFields]
  | cons field fields induction => simp [plainFields, induction]

theorem plainFields_eq_all (fields : List (String × Json)) :
    plainFields fields = fields.all fun field => field.2.plain := by
  induction fields with
  | nil => rfl
  | cons field fields induction => simp [plainFields, induction]

mutual
theorem plain_sortKeys : ∀ json : Json, json.sortKeys.plain = json.plain
  | .arr items => plainItems_sortItems items
  | .obj fields => by
      have sorted := (List.perm_insertionSort KeyLe (sortFields fields)).all_eq
        (f := fun field => field.2.plain)
      rw [← plainFields_eq_all, ← plainFields_eq_all, plainFields_sortFields fields] at sorted
      exact sorted
  | .null | .bool _ | .int _ | .float _ | .str _ => rfl

theorem plainItems_sortItems : ∀ items : List Json, plainItems (sortItems items) = plainItems items
  | [] => rfl
  | item :: items => by
      simp only [sortItems, plainItems, plain_sortKeys item, plainItems_sortItems items]

theorem plainFields_sortFields :
    ∀ fields : List (String × Json), plainFields (sortFields fields) = plainFields fields
  | [] => rfl
  | (key, value) :: fields => by
      simp only [sortFields, plainFields, plain_sortKeys value, plainFields_sortFields fields]
end

/-- A layout whose items are separated by a comma before anything else. -/
structure Layout.Separated (layout : Layout) : Prop where
  item : ∃ blanks, layout.item.toList = ',' :: blanks

theorem spaced_separated : spaced.Separated := ⟨⟨[' '], by decide +kernel⟩⟩

theorem dense_separated : dense.Separated := ⟨⟨[], by decide +kernel⟩⟩

def kindOf (mark : Char) : Nat :=
  if mark.isDigit then 4
  else if mark = 'n' then 1 else if mark = 't' then 2 else if mark = 'f' then 3
  else if mark = '-' then 5 else if mark = '"' then 6 else if mark = '[' then 7
  else if mark = '\x7b' then 8 else 0

def kind : Json → Nat
  | .null => 1
  | .bool true => 2
  | .bool false => 3
  | .int (.ofNat _) => 4
  | .int (.negSucc _) => 5
  | .str _ => 6
  | .arr _ => 7
  | .obj _ => 8
  | .float _ => 9

def laterItems (layout : Layout) : List Json → List Char
  | [] => [']']
  | item :: items =>
      layout.item.toList ++ ((item.render layout).toList ++ laterItems layout items)

def laterFields (layout : Layout) : List (String × Json) → List Char
  | [] => ['\x7d']
  | (key, value) :: fields =>
      layout.item.toList ++ ((quote layout.ascii key).toList ++ (layout.field.toList ++
        ((value.render layout).toList ++ laterFields layout fields)))

theorem intercalate_toList (separator first : String) (later : List String) :
    (separator.intercalate (first :: later)).toList =
      first.toList ++ later.flatMap fun text => separator.toList ++ text.toList := by
  induction later generalizing first with
  | nil => simp
  | cons next later induction =>
      rw [String.intercalate_cons_cons, String.toList_append, String.toList_append, induction]
      simp

theorem laterItems_eq (layout : Layout) (items : List Json) : laterItems layout items =
    ((renderItems layout items).flatMap fun text => layout.item.toList ++ text.toList) ++
      [']'] := by
  induction items with
  | nil => rfl
  | cons item items induction => simp [laterItems, renderItems, induction]

theorem laterFields_eq (layout : Layout) (fields : List (String × Json)) :
    laterFields layout fields =
      ((renderFields layout fields).flatMap fun text => layout.item.toList ++ text.toList) ++
        ['\x7d'] := by
  induction fields with
  | nil => rfl
  | cons field fields induction => simp [laterFields, renderFields, induction]

theorem render_arr_cons (layout : Layout) (item : Json) (items : List Json) :
    (render layout (.arr (item :: items))).toList =
      '[' :: ((item.render layout).toList ++ laterItems layout items) := by
  simp only [render, renderItems, String.toList_append, intercalate_toList, laterItems_eq]
  simp

theorem render_obj_cons (layout : Layout) (key : String) (value : Json)
    (fields : List (String × Json)) :
    (render layout (.obj ((key, value) :: fields))).toList =
      '\x7b' :: ((quote layout.ascii key).toList ++ (layout.field.toList ++
        ((value.render layout).toList ++ laterFields layout fields))) := by
  simp only [render, renderFields, String.toList_append, intercalate_toList, laterFields_eq]
  simp

theorem render_arr_nil (layout : Layout) : (render layout (.arr [])).toList = ['[', ']'] := by
  simp [render, renderItems]

theorem render_obj_nil (layout : Layout) :
    (render layout (.obj [])).toList = ['\x7b', '\x7d'] := by
  simp [render, renderFields]

theorem render_head (layout : Layout) {json : Json} (plain : json.plain = true) :
    ∃ mark tail, (json.render layout).toList = mark :: tail ∧ kindOf mark = json.kind := by
  cases json with
  | null => exact ⟨'n', ['u', 'l', 'l'], by simp [render], by decide⟩
  | bool value =>
      cases value with
      | true => exact ⟨'t', ['r', 'u', 'e'], by simp [render], by decide⟩
      | false => exact ⟨'f', ['a', 'l', 's', 'e'], by simp [render], by decide⟩
  | int value =>
      cases value with
      | ofNat value =>
          obtain ⟨mark, tail, spelled, digit⟩ := digits_head value
          exact ⟨mark, tail, (render_int layout value).trans spelled, if_pos digit⟩
      | negSucc value => exact ⟨'-', _, render_negative layout value, by rw [kind]; decide⟩
  | float spelling => cases plain
  | str value =>
      have spelled := quote_toList layout.ascii value []
      rw [List.append_nil] at spelled
      exact ⟨'"', _, spelled, by rw [kind]; decide⟩
  | arr items =>
      refine ⟨'[', (layout.item.intercalate (renderItems layout items)).toList ++ [']'], ?_,
        by rw [kind]; decide⟩
      simp [render]
  | obj fields =>
      refine ⟨'\x7b', (layout.item.intercalate (renderFields layout fields)).toList ++ ['\x7d'],
        ?_, by rw [kind]; decide⟩
      simp [render]

/-! ## Reading values -/

section Reading

variable {layout : Layout}

theorem stops_laterItems (separated : layout.Separated) (items : List Json)
    (rest : List Char) : Stops (laterItems layout items ++ rest) := by
  obtain ⟨blanks, item⟩ := separated.item
  cases items with
  | nil => exact ⟨']', rest, rfl, by decide⟩
  | cons next items => exact ⟨',', _, by rw [laterItems, item]; rfl, by decide⟩

theorem stops_laterFields (separated : layout.Separated) (fields : List (String × Json))
    (rest : List Char) : Stops (laterFields layout fields ++ rest) := by
  obtain ⟨blanks, item⟩ := separated.item
  cases fields with
  | nil => exact ⟨'\x7d', rest, rfl, by decide⟩
  | cons field fields => exact ⟨',', _, by rw [laterFields, item]; rfl, by decide⟩

theorem kind_of_render {left right : Json} (leftPlain : left.plain = true)
    (rightPlain : right.plain = true) {leftRest rightRest : List Char}
    (same : (left.render layout).toList ++ leftRest = (right.render layout).toList ++ rightRest) :
    left.kind = right.kind := by
  obtain ⟨leftMark, leftTail, leftText, leftKind⟩ := render_head layout leftPlain
  obtain ⟨rightMark, rightTail, rightText, rightKind⟩ := render_head layout rightPlain
  rw [leftText, rightText] at same
  rw [← leftKind, ← rightKind, (List.cons.inj same).1]

theorem render_ne_end {json : Json} (plain : json.plain = true) (rest tail : List Char) :
    (json.render layout).toList ++ rest ≠ ']' :: tail := by
  obtain ⟨mark, others, text, kind⟩ := render_head layout plain
  rw [text]
  intro same
  rw [(List.cons.inj same).1] at kind
  have unknown : kindOf ']' = 0 := by decide
  rw [unknown] at kind
  rcases json with _ | ⟨_ | _⟩ | ⟨_ | _⟩ | _ | _ | _ | _ <;> cases kind

mutual
/-- The text of a value shows where it ends and what it is. -/
theorem render_split (separated : layout.Separated) : ∀ {left right : Json},
    left.plain = true → right.plain = true → ∀ {leftRest rightRest : List Char},
    Stops leftRest → Stops rightRest →
    (left.render layout).toList ++ leftRest = (right.render layout).toList ++ rightRest →
    left = right ∧ leftRest = rightRest
  | .null, right, _, rightPlain, leftRest, rightRest, _, _, same => by
      have kinds := kind_of_render rfl rightPlain same
      rcases right with _ | ⟨_ | _⟩ | ⟨_ | _⟩ | _ | _ | _ | _ <;> cases kinds
      exact ⟨rfl, List.append_cancel_left same⟩
  | .bool value, right, leftPlain, rightPlain, leftRest, rightRest, _, _, same => by
      have kinds := kind_of_render leftPlain rightPlain same
      rcases value with _ | _ <;>
        rcases right with _ | ⟨_ | _⟩ | ⟨_ | _⟩ | _ | _ | _ | _ <;> cases kinds <;>
        exact ⟨rfl, List.append_cancel_left same⟩
  | .int (.ofNat value), right, leftPlain, rightPlain, leftRest, rightRest, leftStops,
      rightStops, same => by
      have kinds := kind_of_render leftPlain rightPlain same
      rcases right with _ | ⟨_ | _⟩ | ⟨other | _⟩ | _ | _ | _ | _ <;> cases kinds
      have same : (render layout (.int value)).toList ++ leftRest =
        (render layout (.int other)).toList ++ rightRest := same
      rw [render_int, render_int] at same
      obtain ⟨rfl, rests⟩ := digits_inj leftStops rightStops same
      exact ⟨rfl, rests⟩
  | .int (.negSucc value), right, leftPlain, rightPlain, leftRest, rightRest, leftStops,
      rightStops, same => by
      have kinds := kind_of_render leftPlain rightPlain same
      rcases right with _ | ⟨_ | _⟩ | ⟨_ | other⟩ | _ | _ | _ | _ <;> cases kinds
      rw [render_negative, render_negative] at same
      obtain ⟨numbers, rests⟩ := digits_inj leftStops rightStops (List.cons.inj same).2
      obtain rfl := Nat.succ.inj numbers
      exact ⟨rfl, rests⟩
  | .float _, _, leftPlain, _, _, _, _, _, _ => by cases leftPlain
  | .str value, right, leftPlain, rightPlain, leftRest, rightRest, _, _, same => by
      have kinds := kind_of_render leftPlain rightPlain same
      rcases right with _ | ⟨_ | _⟩ | ⟨_ | _⟩ | _ | other | _ | _ <;> cases kinds
      obtain ⟨rfl, rests⟩ := quote_inj layout.ascii same
      exact ⟨rfl, rests⟩
  | .arr items, right, leftPlain, rightPlain, leftRest, rightRest, leftStops, rightStops,
      same => by
      have kinds := kind_of_render leftPlain rightPlain same
      rcases right with _ | ⟨_ | _⟩ | ⟨_ | _⟩ | _ | _ | others | _ <;> cases kinds
      simp only [plain] at leftPlain rightPlain
      rcases items with _ | ⟨item, items⟩ <;> rcases others with _ | ⟨other, others⟩
      · exact ⟨rfl, List.append_cancel_left same⟩
      · simp only [plainItems, Bool.and_eq_true] at rightPlain
        simp only [render_arr_nil, render_arr_cons, List.cons_append, List.nil_append,
          List.append_assoc] at same
        exact absurd (List.cons.inj same).2.symm (render_ne_end rightPlain.1 _ _)
      · simp only [plainItems, Bool.and_eq_true] at leftPlain
        simp only [render_arr_nil, render_arr_cons, List.cons_append, List.nil_append,
          List.append_assoc] at same
        exact absurd (List.cons.inj same).2 (render_ne_end leftPlain.1 _ _)
      · simp only [plainItems, Bool.and_eq_true] at leftPlain rightPlain
        rw [render_arr_cons, render_arr_cons, List.cons_append, List.cons_append,
          List.append_assoc, List.append_assoc] at same
        obtain ⟨rfl, tails⟩ := render_split separated leftPlain.1 rightPlain.1
          (stops_laterItems separated items _) (stops_laterItems separated others _)
          (List.cons.inj same).2
        obtain ⟨rfl, rests⟩ := laterItems_split separated leftPlain.2 rightPlain.2 tails
        exact ⟨rfl, rests⟩
  | .obj fields, right, leftPlain, rightPlain, leftRest, rightRest, leftStops, rightStops,
      same => by
      have kinds := kind_of_render leftPlain rightPlain same
      rcases right with _ | ⟨_ | _⟩ | ⟨_ | _⟩ | _ | _ | _ | others <;> cases kinds
      simp only [plain] at leftPlain rightPlain
      rcases fields with _ | ⟨⟨key, value⟩, fields⟩ <;>
        rcases others with _ | ⟨⟨otherKey, other⟩, others⟩
      · exact ⟨rfl, List.append_cancel_left same⟩
      · simp only [render_obj_nil, render_obj_cons, List.cons_append, List.nil_append,
          List.append_assoc, quote_toList] at same
        exact absurd (List.cons.inj (List.cons.inj same).2).1 (by decide)
      · simp only [render_obj_nil, render_obj_cons, List.cons_append, List.nil_append,
          List.append_assoc, quote_toList] at same
        exact absurd (List.cons.inj (List.cons.inj same).2).1 (by decide)
      · simp only [plainFields, Bool.and_eq_true] at leftPlain rightPlain
        simp only [render_obj_cons, List.cons_append, List.append_assoc] at same
        obtain ⟨rfl, values⟩ := quote_inj layout.ascii (List.cons.inj same).2
        obtain ⟨rfl, tails⟩ := render_split separated leftPlain.1 rightPlain.1
          (stops_laterFields separated fields _) (stops_laterFields separated others _)
          (List.append_cancel_left values)
        obtain ⟨rfl, rests⟩ := laterFields_split separated leftPlain.2 rightPlain.2 tails
        exact ⟨rfl, rests⟩

theorem laterItems_split (separated : layout.Separated) : ∀ {left right : List Json},
    plainItems left = true → plainItems right = true → ∀ {leftRest rightRest : List Char},
    laterItems layout left ++ leftRest = laterItems layout right ++ rightRest →
    left = right ∧ leftRest = rightRest
  | [], [], _, _, _, _, same => ⟨rfl, (List.cons.inj same).2⟩
  | [], other :: others, _, _, leftRest, rightRest, same => by
      obtain ⟨blanks, item⟩ := separated.item
      rw [laterItems, laterItems, item] at same
      exact absurd (List.cons.inj same).1 (by decide)
  | item :: items, [], _, _, leftRest, rightRest, same => by
      obtain ⟨blanks, comma⟩ := separated.item
      rw [laterItems, laterItems, comma] at same
      exact absurd (List.cons.inj same).1 (by decide)
  | item :: items, other :: others, leftPlain, rightPlain, leftRest, rightRest, same => by
      simp only [plainItems, Bool.and_eq_true] at leftPlain rightPlain
      simp only [laterItems, List.append_assoc] at same
      obtain ⟨rfl, tails⟩ := render_split separated leftPlain.1 rightPlain.1
        (stops_laterItems separated items _) (stops_laterItems separated others _)
        (List.append_cancel_left same)
      obtain ⟨rfl, rests⟩ := laterItems_split separated leftPlain.2 rightPlain.2 tails
      exact ⟨rfl, rests⟩

theorem laterFields_split (separated : layout.Separated) : ∀ {left right : List (String × Json)},
    plainFields left = true → plainFields right = true → ∀ {leftRest rightRest : List Char},
    laterFields layout left ++ leftRest = laterFields layout right ++ rightRest →
    left = right ∧ leftRest = rightRest
  | [], [], _, _, _, _, same => ⟨rfl, (List.cons.inj same).2⟩
  | [], (key, value) :: others, _, _, leftRest, rightRest, same => by
      obtain ⟨blanks, item⟩ := separated.item
      rw [laterFields, laterFields, item] at same
      exact absurd (List.cons.inj same).1 (by decide)
  | (key, value) :: fields, [], _, _, leftRest, rightRest, same => by
      obtain ⟨blanks, item⟩ := separated.item
      rw [laterFields, laterFields, item] at same
      exact absurd (List.cons.inj same).1 (by decide)
  | (key, value) :: fields, (otherKey, other) :: others, leftPlain, rightPlain, leftRest,
      rightRest, same => by
      simp only [plainFields, Bool.and_eq_true] at leftPlain rightPlain
      simp only [laterFields, List.append_assoc] at same
      obtain ⟨rfl, values⟩ := quote_inj layout.ascii (List.append_cancel_left same)
      obtain ⟨rfl, tails⟩ := render_split separated leftPlain.1 rightPlain.1
        (stops_laterFields separated fields _) (stops_laterFields separated others _)
        (List.append_cancel_left values)
      obtain ⟨rfl, rests⟩ := laterFields_split separated leftPlain.2 rightPlain.2 tails
      exact ⟨rfl, rests⟩
end

/-- Values without floats that have the same text are the same. -/
theorem render_inj (separated : layout.Separated) {left right : Json}
    (leftPlain : left.plain = true) (rightPlain : right.plain = true)
    (same : left.render layout = right.render layout) : left = right := by
  have stops : Stops ['\n'] := ⟨'\n', [], rfl, by decide⟩
  exact (render_split separated leftPlain rightPlain stops stops (by rw [same])).1

end Reading

/-! ## Flat objects -/

/-- A value without a structure of its own. -/
inductive Flat : Json → Prop
  | null : Flat .null
  | int (value : Nat) : Flat (.int value)
  | str (value : String) : Flat (.str value)

theorem Flat.plain {json : Json} (flat : Flat json) : json.plain = true := by
  cases flat <;> rfl

theorem render_flat_inj {left right : Dict} (leftFlat : ∀ field ∈ left, Flat field.2)
    (rightFlat : ∀ field ∈ right, Flat field.2)
    (same : Json.render dense (.obj left) = Json.render dense (.obj right)) : left = right := by
  have leftPlain : (Json.obj left).plain = true :=
    plainFields_iff.mpr fun field member => (leftFlat field member).plain
  have rightPlain : (Json.obj right).plain = true :=
    plainFields_iff.mpr fun field member => (rightFlat field member).plain
  exact Json.obj.inj (render_inj dense_separated leftPlain rightPlain same)

end Json

end Foundation

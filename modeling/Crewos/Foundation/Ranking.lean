import Mathlib.Data.List.Sort

/-! # Ranking by a key

Sorting by a key that tells the items apart gives the one list of them in the
strict order of their keys, whatever order they came in. -/

namespace Foundation

section

variable {α κ : Type*} [LinearOrder κ] (key : α → κ)

/-- The order that sorting by key uses. -/
abbrev RankLe (left right : α) : Prop := key left ≤ key right

/-- The order of keys without ties. -/
abbrev RankLt (left right : α) : Prop := key left < key right

instance : Std.Total (RankLe key) := ⟨fun left right => le_total (key left) (key right)⟩

instance : IsTrans α (RankLe key) := ⟨fun _ _ _ => le_trans⟩

instance : Std.Irrefl (RankLt key) := ⟨fun item => lt_irrefl (key item)⟩

instance : Std.Asymm (RankLt key) := ⟨fun _ _ => lt_asymm⟩

/-- `items.sort(key=…)` -/
def rank (items : List α) : List α := items.insertionSort (RankLe key)

theorem rank_perm (items : List α) : (rank key items).Perm items :=
  List.perm_insertionSort _ items

variable {key} {items others : List α}

theorem rank_strict (distinct : (items.map key).Nodup) :
    (rank key items).Pairwise (RankLt key) := by
  have sorted := List.pairwise_insertionSort (RankLe key) items
  have apart : ((rank key items).map key).Nodup :=
    ((rank_perm key items).map key).nodup_iff.mpr distinct
  have different : (rank key items).Pairwise fun left right => key left ≠ key right :=
    List.pairwise_map.mp apart
  exact (sorted.and different).imp fun both => lt_of_le_of_ne both.1 both.2

theorem rank_unique (perm : others.Perm items) (strict : others.Pairwise (RankLt key)) :
    others = rank key items := by
  have apart : (others.map key).Nodup :=
    List.pairwise_map.mpr (strict.imp fun before => ne_of_lt before)
  have distinct : (items.map key).Nodup := (perm.map key).nodup_iff.mp apart
  exact strict.eq_of_mem_iff (rank_strict distinct) fun item =>
    perm.mem_iff.trans (rank_perm key items).mem_iff.symm

theorem rank_eq_of_perm (distinct : (items.map key).Nodup) (perm : items.Perm others) :
    rank key items = rank key others :=
  rank_unique ((rank_perm key items).trans perm) (rank_strict distinct)

end

/-! ## Strings by their code points -/

/-- A string, for its place in the order of code points. -/
structure CodePoints where
  text : String
  deriving DecidableEq

instance : LinearOrder CodePoints where
  le left right := left.text ≤ right.text
  lt left right := left.text < right.text
  le_refl _ := String.le_refl _
  le_trans _ _ _ := String.le_trans
  le_antisymm _ _ below above := congrArg CodePoints.mk (String.le_antisymm below above)
  le_total _ _ := String.le_total _ _
  lt_iff_le_not_ge left right := by
    constructor
    · intro before
      exact ⟨String.not_lt.mp (String.lt_asymm before), String.not_le.mpr before⟩
    · intro both
      exact String.not_le.mp both.2
  toDecidableLE left right := inferInstanceAs (Decidable (left.text ≤ right.text))

theorem CodePoints.mk_lt {left right : String} :
    CodePoints.mk left < CodePoints.mk right ↔ left < right := Iff.rfl

end Foundation

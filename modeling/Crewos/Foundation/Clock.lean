import Mathlib.Data.Rat.Defs
import Mathlib.Algebra.Order.Ring.Rat

/-! # Clock readings -/

namespace Foundation

/-- Seconds since the epoch, without rounding. -/
abbrev Time := ℚ

/-- The readings one operation takes: its `n`-th use of the clock, counted in
source order, reads `clock n`. -/
abbrev Clock := Nat → Time

end Foundation

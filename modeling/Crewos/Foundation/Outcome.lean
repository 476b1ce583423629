import Mathlib.Logic.Basic

/-! # Computations that may raise

Inversion rules for `Except` programs: a computation that returned went through
every one of its steps. -/

namespace Foundation

def raiseWhen (condition : Prop) [Decidable condition] (error : ε) : Except ε Unit :=
  if condition then .error error else .ok ()

@[simp] theorem raiseWhen_eq_ok {condition : Prop} [Decidable condition] {error : ε}
    {value : Unit} : raiseWhen condition error = .ok value ↔ ¬condition := by
  by_cases holds : condition <;> simp [raiseWhen, holds]

theorem raiseWhen_eq_error {condition : Prop} [Decidable condition] {error raised : ε} :
    raiseWhen condition error = .error raised ↔ condition ∧ error = raised := by
  by_cases holds : condition <;> simp [raiseWhen, holds]

theorem raiseWhen_of {condition : Prop} [Decidable condition] (error : ε)
    (holds : condition) : raiseWhen condition error = .error error := by
  simp [raiseWhen, holds]

theorem raiseWhen_of_not {condition : Prop} [Decidable condition] (error : ε)
    (fails : ¬condition) : raiseWhen condition error = .ok () := by
  simp [raiseWhen, fails]

namespace Outcome

theorem bind_eq_ok {first : Except ε α} {next : α → Except ε β} {value : β} :
    first >>= next = .ok value ↔
      ∃ intermediate, first = .ok intermediate ∧ next intermediate = .ok value := by
  cases first <;> simp [bind, Except.bind]

theorem bind_eq_error {first : Except ε α} {next : α → Except ε β} {error : ε} :
    first >>= next = .error error ↔
      first = .error error ∨
        ∃ intermediate, first = .ok intermediate ∧ next intermediate = .error error := by
  cases first <;> simp [bind, Except.bind]

theorem map_eq_ok {transform : α → β} {first : Except ε α} {value : β} :
    transform <$> first = .ok value ↔
      ∃ intermediate, first = .ok intermediate ∧ transform intermediate = value := by
  cases first <;> simp [Functor.map, Except.map]

theorem pure_eq_ok {value other : α} :
    (pure value : Except ε α) = .ok other ↔ value = other := by
  simp [pure, Except.pure]

@[simp] theorem throw_ne_ok {error : ε} {value : α} :
    (throw error : Except ε α) = .ok value ↔ False := by
  simp [throw, throwThe, MonadExceptOf.throw]

@[simp] theorem ok_bind (value : α) (next : α → Except ε β) :
    (Except.ok value >>= next) = next value := rfl

@[simp] theorem error_bind (error : ε) (next : α → Except ε β) :
    (Except.error error >>= next) = .error error := rfl

/-! ### Errors a computation does not raise -/

def Avoids (error : ε) (result : Except ε α) : Prop := result ≠ .error error

theorem avoids_ok {error : ε} (value : α) : Avoids error (.ok value) := by
  intro raised
  cases raised

theorem avoids_error {error other : ε} (different : other ≠ error) :
    Avoids error (.error other : Except ε α) := by
  intro raised
  cases raised
  exact different rfl

theorem avoids_raiseWhen {condition : Prop} [Decidable condition] {error other : ε}
    (different : other ≠ error) : Avoids error (raiseWhen condition other) :=
  fun raised => different (raiseWhen_eq_error.mp raised).2

theorem avoids_bind {error : ε} {first : Except ε α} {next : α → Except ε β}
    (here : Avoids error first)
    (later : ∀ value, first = .ok value → Avoids error (next value)) :
    Avoids error (first >>= next) := by
  intro raised
  rcases bind_eq_error.mp raised with raised | ⟨value, returned, raised⟩
  · exact here raised
  · exact later value returned raised

theorem avoids_check {condition : Prop} [Decidable condition] {error other : ε}
    {next : Unit → Except ε α} (different : other ≠ error)
    (later : ¬condition → Avoids error (next ())) :
    Avoids error (raiseWhen condition other >>= next) :=
  avoids_bind (avoids_raiseWhen different) fun _ passed => later (raiseWhen_eq_ok.mp passed)

theorem avoids_map {error : ε} {transform : α → β} {first : Except ε α}
    (here : Avoids error first) : Avoids error (transform <$> first) := by
  intro raised
  cases first with
  | ok value => cases raised
  | error other =>
      cases raised
      exact here rfl

theorem mapM_of_ok {read : α → Except ε β} {value : α → β} {items : List α}
    (each : ∀ item ∈ items, read item = .ok (value item)) :
    items.mapM read = .ok (items.map value) := by
  induction items with
  | nil => rfl
  | cons item rest induction =>
      have first := each item List.mem_cons_self
      have later := induction fun other member => each other (List.mem_cons_of_mem _ member)
      rw [List.mapM_cons, first, later]
      rfl

end Outcome

end Foundation

import Mathlib.Data.List.Basic

/-! # Noninterference

A system answers calls of several owners. One owner sees a part of its state. If
calls of the others leave that part alone, and the owner's own calls depend on
nothing else, then two runs that differ in the others' calls look the same. -/

namespace Foundation

variable {Call : Type u} {State : Type v} {Reply : Type w} {Part : Type x}

def afterCalls (apply : Call → State → Reply × State) (state : State) (calls : List Call) : State :=
  calls.foldl (fun state call => (apply call state).2) state

def answersTo (apply : Call → State → Reply × State) (mine : Call → Bool) :
    State → List Call → List Reply
  | _, [] => []
  | state, call :: calls =>
      let answer := apply call state
      if mine call then answer.1 :: answersTo apply mine answer.2 calls
      else answersTo apply mine answer.2 calls

/-- A condition on the owner's calls holds at each of them. -/
def AtEach (apply : Call → State → Reply × State) (mine : Call → Bool)
    (allowed : Call → State → Prop) (state : State) (calls : List Call) : Prop :=
  ∀ before call after, calls = before ++ call :: after → mine call = true →
    allowed call (afterCalls apply state before)

/-- The steps from which noninterference follows. -/
structure Unwinding (apply : Call → State → Reply × State) (mine : Call → Bool)
    (part : State → Part) (valid : State → Prop) (allowed : Call → State → Prop) : Prop where
  keeps : ∀ call state, valid state → valid (apply call state).2
  respects : ∀ call state, valid state → mine call = false → part (apply call state).2 = part state
  consistent : ∀ call left right, valid left → valid right → mine call = true →
    allowed call left → allowed call right → part left = part right →
    (apply call left).1 = (apply call right).1 ∧
      part (apply call left).2 = part (apply call right).2

section

variable {apply : Call → State → Reply × State} {mine : Call → Bool} {part : State → Part}
  {valid : State → Prop} {allowed : Call → State → Prop}

theorem AtEach.nil (state : State) : AtEach apply mine allowed state [] := by
  intro before call after split
  simp at split

theorem AtEach.cons {state : State} {call : Call} {calls : List Call}
    (head : mine call = true → allowed call state)
    (tail : AtEach apply mine allowed (apply call state).2 calls) :
    AtEach apply mine allowed state (call :: calls) := by
  intro before other after split isMine
  cases before with
  | nil =>
      obtain ⟨rfl, -⟩ := List.cons.inj split
      exact head isMine
  | cons first before =>
      obtain ⟨rfl, rest⟩ := List.cons.inj split
      exact tail before other after rest isMine

theorem AtEach.tail {state : State} {call : Call} {calls : List Call}
    (each : AtEach apply mine allowed state (call :: calls)) :
    AtEach apply mine allowed (apply call state).2 calls := by
  intro before other after split isMine
  exact each (call :: before) other after (by rw [split]; rfl) isMine

theorem AtEach.head {state : State} {call : Call} {calls : List Call}
    (each : AtEach apply mine allowed state (call :: calls)) (isMine : mine call = true) :
    allowed call state :=
  each [] call calls rfl isMine

/-- Two runs with the same calls of the owner answer them alike and leave the
owner's part alike. -/
theorem Unwinding.noninterference (unwinding : Unwinding apply mine part valid allowed)
    {leftCalls rightCalls : List Call} {left right : State} (leftValid : valid left)
    (rightValid : valid right) (agree : part left = part right)
    (same : leftCalls.filter mine = rightCalls.filter mine)
    (leftEach : AtEach apply mine allowed left leftCalls)
    (rightEach : AtEach apply mine allowed right rightCalls) :
    answersTo apply mine left leftCalls = answersTo apply mine right rightCalls ∧
      part (afterCalls apply left leftCalls) = part (afterCalls apply right rightCalls) := by
  -- By induction on both lists: a call of somebody else is skipped on its side.
  induction leftCalls generalizing left right rightCalls with
  | nil =>
      induction rightCalls generalizing right with
      | nil => exact ⟨rfl, agree⟩
      | cons call calls induction =>
          have other : mine call = false := by
            by_contra isMine
            simp [isMine] at same
          have kept := unwinding.respects call right rightValid other
          simp only [answersTo, other, Bool.false_eq_true, if_false]
          exact induction (unwinding.keeps call right rightValid) (agree.trans kept.symm)
            (by simpa [other] using same) rightEach.tail
  | cons call calls induction =>
      cases isMine : mine call with
      | false =>
          have kept := unwinding.respects call left leftValid isMine
          simp only [answersTo, isMine, Bool.false_eq_true, if_false]
          exact induction (unwinding.keeps call left leftValid) rightValid (kept.trans agree)
            (by simpa [isMine] using same) leftEach.tail rightEach
      | true =>
          induction rightCalls generalizing right with
          | nil => simp [isMine] at same
          | cons other others skip =>
              cases otherMine : mine other with
              | false =>
                  have kept := unwinding.respects other right rightValid otherMine
                  have rest := skip (unwinding.keeps other right rightValid)
                    (agree.trans kept.symm) (by simpa [otherMine] using same) rightEach.tail
                  have skipped : answersTo apply mine right (other :: others) =
                      answersTo apply mine (apply other right).2 others := by
                    simp [answersTo, otherMine]
                  rw [skipped]
                  exact rest
              | true =>
                  have heads : call = other ∧ calls.filter mine = others.filter mine := by
                    simpa [isMine, otherMine] using same
                  obtain ⟨rfl, rests⟩ := heads
                  obtain ⟨answers, parts⟩ := unwinding.consistent call left right leftValid
                    rightValid isMine (leftEach.head isMine) (rightEach.head isMine) agree
                  obtain ⟨later, last⟩ := induction (unwinding.keeps call left leftValid)
                    (unwinding.keeps call right rightValid) parts rests leftEach.tail rightEach.tail
                  refine ⟨?_, last⟩
                  simp only [answersTo, isMine, if_true, answers, later]

end

/-! ## Programs that see a part -/

section Seen

variable {ε : Type v} {α β γ : Type u} {State Next : Type u} {part : State → Next}

def seenBy (part : State → Next) (out : Except ε (α × State)) : Except ε (α × Next) :=
  match out with
  | .ok (value, state) => .ok (value, part state)
  | .error error => .error error

theorem seenBy_bind (first : Except ε β) (next : β → Except ε (α × State)) :
    seenBy part (first >>= next) = first >>= fun value => seenBy part (next value) := by
  cases first <;> rfl

theorem seenBy_pure (value : α) (state : State) :
    seenBy part (pure (value, state) : Except ε (α × State)) = pure (value, part state) := rfl

theorem seenBy_ite {condition : Prop} [Decidable condition] (left right : Except ε (α × State)) :
    seenBy part (if condition then left else right) =
      if condition then seenBy part left else seenBy part right := by
  split <;> rfl

theorem seenBy_map (reply : α → γ) (out : Except ε (α × State)) :
    (fun out => (reply out.1, out.2)) <$> seenBy part out =
      seenBy part ((fun out => (reply out.1, out.2)) <$> out) := by
  cases out <;> rfl

end Seen

end Foundation

import Crewos.Foundation.Program

/-! # Plays

A play of a program is what happens from its start to its end: its requests, each
with the reply it got. A program that obeys a monitor keeps to it in every play
whose replies are admitted. -/

namespace Foundation

variable {Request : Type} {Reply : Request → Type} {Ghost α : Type}

namespace Program

inductive Plays : Program Reply α → List (Event Reply) → α → Prop
  | done (value : α) : Plays (.done value) [] value
  | ask {request : Request} {resume : Reply request → Program Reply α} {reply : Reply request}
      {events : List (Event Reply)} {value : α} (rest : Plays (resume reply) events value) :
      Plays (.ask request resume) (⟨request, reply⟩ :: events) value

/-- The events of at most `count` requests. A reply may depend on how many are
still to come, and what is left of the program is returned with them. -/
def play (replies : Nat → (request : Request) → Reply request) :
    Nat → Program Reply α → List (Event Reply) × Program Reply α
  | 0, program => ([], program)
  | _ + 1, .done value => ([], .done value)
  | count + 1, .ask request resume =>
      let rest := play replies count (resume (replies count request))
      (⟨request, replies count request⟩ :: rest.1, rest.2)

def value? : Program Reply α → Option α
  | .done value => some value
  | .ask _ _ => none

theorem play_plays {replies : Nat → (request : Request) → Reply request} {count : Nat}
    {program : Program Reply α} {value : α}
    (over_ : (program.play replies count).2.value? = some value) :
    program.Plays (program.play replies count).1 value := by
  induction count generalizing program with
  | zero =>
      cases program with
      | done _ =>
          cases over_
          exact .done _
      | ask request resume => cases over_
  | succ count induction =>
      cases program with
      | done _ =>
          cases over_
          exact .done _
      | ask request resume => exact .ask (induction over_)

theorem play_replies {replies : Nat → (request : Request) → Reply request}
    {Property : (request : Request) → Reply request → Prop}
    (always : ∀ count request, Property request (replies count request)) {count : Nat}
    {program : Program Reply α} {event : Event Reply}
    (member : event ∈ (program.play replies count).1) : Property event.request event.reply := by
  induction count generalizing program with
  | zero => cases member
  | succ count induction =>
      cases program with
      | done _ => cases member
      | ask request resume =>
          rcases List.mem_cons.mp member with same | later
          · subst same
            exact always count request
          · exact induction later

end Program

namespace Monitor

/-- Every reply is admitted where it is given. -/
def Admits (monitor : Monitor Reply Ghost) : Ghost → List (Event Reply) → Prop
  | _, [] => True
  | ghost, event :: events =>
      monitor.admits ghost event.request event.reply ∧
        monitor.Admits (monitor.advance ghost event.request event.reply) events

instance decidableAdmits (monitor : Monitor Reply Ghost)
    [decides : ∀ ghost request reply, Decidable (monitor.admits ghost request reply)] :
    (ghost : Ghost) → (events : List (Event Reply)) → Decidable (monitor.Admits ghost events)
  | _, [] => .isTrue trivial
  | ghost, event :: events =>
      have := decidableAdmits monitor (monitor.advance ghost event.request event.reply) events
      inferInstanceAs (Decidable (_ ∧ _))

/-- Every request is permitted where it is made. -/
def Permits (monitor : Monitor Reply Ghost) (ghost : Ghost) (events : List (Event Reply)) : Prop :=
  ∀ past event rest, events = past ++ event :: rest →
    monitor.permits (monitor.after ghost past) event.request

variable {monitor : Monitor Reply Ghost}

theorem permits_cons {ghost : Ghost} {event : Event Reply} {events : List (Event Reply)}
    (permitted : monitor.permits ghost event.request)
    (rest : monitor.Permits (monitor.advance ghost event.request event.reply) events) :
    monitor.Permits ghost (event :: events) := by
  intro past other later split
  cases past with
  | nil =>
      cases split
      exact permitted
  | cons first past =>
      obtain ⟨rfl, tail⟩ := List.cons_eq_cons.mp split
      exact rest past other later tail

theorem Obeys.plays {post : α → Ghost → Prop} {program : Program Reply α} {ghost : Ghost}
    {events : List (Event Reply)} {value : α} (obeys : monitor.Obeys post program ghost)
    (plays : program.Plays events value) (admitted : monitor.Admits ghost events) :
    monitor.Permits ghost events ∧ post value (monitor.after ghost events) := by
  induction plays generalizing ghost with
  | done value =>
      refine ⟨fun past event rest split => ?_, obeys⟩
      simp at split
  | ask rest induction =>
      have later := induction (obeys.2 _ admitted.1) admitted.2
      exact ⟨permits_cons obeys.1 later.1, later.2⟩

/-- A quantity that every permitted event changes by its own amount. -/
theorem Permits.balance {ghost : Ghost} {events : List (Event Reply)} {owed : Ghost → Nat}
    {debit credit : Event Reply → Bool}
    (step : ∀ ghost event, monitor.permits ghost event.request →
      owed ghost + (debit event).toNat =
        owed (monitor.advance ghost event.request event.reply) + (credit event).toNat)
    (permits : monitor.Permits ghost events) :
    owed ghost + events.countP debit =
      owed (monitor.after ghost events) + events.countP credit := by
  induction events generalizing ghost with
  | nil => rfl
  | cons event events induction =>
      have here := step ghost event (permits [] event events rfl)
      have later := @induction (monitor.advance ghost event.request event.reply)
        fun past other rest split => permits (event :: past) other rest (by rw [split]; rfl)
      have debits : (event :: events).countP debit = events.countP debit + (debit event).toNat := by
        rw [List.countP_cons]
        cases debit event <;> rfl
      have credits : (event :: events).countP credit =
          events.countP credit + (credit event).toNat := by
        rw [List.countP_cons]
        cases credit event <;> rfl
      have after : monitor.after ghost (event :: events) =
          monitor.after (monitor.advance ghost event.request event.reply) events := rfl
      rw [debits, credits, after]
      omega

end Monitor

end Foundation

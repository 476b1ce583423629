import Crewos.Foundation.Simulation
import Mathlib.Order.Defs.PartialOrder

/-! # Programs run by other programs

Each request of a program is answered by a program over other requests. What the
outer surroundings see of it then is a stuttering image: the requests that are
passed on, and between them quiet requests that the inner program never made. -/

namespace Foundation

variable {Request : Type} {Reply : Request → Type} {Wide : Type} {WideReply : Wide → Type}
  {Ghost α β γ : Type}

namespace Program

/-- Run a program whose requests are answered by programs. -/
def interpret (answer : (request : Request) → Program WideReply (Reply request)) :
    Program Reply α → Program WideReply α
  | .done value => .done value
  | .ask request resume =>
      (answer request).bind fun reply => (resume reply).interpret answer

theorem bind_assoc (program : Program Reply α) (next : α → Program Reply β)
    (last : β → Program Reply γ) :
    (program.bind next).bind last = program.bind fun value => (next value).bind last := by
  induction program with
  | done value => rfl
  | ask request resume induction =>
      simp only [bind]
      exact congrArg (Program.ask request) (funext induction)

end Program

namespace Monitor

/-- What the inner program asks for by its protocol is answered in step with it. -/
theorem obeys_follows {Inner : Type} {monitor : Monitor WideReply Ghost}
    {protocol : Protocol Reply Inner} (Relates : Inner → Ghost → Prop)
    {answer : (request : Request) → Program WideReply (Reply request)}
    (answers : ∀ request inner ghost, Relates inner ghost →
      (∀ reply, ∃ next, protocol inner ⟨request, reply⟩ next) →
      monitor.Obeys (fun reply later => ∀ next, protocol inner ⟨request, reply⟩ next →
        Relates next later) (answer request) ghost)
    {post : α → Inner → Prop} {program : Program Reply α} {inner : Inner} {ghost : Ghost}
    (follows : Follows protocol post program inner) (relates : Relates inner ghost) :
    monitor.Obeys (fun value later => ∃ last, post value last ∧ Relates last later)
      (program.interpret answer) ghost := by
  induction program generalizing inner ghost with
  | done value => exact ⟨inner, follows, relates⟩
  | ask request resume induction =>
      have asks := fun reply => (follows reply).imp fun _ taken => taken.1
      refine obeys_bind.mpr ((answers request inner ghost relates asks).mono ?_)
      intro reply later kept
      obtain ⟨next, step, rest⟩ := follows reply
      exact induction reply rest (kept next step)

end Monitor

/-- A ghost state that remembers nothing. -/
structure Blank where

instance : Preorder Blank where
  le _ _ := True
  le_refl _ := trivial
  le_trans _ _ _ _ _ := trivial

def Monitor.only (kind : Request → Prop) : Monitor Reply Blank where
  permits _ request := kind request
  admits _ _ _ := True
  advance _ _ _ := {}

/-! ## What is seen of the inner program -/

/-- How requests of an inner program appear outside: those answered within do not,
the others are passed on. Everything else the outer program asks is quiet. -/
structure Passage (Reply : Request → Type) (WideReply : Wide → Type) where
  widen : Request → Wide
  narrow : ∀ request, WideReply (widen request) → Reply request
  within : Request → Prop
  quiet : Wide → Prop
  injective : Function.Injective widen
  apart : ∀ request, ¬quiet (widen request)

/-- The outer program has still to do what the inner program has still to do, and
where it ends the two agree. -/
inductive Shows (passage : Passage Reply WideReply) (Agrees : α → Program Reply β → Prop) :
    Program WideReply α → Program Reply β → Prop
  | done {value : α} {inner : Program Reply β} (agreed : Agrees value inner) :
      Shows passage Agrees (.done value) inner
  | quiet {wide : Wide} {resume : WideReply wide → Program WideReply α}
      {inner : Program Reply β} (silent : passage.quiet wide)
      (later : ∀ reply, Shows passage Agrees (resume reply) inner) :
      Shows passage Agrees (.ask wide resume) inner
  | passed {request : Request}
      {resume : WideReply (passage.widen request) → Program WideReply α}
      {goOn : Reply request → Program Reply β} (outside : ¬passage.within request)
      (later : ∀ reply, Shows passage Agrees (resume reply) (goOn (passage.narrow request reply))) :
      Shows passage Agrees (.ask (passage.widen request) resume) (.ask request goOn)
  | answered {outer : Program WideReply α} {request : Request}
      {goOn : Reply request → Program Reply β} (within : passage.within request)
      (reply : Reply request) (later : Shows passage Agrees outer (goOn reply)) :
      Shows passage Agrees outer (.ask request goOn)

/-- The inner program gets replies to requests that are answered within. -/
inductive Skips (passage : Passage Reply WideReply) :
    Program Reply β → List (Event Reply) → Program Reply β → Prop
  | stop (inner : Program Reply β) : Skips passage inner [] inner
  | skip {request : Request} {goOn : Reply request → Program Reply β} {reply : Reply request}
      {events : List (Event Reply)} {rest : Program Reply β} (within : passage.within request)
      (later : Skips passage (goOn reply) events rest) :
      Skips passage (.ask request goOn) (⟨request, reply⟩ :: events) rest

/-- Nothing that was answered within is left: the next request is quiet, or it is
the inner program's. -/
inductive Aligned (passage : Passage Reply WideReply) (Agrees : α → Program Reply β → Prop) :
    Program WideReply α → Program Reply β → Prop
  | done {value : α} {inner : Program Reply β} (agreed : Agrees value inner) :
      Aligned passage Agrees (.done value) inner
  | quiet {wide : Wide} {resume : WideReply wide → Program WideReply α}
      {inner : Program Reply β} (silent : passage.quiet wide)
      (later : ∀ reply, Shows passage Agrees (resume reply) inner) :
      Aligned passage Agrees (.ask wide resume) inner
  | passed {request : Request}
      {resume : WideReply (passage.widen request) → Program WideReply α}
      {goOn : Reply request → Program Reply β} (outside : ¬passage.within request)
      (later : ∀ reply, Shows passage Agrees (resume reply) (goOn (passage.narrow request reply))) :
      Aligned passage Agrees (.ask (passage.widen request) resume) (.ask request goOn)

variable {passage : Passage Reply WideReply} {Agrees : α → Program Reply β → Prop}

theorem Skips.all_within {inner rest : Program Reply β} {events : List (Event Reply)}
    (skips : Skips passage inner events rest) : ∀ event ∈ events, passage.within event.request := by
  induction skips with
  | stop => simp
  | skip within _ induction => exact List.forall_mem_cons.mpr ⟨within, induction⟩

theorem Shows.aligns {outer : Program WideReply α} {inner : Program Reply β}
    (shows_ : Shows passage Agrees outer inner) :
    ∃ events rest, Skips passage inner events rest ∧ Aligned passage Agrees outer rest := by
  induction shows_ with
  | done agreed => exact ⟨[], _, .stop _, .done agreed⟩
  | quiet silent later => exact ⟨[], _, .stop _, .quiet silent later⟩
  | passed outside later => exact ⟨[], _, .stop _, .passed outside later⟩
  | answered within reply _ induction =>
      obtain ⟨events, rest, skips, aligned⟩ := induction
      exact ⟨_, rest, .skip within skips, aligned⟩

namespace Aligned

variable {inner : Program Reply β}

theorem agreed {value : α} (aligned : Aligned passage Agrees (.done value) inner) :
    Agrees value inner := by
  cases aligned with
  | done agreed => exact agreed

theorem resumed {wide : Wide} {resume : WideReply wide → Program WideReply α}
    (aligned : Aligned passage Agrees (.ask wide resume) inner) (silent : passage.quiet wide)
    (reply : WideReply wide) : Shows passage Agrees (resume reply) inner := by
  cases aligned with
  | quiet _ later => exact later reply
  | passed => exact absurd silent (passage.apart _)

theorem asked {request : Request} {resume : WideReply (passage.widen request) → Program WideReply α}
    (aligned : Aligned passage Agrees (.ask (passage.widen request) resume) inner) :
    ¬passage.within request ∧ ∃ goOn, inner = .ask request goOn ∧
      ∀ reply, Shows passage Agrees (resume reply) (goOn (passage.narrow request reply)) := by
  generalize asks : Program.ask (passage.widen request) resume = outer at aligned
  cases aligned with
  | done => cases asks
  | quiet silent =>
      injection asks with wide
      exact absurd (wide ▸ silent) (passage.apart request)
  | @passed other _ goOn outside later =>
      injection asks with wide same
      cases passage.injective wide
      cases same
      exact ⟨outside, goOn, rfl, later⟩

end Aligned

namespace Shows

theorem of_quiet {outer : Program WideReply α} {inner : Program Reply β}
    (silent : (Monitor.only passage.quiet).Obeys (fun value _ => Agrees value inner) outer {}) :
    Shows passage Agrees outer inner := by
  induction outer with
  | done value => exact .done silent
  | ask request resume induction =>
      exact .quiet silent.1 fun reply => induction reply (silent.2 reply trivial)

theorem bind_quiet {first : Program WideReply γ} {next : γ → Program WideReply α}
    {inner : Program Reply β}
    (silent : (Monitor.only passage.quiet).Obeys
      (fun value _ => Shows passage Agrees (next value) inner) first {}) :
    Shows passage Agrees (first.bind next) inner := by
  induction first with
  | done value => exact silent
  | ask request resume induction =>
      exact .quiet silent.1 fun reply => induction reply (silent.2 reply trivial)

theorem bind_answered {request : Request} {first : Program WideReply (Reply request)}
    {next : Reply request → Program WideReply α} {goOn : Reply request → Program Reply β}
    (within : passage.within request)
    (silent : (Monitor.only passage.quiet).Obeys (fun _ _ => True) first {})
    (later : ∀ reply, Shows passage Agrees (next reply) (goOn reply)) :
    Shows passage Agrees (first.bind next) (.ask request goOn) :=
  bind_quiet (silent.mono fun reply _ _ => .answered within reply (later reply))

/-- A request is passed on, or answered by quiet requests. -/
theorem interpret {answer : (request : Request) → Program WideReply (Reply request)}
    (answers : ∀ request,
      (¬passage.within request ∧ answer request = .ask (passage.widen request)
        fun reply => .done (passage.narrow request reply)) ∨
      (passage.within request ∧
        (Monitor.only passage.quiet).Obeys (fun _ _ => True) (answer request) {}))
    (inner : Program Reply β) {after : β → Program WideReply α}
    (last : ∀ value, Shows passage Agrees (after value) (.done value)) :
    Shows passage Agrees ((inner.interpret answer).bind after) inner := by
  induction inner with
  | done value => exact last value
  | ask request resume induction =>
      rw [Program.interpret, Program.bind_assoc]
      rcases answers request with ⟨outside, passes⟩ | ⟨within, silent⟩
      · rw [passes]
        exact .passed outside fun reply => induction _
      · exact bind_answered within silent induction

end Shows

end Foundation

import Mathlib.Logic.Basic

/-! # Interactive programs

A program asks its surroundings for replies and goes on with them. A monitor
watches the requests of one program: it says which of them are permitted, which
replies may be relied on, and keeps a ghost state of its own. -/

namespace Foundation

inductive Program {Request : Type} (Reply : Request → Type) (α : Type) where
  | done (value : α)
  | ask (request : Request) (resume : Reply request → Program Reply α)

namespace Program

variable {Request : Type} {Reply : Request → Type} {α β : Type}

def bind (program : Program Reply α) (next : α → Program Reply β) : Program Reply β :=
  match program with
  | .done value => next value
  | .ask request resume => .ask request fun reply => (resume reply).bind next

instance : Monad (Program Reply) where
  pure := .done
  bind := bind

def embed {Wide : Type} {WideReply : Wide → Type} (widen : Request → Wide)
    (narrow : ∀ request, WideReply (widen request) → Reply request) :
    Program Reply α → Program WideReply α
  | .done value => .done value
  | .ask request resume =>
      .ask (widen request) fun reply => (resume (narrow request reply)).embed widen narrow

end Program

/-- A request together with the reply it got. -/
structure Event {Request : Type} (Reply : Request → Type) where
  request : Request
  reply : Reply request

/-! ## Monitors -/

structure Monitor {Request : Type} (Reply : Request → Type) (Ghost : Type) where
  permits : Ghost → Request → Prop
  admits : Ghost → (request : Request) → Reply request → Prop
  advance : Ghost → (request : Request) → Reply request → Ghost

namespace Monitor

variable {Request : Type} {Reply : Request → Type} {Ghost α β : Type}

/-- Whatever the admitted replies, the program only makes permitted requests,
and when it ends its value and the ghost state satisfy `post`. -/
def Obeys (monitor : Monitor Reply Ghost) (post : α → Ghost → Prop) :
    Program Reply α → Ghost → Prop
  | .done value, ghost => post value ghost
  | .ask request resume, ghost =>
      monitor.permits ghost request ∧
        ∀ reply, monitor.admits ghost request reply →
          Obeys monitor post (resume reply) (monitor.advance ghost request reply)

variable {monitor : Monitor Reply Ghost}

theorem Obeys.mono {weak strong : α → Ghost → Prop} {program : Program Reply α}
    {ghost : Ghost} (obeys : monitor.Obeys strong program ghost)
    (implies : ∀ value ghost, strong value ghost → weak value ghost) :
    monitor.Obeys weak program ghost := by
  induction program generalizing ghost with
  | done value => exact implies value ghost obeys
  | ask request resume induction =>
      exact ⟨obeys.1, fun reply admitted => induction reply (obeys.2 reply admitted)⟩

theorem obeys_bind {post : β → Ghost → Prop} {program : Program Reply α}
    {next : α → Program Reply β} {ghost : Ghost} :
    monitor.Obeys post (program.bind next) ghost ↔
      monitor.Obeys (fun value ghost => monitor.Obeys post (next value) ghost) program ghost := by
  induction program generalizing ghost with
  | done value => rfl
  | ask request resume induction =>
      simp only [Program.bind, Obeys, induction]

theorem obeys_of_permits {program : Program Reply α} {invariant : Ghost → Prop}
    (permits : ∀ ghost request, invariant ghost → monitor.permits ghost request)
    (keeps : ∀ ghost request reply, invariant ghost → monitor.admits ghost request reply →
      invariant (monitor.advance ghost request reply))
    {ghost : Ghost} (holds : invariant ghost) :
    monitor.Obeys (fun _ ghost => invariant ghost) program ghost := by
  induction program generalizing ghost with
  | done value => exact holds
  | ask request resume induction =>
      exact ⟨permits ghost request holds, fun reply admitted =>
        induction reply (keeps ghost request reply holds admitted)⟩

def restrict {Wide : Type} {WideReply : Wide → Type} (monitor : Monitor WideReply Ghost)
    (widen : Request → Wide)
    (answer : ∀ request, Reply request → WideReply (widen request)) : Monitor Reply Ghost where
  permits ghost request := monitor.permits ghost (widen request)
  admits ghost request reply := monitor.admits ghost (widen request) (answer request reply)
  advance ghost request reply := monitor.advance ghost (widen request) (answer request reply)

theorem obeys_embed {Wide : Type} {WideReply : Wide → Type} {monitor : Monitor WideReply Ghost}
    {widen : Request → Wide} {narrow : ∀ request, WideReply (widen request) → Reply request}
    {answer : ∀ request, Reply request → WideReply (widen request)}
    (inverse : ∀ request reply, answer request (narrow request reply) = reply)
    {post : α → Ghost → Prop} {program : Program Reply α} {ghost : Ghost}
    (obeys : (monitor.restrict widen answer).Obeys post program ghost) :
    monitor.Obeys post (program.embed widen narrow) ghost := by
  induction program generalizing ghost with
  | done value => exact obeys
  | ask request resume induction =>
      refine ⟨obeys.1, fun reply admitted => ?_⟩
      have admits : (monitor.restrict widen answer).admits ghost request
          (narrow request reply) := by
        show monitor.admits ghost (widen request) (answer request (narrow request reply))
        rw [inverse]
        exact admitted
      have later := induction _ (obeys.2 _ admits)
      have same : (monitor.restrict widen answer).advance ghost request
          (narrow request reply) = monitor.advance ghost (widen request) reply := by
        show monitor.advance ghost (widen request) (answer request (narrow request reply)) = _
        rw [inverse]
      rwa [same] at later

def after (monitor : Monitor Reply Ghost) (ghost : Ghost) (events : List (Event Reply)) :
    Ghost :=
  events.foldl (fun ghost event => monitor.advance ghost event.request event.reply) ghost

theorem after_snoc (start : Ghost) (events : List (Event Reply)) (event : Event Reply) :
    monitor.after start (events ++ [event]) =
      monitor.advance (monitor.after start events) event.request event.reply := by
  simp [after]

end Monitor

/-! ## Programs with state and exceptions -/

/-- A computation with mutable variables that may raise. The variables keep
their values when it does. -/
abbrev Exec {Request : Type} (Reply : Request → Type) (Error State : Type) :=
  ExceptT Error (StateT State (Program Reply))

namespace Exec

variable {Request : Type} {Reply : Request → Type} {Error State Ghost α β : Type}

def ask (request : Request) : Exec Reply Error State (Reply request) :=
  ExceptT.mk fun state => .ask request fun reply => .done (.ok reply, state)

def ofExcept (result : Except Error α) : Exec Reply Error State α :=
  match result with
  | .ok value => pure value
  | .error error => throw error

def raiseIf (condition : Prop) [Decidable condition] (error : Error) :
    Exec Reply Error State Unit :=
  if condition then throw error else pure ()

def zoom {Part : Type} (view : State → Part) (put : Part → State → State)
    (computation : Exec Reply Error Part α) : Exec Reply Error State α :=
  ExceptT.mk fun state =>
    (computation.run (view state)).bind fun out => .done (out.1, put out.2 state)

def embed {Wide : Type} {WideReply : Wide → Type} (widen : Request → Wide)
    (narrow : ∀ request, WideReply (widen request) → Reply request)
    (computation : Exec Reply Error State α) : Exec WideReply Error State α :=
  ExceptT.mk fun state => (computation.run state).embed widen narrow

/-- Run `last` after `computation`, whether it returned or raised. -/
def andFinally (computation : Exec Reply Error State α) (last : Exec Reply Error State Unit) :
    Exec Reply Error State α :=
  do
    let value ← tryCatch computation fun error => do
      last
      throw error
    last
    return value

/-! ## Weakest preconditions -/

variable {monitor : Monitor Reply Ghost}

/-- From these variables and this ghost state the computation keeps to the
monitor; it ends in `returned` when it returns and in `raised` when it raises. -/
def wp (monitor : Monitor Reply Ghost) (computation : Exec Reply Error State α)
    (returned : α → State → Ghost → Prop)
    (raised : Error → State → Ghost → Prop) (state : State)
    (ghost : Ghost) : Prop :=
  monitor.Obeys
    (fun out ghost =>
      match out.1 with
      | .ok value => returned value out.2 ghost
      | .error error => raised error out.2 ghost)
    (computation.run state) ghost

variable {returned : α → State → Ghost → Prop}
  {raised : Error → State → Ghost → Prop} {state : State} {ghost : Ghost}

theorem wp_mono {computation : Exec Reply Error State α}
    {strongReturned : α → State → Ghost → Prop}
    {strongRaised : Error → State → Ghost → Prop}
    (holds : wp monitor computation strongReturned strongRaised state ghost)
    (onReturn : ∀ value state ghost, strongReturned value state ghost →
      returned value state ghost)
    (onRaise : ∀ error state ghost, strongRaised error state ghost →
      raised error state ghost) :
    wp monitor computation returned raised state ghost := by
  refine Monitor.Obeys.mono holds ?_
  rintro ⟨outcome, last⟩ ghost ends
  cases outcome with
  | ok value => exact onReturn value last ghost ends
  | error error => exact onRaise error last ghost ends

@[simp] theorem wp_pure {value : α} :
    wp monitor (pure value : Exec Reply Error State α) returned raised state ghost ↔
      returned value state ghost := Iff.rfl

@[simp] theorem wp_throw {error : Error} :
    wp monitor (throw error : Exec Reply Error State α) returned raised state ghost ↔
      raised error state ghost := Iff.rfl

theorem wp_bind {computation : Exec Reply Error State β} {next : β → Exec Reply Error State α} :
    wp monitor (computation >>= next) returned raised state ghost ↔
      wp monitor computation
        (fun value state ghost => wp monitor (next value) returned raised state ghost) raised
        state ghost := by
  show monitor.Obeys _ ((computation.run state).bind _) ghost ↔ _
  rw [Monitor.obeys_bind]
  constructor
  all_goals
    intro holds
    refine Monitor.Obeys.mono holds ?_
    rintro ⟨outcome, last⟩ ghost ends
    cases outcome <;> exact ends

theorem wp_seq {computation : Exec Reply Error State β} {next : β → Exec Reply Error State α}
    {middle : β → State → Ghost → Prop} {failed : Error → State → Ghost → Prop}
    (first : wp monitor computation middle failed state ghost)
    (rest : ∀ value state ghost, middle value state ghost →
      wp monitor (next value) returned raised state ghost)
    (onRaise : ∀ error state ghost, failed error state ghost → raised error state ghost) :
    wp monitor (computation >>= next) returned raised state ghost :=
  wp_bind.mpr (wp_mono first rest onRaise)

theorem wp_tryCatch {computation : Exec Reply Error State α}
    {handler : Error → Exec Reply Error State α} :
    wp monitor (tryCatch computation handler) returned raised state ghost ↔
      wp monitor computation returned
        (fun error state ghost => wp monitor (handler error) returned raised state ghost)
        state ghost := by
  show monitor.Obeys _ ((computation.run state).bind _) ghost ↔ _
  rw [Monitor.obeys_bind]
  constructor
  all_goals
    intro holds
    refine Monitor.Obeys.mono holds ?_
    rintro ⟨outcome, last⟩ ghost ends
    cases outcome <;> exact ends

@[simp] theorem wp_get {returned : State → State → Ghost → Prop} :
    wp monitor (get : Exec Reply Error State State) returned raised state ghost ↔
      returned state state ghost := Iff.rfl

@[simp] theorem wp_modify {change : State → State}
    {returned : PUnit → State → Ghost → Prop} :
    wp monitor (modify change : Exec Reply Error State PUnit) returned raised state ghost ↔
      returned ⟨⟩ (change state) ghost := Iff.rfl

theorem wp_ask {request : Request} {returned : Reply request → State → Ghost → Prop} :
    wp monitor (ask request : Exec Reply Error State _) returned raised state ghost ↔
      monitor.permits ghost request ∧ ∀ reply, monitor.admits ghost request reply →
        returned reply state (monitor.advance ghost request reply) := Iff.rfl

theorem wp_ofExcept {result : Except Error α} :
    wp monitor (ofExcept result : Exec Reply Error State α) returned raised state ghost ↔
      (∀ value, result = .ok value → returned value state ghost) ∧
        ∀ error, result = .error error → raised error state ghost := by
  cases result <;> simp [ofExcept]

theorem wp_raiseIf {condition : Prop} [Decidable condition] {error : Error}
    {returned : Unit → State → Ghost → Prop} :
    wp monitor (raiseIf condition error : Exec Reply Error State Unit) returned raised state
        ghost ↔
      (¬condition → returned () state ghost) ∧ (condition → raised error state ghost) := by
  by_cases holds : condition <;> simp [raiseIf, holds]

theorem wp_ite {condition : Prop} [Decidable condition] {first second : Exec Reply Error State α} :
    wp monitor (if condition then first else second) returned raised state ghost ↔
      (condition → wp monitor first returned raised state ghost) ∧
        (¬condition → wp monitor second returned raised state ghost) := by
  by_cases holds : condition <;> simp [holds]

theorem wp_zoom {Part : Type} {view : State → Part} {put : Part → State → State}
    {computation : Exec Reply Error Part α} :
    wp monitor (zoom view put computation) returned raised state ghost ↔
      wp monitor computation (fun value part => returned value (put part state))
        (fun error part => raised error (put part state)) (view state) ghost := by
  show monitor.Obeys _ ((computation.run (view state)).bind _) ghost ↔ _
  rw [Monitor.obeys_bind]
  rfl

theorem wp_embed {Wide : Type} {WideReply : Wide → Type} {monitor : Monitor WideReply Ghost}
    {returned : α → State → Ghost → Prop}
    {raised : Error → State → Ghost → Prop} {ghost : Ghost}
    {widen : Request → Wide} {narrow : ∀ request, WideReply (widen request) → Reply request}
    {answer : ∀ request, Reply request → WideReply (widen request)}
    (inverse : ∀ request reply, answer request (narrow request reply) = reply)
    {computation : Exec Reply Error State α}
    (holds : wp (monitor.restrict widen answer) computation returned raised state ghost) :
    wp monitor (embed widen narrow computation) returned raised state ghost :=
  Monitor.obeys_embed inverse holds

theorem wp_andFinally {computation : Exec Reply Error State α}
    {last : Exec Reply Error State Unit} :
    wp monitor (andFinally computation last) returned raised state ghost ↔
      wp monitor computation
        (fun value state ghost => wp monitor last (fun _ => returned value) raised state ghost)
        (fun error state ghost => wp monitor last (fun _ => raised error) raised state ghost)
        state ghost := by
  simp only [andFinally, wp_bind, wp_tryCatch, wp_throw, wp_pure]

/-! ## Computations that keep to a monitor from everywhere -/

def Safe (monitor : Monitor Reply Ghost) (computation : Exec Reply Error State α) : Prop :=
  ∀ state ghost, wp monitor computation (fun _ _ _ => True) (fun _ _ _ => True) state ghost

namespace Safe

theorem wp {computation : Exec Reply Error State α} (safe : Safe monitor computation)
    {state : State} {ghost : Ghost} :
    wp monitor computation (fun _ _ _ => True) (fun _ _ _ => True) state ghost :=
  safe state ghost

theorem pure (value : α) : Safe monitor (pure value : Exec Reply Error State α) :=
  fun _ _ => trivial

theorem throw (error : Error) : Safe monitor (throw error : Exec Reply Error State α) :=
  fun _ _ => trivial

theorem get : Safe monitor (get : Exec Reply Error State State) := fun _ _ => trivial

theorem modify (change : State → State) :
    Safe monitor (modify change : Exec Reply Error State PUnit) := fun _ _ => trivial

theorem bind {computation : Exec Reply Error State α} {next : α → Exec Reply Error State β}
    (first : Safe monitor computation) (rest : ∀ value, Safe monitor (next value)) :
    Safe monitor (computation >>= next) :=
  fun _ _ => wp_seq first.wp (fun value _ _ _ => (rest value).wp) fun _ _ _ _ => trivial

theorem tryCatch {computation : Exec Reply Error State α}
    {handler : Error → Exec Reply Error State α} (first : Safe monitor computation)
    (second : ∀ error, Safe monitor (handler error)) :
    Safe monitor (tryCatch computation handler) :=
  fun _ _ => wp_tryCatch.mpr
    (wp_mono first.wp (fun _ _ _ _ => trivial) fun error _ _ _ => (second error).wp)

theorem ask {request : Request} (permits : ∀ ghost, monitor.permits ghost request) :
    Safe monitor (ask request : Exec Reply Error State _) :=
  fun _ ghost => ⟨permits ghost, fun _ _ => trivial⟩

theorem ofExcept (result : Except Error α) :
    Safe monitor (ofExcept result : Exec Reply Error State α) := by
  cases result <;> exact fun _ _ => trivial

theorem raiseIf (condition : Prop) [Decidable condition] (error : Error) :
    Safe monitor (raiseIf condition error : Exec Reply Error State Unit) :=
  fun _ _ => wp_raiseIf.mpr ⟨fun _ => trivial, fun _ => trivial⟩

theorem ite {condition : Prop} [Decidable condition] {first second : Exec Reply Error State α}
    (onTrue : Safe monitor first) (onFalse : Safe monitor second) :
    Safe monitor (if condition then first else second) := by
  by_cases holds : condition <;> simp only [holds, if_true, if_false] <;> assumption

theorem zoom {Part : Type} {view : State → Part} {put : Part → State → State}
    {computation : Exec Reply Error Part α} (safe : Safe monitor computation) :
    Safe monitor (zoom view put computation) := fun _ _ => wp_zoom.mpr safe.wp

theorem embed {Wide : Type} {WideReply : Wide → Type} {monitor : Monitor WideReply Ghost}
    {widen : Request → Wide} {narrow : ∀ request, WideReply (widen request) → Reply request}
    (answer : ∀ request, Reply request → WideReply (widen request))
    (inverse : ∀ request reply, answer request (narrow request reply) = reply)
    (permits : ∀ ghost request, monitor.permits ghost (widen request))
    (computation : Exec Reply Error State α) :
    Safe monitor (embed widen narrow computation) := by
  intro state ghost
  refine wp_embed inverse ?_
  have every : (monitor.restrict widen answer).Obeys (fun _ _ => True)
      (computation.run state) ghost := by
    apply @Monitor.obeys_of_permits _ _ _ _ (monitor.restrict widen answer) _ fun _ => True
    · exact fun ghost request _ => permits ghost request
    · exact fun _ _ _ _ _ => trivial
    · trivial
  refine Monitor.Obeys.mono every ?_
  rintro ⟨outcome, last⟩ _ _
  cases outcome <;> trivial

end Safe

end Exec

end Foundation

import Crewos.Foundation.Program

/-! # Programs that follow a protocol

A protocol says which events a party in a state may take part in and where they
lead. A program follows it when each of its requests, whatever the reply, is such
an event. The protocol is a relation, so the next state may be chosen with the
reply in hand. -/

namespace Foundation

variable {Request : Type} {Reply : Request → Type} {State Error Ghost α β : Type}

abbrev Protocol (Reply : Request → Type) (Ghost : Type) := Ghost → Event Reply → Ghost → Prop

/-- The program is a party of the protocol, and `post` holds when it ends. -/
def Follows (protocol : Protocol Reply Ghost) (post : α → Ghost → Prop) :
    Program Reply α → Ghost → Prop
  | .done value, ghost => post value ghost
  | .ask request resume, ghost =>
      ∀ reply, ∃ next, protocol ghost ⟨request, reply⟩ next ∧
        Follows protocol post (resume reply) next

namespace Follows

variable {protocol : Protocol Reply Ghost}

theorem mono {weak strong : α → Ghost → Prop} {program : Program Reply α} {ghost : Ghost}
    (follows : Follows protocol strong program ghost)
    (implies : ∀ value ghost, strong value ghost → weak value ghost) :
    Follows protocol weak program ghost := by
  induction program generalizing ghost with
  | done value => exact implies value ghost follows
  | ask request resume induction =>
      intro reply
      obtain ⟨next, step, rest⟩ := follows reply
      exact ⟨next, step, induction reply rest⟩

theorem bind {middle : α → Ghost → Prop} {post : β → Ghost → Prop} {program : Program Reply α}
    {next : α → Program Reply β} {ghost : Ghost}
    (follows : Follows protocol middle program ghost)
    (rest : ∀ value ghost, middle value ghost → Follows protocol post (next value) ghost) :
    Follows protocol post (program.bind next) ghost := by
  induction program generalizing ghost with
  | done value => exact rest value ghost follows
  | ask request resume induction =>
      intro reply
      obtain ⟨after, step, later⟩ := follows reply
      exact ⟨after, step, induction reply later⟩

def restrict {Wide : Type} {WideReply : Wide → Type} (protocol : Protocol WideReply Ghost)
    (widen : Request → Wide) (answer : ∀ request, Reply request → WideReply (widen request)) :
    Protocol Reply Ghost :=
  fun ghost event next => protocol ghost ⟨widen event.request, answer event.request event.reply⟩ next

theorem embed {Wide : Type} {WideReply : Wide → Type} {protocol : Protocol WideReply Ghost}
    {widen : Request → Wide} {narrow : ∀ request, WideReply (widen request) → Reply request}
    {answer : ∀ request, Reply request → WideReply (widen request)}
    (inverse : ∀ request reply, answer request (narrow request reply) = reply)
    {post : α → Ghost → Prop} {program : Program Reply α} {ghost : Ghost}
    (follows : Follows (restrict protocol widen answer) post program ghost) :
    Follows protocol post (program.embed widen narrow) ghost := by
  induction program generalizing ghost with
  | done value => exact follows
  | ask request resume induction =>
      intro reply
      obtain ⟨next, step, rest⟩ := follows (narrow request reply)
      refine ⟨next, ?_, induction _ rest⟩
      rw [restrict, inverse] at step
      exact step

end Follows

namespace Exec

variable {protocol : Protocol Reply Ghost}

/-- From these variables and this protocol state the computation follows the
protocol; it ends in `returned` when it returns and in `raised` when it raises. -/
def leads (protocol : Protocol Reply Ghost) (computation : Exec Reply Error State α)
    (returned : α → State → Ghost → Prop) (raised : Error → State → Ghost → Prop)
    (state : State) (ghost : Ghost) : Prop :=
  Follows protocol
    (fun out ghost =>
      match out.1 with
      | .ok value => returned value out.2 ghost
      | .error error => raised error out.2 ghost)
    (computation.run state) ghost

variable {returned : α → State → Ghost → Prop} {raised : Error → State → Ghost → Prop}
  {state : State} {ghost : Ghost}

theorem leads_mono {computation : Exec Reply Error State α}
    {strongReturned : α → State → Ghost → Prop} {strongRaised : Error → State → Ghost → Prop}
    (holds : leads protocol computation strongReturned strongRaised state ghost)
    (onReturn : ∀ value state ghost, strongReturned value state ghost →
      returned value state ghost)
    (onRaise : ∀ error state ghost, strongRaised error state ghost →
      raised error state ghost) :
    leads protocol computation returned raised state ghost := by
  refine Follows.mono holds ?_
  rintro ⟨outcome, last⟩ ghost ends
  cases outcome with
  | ok value => exact onReturn value last ghost ends
  | error error => exact onRaise error last ghost ends

theorem leads_pure {value : α} (holds : returned value state ghost) :
    leads protocol (pure value : Exec Reply Error State α) returned raised state ghost := holds

theorem leads_bind {computation : Exec Reply Error State β}
    {next : β → Exec Reply Error State α} {middle : β → State → Ghost → Prop}
    (first : leads protocol computation middle raised state ghost)
    (rest : ∀ value state ghost, middle value state ghost →
      leads protocol (next value) returned raised state ghost) :
    leads protocol (computation >>= next) returned raised state ghost := by
  refine Follows.bind first ?_
  rintro ⟨outcome, last⟩ ghost ends
  cases outcome with
  | ok value => exact rest value last ghost ends
  | error error => exact ends

theorem leads_seq {computation : Exec Reply Error State β}
    {next : β → Exec Reply Error State α}
    (holds : leads protocol computation
      (fun value state ghost => leads protocol (next value) returned raised state ghost) raised
      state ghost) :
    leads protocol (computation >>= next) returned raised state ghost :=
  leads_bind holds fun _ _ _ rest => rest

theorem leads_tryCatch {computation : Exec Reply Error State α}
    {handler : Error → Exec Reply Error State α} {failed : Error → State → Ghost → Prop}
    (first : leads protocol computation returned failed state ghost)
    (second : ∀ error state ghost, failed error state ghost →
      leads protocol (handler error) returned raised state ghost) :
    leads protocol (tryCatch computation handler) returned raised state ghost := by
  refine Follows.bind first ?_
  rintro ⟨outcome, last⟩ ghost ends
  cases outcome with
  | ok value => exact ends
  | error error => exact second error last ghost ends

theorem leads_get {returned : State → State → Ghost → Prop}
    (holds : returned state state ghost) :
    leads protocol (get : Exec Reply Error State State) returned raised state ghost := holds

theorem leads_modify {change : State → State} {returned : PUnit → State → Ghost → Prop}
    (holds : returned ⟨⟩ (change state) ghost) :
    leads protocol (modify change : Exec Reply Error State PUnit) returned raised state ghost :=
  holds

theorem leads_ask {request : Request} {returned : Reply request → State → Ghost → Prop}
    (answered : ∀ reply, ∃ next, protocol ghost ⟨request, reply⟩ next ∧
      returned reply state next) :
    leads protocol (ask request : Exec Reply Error State _) returned raised state ghost := answered

theorem leads_ofExcept {result : Except Error α}
    (onReturn : ∀ value, result = .ok value → returned value state ghost)
    (onRaise : ∀ error, result = .error error → raised error state ghost) :
    leads protocol (ofExcept result : Exec Reply Error State α) returned raised state ghost := by
  cases result with
  | ok value => exact onReturn value rfl
  | error error => exact onRaise error rfl

theorem leads_raiseIf {condition : Prop} [Decidable condition] {error : Error}
    {returned : Unit → State → Ghost → Prop}
    (onReturn : ¬condition → returned () state ghost)
    (onRaise : condition → raised error state ghost) :
    leads protocol (raiseIf condition error : Exec Reply Error State Unit) returned raised state
      ghost := by
  by_cases holds : condition
  · rw [raiseIf, if_pos holds]
    exact onRaise holds
  · rw [raiseIf, if_neg holds]
    exact onReturn holds

theorem leads_ite {condition : Prop} [Decidable condition]
    {first second : Exec Reply Error State α}
    (onTrue : condition → leads protocol first returned raised state ghost)
    (onFalse : ¬condition → leads protocol second returned raised state ghost) :
    leads protocol (if condition then first else second) returned raised state ghost := by
  by_cases holds : condition
  · rw [if_pos holds]
    exact onTrue holds
  · rw [if_neg holds]
    exact onFalse holds

theorem leads_zoom {Part : Type} {view : State → Part} {put : Part → State → State}
    {computation : Exec Reply Error Part α}
    (holds : leads protocol computation (fun value part => returned value (put part state))
      (fun error part => raised error (put part state)) (view state) ghost) :
    leads protocol (zoom view put computation) returned raised state ghost := by
  refine Follows.bind holds ?_
  rintro ⟨outcome, last⟩ ghost ends
  cases outcome <;> exact ends

theorem leads_embed {Wide : Type} {WideReply : Wide → Type} {protocol : Protocol WideReply Ghost}
    {widen : Request → Wide} {narrow : ∀ request, WideReply (widen request) → Reply request}
    {answer : ∀ request, Reply request → WideReply (widen request)}
    (inverse : ∀ request reply, answer request (narrow request reply) = reply)
    {computation : Exec Reply Error State α}
    (holds : leads (Follows.restrict protocol widen answer) computation returned raised state
      ghost) :
    leads protocol (embed widen narrow computation) returned raised state ghost :=
  Follows.embed inverse holds

theorem leads_andFinally {computation : Exec Reply Error State α}
    {last : Exec Reply Error State Unit}
    {done : α → State → Ghost → Prop} {failed : Error → State → Ghost → Prop}
    (first : leads protocol computation done failed state ghost)
    (onReturn : ∀ value state ghost, done value state ghost →
      leads protocol last (fun _ => returned value) raised state ghost)
    (onRaise : ∀ error state ghost, failed error state ghost →
      leads protocol last (fun _ => raised error) raised state ghost) :
    leads protocol (andFinally computation last) returned raised state ghost := by
  have caught : leads protocol (tryCatch computation fun error => do last; throw error) done raised
      state ghost :=
    leads_tryCatch first fun error state ghost holds =>
      leads_bind (onRaise error state ghost holds) fun _ _ _ raised => raised
  exact leads_bind caught fun value state ghost holds =>
    leads_bind (onReturn value state ghost holds) fun _ _ _ returned => returned

/-! ## Computations that keep an assertion -/

/-- The computation follows the protocol and keeps `holds`, whether it returns or
raises. -/
def Keeps (protocol : Protocol Reply Ghost) (holds : State → Ghost → Prop)
    (computation : Exec Reply Error State α) : Prop :=
  ∀ state ghost, holds state ghost →
    leads protocol computation (fun _ => holds) (fun _ => holds) state ghost

namespace Keeps

variable {holds : State → Ghost → Prop}

theorem pure (value : α) : Keeps protocol holds (pure value : Exec Reply Error State α) :=
  fun _ _ here => here

theorem throw (error : Error) : Keeps protocol holds (throw error : Exec Reply Error State α) :=
  fun _ _ here => here

theorem get : Keeps protocol holds (get : Exec Reply Error State State) := fun _ _ here => here

theorem modify {change : State → State}
    (keeps : ∀ state ghost, holds state ghost → holds (change state) ghost) :
    Keeps protocol holds (modify change : Exec Reply Error State PUnit) := keeps

theorem bind {computation : Exec Reply Error State α} {next : α → Exec Reply Error State β}
    (first : Keeps protocol holds computation) (rest : ∀ value, Keeps protocol holds (next value)) :
    Keeps protocol holds (computation >>= next) :=
  fun state ghost here => leads_bind (first state ghost here) fun value => rest value

theorem tryCatch {computation : Exec Reply Error State α}
    {handler : Error → Exec Reply Error State α} (first : Keeps protocol holds computation)
    (second : ∀ error, Keeps protocol holds (handler error)) :
    Keeps protocol holds (tryCatch computation handler) :=
  fun state ghost here => leads_tryCatch (first state ghost here) fun error => second error

theorem ask {request : Request}
    (answered : ∀ state ghost reply, holds state ghost →
      ∃ next, protocol ghost ⟨request, reply⟩ next ∧ holds state next) :
    Keeps protocol holds (ask request : Exec Reply Error State _) :=
  fun state ghost here reply => answered state ghost reply here

theorem ofExcept (result : Except Error α) :
    Keeps protocol holds (ofExcept result : Exec Reply Error State α) :=
  fun _ _ here => leads_ofExcept (fun _ _ => here) fun _ _ => here

theorem raiseIf (condition : Prop) [Decidable condition] (error : Error) :
    Keeps protocol holds (raiseIf condition error : Exec Reply Error State Unit) :=
  fun _ _ here => leads_raiseIf (fun _ => here) fun _ => here

theorem ite {condition : Prop} [Decidable condition] {first second : Exec Reply Error State α}
    (onTrue : Keeps protocol holds first) (onFalse : Keeps protocol holds second) :
    Keeps protocol holds (if condition then first else second) :=
  fun state ghost here => leads_ite (fun _ => onTrue state ghost here)
    fun _ => onFalse state ghost here

theorem zoom {Part : Type} {view : State → Part} {put : Part → State → State}
    {computation : Exec Reply Error Part α}
    (keeps : ∀ state, Keeps protocol (fun part ghost => holds (put part state) ghost) computation)
    (start : ∀ state ghost, holds state ghost → holds (put (view state) state) ghost) :
    Keeps protocol holds (zoom view put computation) :=
  fun state ghost here => leads_zoom (keeps state (view state) ghost (start state ghost here))

theorem any {invariant : Ghost → Prop} {computation : Exec Reply Error State α}
    (every : ∀ ghost event, invariant ghost → ∃ next, protocol ghost event next ∧ invariant next) :
    Keeps protocol (fun _ => invariant) computation := by
  intro state ghost here
  have follows : ∀ program : Program Reply (Except Error α × State),
      ∀ ghost, invariant ghost → Follows protocol (fun _ => invariant) program ghost := by
    intro program
    induction program with
    | done value => exact fun _ here => here
    | ask request resume induction =>
        intro ghost here reply
        obtain ⟨next, step, later⟩ := every ghost ⟨request, reply⟩ here
        exact ⟨next, step, induction reply next later⟩
  refine Follows.mono (follows (computation.run state) ghost here) ?_
  rintro ⟨outcome, last⟩ ghost ends
  cases outcome <;> exact ends

end Keeps

end Exec

end Foundation

import Crewos.Foundation.Plays
import Crewos.Foundation.Transition

/-! # Services

Sessions of one service run side by side over a shared state. Each runs the
program its origin asks for, one request at a time, and may stop anywhere. What
is proved of every program alone, assuming only what the shared state keeps true
for it whatever the others do, holds in every run. -/

namespace Foundation

structure Service {Request : Type} (Reply : Request → Type) (Origin State Value : Type) where
  /-- The program of a session. -/
  handle : Origin → Program Reply Value
  /-- How a request of a session may be answered, and the state it leaves. -/
  answers : Origin → State → (request : Request) → Reply request → State → Prop

namespace Service

variable {Request : Type} {Reply : Request → Type} {Origin State Value Ghost : Type}

/-- A session: what is left of its program, and what it asked so far. -/
structure Session {Request : Type} (Reply : Request → Type) (Origin Value : Type) where
  origin : Origin
  program : Program Reply Value
  past : List (Event Reply)

structure World {Request : Type} (Reply : Request → Type) (Origin State Value : Type) where
  state : State
  sessions : List (Session Reply Origin Value)

inductive Label {Request : Type} (Reply : Request → Type) (Origin : Type) where
  | arrive (origin : Origin)
  | event (index : Nat) (event : Event Reply)

def World.start (state : State) : World Reply Origin State Value := { state, sessions := [] }

inductive Step (service : Service Reply Origin State Value) :
    World Reply Origin State Value → Label Reply Origin → World Reply Origin State Value → Prop
  | arrive (world : World Reply Origin State Value) (origin : Origin) :
      Step service world (.arrive origin)
        { world with sessions := world.sessions ++ [⟨origin, service.handle origin, []⟩] }
  | event {world : World Reply Origin State Value} {index : Nat}
      {session : Session Reply Origin Value} {request : Request}
      {resume : Reply request → Program Reply Value} {reply : Reply request} {next : State}
      (found : world.sessions[index]? = some session)
      (asks : session.program = .ask request resume)
      (answered : service.answers session.origin world.state request reply next) :
      Step service world (.event index ⟨request, reply⟩)
        { state := next
          sessions := world.sessions.set index
            { session with program := resume reply, past := session.past ++ [⟨request, reply⟩] } }

theorem Step.kept {service : Service Reply Origin State Value}
    {world next : World Reply Origin State Value} {label : Label Reply Origin}
    (step : Step service world label next) {session : Session Reply Origin Value}
    (member : session ∈ world.sessions) :
    ∃ later ∈ next.sessions, later.origin = session.origin ∧ session.past ⊆ later.past := by
  cases step with
  | arrive =>
      exact ⟨session, List.mem_append_left _ member, rfl, List.Subset.refl _⟩
  | @event index moved request resume reply following found =>
      obtain ⟨place, here⟩ := List.mem_iff_getElem?.mp member
      have within := (List.getElem?_eq_some_iff.mp found).1
      by_cases same : place = index
      · subst same
        cases here.symm.trans found
        exact ⟨_, List.mem_set within _, rfl, List.subset_append_left _ _⟩
      · refine ⟨session, List.mem_iff_getElem?.mpr ⟨place, ?_⟩, rfl, List.Subset.refl _⟩
        rw [List.getElem?_set_ne (Ne.symm same)]
        exact here

/-! ## Disciplines -/

/-- What is asked of each session, what the shared state keeps, and what a session
may know of it. -/
structure Discipline {Request : Type} (Reply : Request → Type)
    (Origin State Value Ghost : Type) where
  monitor : Origin → Monitor Reply Ghost
  start : Ghost
  post : Origin → Value → Ghost → Prop
  Shared : State → Prop
  Knows : State → Origin → Ghost → Prop

variable {service : Service Reply Origin State Value}
  {discipline : Discipline Reply Origin State Value Ghost}

/-- Every program keeps to its monitor; and a permitted request, however it is
answered, keeps what is shared, is answered as its session expects, and leaves
every session with what it knew. -/
structure Sound (service : Service Reply Origin State Value)
    (discipline : Discipline Reply Origin State Value Ghost) : Prop where
  obeys : ∀ origin,
    (discipline.monitor origin).Obeys (discipline.post origin) (service.handle origin)
      discipline.start
  begins : ∀ {state}, discipline.Shared state → ∀ origin,
    discipline.Knows state origin discipline.start
  shared : ∀ {state origin ghost request reply next}, discipline.Shared state →
    discipline.Knows state origin ghost →
    (discipline.monitor origin).permits ghost request →
    service.answers origin state request reply next → discipline.Shared next
  stable : ∀ {state origin ghost request reply next}, discipline.Shared state →
    discipline.Knows state origin ghost →
    (discipline.monitor origin).permits ghost request →
    service.answers origin state request reply next →
    ∀ other known, discipline.Knows state other known → discipline.Knows next other known
  learns : ∀ {state origin ghost request reply next}, discipline.Shared state →
    discipline.Knows state origin ghost →
    (discipline.monitor origin).permits ghost request →
    service.answers origin state request reply next →
    (discipline.monitor origin).admits ghost request reply ∧
      discipline.Knows next origin ((discipline.monitor origin).advance ghost request reply)

def Discipline.ghost (discipline : Discipline Reply Origin State Value Ghost)
    (session : Session Reply Origin Value) : Ghost :=
  (discipline.monitor session.origin).after discipline.start session.past

def Session.Permitted (discipline : Discipline Reply Origin State Value Ghost)
    (session : Session Reply Origin Value) : Prop :=
  ∀ before event rest, session.past = before ++ event :: rest →
    (discipline.monitor session.origin).permits
      ((discipline.monitor session.origin).after discipline.start before) event.request

/-- The session asked what it may, knows what it should, and goes on as it should. -/
structure Upheld (discipline : Discipline Reply Origin State Value Ghost) (state : State)
    (session : Session Reply Origin Value) : Prop where
  permitted : session.Permitted discipline
  knows : discipline.Knows state session.origin (discipline.ghost session)
  obeys : (discipline.monitor session.origin).Obeys (discipline.post session.origin)
    session.program (discipline.ghost session)

structure World.Upheld (discipline : Discipline Reply Origin State Value Ghost)
    (world : World Reply Origin State Value) : Prop where
  shared : discipline.Shared world.state
  sessions : ∀ session ∈ world.sessions, Service.Upheld discipline world.state session

theorem World.Upheld.start {state : State} (shared : discipline.Shared state) :
    (World.start state : World Reply Origin State Value).Upheld discipline :=
  ⟨shared, by simp [World.start]⟩

theorem World.Upheld.step (sound : Sound service discipline)
    {world next : World Reply Origin State Value} {label : Label Reply Origin}
    (upheld : world.Upheld discipline) (step : Step service world label next) :
    next.Upheld discipline := by
  cases step with
  | arrive origin =>
      refine ⟨upheld.shared, fun session member => ?_⟩
      rcases List.mem_append.mp member with old | new
      · exact upheld.sessions session old
      · cases List.mem_singleton.mp new
        refine ⟨fun before event rest split => ?_, sound.begins upheld.shared origin,
          sound.obeys origin⟩
        simp at split
  | @event index session request resume reply following found asks answered =>
      have own := upheld.sessions session (List.mem_of_getElem? found)
      have going := own.obeys
      rw [asks] at going
      obtain ⟨admitted, knows⟩ := sound.learns upheld.shared own.knows going.1 answered
      refine ⟨sound.shared upheld.shared own.knows going.1 answered, fun other member => ?_⟩
      rcases List.mem_or_eq_of_mem_set member with old | rfl
      · have kept := upheld.sessions other old
        exact ⟨kept.permitted,
          sound.stable upheld.shared own.knows going.1 answered _ _ kept.knows, kept.obeys⟩
      · have learned : discipline.ghost { session with
              program := resume reply
              past := session.past ++ [⟨request, reply⟩] } =
            (discipline.monitor session.origin).advance (discipline.ghost session) request
              reply := Monitor.after_snoc _ _ _
        refine ⟨fun before event rest split => ?_, learned ▸ knows,
          learned ▸ going.2 reply admitted⟩
        rcases snoc_split split with ⟨rfl, rfl, rfl⟩ | ⟨front, rfl, earlier⟩
        · exact going.1
        · exact own.permitted before event front earlier

/-- A sound discipline is upheld in every run. -/
theorem Sound.run (sound : Sound service discipline) {state : State}
    (shared : discipline.Shared state) {labels : List (Label Reply Origin)}
    {world : World Reply Origin State Value}
    (run : Run (Step service) (.start state) labels world) : world.Upheld discipline :=
  run.preserves (fun _ _ _ upheld step => upheld.step sound step) (.start shared)

theorem World.Upheld.finished {world : World Reply Origin State Value}
    (upheld : world.Upheld discipline) {session : Session Reply Origin Value}
    (member : session ∈ world.sessions) {value : Value} (ends : session.program = .done value) :
    discipline.post session.origin value (discipline.ghost session) := by
  have going := (upheld.sessions session member).obeys
  rwa [ends] at going

/-! ## What requests leave -/

section Logs

variable {Entry : Type} {log : State → List Entry} {left : Entry → Origin → Request → Prop}
  {world next : World Reply Origin State Value} {label : Label Reply Origin}

/-- Every entry of a log was left by a request of one of the sessions. -/
def World.Asked (log : State → List Entry) (left : Entry → Origin → Request → Prop)
    (world : World Reply Origin State Value) : Prop :=
  ∀ entry ∈ log world.state, ∃ session ∈ world.sessions, ∃ event ∈ session.past,
    left entry session.origin event.request

theorem World.Asked.step (asked : world.Asked log left)
    (leaves : ∀ {origin state request reply following},
      service.answers origin state request reply following →
      ∀ entry ∈ log following, entry ∈ log state ∨ left entry origin request)
    (step : Step service world label next) : next.Asked log left := by
  have kept : ∀ entry ∈ log world.state, ∃ session ∈ next.sessions, ∃ event ∈ session.past,
      left entry session.origin event.request := by
    intro entry member
    obtain ⟨session, there, event, happened, asks⟩ := asked entry member
    obtain ⟨later, stays, same, grown⟩ := step.kept there
    exact ⟨later, stays, event, grown happened, same ▸ asks⟩
  cases step with
  | arrive => exact kept
  | @event index session request resume reply following found asks answered =>
      intro entry member
      rcases leaves answered entry member with old | asked
      · exact kept entry old
      · have within := (List.getElem?_eq_some_iff.mp found).1
        exact ⟨_, List.mem_set within _, ⟨request, reply⟩,
          List.mem_append_right _ (List.mem_singleton_self _), asked⟩

end Logs

/-! ## A session alone -/

/-- The session at an index gets replies, and the others wait. -/
inductive Alone (service : Service Reply Origin State Value) (origin : Origin) :
    State → Program Reply Value → List (Event Reply) → State → Program Reply Value → Prop
  | stop (state : State) (program : Program Reply Value) :
      Alone service origin state program [] state program
  | go {state middle last : State} {request : Request}
      {resume : Reply request → Program Reply Value} {reply : Reply request}
      {events : List (Event Reply)} {rest : Program Reply Value}
      (answered : service.answers origin state request reply middle)
      (following : Alone service origin middle (resume reply) events last rest) :
      Alone service origin state (.ask request resume) (⟨request, reply⟩ :: events) last rest

theorem Alone.run {origin : Origin} {state last : State} {program rest : Program Reply Value}
    {events : List (Event Reply)} (alone : Alone service origin state program events last rest)
    (sessions : List (Session Reply Origin Value)) (past : List (Event Reply)) :
    Run (Step service) { state, sessions := sessions ++ [⟨origin, program, past⟩] }
      (events.map (.event sessions.length))
      { state := last, sessions := sessions ++ [⟨origin, rest, past ++ events⟩] } := by
  induction alone generalizing past with
  | stop => simpa using Run.nil _
  | @go state middle last request resume reply events rest answered following induction =>
      have step : Step service
          { state, sessions := sessions ++ [⟨origin, .ask request resume, past⟩] }
          (.event sessions.length ⟨request, reply⟩)
          { state := middle
            sessions := sessions ++ [⟨origin, resume reply, past ++ [⟨request, reply⟩]⟩] } := by
        have taken := @Step.event _ _ _ _ _ service
          { state, sessions := sessions ++ [⟨origin, .ask request resume, past⟩] }
          sessions.length ⟨origin, .ask request resume, past⟩ request resume reply middle
          (by simp) rfl answered
        simpa using taken
      have later := induction (past ++ [⟨request, reply⟩])
      rw [List.append_assoc] at later
      exact .cons step later

theorem Alone.served {origin : Origin} {state last : State} {rest : Program Reply Value}
    {events : List (Event Reply)}
    (alone : Alone service origin state (service.handle origin) events last rest)
    (sessions : List (Session Reply Origin Value)) :
    Run (Step service) { state, sessions } (.arrive origin :: events.map (.event sessions.length))
      { state := last, sessions := sessions ++ [⟨origin, rest, events⟩] } :=
  .cons (.arrive _ origin) (alone.run sessions [])

/-- Serve a session alone, for at most `count` requests: its events, what is left
of it, the state, and whether every reply was a legal one. -/
def solo (respond : State → (request : Request) → Reply request × State)
    (legal : State → Request → Bool) :
    Nat → State → Program Reply Value → List (Event Reply) × Program Reply Value × State × Bool
  | 0, state, program => ([], program, state, true)
  | _ + 1, state, .done value => ([], .done value, state, true)
  | count + 1, state, .ask request resume =>
      let answer := respond state request
      let rest := solo respond legal count answer.2 (resume answer.1)
      (⟨request, answer.1⟩ :: rest.1, rest.2.1, rest.2.2.1, legal state request && rest.2.2.2)

theorem eq_done_of_value? {program : Program Reply Value} {value : Value}
    (over_ : program.value? = some value) : program = .done value := by
  cases program with
  | done _ => exact congrArg Program.done (Option.some.inj over_)
  | ask => cases over_

theorem solo_alone {respond : State → (request : Request) → Reply request × State}
    {legal : State → Request → Bool} {origin : Origin}
    (lawful : ∀ state request, legal state request = true →
      service.answers origin state request (respond state request).1 (respond state request).2)
    {count : Nat} {state : State} {program : Program Reply Value}
    (allowed : (solo respond legal count state program).2.2.2 = true) :
    Alone service origin state program (solo respond legal count state program).1
      (solo respond legal count state program).2.2.1
      (solo respond legal count state program).2.1 := by
  induction count generalizing state program with
  | zero => exact .stop state program
  | succ count induction =>
      cases program with
      | done value => exact .stop state (.done value)
      | ask request resume =>
          obtain ⟨here, later⟩ := Bool.and_eq_true_iff.mp allowed
          exact .go (lawful state request here) (induction later)

end Service

end Foundation

import Crewos.Agent.Barrier
import Crewos.Agent.Evidence
import Crewos.Agent.Measurements

/-! # Every call is counted once

In a run in which nothing raises at the wrong place, the metrics count the calls
and the run once each. The loop is followed one stretch at a time, by what its
phase and the meter say of each other. -/

namespace Crewos.Agent

open Foundation RunStore AgentLoop

namespace Counting

section Loop

variable {α : Type} {loop : AgentLoop} {state : Dict} {frame : Frame} {meter : Meter}
  {place : Place}

abbrev meters (loop : AgentLoop) (state : Dict) (computation : LoopExec α)
    (returned : α → Frame → Meter → Prop) (raised : Exc → Frame → Meter → Prop)
    (frame : Frame) (meter : Meter) : Prop :=
  Exec.wp (loop.metered state) computation returned raised frame meter

/-! ## Small steps -/

theorem meters_free {computation : ControlExec α} {returned : α → Frame → Meter → Prop}
    {raised : Exc → Frame → Meter → Prop} (live : meter.place.live = true)
    (still : meter.place.saved = meter.place)
    (onReturn : ∀ value state, returned value { frame with state } meter)
    (onRaise : ∀ error state, raised error { frame with state } meter) :
    meters loop state (inControl computation) returned raised frame meter := by
  have stays : (controlled (loop.metered state)).Obeys (fun _ after => after = meter)
      (computation.run frame.state) meter := by
    apply @Monitor.obeys_of_permits _ _ _ _ (controlled (loop.metered state)) _
      fun after => after = meter
    · intro after request same
      rw [same]
      exact ⟨live, nofun⟩
    · intro after request reply same _
      rw [same]
      cases request with
      | checkpoint lease site saved =>
          exact congrArg (fun place => { meter with place }) still
      | _ => rfl
    · rfl
  unfold inControl
  apply Exec.wp_zoom.mpr
  apply wp_liftControl
  refine Monitor.Obeys.mono stays ?_
  rintro ⟨outcome, last⟩ _ rfl
  cases outcome with
  | ok value => exact onReturn value last
  | error error => exact onRaise error last

theorem meters_saved {site : Site} {updates : Dict} {returned : Unit → Frame → Meter → Prop}
    {raised : Exc → Frame → Meter → Prop} (live : meter.place.live = true)
    (saves : meter.place.saves = true)
    (onReturn : returned () { frame with state := frame.state.update updates }
      { meter with place := meter.place.saved }) :
    meters loop state (inControl (loop.control.persist site updates)) returned raised frame
      meter := by
  unfold inControl
  apply Exec.wp_zoom.mpr
  apply wp_liftControl
  apply Control.wp_persist
  · exact ⟨live, nofun⟩
  · intro reply admitted
    have accepted : (!meter.place.saves || reply.isOk) = true := admitted
    rw [saves] at accepted
    cases reply with
    | ok _ => exact ⟨nofun, fun _ => onReturn⟩
    | error error => cases accepted

theorem meters_perfCounter {returned : Time → Frame → Meter → Prop}
    {raised : Exc → Frame → Meter → Prop} (live : meter.place.live = true)
    (holds : ∀ now, returned now frame (meter.read now)) :
    meters loop state perfCounter returned raised frame meter := by
  unfold perfCounter AgentLoop.ask
  apply Exec.wp_ask.mpr
  have begun : meter.place ≠ .before := by
    rintro before
    rw [before] at live
    cases live
  refine ⟨?permitted, fun now _ => ?read⟩
  case permitted =>
    show meter.place ≠ .done
    rintro done
    rw [done] at live
    cases live
  case read =>
    rw [show (loop.metered state).advance meter .perfCounter now = meter.read now from
      if_neg begun]
    exact holds now

theorem meters_remaining {returned : Time → Frame → Meter → Prop}
    {raised : Exc → Frame → Meter → Prop} (live : meter.place.live = true)
    (started : frame.started = meter.started)
    (onReturn : ∀ now timeout, returned timeout frame (meter.read now))
    (onGuard : meter.place.clock.firm = false →
      ∀ now error, raised error frame (meter.read now))
    (onDeadline : meter.place.clock.tight = false → ∀ now,
      raised (.agentDeadlineExceeded "Agent run deadline exceeded")
        { frame with phase := .deadline } (meter.read now)) :
    meters loop state loop.remainingSeconds returned raised frame meter := by
  unfold remainingSeconds
  apply Exec.wp_bind.mpr
  apply meters_perfCounter live
  intro now
  apply Exec.wp_bind.mpr
  unfold inControl
  apply Exec.wp_zoom.mpr
  apply wp_liftControl
  have live : (meter.read now).place.live = true := Place.clock_live live
  apply Control.wp_guard
  · exact ⟨live, nofun⟩
  · intro error admitted
    have loose : (!meter.place.clock.firm || false) = true := admitted
    exact onGuard (by simpa using loose) now _
  · exact ⟨live, nofun⟩
  · intro reply admitted
    have cleared : (!meter.place.clock.firm || (meter.read now).cleared loop reply) = true :=
      admitted
    refine ⟨?refused, ?late, ?left⟩
    case refused =>
      rintro error rfl
      exact onGuard (by simpa [Meter.cleared] using cleared) now _
    case late =>
      rintro remaining rfl late
      exact onGuard (by simpa [Meter.cleared, not_lt.mpr late] using cleared) now _
    case left =>
      rintro remaining rfl positive
      apply Exec.wp_bind.mpr
      apply Exec.wp_get.mpr
      apply Exec.wp_ite.mpr
      refine ⟨fun over_ => ?_, fun _ => onReturn now _⟩
      apply Exec.wp_bind.mpr
      apply Exec.wp_modify.mpr
      refine onDeadline ?_ now
      by_contra tight
      have tight : meter.place.clock.tight = true := by simpa using tight
      simp only [Meter.cleared, Place.firm_of_tight tight, Meter.read, tight, Bool.not_true,
        Bool.false_or, Bool.and_eq_true, decide_eq_true_eq] at cleared
      refine absurd over_ (not_le.mpr (lt_min ?_ positive))
      rw [started]
      exact of_decide_eq_true cleared.2

theorem meters_check {returned : Unit → Frame → Meter → Prop}
    {raised : Exc → Frame → Meter → Prop} (live : meter.place.live = true)
    (started : frame.started = meter.started)
    (onReturn : ∀ now, returned () frame (meter.read now))
    (onGuard : meter.place.clock.firm = false →
      ∀ now error, raised error frame (meter.read now))
    (onDeadline : meter.place.clock.tight = false → ∀ now,
      raised (.agentDeadlineExceeded "Agent run deadline exceeded")
        { frame with phase := .deadline } (meter.read now)) :
    meters loop state loop.checkDeadline returned raised frame meter := by
  unfold checkDeadline
  apply Exec.wp_bind.mpr
  exact meters_remaining live started (fun now _ => onReturn now) onGuard onDeadline

theorem meters_startPhase {phase : Phase} {returned : Unit → Frame → Meter → Prop}
    {raised : Exc → Frame → Meter → Prop} (live : meter.place.live = true)
    (holds : ∀ now, returned () { frame with phase, phaseStarted := now } (meter.read now)) :
    meters loop state (startPhase phase) returned raised frame meter := by
  unfold startPhase
  apply Exec.wp_bind.mpr
  apply meters_perfCounter live
  intro now
  apply Exec.wp_modify.mpr
  exact holds now

theorem meters_measure {operation : MetricOperation} {outcome : MetricOutcome} {since : Time}
    {returned : Unit → Frame → Meter → Prop} {raised : Exc → Frame → Meter → Prop}
    (live : meter.place.live = true) (counts : meter.place.due.Counts operation outcome)
    (holds : ∀ now, returned () frame
      { meter.read now with place := meter.place.clock.measured operation }) :
    meters loop state (AgentLoop.measure operation outcome since) returned raised frame meter := by
  unfold AgentLoop.measure
  apply Exec.wp_bind.mpr
  apply meters_perfCounter live
  intro now
  apply Exec.wp_bind.mpr
  unfold AgentLoop.ask
  apply Exec.wp_ask.mpr
  exact ⟨⟨Place.clock_live live, Place.counts_clock counts⟩, fun _ _ => holds now⟩

/-! ## Failures -/

/-- What the handler of a failed loop counts is what is due. -/
def Owed : Phase → Due → Prop
  | .model, due => due = .model false
  | .tool, due => due = .tool false ∨ due = .attempt
  | _, due => due.settled = true

structure Failing (frame : Frame) (meter : Meter) : Prop where
  live : meter.place.live = true
  owed : Owed frame.phase meter.place.due

theorem Failing.of_idle (idle : frame.phase.idle = true) (live : meter.place.live = true)
    (settled : meter.place.due.settled = true) : Failing frame meter := by
  refine ⟨live, ?_⟩
  cases phase : frame.phase <;> rw [phase] at idle <;> first | exact settled | cases idle

theorem meters_countRun {outcome : MetricOutcome} {since : Time}
    {returned : Unit → Frame → Meter → Prop} {raised : Exc → Frame → Meter → Prop}
    (live : meter.place.live = true) (settled : meter.place.due.settled = true)
    (holds : ∀ meter : Meter, meter.place = .done → returned () frame meter) :
    meters loop state (AgentLoop.measure .run outcome since) returned raised frame meter :=
  meters_measure live (Due.counts_run settled outcome) fun _ => holds _ rfl

theorem meters_failed {error : Exc} (failing : Failing frame meter) :
    meters loop state (failed error) (fun _ _ meter => meter.place = .done)
      (fun _ _ meter => meter.place = .done) frame meter := by
  obtain ⟨live, owed⟩ := failing
  have last {meter : Meter} (live : meter.place.live = true)
      (settled : meter.place.due.settled = true) :
      meters loop state (do AgentLoop.measure .run (stopReason error) frame.started; throw error)
        (fun (_ : AgentAnswer) _ meter => meter.place = .done)
        (fun _ _ meter => meter.place = .done) frame meter :=
    Exec.wp_bind.mpr (meters_countRun live settled fun _ done => done)
  unfold failed
  apply Exec.wp_bind.mpr
  apply Exec.wp_get.mpr
  cases phase : frame.phase with
  | model =>
      rw [phase] at owed
      have due : meter.place.due = .model false := owed
      simp only [if_true, reduceCtorEq, if_false]
      apply Exec.wp_bind.mpr
      apply meters_measure live (due ▸ .model)
      intro now
      refine last ?_ ?_ <;> rw [Place.measured_model due] <;> rfl
  | tool =>
      rw [phase] at owed
      have due : meter.place.due = .tool false ∨ meter.place.due = .attempt := owed
      simp only [if_true, reduceCtorEq, if_false]
      apply Exec.wp_bind.mpr
      apply meters_measure live (Due.counts_tool due)
      intro now
      refine last ?_ ?_ <;> rw [Place.measured_tool due] <;> rfl
  | _ =>
      rw [phase] at owed
      simp only [reduceCtorEq, if_false]
      exact last live owed

/-! ## What the loop knows -/

/-- The run is at this place, and the meter reads the variables of the loop. -/
structure At (place : Place) (frame : Frame) (meter : Meter) : Prop where
  place : meter.place = place
  started : frame.started = meter.started
  passages : frame.observedPassages = meter.passages

theorem At.live (here : At place frame meter) (live : place.live = true) :
    meter.place.live = true := by rwa [here.place]

theorem At.settled (here : At place frame meter) (settled : place.due.settled = true) :
    meter.place.due.settled = true := by rwa [here.place]

theorem At.counts {operation : MetricOperation} {outcome : MetricOutcome}
    (here : At place frame meter) (counts : place.due.Counts operation outcome) :
    meter.place.due.Counts operation outcome := by rwa [here.place]

theorem At.still (here : At place frame meter) (still : place.saved = place) :
    meter.place.saved = meter.place := by rw [here.place, still]

theorem At.read (here : At place frame meter) (now : Time) :
    At place.clock frame (meter.read now) :=
  ⟨congrArg Place.clock here.place, here.started, here.passages⟩

theorem At.measured (here : At place frame meter) (operation : MetricOperation) (now : Time) :
    At (place.clock.measured operation) frame
      { meter.read now with place := meter.place.clock.measured operation } :=
  ⟨by rw [here.place], here.started, here.passages⟩

theorem At.moved (here : At place frame meter) (next : Place) :
    At next frame { meter with place := next } := ⟨rfl, here.started, here.passages⟩

theorem At.failing (here : At place frame meter) (idle : frame.phase.idle = true)
    (live : place.live = true) (settled : place.due.settled = true) : Failing frame meter :=
  .of_idle idle (here.live live) (here.settled settled)

theorem At.late (here : At place frame meter) (live : place.live = true)
    (settled : place.due.settled = true) :
    Failing { frame with phase := .deadline } meter :=
  .of_idle rfl (here.live live) (here.settled settled)

/-- Between two turns, or before the first one. -/
def Rests (frame : Frame) (meter : Meter) : Prop :=
  At .between frame meter ∧ frame.phase.idle = true

theorem meters_rest {pending : Json} {replaySafe : Bool} (rests : Rests frame meter) :
    meters loop state (loop.checkpoint pending replaySafe) (fun _ => Rests)
      (fun _ => Failing) frame meter := by
  obtain ⟨here, idle⟩ := rests
  unfold checkpoint
  apply Exec.wp_bind.mpr
  apply Exec.wp_get.mpr
  apply meters_free (here.live rfl) (here.still rfl)
  · exact fun _ _ => ⟨⟨here.place, here.started, here.passages⟩, idle⟩
  · exact fun _ _ => .of_idle idle (here.live rfl) (here.settled rfl)

theorem meters_recovered {messages : List DecisionMessage} (here : At .between frame meter) :
    meters loop state
      (do
        setPhase .recovery
        remember messages
        loop.checkpoint .null false
        return (none : Option α))
      (fun found frame meter => found = none ∧ Rests frame meter) (fun _ => Failing) frame
      meter := by
  have rests : Rests
      { frame with phase := .recovery, history := frame.history ++ messages } meter :=
    ⟨⟨here.place, here.started, here.passages⟩, rfl⟩
  apply Exec.wp_bind.mpr
  apply Exec.wp_modify.mpr
  apply Exec.wp_bind.mpr
  apply Exec.wp_modify.mpr
  exact Exec.wp_seq (meters_rest rests) (fun _ _ _ rests => ⟨rfl, rests⟩) fun _ _ _ failing =>
    failing

/-! ## The model step -/

/-- How asking the model fails: the deadline has passed, or the call is made. -/
def Unasked (error : Exc) (frame : Frame) (meter : Meter) : Prop :=
  (modelRecoverable error = false ∧ Failing frame meter) ∨
    (frame.phase = .model ∧ At .calling frame meter)

theorem meters_askModel (here : At .asking frame meter) (phase : frame.phase = .model) :
    meters loop state loop.askModel
      (fun decision frame meter => ∃ made, decision = some made ∧ frame.phase = .model ∧
        At (.decided made) frame meter) Unasked frame meter := by
  unfold askModel
  apply Exec.wp_bind.mpr
  apply meters_remaining (here.live rfl) here.started
  · intro now timeout
    have here := here.read now
    apply Exec.wp_bind.mpr
    apply Exec.wp_get.mpr
    apply Exec.wp_bind.mpr
    apply Exec.wp_ask.mpr
    refine ⟨⟨here.live rfl, fun _ => here.settled rfl⟩, fun _ _ => ?_⟩
    have calling := here.moved .calling
    apply Exec.wp_bind.mpr
    apply meters_free rfl rfl
    · intro proposal kept
      apply Exec.wp_bind.mpr
      apply Exec.wp_ofExcept.mpr
      refine ⟨fun decision _ => ?_, fun _ _ => .inr ⟨phase, calling.place, calling.started,
        calling.passages⟩⟩
      apply Exec.wp_bind.mpr
      apply Exec.wp_ask.mpr
      exact ⟨rfl, fun _ _ => ⟨decision, rfl, phase, rfl, calling.started, calling.passages⟩⟩
    · exact fun _ _ => .inr ⟨phase, calling.place, calling.started, calling.passages⟩
  · intro loose
    rw [here.place] at loose
    cases loose
  · exact fun _ now => .inl ⟨rfl, (here.read now).late rfl rfl⟩

theorem meters_recoverModel {error : Exc} (unasked : Unasked error frame meter) :
    meters loop state (loop.recoverModel error)
      (fun decision frame meter => decision = none ∧ Rests frame meter) (fun _ => Failing) frame
      meter := by
  unfold recoverModel
  apply Exec.wp_bind.mpr
  apply Exec.wp_raiseIf.mpr
  rcases unasked with ⟨stern, failing⟩ | ⟨phase, here⟩
  · exact ⟨fun able => absurd stern able, fun _ => failing⟩
  · have failing (state : Dict) : Failing { frame with state } meter :=
      ⟨here.live rfl, by
        rw [show ({ frame with state } : Frame).phase = _ from phase, here.place]
        rfl⟩
    refine ⟨fun _ => ?_, fun _ => failing frame.state⟩
    apply Exec.wp_bind.mpr
    apply meters_free (here.live rfl) (here.still rfl)
    · intro admitted kept
      apply Exec.wp_bind.mpr
      apply Exec.wp_raiseIf.mpr
      refine ⟨fun _ => ?_, fun _ => failing kept⟩
      apply Exec.wp_bind.mpr
      apply Exec.wp_get.mpr
      apply Exec.wp_bind.mpr
      apply meters_measure (here.live rfl) (here.counts .model)
      intro now
      have between := here.measured .model now
      exact meters_recovered ⟨between.place, between.started, between.passages⟩
    · exact fun _ kept => failing kept

/-- What a turn has to act on: a decision of the model that is counted, or nothing. -/
def Chosen (frame : Frame) (meter : Meter) : Option ModelDecision → Prop
  | some decision => At (.chosen decision) frame meter
  | none => Rests frame meter

theorem meters_modelStep (here : At .turning frame meter) :
    meters loop state loop.modelStep (fun decision frame meter => Chosen frame meter decision)
      (fun _ => Failing) frame meter := by
  unfold modelStep
  apply Exec.wp_bind.mpr
  apply meters_startPhase (here.live rfl)
  intro now
  have here := here.read now
  apply Exec.wp_bind.mpr
  unfold checkpoint
  apply Exec.wp_bind.mpr
  apply Exec.wp_get.mpr
  apply meters_saved (here.live rfl) (by rw [here.place]; rfl)
  apply Exec.wp_bind.mpr
  apply Exec.wp_tryCatch.mpr
  refine Exec.wp_mono (meters_askModel ⟨?asking, here.started, here.passages⟩ rfl) ?made
    ?unasked
  case asking =>
    show (meter.read now).place.saved = .asking
    rw [here.place]
    rfl
  case unasked =>
    intro error frame meter unasked
    refine Exec.wp_mono (meters_recoverModel unasked) ?_ fun _ _ _ failing => failing
    rintro _ frame meter ⟨rfl, rests⟩
    exact rests
  case made =>
    rintro _ frame meter ⟨decision, rfl, phase, here⟩
    simp only [Option.isSome_some, if_true]
    apply Exec.wp_bind.mpr
    apply Exec.wp_get.mpr
    apply Exec.wp_bind.mpr
    apply meters_measure (here.live rfl) (here.counts .model)
    intro now
    exact here.measured .model now

/-! ## The final answer -/

def Refused (frame : Frame) (meter : Meter) : Prop :=
  ∃ place : Place, At place frame meter ∧ frame.phase.idle = true ∧ place.due = .model false

theorem meters_askReviewer {request : DocumentReviewRequest} (here : At .reviewing frame meter)
    (idle : frame.phase.idle = true) :
    meters loop state (loop.askReviewer request)
      (fun _ frame meter => At .reviewed frame meter ∧ frame.phase.idle = true)
      (fun _ => Refused) frame meter := by
  unfold askReviewer
  apply Exec.wp_bind.mpr
  apply meters_remaining (here.live rfl) here.started
  case onGuard =>
    intro loose
    rw [here.place] at loose
    cases loose
  case onDeadline =>
    intro loose
    rw [here.place] at loose
    cases loose
  intro now timeout
  have here := here.read now
  apply Exec.wp_bind.mpr
  apply Exec.wp_get.mpr
  apply Exec.wp_bind.mpr
  apply Exec.wp_ask.mpr
  refine ⟨⟨here.live rfl, fun _ => here.settled rfl⟩, fun _ _ => ?_⟩
  have consulting := here.moved .consulting
  apply Exec.wp_bind.mpr
  apply meters_free rfl rfl
  case onRaise =>
    exact fun _ _ => ⟨.consulting,
      ⟨consulting.place, consulting.started, consulting.passages⟩, idle, rfl⟩
  intro proposal kept
  have consulting : At .consulting { frame with state := kept }
      { meter.read now with place := .consulting } :=
    ⟨consulting.place, consulting.started, consulting.passages⟩
  apply Exec.wp_bind.mpr
  apply Exec.wp_ofExcept.mpr
  refine ⟨fun review _ => ?_, fun _ _ => ⟨.consulting, consulting, idle, rfl⟩⟩
  apply Exec.wp_bind.mpr
  apply meters_check rfl consulting.started
  case onGuard => exact nofun
  case onDeadline => exact nofun
  intro later
  have returned := consulting.read later
  apply Exec.wp_bind.mpr
  apply Exec.wp_ofExcept.mpr
  refine ⟨fun receipt _ => ?_, fun _ _ => ⟨.returned, returned, idle, rfl⟩⟩
  apply meters_saved rfl rfl
  exact ⟨⟨rfl, returned.started, returned.passages⟩, idle⟩

def Answers (frame : Frame) (meter : Meter) : Prop :=
  ∃ place : Place, At place frame meter ∧ frame.phase.idle = true ∧ place.live = true ∧
    place.due.settled = true ∧ place.saved = place

theorem meters_reviewAnswer {answer : DocumentFinalAnswerDecision} (here : At place frame meter)
    (live : place.live = true) (settled : place.due.settled = true)
    (starts : place.clock = .reviewing) (idle : frame.phase.idle = true) :
    meters loop state (loop.reviewAnswer answer) (fun _ => Answers) (fun _ => Failing) frame
      meter := by
  unfold reviewAnswer
  apply Exec.wp_bind.mpr
  apply Exec.wp_get.mpr
  apply Exec.wp_bind.mpr
  apply Exec.wp_ofExcept.mpr
  refine ⟨fun _ _ => ?_, fun _ _ => here.failing idle live settled⟩
  apply Exec.wp_bind.mpr
  apply Exec.wp_modify.mpr
  apply Exec.wp_bind.mpr
  apply meters_perfCounter (here.live live)
  intro now
  have reviewing : At .reviewing { frame with phase := .documentReview } (meter.read now) :=
    ⟨(here.read now).place.trans starts, here.started, here.passages⟩
  apply Exec.wp_bind.mpr
  apply Exec.wp_ofExcept.mpr
  refine ⟨fun request _ => ?_, fun _ _ => reviewing.failing rfl rfl rfl⟩
  apply Exec.wp_bind.mpr
  apply Exec.wp_tryCatch.mpr
  refine Exec.wp_mono (meters_askReviewer reviewing rfl) ?accepted ?refused
  case accepted =>
    rintro _ frame meter ⟨here, idle⟩
    apply meters_measure (here.live rfl) (here.counts .model)
    exact fun now => ⟨.answering, here.measured .model now, idle, rfl, rfl, rfl⟩
  case refused =>
    rintro error frame meter ⟨place, here, idle, due⟩
    have live : place.live = true := by
      cases place <;> first | rfl | cases due
    apply Exec.wp_bind.mpr
    apply meters_measure (here.live live) (here.counts (due ▸ .model))
    intro now
    have between := here.measured .model now
    rw [Place.measured_model due] at between
    exact between.failing idle rfl rfl

theorem meters_finalAnswer {answer : AgentAnswer} (here : At place frame meter)
    (live : place.live = true) (settled : place.due.settled = true) (still : place.saved = place)
    (starts : place.clock = .acting (.answer answer)) :
    meters loop state (loop.finalAnswer answer) (fun _ _ meter => meter.place = .done)
      (fun _ => Failing) frame meter := by
  have begun : At place { frame with phase := .citationValidation } meter :=
    ⟨here.place, here.started, here.passages⟩
  have checked : meters loop state (loop.checkAnswer answer) (fun _ => Answers)
      (fun _ => Failing) { frame with phase := .citationValidation } meter := by
    cases answer with
    | document answer => exact meters_reviewAnswer begun live settled starts rfl
    | general answer =>
        unfold checkAnswer
        apply Exec.wp_bind.mpr
        apply Exec.wp_get.mpr
        apply Exec.wp_ofExcept.mpr
        exact ⟨fun _ _ => ⟨place, begun, rfl, live, settled, still⟩,
          fun _ _ => begun.failing rfl live settled⟩
  unfold finalAnswer
  apply Exec.wp_bind.mpr
  apply Exec.wp_modify.mpr
  apply Exec.wp_seq checked
  case onRaise => exact fun _ _ _ failing => failing
  rintro _ frame meter ⟨place, here, idle, live, settled, still⟩
  apply Exec.wp_bind.mpr
  apply meters_free (here.live live) (here.still still)
  case onRaise => exact fun _ _ => .of_idle idle (here.live live) (here.settled settled)
  intro _ kept
  apply Exec.wp_bind.mpr
  apply Exec.wp_get.mpr
  apply Exec.wp_bind.mpr
  apply meters_countRun (here.live live) (here.settled settled)
  exact fun _ done => done

/-! ## The tool step -/

/-- How a tool call fails: the deadline has passed, or the call is to be counted. -/
def Uncalled (error : Exc) (frame : Frame) (meter : Meter) : Prop :=
  (∃ message, error = .agentDeadlineExceeded message ∧ Failing frame meter) ∨
    (frame.phase = .tool ∧ ∃ place : Place, At place frame meter ∧
      (place.due = .tool false ∨ place.due = .attempt) ∧ place.saved = place)

def Taken (mode : AnswerMode) (decision : ToolCallDecision) (result : ToolResult) (frame : Frame)
    (meter : Meter) : Prop :=
  frame.phase = .tool ∧ frame.started = meter.started ∧
    match evidence mode decision frame.observedPassages result with
    | .ok passages => meter.place = .handled ∧ meter.passages = passages
    | .error _ => meter.place = .dispatched decision

theorem meters_dispatch {decision : ToolCallDecision} {remaining : Time}
    (here : At (.dispatched decision) frame meter) (phase : frame.phase = .tool) :
    meters loop state (loop.dispatch decision remaining)
      (fun result frame meter => Taken loop.answerMode decision result frame meter) Uncalled frame
      meter := by
  have uncalled (error : Exc) : Uncalled error frame meter :=
    .inr ⟨phase, _, here, .inl rfl, rfl⟩
  unfold dispatch
  apply Exec.wp_bind.mpr
  apply Exec.wp_ofExcept.mpr
  refine ⟨fun tool _ => ?_, fun error _ => uncalled error⟩
  apply Exec.wp_bind.mpr
  apply Exec.wp_raiseIf.mpr
  refine ⟨fun _ => ?_, fun _ => uncalled _⟩
  apply Exec.wp_bind.mpr
  apply Exec.wp_ask.mpr
  refine ⟨⟨decision, here.place⟩, fun (out : Except Exc ToolResult) _ => ?_⟩
  show Exec.wp (loop.metered state) _ _ _ frame (meter.handled loop.answerMode out)
  unfold Meter.handled
  rw [here.place]
  apply Exec.wp_ofExcept.mpr
  constructor
  · rintro result rfl
    refine ⟨phase, ?_⟩
    rw [here.passages]
    dsimp only
    cases evidence loop.answerMode decision meter.passages result with
    | error error => exact ⟨here.started, here.place⟩
    | ok passages => exact ⟨here.started, rfl, rfl⟩
  · rintro error rfl
    exact uncalled error

theorem meters_callTool {decision : ToolCallDecision} (here : At .tooling frame meter)
    (phase : frame.phase = .tool) :
    meters loop state (loop.callTool decision)
      (fun result frame meter => ∃ returned, result = some returned ∧
        Taken loop.answerMode decision returned frame meter) Uncalled frame meter := by
  have uncalled {frame : Frame} {meter : Meter} (error : Exc) (here : At .tooling frame meter)
      (phase : frame.phase = .tool) : Uncalled error frame meter :=
    .inr ⟨phase, _, here, .inr rfl, rfl⟩
  unfold callTool
  apply Exec.wp_bind.mpr
  apply Exec.wp_ofExcept.mpr
  refine ⟨fun safeReplay _ => ?_, fun error _ => uncalled error here phase⟩
  apply Exec.wp_bind.mpr
  apply Exec.wp_modify.mpr
  apply Exec.wp_bind.mpr
  unfold checkpoint
  apply Exec.wp_bind.mpr
  apply Exec.wp_get.mpr
  apply meters_free (here.live rfl) (here.still rfl)
  case onRaise =>
    exact fun error _ => uncalled error ⟨here.place, here.started, here.passages⟩ phase
  intro _ kept
  have here : At .tooling { frame with safeReplay, state := kept } meter :=
    ⟨here.place, here.started, here.passages⟩
  apply Exec.wp_bind.mpr
  apply meters_remaining (here.live rfl) here.started
  case onGuard =>
    intro _ now error
    have here := here.read now
    exact uncalled error ⟨here.place, here.started, here.passages⟩ phase
  case onDeadline =>
    intro _ now
    have here := here.read now
    exact .inl ⟨_, rfl, here.late rfl rfl⟩
  intro now remaining
  have here := here.read now
  apply Exec.wp_bind.mpr
  apply Exec.wp_get.mpr
  apply Exec.wp_bind.mpr
  apply Exec.wp_ask.mpr
  refine ⟨⟨here.live rfl, fun _ => here.settled rfl⟩, fun _ _ => ?_⟩
  apply Exec.wp_seq (meters_dispatch (here.moved (.dispatched decision)) phase)
  · exact fun result _ _ taken => ⟨result, rfl, taken⟩
  · exact fun _ _ _ failed => failed

theorem meters_recoverTool {decision : ToolCallDecision} {error : Exc}
    (uncalled : Uncalled error frame meter) :
    meters loop state (loop.recoverTool decision error)
      (fun result frame meter => result = none ∧ Rests frame meter) (fun _ => Failing) frame
      meter := by
  unfold recoverTool
  apply Exec.wp_bind.mpr
  apply Exec.wp_get.mpr
  apply Exec.wp_bind.mpr
  apply Exec.wp_raiseIf.mpr
  rcases uncalled with ⟨message, rfl, failing⟩ | ⟨phase, place, here, due, still⟩
  · exact ⟨fun able => absurd rfl able, fun _ => failing⟩
  · have live : place.live = true := by
      cases place <;> first | rfl | (rcases due with due | due <;> cases due)
    have failing (state : Dict) : Failing { frame with state } meter :=
      ⟨here.live live, by
        rw [show ({ frame with state } : Frame).phase = _ from phase, here.place]
        exact due⟩
    refine ⟨fun _ => ?_, fun _ => failing frame.state⟩
    apply Exec.wp_bind.mpr
    apply meters_free (here.live live) (here.still still)
    case onRaise => exact fun _ kept => failing kept
    intro admitted kept
    apply Exec.wp_bind.mpr
    apply Exec.wp_raiseIf.mpr
    refine ⟨fun _ => ?_, fun _ => failing kept⟩
    apply Exec.wp_bind.mpr
    apply meters_measure (here.live live) (here.counts (Due.counts_tool due))
    intro now
    have between := here.measured .tool now
    rw [Place.measured_tool due] at between
    exact meters_recovered ⟨between.place, between.started, between.passages⟩

theorem meters_observe {decision : ToolCallDecision} {result : ToolResult}
    (taken : Taken loop.answerMode decision result frame meter) :
    meters loop state (loop.observe decision result)
      (fun _ frame meter => At .handled frame meter ∧ frame.phase = .tool) (fun _ => Failing)
      frame meter := by
  obtain ⟨phase, started, taken⟩ := taken
  have kept (same : evidence loop.answerMode decision frame.observedPassages result =
      .ok frame.observedPassages) : At .handled frame meter ∧ frame.phase = .tool := by
    rw [same] at taken
    exact ⟨⟨taken.1, started, taken.2.symm⟩, phase⟩
  unfold observe
  cases result with
  | other dump => exact kept rfl
  | retrieval found =>
      apply Exec.wp_ite.mpr
      refine ⟨fun search => ?_, fun other => kept (if_neg other)⟩
      apply Exec.wp_bind.mpr
      apply Exec.wp_get.mpr
      apply Exec.wp_bind.mpr
      apply Exec.wp_ofExcept.mpr
      constructor
      · intro passages added
        have accepted : evidence loop.answerMode decision frame.observedPassages
            (.retrieval found) = .ok passages := (if_pos search).trans added
        rw [accepted] at taken
        exact ⟨⟨taken.1, started, taken.2.symm⟩, phase⟩
      · intro error conflict
        have refused : evidence loop.answerMode decision frame.observedPassages
            (.retrieval found) = .error error := (if_pos search).trans conflict
        rw [refused] at taken
        refine ⟨by rw [taken]; rfl, ?_⟩
        rw [phase, taken]
        exact .inl rfl

theorem meters_recordResult {decision : ToolCallDecision} {result : ToolResult}
    (taken : Taken loop.answerMode decision result frame meter) :
    meters loop state (loop.recordResult decision result) (fun _ => Rests) (fun _ => Failing)
      frame meter := by
  unfold recordResult
  apply Exec.wp_seq (meters_observe taken)
  case onRaise => exact fun _ _ _ failing => failing
  rintro _ frame meter ⟨here, phase⟩
  have here : At .handled { frame with toolsCompleted := frame.toolsCompleted + 1 } meter :=
    ⟨here.place, here.started, here.passages⟩
  apply Exec.wp_bind.mpr
  apply Exec.wp_modify.mpr
  apply Exec.wp_bind.mpr
  apply Exec.wp_get.mpr
  apply Exec.wp_bind.mpr
  apply meters_measure (here.live rfl) (here.counts .tool)
  intro now
  have counted := here.measured .tool now
  apply Exec.wp_bind.mpr
  apply meters_check (counted.live rfl) counted.started
  case onGuard =>
    intro loose
    rw [counted.place] at loose
    cases loose
  case onDeadline =>
    intro _ later
    have checked := counted.read later
    exact checked.late rfl rfl
  intro later
  have checked := counted.read later
  apply Exec.wp_bind.mpr
  apply meters_startPhase (checked.live rfl)
  intro last
  have between := checked.read last
  apply Exec.wp_bind.mpr
  apply Exec.wp_modify.mpr
  exact meters_rest ⟨⟨between.place, between.started, between.passages⟩, rfl⟩

theorem meters_toolStep {decision : ToolCallDecision} (here : At place frame meter)
    (live : place.live = true) (starts : place.clock = .tooling) :
    meters loop state (loop.toolStep decision) (fun _ => Rests) (fun _ => Failing) frame
      meter := by
  unfold toolStep
  apply Exec.wp_bind.mpr
  apply meters_startPhase (here.live live)
  intro now
  have here : At .tooling
      { frame with phase := .tool, phaseStarted := now, toolCalls := frame.toolCalls + 1 }
      (meter.read now) :=
    ⟨(here.read now).place.trans starts, here.started, here.passages⟩
  apply Exec.wp_bind.mpr
  apply Exec.wp_modify.mpr
  apply Exec.wp_bind.mpr
  apply meters_check (here.live rfl) here.started
  case onGuard =>
    intro _ later _
    have here := here.read later
    exact ⟨here.live rfl, by rw [here.place]; exact .inr rfl⟩
  case onDeadline =>
    intro _ later
    have here := here.read later
    exact here.late rfl rfl
  intro later
  have here := here.read later
  apply Exec.wp_bind.mpr
  apply Exec.wp_modify.mpr
  apply Exec.wp_bind.mpr
  apply Exec.wp_tryCatch.mpr
  refine Exec.wp_mono (meters_callTool ⟨here.place, here.started, here.passages⟩ rfl) ?_ ?_
  · rintro _ frame meter ⟨result, rfl, taken⟩
    exact meters_recordResult taken
  · intro error frame meter uncalled
    refine Exec.wp_mono (meters_recoverTool uncalled) ?_ fun _ _ _ failing => failing
    rintro _ frame meter ⟨rfl, rests⟩
    exact rests

/-! ## Turns -/

def Turned (frame : Frame) (meter : Meter) : Option AgentAnswer → Prop
  | some _ => meter.place = .done
  | none => Rests frame meter

theorem meters_act {decision : ModelDecision} (here : At place frame meter)
    (live : place.live = true) (settled : place.due.settled = true) (still : place.saved = place)
    (starts : place.clock = .acting decision) :
    meters loop state (loop.act decision) (fun answer frame meter => Turned frame meter answer)
      (fun _ => Failing) frame meter := by
  unfold act
  cases decision with
  | answer answer =>
      exact Exec.wp_seq (meters_finalAnswer here live settled still starts)
        (fun _ _ _ done => done) fun _ _ _ failing => failing
  | toolCall decision =>
      exact Exec.wp_seq (meters_toolStep here live starts) (fun _ _ _ rests => rests)
        fun _ _ _ failing => failing

theorem meters_turn {step : Int} (rests : Rests frame meter) :
    meters loop state (loop.turn step none)
      (fun answer frame meter => Turned frame meter answer) (fun _ => Failing) frame meter := by
  obtain ⟨here, idle⟩ := rests
  unfold turn
  apply Exec.wp_bind.mpr
  apply meters_check (here.live rfl) here.started
  case onGuard => exact fun _ now _ => (here.read now).failing idle rfl rfl
  case onDeadline => exact fun _ now => (here.read now).late rfl rfl
  intro now
  have here := here.read now
  have next : meters loop state (loop.nextDecision none)
      (fun decision frame meter => Chosen frame meter decision) (fun _ => Failing)
      { frame with step } (meter.read now) :=
    meters_modelStep ⟨here.place, here.started, here.passages⟩
  apply Exec.wp_bind.mpr
  apply Exec.wp_modify.mpr
  apply Exec.wp_seq next
  case onRaise => exact fun _ _ _ failing => failing
  intro found frame meter chosen
  cases found with
  | none => exact chosen
  | some decision =>
      have here : At (.chosen decision) frame meter := chosen
      apply Exec.wp_bind.mpr
      apply meters_check (here.live rfl) here.started
      case onGuard =>
        intro loose
        rw [here.place] at loose
        cases loose
      case onDeadline => exact fun _ now => (here.read now).late rfl rfl
      intro now
      exact meters_act (here.read now) rfl rfl rfl rfl

/-- Where a run begins: the first turn may have a pending decision. -/
def Begins (loop : AgentLoop) (pending : Option Json) (frame : Frame) (meter : Meter) : Prop :=
  At (loop.entry pending) frame meter ∧ frame.phase.idle = true

theorem entry_settled (loop : AgentLoop) (pending : Option Json) :
    (loop.entry pending).live = true ∧ (loop.entry pending).due.settled = true ∧
      (loop.entry pending).clock.live = true ∧
      (loop.entry pending).clock.due.settled = true := by
  rcases loop.entry_cases pending with entry | ⟨decision, entry⟩ <;> rw [entry] <;>
    exact ⟨rfl, rfl, rfl, rfl⟩

theorem meters_replay {step : Int} {pending : Json}
    (begins : Begins loop (some pending) frame meter) :
    meters loop state (loop.turn step (some pending))
      (fun answer frame meter => Turned frame meter answer) (fun _ => Failing) frame meter := by
  obtain ⟨here, idle⟩ := begins
  obtain ⟨live, _, clockLive, settled⟩ := entry_settled loop (some pending)
  unfold turn
  apply Exec.wp_bind.mpr
  apply meters_check (here.live live) here.started
  case onGuard => exact fun _ now _ => (here.read now).failing idle clockLive settled
  case onDeadline => exact fun _ now => (here.read now).late clockLive settled
  intro now
  apply Exec.wp_bind.mpr
  apply Exec.wp_modify.mpr
  unfold nextDecision
  apply Exec.wp_bind.mpr
  apply Exec.wp_bind.mpr
  apply Exec.wp_ofExcept.mpr
  refine ⟨fun decision valid => ?_, fun _ _ => ?_⟩
  · have entry : loop.entry (some pending) = .opening decision := by
      simp only [AgentLoop.entry, validated_eq_ok.mp valid]
    rw [entry] at here
    have here : At (.opened decision) { frame with step } (meter.read now) :=
      ⟨(here.read now).place, here.started, here.passages⟩
    apply Exec.wp_pure.mpr
    apply Exec.wp_bind.mpr
    apply meters_check (here.live rfl) here.started
    case onGuard =>
      intro _ later _
      have here := here.read later
      exact here.failing idle rfl rfl
    case onDeadline =>
      intro _ later
      have here := here.read later
      exact here.late rfl rfl
    intro later
    have here := here.read later
    exact meters_act ⟨here.place, here.started, here.passages⟩ rfl rfl rfl rfl
  · have here := here.read now
    exact .of_idle idle (here.live clockLive) (here.settled settled)

/-- By induction on the steps that are left. -/
theorem meters_turns {steps : List Int} {pending : Option Json}
    (begins : Begins loop pending frame meter) :
    meters loop state (loop.turns steps pending) (fun _ _ meter => meter.place = .done)
      (fun _ => Failing) frame meter := by
  induction steps generalizing pending frame meter with
  | nil =>
      obtain ⟨here, idle⟩ := begins
      obtain ⟨live, _, clockLive, settled⟩ := entry_settled loop pending
      unfold turns
      apply Exec.wp_bind.mpr
      apply meters_check (here.live live) here.started
      case onGuard => exact fun _ now _ => (here.read now).failing idle clockLive settled
      case onDeadline => exact fun _ now => (here.read now).late clockLive settled
      intro now
      have here := here.read now
      apply Exec.wp_bind.mpr
      apply Exec.wp_modify.mpr
      exact .of_idle rfl (here.live clockLive) (here.settled settled)
  | cons step steps induction =>
      have turned : meters loop state (loop.turn step pending)
          (fun answer frame meter => Turned frame meter answer) (fun _ => Failing) frame meter := by
        cases pending with
        | none => exact meters_turn begins
        | some pending => exact meters_replay begins
      unfold turns
      apply Exec.wp_seq turned
      case onRaise => exact fun _ _ _ failing => failing
      intro answer frame meter turned
      cases answer with
      | some answer => exact turned
      | none => exact induction turned

/-! ## Runs -/

theorem meters_body (begins : Begins loop (pendingOf frame.state) frame meter) :
    meters loop state loop.body (fun _ _ meter => meter.place = .done) (fun _ => Failing) frame
      meter := by
  obtain ⟨here, idle⟩ := begins
  obtain ⟨live, settled, _⟩ := entry_settled loop (pendingOf frame.state)
  have failing := here.failing idle live settled
  unfold body
  apply Exec.wp_bind.mpr
  apply Exec.wp_get.mpr
  apply Exec.wp_bind.mpr
  apply Exec.wp_raiseIf.mpr
  refine ⟨fun _ => ?_, fun _ => failing⟩
  apply Exec.wp_bind.mpr
  apply Exec.wp_ofExcept.mpr
  refine ⟨fun history _ => ?_, fun _ _ => failing⟩
  apply Exec.wp_bind.mpr
  apply Exec.wp_modify.mpr
  exact meters_turns ⟨⟨here.place, here.started, here.passages⟩, idle⟩

theorem restored_frame {started : Time} (restored : loop.restore state started = .ok frame) :
    frame.started = started ∧ frame.phase.idle = true := by
  unfold restore at restored
  simp only [Outcome.bind_eq_ok] at restored
  obtain ⟨_, _, _, _, _, _, _, _, _, _, same⟩ := restored
  cases same
  exact ⟨rfl, rfl⟩

theorem run_metered (loop : AgentLoop) (state : Dict) :
    (loop.metered state).Obeys (fun _ meter => meter.place = .done) (loop.run.run state) {} := by
  have obeys : Exec.wp (loop.metered state) loop.run (fun _ _ meter => meter.place = .done)
      (fun _ _ meter => meter.place = .done) state {} := by
    unfold run
    apply Exec.wp_bind.mpr
    apply Exec.wp_ask.mpr
    refine ⟨nofun, fun (started : Time) admitted => ?_⟩
    have restores : (loop.restore state started).isOk = true := by
      simpa [AgentLoop.metered, Meter.calm] using admitted
    show Exec.wp (loop.metered state) _ _ _ state (Meter.opened loop state started)
    apply Exec.wp_bind.mpr
    apply Exec.wp_get.mpr
    apply Exec.wp_bind.mpr
    apply Exec.wp_ofExcept.mpr
    refine ⟨fun frame restored => ?restored, fun error failed => ?failed⟩
    case failed =>
      rw [failed] at restores
      cases restores
    apply Exec.wp_zoom.mpr
    apply Exec.wp_tryCatch.mpr
    have opened := restored_frame restored
    have begins : Begins loop (pendingOf state) { frame with state }
        (Meter.opened loop state started) := by
      refine ⟨⟨rfl, opened.1, ?_⟩, opened.2⟩
      simp only [Meter.opened, restored]
    exact Exec.wp_mono (meters_body begins) (fun _ _ _ done => done) fun _ _ _ failing =>
      meters_failed failing
  refine Monitor.Obeys.mono obeys ?_
  rintro ⟨outcome, last⟩ meter ends
  cases outcome <;> exact ends

end Loop

end Counting

/-- In a run that restores its checkpoint, and in which no guard, deadline or
checkpoint raises where that is counted as a call, every call is counted once, by
whether its result was accepted, and so is the run. -/
theorem operations_counted_once (loop : AgentLoop) (state : Dict) {events : List (Event Reply)}
    {out : Except Exc AgentAnswer × Dict} (plays : (loop.run.run state).Plays events out)
    (calm : (loop.metered state).Admits {} events) : CountedOnce loop state events := by
  obtain ⟨permits, done⟩ := (Counting.run_metered loop state).plays plays calm
  exact countedOnce_of_permits permits done

/-! A run whose model answers at once, and the same run, cancelled after the model's
answer was counted. -/

namespace Sample

def prompt : AgentLoop :=
  { loop with
    provider := fun _ _ _ _ =>
      return .obj [("type", .str "final_answer"), ("answer", .str "Done")] }

def cancelling : Nat → (request : Request) → Reply request
  | 4, .control (.guard _) =>
      (Except.error (.runCancelled "cancelled") : Except RunStoreError Time)
  | _, request => others request

def prompted (replies : Nat → (request : Request) → Reply request) :
    List (Event Reply) × Program Reply (Except Exc AgentAnswer × Dict) :=
  (prompt.run.run []).play replies 20

end Sample

open Sample in
theorem operations_counted_once_prompt :
    CountedOnce prompt [] (prompted fun _ => others).1 := by
  have ends : (prompted fun _ => others).2.value?.isSome = true := by decide +kernel
  obtain ⟨out, ended⟩ := Option.isSome_iff_exists.mp ends
  have calm : (prompt.metered []).Admits {} (prompted fun _ => others).1 := by decide +kernel
  exact operations_counted_once prompt [] (Program.play_plays ended) calm

open Sample in
/-- A cancellation that is found right after the model has answered counts the one
call of the model twice. -/
theorem cancelled_run_counts_twice :
    ¬∀ (loop : AgentLoop) (state : Dict) (events : List (Event Reply))
      (out : Except Exc AgentAnswer × Dict), (loop.run.run state).Plays events out →
        CountedOnce loop state events := by
  intro once
  have ends : (prompted cancelling).2.value?.isSome = true := by decide +kernel
  obtain ⟨out, ended⟩ := Option.isSome_iff_exists.mp ends
  have counted := (once prompt [] _ out (Program.play_plays ended)).model
  have calls : (prompted cancelling).1.countP (fun event => event.request.callsModel) = 1 := by
    decide +kernel
  have observed :
      (prompted cancelling).1.countP (fun event => event.request.observes .model) = 2 := by
    decide +kernel
  have equal := observed.symm.trans (counted.trans calls)
  cases equal

end Crewos.Agent

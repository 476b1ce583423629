import Crewos.Agent.Keeping

/-! # What a recovery follows

What the loop is dealing with, read off the events of an attempt: a model at
work, a tool call that is chosen, handed to the dispatcher or in its handler. A
recovery is counted after a model call, and after a tool call only when the
dispatcher refused it or its handler raised. -/

namespace Crewos.Agent

open Foundation RunStore

/-! ## What the loop is dealing with -/

inductive Dealing where
  | nothing
  /-- The provider or the reviewer is at work. -/
  | model
  | chosen (decision : ToolCallDecision)
  | dispatched (decision : ToolCallDecision)
  | entered (tool : String) (outcome : Except Exc ToolResult)

/-- The dictionary an attempt was given or last saved, and what it deals with. -/
structure Conduct where
  checkpoint : Dict
  dealing : Dealing

def Conduct.next (lease : Lease) (conduct : Conduct) : Event Reply → Conduct
  | ⟨.control (.checkpoint holder _ saved), reply⟩ =>
      match (reply : Except RunStoreError Unit) with
      | .ok () => if holder = lease then { conduct with checkpoint := saved } else conduct
      | .error _ => conduct
  | ⟨.decide _ _ _ _, _⟩ => { conduct with dealing := .model }
  | ⟨.review _ _ _ _, _⟩ => { conduct with dealing := .model }
  | ⟨.decided _ _ (.toolCall decision), _⟩ => { conduct with dealing := .chosen decision }
  | ⟨.dispatch _ _ decision, _⟩ => { conduct with dealing := .dispatched decision }
  | ⟨.handle tool _ _, outcome⟩ => { conduct with dealing := .entered tool outcome }
  | _ => conduct

namespace AgentLoop

/-- A loop that is given a dictionary deals with the call it has pending. -/
def conduct (loop : AgentLoop) (dict : Dict) : Conduct where
  checkpoint := dict
  dealing :=
    match (pendingOf dict).bind (ModelDecision.validate loop.answerMode) with
    | some (.toolCall decision) => .chosen decision
    | _ => .nothing

def conductAfter (loop : AgentLoop) (dict : Dict) (events : List (Event Reply)) : Conduct :=
  events.foldl (Conduct.next loop.control.lease) (loop.conduct dict)

/-- The error is never told to the model, or the checkpoint has no recovery left. -/
def Stops (loop : AgentLoop) (dict : Dict) (error : Exc) : Prop :=
  toolRecoverable false error = false ∨
    ∃ used, counter dict "recoveries" = .ok used ∧ loop.control.maxRecoveries ≤ used

/-- What may be recovered from. A tool call is excused when its name is unknown,
when its arguments are refused before the handler, or when its handler raised; a
handler that must not be replayed, only when its error does not stop the loop. -/
def Excuses (loop : AgentLoop) (conduct : Conduct) : Prop :=
  match conduct.dealing with
  | .nothing => False
  | .model => True
  | .chosen decision => ∃ error, Tools.find loop.tools decision.name.value = .error error
  | .dispatched decision => ∃ tool, Tools.find loop.tools decision.name.value = .ok tool ∧
      tool.accepts decision.arguments = false
  | .entered tool outcome => ∃ error, outcome = .error error ∧
      (Tools.replaySafe loop.tools tool = .ok false → ¬loop.Stops conduct.checkpoint error)

/-- The checkpoint that counts a recovery. -/
def Recovers (loop : AgentLoop) (request : Request) : Prop :=
  ∃ saved, request = .control (.checkpoint loop.control.lease .recovery saved)

def Tracks (loop : AgentLoop) : Protocol Reply Conduct := fun conduct event after =>
  after = conduct.next loop.control.lease event ∧
    (loop.Recovers event.request → loop.Excuses conduct)

end AgentLoop

section Loop

open AgentLoop

variable {loop : AgentLoop} {frame : Frame} {conduct : Conduct}

theorem Conduct.next_neutral {lease : Lease} (conduct : Conduct) {event : Event Reply}
    (neutral : event.request.neutral = true) : conduct.next lease event = conduct := by
  obtain ⟨request, reply⟩ := event
  rcases request with request | _
  · cases request <;> first | rfl | cases neutral
  all_goals first | rfl | cases neutral

theorem tracks_quiet (conduct : Conduct) : Quiet loop.Tracks conduct := by
  refine fun event neutral => ⟨(conduct.next_neutral neutral).symm, ?_⟩
  rintro ⟨saved, same⟩
  rw [same] at neutral
  cases neutral

theorem tracks_of_not_recovers {event : Event Reply} (other : ¬loop.Recovers event.request) :
    loop.Tracks conduct event (conduct.next loop.control.lease event) :=
  ⟨rfl, fun recovers => absurd recovers other⟩

theorem tracks_survives : Survives loop.Tracks loop.control.lease fun _ _ => True where
  still event still _ := by
    refine ⟨_, tracks_of_not_recovers ?_, trivial⟩
    rintro ⟨saved, same⟩
    rw [same] at still
    cases still
  guards _ _ := ⟨_, tracks_of_not_recovers (by rintro ⟨saved, same⟩; cases same), trivial⟩
  saves site simple saved reply _ := by
    refine ⟨_, tracks_of_not_recovers ?_, trivial⟩
    rintro ⟨other, same⟩
    cases same
    cases simple

abbrev Plain {α : Type} (loop : AgentLoop) (computation : LoopExec α) : Prop :=
  LoopKeeps loop.Tracks (fun _ _ => True) computation

theorem plain_modify (change : Frame → Frame) : Plain loop (modify change) :=
  .modify fun _ _ _ => trivial

abbrev trackLeads {State α : Type} (loop : AgentLoop) (computation : Exec Reply Exc State α)
    (returned : α → State → Conduct → Prop) (raised : Exc → State → Conduct → Prop)
    (state : State) (conduct : Conduct) : Prop :=
  Exec.leads loop.Tracks computation returned raised state conduct

theorem Stern.not_modelRecoverable {error : Exc} (stern : Stern error) :
    modelRecoverable error = false := by
  cases stern <;> rfl

theorem Stern.not_toolRecoverable {error : Exc} (stern : Stern error) (safe : Bool) :
    toolRecoverable safe error = false := by
  cases stern <;> rfl

/-! ## Recoveries -/

def MayRecover (loop : AgentLoop) (dict : Dict) (conduct : Conduct) : Prop :=
  ∀ used, counter dict "recoveries" = .ok used → used < loop.control.maxRecoveries →
    loop.Excuses conduct

theorem track_recover (may : MayRecover loop frame.state conduct) :
    trackLeads loop (inControl loop.control.recover) (fun _ _ _ => True) (fun _ _ _ => True) frame
      conduct := by
  refine leads_inControl ?_
  unfold Control.recover
  refine Exec.leads_seq (Exec.leads_get (Exec.leads_seq (Exec.leads_ofExcept
    (fun used counted => Exec.leads_ite (fun _ => trivial) fun left_ => ?_) fun _ _ => trivial)))
  refine Exec.leads_seq (leads_persist fun reply => ⟨_, ⟨rfl, fun _ => ?_⟩, fun _ _ => trivial,
    fun _ => trivial⟩)
  exact may used counted (not_le.mp left_)

theorem track_recoverModel {error : Exc}
    (asked : modelRecoverable error = true → conduct.dealing = .model) :
    trackLeads loop (loop.recoverModel error) (fun found _ _ => found = none) (fun _ _ _ => True)
      frame conduct := by
  unfold recoverModel
  refine Exec.leads_seq (Exec.leads_raiseIf (fun recoverable => ?_) fun _ => trivial)
  have may : MayRecover loop frame.state conduct := fun _ _ _ => by
    rw [Excuses, asked (by simpa using recoverable)]
    trivial
  refine Exec.leads_bind (track_recover may) fun _ frame conduct _ => ?_
  refine Exec.leads_seq (Exec.leads_raiseIf (fun _ => ?_) fun _ => trivial)
  refine Exec.leads_seq (Exec.leads_get (Exec.leads_seq (leads_measure (tracks_quiet _) ?_)))
  refine Exec.leads_seq (Exec.leads_modify (Exec.leads_seq (Exec.leads_modify ?_)))
  exact Exec.leads_bind (keeps_checkpoint tracks_survives _ _ _ _ trivial) fun _ _ _ _ => rfl

theorem track_recoverTool (decision : ToolCallDecision) {error : Exc}
    (may : toolRecoverable frame.safeReplay error = true → MayRecover loop frame.state conduct) :
    trackLeads loop (loop.recoverTool decision error) (fun _ _ _ => True) (fun _ _ _ => True) frame
      conduct := by
  unfold recoverTool
  refine Exec.leads_seq (Exec.leads_get (Exec.leads_seq (Exec.leads_raiseIf
    (fun recoverable => ?_) fun _ => trivial)))
  refine Exec.leads_bind (track_recover (may (by simpa using recoverable)))
    fun _ later conduct _ => ?_
  have rest : Plain loop (do
      measure .tool .error frame.phaseStarted
      setPhase .recovery
      remember (toolMessages decision
        [("name", .str (Tools.safeName loop.tools decision.name.value)),
          ("error", .str "tool_unavailable_or_invalid_arguments")])
      loop.checkpoint .null false
      return (none : Option ToolResult)) :=
    .bind (keeps_measure tracks_survives _ _ _) fun _ => .bind (plain_modify _) fun _ =>
      .bind (plain_modify _) fun _ => .bind (keeps_checkpoint tracks_survives _ _) fun _ =>
      .pure _
  exact Exec.leads_seq (Exec.leads_raiseIf (fun _ => rest _ _ trivial) fun _ => trivial)

/-! ## Model calls -/

theorem track_collaborator {α : Type} (computation : ControlExec α) :
    Exec.Keeps (controlOf loop.Tracks) (fun _ conduct => conduct.dealing = .model) computation := by
  refine .any fun conduct event asked => ⟨_, ⟨rfl, fun _ => by rw [Excuses, asked]; trivial⟩, ?_⟩
  obtain ⟨request, reply⟩ := event
  cases request with
  | checkpoint lease site saved =>
      show (Conduct.next loop.control.lease conduct
        ⟨.control (.checkpoint lease site saved), reply⟩).dealing = .model
      rcases reply with error | accepted
      · exact asked
      · unfold Conduct.next
        dsimp only
        split <;> exact asked
  | _ => exact asked

theorem track_call {α : Type} {computation : ControlExec α} (asked : conduct.dealing = .model) :
    trackLeads loop (inControl computation) (fun _ _ conduct => conduct.dealing = .model)
      (fun _ _ conduct => conduct.dealing = .model) frame conduct :=
  leads_inControl (track_collaborator computation frame.state conduct asked)

def Chooses (conduct : Conduct) (found : Option ModelDecision) : Prop :=
  ∀ decision, found = some (.toolCall decision) → conduct.dealing = .chosen decision

theorem track_askModel (loop : AgentLoop) (frame : Frame) (conduct : Conduct) :
    trackLeads loop loop.askModel (fun found _ conduct => Chooses conduct found)
      (fun error _ conduct => modelRecoverable error = true → conduct.dealing = .model) frame
      conduct := by
  unfold askModel
  refine Exec.leads_seq (leads_remainingSeconds (tracks_quiet _) (fun timeout _ => ?_)
    fun error _ stern recoverable => ?_)
  · refine Exec.leads_seq (Exec.leads_get (Exec.leads_seq (Exec.leads_ask fun reply => ?_)))
    refine ⟨_, tracks_of_not_recovers nofun, ?_⟩
    refine Exec.leads_bind (Exec.leads_mono (track_call rfl) (fun _ _ _ asked => asked)
      fun _ _ _ asked _ => asked) fun proposal frame conduct asked => ?_
    refine Exec.leads_seq (Exec.leads_ofExcept (fun decision _ => ?_) fun _ _ _ => asked)
    refine Exec.leads_seq (Exec.leads_ask fun reply => ⟨_, tracks_of_not_recovers nofun, ?_⟩)
    rintro _ ⟨⟩
    rfl
  · rw [stern.not_modelRecoverable] at recoverable
    cases recoverable

theorem track_modelStep (loop : AgentLoop) (frame : Frame) (conduct : Conduct) :
    trackLeads loop loop.modelStep (fun found _ conduct => Chooses conduct found)
      (fun _ _ _ => True) frame conduct := by
  unfold modelStep
  refine Exec.leads_bind (keeps_startPhase tracks_survives _ _ _ trivial) fun _ frame conduct _ => ?_
  refine Exec.leads_bind (keeps_checkpoint tracks_survives _ _ _ _ trivial)
    fun _ frame conduct _ => ?_
  refine Exec.leads_bind (Exec.leads_tryCatch (track_askModel loop frame conduct)
    fun error frame conduct asked => Exec.leads_mono (track_recoverModel asked)
      (fun found _ conduct none => ?_) fun _ _ _ _ => trivial) fun found frame conduct chooses => ?_
  · subst none
    exact nofun
  · cases found with
    | none => exact nofun
    | some decision =>
        exact Exec.leads_seq (Exec.leads_get (Exec.leads_seq (leads_measure (tracks_quiet _)
          chooses)))

theorem plain_finalAnswer (answer : AgentAnswer) : Plain loop (loop.finalAnswer answer) := by
  have asks (request : DocumentReviewRequest) : Plain loop (loop.askReviewer request) := by
    unfold askReviewer
    refine .bind (keeps_remainingSeconds tracks_survives) fun timeout => .bind .get fun frame =>
      fun frame conduct _ => ?_
    refine Exec.leads_seq (Exec.leads_ask fun reply => ⟨_, tracks_of_not_recovers nofun, ?_⟩)
    refine Exec.leads_bind (Exec.leads_mono (track_call rfl) (fun _ _ _ _ => trivial)
      fun _ _ _ _ => trivial) fun proposal frame conduct _ => ?_
    have rest : Plain loop (do
        let review ← Exec.ofExcept (validated (DocumentReview.validate proposal))
        loop.checkDeadline
        let receipt ← Exec.ofExcept (reviewReceipt loop.library request review)
        inControl (loop.control.persist .review [("document_review", receipt)])) :=
      .bind (.ofExcept _) fun _ => .bind (keeps_checkDeadline tracks_survives) fun _ =>
        .bind (.ofExcept _) fun _ => keeps_inControl (keeps_persist tracks_survives rfl _)
    exact rest frame conduct trivial
  have checks : Plain loop (loop.checkAnswer answer) := by
    cases answer with
    | general answer => exact .bind .get fun _ => .ofExcept _
    | document answer =>
        exact .bind .get fun _ => .bind (.ofExcept _) fun _ => .bind (plain_modify _) fun _ =>
          .bind (keeps_ask tracks_survives rfl) fun _ => .bind (.ofExcept _) fun _ =>
          .bind (.tryCatch (asks _) fun _ =>
            .bind (keeps_measure tracks_survives _ _ _) fun _ => .throw _) fun _ =>
          keeps_measure tracks_survives _ _ _
  unfold finalAnswer
  exact .bind (plain_modify _) fun _ => .bind checks fun _ =>
    .bind (keeps_inControl (keeps_persist tracks_survives rfl _)) fun _ => .bind .get fun _ =>
    .bind (keeps_measure tracks_survives _ _ _) fun _ => .pure _

/-! ## Tool calls -/

def Failed (loop : AgentLoop) (error : Exc) (frame : Frame) (conduct : Conduct) : Prop :=
  toolRecoverable frame.safeReplay error = true → MayRecover loop frame.state conduct

theorem Failed.of_stern {error : Exc} (stern : Stern error) : Failed loop error frame conduct :=
  fun recoverable => by
    rw [stern.not_toolRecoverable] at recoverable
    cases recoverable

theorem Failed.of_excuses {error : Exc} (excuses : loop.Excuses conduct) :
    Failed loop error frame conduct := fun _ _ _ _ => excuses

theorem Failed.of_entered {tool : String} {error : Exc}
    (entered : conduct = ⟨frame.state, .entered tool (.error error)⟩)
    (flag : Tools.replaySafe loop.tools tool = .ok frame.safeReplay) :
    Failed loop error frame conduct := by
  subst entered
  refine fun recoverable used counted left_ => ⟨error, rfl, fun unsafe_ stops => ?_⟩
  rw [flag] at unsafe_
  have unsafeFlag : frame.safeReplay = false := by simpa using unsafe_
  rcases stops with final | ⟨other, same, spent⟩
  · rw [unsafeFlag, final] at recoverable
    cases recoverable
  · rw [counted] at same
    cases same
    omega

theorem find_name {tools : List ToolDefinition} {name : String} {tool : ToolDefinition}
    (found : Tools.find tools name = .ok tool) : tool.name = name := by
  unfold Tools.find at found
  split at found
  · rename_i selected search
    cases found
    simpa using List.find?_some search
  · cases found

theorem track_dispatch (decision : ToolCallDecision) (remaining : Time)
    (dispatched : conduct = ⟨frame.state, .dispatched decision⟩)
    (flag : Tools.replaySafe loop.tools decision.name.value = .ok frame.safeReplay) :
    trackLeads loop (loop.dispatch decision remaining) (fun _ _ _ => True) (Failed loop) frame
      conduct := by
  subst dispatched
  unfold dispatch
  cases search : Tools.find loop.tools decision.name.value with
  | error error =>
      rw [Tools.replaySafe, search] at flag
      cases flag
  | ok tool =>
      refine Exec.leads_seq (Exec.leads_pure (Exec.leads_seq (Exec.leads_raiseIf (fun _ => ?_)
        fun refused => .of_excuses ⟨tool, search, refused⟩)))
      refine Exec.leads_seq (Exec.leads_ask fun (outcome : Except Exc ToolResult) =>
        ⟨_, tracks_of_not_recovers nofun, ?_⟩)
      refine Exec.leads_ofExcept (fun _ _ => trivial) fun error same => ?_
      subst same
      exact .of_entered rfl ((find_name search).symm ▸ flag)

theorem track_callTool (decision : ToolCallDecision) (chosen : conduct.dealing = .chosen decision) :
    trackLeads loop (loop.callTool decision) (fun _ _ _ => True) (Failed loop) frame conduct := by
  unfold callTool
  refine Exec.leads_seq (Exec.leads_ofExcept (fun safeReplay flag => ?_) fun error unknown => ?_)
  · refine Exec.leads_seq (Exec.leads_modify (Exec.leads_seq (leads_checkpoint fun reply => ?_)))
    refine ⟨_, tracks_of_not_recovers nofun, fun error _ => .of_stern (.store error), ?_⟩
    rintro rfl
    refine Exec.leads_seq (leads_remainingSeconds (tracks_quiet _) (fun remaining _ => ?_)
      fun error _ stern => .of_stern stern)
    refine Exec.leads_seq (Exec.leads_get (Exec.leads_seq (Exec.leads_ask fun _ => ?_)))
    refine ⟨_, tracks_of_not_recovers nofun, Exec.leads_seq ?_⟩
    refine Exec.leads_mono (track_dispatch decision remaining ?_ flag) (fun _ _ _ _ => trivial)
      fun _ _ _ failed => failed
    simp only [Conduct.next, if_true]
  · refine .of_excuses ?_
    rw [Excuses, chosen]
    cases search : Tools.find loop.tools decision.name.value with
    | error cause => exact ⟨cause, search⟩
    | ok tool =>
        rw [Tools.replaySafe, search] at unknown
        cases unknown

theorem track_toolStep (decision : ToolCallDecision) (chosen : conduct.dealing = .chosen decision) :
    trackLeads loop (loop.toolStep decision) (fun _ _ _ => True) (fun _ _ _ => True) frame
      conduct := by
  unfold toolStep
  refine Exec.leads_seq (leads_startPhase (tracks_quiet _) fun now =>
    Exec.leads_seq (Exec.leads_modify ?_))
  refine Exec.leads_seq (leads_checkDeadline (tracks_quiet _) (Exec.leads_seq
    (Exec.leads_modify ?_)) fun _ _ _ => trivial)
  refine Exec.leads_bind (Exec.leads_tryCatch (track_callTool decision chosen)
    fun _ _ _ failed => track_recoverTool decision failed) fun result frame conduct _ => ?_
  cases result with
  | some result => exact keeps_recordResult tracks_survives _ _ _ _ trivial
  | none => trivial

/-! ## The whole loop -/

theorem track_turn (step : Int) {pending : Option Json}
    (chooses : ∀ proposal, pending = some proposal →
      Chooses conduct (ModelDecision.validate loop.answerMode proposal)) :
    trackLeads loop (loop.turn step pending) (fun _ _ _ => True) (fun _ _ _ => True) frame
      conduct := by
  unfold turn
  refine Exec.leads_seq (leads_checkDeadline (tracks_quiet _) (Exec.leads_seq
    (Exec.leads_modify ?_)) fun _ _ _ => trivial)
  have decides (frame : Frame) : trackLeads loop (loop.nextDecision pending)
      (fun found _ conduct => Chooses conduct found) (fun _ _ _ => True) frame conduct := by
    cases pending with
    | none => exact track_modelStep loop frame conduct
    | some proposal =>
        refine Exec.leads_seq (Exec.leads_ofExcept (fun decision valid => ?_) fun _ _ => trivial)
        rintro call ⟨⟩
        exact chooses proposal rfl call (validated_eq_ok.mp valid)
  refine Exec.leads_bind (decides _) fun found frame conduct chooses => ?_
  cases found with
  | none => trivial
  | some decision =>
      refine Exec.leads_seq (leads_checkDeadline (tracks_quiet _) ?_ fun _ _ _ => trivial)
      cases decision with
      | answer answer =>
          exact Exec.leads_bind (plain_finalAnswer answer _ _ trivial) fun _ _ _ _ => trivial
      | toolCall decision =>
          exact Exec.leads_bind (track_toolStep decision (chooses _ rfl)) fun _ _ _ _ => trivial

theorem track_turns (steps : List Int) {pending : Option Json}
    (chooses : ∀ proposal, pending = some proposal →
      Chooses conduct (ModelDecision.validate loop.answerMode proposal)) :
    trackLeads loop (loop.turns steps pending) (fun _ _ _ => True) (fun _ _ _ => True) frame
      conduct := by
  induction steps generalizing pending frame conduct with
  | nil =>
      exact Exec.leads_seq (leads_checkDeadline (tracks_quiet _)
        (Exec.leads_seq (Exec.leads_modify trivial)) fun _ _ _ => trivial)
  | cons step steps induction =>
      unfold turns
      refine Exec.leads_bind (track_turn step chooses) fun answer frame conduct _ => ?_
      cases answer with
      | some answer => trivial
      | none => exact induction fun _ none => by cases none

theorem conduct_chooses (loop : AgentLoop) (dict : Dict) {proposal : Json}
    (pending : pendingOf dict = some proposal) :
    Chooses (loop.conduct dict) (ModelDecision.validate loop.answerMode proposal) := by
  intro decision valid
  unfold conduct
  simp only [pending, Option.bind_some, valid]

theorem restore_state {dict : Dict} {started : Time}
    (restored : loop.restore dict started = .ok frame) : frame.state = dict := by
  unfold restore at restored
  simp only [bind, Except.bind, pure, Except.pure] at restored
  repeat' split at restored
  all_goals cases restored
  rfl

theorem track_body (fresh : conduct = loop.conduct frame.state) :
    trackLeads loop loop.body (fun _ _ _ => True) (fun _ _ _ => True) frame conduct := by
  subst fresh
  unfold AgentLoop.body
  refine Exec.leads_seq (Exec.leads_get (Exec.leads_seq (Exec.leads_raiseIf (fun _ => ?_)
    fun _ => trivial)))
  refine Exec.leads_seq (Exec.leads_ofExcept (fun history _ => Exec.leads_seq (Exec.leads_modify
    ?_)) fun _ _ => trivial)
  exact track_turns _ fun proposal pending => conduct_chooses loop frame.state pending

theorem track_run (loop : AgentLoop) (dict : Dict) :
    trackLeads loop loop.run (fun _ _ _ => True) (fun _ _ _ => True) dict (loop.conduct dict) := by
  unfold run
  refine Exec.leads_seq (Exec.leads_ask fun started => ⟨_, tracks_quiet _ ⟨.perfCounter, _⟩ rfl, ?_⟩)
  refine Exec.leads_seq (Exec.leads_get (Exec.leads_seq (Exec.leads_ofExcept
    (fun frame restored => ?_) fun _ _ => trivial)))
  refine Exec.leads_zoom (Exec.leads_tryCatch (track_body (restore_state restored ▸ rfl))
    fun error frame conduct _ => keeps_failed tracks_survives error _ _ trivial)

end Loop

end Crewos.Agent

import Crewos.Agent.Runner
import Crewos.Agent.Rules

/-! # Assertions that last through the loop

An assertion of the checkpoint dictionary and the state of a protocol lasts when
no request but a checkpoint can break it, and a checkpoint leaves it true of the
dictionary that was to be written, accepted or not. Every step of the control,
of the adapters and of the loop then keeps it. The loop itself neither calls a model
nor reserves for the call, so it also keeps what only the adapters break. -/

namespace Crewos.Agent

open Foundation RunStore

/-- Requests that neither go to the store nor enter the handler of a tool. -/
def Request.mild : Request → Bool
  | .control (.guard _) | .control (.checkpoint _ _ _) | .claim _ | .finish _ _ _ _ | .get _ _
  | .handle _ _ _ => false
  | _ => true

/-- The assertion survives what a control with this lease asks for. -/
structure Lasts {Ghost : Type} (protocol : Protocol Reply Ghost) (lease : Lease)
    (holds : Dict → Ghost → Prop) : Prop where
  mild : ∀ {state ghost} (event : Event Reply), event.request.mild = true → holds state ghost →
    ∃ next, protocol ghost event next ∧ holds state next
  guards : ∀ {state ghost} (reply : Except RunStoreError Time), holds state ghost →
    ∃ next, protocol ghost ⟨.control (.guard lease), reply⟩ next ∧ holds state next
  saves : ∀ {state ghost} (site : Site) (saved : Dict) (reply : Except RunStoreError Unit),
    holds state ghost →
    ∃ next, protocol ghost ⟨.control (.checkpoint lease site saved), reply⟩ next ∧
      holds saved next

/-- Mild requests that call no model. -/
def Request.still : Request → Bool
  | .control (.invoke _) => false
  | request => request.mild

/-- The checkpoint neither meters nor counts a recovery. -/
def Site.simple : Site → Bool
  | .reserve _ _ | .reconcile _ _ _ _ | .recovery => false
  | _ => true

/-- The assertion survives what the loop asks for with this lease while nothing
is to be recovered. -/
structure Survives {Ghost : Type} (protocol : Protocol Reply Ghost) (lease : Lease)
    (holds : Dict → Ghost → Prop) : Prop where
  still : ∀ {state ghost} (event : Event Reply), event.request.still = true → holds state ghost →
    ∃ next, protocol ghost event next ∧ holds state next
  guards : ∀ {state ghost} (reply : Except RunStoreError Time), holds state ghost →
    ∃ next, protocol ghost ⟨.control (.guard lease), reply⟩ next ∧ holds state next
  saves : ∀ {state ghost} (site : Site), site.simple = true → ∀ (saved : Dict)
    (reply : Except RunStoreError Unit), holds state ghost →
    ∃ next, protocol ghost ⟨.control (.checkpoint lease site saved), reply⟩ next ∧
      holds saved next

/-- The assertion survives what the loop itself asks for with this lease. -/
structure Carries {Ghost : Type} (protocol : Protocol Reply Ghost) (lease : Lease)
    (holds : Dict → Ghost → Prop) : Prop extends Survives protocol lease holds where
  recovers : ∀ {state ghost} (saved : Dict) (reply : Except RunStoreError Unit),
    holds state ghost →
    ∃ next, protocol ghost ⟨.control (.checkpoint lease .recovery saved), reply⟩ next ∧
      holds saved next

theorem Request.mild_of_still {request : Request} (still : request.still = true) :
    request.mild = true := by
  unfold Request.still at still
  split at still
  · cases still
  · exact still

theorem Lasts.carries {Ghost : Type} {protocol : Protocol Reply Ghost} {lease : Lease}
    {holds : Dict → Ghost → Prop} (lasts : Lasts protocol lease holds) :
    Carries protocol lease holds where
  still event still here := lasts.mild event (Request.mild_of_still still) here
  guards := lasts.guards
  saves site _ saved reply here := lasts.saves site saved reply here
  recovers saved reply here := lasts.saves .recovery saved reply here

theorem Lasts.survives {Ghost : Type} {protocol : Protocol Reply Ghost} {lease : Lease}
    {holds : Dict → Ghost → Prop} (lasts : Lasts protocol lease holds) :
    Survives protocol lease holds := lasts.carries.toSurvives

section Control

variable {Ghost α : Type} {protocol : Protocol Reply Ghost} {holds : Dict → Ghost → Prop}
  {control : Control}

theorem keeps_controlAsk {lease : Lease} (survives : Survives protocol lease holds)
    {request : ControlRequest} (still : (Request.control request).still = true) :
    Exec.Keeps (controlOf protocol) holds (Control.ask request) :=
  .ask fun _ _ reply here => survives.still ⟨.control request, wideReply request reply⟩ still here

theorem keeps_stored (out : Except RunStoreError α) :
    Exec.Keeps (controlOf protocol) holds (Control.stored out) := .ofExcept _

theorem keeps_guard (survives : Survives protocol control.lease holds) :
    Exec.Keeps (controlOf protocol) holds control.guard := by
  unfold Control.guard
  have guarded : Exec.Keeps (controlOf protocol) holds
      (Control.ask (.guard control.lease)) :=
    .ask fun _ _ reply here => survives.guards reply here
  refine .bind (keeps_controlAsk survives rfl) fun found => .bind ?_ fun _ =>
    .bind guarded fun _ => .bind (keeps_stored _) fun _ => .bind (.raiseIf _ _) fun _ => .pure _
  cases found with
  | some error => exact .throw _
  | none => exact .pure _

theorem keeps_saved {site : Site} (saves : ∀ {state ghost} (saved : Dict)
      (reply : Except RunStoreError Unit), holds state ghost →
      ∃ next, protocol ghost ⟨.control (.checkpoint control.lease site saved), reply⟩ next ∧
        holds saved next) (updates : Dict) :
    Exec.Keeps (controlOf protocol) holds (control.persist site updates) := by
  intro state ghost here
  refine leads_persist fun reply => ?_
  obtain ⟨next, step, kept⟩ := saves (state.update updates) reply here
  exact ⟨next, step, fun _ _ => kept, fun _ => kept⟩

theorem keeps_persist (survives : Survives protocol control.lease holds) {site : Site}
    (simple : site.simple = true) (updates : Dict) :
    Exec.Keeps (controlOf protocol) holds (control.persist site updates) :=
  keeps_saved (survives.saves site simple) updates

theorem keeps_reserve (lasts : Lasts protocol control.lease holds)
    (inputTokens outputTokens : Int) :
    Exec.Keeps (controlOf protocol) holds (control.reserve inputTokens outputTokens) := by
  unfold Control.reserve
  exact .bind (.raiseIf _ _) fun _ => .bind (keeps_guard lasts.survives) fun _ => .bind .get fun _ =>
    .bind (.ofExcept _) fun _ => .bind (.ofExcept _) fun _ => .bind (.raiseIf _ _) fun _ =>
    keeps_saved (lasts.saves _) _

theorem keeps_reconcile (lasts : Lasts protocol control.lease holds)
    (inputTokens outputTokens : Json) (reservedInput reservedOutput : Int) :
    Exec.Keeps (controlOf protocol) holds
      (control.reconcile inputTokens outputTokens reservedInput reservedOutput) := by
  unfold Control.reconcile
  split
  · exact .bind .get fun _ => .bind (.ofExcept _) fun _ => .bind (.ofExcept _) fun _ =>
      .bind (.ofExcept _) fun _ => .bind (.ofExcept _) fun _ =>
      .bind (keeps_saved (lasts.saves _) _) fun _ => .raiseIf _ _
  · exact .pure _

theorem keeps_recover (carries : Carries protocol control.lease holds) :
    Exec.Keeps (controlOf protocol) holds control.recover := by
  unfold Control.recover
  refine .bind .get fun _ => .bind (.ofExcept _) fun used => .ite ?_ ?_
  · exact .pure _
  · exact .bind (keeps_saved carries.recovers _) fun _ => .pure _

/-! ## The adapters -/

theorem keeps_invoke {lease : Lease} (lasts : Lasts protocol lease holds) (call : ModelCall) :
    Exec.Keeps (controlOf protocol) holds (invoke call) :=
  .bind (.ask fun _ _ reply here => lasts.mild ⟨.control (.invoke call), reply⟩ rfl here)
    fun _ => .ofExcept _

theorem keeps_reconcileUsage (lasts : Lasts protocol control.lease holds)
    (response : ModelResponse) (reservedInput reservedOutput : Int) :
    Exec.Keeps (controlOf protocol) holds
      (reconcileUsage control response reservedInput reservedOutput) := by
  unfold reconcileUsage
  split
  · split
    · exact keeps_reconcile lasts _ _ _ _
    · exact .pure _
  · exact .pure _

theorem keeps_decide (settings : Settings) (mode : AnswerMode)
    (lasts : Lasts protocol control.lease holds) (messages : List DecisionMessage)
    (tools : List ToolSchema) (timeout : Time) :
    Exec.Keeps (controlOf protocol) holds
      (JsonDecisionAdapter.decide settings mode control messages tools timeout) := by
  unfold JsonDecisionAdapter.decide
  refine .bind (.raiseIf _ _) fun _ => ?_
  refine .bind (keeps_reserve lasts _ _) fun _ => ?_
  refine .bind (keeps_invoke lasts _) fun response => ?_
  exact .bind (keeps_reconcileUsage lasts response _ _) fun _ => .ofExcept _

theorem keeps_review (settings : Settings) (lasts : Lasts protocol control.lease holds)
    (request : DocumentReviewRequest) (timeout : Time) :
    Exec.Keeps (controlOf protocol) holds
      (JsonDocumentAnswerReviewer.review settings control request timeout) := by
  unfold JsonDocumentAnswerReviewer.review
  dsimp only
  generalize JsonDocumentAnswerReviewer.instructions settings = instructions,
    Json.render Json.compact request.dump = payload
  refine .bind (.raiseIf _ _) fun _ => ?_
  refine .bind (.raiseIf _ _) fun _ => ?_
  refine .bind (keeps_guard lasts.survives) fun _ => ?_
  refine .bind (keeps_reserve lasts _ _) fun _ => ?_
  refine .bind (keeps_invoke lasts _) fun response => ?_
  refine .bind (keeps_guard lasts.survives) fun _ => ?_
  exact .bind (keeps_reconcileUsage lasts response _ _) fun _ => .ofExcept _

end Control

theorem keeps_liftControl {Ghost α : Type} {protocol : Protocol Reply Ghost}
    {holds : Dict → Ghost → Prop} {computation : ControlExec α}
    (keeps : Exec.Keeps (controlOf protocol) holds computation) :
    Exec.Keeps protocol holds (liftControl computation) :=
  fun state ghost here => Exec.leads_embed (fun _ _ => rfl) (keeps state ghost here)

/-! ## The loop -/

/-- The assertion lasts through whatever the loop's collaborators do. -/
structure AgentLoop.Lasting {Ghost : Type} (loop : AgentLoop) (protocol : Protocol Reply Ghost)
    (holds : Dict → Ghost → Prop) : Prop where
  lasts : Lasts protocol loop.control.lease holds
  provider : ∀ messages tools timeout,
    Exec.Keeps (controlOf protocol) holds (loop.provider loop.control messages tools timeout)
  reviewer : ∀ request timeout,
    Exec.Keeps (controlOf protocol) holds (loop.reviewer loop.control request timeout)

/-- The loop carries the assertion, and its collaborators keep it. The reviewer is
asked right after the event that says so. -/
structure AgentLoop.Carrying {Ghost : Type} (loop : AgentLoop) (protocol : Protocol Reply Ghost)
    (holds : Dict → Ghost → Prop) : Prop where
  carries : Carries protocol loop.control.lease holds
  provider : ∀ messages tools timeout,
    Exec.Keeps (controlOf protocol) holds (loop.provider loop.control messages tools timeout)
  reviewer : ∀ {state ghost} (runId : String) (step : Int) (request : DocumentReviewRequest)
    (timeout : Time), holds state ghost →
    ∃ next, protocol ghost ⟨.review runId step request timeout, ()⟩ next ∧
      Exec.leads (controlOf protocol) (loop.reviewer loop.control request timeout)
        (fun _ => holds) (fun _ => holds) state next

theorem AgentLoop.Carrying.survives {Ghost : Type} {loop : AgentLoop}
    {protocol : Protocol Reply Ghost} {holds : Dict → Ghost → Prop}
    (carrying : loop.Carrying protocol holds) : Survives protocol loop.control.lease holds :=
  carrying.carries.toSurvives

theorem AgentLoop.Lasting.carrying {Ghost : Type} {loop : AgentLoop}
    {protocol : Protocol Reply Ghost} {holds : Dict → Ghost → Prop}
    (lasting : loop.Lasting protocol holds) : loop.Carrying protocol holds where
  carries := lasting.lasts.carries
  provider := lasting.provider
  reviewer runId step request timeout here := by
    obtain ⟨next, taken, kept⟩ :=
      lasting.lasts.mild ⟨.review runId step request timeout, ()⟩ rfl here
    exact ⟨next, taken, lasting.reviewer request timeout _ next kept⟩

section Loop

open AgentLoop

variable {Ghost α : Type} {protocol : Protocol Reply Ghost} {holds : Dict → Ghost → Prop}
  {loop : AgentLoop}

abbrev LoopKeeps (protocol : Protocol Reply Ghost) (holds : Dict → Ghost → Prop)
    (computation : LoopExec α) : Prop :=
  Exec.Keeps protocol (fun frame ghost => holds frame.state ghost) computation

theorem keeps_inControl {computation : ControlExec α}
    (keeps : Exec.Keeps (controlOf protocol) holds computation) :
    LoopKeeps protocol holds (inControl computation) :=
  fun frame ghost here => leads_inControl (keeps frame.state ghost here)

theorem keeps_ask {lease : Lease} (survives : Survives protocol lease holds) {request : Request}
    (still : request.still = true) : LoopKeeps protocol holds (AgentLoop.ask request) :=
  .ask fun _ _ reply here => survives.still ⟨request, reply⟩ still here

theorem keeps_frame {change : Frame → Frame} (same : ∀ frame, (change frame).state = frame.state) :
    LoopKeeps protocol holds (modify change) :=
  .modify fun frame _ here => by rwa [same frame]

theorem keeps_setPhase (phase : Phase) : LoopKeeps protocol holds (setPhase phase) :=
  keeps_frame fun _ => rfl

theorem keeps_remember (messages : List DecisionMessage) :
    LoopKeeps protocol holds (remember messages) := keeps_frame fun _ => rfl

section Survives

variable (survives : Survives protocol loop.control.lease holds)
include survives

theorem keeps_startPhase (phase : Phase) : LoopKeeps protocol holds (startPhase phase) :=
  .bind (keeps_ask survives rfl) fun _ => keeps_frame fun _ => rfl

theorem keeps_measure (operation : MetricOperation) (outcome : MetricOutcome) (since : Time) :
    LoopKeeps protocol holds (measure operation outcome since) :=
  .bind (keeps_ask survives rfl) fun _ => .bind (keeps_ask survives rfl) fun _ => .pure _

theorem keeps_remainingSeconds : LoopKeeps protocol holds loop.remainingSeconds := by
  unfold remainingSeconds
  refine .bind (keeps_ask survives rfl) fun _ =>
    .bind (keeps_inControl (keeps_guard survives)) fun _ => .bind .get fun frame => .ite ?_ ?_
  · exact .bind (keeps_setPhase _) fun _ => .throw _
  · exact .pure _

theorem keeps_checkDeadline : LoopKeeps protocol holds loop.checkDeadline :=
  .bind (keeps_remainingSeconds survives) fun _ => .pure _

theorem keeps_checkpoint (pending : Json) (replaySafe : Bool) :
    LoopKeeps protocol holds (loop.checkpoint pending replaySafe) :=
  .bind .get fun _ => keeps_inControl (keeps_persist survives rfl _)

omit survives in
theorem keeps_observe (decision : ToolCallDecision) (result : ToolResult) :
    LoopKeeps protocol holds (loop.observe decision result) := by
  unfold observe
  split
  · split
    · exact .bind .get fun _ => .bind (.ofExcept _) fun _ => keeps_frame fun _ => rfl
    · exact .pure _
  · exact .pure _

theorem keeps_recordResult (decision : ToolCallDecision) (result : ToolResult) :
    LoopKeeps protocol holds (loop.recordResult decision result) := by
  unfold recordResult
  exact .bind (keeps_observe _ _) fun _ => .bind (keeps_frame fun _ => rfl) fun _ =>
    .bind .get fun _ => .bind (keeps_measure survives _ _ _) fun _ =>
    .bind (keeps_checkDeadline survives) fun _ => .bind (keeps_startPhase survives _) fun _ =>
    .bind (keeps_remember _) fun _ => keeps_checkpoint survives _ _

theorem keeps_failed (error : Exc) : LoopKeeps protocol holds (failed error) := by
  have ends (frame : Frame) : LoopKeeps protocol holds (do
      measure .run (stopReason error) frame.started
      throw error : LoopExec AgentAnswer) :=
    .bind (keeps_measure survives _ _ _) fun _ => .throw _
  unfold failed
  refine .bind .get fun frame => ?_
  split <;> split
  · exact .bind (keeps_measure survives _ _ _) fun _ =>
      .bind (keeps_measure survives _ _ _) fun _ => ends frame
  · exact .bind (keeps_measure survives _ _ _) fun _ => ends frame
  · exact .bind (keeps_measure survives _ _ _) fun _ => ends frame
  · exact ends frame

end Survives

section Carries

variable (carries : Carries protocol loop.control.lease holds)
include carries

theorem keeps_recoverModel (error : Exc) :
    LoopKeeps protocol holds (loop.recoverModel error) := by
  unfold recoverModel
  exact .bind (.raiseIf _ _) fun _ => .bind (keeps_inControl (keeps_recover carries)) fun _ =>
    .bind (.raiseIf _ _) fun _ => .bind .get fun _ =>
    .bind (keeps_measure carries.toSurvives _ _ _) fun _ =>
    .bind (keeps_setPhase _) fun _ => .bind (keeps_remember _) fun _ =>
    .bind (keeps_checkpoint carries.toSurvives _ _) fun _ => .pure _

theorem keeps_recoverTool (decision : ToolCallDecision) (error : Exc) :
    LoopKeeps protocol holds (loop.recoverTool decision error) := by
  unfold recoverTool
  exact .bind .get fun _ => .bind (.raiseIf _ _) fun _ =>
    .bind (keeps_inControl (keeps_recover carries)) fun _ => .bind (.raiseIf _ _) fun _ =>
    .bind (keeps_measure carries.toSurvives _ _ _) fun _ => .bind (keeps_setPhase _) fun _ =>
    .bind (keeps_remember _) fun _ =>
    .bind (keeps_checkpoint carries.toSurvives _ _) fun _ => .pure _

end Carries

section Carrying

variable (carrying : loop.Carrying protocol holds)
include carrying

theorem keeps_askModel : LoopKeeps protocol holds loop.askModel := by
  unfold askModel
  exact .bind (keeps_remainingSeconds carrying.survives) fun _ => .bind .get fun _ =>
    .bind (keeps_ask carrying.survives rfl) fun _ =>
    .bind (keeps_inControl (carrying.provider _ _ _)) fun _ => .bind (.ofExcept _) fun _ =>
    .bind (keeps_ask carrying.survives rfl) fun _ => .pure _

theorem keeps_modelStep : LoopKeeps protocol holds loop.modelStep := by
  unfold modelStep
  refine .bind (keeps_startPhase carrying.survives _) fun _ =>
    .bind (keeps_checkpoint carrying.survives _ _) fun _ =>
    .bind (.tryCatch (keeps_askModel carrying) (keeps_recoverModel carrying.carries))
      fun decision => ?_
  cases decision with
  | none => exact .pure _
  | some decision =>
      exact .bind .get fun _ => .bind (keeps_measure carrying.survives _ _ _) fun _ => .pure _

theorem keeps_askReviewer (request : DocumentReviewRequest) :
    LoopKeeps protocol holds (loop.askReviewer request) := by
  unfold askReviewer
  refine .bind (keeps_remainingSeconds carrying.survives) fun timeout => .bind .get fun asking =>
    fun frame ghost here => ?_
  refine Exec.leads_seq (Exec.leads_ask fun reply => ?_)
  obtain ⟨next, taken, reviews⟩ :=
    carrying.reviewer loop.runId.text asking.step request timeout here
  have reviewed : Exec.leads protocol (inControl (loop.reviewer loop.control request timeout))
      (fun _ frame => holds frame.state) (fun _ frame => holds frame.state) frame next :=
    leads_inControl reviews
  refine ⟨next, taken, Exec.leads_bind reviewed fun proposal => ?_⟩
  have rest : LoopKeeps protocol holds (do
      let review ← Exec.ofExcept (validated (DocumentReview.validate proposal))
      loop.checkDeadline
      let receipt ← Exec.ofExcept (reviewReceipt loop.library request review)
      inControl (loop.control.persist .review [("document_review", receipt)])) :=
    .bind (.ofExcept _) fun _ => .bind (keeps_checkDeadline carrying.survives) fun _ =>
      .bind (.ofExcept _) fun _ => keeps_inControl (keeps_persist carrying.survives rfl _)
  exact rest

theorem keeps_checkAnswer (answer : AgentAnswer) :
    LoopKeeps protocol holds (loop.checkAnswer answer) := by
  cases answer with
  | general answer => exact .bind .get fun _ => .ofExcept _
  | document answer =>
      unfold checkAnswer reviewAnswer
      exact .bind .get fun _ => .bind (.ofExcept _) fun _ => .bind (keeps_setPhase _) fun _ =>
        .bind (keeps_ask carrying.survives rfl) fun _ => .bind (.ofExcept _) fun _ =>
        .bind (.tryCatch (keeps_askReviewer carrying _) fun _ =>
          .bind (keeps_measure carrying.survives _ _ _) fun _ => .throw _) fun _ =>
        keeps_measure carrying.survives _ _ _

theorem keeps_finalAnswer (answer : AgentAnswer) :
    LoopKeeps protocol holds (loop.finalAnswer answer) := by
  unfold finalAnswer
  exact .bind (keeps_setPhase _) fun _ => .bind (keeps_checkAnswer carrying _) fun _ =>
    .bind (keeps_inControl (keeps_persist carrying.survives rfl _)) fun _ => .bind .get fun _ =>
    .bind (keeps_measure carrying.survives _ _ _) fun _ => .pure _

end Carrying

section Handled

variable (carrying : loop.Carrying protocol holds)
  (handled : ∀ tool arguments remaining,
    LoopKeeps protocol holds (AgentLoop.ask (.handle tool arguments remaining)))
include carrying handled

omit carrying in
theorem keeps_dispatch (decision : ToolCallDecision) (remaining : Time) :
    LoopKeeps protocol holds (loop.dispatch decision remaining) := by
  unfold dispatch
  exact .bind (.ofExcept _) fun _ => .bind (.raiseIf _ _) fun _ =>
    .bind (handled _ _ _) fun _ => .ofExcept _

theorem keeps_callTool (decision : ToolCallDecision) :
    LoopKeeps protocol holds (loop.callTool decision) := by
  unfold callTool
  exact .bind (.ofExcept _) fun _ => .bind (keeps_frame fun _ => rfl) fun _ =>
    .bind (keeps_checkpoint carrying.survives _ _) fun _ =>
    .bind (keeps_remainingSeconds carrying.survives) fun _ => .bind .get fun _ =>
    .bind (keeps_ask carrying.survives rfl) fun _ => .bind (keeps_dispatch handled _ _) fun _ =>
    .pure _

theorem keeps_toolStep (decision : ToolCallDecision) :
    LoopKeeps protocol holds (loop.toolStep decision) := by
  unfold toolStep
  refine .bind (keeps_startPhase carrying.survives _) fun _ =>
    .bind (keeps_frame fun _ => rfl) fun _ => .bind (keeps_checkDeadline carrying.survives) fun _ =>
    .bind (keeps_frame fun _ => rfl) fun _ =>
    .bind (.tryCatch (keeps_callTool carrying handled _) (keeps_recoverTool carrying.carries _))
      fun result => ?_
  cases result with
  | some result => exact keeps_recordResult carrying.survives _ _
  | none => exact .pure _

theorem keeps_turn (step : Int) (pending : Option Json) :
    LoopKeeps protocol holds (loop.turn step pending) := by
  unfold turn
  refine .bind (keeps_checkDeadline carrying.survives) fun _ =>
    .bind (keeps_frame fun _ => rfl) fun _ => .bind ?_ fun decision => ?_
  · cases pending with
    | some pending => exact .bind (.ofExcept _) fun _ => .pure _
    | none => exact keeps_modelStep carrying
  · cases decision with
    | none => exact .pure _
    | some decision =>
        refine .bind (keeps_checkDeadline carrying.survives) fun _ => ?_
        cases decision with
        | answer answer => exact .bind (keeps_finalAnswer carrying _) fun _ => .pure _
        | toolCall decision => exact .bind (keeps_toolStep carrying handled _) fun _ => .pure _

theorem keeps_turns (steps : List Int) (pending : Option Json) :
    LoopKeeps protocol holds (loop.turns steps pending) := by
  induction steps generalizing pending with
  | nil =>
      exact .bind (keeps_checkDeadline carrying.survives) fun _ =>
        .bind (keeps_setPhase _) fun _ => .throw _
  | cons step steps induction =>
      unfold turns
      refine .bind (keeps_turn carrying handled _ _) fun answer => ?_
      cases answer with
      | some answer => exact .pure _
      | none => exact induction none

theorem keeps_run : Exec.Keeps protocol holds loop.run := by
  have body : LoopKeeps protocol holds loop.body := by
    unfold AgentLoop.body
    exact .bind .get fun _ => .bind (.raiseIf _ _) fun _ => .bind (.ofExcept _) fun _ =>
      .bind (keeps_frame fun _ => rfl) fun _ => keeps_turns carrying handled _ _
  unfold run
  refine .bind (.ask fun _ _ reply here => carrying.survives.still ⟨.perfCounter, reply⟩ rfl here)
    fun _ => .bind .get fun _ => .bind (.ofExcept _) fun frame => ?_
  exact .zoom (fun _ => .tryCatch body (keeps_failed carrying.survives)) fun _ _ here => here

end Handled

end Loop

end Crewos.Agent

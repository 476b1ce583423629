import Mathlib.Data.List.Dedup
import Crewos.Agent.Charging
import Crewos.Agent.Evidence

/-! # The loop follows the protocol

One statement for each stretch of the body of the loop, over what its local
variables say of the attempt, and the turns by induction on their number. -/

namespace Crewos.Agent

open Foundation RunStore

/-! ## Local variables -/

/-- The local variables of the loop say what the progress says. -/
structure Reflects (job : AgentRunJob) (history : List DecisionMessage)
    (sources : List SourceReference) (passages : List (SourceReference × RetrievedPassage))
    (searched : Bool) (question : String) (progress : Progress) : Prop where
  history : history = progress.history
  sources : ∀ source, source ∈ sources ↔ source ∈ progress.sources
  passages : passages = underSources progress.passages
  searched : searched = progress.searched
  question : question = job.message.value

/-- An attempt at work and the local variables of its loop. -/
structure InLoop (job : AgentRunJob) (control : Control) (stage : Stage) (decisions : Nat)
    (frame : Frame) (attempt : Attempt) : Prop where
  step : stage ≠ Stage.idle → frame.step = decisions
  control : attempt.control = control
  stage : attempt.stage = stage
  decisions : attempt.progress.decisions = decisions
  state : frame.state = attempt.dict
  tells : Tells job attempt.dict attempt.progress
  reflects : Reflects job frame.history frame.observedSources frame.observedPassages
    frame.documentSearchCompleted frame.documentQuestion attempt.progress

def Stands (job : AgentRunJob) (control : Control) (stage : Stage) (decisions : Nat) (frame : Frame)
    (standing : Standing) : Prop :=
  ∃ attempt, standing = .working attempt ∧ InLoop job control stage decisions frame attempt

def Rests (job : AgentRunJob) (control : Control) (decisions : Nat) (frame : Frame)
    (standing : Standing) : Prop :=
  ∃ attempt, standing = .working attempt ∧
    InLoop job control .idle decisions frame attempt ∧ attempt.progress.pending = none

def Broken (control : Control) (error : Exc) (standing : Standing) : Prop :=
  standing = .failing control.lease ∧ ∃ cause, error = .store cause

section Loop

variable {settings : Settings} {job : AgentRunJob} {control : Control} {remaining : Time}
  {decisions : Nat} {stage : Stage} {frame : Frame} {attempt : Attempt} {standing : Standing}

theorem InLoop.reports (inLoop : InLoop job control stage decisions frame attempt) :
    (Standing.working attempt).Reports control.lease :=
  inLoop.control ▸ .working

theorem Rests.reports (rests : Rests job control decisions frame standing) :
    standing.Reports control.lease := by
  obtain ⟨attempt, rfl, inLoop, _⟩ := rests
  exact inLoop.reports

theorem Broken.reports {error : Exc} (broken : Broken control error standing) :
    standing.Reports control.lease := by
  obtain ⟨rfl, _⟩ := broken
  exact .failing

abbrev loopLeads {α : Type} (settings : Settings) (job : AgentRunJob) (computation : LoopExec α)
    (returned : α → Frame → Standing → Prop) (raised : Exc → Frame → Standing → Prop)
    (frame : Frame) (standing : Standing) : Prop :=
  Exec.leads (Standing.Step settings job) computation returned raised frame standing

theorem leads_adapter {α : Type} {computation : ControlExec α}
    {returned : α → Frame → Standing → Prop} {raised : Exc → Frame → Standing → Prop}
    (inLoop : InLoop job control stage decisions frame attempt)
    (holds : chargeLeads settings job computation
      (fun _ dict standing => Works job attempt dict standing) (Stops job attempt) attempt.dict
      (.working attempt))
    (onReturn : ∀ value frame after, InLoop job control stage decisions frame after →
      after.progress = attempt.progress → returned value frame (.working after))
    (onStop : ∀ error frame after, InLoop job control stage decisions frame after →
      raised error frame (.working after))
    (onBreak : ∀ error frame standing, Broken control error standing →
      raised error frame standing) :
    loopLeads settings job (AgentLoop.inControl computation) returned raised frame
      (.working attempt) := by
  have still : ∀ dict after, Near attempt after → dict = after.dict →
      Tells job after.dict after.progress →
      InLoop job control stage decisions { frame with state := dict } after := by
    rintro dict after near rfl tells
    exact ⟨inLoop.step, near.control.trans inLoop.control, near.stage.trans inLoop.stage,
      near.progress ▸ inLoop.decisions, rfl, tells, near.progress ▸ inLoop.reflects⟩
  refine leads_inControl ?_
  rw [inLoop.state]
  refine Exec.leads_mono holds ?_ fun error dict standing stops => ?_
  · rintro value dict _ ⟨after, rfl, near, same, tells⟩
    exact onReturn _ _ _ (still _ _ near same tells) near.progress
  · rcases stops with ⟨after, rfl, near, same, tells⟩ | ⟨rfl, cause⟩
    · exact onStop _ _ _ (still _ _ near same tells)
    · exact onBreak _ _ _ ⟨by rw [inLoop.control], cause⟩

/-! ## Progress checkpoints -/

/-- The progress a checkpoint would save from these local variables. -/
def Frame.draft (frame : Frame) (decisions : Nat) (passages : List RetrievedPassage)
    (pending : Option ToolCallDecision) (replaySafe : Bool) (begun : pending ≠ none → 1 ≤ decisions)
    (distinct : (passages.map sourceKey).Nodup) : Progress :=
  { history := frame.history, decisions, toolCalls := frame.toolCalls,
    toolsCompleted := frame.toolsCompleted, pending, replaySafe,
    searched := frame.documentSearchCompleted, passages,
    sources := frame.observedSources.insertionSort fun left right =>
      SourceReference.before left right = true,
    begun, distinct }

theorem Frame.draft_fields {passages : List RetrievedPassage}
    {pending : Option ToolCallDecision} {replaySafe : Bool}
    {begun : pending ≠ none → 1 ≤ decisions} {distinct : (passages.map sourceKey).Nodup}
    (step : frame.step = decisions) (kept : frame.observedPassages = underSources passages)
    (question : frame.documentQuestion = job.message.value) :
    AgentLoop.progress job.answerMode frame (Progress.pendingJson pending) replaySafe =
      (frame.draft decisions passages pending replaySafe begun distinct).fields job := by
  have dumps : (underSources passages).map (fun entry => entry.2.dump) =
      passages.map RetrievedPassage.dump := by
    rw [underSources, List.map_map]
    rfl
  simp only [AgentLoop.progress, Progress.fields, Frame.draft, step, kept, question, dumps]

theorem leads_move (pending : Option ToolCallDecision) {replaySafe : Bool} {after : Progress}
    {next : Stage} {returned : Unit → Frame → Standing → Prop}
    {raised : Exc → Frame → Standing → Prop}
    (same : attempt.control = control) (state : frame.state = attempt.dict)
    (saves : AgentLoop.progress job.answerMode frame (Progress.pendingJson pending) replaySafe =
      after.fields job)
    (moves : Progress.Moves settings job attempt.stage attempt.progress after next)
    (onReturn : returned () { frame with state := attempt.dict.update (after.fields job) }
      (.working
        { attempt with dict := attempt.dict.update (after.fields job), progress := after,
                       stage := next }))
    (onRaise : ∀ error frame standing, Broken control error standing → raised error frame standing) :
    loopLeads settings job
      ((Runner.buildAgentLoop settings control job remaining).checkpoint
        (Progress.pendingJson pending) replaySafe) returned raised frame (.working attempt) := by
  subst same
  refine leads_checkpoint fun reply => ?_
  rw [show (Runner.buildAgentLoop settings attempt.control job remaining).answerMode =
    job.answerMode from rfl, saves, state]
  cases reply with
  | ok accepted => exact ⟨_, .works (.progressed moves), nofun, fun _ => onReturn⟩
  | error error =>
      refine ⟨.failing attempt.control.lease, .refused, ?_, nofun⟩
      rintro _ ⟨_⟩
      exact onRaise _ _ _ ⟨rfl, _, rfl⟩

theorem InLoop.of_draft {passages : List RetrievedPassage} {pending : Option ToolCallDecision}
    {replaySafe : Bool} {begun : pending ≠ none → 1 ≤ decisions}
    {distinct : (passages.map sourceKey).Nodup} (same : attempt.control = control)
    (step : stage ≠ .idle → frame.step = decisions)
    (kept : frame.observedPassages = underSources passages)
    (question : frame.documentQuestion = job.message.value) :
    InLoop job control stage decisions
      { frame with
          state := attempt.dict.update
            ((frame.draft decisions passages pending replaySafe begun distinct).fields job) }
      { attempt with
          dict := attempt.dict.update
            ((frame.draft decisions passages pending replaySafe begun distinct).fields job)
          progress := frame.draft decisions passages pending replaySafe begun distinct
          stage } :=
  ⟨step, same, rfl, rfl, rfl, .update _ _ _,
    { history := rfl, sources := fun _ => (List.mem_insertionSort _).symm, passages := kept,
      searched := rfl, question }⟩

theorem Frame.draft_evidence {progress : Progress} {pending : Option ToolCallDecision}
    {replaySafe : Bool} {begun : pending ≠ none → 1 ≤ decisions}
    (sources : ∀ source, source ∈ frame.observedSources ↔ source ∈ progress.sources)
    (searched : frame.documentSearchCompleted = progress.searched) :
    Progress.SameEvidence progress
      (frame.draft decisions progress.passages pending replaySafe begun progress.distinct) where
  searched := searched
  passages := rfl
  sources source := (List.mem_insertionSort _).trans (sources source)

theorem leads_note (pending : Option ToolCallDecision) (next : Stage) {replaySafe : Bool}
    {saved : Nat} {returned : Unit → Frame → Standing → Prop}
    {raised : Exc → Frame → Standing → Prop} (begun : pending ≠ none → 1 ≤ saved)
    (same : attempt.control = control) (state : frame.state = attempt.dict)
    (step : frame.step = saved)
    (sources : ∀ source, source ∈ frame.observedSources ↔ source ∈ attempt.progress.sources)
    (passages : frame.observedPassages = underSources attempt.progress.passages)
    (searched : frame.documentSearchCompleted = attempt.progress.searched)
    (question : frame.documentQuestion = job.message.value)
    (moves : ∀ after : Progress, after.pending = pending → after.replaySafe = replaySafe →
      after.decisions = saved → after.history = frame.history →
      Progress.SameEvidence attempt.progress after →
      Progress.Moves settings job attempt.stage attempt.progress after next)
    (onReturn : ∀ frame after, InLoop job control next saved frame after →
      after.progress.pending = pending → returned () frame (.working after))
    (onRaise : ∀ error frame standing, Broken control error standing → raised error frame standing) :
    loopLeads settings job
      ((Runner.buildAgentLoop settings control job remaining).checkpoint
        (Progress.pendingJson pending) replaySafe) returned raised frame (.working attempt) := by
  refine leads_move pending same state (Frame.draft_fields step passages question)
    (moves (frame.draft saved _ pending replaySafe begun _) rfl rfl rfl rfl
      (Frame.draft_evidence sources searched)) ?_ onRaise
  exact onReturn _ _ (.of_draft same (fun _ => step) passages question) rfl

/-! ## The model step -/

def Chosen (job : AgentRunJob) (control : Control) (decisions : Nat) (frame : Frame)
    (standing : Standing) : Option ModelDecision → Prop
  | some decision => Stands job control (.chosen decision) decisions frame standing ∧
      ∀ answer, decision = .answer answer → answer.mode = job.answerMode
  | none => Rests job control decisions frame standing

def Unanswered (settings : Settings) (job : AgentRunJob) (control : Control) (decisions : Nat)
    (error : Exc) (frame : Frame) (standing : Standing) : Prop :=
  (∃ stage, stage.Recovers settings.tools .repairing ∧
    Stands job control stage decisions frame standing) ∨ Broken control error standing

theorem leads_askModel (inLoop : InLoop job control .raised decisions frame attempt) :
    loopLeads settings job (Runner.buildAgentLoop settings control job remaining).askModel
      (fun decision frame standing => decision.isSome = true ∧
        Chosen job control decisions frame standing decision)
      (Unanswered settings job control decisions) frame (.working attempt) := by
  have quiet := standing_quiet settings job (.working attempt)
  have step := inLoop.step nofun
  unfold AgentLoop.askModel
  refine Exec.leads_seq (leads_remainingSeconds quiet (fun timeout positive => ?_)
    fun error phase stern => .inl ⟨_, .unasked, attempt, rfl, inLoop.step, inLoop.control,
      inLoop.stage, inLoop.decisions, inLoop.state, inLoop.tells, inLoop.reflects⟩)
  refine Exec.leads_seq (Exec.leads_get (Exec.leads_seq (Exec.leads_ask fun reply => ?_)))
  have decide : attempt.Step settings job
      ⟨.decide (Runner.buildAgentLoop settings control job remaining).runId.text frame.step
        frame.history timeout, ()⟩ { attempt with stage := .asked } := by
    rw [step, inLoop.reflects.history, ← inLoop.decisions]
    exact .decide inLoop.stage
  refine ⟨_, .works decide, ?_⟩
  have asked : InLoop job control .asked decisions frame { attempt with stage := .asked } :=
    { inLoop with stage := rfl, step := fun _ => step }
  refine Exec.leads_seq (leads_adapter asked
    (leads_decide asked.control _ _ _ asked.tells .asked) (fun proposal later after inLoop _ => ?_)
    (fun _ _ after inLoop => .inl ⟨_, .asked, after, rfl, inLoop⟩)
    fun _ _ _ broken => .inr broken)
  refine Exec.leads_seq (Exec.leads_ofExcept (fun decision valid => ?_)
    fun error _ => .inl ⟨_, .asked, after, rfl, inLoop⟩)
  have decided : after.Step settings job
      ⟨.decided (Runner.buildAgentLoop settings control job remaining).runId.text frame.step
        decision, ()⟩ { after with stage := .chosen decision } := by
    rw [step, ← inLoop.decisions]
    exact .decided inLoop.stage
  refine Exec.leads_seq (Exec.leads_ask fun reply => ⟨_, .works decided, rfl, ⟨_, rfl, ?_⟩, ?_⟩)
  · exact { inLoop with stage := rfl, step := fun _ => inLoop.step nofun }
  · rintro answer rfl
    exact ModelDecision.mode_of_validate (validated_eq_ok.mp valid)

def Reported (control : Control) (_ : Exc) (_ : Frame) (standing : Standing) : Prop :=
  standing.Reports control.lease

theorem leads_admitRecovery {next : Stage} {returned : Bool → Frame → Standing → Prop}
    (inLoop : InLoop job control stage decisions frame attempt) (busy : stage ≠ .idle)
    (recovers : stage.Recovers settings.tools next)
    (onRefuse : returned false frame (.working attempt))
    (onAdmit : ∀ dict standing, Stands job control next decisions { frame with state := dict }
      standing → returned true { frame with state := dict } standing) :
    loopLeads settings job (AgentLoop.inControl control.recover) returned (Reported control) frame
      (.working attempt) := by
  have recovers : attempt.stage.Recovers settings.tools next := inLoop.stage ▸ recovers
  refine leads_inControl ?_
  rw [inLoop.state]
  refine Exec.leads_mono (leads_recover inLoop.control recovers inLoop.tells)
    (fun admitted dict standing holds => ?_) fun error dict standing stops => ?_
  · rcases holds with ⟨rfl, rfl, rfl⟩ | ⟨rfl, after, rfl, same, _, kept, now, rfl, tells⟩
    · rw [← inLoop.state]
      exact onRefuse
    · refine onAdmit _ _ ⟨after, rfl, fun _ => inLoop.step busy, same.trans inLoop.control, now, ?_,
        rfl, tells, kept ▸ inLoop.reflects⟩
      rw [kept, inLoop.decisions]
  · rcases stops with ⟨after, rfl, near, _⟩ | ⟨rfl, _⟩
    · rw [Reported, ← inLoop.control, ← near.control]
      exact .working
    · rw [Reported, inLoop.control]
      exact .failing

theorem leads_recoverModel {error : Exc}
    (failed : Unanswered settings job control decisions error frame standing) :
    loopLeads settings job
      ((Runner.buildAgentLoop settings control job remaining).recoverModel error)
      (fun decision frame standing => decision = none ∧
        Rests job control decisions frame standing)
      (Reported control) frame standing := by
  unfold AgentLoop.recoverModel
  rcases failed with ⟨stage, recovers, attempt, rfl, inLoop⟩ | ⟨rfl, cause, rfl⟩
  · have busy : stage ≠ .idle := by
      rintro rfl
      cases recovers
    refine Exec.leads_seq (Exec.leads_raiseIf (fun _ => ?_) fun _ => inLoop.reports)
    refine Exec.leads_seq (leads_admitRecovery inLoop busy recovers ?_ ?_)
    · exact Exec.leads_seq (Exec.leads_raiseIf (fun admitted => absurd rfl admitted) fun _ =>
        inLoop.reports)
    · rintro dict _ ⟨after, rfl, inLoop⟩
      have quiet := standing_quiet settings job (.working after)
      refine Exec.leads_seq (Exec.leads_raiseIf (fun _ => ?_) fun _ => inLoop.reports)
      refine Exec.leads_seq (Exec.leads_get (Exec.leads_seq (leads_measure quiet ?_)))
      refine Exec.leads_seq (Exec.leads_modify (Exec.leads_seq (Exec.leads_modify ?_)))
      have history := inLoop.reflects.history
      refine Exec.leads_seq (leads_note none .idle (absurd rfl) inLoop.control
        inLoop.state (inLoop.step (by simp)) inLoop.reflects.sources inLoop.reflects.passages
        inLoop.reflects.searched inLoop.reflects.question
        (fun saved settled _ same history evidence => ?_)
        (fun frame last inLoop settled => ⟨rfl, _, rfl, inLoop, settled⟩)
        fun _ _ _ broken => broken.reports)
      rw [inLoop.stage]
      refine .repair settled (same.trans inLoop.decisions.symm) ?_ evidence
      rw [history, ← inLoop.reflects.history]
  · exact Exec.leads_seq (Exec.leads_raiseIf (fun able => absurd rfl able) fun _ => .failing)

theorem leads_modelStep (rests : Rests job control decisions frame standing)
    (step : frame.step = (decisions + 1 : Nat)) (within : decisions + 1 ≤ job.maxDecisions) :
    loopLeads settings job (Runner.buildAgentLoop settings control job remaining).modelStep
      (fun decision frame standing => Chosen job control (decisions + 1) frame standing decision)
      (Reported control) frame standing := by
  obtain ⟨attempt, rfl, inLoop, settled⟩ := rests
  unfold AgentLoop.modelStep
  refine Exec.leads_seq (leads_startPhase (standing_quiet _ _ _) fun now => ?_)
  refine Exec.leads_seq (leads_note none .raised (absurd rfl) inLoop.control
    inLoop.state step inLoop.reflects.sources inLoop.reflects.passages inLoop.reflects.searched
    inLoop.reflects.question (fun saved pending _ same history evidence => ?_)
    (fun frame after inLoop _ => ?_) fun _ _ _ broken => broken.reports)
  · rw [inLoop.stage]
    exact .raise settled pending (by rw [same, inLoop.decisions]) (same ▸ within)
      (history.trans inLoop.reflects.history) evidence
  · have answered : loopLeads settings job
        (tryCatch (Runner.buildAgentLoop settings control job remaining).askModel
          (Runner.buildAgentLoop settings control job remaining).recoverModel)
        (fun decision frame standing =>
          Chosen job control (decisions + 1) frame standing decision) (Reported control) frame
        (.working after) := by
      refine Exec.leads_tryCatch (Exec.leads_mono (leads_askModel inLoop)
        (fun _ _ _ holds => holds.2) fun _ _ _ failed => failed)
        fun error frame standing failed => ?_
      refine Exec.leads_mono (leads_recoverModel failed) ?_ fun _ _ _ reports => reports
      rintro _ frame standing ⟨rfl, rests⟩
      exact rests
    refine Exec.leads_bind answered fun decision frame standing chosen => ?_
    cases decision with
    | none => exact chosen
    | some decision =>
        exact Exec.leads_seq (Exec.leads_get
          (Exec.leads_seq (leads_measure (standing_quiet settings job standing) chosen)))

/-! ## The final answer -/

def Receipted (settings : Settings) (job : AgentRunJob) (answer : DocumentFinalAnswerDecision)
    (attempt : Attempt) : Prop :=
  ∃ request receipt,
    DocumentReviewRequest.validate job.message.value answer.result attempt.progress.passages =
      some request ∧
    attempt.dict.get? "document_review" = some (.obj receipt) ∧
    validateReviewReceipt settings.library request receipt = .ok ()

theorem leads_askReviewer {answer : DocumentFinalAnswerDecision} {request : DocumentReviewRequest}
    (inLoop : InLoop job control (.chosen (.answer (.document answer))) decisions frame attempt)
    (asked : DocumentReviewRequest.validate job.message.value answer.result
      attempt.progress.passages = some request) :
    loopLeads settings job
      ((Runner.buildAgentLoop settings control job remaining).askReviewer request)
      (fun _ frame standing => ∃ after, standing = .working after ∧
        InLoop job control (.reviewed answer) decisions frame after ∧
        after.progress = attempt.progress ∧ Receipted settings job answer after)
      (Reported control) frame (.working attempt) := by
  unfold AgentLoop.askReviewer
  refine Exec.leads_seq (leads_remainingSeconds (standing_quiet _ _ _) (fun timeout _ => ?_)
    fun _ _ _ => inLoop.reports)
  refine Exec.leads_seq (Exec.leads_get (Exec.leads_seq (Exec.leads_ask fun reply =>
    ⟨_, .plain rfl, ?_⟩)))
  have calls : attempt.stage.Calls := inLoop.stage ▸ .reviewing
  refine Exec.leads_seq (leads_adapter inLoop (leads_review inLoop.control _ _ inLoop.tells calls)
    (fun proposal later after inLoop same => ?_) (fun _ _ _ inLoop => inLoop.reports)
    fun _ _ _ broken => broken.reports)
  refine Exec.leads_seq (Exec.leads_ofExcept (fun review _ => ?_) fun _ _ => inLoop.reports)
  refine Exec.leads_seq (leads_checkDeadline (standing_quiet _ _ _) ?_ fun _ _ _ => inLoop.reports)
  refine Exec.leads_seq (Exec.leads_ofExcept (fun receipt made => ?_) fun _ _ => inLoop.reports)
  refine leads_inControl ?_
  rw [inLoop.state]
  have saved : after.Step settings job
      (checkpointed control.lease .review
        (after.dict.update [("document_review", receipt)]) (.ok ()))
      { after with
          dict := after.dict.update [("document_review", receipt)], stage := .reviewed answer } := by
    rw [← inLoop.control]
    exact .reviewed inLoop.stage (same ▸ asked) made
  refine leads_saves inLoop.control saved ⟨_, rfl, ?_, same, ?_⟩ fun _ => .failing
  · exact ⟨fun _ => inLoop.step nofun, inLoop.control, rfl, inLoop.decisions, rfl,
      tells_other inLoop.tells rfl, inLoop.reflects⟩
  · obtain ⟨fields, rfl, valid⟩ := validateReviewReceipt_of made
    exact ⟨request, fields, same ▸ asked, by simp, valid⟩

theorem leads_reviewAnswer {answer : DocumentFinalAnswerDecision}
    (inLoop : InLoop job control (.chosen (.answer (.document answer))) decisions frame attempt) :
    loopLeads settings job
      ((Runner.buildAgentLoop settings control job remaining).reviewAnswer answer)
      (fun _ frame standing => ∃ after, standing = .working after ∧
        InLoop job control (.reviewed answer) decisions frame after ∧
        validateDocumentAnswer answer after.progress.sources after.progress.searched = .ok () ∧
        Receipted settings job answer after)
      (Reported control) frame (.working attempt) := by
  have quiet := standing_quiet settings job (.working attempt)
  unfold AgentLoop.reviewAnswer
  refine Exec.leads_seq (Exec.leads_get (Exec.leads_seq (Exec.leads_ofExcept (fun _ answered => ?_)
    fun _ _ => inLoop.reports)))
  refine Exec.leads_seq (Exec.leads_modify (Exec.leads_seq (leads_perfCounter quiet fun started =>
    Exec.leads_seq (Exec.leads_ofExcept (fun request asked => ?_) fun _ _ => inLoop.reports))))
  have asked := validated_eq_ok.mp asked
  rw [inLoop.reflects.question, inLoop.reflects.passages, underSources_snd] at asked
  rw [inLoop.reflects.searched] at answered
  have inReview : InLoop job control (.chosen (.answer (.document answer))) decisions
      { frame with phase := .documentReview } attempt :=
    ⟨inLoop.step, inLoop.control, inLoop.stage, inLoop.decisions, inLoop.state, inLoop.tells,
      inLoop.reflects⟩
  refine Exec.leads_bind (Exec.leads_tryCatch (Exec.leads_mono (leads_askReviewer inReview asked)
    (fun _ _ _ reviewed => reviewed) fun _ _ _ reports => reports)
    fun error frame standing reports => ?_) ?_
  · exact Exec.leads_seq (leads_measure (standing_quiet _ _ _) reports)
  · rintro _ frame _ ⟨after, rfl, inLoop, same, receipted⟩
    refine leads_measure (standing_quiet _ _ _) ⟨after, rfl, inLoop, ?_, receipted⟩
    rw [same]
    exact validateDocumentAnswer_of inReview.reflects.sources answered

theorem leads_saveAnswer {answer : AgentAnswer} {returned : Unit → Frame → Standing → Prop}
    (inLoop : InLoop job control stage decisions frame attempt) (proposes : stage.Proposes answer)
    (final : Runner.finalResult settings job
      (attempt.dict.update [("final_result", answer.dump)]) = .ok answer)
    (onReturn : ∀ frame after, InLoop job control (.answered answer) decisions frame after →
      returned () frame (.working after)) :
    loopLeads settings job
      (AgentLoop.inControl (control.persist .answer [("final_result", answer.dump)])) returned
      (Reported control) frame (.working attempt) := by
  have busy : stage ≠ .idle := by
    rintro rfl
    cases proposes
  have saved : attempt.Step settings job
      (checkpointed control.lease .answer
        (attempt.dict.update [("final_result", answer.dump)]) (.ok ()))
      { attempt with
          dict := attempt.dict.update [("final_result", answer.dump)]
          stage := .answered answer } := by
    rw [← inLoop.control]
    exact .answered (inLoop.stage ▸ proposes) final
  refine leads_inControl ?_
  rw [inLoop.state]
  refine leads_saves inLoop.control saved (onReturn _ _ ?_) fun _ => .failing
  exact ⟨fun _ => inLoop.step busy, inLoop.control, rfl, inLoop.decisions, rfl,
    tells_other inLoop.tells rfl, inLoop.reflects⟩

theorem leads_finalAnswer {answer : AgentAnswer} (mode : answer.mode = job.answerMode)
    (inLoop : InLoop job control (.chosen (.answer answer)) decisions frame attempt) :
    loopLeads settings job
      ((Runner.buildAgentLoop settings control job remaining).finalAnswer answer)
      (fun out frame standing => out = answer ∧
        Stands job control (.answered answer) decisions frame standing)
      (Reported control) frame (.working attempt) := by
  have ends : ∀ frame after, InLoop job control (.answered answer) decisions frame after →
      loopLeads settings job
        (do
          let frame ← get
          AgentLoop.measure .run .success frame.started
          return answer)
        (fun out frame standing => out = answer ∧
          Stands job control (.answered answer) decisions frame standing)
        (Reported control) frame (.working after) := fun frame after inLoop =>
    Exec.leads_seq (Exec.leads_get (Exec.leads_seq
      (leads_measure (standing_quiet _ _ _) ⟨rfl, after, rfl, inLoop⟩)))
  unfold AgentLoop.finalAnswer
  refine Exec.leads_seq (Exec.leads_modify (Exec.leads_seq ?_))
  have inPhase : InLoop job control (.chosen (.answer answer)) decisions
      { frame with phase := .citationValidation } attempt :=
    ⟨inLoop.step, inLoop.control, inLoop.stage, inLoop.decisions, inLoop.state, inLoop.tells,
      inLoop.reflects⟩
  cases answer with
  | general answer =>
      refine Exec.leads_seq (Exec.leads_get (Exec.leads_ofExcept (fun _ cited => ?_)
        fun _ _ => inLoop.reports))
      have cited := validateAnswerCitations_of inLoop.reflects.sources cited
      have final : Runner.finalResult settings job _ = .ok (.general answer) :=
        (inLoop.tells.final (AgentAnswer.general answer).dump).finalResult_general mode
          (get?_final _ _) cited
      refine Exec.leads_seq (leads_saveAnswer inPhase .general final ends)
  | document answer =>
      refine Exec.leads_mono (leads_reviewAnswer inPhase) ?_ fun _ _ _ reports => reports
      rintro _ frame _ ⟨after, rfl, inLoop, answered, request, receipt, asked, present, valid⟩
      have kept : (after.dict.update [("final_result", (AgentAnswer.document answer).dump)]).get?
          "document_review" = some (.obj receipt) := by
        simpa using present
      have final : Runner.finalResult settings job _ = .ok (.document answer) :=
        (inLoop.tells.final (AgentAnswer.document answer).dump).finalResult_document mode
          (get?_final _ _) answered asked kept valid
      exact Exec.leads_seq (leads_saveAnswer inLoop .document final ends)

/-! ## The tool step -/

theorem Tools.name_of_find {tools : List ToolDefinition} {name : String} {tool : ToolDefinition}
    (found : Tools.find tools name = .ok tool) : tool.name = name := by
  unfold Tools.find at found
  split at found
  · rename_i here
    cases found
    simpa using List.find?_some here
  · cases found

def Uncalled (settings : Settings) (job : AgentRunJob) (control : Control) (decisions : Nat)
    (decision : ToolCallDecision) (error : Exc) (frame : Frame) (standing : Standing) : Prop :=
  (∃ stage, stage.Recovers settings.tools (.excusing decision) ∧
    Stands job control stage decisions frame standing) ∨
  (standing.Reports control.lease ∧ ∀ safe, AgentLoop.toolRecoverable safe error = false)

theorem Stern.unrecoverable {error : Exc} (stern : Stern error) (safe : Bool) :
    AgentLoop.toolRecoverable safe error = false := by
  cases stern <;> rfl

theorem leads_toolDispatch {decision : ToolCallDecision} {time : Time}
    (inLoop : InLoop job control (.dispatched decision) decisions frame attempt) :
    loopLeads settings job
      ((Runner.buildAgentLoop settings control job remaining).dispatch decision time)
      (fun result frame standing =>
        Stands job control (.returned decision result) decisions frame standing)
      (Uncalled settings job control decisions decision) frame (.working attempt) := by
  have fails : ∀ error, Uncalled settings job control decisions decision error frame
      (.working attempt) := fun _ => .inl ⟨_, .failed, attempt, rfl, inLoop⟩
  unfold AgentLoop.dispatch
  refine Exec.leads_seq (Exec.leads_ofExcept (fun tool found => ?_) fun error _ => fails error)
  refine Exec.leads_seq (Exec.leads_raiseIf (fun _ => ?_) fun _ => fails _)
  refine Exec.leads_seq (Exec.leads_ask fun (reply : Except Exc ToolResult) => ?_)
  have name : tool.name = decision.name.value := Tools.name_of_find found
  rw [name]
  cases reply with
  | ok result =>
      refine ⟨_, .works (.returned inLoop.stage), _, rfl, ?_⟩
      exact { inLoop with stage := rfl, step := fun _ => inLoop.step nofun }
  | error error => exact ⟨_, .works (.raised inLoop.stage), fails error⟩

theorem leads_toolCall {decision : ToolCallDecision} (begun : 1 ≤ decisions)
    (inLoop : InLoop job control (.chosen (.toolCall decision)) decisions frame attempt) :
    loopLeads settings job
      ((Runner.buildAgentLoop settings control job remaining).callTool decision)
      (fun result frame standing => ∃ found, result = some found ∧
        Stands job control (.returned decision found) decisions frame standing)
      (Uncalled settings job control decisions decision) frame (.working attempt) := by
  unfold AgentLoop.callTool
  refine Exec.leads_seq (Exec.leads_ofExcept (fun safeReplay registered => ?_)
    fun error unknown => ?_)
  · refine Exec.leads_seq (Exec.leads_modify (Exec.leads_seq ?_))
    refine leads_note (some decision) (.pended decision) (fun _ => begun) inLoop.control
      inLoop.state (inLoop.step nofun) inLoop.reflects.sources inLoop.reflects.passages
      inLoop.reflects.searched inLoop.reflects.question
      (fun saved pending safe same history evidence => ?_) (fun later after inLoop _ => ?_)
      fun _ _ _ broken => .inr ⟨broken.reports, ?_⟩
    · rw [inLoop.stage]
      exact .pend pending (safe ▸ registered) (same.trans inLoop.decisions.symm)
        (history.trans inLoop.reflects.history) evidence
    · refine Exec.leads_seq (leads_remainingSeconds (standing_quiet _ _ _) (fun time _ => ?_)
        fun error _ stern => .inr ⟨inLoop.reports, stern.unrecoverable⟩)
      refine Exec.leads_seq (Exec.leads_get (Exec.leads_seq (Exec.leads_ask fun reply => ?_)))
      have dispatched : after.Step settings job
          ⟨.dispatch (Runner.buildAgentLoop settings control job remaining).runId.text later.step
            decision, ()⟩ { after with stage := .dispatched decision } := by
        rw [inLoop.step nofun, ← inLoop.decisions]
        exact .dispatch inLoop.stage
      refine ⟨_, .works dispatched, ?_⟩
      have inDispatch : InLoop job control (.dispatched decision) decisions later
          { after with stage := .dispatched decision } :=
        { inLoop with stage := rfl, step := fun _ => inLoop.step nofun }
      exact Exec.leads_bind (leads_toolDispatch inDispatch) fun result frame standing stands =>
        ⟨result, rfl, stands⟩
    · obtain ⟨_, _, rfl⟩ := broken
      exact fun _ => rfl
  · change Tools.replaySafe settings.tools decision.name.value = .error error at unknown
    cases found : Tools.find settings.tools decision.name.value with
    | ok tool =>
        rw [Tools.replaySafe, found] at unknown
        cases unknown
    | error cause => exact .inl ⟨_, .unknown found, attempt, rfl, inLoop⟩

theorem leads_toolRecovery {decision : ToolCallDecision} {error : Exc}
    (failed : Uncalled settings job control decisions decision error frame standing) :
    loopLeads settings job
      ((Runner.buildAgentLoop settings control job remaining).recoverTool decision error)
      (fun result frame standing => result = none ∧ Rests job control decisions frame standing)
      (Reported control) frame standing := by
  unfold AgentLoop.recoverTool
  refine Exec.leads_seq (Exec.leads_get ?_)
  rcases failed with ⟨stage, recovers, attempt, rfl, inLoop⟩ | ⟨reports, final⟩
  · have busy : stage ≠ .idle := by
      rintro rfl
      cases recovers
    refine Exec.leads_seq (Exec.leads_raiseIf (fun _ => ?_) fun _ => inLoop.reports)
    refine Exec.leads_seq (leads_admitRecovery inLoop busy recovers ?_ ?_)
    · exact Exec.leads_seq (Exec.leads_raiseIf (fun admitted => absurd rfl admitted) fun _ =>
        inLoop.reports)
    · rintro dict _ ⟨after, rfl, inLoop⟩
      have quiet := standing_quiet settings job (.working after)
      refine Exec.leads_seq (Exec.leads_raiseIf (fun _ => ?_) fun _ => inLoop.reports)
      refine Exec.leads_seq (leads_measure quiet ?_)
      refine Exec.leads_seq (Exec.leads_modify (Exec.leads_seq (Exec.leads_modify ?_)))
      refine Exec.leads_seq (leads_note none .idle (absurd rfl) inLoop.control inLoop.state
        (inLoop.step (by simp)) inLoop.reflects.sources inLoop.reflects.passages
        inLoop.reflects.searched inLoop.reflects.question
        (fun saved settled _ same history evidence => ?_)
        (fun frame last inLoop settled => ⟨rfl, _, rfl, inLoop, settled⟩)
        fun _ _ _ broken => broken.reports)
      rw [inLoop.stage]
      refine .excuse settled (same.trans inLoop.decisions.symm) ?_ evidence
      rw [history, ← inLoop.reflects.history]
      rfl
  · exact Exec.leads_seq (Exec.leads_raiseIf (fun able => absurd (final _) able) fun _ => reports)

/-! ## Observations -/

/-- The evidence of the local variables after a result. -/
structure Observed (mode : AnswerMode) (decision : ToolCallDecision) (result : ToolResult)
    (progress : Progress) (frame : Frame) (passages : List RetrievedPassage) : Prop where
  kept : frame.observedPassages = underSources passages
  distinct : (passages.map sourceKey).Nodup
  known : ∀ passage ∈ passages, passage ∈ progress.passages ∨ passage ∈ foundBy decision result
  sources : ∀ source, source ∈ frame.observedSources ↔
    source ∈ progress.sources ∨ source ∈ (foundBy decision result).map sourceKey
  searched : frame.documentSearchCompleted = (progress.searched || isSearch decision result)
  complete : mode = .document → ∀ passage,
    passage ∈ progress.passages ∨ passage ∈ foundBy decision result → passage ∈ passages

theorem leads_observe {decision : ToolCallDecision} {result : ToolResult}
    {returned : Unit → Frame → Standing → Prop}
    (inLoop : InLoop job control stage decisions frame attempt)
    (onReturn : ∀ later passages,
      Observed job.answerMode decision result attempt.progress later passages →
      later.state = frame.state → later.step = frame.step → later.history = frame.history →
      later.documentQuestion = frame.documentQuestion → returned () later (.working attempt)) :
    loopLeads settings job
      ((Runner.buildAgentLoop settings control job remaining).observe decision result) returned
      (Reported control) frame (.working attempt) := by
  have reflects := inLoop.reflects
  have unseen (nothing : foundBy decision result = [])
      (noSearch : isSearch decision result = false) :
      returned () frame (.working attempt) := by
    refine onReturn frame attempt.progress.passages
      ⟨reflects.passages, attempt.progress.distinct, fun _ member => .inl member, fun source => ?_,
        ?_, fun _ passage known => ?_⟩ rfl rfl rfl rfl
    · rw [nothing, List.map_nil]
      simpa using reflects.sources source
    · rw [noSearch, Bool.or_false]
      exact reflects.searched
    · rw [nothing] at known
      simpa using known
  unfold AgentLoop.observe
  cases result with
  | other dump => exact unseen rfl rfl
  | retrieval found =>
      refine Exec.leads_ite (fun search => ?_) fun other =>
        unseen (if_neg other) (decide_eq_false other)
      have finds : foundBy decision (.retrieval found) = found.passages := if_pos search
      refine Exec.leads_seq (Exec.leads_get (Exec.leads_seq (Exec.leads_ofExcept
        (fun passages added => Exec.leads_modify ?_) fun _ _ => inLoop.reports)))
      have sources : ∀ source,
          source ∈ (frame.observedSources ++ found.passages.map sourceKey).dedup ↔
            source ∈ attempt.progress.sources ∨
              source ∈ (foundBy decision (.retrieval found)).map sourceKey := by
        intro source
        rw [List.mem_dedup, List.mem_append, reflects.sources, finds]
      have searched : true =
          (attempt.progress.searched || isSearch decision (.retrieval found)) := by
        rw [isSearch, decide_eq_true search, Bool.or_true]
      cases mode : job.answerMode with
      | general =>
          rw [show (Runner.buildAgentLoop settings control job remaining).answerMode =
            job.answerMode from rfl, mode] at added
          cases added
          exact onReturn _ _ ⟨reflects.passages, attempt.progress.distinct,
            fun _ member => .inl member, sources, searched,
            fun impossible => by rw [mode] at impossible; cases impossible⟩ rfl rfl rfl rfl
      | document =>
          rw [show (Runner.buildAgentLoop settings control job remaining).answerMode =
            job.answerMode from rfl, mode] at added
          simp only [reflects.passages] at added
          obtain ⟨after, rfl, distinct, known⟩ :=
            addPassages_underSources attempt.progress.distinct added
          rw [← finds] at known
          exact onReturn _ _ ⟨rfl, distinct, fun passage => (known passage).mp, sources, searched,
            fun _ passage => (known passage).mpr⟩ rfl rfl rfl rfl

theorem leads_record {decision : ToolCallDecision} {result : ToolResult}
    {passages : List RetrievedPassage} (same : attempt.control = control)
    (returned : attempt.stage = .returned decision result)
    (decided : attempt.progress.decisions = decisions) (state : frame.state = attempt.dict)
    (step : frame.step = decisions)
    (history : frame.history = attempt.progress.history ++ record decision result)
    (question : frame.documentQuestion = job.message.value)
    (observed : Observed job.answerMode decision result attempt.progress frame passages) :
    loopLeads settings job
      ((Runner.buildAgentLoop settings control job remaining).checkpoint .null false)
      (fun _ frame standing => Rests job control decisions frame standing) (Reported control) frame
      (.working attempt) := by
  have begun : (none : Option ToolCallDecision) ≠ none → 1 ≤ decisions := absurd rfl
  have evidence : Progress.Observes decision result attempt.progress
      (frame.draft decisions passages none false begun observed.distinct) :=
    { searched := observed.searched, passages := observed.known,
      sources := fun source => (List.mem_insertionSort _).trans (observed.sources source) }
  have moves : Progress.Moves settings job attempt.stage attempt.progress
      (frame.draft decisions passages none false begun observed.distinct) .idle := by
    rw [returned]
    exact .record rfl decided.symm history evidence observed.complete
  exact leads_move none same state (Frame.draft_fields step observed.kept question) moves
    ⟨_, rfl, .of_draft same (fun busy => absurd rfl busy) observed.kept question, rfl⟩
    fun _ _ _ broken => broken.reports

theorem leads_recordResult {decision : ToolCallDecision} {result : ToolResult}
    (inLoop : InLoop job control (.returned decision result) decisions frame attempt) :
    loopLeads settings job
      ((Runner.buildAgentLoop settings control job remaining).recordResult decision result)
      (fun _ frame standing => Rests job control decisions frame standing) (Reported control) frame
      (.working attempt) := by
  have quiet := standing_quiet settings job (.working attempt)
  unfold AgentLoop.recordResult
  refine Exec.leads_seq (leads_observe inLoop
    fun later passages observed state step history question => ?_)
  refine Exec.leads_seq (Exec.leads_modify (Exec.leads_seq (Exec.leads_get
    (Exec.leads_seq (leads_measure quiet ?_)))))
  refine Exec.leads_seq (leads_checkDeadline quiet ?_ fun _ _ _ => inLoop.reports)
  refine Exec.leads_seq (leads_startPhase quiet fun now => Exec.leads_seq (Exec.leads_modify ?_))
  refine leads_record inLoop.control inLoop.stage inLoop.decisions (state.trans inLoop.state)
    (step.trans (inLoop.step nofun)) ?_ (question.trans inLoop.reflects.question)
    ⟨observed.kept, observed.distinct, observed.known, observed.sources, observed.searched,
      observed.complete⟩
  rw [← inLoop.reflects.history, ← history]
  rfl

def Called (job : AgentRunJob) (control : Control) (decisions : Nat) (decision : ToolCallDecision)
    (frame : Frame) (standing : Standing) : Option ToolResult → Prop
  | some result => Stands job control (.returned decision result) decisions frame standing
  | none => Rests job control decisions frame standing

theorem leads_calledTool {decision : ToolCallDecision} (begun : 1 ≤ decisions)
    (inLoop : InLoop job control (.chosen (.toolCall decision)) decisions frame attempt) :
    loopLeads settings job
      (tryCatch ((Runner.buildAgentLoop settings control job remaining).callTool decision)
        ((Runner.buildAgentLoop settings control job remaining).recoverTool decision))
      (fun result frame standing => Called job control decisions decision frame standing result)
      (Reported control) frame (.working attempt) := by
  refine Exec.leads_tryCatch (Exec.leads_mono (leads_toolCall begun inLoop) ?_
    fun _ _ _ failed => failed) fun error frame standing failed => ?_
  · rintro _ frame standing ⟨result, rfl, stands⟩
    exact stands
  · refine Exec.leads_mono (leads_toolRecovery failed) ?_ fun _ _ _ reports => reports
    rintro _ frame standing ⟨rfl, rests⟩
    exact rests

theorem leads_toolStep {decision : ToolCallDecision} (begun : 1 ≤ decisions)
    (inLoop : InLoop job control (.chosen (.toolCall decision)) decisions frame attempt) :
    loopLeads settings job
      ((Runner.buildAgentLoop settings control job remaining).toolStep decision)
      (fun _ frame standing => Rests job control decisions frame standing) (Reported control) frame
      (.working attempt) := by
  have quiet := standing_quiet settings job (.working attempt)
  unfold AgentLoop.toolStep
  refine Exec.leads_seq (leads_startPhase quiet fun now => Exec.leads_seq (Exec.leads_modify ?_))
  refine Exec.leads_seq (leads_checkDeadline quiet (Exec.leads_seq (Exec.leads_modify ?_))
    fun _ _ _ => inLoop.reports)
  have inTool : InLoop job control (.chosen (.toolCall decision)) decisions
      { frame with
          phase := .tool, phaseStarted := now, toolCalls := frame.toolCalls + 1
          safeReplay := false } attempt :=
    ⟨inLoop.step, inLoop.control, inLoop.stage, inLoop.decisions, inLoop.state, inLoop.tells,
      inLoop.reflects⟩
  refine Exec.leads_bind (leads_calledTool begun inTool) fun result frame standing called => ?_
  cases result with
  | none => exact called
  | some result =>
      obtain ⟨after, rfl, inLoop⟩ := called
      exact leads_recordResult inLoop

/-! ## Turns -/

def Turned (job : AgentRunJob) (control : Control) (decisions : Nat) (frame : Frame)
    (standing : Standing) : Option AgentAnswer → Prop
  | some answer => Stands job control (.answered answer) decisions frame standing
  | none => Rests job control decisions frame standing

theorem leads_act {decision : ModelDecision} (begun : 1 ≤ decisions)
    (inLoop : InLoop job control (.chosen decision) decisions frame attempt)
    (mode : ∀ answer, decision = .answer answer → answer.mode = job.answerMode) :
    loopLeads settings job ((Runner.buildAgentLoop settings control job remaining).act decision)
      (fun answer frame standing => Turned job control decisions frame standing answer)
      (Reported control) frame (.working attempt) := by
  cases decision with
  | answer answer =>
      refine Exec.leads_bind (leads_finalAnswer (mode answer rfl) inLoop) ?_
      rintro _ frame standing ⟨rfl, stands⟩
      exact stands
  | toolCall decision =>
      exact Exec.leads_bind (leads_toolStep begun inLoop) fun _ _ _ rests => rests

theorem leads_turn (rests : Rests job control decisions frame standing)
    (within : decisions + 1 ≤ job.maxDecisions) :
    loopLeads settings job
      ((Runner.buildAgentLoop settings control job remaining).turn (decisions + 1 : Nat) none)
      (fun answer frame standing => Turned job control (decisions + 1) frame standing answer)
      (Reported control) frame standing := by
  have quiet := standing_quiet settings job standing
  unfold AgentLoop.turn
  refine Exec.leads_seq (leads_checkDeadline quiet (Exec.leads_seq (Exec.leads_modify ?_))
    fun _ _ _ => rests.reports)
  have restsStep : Rests job control decisions { frame with step := (decisions + 1 : Nat) }
      standing := by
    obtain ⟨attempt, rfl, inLoop, settled⟩ := rests
    exact ⟨attempt, rfl, ⟨fun busy => absurd rfl busy, inLoop.control, inLoop.stage,
      inLoop.decisions, inLoop.state, inLoop.tells, inLoop.reflects⟩, settled⟩
  refine Exec.leads_bind (leads_modelStep restsStep rfl within)
    fun decision frame standing chosen => ?_
  cases decision with
  | none => exact chosen
  | some decision =>
      obtain ⟨⟨attempt, rfl, inLoop⟩, mode⟩ := chosen
      exact Exec.leads_seq (leads_checkDeadline (standing_quiet _ _ _)
        (leads_act (Nat.le_add_left 1 decisions) inLoop mode) fun _ _ _ => inLoop.reports)

theorem leads_pendingDecision {decision : ToolCallDecision} {pending : Json}
    (valid : ModelDecision.validate job.answerMode pending = some (.toolCall decision))
    (inLoop : InLoop job control stage decisions frame attempt) :
    loopLeads settings job
      ((Runner.buildAgentLoop settings control job remaining).nextDecision (some pending))
      (fun found later standing => found = some (.toolCall decision) ∧ later = frame ∧
        standing = .working attempt)
      (Reported control) frame (.working attempt) := by
  unfold AgentLoop.nextDecision
  refine Exec.leads_seq (Exec.leads_ofExcept (fun found isValid => ?_) fun _ _ => inLoop.reports)
  cases (valid.symm.trans (validated_eq_ok.mp isValid))
  exact ⟨rfl, rfl, rfl⟩

theorem leads_replay {decision : ToolCallDecision} {pending : Json} (begun : 1 ≤ decisions)
    (valid : ModelDecision.validate job.answerMode pending = some (.toolCall decision))
    (inLoop : InLoop job control (.chosen (.toolCall decision)) decisions frame attempt) :
    loopLeads settings job
      ((Runner.buildAgentLoop settings control job remaining).turn decisions (some pending))
      (fun answer frame standing => Turned job control decisions frame standing answer)
      (Reported control) frame (.working attempt) := by
  have quiet := standing_quiet settings job (.working attempt)
  unfold AgentLoop.turn
  refine Exec.leads_seq (leads_checkDeadline quiet (Exec.leads_seq (Exec.leads_modify ?_))
    fun _ _ _ => inLoop.reports)
  have inStep : InLoop job control (.chosen (.toolCall decision)) decisions
      { frame with step := decisions } attempt :=
    ⟨fun _ => rfl, inLoop.control, inLoop.stage, inLoop.decisions, inLoop.state, inLoop.tells,
      inLoop.reflects⟩
  refine Exec.leads_bind (leads_pendingDecision valid inStep) ?_
  rintro _ _ _ ⟨rfl, rfl, rfl⟩
  exact Exec.leads_seq (leads_checkDeadline quiet (leads_act begun inStep nofun)
    fun _ _ _ => inLoop.reports)

/-- By induction on the number of turns that are left. -/
theorem leads_turns {left_ : Nat} (rests : Rests job control decisions frame standing)
    (within : left_ = 0 ∨ decisions + left_ ≤ job.maxDecisions) :
    loopLeads settings job
      ((Runner.buildAgentLoop settings control job remaining).turns
        ((List.range' (decisions + 1) left_).map Int.ofNat) none)
      (fun answer frame standing => ∃ decisions,
        Stands job control (.answered answer) decisions frame standing)
      (Reported control) frame standing := by
  induction left_ generalizing decisions frame standing with
  | zero =>
      unfold AgentLoop.turns
      exact Exec.leads_seq (leads_checkDeadline (standing_quiet _ _ _)
        (Exec.leads_seq (Exec.leads_modify rests.reports)) fun _ _ _ => rests.reports)
  | succ left_ induction =>
      have bound : decisions + 1 + left_ ≤ job.maxDecisions := by omega
      unfold AgentLoop.turns
      refine Exec.leads_bind (leads_turn rests (by omega)) fun answer frame standing turned => ?_
      cases answer with
      | some answer => exact ⟨_, turned⟩
      | none => exact induction turned (.inr bound)

end Loop

end Crewos.Agent

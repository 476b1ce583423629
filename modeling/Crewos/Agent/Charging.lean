import Crewos.Agent.Protocol

/-! # The control follows the protocol

Reservations, calls of a model and their reconciliation, recoveries and the two
adapters, on the dictionary of an attempt at work. -/

namespace Crewos.Agent

open Foundation RunStore

/-- An attempt that differs in its dictionary and its charge only. -/
structure Near (base attempt : Attempt) : Prop where
  control : attempt.control = base.control
  number : attempt.number = base.number
  progress : attempt.progress = base.progress
  stage : attempt.stage = base.stage

theorem Near.refl (attempt : Attempt) : Near attempt attempt := ⟨rfl, rfl, rfl, rfl⟩

theorem Near.trans {first second third : Attempt} (left : Near first second)
    (right : Near second third) : Near first third :=
  ⟨right.control.trans left.control, right.number.trans left.number,
    right.progress.trans left.progress, right.stage.trans left.stage⟩

def Works (job : AgentRunJob) (base : Attempt) (dict : Dict) (standing : Standing) : Prop :=
  ∃ attempt, standing = .working attempt ∧ Near base attempt ∧ dict = attempt.dict ∧
    Tells job attempt.dict attempt.progress

/-- A refused checkpoint ended the work. -/
def Refusal (base : Attempt) (error : Exc) (standing : Standing) : Prop :=
  standing = .failing base.control.lease ∧ ∃ cause, error = .store cause

/-- How the control raises: the work can still go on, or a checkpoint was refused. -/
def Stops (job : AgentRunJob) (base : Attempt) (error : Exc) (dict : Dict)
    (standing : Standing) : Prop :=
  Works job base dict standing ∨ Refusal base error standing

theorem standing_quiet (settings : Settings) (job : AgentRunJob) (standing : Standing) :
    Quiet (Standing.Step settings job) standing := by
  rintro ⟨request, reply⟩ neutral
  refine .plain ?_
  cases request <;> first | rfl | exact neutral

section Charges

variable {settings : Settings} {job : AgentRunJob} {attempt : Attempt}

abbrev chargeLeads {α : Type} (settings : Settings) (job : AgentRunJob) (computation : ControlExec α)
    (returned : α → Dict → Standing → Prop) (raised : Exc → Dict → Standing → Prop)
    (dict : Dict) (standing : Standing) : Prop :=
  Exec.leads (controlOf (Standing.Step settings job)) computation returned raised dict standing

theorem Works.of_attempt (tells : Tells job attempt.dict attempt.progress) :
    Works job attempt attempt.dict (.working attempt) :=
  ⟨attempt, rfl, .refl attempt, rfl, tells⟩

theorem Works.near {base : Attempt} {dict : Dict} {standing : Standing} (near : Near base attempt)
    (works : Works job attempt dict standing) : Works job base dict standing := by
  obtain ⟨other, rfl, here, same, tells⟩ := works
  exact ⟨other, rfl, near.trans here, same, tells⟩

theorem Stops.near {base : Attempt} {error : Exc} {dict : Dict} {standing : Standing}
    (near : Near base attempt) (stops : Stops job attempt error dict standing) :
    Stops job base error dict standing := by
  rcases stops with works | ⟨rfl, cause⟩
  · exact .inl (works.near near)
  · exact .inr ⟨by rw [near.control], cause⟩

theorem leads_saves {control : Control} {site : Site} {updates : Dict} {after : Attempt}
    {returned : Unit → Dict → Standing → Prop} {raised : Exc → Dict → Standing → Prop}
    (same : attempt.control = control)
    (step : attempt.Step settings job
      (checkpointed control.lease site (attempt.dict.update updates) (.ok ())) after)
    (onReturn : returned () (attempt.dict.update updates) (.working after))
    (onRaise : ∀ error, raised (.store error) (attempt.dict.update updates)
      (.failing control.lease)) :
    chargeLeads settings job (control.persist site updates) returned raised attempt.dict
      (.working attempt) := by
  subst same
  refine leads_persist fun reply => ?_
  cases reply with
  | ok accepted => exact ⟨.working after, .works step, nofun, fun _ => onReturn⟩
  | error error =>
      refine ⟨.failing attempt.control.lease, .refused, ?_, nofun⟩
      rintro _ ⟨_⟩
      exact onRaise error

theorem tells_other {dict updates : Dict} {progress : Progress} (tells : Tells job dict progress)
    (other : (updates.map Prod.fst).all (fun key => !Progress.keys.contains key) = true) :
    Tells job (dict.update updates) progress := by
  refine tells.update_other fun key member updated => ?_
  have absent := List.all_eq_true.mp other key updated
  simp [member] at absent

theorem Control.Reserves.admitted {control : Control} {dict after : Dict} {input output : Int}
    (reserves : control.Reserves dict input output after) : control.Admitted after := by
  obtain ⟨_, _, reserved, before, counted, read, within, rfl⟩ := reserves
  refine ⟨reserved + input + output, control.charged before input output, ?_, ?_, within⟩
  · simp [counter, Dict.getD, readInt]
  · simp [reservedCost, Dict.getD, readDecimal, Decimal.parse_text]

theorem leads_reserve {control : Control} (same : attempt.control = control) {input output : Int}
    (tells : Tells job attempt.dict attempt.progress) (calls : attempt.stage.Calls) :
    chargeLeads settings job (control.reserve input output)
      (fun _ dict standing => ∃ after, standing = .working after ∧ Near attempt after ∧
        dict = after.dict ∧ Tells job after.dict after.progress ∧
        after.charge = .reserved input output ∧ control.Admitted after.dict)
      (Stops job attempt) attempt.dict (.working attempt) := by
  subst same
  have quiet := standing_quiet settings job (.working attempt)
  have stays : ∀ error, Stops job attempt error attempt.dict (.working attempt) :=
    fun _ => .inl (.of_attempt tells)
  unfold Control.reserve
  refine Exec.leads_seq (Exec.leads_raiseIf (fun positive => ?_) fun _ => stays _)
  refine Exec.leads_seq (leads_guard quiet (fun _ _ => ?_) fun error _ => stays error)
  refine Exec.leads_seq (Exec.leads_get (Exec.leads_seq ?_))
  refine Exec.leads_ofExcept (fun reserved counted => ?_) fun error _ => stays error
  refine Exec.leads_seq (Exec.leads_ofExcept (fun before read => ?_) fun error _ => stays error)
  refine Exec.leads_seq (Exec.leads_raiseIf (fun within => ?_) fun _ => stays _)
  push Not at positive
  have reserves : attempt.control.Reserves attempt.dict input output _ :=
    ⟨positive.1, positive.2, reserved, before, counted, read, within, rfl⟩
  refine leads_saves rfl (.reserved calls reserves) ?_ fun error => .inr ⟨rfl, error, rfl⟩
  exact ⟨_, rfl, ⟨rfl, rfl, rfl, rfl⟩, rfl, tells_other tells rfl, rfl,
    reserves.admitted⟩

theorem leads_invoke {control : Control} (same : attempt.control = control) {input output : Int}
    (call : ModelCall) (tells : Tells job attempt.dict attempt.progress)
    (reserved : attempt.charge = .reserved input output)
    (admitted : control.Admitted attempt.dict) :
    chargeLeads settings job (invoke call)
      (fun response dict standing => ∃ after, standing = .working after ∧ Near attempt after ∧
        dict = after.dict ∧ Tells job after.dict after.progress ∧
        after.charge = .replied input output response.usage)
      (Stops job attempt) attempt.dict (.working attempt) := by
  subst same
  refine Exec.leads_seq (Exec.leads_ask fun (reply : Except Exc ModelResponse) => ?_)
  refine ⟨_, .works (.invoked reserved admitted), Exec.leads_ofExcept (fun response same => ?_)
    fun error _ => .inl ⟨_, rfl, ⟨rfl, rfl, rfl, rfl⟩, rfl, tells⟩⟩
  subst same
  exact ⟨_, rfl, ⟨rfl, rfl, rfl, rfl⟩, rfl, tells, rfl⟩

theorem leads_reconcileUsage {control : Control} (same : attempt.control = control)
    {input output : Int} (response : ModelResponse)
    (tells : Tells job attempt.dict attempt.progress) (calls : attempt.stage.Calls)
    (replied : attempt.charge = .replied input output response.usage) :
    chargeLeads settings job (reconcileUsage control response input output)
      (fun _ dict standing => Works job attempt dict standing) (Stops job attempt) attempt.dict
      (.working attempt) := by
  subst same
  have stays : Works job attempt attempt.dict (.working attempt) := .of_attempt tells
  unfold reconcileUsage
  split
  · rename_i usage isUsage
    split
    · rename_i promptTokens completionTokens prompt completion
      unfold Control.reconcile
      split
      · rename_i inputTokens outputTokens readInput readOutput
        have used : response.usage = some (inputTokens, outputTokens) := by
          simp only [ModelResponse.usage, isUsage, prompt, completion, readInput, readOutput]
        rw [used] at replied
        refine Exec.leads_seq (Exec.leads_get (Exec.leads_seq ?_))
        refine Exec.leads_ofExcept (fun reserved counted => ?_) fun error _ => .inl stays
        refine Exec.leads_seq (Exec.leads_ofExcept (fun before read => ?_) fun error _ => .inl stays)
        refine Exec.leads_seq (Exec.leads_ofExcept (fun reportedInput countedInput => ?_)
          fun error _ => .inl stays)
        refine Exec.leads_seq (Exec.leads_ofExcept (fun reportedOutput countedOutput => ?_)
          fun error _ => .inl stays)
        refine Exec.leads_seq ?_
        have reconciles : attempt.control.Reconciles attempt.dict inputTokens outputTokens input
            output _ := ⟨reserved, before, reportedInput, reportedOutput, counted, read,
          countedInput, countedOutput, rfl⟩
        refine leads_saves rfl (.reconciled replied calls reconciles) ?_
          fun error => .inr ⟨rfl, error, rfl⟩
        refine Exec.leads_raiseIf (fun _ => ?_) fun _ => .inl ?_
        all_goals exact ⟨_, rfl, ⟨rfl, rfl, rfl, rfl⟩, rfl, tells_other tells rfl⟩
      · exact stays
    · exact stays
  · exact stays

/-- The calls of an adapter: an estimate is reserved, the model is called and its
usage reconciled. -/
theorem leads_decide {control : Control} (same : attempt.control = control) {mode : AnswerMode}
    (messages : List DecisionMessage) (tools : List ToolSchema) (timeout : Time)
    (tells : Tells job attempt.dict attempt.progress) (calls : attempt.stage.Calls) :
    chargeLeads settings job
      (JsonDecisionAdapter.decide settings mode control messages tools timeout)
      (fun _ dict standing => Works job attempt dict standing) (Stops job attempt) attempt.dict
      (.working attempt) := by
  unfold JsonDecisionAdapter.decide
  refine Exec.leads_seq (Exec.leads_raiseIf (fun _ => ?_) fun _ => .inl (.of_attempt tells))
  refine Exec.leads_bind (leads_reserve same tells calls) ?_
  rintro _ _ _ ⟨first, rfl, near, rfl, tells, charge, admitted⟩
  have sameFirst := near.control.trans same
  refine Exec.leads_bind (Exec.leads_mono (leads_invoke sameFirst _ tells charge admitted)
    (fun _ _ _ holds => holds) fun error _ _ stops => stops.near near) ?_
  rintro response _ _ ⟨second, rfl, nearSecond, rfl, tells, replied⟩
  have nearBoth := near.trans nearSecond
  have callsSecond : second.stage.Calls := nearBoth.stage ▸ calls
  refine Exec.leads_bind (Exec.leads_mono (leads_reconcileUsage (nearBoth.control.trans same)
    response tells callsSecond replied) (fun _ _ _ works => works.near nearBoth)
    fun error _ _ stops => stops.near nearBoth) ?_
  intro _ dict standing works
  exact Exec.leads_ofExcept (fun _ _ => works) fun _ _ => .inl works

theorem leads_review {control : Control} (same : attempt.control = control)
    (request : DocumentReviewRequest) (timeout : Time)
    (tells : Tells job attempt.dict attempt.progress) (calls : attempt.stage.Calls) :
    chargeLeads settings job (JsonDocumentAnswerReviewer.review settings control request timeout)
      (fun _ dict standing => Works job attempt dict standing) (Stops job attempt) attempt.dict
      (.working attempt) := by
  have stays : ∀ error, Stops job attempt error attempt.dict (.working attempt) :=
    fun _ => .inl (.of_attempt tells)
  unfold JsonDocumentAnswerReviewer.review
  dsimp only
  generalize JsonDocumentAnswerReviewer.instructions settings = instructions,
    Json.render Json.compact request.dump = payload
  refine Exec.leads_seq (Exec.leads_raiseIf (fun _ => ?_) fun _ => stays _)
  refine Exec.leads_seq (Exec.leads_raiseIf (fun _ => ?_) fun _ => stays _)
  refine Exec.leads_seq (leads_guard (standing_quiet _ _ _) (fun _ _ => ?_)
    fun error _ => stays error)
  refine Exec.leads_bind (leads_reserve same tells calls) ?_
  rintro _ _ _ ⟨first, rfl, near, rfl, tells, charge, admitted⟩
  have sameFirst := near.control.trans same
  refine Exec.leads_bind (Exec.leads_mono (leads_invoke sameFirst _ tells charge admitted)
    (fun _ _ _ holds => holds) fun error _ _ stops => stops.near near) ?_
  rintro response _ _ ⟨second, rfl, nearSecond, rfl, tells, replied⟩
  have nearBoth := near.trans nearSecond
  have callsSecond : second.stage.Calls := nearBoth.stage ▸ calls
  have works : Works job attempt second.dict (.working second) :=
    ⟨second, rfl, nearBoth, rfl, tells⟩
  refine Exec.leads_seq (leads_guard (standing_quiet _ _ _) (fun _ _ => ?_)
    fun error _ => .inl works)
  refine Exec.leads_bind (Exec.leads_mono (leads_reconcileUsage (nearBoth.control.trans same)
    response tells callsSecond replied) (fun _ _ _ works => works.near nearBoth)
    fun error _ _ stops => stops.near nearBoth) ?_
  intro _ dict standing works
  exact Exec.leads_ofExcept (fun _ _ => works) fun _ _ => .inl works

theorem leads_recover {control : Control} (same : attempt.control = control) {stage : Stage}
    (recovers : attempt.stage.Recovers settings.tools stage)
    (tells : Tells job attempt.dict attempt.progress) :
    chargeLeads settings job control.recover
      (fun admitted dict standing =>
        (admitted = false ∧ dict = attempt.dict ∧ standing = .working attempt) ∨
        (admitted = true ∧ ∃ after, standing = .working after ∧ after.control = attempt.control ∧
          after.number = attempt.number ∧ after.progress = attempt.progress ∧
          after.stage = stage ∧ dict = after.dict ∧ Tells job after.dict after.progress))
      (Stops job attempt) attempt.dict (.working attempt) := by
  subst same
  unfold Control.recover
  refine Exec.leads_seq (Exec.leads_get (Exec.leads_seq (Exec.leads_ofExcept (fun used counted => ?_)
    fun error _ => .inl (.of_attempt tells))))
  refine Exec.leads_ite (fun _ => .inl ⟨rfl, rfl, rfl⟩) fun left_ => Exec.leads_seq ?_
  refine leads_saves rfl (.recovered recovers counted (not_le.mp left_)) ?_
    fun error => .inr ⟨rfl, error, rfl⟩
  exact .inr ⟨rfl, _, rfl, rfl, rfl, rfl, rfl, rfl, tells_other tells rfl⟩

end Charges

end Crewos.Agent

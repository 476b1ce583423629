import Crewos.Agent.LoopProtocol

/-! # A delivery follows the protocol

From the restored checkpoint to the answer that is returned: the loop as a
whole, the attempt under its control and the job runner around them. -/

namespace Crewos.Agent

open Foundation RunStore

section Delivery

variable {settings : Settings} {job : AgentRunJob} {control : Control} {remaining : Time}
  {attempt : Attempt} {standing : Standing}

/-! ## The loop as a whole -/

theorem questionOf_eq {dict : Dict} {progress : Progress} (tells : Tells job dict progress) :
    (Runner.buildAgentLoop settings control job remaining).questionOf dict = job.message.value := by
  have last : AgentLoop.lastQuestion [Runner.userMessage job] = job.message.value := rfl
  unfold AgentLoop.questionOf
  rcases tells.get? ("document_question", .str job.message.value) (by simp [Progress.fields]) with
    here | ⟨here, _⟩
  · rw [here]
    dsimp only
    split
    · exact last
    · rfl
  · rw [here]
    exact last

theorem restore_reflects {dict : Dict} {progress : Progress} {started : Time} {frame : Frame}
    (tells : Tells job dict progress)
    (restored : (Runner.buildAgentLoop settings control job remaining).restore dict started =
      .ok frame) :
    frame.state = dict ∧ frame.step = progress.decisions ∧
      ∀ history, history = progress.history →
        Reflects job history frame.observedSources frame.observedPassages
          frame.documentSearchCompleted frame.documentQuestion progress := by
  unfold AgentLoop.restore at restored
  rw [tells.decisions, tells.toolCalls, tells.toolsCompleted, tells.sources, tells.passages]
    at restored
  cases restored
  refine ⟨rfl, rfl, fun history same => ⟨same, fun _ => List.mem_dedup,
    keepPassages progress.distinct, tells.searched, questionOf_eq tells⟩⟩

/-- An attempt whose limits are saved, and that has no answer yet. -/
structure Continues (job : AgentRunJob) (control : Control) (attempt : Attempt) : Prop where
  control : attempt.control = control
  tells : Tells job attempt.dict attempt.progress
  stage : (∃ decision, attempt.progress.pending = some decision ∧
      attempt.stage = .chosen (.toolCall decision)) ∨
    (attempt.progress.pending = none ∧ attempt.stage = .idle)

theorem stepRange_succ (decisions last : Nat) :
    AgentLoop.stepRange ((decisions : Int) + 1) last =
      (List.range' (decisions + 1) (last - decisions)).map Int.ofNat := by
  have first : (max 1 ((decisions : Int) + 1)).toNat = decisions + 1 := by omega
  have count : last + 1 - (decisions + 1) = last - decisions := by omega
  rw [AgentLoop.stepRange, first, count]

theorem stepRange_begun {decisions : Nat} (begun : 1 ≤ decisions) (last : Nat) :
    AgentLoop.stepRange (decisions : Int) last =
      (List.range' decisions (last + 1 - decisions)).map Int.ofNat := by
  have first : (max 1 (decisions : Int)).toNat = decisions := by omega
  rw [AgentLoop.stepRange, first]

theorem leads_fresh {decisions : Nat} {frame : Frame}
    (rests : Rests job control decisions frame standing) :
    loopLeads settings job
      ((Runner.buildAgentLoop settings control job remaining).turns
        (AgentLoop.stepRange ((decisions : Int) + 1) job.maxDecisions) none)
      (fun answer frame standing => ∃ decisions,
        Stands job control (.answered answer) decisions frame standing)
      (Reported control) frame standing := by
  rw [stepRange_succ]
  exact leads_turns rests (by omega)

theorem leads_resumed {decisions : Nat} {decision : ToolCallDecision} {frame : Frame}
    (begun : 1 ≤ decisions)
    (inLoop : InLoop job control (.chosen (.toolCall decision)) decisions frame attempt) :
    loopLeads settings job
      ((Runner.buildAgentLoop settings control job remaining).turns
        (AgentLoop.stepRange decisions job.maxDecisions) (some decision.dump))
      (fun answer frame standing => ∃ decisions,
        Stands job control (.answered answer) decisions frame standing)
      (Reported control) frame (.working attempt) := by
  have valid := ModelDecision.validate_toolCall job.answerMode decision
  rw [stepRange_begun begun]
  generalize decision.dump = pending at valid ⊢
  cases left_ : job.maxDecisions + 1 - decisions with
  | zero =>
      unfold AgentLoop.turns
      exact Exec.leads_seq (leads_checkDeadline (standing_quiet _ _ _)
        (Exec.leads_seq (Exec.leads_modify inLoop.reports)) fun _ _ _ => inLoop.reports)
  | succ turns =>
      unfold AgentLoop.turns
      refine Exec.leads_bind (leads_replay begun valid inLoop) fun answer frame standing turned => ?_
      cases answer with
      | some answer => exact ⟨_, turned⟩
      | none => exact leads_turns turned (by omega)

theorem leads_body {frame : Frame} (continues : Continues job control attempt)
    (state : frame.state = attempt.dict) (step : frame.step = attempt.progress.decisions)
    (reflects : ∀ history, history = attempt.progress.history →
      Reflects job history frame.observedSources frame.observedPassages
        frame.documentSearchCompleted frame.documentQuestion attempt.progress) :
    loopLeads settings job (Runner.buildAgentLoop settings control job remaining).body
      (fun answer frame standing => ∃ decisions,
        Stands job control (.answered answer) decisions frame standing)
      (Reported control) frame (.working attempt) := by
  have reports : (Standing.working attempt).Reports control.lease := continues.control ▸ .working
  have tells := continues.tells
  unfold AgentLoop.body
  refine Exec.leads_seq (Exec.leads_get (Exec.leads_seq ?_))
  refine Exec.leads_raiseIf (fun _ => ?_) fun _ => reports
  rw [state, step]
  refine Exec.leads_seq (Exec.leads_ofExcept (fun history read => ?_) fun _ _ => reports)
  refine Exec.leads_seq (Exec.leads_modify ?_)
  cases tells.history.symm.trans read
  rw [tells.pending]
  rcases continues.stage with ⟨decision, marked, chosen⟩ | ⟨settled, idle⟩
  · rw [marked]
    refine leads_resumed (attempt.progress.begun (marked ▸ nofun)) ?_
    exact ⟨fun _ => step, continues.control, chosen, rfl, state, tells, reflects _ rfl⟩
  · rw [settled]
    refine leads_fresh ⟨attempt, rfl, ?_, settled⟩
    exact ⟨fun busy => absurd rfl busy, continues.control, idle, rfl, state, tells, reflects _ rfl⟩

def Answered (control : Control) (answer : AgentAnswer) (standing : Standing) : Prop :=
  ∃ after, standing = .working after ∧ after.control = control ∧ after.stage = .answered answer

theorem leads_run (continues : Continues job control attempt) :
    Exec.leads (Standing.Step settings job)
      (Runner.buildAgentLoop settings control job remaining).run
      (fun answer _ standing => Answered control answer standing)
      (fun _ _ standing => standing.Reports control.lease) attempt.dict (.working attempt) := by
  have reports : (Standing.working attempt).Reports control.lease := continues.control ▸ .working
  unfold AgentLoop.run
  refine Exec.leads_seq (Exec.leads_ask fun started =>
    ⟨_, standing_quiet settings job _ ⟨.perfCounter, started⟩ rfl, ?_⟩)
  refine Exec.leads_seq (Exec.leads_get (Exec.leads_seq ?_))
  refine Exec.leads_ofExcept (fun frame restored => ?_) fun _ _ => reports
  obtain ⟨state, step, reflects⟩ := restore_reflects continues.tells restored
  refine Exec.leads_zoom (Exec.leads_tryCatch (Exec.leads_mono (leads_body continues rfl step
    reflects) ?_ fun _ _ _ reports => reports) fun error frame standing reports =>
      leads_counted (standing_quiet _ _ _) reports)
  rintro answer frame _ ⟨_, after, rfl, inLoop⟩
  exact ⟨after, rfl, inLoop.control, inLoop.stage⟩

theorem leads_liveAnswer (continues : Continues job control attempt) :
    Exec.leads (Standing.Step settings job) (Runner.liveAnswer settings control job)
      (fun answer _ standing => Answered control answer standing)
      (fun _ _ standing => standing.Reports control.lease) attempt.dict (.working attempt) := by
  have reports : (Standing.working attempt).Reports control.lease := continues.control ▸ .working
  unfold Runner.liveAnswer
  refine Exec.leads_seq (Exec.leads_embed (fun _ _ => rfl)
    (leads_guard (standing_quiet _ _ _) (fun remaining _ => ?_) fun _ _ => reports))
  refine Exec.leads_seq (Exec.leads_raiseIf (fun _ => ?_) fun _ => reports)
  refine Exec.leads_seq (Exec.leads_ask fun built => ⟨_, .plain rfl, ?_⟩)
  exact Exec.leads_seq (Exec.leads_ofExcept (fun _ _ => leads_run continues) fun _ _ => reports)

/-! ## The attempt -/

theorem leads_limits {dict : Dict} (same : attempt.control = control)
    (opening : attempt.stage = .opening) (claimed : attempt.dict = dict)
    (tells : Tells job attempt.dict attempt.progress) :
    Exec.leads (Standing.Step settings job)
      (liftControl (control.persist .limits [("limits", Runner.limitsOf settings dict)]))
      (fun _ saved standing => Exec.leads (Standing.Step settings job)
        (if (dict.getD "final_result" .null).truthy then
          Exec.ofExcept (Runner.finalResult settings job dict)
        else Runner.liveAnswer settings control job)
        (fun answer _ standing => Answered control answer standing)
        (fun _ _ standing => standing.Reports control.lease) saved standing)
      (fun _ _ standing => standing.Reports control.lease) dict (.working attempt) := by
  subst same claimed
  have refusals : ∀ error : RunStoreError, Standing.Step settings job (.working attempt)
      (checkpointed attempt.control.lease .limits
        (attempt.dict.update [("limits", Runner.limitsOf settings attempt.dict)]) (.error error))
      (.failing attempt.control.lease) := fun _ => .refused
  refine Exec.leads_embed (fun _ _ => rfl) (leads_persist fun reply => ?_)
  cases reply with
  | error error => exact ⟨_, refusals error, fun _ _ => .failing, nofun⟩
  | ok accepted =>
      cases present : (attempt.dict.getD "final_result" .null).truthy with
      | true =>
          cases final : Runner.finalResult settings job attempt.dict with
          | ok answer =>
              exact ⟨_, .works (.opened opening (.final present final)), nofun,
                fun _ => ⟨_, rfl, rfl, rfl⟩⟩
          | error error => exact ⟨_, .stuck opening, nofun, fun _ => .failing⟩
      | false =>
          have saved : Tells job
              (attempt.dict.update [("limits", Runner.limitsOf settings attempt.dict)])
              attempt.progress := tells_other tells rfl
          cases pending : attempt.progress.pending with
          | some decision =>
              exact ⟨_, .works (.opened opening (.pending present pending)), nofun, fun _ =>
                leads_liveAnswer ⟨rfl, saved, .inl ⟨decision, pending, rfl⟩⟩⟩
          | none =>
              exact ⟨_, .works (.opened opening (.fresh present pending)), nofun, fun _ =>
                leads_liveAnswer ⟨rfl, saved, .inr ⟨pending, rfl⟩⟩⟩

theorem leads_finish {token : String} {answer : AgentAnswer} {state : Dict}
    (lease : control.lease = Runner.jobLease job token)
    (answered : Answered control answer standing) :
    Exec.leads (Standing.Step settings job)
      (do
        Runner.stored
          (← Runner.ask (.finish (Runner.jobLease job token) .succeeded (some answer.dump) none))
        let row ← Runner.stored (← Runner.ask (.get job.agentRunId.text job.tenantId))
        Exec.raiseIf (row.state = .cancelled) (.store (.runCancelled "Run cancelled"))
        return answer)
      (fun answer (_ : Dict) standing => standing = .delivered answer)
      (fun _ _ standing => standing.Reports control.lease) state standing := by
  obtain ⟨after, rfl, same, stage⟩ := answered
  rw [← lease, ← same]
  refine Exec.leads_seq (Exec.leads_ask fun (reply : Except RunStoreError Unit) => ?_)
  cases reply with
  | error error => exact ⟨_, .finishRefused stage, .failing⟩
  | ok accepted =>
      refine ⟨_, .finishes stage, Exec.leads_seq (Exec.leads_pure ?_)⟩
      refine Exec.leads_seq (Exec.leads_ask fun (reply : Except RunStoreError RunRow) => ?_)
      cases reply with
      | error error => exact ⟨_, .gotOther, .failing⟩
      | ok row =>
          by_cases cancelled : row.state = .cancelled
          · refine ⟨_, .gotOther, Exec.leads_seq (Exec.leads_pure (Exec.leads_seq ?_))⟩
            exact Exec.leads_raiseIf (fun kept => absurd cancelled kept) fun _ => .failing
          · refine ⟨_, .got cancelled, Exec.leads_seq (Exec.leads_pure (Exec.leads_seq ?_))⟩
            exact Exec.leads_raiseIf (fun _ => rfl) fun now => absurd now cancelled

theorem leads_attempt {record : RunRow} {token : String} (same : attempt.control = control)
    (lease : control.lease = Runner.jobLease job token) (opening : attempt.stage = .opening)
    (claimed : attempt.dict = record.checkpoint)
    (tells : Tells job attempt.dict attempt.progress) :
    Exec.leads (Standing.Step settings job)
      (Runner.attempt settings control job record (Runner.limitsOf settings record.checkpoint)
        token)
      (fun answer _ standing => standing = .delivered answer)
      (fun _ _ standing => standing.Reports control.lease) record.checkpoint
      (.working attempt) := by
  unfold Runner.attempt
  refine Exec.leads_seq (Exec.leads_ask fun started => ⟨_, .plain rfl, ?_⟩)
  refine Exec.leads_seq (Exec.leads_mono (leads_limits same opening claimed tells)
    (fun _ saved standing limited => ?_) fun _ _ _ reports => reports)
  by_cases present : (record.checkpoint.getD "final_result" .null).truthy = true
  · rw [if_pos present] at limited ⊢
    exact Exec.leads_bind limited fun _ _ _ answered => leads_finish lease answered
  · rw [if_neg present] at limited ⊢
    exact Exec.leads_bind limited fun _ _ _ answered => leads_finish lease answered

/-! ## The job runner -/

abbrev runnerLeads (settings : Settings) (job : AgentRunJob) (computation : RunnerExec AgentAnswer)
    (returned : AgentAnswer → Standing → Prop) (raised : Standing → Prop) (state : Option Dict)
    (standing : Standing) : Prop :=
  Exec.leads (Standing.Step settings job) computation (fun answer _ => returned answer)
    (fun _ _ => raised) state standing

theorem control_lease {lease : Lease} {limits : Json} {cost : Option String}
    (built : Runner.buildControl settings lease limits cost = .ok control) :
    control.lease = lease := by
  obtain ⟨_, _, built⟩ := Outcome.bind_eq_ok.mp built
  obtain ⟨_, _, built⟩ := Outcome.bind_eq_ok.mp built
  obtain ⟨_, _, built⟩ := Outcome.bind_eq_ok.mp built
  obtain ⟨_, _, built⟩ := Outcome.bind_eq_ok.mp built
  unfold Control.create at built
  obtain ⟨_, _, built⟩ := Outcome.bind_eq_ok.mp built
  obtain ⟨_, _, built⟩ := Outcome.bind_eq_ok.mp built
  obtain ⟨_, _, built⟩ := Outcome.bind_eq_ok.mp built
  obtain ⟨_, _, built⟩ := Outcome.bind_eq_ok.mp built
  obtain ⟨_, _, built⟩ := Outcome.bind_eq_ok.mp built
  cases built
  rfl

theorem leads_report {token : String} {error : Exc} {state : Option Dict}
    (reports : standing.Reports (Runner.jobLease job token)) :
    runnerLeads settings job (Runner.report job token error) (fun _ _ => False) (fun _ => True) state
      standing := by
  have failure : Runner.failureState state error ≠ .succeeded := by
    unfold Runner.failureState
    split
    · nofun
    · nofun
    · nofun
    · nofun
    · split <;> nofun
  unfold Runner.report
  refine Exec.leads_seq (Exec.leads_get (Exec.leads_seq (Exec.leads_ask fun reply => ?_)))
  refine ⟨_, .reports reports failure, ?_⟩
  exact Exec.leads_seq (Exec.leads_ofExcept (fun _ _ => trivial) fun _ _ => trivial)

theorem leads_close {returned : Standing → Prop} {raised : Exc → Option Dict → Standing → Prop}
    {state : Option Dict} (holds : returned standing) :
    Exec.leads (Standing.Step settings job) Runner.close (fun _ _ => returned) raised state
      standing := by
  unfold Runner.close
  refine Exec.leads_seq (Exec.leads_get (Exec.leads_ite (fun _ => ?_) fun _ => holds))
  exact Exec.leads_ask fun reply => ⟨_, .plain rfl, holds⟩

theorem leads_reported {computation : RunnerExec AgentAnswer} {token : String}
    {state : Option Dict}
    (holds : runnerLeads settings job computation
      (fun answer standing => standing = .delivered answer)
      (fun standing => standing.Reports (Runner.jobLease job token)) state standing) :
    runnerLeads settings job
      (Exec.andFinally (tryCatch computation (Runner.report job token)) Runner.close)
      (fun answer standing => standing = .delivered answer) (fun _ => True) state standing := by
  have caught : runnerLeads settings job (tryCatch computation (Runner.report job token))
      (fun answer standing => standing = .delivered answer) (fun _ => True) state standing := by
    refine Exec.leads_tryCatch holds fun error state standing reports => ?_
    exact Exec.leads_mono (leads_report reports) (fun _ _ _ impossible => impossible.elim)
      fun _ _ _ holds => holds
  exact Exec.leads_andFinally caught (fun answer state standing delivered => leads_close delivered)
    fun error state standing _ => leads_close trivial

theorem leads_controlled {record : RunRow} {token cost : _} {progress : Progress}
    (claimed : Claimed job record token progress)
    (priced : Runner.costLimit settings (Runner.limitsOf settings record.checkpoint) = .ok cost)
    {state : Option Dict} :
    ∃ standing, Standing.Step settings job .waiting
        ⟨.claim job.dump, (Except.ok record : Except RunStoreError RunRow)⟩ standing ∧
      runnerLeads settings job
        (Runner.controlled settings job record (Runner.limitsOf settings record.checkpoint) cost
          token)
        (fun answer standing => standing = .delivered answer)
        (fun standing => standing.Reports (Runner.jobLease job token)) state standing := by
  have lease : ({ runId := record.id, tenant := record.tenant, token } : Lease) =
      Runner.jobLease job token := by
    rw [Runner.jobLease, claimed.id, claimed.tenant]
  unfold Runner.controlled
  rw [lease]
  cases built : Runner.buildControl settings (Runner.jobLease job token)
      (Runner.limitsOf settings record.checkpoint) cost with
  | error error => exact ⟨_, .claimFailed claimed, .failing⟩
  | ok control =>
      have same : controlFor settings (Runner.jobLease job token) record.checkpoint = .ok control :=
        Outcome.bind_eq_ok.mpr ⟨cost, priced, built⟩
      have held := control_lease built
      refine ⟨_, .claimed claimed same, Exec.leads_seq (Exec.leads_pure (Exec.leads_zoom ?_))⟩
      exact Exec.leads_mono (leads_attempt rfl held rfl rfl claimed.tells)
        (fun _ _ _ delivered => delivered) fun _ _ _ reports => held ▸ reports

theorem leads_execute {record : RunRow} {token : String} {progress : Progress}
    (claimed : Claimed job record token progress) {state : Option Dict} :
    ∃ standing, Standing.Step settings job .waiting
        ⟨.claim job.dump, (Except.ok record : Except RunStoreError RunRow)⟩ standing ∧
      runnerLeads settings job (Runner.execute settings job record)
        (fun answer standing => standing = .delivered answer) (fun _ => True) state standing := by
  have tokens : Runner.tokenOf record = .ok token := by
    rw [Runner.tokenOf, claimed.held]
  unfold Runner.execute
  rw [tokens]
  cases priced : Runner.costLimit settings (Runner.limitsOf settings record.checkpoint) with
  | error error =>
      refine ⟨_, .claimFailed claimed, Exec.leads_seq (Exec.leads_pure (Exec.leads_seq ?_))⟩
      refine Exec.leads_ofExcept (fun cost accepted => ?_) fun _ _ => trivial
      cases priced.symm.trans accepted
  | ok cost =>
      obtain ⟨standing, step, holds⟩ := @leads_controlled _ _ _ _ _ _ claimed priced state
      refine ⟨standing, step, Exec.leads_seq (Exec.leads_pure (Exec.leads_seq ?_))⟩
      refine Exec.leads_ofExcept (fun found accepted => ?_) fun _ _ => trivial
      cases priced.symm.trans accepted
      exact leads_reported holds

theorem unreal_any (settings : Settings) (job : AgentRunJob) (computation : RunnerExec AgentAnswer)
    (state : Option Dict) :
    runnerLeads settings job computation (fun _ standing => standing = .unreal)
      (fun standing => standing = .unreal) state .unreal := by
  refine Exec.Keeps.any ?_ state _ rfl
  rintro _ event rfl
  exact ⟨.unreal, .unreal, rfl⟩

/-- Every delivery of a job follows the protocol. -/
theorem delivery_follows {payload : Json} (valid : AgentRunJob.validate payload = some job) :
    Follows (Standing.Step settings job) (fun out standing => standing.Ends out.1)
      (delivery settings payload) .waiting := by
  have holds : runnerLeads settings job (executeAgentJob settings payload)
      (fun answer standing => standing = .delivered answer ∨ standing = .cached answer ∨
        standing = .unreal) (fun _ => True) none .waiting := by
    unfold executeAgentJob
    rw [valid]
    refine Exec.leads_seq (Exec.leads_pure (Exec.leads_seq ?_))
    refine Exec.leads_raiseIf (fun _ => ?_) fun _ => trivial
    refine Exec.leads_seq (Exec.leads_ask fun (reply : Except RunStoreError RunRow) => ?_)
    cases reply with
    | error error => exact ⟨_, .claimRefused, trivial⟩
    | ok record =>
        by_cases done : record.state = .succeeded
        · cases cached : AgentAnswer.validate job.answerMode (record.result.getD .null) with
          | none =>
              refine ⟨_, .claimUnread done, Exec.leads_seq (Exec.leads_pure ?_)⟩
              rw [if_pos done, cached]
              trivial
          | some answer =>
              refine ⟨_, .claimCached done cached, Exec.leads_seq (Exec.leads_pure ?_)⟩
              rw [if_pos done, cached]
              exact .inr (.inl rfl)
        · by_cases real : ∃ token progress, Claimed job record token progress
          · obtain ⟨token, progress, claimed⟩ := real
            obtain ⟨standing, step, holds⟩ := @leads_execute settings _ _ _ _ claimed none
            refine ⟨standing, step, Exec.leads_seq (Exec.leads_pure ?_)⟩
            rw [if_neg done]
            exact Exec.leads_mono holds (fun _ _ _ delivered => .inl delivered)
              fun _ _ _ holds => holds
          · have impossible : ∀ token progress, ¬Claimed job record token progress :=
              fun token progress claimed => real ⟨token, progress, claimed⟩
            refine ⟨_, .claimUnreal done impossible, Exec.leads_seq (Exec.leads_pure ?_)⟩
            rw [if_neg done]
            exact Exec.leads_mono (unreal_any settings job _ _)
              (fun _ _ _ unreal => .inr (.inr unreal)) fun _ _ _ _ => trivial
  refine Follows.mono holds ?_
  rintro ⟨out, state⟩ standing ends answer rfl
  exact ends

end Delivery

end Crewos.Agent

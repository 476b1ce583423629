import Crewos.Agent.Budgets
import Crewos.Agent.EvidenceGate
import Crewos.Foundation.Plays

/-! # The final-result branch

Once an answer is saved, the durable checkpoint keeps it whatever becomes of the
attempt that saved it. The next delivery that claims the run takes the
final-result branch, which returns that answer and calls neither model nor tool. -/

namespace Crewos.Agent

open Foundation RunStore

/-! ## Controls that can be built -/

/-- Whoever claims the run can build a control from its checkpoint. -/
def Builds (settings : Settings) (dict : Dict) : Prop :=
  ∀ lease, ∃ control, controlFor settings lease dict = .ok control

theorem Builds.of_controlFor {settings : Settings} {lease : Lease} {dict : Dict}
    {control : Control} (built : controlFor settings lease dict = .ok control) :
    Builds settings dict := by
  intro other
  obtain ⟨cost, limited, built⟩ := Outcome.bind_eq_ok.mp built
  simp only [Runner.buildControl, Outcome.bind_eq_ok] at built
  obtain ⟨tokens, limit, maxTokens, read, recoveries, limited', most, read', created⟩ := built
  simp only [Control.create, Outcome.bind_eq_ok, Outcome.pure_eq_ok] at created
  obtain ⟨maxCost, cost', _, rates, _, valid, _, nonnegative, _, both, same⟩ := created
  refine ⟨{ control with lease := other }, Outcome.bind_eq_ok.mpr ⟨cost, limited, ?_⟩⟩
  simp only [Runner.buildControl, Outcome.bind_eq_ok]
  refine ⟨tokens, limit, maxTokens, read, recoveries, limited', most, read', ?_⟩
  simp only [Control.create, Outcome.bind_eq_ok, Outcome.pure_eq_ok]
  exact ⟨maxCost, cost', _, rates, _, valid, _, nonnegative, _, both, by rw [← same]⟩

section Steps

variable {settings : Settings} {job : AgentRunJob} {attempt after : Attempt} {taken : Event Reply}
  {dict : Dict} {answer : AgentAnswer}

theorem Builds.congr {left right : Dict} (builds : Builds settings left)
    (same : Runner.limitsOf settings right = Runner.limitsOf settings left) :
    Builds settings right := by
  unfold Builds controlFor
  rw [same]
  exact builds

theorem Builds.limited (builds : Builds settings dict) :
    Builds settings (dict.update [("limits", Runner.limitsOf settings dict)]) := by
  refine builds.congr (limitsOf_present ?_ (limitsOf_truthy settings dict))
  exact get?_update_of_mem (by simp) (List.mem_singleton_self _)

theorem Builds.step (builds : Builds settings attempt.dict)
    (step : attempt.Step settings job taken after) : Builds settings after.dict := by
  refine builds.congr ?_
  rcases step.limits with written | ⟨kept, _⟩
  · exact limitsOf_present written (limitsOf_truthy _ _)
  · rw [Runner.limitsOf, Runner.limitsOf, Dict.getD, Dict.getD, kept]

/-! ## Checkpoints that hold an answer -/

/-- The final-result branch finds the answer in this checkpoint and accepts it. -/
structure HoldsAnswer (settings : Settings) (job : AgentRunJob) (answer : AgentAnswer)
    (dict : Dict) : Prop where
  present : (dict.getD "final_result" .null).truthy = true
  valid : Runner.finalResult settings job dict = .ok answer
  builds : Builds settings dict

theorem HoldsAnswer.limited (holds : HoldsAnswer settings job answer dict) :
    HoldsAnswer settings job answer
      (dict.update [("limits", Runner.limitsOf settings dict)]) := by
  refine ⟨?_, ?_, holds.builds.limited⟩
  · rw [Dict.getD, Dict.get?_update_of_not_mem _ _ (by simp)]
    exact holds.present
  · rw [finalResult_update rfl]
    exact holds.valid

/-- An attempt on such a checkpoint has only its limits to save. -/
def Stage.Closes (answer : AgentAnswer) (stage : Stage) : Prop :=
  stage = .opening ∨ stage = .answered answer

theorem Attempt.Step.closes (step : attempt.Step settings job taken after)
    (holds : HoldsAnswer settings job answer attempt.dict) (closes : attempt.stage.Closes answer) :
    after.stage.Closes answer ∧ HoldsAnswer settings job answer after.dict := by
  have elsewhere {stage : Stage} (here : attempt.stage = stage) (opening : stage ≠ .opening)
      (answered : stage ≠ .answered answer) : False := by
    rcases closes with same | same
    · exact opening (here.symm.trans same)
    · exact answered (here.symm.trans same)
  cases step with
  | opened _ entry =>
      cases entry with
      | final _ valid =>
          cases holds.valid.symm.trans valid
          exact ⟨.inr rfl, holds.limited⟩
      | pending absent | fresh absent =>
          rw [holds.present] at absent
          cases absent
  | progressed moves =>
      rcases closes with same | same
      all_goals
        rw [same] at moves
        cases moves
  | decide raised => exact (elsewhere raised (by simp) (by simp)).elim
  | decided asked => exact (elsewhere asked (by simp) (by simp)).elim
  | reserved calls | reconciled _ calls =>
      rcases closes with same | same
      all_goals
        rw [same] at calls
        cases calls
  | invoked => exact ⟨closes, holds⟩
  | recovered recovers =>
      rcases closes with same | same
      all_goals
        rw [same] at recovers
        cases recovers
  | dispatch pended => exact (elsewhere pended (by simp) (by simp)).elim
  | returned dispatched | raised dispatched =>
      exact (elsewhere dispatched (by simp) (by simp)).elim
  | reviewed chosen => exact (elsewhere chosen (by simp) (by simp)).elim
  | answered proposes =>
      rcases closes with same | same
      all_goals
        rw [same] at proposes
        cases proposes

theorem AgentAnswer.truthy_dump (answer : AgentAnswer) : answer.dump.truthy = true := by
  cases answer <;> rfl

theorem Attempt.Step.answers {lease : Lease} {saved : Dict}
    (step : attempt.Step settings job taken after) (builds : Builds settings attempt.dict)
    (asks : taken = checkpointed lease .answer saved (.ok ())) :
    ∃ answer, after.stage = .answered answer ∧
      after.dict.getD "final_result" .null = answer.dump ∧
      HoldsAnswer settings job answer after.dict := by
  have built := builds.step step
  cases step with
  | @answered answer proposes final =>
      have written : (attempt.dict.update [("final_result", answer.dump)]).getD "final_result"
          .null = answer.dump := by simp [Dict.getD]
      refine ⟨answer, rfl, written, ?_, final, built⟩
      rw [written]
      exact answer.truthy_dump
  | _ => cases asks

end Steps

/-! ## Courses -/

section Courses

variable {settings : Settings} {job : AgentRunJob} {course next : Course} {label : World.Label}
  {answer : AgentAnswer}

/-- One attempt holds the lease at most, and a control can be built from every
checkpoint. -/
structure Course.Ready (settings : Settings) (course : Course) : Prop where
  alone : ∀ index other, course.holds index → course.holds other → index = other
  attempts : ∀ index own attempt, course.attempts index = some (own, attempt) →
    own = settings ∧ Builds settings attempt.dict

theorem Course.Step.ready (step : Course.Step job (· = settings) course label next)
    (ready : course.Ready settings) : next.Ready settings := by
  refine ⟨step.alone ready.alone, ?_⟩
  have replaced {index : Nat} {worker : Option (Settings × Attempt)}
      (becomes : next.attempts = Function.update course.attempts index worker)
      (works : ∀ own attempt, worker = some (own, attempt) →
        own = settings ∧ Builds settings attempt.dict) :
      ∀ index own attempt, next.attempts index = some (own, attempt) →
        own = settings ∧ Builds settings attempt.dict := by
    intro other own attempt found
    rcases attempts_update becomes found with ⟨_, here⟩ | ⟨_, there⟩
    · exact works own attempt here
    · exact ready.attempts other own attempt there
  cases step with
  | away becomes | plain _ _ becomes =>
      rw [becomes.attempts]
      exact ready.attempts
  | work working moves _ becomes | save working _ _ _ _ moves becomes =>
      refine replaced becomes.attempts fun own attempt same => ?_
      cases same
      obtain ⟨rfl, builds⟩ := ready.attempts _ _ _ working
      exact ⟨rfl, builds.step moves⟩
  | stuck _ _ _ _ _ _ becomes | leave _ _ becomes =>
      refine replaced becomes.attempts fun own attempt gone => ?_
      cases gone
  | claim _ allowed _ _ _ built _ arrives =>
      refine replaced arrives fun own attempt same => ?_
      cases same
      subst allowed
      exact ⟨rfl, .of_controlFor built⟩
  | claimFailed _ _ _ _ arrives =>
      rw [arrives]
      exact ready.attempts

/-- The durable checkpoint holds the answer, and whoever holds the lease works on
it. -/
structure Course.Finalized (settings : Settings) (job : AgentRunJob) (answer : AgentAnswer)
    (course : Course) : Prop where
  durable : HoldsAnswer settings job answer course.durable
  holders : ∀ index own attempt, course.attempts index = some (own, attempt) →
    course.holds index → attempt.dict = course.durable ∧ attempt.stage.Closes answer

theorem Course.Step.finalized (step : Course.Step job (· = settings) course label next)
    (ready : course.Ready settings) (finalized : course.Finalized settings job answer) :
    next.Finalized settings job answer := by
  obtain ⟨durable, holders⟩ := finalized
  cases step with
  | away becomes | plain _ _ becomes =>
      refine ⟨by rw [becomes.durable]; exact durable, fun index own attempt found holds => ?_⟩
      rw [becomes.attempts] at found
      rw [becomes.durable]
      exact holders index own attempt found (becomes.kept index holds)
  | @work _ index _ _ attempt after working moves calm becomes =>
      refine ⟨by rw [becomes.durable]; exact durable, fun other own found here holds => ?_⟩
      rw [becomes.durable]
      have held := becomes.kept other holds
      rcases attempts_update becomes.attempts here with ⟨rfl, same⟩ | ⟨_, there⟩
      · cases same
        obtain ⟨rfl, _⟩ := ready.attempts _ _ _ working
        obtain ⟨same, closes⟩ := holders _ _ _ working held
        have later := moves.closes (same ▸ durable) closes
        rcases moves.saves with ⟨site, rfl⟩ | ⟨kept, _⟩
        · cases calm ""
        · exact ⟨kept.trans same, later.1⟩
      · exact holders other own found there held
  | @save _ index _ _ attempt after working holding same _ _ moves becomes =>
      obtain ⟨rfl, _⟩ := ready.attempts _ _ _ working
      obtain ⟨_, closes⟩ := holders _ _ _ working holding
      have later := moves.closes (same ▸ durable) closes
      refine ⟨by rw [becomes.durable]; exact later.2, fun other own found here holds => ?_⟩
      rw [becomes.durable]
      rcases attempts_update becomes.attempts here with ⟨rfl, same⟩ | ⟨different, _⟩
      · cases same
        exact ⟨rfl, later.1⟩
      · exact absurd (ready.alone _ _ (becomes.kept other holds) holding) different
  | @stuck _ index _ attempt working holding same _ _ _ becomes =>
      obtain ⟨rfl, _⟩ := ready.attempts _ _ _ working
      refine ⟨by rw [becomes.durable]; exact HoldsAnswer.limited (same ▸ durable),
        fun other own found here holds => ?_⟩
      rcases attempts_update becomes.attempts here with ⟨_, gone⟩ | ⟨different, _⟩
      · cases gone
      · exact absurd (ready.alone _ _ (becomes.kept other holds) holding) different
  | leave _ _ becomes =>
      refine ⟨by rw [becomes.durable]; exact durable, fun other own found here holds => ?_⟩
      rw [becomes.durable]
      rcases attempts_update becomes.attempts here with ⟨_, gone⟩ | ⟨_, there⟩
      · cases gone
      · exact holders other own found there (becomes.kept other holds)
  | @claim _ index _ row _ _ _ vacant _ recorded _ _ _ same arrives alone =>
      refine ⟨by rw [same]; exact durable, fun other own found here holds => ?_⟩
      rcases attempts_update arrives here with ⟨_, begun⟩ | ⟨different, _⟩
      · cases begun
        exact ⟨recorded.trans same.symm, .inl rfl⟩
      · exact absurd (alone other holds) different
  | claimFailed _ _ _ same _ nobody =>
      exact ⟨by rw [same]; exact durable, fun other _ _ _ holds => absurd holds (nobody other)⟩

theorem Course.Step.answers {index : Nat} {lease : Lease} {saved : Dict}
    (step : Course.Step job (· = settings) course
      (.event index (checkpointed lease .answer saved (.ok ()))) next)
    (run : lease.runId = job.agentRunId.text) (ready : course.Ready settings) :
    ∃ answer, saved.getD "final_result" .null = answer.dump ∧
      next.Finalized settings job answer := by
  generalize same : World.Label.event index (checkpointed lease .answer saved (.ok ())) = label
    at step
  cases step with
  | away _ outside =>
      exact absurd (congrArg some run) (outside index _ same.symm).2
  | plain _ plain =>
      cases same
      cases plain
  | work _ _ calm =>
      cases same
      cases calm ""
  | @save _ holder site _ attempt after working holding _ _ _ moves becomes =>
      obtain ⟨rfl, builds⟩ := ready.attempts _ _ _ working
      simp only [World.Label.event.injEq] at same
      obtain ⟨answer, stage, written, holds⟩ := moves.answers builds same.2.symm
      have dict : saved = after.dict := by
        cases same.2
        rfl
      refine ⟨answer, dict ▸ written, by rw [becomes.durable]; exact holds,
        fun other own found here there => ?_⟩
      rw [becomes.durable]
      rcases attempts_update becomes.attempts here with ⟨rfl, found⟩ | ⟨different, _⟩
      · cases found
        exact ⟨rfl, .inr stage⟩
      · exact absurd (ready.alone _ _ (becomes.kept other there) holding) different
  | stuck => cases same
  | leave _ leaves =>
      cases same
      cases leaves
  | claim | claimFailed => cases same

end Courses

/-! ## The branch -/

/-- Requests of an attempt that only closes its run. -/
def Request.closing : Request → Bool
  | .startHeartbeat _ | .closeHeartbeat | .get _ _ => true
  | .control (.checkpoint _ .limits _) => true
  | .finish _ .succeeded _ _ => true
  | _ => false

/-- The store has kept the attempt's lease, and the run is not cancelled. -/
def Undisturbed : (request : Request) → Reply request → Prop
  | .control (.checkpoint _ _ _), reply => reply = (Except.ok () : Except RunStoreError Unit)
  | .finish _ _ _ _, reply => reply = (Except.ok () : Except RunStoreError Unit)
  | .get _ _, reply => ∃ row : RunRow,
      reply = (Except.ok row : Except RunStoreError RunRow) ∧ row.state ≠ .cancelled
  | _, _ => True

def closing (row : RunRow) : Monitor Reply Bool where
  permits claimed request :=
    match request with
    | .claim _ => claimed = false
    | request => request.closing = true
  admits claimed request reply :=
    match request, reply with
    | .claim _, reply => claimed = false → reply = (Except.ok row : Except RunStoreError RunRow)
    | request, reply => Undisturbed request reply
  advance claimed request _ :=
    match request with
    | .claim _ => true
    | _ => claimed

section Branch

variable {settings : Settings} {job : AgentRunJob} {row : RunRow} {token : String}
  {answer : AgentAnswer}

theorem closes_attempt {control : Control} {limits : Json}
    (holds : HoldsAnswer settings job answer row.checkpoint) (dict : Dict) :
    Exec.wp (closing row) (Runner.attempt settings control job row limits token)
      (fun value _ _ => value = answer) (fun _ _ _ => False) dict true := by
  unfold Runner.attempt Runner.ask
  apply Exec.wp_bind.mpr
  apply Exec.wp_ask.mpr
  refine ⟨rfl, fun _ _ => ?_⟩
  apply Exec.wp_bind.mpr
  apply wp_liftControl
  apply Control.wp_persist
  · exact rfl
  intro reply admitted
  have accepted : reply = .ok () := admitted
  subst accepted
  refine ⟨nofun, fun _ => ?_⟩
  dsimp only
  rw [if_pos holds.present, holds.valid]
  apply Exec.wp_bind.mpr
  apply Exec.wp_ofExcept.mpr
  refine ⟨?_, nofun⟩
  rintro _ ⟨⟩
  apply Exec.wp_bind.mpr
  apply Exec.wp_ask.mpr
  refine ⟨rfl, fun reply admitted => ?_⟩
  have accepted : reply = (Except.ok () : Except RunStoreError Unit) := admitted
  subst accepted
  apply Exec.wp_bind.mpr
  apply Exec.wp_ofExcept.mpr
  refine ⟨fun _ _ => ?_, nofun⟩
  apply Exec.wp_bind.mpr
  apply Exec.wp_ask.mpr
  refine ⟨rfl, fun reply admitted => ?_⟩
  obtain ⟨found, same, kept⟩ : ∃ found : RunRow,
    reply = (Except.ok found : Except RunStoreError RunRow) ∧ found.state ≠ .cancelled := admitted
  subst same
  apply Exec.wp_bind.mpr
  apply Exec.wp_ofExcept.mpr
  refine ⟨?_, nofun⟩
  rintro _ ⟨⟩
  apply Exec.wp_bind.mpr
  apply Exec.wp_raiseIf.mpr
  exact ⟨fun _ => rfl, fun cancelled => absurd cancelled kept⟩

theorem closes_execute (held : row.leaseToken = some token)
    (holds : HoldsAnswer settings job answer row.checkpoint) :
    Exec.wp (closing row) (Runner.execute settings job row)
      (fun value _ _ => value = answer) (fun _ _ _ => False) none true := by
  obtain ⟨control, built⟩ := holds.builds { runId := row.id, tenant := row.tenant, token }
  obtain ⟨cost, limited, built⟩ := Outcome.bind_eq_ok.mp built
  unfold Runner.execute Runner.tokenOf
  rw [held]
  apply Exec.wp_bind.mpr
  apply Exec.wp_ofExcept.mpr
  refine ⟨?_, nofun⟩
  rintro _ ⟨⟩
  apply Exec.wp_bind.mpr
  rw [limited]
  apply Exec.wp_ofExcept.mpr
  refine ⟨?_, nofun⟩
  rintro _ ⟨⟩
  apply Exec.wp_andFinally.mpr
  apply Exec.wp_tryCatch.mpr
  unfold Runner.controlled
  rw [built]
  apply Exec.wp_bind.mpr
  apply Exec.wp_ofExcept.mpr
  refine ⟨?_, nofun⟩
  rintro _ ⟨⟩
  apply Exec.wp_zoom.mpr
  refine Exec.wp_mono (closes_attempt holds row.checkpoint) ?_ fun _ _ _ raised => raised.elim
  rintro _ state claimed rfl
  unfold Runner.close Runner.ask
  apply Exec.wp_bind.mpr
  apply Exec.wp_get.mpr
  apply Exec.wp_ite.mpr
  exact ⟨fun _ => ⟨rfl, fun _ _ => rfl⟩, fun _ => rfl⟩

theorem closes_delivery {payload : Json} (valid : AgentRunJob.validate payload = some job)
    (within : ¬settings.agentMaxDecisions < job.maxDecisions) (open_ : row.state ≠ .succeeded)
    (held : row.leaseToken = some token) (holds : HoldsAnswer settings job answer row.checkpoint) :
    Exec.wp (closing row) (executeAgentJob settings payload)
      (fun value _ _ => value = answer) (fun _ _ _ => False) none false := by
  unfold executeAgentJob
  rw [valid]
  apply Exec.wp_bind.mpr
  apply Exec.wp_ofExcept.mpr
  refine ⟨?_, nofun⟩
  rintro _ ⟨⟩
  apply Exec.wp_bind.mpr
  apply Exec.wp_raiseIf.mpr
  refine ⟨fun _ => ?_, fun exceeds => absurd exceeds within⟩
  unfold Runner.ask
  apply Exec.wp_bind.mpr
  apply Exec.wp_ask.mpr
  refine ⟨rfl, fun reply admitted => ?_⟩
  have claimed : reply = (Except.ok row : Except RunStoreError RunRow) := admitted rfl
  subst claimed
  apply Exec.wp_bind.mpr
  apply Exec.wp_ofExcept.mpr
  refine ⟨?_, nofun⟩
  rintro _ ⟨⟩
  apply Exec.wp_ite.mpr
  exact ⟨fun succeeded => absurd succeeded open_, fun _ => closes_execute held holds⟩

theorem closing_after (row : RunRow) (events : List (Event Reply)) :
    (closing row).after true events = true := by
  induction events with
  | nil => rfl
  | cons event events induction =>
      obtain ⟨request, reply⟩ := event
      cases request <;> exact induction

theorem delivery_exceeds {payload : Json} (valid : AgentRunJob.validate payload = some job)
    (exceeds : settings.agentMaxDecisions < job.maxDecisions) :
    delivery settings payload =
      .done (.error (.valueError "Decision budget exceeds worker policy"), none) := by
  unfold delivery executeAgentJob
  rw [valid]
  show ExceptT.run ((Exec.raiseIf _ _ >>= _ : RunnerExec AgentAnswer)) none = _
  unfold Exec.raiseIf
  rw [if_pos exceeds]
  rfl

theorem delivery_asks {payload : Json} (valid : AgentRunJob.validate payload = some job)
    (within : ¬settings.agentMaxDecisions < job.maxDecisions) :
    ∃ resume, delivery settings payload = .ask (.claim job.dump) resume := by
  unfold delivery executeAgentJob
  rw [valid]
  show ∃ resume, ExceptT.run ((Exec.raiseIf _ _ >>= _ : RunnerExec AgentAnswer)) none = _
  unfold Exec.raiseIf
  rw [if_neg within]
  exact ⟨_, rfl⟩

theorem plays_final {payload : Json} {claim : Dict} {events : List (Event Reply)}
    {out : Except Exc AgentAnswer × Option Dict} (valid : AgentRunJob.validate payload = some job)
    (open_ : row.state ≠ .succeeded) (held : row.leaseToken = some token)
    (holds : HoldsAnswer settings job answer row.checkpoint)
    (plays : (delivery settings payload).Plays
      (⟨.claim claim, (Except.ok row : Except RunStoreError RunRow)⟩ :: events) out)
    (undisturbed : ∀ event ∈ events, Undisturbed event.request event.reply) :
    out.1 = .ok answer ∧ ∀ event ∈ events, event.request.closing = true := by
  have within : ¬settings.agentMaxDecisions < job.maxDecisions := by
    intro exceeds
    rw [delivery_exceeds valid exceeds] at plays
    cases plays
  have rest : ∀ events : List (Event Reply),
      (∀ event ∈ events, Undisturbed event.request event.reply) →
        (closing row).Admits true events := by
    intro events
    induction events with
    | nil => exact fun _ => trivial
    | cons event events induction =>
        intro undisturbed
        have later := induction fun other member =>
          undisturbed other (List.mem_cons_of_mem _ member)
        have here := undisturbed event List.mem_cons_self
        obtain ⟨request, reply⟩ := event
        cases request with
        | claim => exact ⟨fun impossible => Bool.noConfusion impossible, later⟩
        | _ => exact ⟨here, later⟩
  have admitted : (closing row).Admits false
      (⟨.claim claim, (Except.ok row : Except RunStoreError RunRow)⟩ :: events) :=
    ⟨fun _ => rfl, rest events undisturbed⟩
  obtain ⟨permits, ends⟩ :=
    Monitor.Obeys.plays (closes_delivery valid within open_ held holds) plays admitted
  constructor
  · obtain ⟨outcome, last⟩ := out
    cases outcome with
    | ok value => exact congrArg Except.ok ends
    | error error => exact False.elim ends
  · intro event member
    obtain ⟨before, after, rfl⟩ := List.append_of_mem member
    have permitted := permits (_ :: before) event after rfl
    have claimed : (closing row).after false
      (⟨.claim claim, (Except.ok row : Except RunStoreError RunRow)⟩ :: before) = true :=
        closing_after row before
    rw [claimed] at permitted
    obtain ⟨request, reply⟩ := event
    cases request with
    | claim => exact Bool.noConfusion permitted
    | _ => exact permitted

end Branch

theorem Course.blank_ready (settings : Settings) : Course.Ready settings .blank :=
  ⟨fun _ _ here => here.elim, fun _ _ _ found => by cases found⟩

/-- The answer an attempt has saved is returned by the next delivery that claims its
run under the same configuration and is not disturbed, and neither the model nor a
tool is called for it again. -/
theorem saved_answer_recovered {settings : Settings} {job : AgentRunJob} {first world : World}
    (initial : first.Initial) {labels past middle : List World.Label}
    (run : Run World.Step first labels world)
    (configured : ∀ label ∈ labels, label.Configured job (· = settings))
    {index : Nat} {lease : Lease} {saved : Dict}
    (accepted : labels = past ++ .event index (checkpointed lease .answer saved (.ok ())) :: middle)
    (about : lease.runId = job.agentRunId.text)
    {payload : Json} (valid : AgentRunJob.validate payload = some job)
    {row : RunRow} {next : StoreState}
    (claimed : Answers settings.store world.store
      ⟨.claim job.dump, (Except.ok row : Except RunStoreError RunRow)⟩ next)
    (open_ : row.state ≠ .succeeded)
    {events : List (Event Reply)} {out : Except Exc AgentAnswer × Option Dict}
    (plays : (delivery settings payload).Plays
      (⟨.claim job.dump, (Except.ok row : Except RunStoreError RunRow)⟩ :: events) out)
    (undisturbed : ∀ event ∈ events, Undisturbed event.request event.reply) :
    ∃ answer : AgentAnswer, saved.getD "final_result" .null = answer.dump ∧
      out.1 = .ok answer ∧ ∀ event ∈ events, event.request.closing = true := by
  obtain ⟨floor, shown, agreed⟩ := World.agreed ⟨first, labels, initial, run⟩
  have wellFormed : world.store.db.WellFormed := by
    rw [← shown.store]
    exact agreed.sound.valid
  obtain ⟨view, token, now, rfl, claimedBy⟩ := claimed.claimed wellFormed open_
  -- the claim is granted to the job the run was created for only
  obtain ⟨course, moves, durable, _⟩ := World.course initial run configured fun other found => by
    cases claimedBy.found.symm.trans found
    exact claimedBy.job
  rw [accepted] at moves
  obtain ⟨before, earlier, later⟩ := moves.split
  cases later with
  | cons move rest =>
      have ready : before.Ready settings :=
        earlier.preserves (fun _ _ _ ready move => move.step.ready ready)
          (Course.blank_ready settings)
      obtain ⟨answer, same, finalized⟩ := move.step.answers about ready
      have kept : ∀ course label next, Course.Ready settings course ∧
          Course.Finalized settings job answer course →
          Course.Move job (· = settings) course label next →
          Course.Ready settings next ∧ Course.Finalized settings job answer next :=
        fun _ _ _ holds move => ⟨move.step.ready holds.1, move.step.finalized holds.1 holds.2⟩
      have final := rest.preserves kept ⟨move.step.ready ready, finalized⟩
      have holds := final.2.durable
      rw [durable, claimedBy.durable.1] at holds
      exact ⟨answer, same, plays_final valid open_ rfl holds plays undisturbed⟩

/-! ## An answer that is recovered -/

/-- What a label saves with an answer, and under which lease. -/
def World.Label.accepted : World.Label → Option (Lease × Dict)
  | .event _ ⟨.control (.checkpoint lease .answer saved), reply⟩ =>
      match (reply : Except RunStoreError Unit) with
      | .ok () => some (lease, saved)
      | .error _ => none
  | _ => none

theorem World.Label.of_accepted {label : World.Label} {lease : Lease} {saved : Dict}
    (same : label.accepted = some (lease, saved)) :
    ∃ index, label = .event index (checkpointed lease .answer saved (.ok ())) := by
  unfold World.Label.accepted at same
  split at same
  · split at same
    · cases same
      exact ⟨_, rfl⟩
    · cases same
  · cases same

namespace Sample

/-- The worker stops once the quotation is saved, with the receipt of its review. -/
def accepted : List World.Label × World := World.play (quoted.take 84) empty

/-- The row a second claim gets, after the lease of the first has run out. -/
def reclaimed : Option RunRow := do
  let (reply, _) ← (Request.claim documentTask.dump).answer librarian.store 100 "second" others
    accepted.2.store
  (reply : Except RunStoreError RunRow).toOption

def keeping (row : RunRow) : (request : Request) → Reply request
  | .claim _ | .get _ _ => (Except.ok row : Except RunStoreError RunRow)
  | request => others request

theorem keeping_undisturbed {row : RunRow} (kept : row.state ≠ .cancelled) (request : Request) :
    Undisturbed request (keeping row request) := by
  cases request with
  | control request => cases request <;> first | exact rfl | exact trivial
  | get => exact ⟨row, rfl, kept⟩
  | finish => exact rfl
  | _ => exact trivial

theorem accepted_evaluated :
    (accepted.1.getLast?.bind World.Label.accepted).any (fun saved =>
      saved.1.runId = documentTask.agentRunId.text ∧
        saved.2.getD "final_result" .null = quoting.dump) = true ∧
    reclaimed.any (fun row => row.state ≠ .succeeded ∧ row.state ≠ .cancelled ∧
      ((delivery librarian (.obj documentTask.dump)).play
        (fun _ => keeping row) 12).2.value?.isSome = true) = true ∧
    accepted.2.store.now ≤ 100 := by
  decide +kernel

end Sample

open Sample in
/-- A second worker returns the quotation that the first has saved. -/
theorem saved_answer_recovered_quoting :
    ∃ (row : RunRow) (events : List (Event Reply)) (out : Except Exc AgentAnswer × Option Dict),
      (delivery librarian (.obj documentTask.dump)).Plays
        (⟨.claim documentTask.dump, (Except.ok row : Except RunStoreError RunRow)⟩ :: events) out ∧
      ∃ answer : AgentAnswer, quoting.dump = answer.dump ∧ out.1 = .ok answer ∧
        ∀ event ∈ events, event.request.closing = true := by
  obtain ⟨saves, recovers, forward⟩ := accepted_evaluated
  obtain ⟨⟨lease, saved⟩, found, holds⟩ := (Option.any_eq_true _ _).mp saves
  obtain ⟨about, same⟩ := of_decide_eq_true holds
  obtain ⟨label, last, answers⟩ := Option.bind_eq_some_iff.mp found
  obtain ⟨past, split⟩ := List.getLast?_eq_some_iff.mp last
  obtain ⟨index, rfl⟩ := World.Label.of_accepted answers
  obtain ⟨row, claims, holds⟩ := (Option.any_eq_true _ _).mp recovers
  obtain ⟨open_, kept, ends⟩ := of_decide_eq_true holds
  obtain ⟨⟨reply, next⟩, answered, replied⟩ := Option.bind_eq_some_iff.mp claims
  cases (reply : Except RunStoreError RunRow) with
  | error _ => cases replied
  | ok other =>
      cases replied
      obtain ⟨out, ended⟩ := Option.isSome_iff_exists.mp ends
      have asking := Program.play_plays ended
      obtain ⟨resume, asks⟩ := @delivery_asks librarian documentTask
        (.obj documentTask.dump) (AgentRunJob.validate_dump documentTask) (by decide)
      rw [asks] at asking
      have plays : (delivery librarian (.obj documentTask.dump)).Plays
          (⟨.claim documentTask.dump, (Except.ok row : Except RunStoreError RunRow)⟩ ::
            ((resume (keeping row (.claim documentTask.dump))).play
              (fun _ => keeping row) 11).1) out :=
        asks ▸ asking
      have configured : ∀ label ∈ accepted.1, label.Configured documentTask (· = librarian) := by
        rintro label member settings rfl
        obtain ⟨payload, moved⟩ := World.deliver_of_play member
        have delivered := List.mem_of_mem_take moved
        simp only [quoted, List.mem_append, List.mem_cons, List.not_mem_nil, or_false,
          List.mem_replicate] at delivered
        rcases delivered with (((same | same) | ⟨_, same⟩) | ⟨_, same⟩) | ⟨_, same⟩ <;> cases same
        rfl
      have undisturbed : ∀ event ∈ ((resume (keeping row (.claim documentTask.dump))).play
          (fun _ => keeping row) 11).1, Undisturbed event.request event.reply :=
        fun event member => Program.play_replies (fun _ => keeping_undisturbed kept) member
      refine ⟨row, _, out, plays, ?_⟩
      rw [← same]
      have start : empty.Initial := ⟨rfl, rfl⟩
      exact saved_answer_recovered start (World.play_run (quoted.take 84) empty) configured split
        about (AgentRunJob.validate_dump documentTask)
        (Request.answers_of_answer forward answered) open_ plays undisturbed

end Crewos.Agent

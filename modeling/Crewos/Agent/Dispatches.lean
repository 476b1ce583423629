import Crewos.Agent.Numbers
import Crewos.Agent.ToolFailure

/-! # Dispatches of replay-unsafe tools

A tool that must not run twice is marked as pending before it is dispatched, and
a marked run is neither claimed nor resumed. So the attempt that marks a call is
the only one that can dispatch it, and it does so once. -/

namespace Crewos.Agent

open Foundation RunStore

/-! ## Pending calls -/

/-- The tool of the decision is registered, and not as replay-safe. -/
def ReplayUnsafe (tools : List ToolDefinition) (decision : ToolCallDecision) : Prop :=
  Tools.replaySafe tools decision.name.value = .ok false

/-- The pending call, if there is one, is marked as its tool is registered. -/
def Progress.Flagged (tools : List ToolDefinition) (progress : Progress) : Prop :=
  ∀ decision, progress.pending = some decision →
    Tools.replaySafe tools decision.name.value = .ok progress.replaySafe

def Progress.marked (progress : Progress) : Bool :=
  progress.pending.isSome && !progress.replaySafe

theorem Progress.marked_of_settled {progress : Progress} (settled : progress.pending = none) :
    progress.marked = false := by
  rw [Progress.marked, settled]
  rfl

theorem ToolCallDecision.dump_inj {left right : ToolCallDecision}
    (same : left.dump = right.dump) : left = right := by
  rcases left with ⟨⟨left, _, _, _⟩, leftArguments⟩
  rcases right with ⟨⟨right, _, _, _⟩, rightArguments⟩
  simp only [ToolCallDecision.dump, ToolCallDecision.fields, Json.obj.injEq, List.cons.injEq,
    Prod.mk.injEq, Json.str.injEq, true_and, and_true] at same
  obtain ⟨rfl, rfl⟩ := same
  rfl

section Pending

variable {job : AgentRunJob} {dict : Dict} {progress other : Progress}
  {tools : List ToolDefinition}

theorem Tells.pending_unique (tells : Tells job dict progress) (also : Tells job dict other) :
    progress.pending = other.pending := by
  have same := tells.pending.symm.trans also.pending
  cases here : progress.pending <;> cases there : other.pending <;> rw [here, there] at same
  · cases same
  · cases same
  · exact congrArg some (ToolCallDecision.dump_inj (Option.some.inj same))

theorem Tells.flagged (tells : Tells job dict progress) (also : Tells job dict other)
    (flagged : other.Flagged tools) : progress.Flagged tools := by
  intro decision pending
  have there := (tells.pending_unique also).symm.trans pending
  have same := tells.unsafePending.symm.trans also.unsafePending
  rw [pending, there] at same
  rw [flagged decision there]
  have equal : progress.replaySafe = other.replaySafe := by simpa using same
  rw [equal]

end Pending

/-! ## Stages -/

def Stage.marks : Stage → Bool
  | .pended _ | .dispatched _ | .returned _ _ | .excusing _ => true
  | _ => false

/-- The call an attempt is going to dispatch. -/
inductive Stage.Calling (decision : ToolCallDecision) : Stage → Prop
  | chosen : Stage.Calling decision (.chosen (.toolCall decision))
  | pended : Stage.Calling decision (.pended decision)

variable {job : AgentRunJob} {tools : List ToolDefinition} {configured : Settings → Prop}

/-- The provider has returned the decision under this number. -/
def ChosenBy (job : AgentRunJob) (past : List World.Label) (number : Int)
    (decision : ToolCallDecision) : Prop :=
  ∃ index, World.Label.event index
    (⟨.decided job.agentRunId.text number (.toolCall decision), ()⟩ : Event Reply) ∈ past

theorem ChosenBy.later {past : List World.Label} {number : Int} {decision : ToolCallDecision}
    (chosen : ChosenBy job past number decision) (label : World.Label) :
    ChosenBy job (past ++ [label]) number decision := by
  obtain ⟨index, member⟩ := chosen
  exact ⟨index, List.mem_append_left _ member⟩

/-- The call has been saved as pending. -/
def PendedBy (job : AgentRunJob) (past : List World.Label) (decision : ToolCallDecision) : Prop :=
  ∃ saved ∈ saves job.agentRunId.text past, AgentLoop.pendingOf saved = some decision.dump

theorem PendedBy.later {past : List World.Label} {decision : ToolCallDecision}
    (pended : PendedBy job past decision) (label : World.Label) :
    PendedBy job (past ++ [label]) decision := by
  obtain ⟨saved, member, pending⟩ := pended
  rw [PendedBy, saves_snoc]
  exact ⟨saved, List.mem_append_left _ member, pending⟩

/-- What every attempt keeps, when the tools are registered in one way. -/
structure Marking (job : AgentRunJob) (tools : List ToolDefinition) (past : List World.Label)
    (_ : Nat) (settings : Settings) (attempt : Attempt) : Prop where
  registry : settings.tools = tools
  tells : Tells job attempt.dict attempt.progress
  flagged : attempt.progress.Flagged tools
  clear : attempt.stage.marks = false → attempt.progress.marked = false
  chosen : ∀ decision, attempt.stage.Calling decision → ReplayUnsafe tools decision →
    ChosenBy job past attempt.progress.decisions decision
  pended : ∀ decision, attempt.stage = .pended decision → PendedBy job past decision

def Flags (job : AgentRunJob) (tools : List ToolDefinition) (_ : List World.Label)
    (dict : Dict) : Prop :=
  ∃ progress : Progress, Tells job dict progress ∧ progress.Flagged tools

section Marking

variable {past : List World.Label} {index : Nat} {settings : Settings}
  {attempt after : Attempt} {taken : Event Reply}

theorem Marking.step_flagged (marking : Marking job tools past index settings attempt)
    (step : attempt.Step settings job taken after) : after.progress.Flagged tools := by
  cases step with
  | progressed moves =>
      generalize attempt.stage = stage at moves
      cases moves with
      | pend pending registered =>
          intro decision here
          cases pending.symm.trans here
          exact marking.registry ▸ registered
      | raise _ pending | repair pending | excuse pending | record pending =>
          intro decision here
          cases pending.symm.trans here
  | _ => exact marking.flagged

theorem Marking.step_clear (marking : Marking job tools past index settings attempt)
    (step : attempt.Step settings job taken after) (unmarked : after.stage.marks = false) :
    after.progress.marked = false := by
  cases step with
  | opened opening => exact marking.clear (by rw [opening]; rfl)
  | progressed moves =>
      generalize attempt.stage = stage at moves
      cases moves with
      | pend => cases unmarked
      | raise _ pending | repair pending | excuse pending | record pending =>
          exact Progress.marked_of_settled pending
  | decide raised => exact marking.clear (by rw [raised]; rfl)
  | decided asked => exact marking.clear (by rw [asked]; rfl)
  | reserved | invoked | reconciled | raised => exact marking.clear unmarked
  | recovered recovers =>
      refine marking.clear ?_
      generalize attempt.stage = stage at recovers
      cases recovers with
      | unasked | asked => rfl
      | unknown | failed => cases unmarked
  | dispatch => cases unmarked
  | returned => cases unmarked
  | reviewed chosen => exact marking.clear (by rw [chosen]; rfl)
  | answered proposes =>
      refine marking.clear ?_
      generalize attempt.stage = stage at proposes
      cases proposes <;> rfl

theorem Marking.safe_opening (marking : Marking job tools past index settings attempt)
    (opening : attempt.stage = .opening) {decision : ToolCallDecision}
    (pending : attempt.progress.pending = some decision) : ¬ReplayUnsafe tools decision := by
  intro unsafely
  have clear := marking.clear (by rw [opening]; rfl)
  have flag := (marking.flagged decision pending).symm.trans unsafely
  rw [Progress.marked, pending, Except.ok.inj flag] at clear
  cases clear

theorem Marking.step_chosen (marking : Marking job tools past index settings attempt)
    (step : attempt.Step settings job taken after) (decision : ToolCallDecision)
    (calling : after.stage.Calling decision) (unsafely : ReplayUnsafe tools decision) :
    ChosenBy job (past ++ [.event index taken]) after.progress.decisions decision := by
  have before (calls : attempt.stage.Calling decision) :=
    (marking.chosen decision calls unsafely).later (.event index taken)
  cases step with
  | opened opening entry =>
      cases entry with
      | pending _ marked =>
          cases calling
          exact absurd unsafely (marking.safe_opening opening marked)
      | final => cases calling
      | fresh => cases calling
  | progressed moves =>
      generalize was : attempt.stage = stage at moves before
      cases moves with
      | pend _ _ same =>
          cases calling
          have chosen := before .chosen
          rw [← same] at chosen
          exact chosen
      | _ => cases calling
  | decide => cases calling
  | decided =>
      cases calling
      exact ⟨index, List.mem_append_right _ (List.mem_singleton_self _)⟩
  | recovered recovers =>
      generalize attempt.stage = stage at recovers
      cases recovers <;> cases calling
  | dispatch => cases calling
  | returned => cases calling
  | reviewed => cases calling
  | answered => cases calling
  | reserved | invoked | reconciled | raised => exact before calling

theorem Attempt.Step.pends (step : attempt.Step settings job taken after)
    {decision : ToolCallDecision} (pended : after.stage = .pended decision) :
    attempt.stage = .pended decision ∨
      ((∃ token, taken.request.operation token ≠ none) ∧
        after.progress.pending = some decision) := by
  cases step with
  | opened _ entry => cases entry <;> cases pended
  | progressed moves =>
      generalize attempt.stage = stage at moves
      cases moves with
      | pend pending =>
          cases pended
          exact .inr ⟨⟨"", fun same => by cases same⟩, pending⟩
      | _ => cases pended
  | recovered recovers =>
      generalize attempt.stage = stage at recovers
      cases recovers <;> cases pended
  | decide | decided | dispatch | returned | reviewed | answered => cases pended
  | reserved | invoked | reconciled | raised => exact .inl pended

theorem Marking.step (marking : Marking job tools past index settings attempt)
    (step : attempt.Step settings job taken after)
    (pended : ∀ decision, after.stage = .pended decision →
      PendedBy job (past ++ [.event index taken]) decision) :
    Marking job tools (past ++ [.event index taken]) index settings after where
  registry := marking.registry
  tells := step.tells marking.tells
  flagged := marking.step_flagged step
  clear := marking.step_clear step
  chosen := marking.step_chosen step
  pended := pended

end Marking

theorem marking_keeps (job : AgentRunJob) (tools : List ToolDefinition) :
    Course.Keeps job (fun settings => settings.tools = tools) (Marking job tools)
      (Flags job tools) where
  blank := ⟨_, .of_empty job, fun _ pending => by cases pending⟩
  waits marking _ :=
    { marking with
        chosen := fun decision calling unsafely =>
          (marking.chosen decision calling unsafely).later _
        pended := fun decision pended => (marking.pended decision pended).later _ }
  rests marked _ := marked
  opens registry marked safe claimed _ := by
    obtain ⟨progress, tells, flagged⟩ := marked
    refine ⟨registry, claimed.tells, claimed.tells.flagged tells flagged, fun _ => ?_,
      fun _ calling => (by cases calling), fun _ pended => (by cases pended)⟩
    exact claimed.tells.unsafePending.symm.trans safe
  works marking step calm := marking.step step fun decision pended => by
    rcases step.pends pended with before | ⟨⟨token, saves⟩, _⟩
    · exact (marking.pended decision before).later _
    · exact absurd (calm token) saves
  saves {_ _ site _ _ after} marking _ lease step := by
    have tells := step.tells marking.tells
    refine ⟨marking.step step fun decision pended => ?_, _, tells, marking.step_flagged step⟩
    rcases step.pends pended with before | ⟨_, pending⟩
    · exact (marking.pended decision before).later _
    · refine ⟨after.dict, ?_, by rw [tells.pending, pending]; rfl⟩
      rw [saves_snoc, saved_checkpointed site after.dict lease]
      exact List.mem_append_right _ (List.mem_singleton_self _)
  stuck marking _ _ _ := ⟨_, tells_other marking.tells rfl, marking.flagged⟩

/-! ## Tickets of decisions and of dispatches -/

theorem Progress.Moves.deciding {settings : Settings} {stage next : Stage}
    {before after : Progress} (moves : Progress.Moves settings job stage before after next)
    (deciding : next = .raised ∨ next = .asked) : after.decisions = before.decisions + 1 := by
  cases moves with
  | raise _ _ next => exact next
  | _ => rcases deciding with same | same <;> cases same

theorem Stage.Recovers.not_deciding {stage next : Stage} (recovers : stage.Recovers tools next)
    (deciding : next = .raised ∨ next = .asked) : False := by
  cases recovers <;> rcases deciding with same | same <;> cases same

theorem Entry.not_deciding {settings : Settings} {dict : Dict} {progress : Progress}
    {stage : Stage} (entry : Entry settings job dict progress stage)
    (deciding : stage = .raised ∨ stage = .asked) : False := by
  cases entry <;> rcases deciding with same | same <;> cases same

theorem Attempt.Step.deciding {settings : Settings} {attempt after : Attempt}
    {taken : Event Reply} (step : attempt.Step settings job taken after)
    (deciding : after.stage = .raised ∨ after.stage = .asked) :
    (attempt.stage = .raised ∨ attempt.stage = .asked) ∨
      after.progress.decisions = attempt.progress.decisions + 1 := by
  cases step with
  | opened _ entry => exact absurd deciding entry.not_deciding
  | progressed moves => exact .inr (moves.deciding deciding)
  | decide raised => exact .inl (.inl raised)
  | recovered recovers => exact absurd deciding recovers.not_deciding
  | decided | dispatch | returned | reviewed | answered =>
      rcases deciding with same | same <;> cases same
  | reserved | invoked | reconciled | raised => exact .inl deciding

/-- The number under which the provider has returned a decision. -/
def Request.returned : Request → Option Int
  | .decided _ step _ => some step
  | _ => none

/-- The number under which a replay-unsafe call is dispatched. -/
def Request.dispatched (tools : List ToolDefinition) : Request → Option Int
  | .dispatch _ step decision =>
      match Tools.replaySafe tools decision.name.value with
      | .ok false => some step
      | _ => none
  | _ => none

/-- A decision is returned once under every number. -/
def decisionTicket : Ticket where
  mark := Request.returned
  carries stage := stage = .raised ∨ stage = .asked

theorem decisionTicket_lawful (job : AgentRunJob) : decisionTicket.Lawful job (Knows job) where
  control _ := rfl
  opening carries := by rcases carries with same | same <;> cases same
  spends step marked := by
    cases step with
    | decided asked =>
        cases marked
        exact ⟨.inr asked, rfl, fun carries => by rcases carries with same | same <;> cases same⟩
    | _ => cases marked
  keeps _ step carries := step.deciding carries

/-- A replay-unsafe call is dispatched once under every number. -/
def dispatchTicket (tools : List ToolDefinition) : Ticket where
  mark := Request.dispatched tools
  carries stage := (stage = .raised ∨ stage = .asked) ∨
    ∃ decision, stage.Calling decision ∧ ReplayUnsafe tools decision

theorem dispatched_eq_some (runId : String) {number step : Int} {decision : ToolCallDecision} :
    Request.dispatched tools (.dispatch runId step decision) = some number ↔
      ReplayUnsafe tools decision ∧ number = step := by
  simp only [Request.dispatched, ReplayUnsafe]
  split
  · rename_i registered
    simp [registered, eq_comm]
  · rename_i other
    exact ⟨fun same => (nomatch same), fun both => absurd both.1 other⟩

theorem Marking.step_calling {past : List World.Label} {index : Nat} {settings : Settings}
    {attempt after : Attempt} {taken : Event Reply}
    (marking : Marking job tools past index settings attempt)
    (step : attempt.Step settings job taken after) {decision : ToolCallDecision}
    (calling : after.stage.Calling decision) (unsafely : ReplayUnsafe tools decision) :
    attempt.stage = .asked ∨ attempt.stage.Calling decision := by
  cases step with
  | opened opening entry =>
      cases entry with
      | pending _ marked =>
          cases calling
          exact absurd unsafely (marking.safe_opening opening marked)
      | final => cases calling
      | fresh => cases calling
  | progressed moves =>
      generalize attempt.stage = stage at moves
      cases moves with
      | pend =>
          cases calling
          exact .inr .chosen
      | _ => cases calling
  | decided asked => exact .inl asked
  | recovered recovers =>
      generalize attempt.stage = stage at recovers
      cases recovers <;> cases calling
  | decide | dispatch | returned | reviewed | answered => cases calling
  | reserved | invoked | reconciled | raised => exact .inr calling

theorem dispatchTicket_lawful (job : AgentRunJob) (tools : List ToolDefinition) :
    (dispatchTicket tools).Lawful job (Marking job tools) where
  control _ := rfl
  opening carries := by
    rcases carries with (same | same) | ⟨_, calling, _⟩
    · cases same
    · cases same
    · cases calling
  spends step marked := by
    cases step with
    | @dispatch decision pended =>
        obtain ⟨unsafely, rfl⟩ :=
          (dispatched_eq_some job.agentRunId.text).mp marked
        refine ⟨.inr ⟨decision, pended ▸ .pended, unsafely⟩, rfl, fun carries => ?_⟩
        rcases carries with (same | same) | ⟨_, calling, _⟩
        · cases same
        · cases same
        · cases calling
    | _ => cases marked
  keeps marking step carries := by
    rcases carries with deciding | ⟨decision, calling, unsafely⟩
    · exact (step.deciding deciding).imp_left .inl
    · rcases marking.step_calling step calling unsafely with asked | before
      · exact .inl (.inl (.inr asked))
      · exact .inl (.inr ⟨decision, before, unsafely⟩)

/-! ## Flags runs -/

section Settled

variable {past : List World.Label} {course next : Course} {label : World.Label}

theorem Course.Step.settled (step : Course.Step job configured course label next)
    {result : Option Json} (settled : course.settled = some result) :
    next.durable = course.durable := by
  cases step with
  | away becomes | plain _ _ becomes | work _ _ _ becomes | leave _ _ becomes =>
      exact becomes.durable
  | save _ _ _ unsettled | stuck _ _ _ unsettled => cases unsettled.symm.trans settled
  | claim _ _ _ _ _ _ durable | claimFailed _ _ _ durable => exact durable

def Course.Unmarked (course : Course) : Prop :=
  ∀ result, course.settled = some result → unsafePending course.durable = false

theorem Course.Move.unmarked (move : Course.Move job configured course label next)
    (kept : course.Kept (Marking job tools) (Flags job tools) past) (unmarked : course.Unmarked) :
    next.Unmarked := by
  intro result now
  rcases move.settles result now with settled |
    ⟨index, settings, attempt, answer, working, same, durable, answered, _⟩
  · rw [move.step.settled settled]
    exact unmarked result settled
  · have marking := kept.attempts index settings attempt working
    rw [durable, same, marking.tells.unsafePending]
    exact marking.clear (by rw [answered]; rfl)

theorem Course.unmarked {labels : List World.Label}
    (run : Run (Course.Move job fun settings => settings.tools = tools) .blank labels course) :
    course.Kept (Marking job tools) (Flags job tools) labels ∧ course.Unmarked :=
  have keeps := marking_keeps job tools
  @Run.traced _ _ _ (fun past course =>
      Course.Kept (Marking job tools) (Flags job tools) past course ∧ course.Unmarked)
    (fun _ _ _ _ holds move => ⟨keeps.step holds.1 move.step, move.unmarked holds.1 holds.2⟩)
    _ _ _ run [] ⟨keeps.start, fun _ settled => (by cases settled)⟩

/-- The durable checkpoint of the run holds a pending call of a replay-unsafe tool. -/
def World.Awaits (tools : List ToolDefinition) (runId : String) (world : World) : Prop :=
  ∃ view decision, world.store.db.view runId = some view ∧
    AgentLoop.pendingOf view.row.checkpoint = some decision.dump ∧ ReplayUnsafe tools decision

theorem Flags.unsafePending {dict : Dict} (marked : Flags job tools past dict)
    {decision : ToolCallDecision} (pending : AgentLoop.pendingOf dict = some decision.dump)
    (unsafely : ReplayUnsafe tools decision) : RunStore.unsafePending dict = true := by
  obtain ⟨progress, tells, flagged⟩ := marked
  rw [tells.pending] at pending
  obtain ⟨found, here, same⟩ := Option.map_eq_some_iff.mp pending
  cases ToolCallDecision.dump_inj same
  have flag := (flagged decision here).symm.trans unsafely
  rw [tells.unsafePending, here, Except.ok.inj flag]
  rfl

end Settled

def World.Label.Claims (runId : String) (label : World.Label) : Prop :=
  ∃ index job row, row.id = runId ∧
    label = .event index ⟨.claim job, (Except.ok row : Except RunStoreError RunRow)⟩

def World.Resumes (world : World) (runId : String) (label : World.Label) : Prop :=
  ∃ call tenant reply, label = .client call ∧ call.operation = .resume runId tenant ∧
    (call.operation.perform call.store call.clock world.store.db).1 = .ok reply

section Barred

variable {world next : World} {label : World.Label} {view : RunView}

theorem World.Step.not_claimed (step : World.Step world label next)
    (valid : world.store.db.WellFormed)
    (found : world.store.db.view job.agentRunId.text = some view)
    (marked : unsafePending view.row.checkpoint = true) (running : view.row.state ≠ .succeeded) :
    ¬label.Claims job.agentRunId.text := by
  rintro ⟨index, other, row, id, rfl⟩
  cases step with
  | event _ _ answers =>
      rcases answers.claim valid with ⟨_, refused, _⟩ | ⟨seen, here, _, _, _, cached | started⟩
      · cases refused
      · obtain ⟨done, same, _⟩ := cached
        cases same
        rw [id] at here
        cases found.symm.trans here
        exact running done
      · obtain ⟨token, now, claimable, _, same, _⟩ := started
        cases same
        have sameRun : seen.row.id = job.agentRunId.text := id
        rw [sameRun] at here
        cases found.symm.trans here
        exact absurd claimable.safe (by rw [marked]; decide)

theorem World.not_resumed (valid : world.store.db.WellFormed)
    (found : world.store.db.view job.agentRunId.text = some view)
    (marked : unsafePending view.row.checkpoint = true) :
    ¬world.Resumes job.agentRunId.text label := by
  rintro ⟨call, tenant, reply, _, asked, returned⟩
  rw [asked] at returned
  have ran := perform_returned returned
  simp only [Operation.body, Outcome.map_eq_ok, Prod.exists, Prod.mk.injEq] at ran
  obtain ⟨row, db, resumed, _⟩ := ran
  obtain ⟨seen, here, _, resumable, _⟩ := SQLiteRunStore.resume_ok valid resumed
  cases found.symm.trans here
  exact absurd resumable.safe (by rw [marked]; decide)

end Barred

/-- Under a registry that stays the same, every decision the provider returns for
a run has its own number, and a call of a replay-unsafe tool is dispatched once
under its number, after it was returned and saved as pending. While it is the
durable checkpoint that says so, the run is neither claimed nor resumed. -/
theorem unsafe_dispatched_once {first last : World} (initial : first.Initial)
    {labels : List World.Label} (run : Run World.Step first labels last)
    (registry : ∀ settings, World.Label.deliver settings job ∈ labels → settings.tools = tools)
    (registered : ∀ view, last.store.db.view job.agentRunId.text = some view →
      view.row.job = Dict.sorted job.dump) :
    (numbers Request.returned job.agentRunId.text labels).Nodup ∧
      (numbers (Request.dispatched tools) job.agentRunId.text labels).Nodup ∧
      (∀ before index step decision after, labels = before ++ .event index
          (⟨.dispatch job.agentRunId.text step decision, ()⟩ : Event Reply) :: after →
        ReplayUnsafe tools decision →
        ChosenBy job before step decision ∧ PendedBy job before decision) ∧
      (last.Awaits tools job.agentRunId.text → ∀ label next, World.Step last label next →
        ¬label.Claims job.agentRunId.text ∧ ¬last.Resumes job.agentRunId.text label) := by
  have delivers : ∀ label ∈ labels,
      label.Configured job fun settings => settings.tools = tools :=
    fun label member settings same => registry settings (same ▸ member)
  obtain ⟨course, moves, durable, settled⟩ := World.course initial run delivers registered
  have keeps := marking_keeps job tools
  refine ⟨(Course.Once.run (decisionTicket_lawful job) (knows_keeps job _) moves).nodup,
    (Course.Once.run (dispatchTicket_lawful job tools) keeps moves).nodup, ?_, ?_⟩
  · rintro before index step decision after rfl unsafely
    obtain ⟨settings, attempt, later, marking, taken⟩ := keeps.acts moves rfl fun _ => rfl
    cases taken with
    | dispatch pended =>
        exact ⟨marking.chosen decision (pended ▸ .pended) unsafely, marking.pended decision pended⟩
  · rintro ⟨view, decision, found, pending, unsafely⟩ label next step
    obtain ⟨kept, unmarked⟩ := Course.unmarked moves
    rw [found] at durable settled
    have marked : unsafePending view.row.checkpoint = true :=
      Flags.unsafePending (durable ▸ kept.durable) pending unsafely
    have running : view.row.state ≠ .succeeded := by
      intro done
      rw [settledOf, if_pos done] at settled
      have clear := unmarked _ settled
      rw [durable] at clear
      cases clear.symm.trans marked
    obtain ⟨floor, shown, agreed⟩ := World.agreed ⟨first, labels, initial, run⟩
    have valid := shown.store ▸ agreed.sound.valid
    exact ⟨step.not_claimed valid found marked running, World.not_resumed valid found marked⟩

namespace Sample

def dispatching : List World.Move :=
  [.client RunStore.Sample.store 0 (.create task.dump 300 none),
    .deliver { worker with tools := [charge] } (.obj task.dump)] ++
  List.replicate 35 (.event 0 0 "first" (replying chargeCall.dump))

end Sample

/-- A charge has been dispatched, and its run waits for the outcome. -/
theorem unsafe_dispatched_once_charge :
    numbers (Request.dispatched [Sample.charge]) Sample.task.agentRunId.text
        (World.play Sample.dispatching Sample.empty).1 = [1] ∧
      ∀ label next, World.Step (World.play Sample.dispatching Sample.empty).2 label next →
        ¬label.Claims Sample.task.agentRunId.text ∧
        ¬(World.play Sample.dispatching Sample.empty).2.Resumes Sample.task.agentRunId.text
          label := by
  have facts : numbers (Request.dispatched [Sample.charge]) Sample.task.agentRunId.text
        (World.play Sample.dispatching Sample.empty).1 = [1] ∧
      ((World.play Sample.dispatching Sample.empty).2.store.db.view
        Sample.task.agentRunId.text).any (fun view =>
          view.row.job = Dict.sorted Sample.task.dump ∧
          AgentLoop.pendingOf view.row.checkpoint = some Sample.chargeCall.dump) = true := by
    decide +kernel
  obtain ⟨once, seen⟩ := facts
  obtain ⟨view, found, holds⟩ := (Option.any_eq_true _ _).mp seen
  obtain ⟨sameJob, pending⟩ := of_decide_eq_true holds
  have run := World.play_run Sample.dispatching Sample.empty
  have start : Sample.empty.Initial := ⟨rfl, rfl⟩
  have dispatched := @unsafe_dispatched_once Sample.task [Sample.charge] _ _ start _ run
    (fun settings delivered => by
      obtain ⟨payload, moved⟩ := World.deliver_of_play delivered
      simp only [Sample.dispatching, List.cons_append, List.mem_cons, List.nil_append,
        List.mem_replicate] at moved
      rcases moved with same | same | ⟨_, same⟩ <;> cases same
      rfl)
    (fun other here => by
      cases found.symm.trans here
      exact sameJob)
  exact ⟨once, dispatched.2.2.2 ⟨view, Sample.chargeCall, found, pending, rfl⟩⟩

end Crewos.Agent

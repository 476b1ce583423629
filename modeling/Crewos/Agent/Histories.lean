import Crewos.Agent.Budgets
import Crewos.Agent.Dispatches
import Crewos.Agent.EvidenceGate

/-! # Histories grow

The history of a run is that of its durable checkpoint. Every checkpoint appends to
it or keeps it, and the model is asked with the history its attempt has saved last.
A tool call whose result is recorded is not made again, and one that was pending
when its attempt ended is made before the model is asked again. -/

namespace Crewos.Agent

open Foundation RunStore

/-! ## Growing checkpoints -/

/-- The history a checkpoint holds; without one the run is at its beginning. -/
def historyOf (job : AgentRunJob) (dict : Dict) : Except Exc (List DecisionMessage) :=
  if dict.contains "history" then AgentLoop.listOf dict "history" DecisionMessage.validate
  else .ok [Runner.userMessage job]

def Grows (job : AgentRunJob) (first second : Dict) : Prop :=
  ∀ earlier later, Tells job first earlier → Tells job second later →
    earlier.decisions ≤ later.decisions ∧ earlier.history <+: later.history

section Growing

variable {job : AgentRunJob} {dict first second third : Dict} {progress other : Progress}

theorem Tells.decisions_unique (tells : Tells job dict progress) (also : Tells job dict other) :
    progress.decisions = other.decisions :=
  Int.ofNat.inj (Except.ok.inj (tells.decisions.symm.trans also.decisions))

theorem Tells.history_unique (tells : Tells job dict progress) (also : Tells job dict other) :
    progress.history = other.history :=
  Except.ok.inj (tells.history.symm.trans also.history)

theorem Grows.of_progress (tells : Tells job first progress) (later : Tells job second other)
    (decisions : progress.decisions ≤ other.decisions)
    (history : progress.history <+: other.history) : Grows job first second := by
  intro earlier after also alsoLater
  rw [also.decisions_unique tells, also.history_unique tells, alsoLater.decisions_unique later,
    alsoLater.history_unique later]
  exact ⟨decisions, history⟩

theorem Grows.trans (before : Grows job first second) (after : Grows job second third)
    (tells : Tells job second progress) : Grows job first third := by
  intro earlier later known alsoKnown
  obtain ⟨less, shorter⟩ := before earlier progress known tells
  obtain ⟨more, longer⟩ := after progress later tells alsoKnown
  exact ⟨less.trans more, shorter.trans longer⟩

theorem Progress.Moves.grows {settings : Settings} {stage next : Stage} {before after : Progress}
    (moves : Progress.Moves settings job stage before after next) :
    before.decisions ≤ after.decisions ∧ before.history <+: after.history := by
  cases moves with
  | raise _ _ more _ history => exact ⟨by omega, history ▸ List.prefix_rfl⟩
  | pend _ _ same history => exact ⟨same.ge, history ▸ List.prefix_rfl⟩
  | repair _ same history | excuse _ same history | record _ same history =>
      exact ⟨same.ge, history ▸ List.prefix_append _ _⟩

theorem Attempt.Step.grows {settings : Settings} {attempt after : Attempt} {taken : Event Reply}
    (step : attempt.Step settings job taken after) :
    attempt.progress.decisions ≤ after.progress.decisions ∧
      attempt.progress.history <+: after.progress.history := by
  cases step with
  | progressed moves => exact moves.grows
  | _ => exact ⟨le_refl _, List.prefix_rfl⟩

theorem Attempt.Step.saves_raised {settings : Settings} {attempt after : Attempt} {lease : Lease}
    {site : Site} {saved : Dict}
    (step : attempt.Step settings job (checkpointed lease site saved (.ok ())) after)
    (raised : after.stage = .raised) : site = .progress := by
  cases step with
  | opened _ entry => cases entry <;> cases raised
  | progressed => rfl
  | recovered recovers => exact absurd raised recovers.not_raised
  | reviewed | answered => cases raised
  | reserved calls | reconciled _ calls =>
      have stage : attempt.stage = .raised := raised
      rw [stage] at calls
      cases calls

end Growing

/-! ## Histories the model is asked with -/

/-- An attempt that is about to ask has just saved what it asks with. -/
structure Telling (job : AgentRunJob) (past : List World.Label) (index : Nat) (_ : Settings)
    (attempt : Attempt) : Prop where
  tells : Tells job attempt.dict attempt.progress
  raised : attempt.stage = .raised → attempt.control.lease.runId = job.agentRunId.text ∧
    [checkpointed attempt.control.lease .progress attempt.dict (.ok ())] <:+ milestones index past

/-- Of any two checkpoints of the run one is not behind the other, and none is
ahead of the durable one. -/
structure Chained (job : AgentRunJob) (past : List World.Label) (dict : Dict) : Prop where
  tells : ∃ progress, Tells job dict progress
  grows : ∀ saved ∈ saves job.agentRunId.text past, Grows job saved dict
  ordered : ∀ first ∈ saves job.agentRunId.text past, ∀ second ∈ saves job.agentRunId.text past,
    Grows job first second ∨ Grows job second first

section Chained

variable {job : AgentRunJob} {past : List World.Label} {label : World.Label}
  {before dict : Dict} {progress : Progress}

theorem Chained.snoc (chained : Chained job past before)
    (saved : label.saved job.agentRunId.text = some dict) (tells : Tells job dict progress)
    (grows : Grows job before dict) : Chained job (past ++ [label]) dict := by
  obtain ⟨was, told⟩ := chained.tells
  have known : saves job.agentRunId.text (past ++ [label]) =
      saves job.agentRunId.text past ++ [dict] := by
    rw [saves_snoc, saved]
    rfl
  have still : Grows job dict dict := .of_progress tells tells (le_refl _) List.prefix_rfl
  have all : ∀ other ∈ saves job.agentRunId.text (past ++ [label]), Grows job other dict := by
    rw [known]
    intro other member
    rcases List.mem_append.mp member with earlier | last
    · exact (chained.grows other earlier).trans grows told
    · rw [List.mem_singleton.mp last]
      exact still
  refine ⟨⟨progress, tells⟩, all, fun first here second there => ?_⟩
  have here' := here
  have there' := there
  rw [known] at here' there'
  rcases List.mem_append.mp here' with firstBefore | firstLast
  · rcases List.mem_append.mp there' with secondBefore | secondLast
    · exact chained.ordered first firstBefore second secondBefore
    · rw [List.mem_singleton.mp secondLast]
      exact .inl (all first here)
  · rw [List.mem_singleton.mp firstLast]
    exact .inr (all second there)

end Chained

theorem telling_keeps (job : AgentRunJob) (configured : Settings → Prop) :
    Course.Keeps job configured (Telling job) (Chained job) where
  blank := ⟨⟨_, .of_empty job⟩, fun _ member => (by cases member), fun _ member => by cases member⟩
  waits {past label index settings attempt} telling plain := by
    refine ⟨telling.tells, fun raised => ?_⟩
    rw [milestones_of_none (milestone_waits plain)]
    exact telling.raised raised
  rests {past label dict} chained nothing := by
    have same : saves job.agentRunId.text (past ++ [label]) = saves job.agentRunId.text past := by
      rw [saves_snoc, nothing]
      simp
    exact ⟨chained.tells, same ▸ chained.grows, same ▸ chained.ordered⟩
  opens _ _ _ claimed _ := ⟨claimed.tells, fun raised => by cases raised⟩
  works {past index settings attempt after taken} telling step calm := by
    refine ⟨step.tells telling.tells, fun raised => ?_⟩
    cases step with
    | opened | progressed | reserved | reconciled | recovered | reviewed | answered =>
        cases calm ""
    | decide | decided | dispatch | returned => cases raised
    | invoked | raised =>
        rw [milestones_unmarked rfl]
        exact telling.raised raised
  saves {past index site settings attempt after} telling chained lease step := by
    have tells := step.tells telling.tells
    have grown := step.grows
    refine ⟨⟨tells, fun raised => ?_⟩, chained.snoc (saved_checkpointed site after.dict lease) tells
      (.of_progress telling.tells tells grown.1 grown.2)⟩
    obtain rfl := step.saves_raised raised
    rw [milestones_of_some rfl, step.control]
    exact ⟨lease, List.suffix_append _ _⟩
  stuck {past index settings attempt} telling chained lease _ := by
    have tells : Tells job (attempt.dict.update
        [("limits", Runner.limitsOf settings attempt.dict)]) attempt.progress :=
      tells_other telling.tells rfl
    exact chained.snoc (saved_checkpointed _ _ lease) tells
      (.of_progress telling.tells tells (le_refl _) List.prefix_rfl)

/-! ## Calls that are recorded -/

def Stage.rests : Stage → Bool
  | .opening | .idle | .answered _ => true
  | _ => false

def Attempt.Past (number : Nat) (attempt : Attempt) : Prop :=
  number < attempt.progress.decisions ∨
    number = attempt.progress.decisions ∧ attempt.progress.pending = none ∧
      attempt.stage.rests = true

section Past

variable {settings : Settings} {job : AgentRunJob} {configured : Settings → Prop}
  {attempt after : Attempt} {taken : Event Reply} {number : Nat}

theorem Attempt.Past.step (beyond : attempt.Past number)
    (step : attempt.Step settings job taken after) : after.Past number := by
  rcases beyond with less | ⟨same, settled, rests⟩
  · exact .inl (less.trans_le step.grows.1)
  · have elsewhere {stage : Stage} (here : attempt.stage = stage) (busy : stage.rests = false) :
        False := by
      rw [here, busy] at rests
      cases rests
    cases step with
    | opened _ entry =>
        cases entry with
        | pending _ marked => cases settled.symm.trans marked
        | final | fresh => exact .inr ⟨same, settled, rfl⟩
    | progressed moves =>
        generalize was : attempt.stage = stage at moves
        cases moves with
        | raise _ _ next =>
            refine .inl (lt_of_lt_of_eq ?_ next.symm)
            omega
        | _ => exact (elsewhere was rfl).elim
    | decide busy | decided busy | dispatch busy | returned busy | raised busy | reviewed busy =>
        exact (elsewhere busy rfl).elim
    | reserved calls | reconciled _ calls =>
        generalize was : attempt.stage = stage at calls
        cases calls <;> exact (elsewhere was rfl).elim
    | invoked => exact .inr ⟨same, settled, rests⟩
    | recovered recovers =>
        generalize was : attempt.stage = stage at recovers
        cases recovers <;> exact (elsewhere was rfl).elim
    | answered proposes =>
        generalize was : attempt.stage = stage at proposes
        cases proposes <;> exact (elsewhere was rfl).elim

theorem Attempt.Step.not_claim (step : attempt.Step settings job taken after) (claim : Dict) :
    taken.request ≠ .claim claim := by
  cases step <;> exact fun same => by cases same

/-- This delivery, or one that has claimed a run since. -/
def Since (index : Nat) (mid : List World.Label) (other : Nat) : Prop :=
  other = index ∨ ∃ claim row, World.Label.event other
    ⟨.claim claim, (Except.ok row : Except RunStoreError RunRow)⟩ ∈ mid

theorem since_snoc {index other : Nat} {mid : List World.Label} {label : World.Label} :
    Since index (mid ++ [label]) other ↔ Since index mid other ∨ ∃ claim row,
      label = .event other ⟨.claim claim, (Except.ok row : Except RunStoreError RunRow)⟩ := by
  simp only [Since, List.mem_append, List.mem_singleton, exists_or, or_assoc]
  exact or_congr Iff.rfl (or_congr Iff.rfl (by simp only [eq_comm]))

/-- The run is done with the decision of this number, and so are these attempts. -/
structure Course.Past (job : AgentRunJob) (number : Nat) (since : Nat → Prop) (course : Course) :
    Prop where
  durable : ∀ progress, Tells job course.durable progress → number < progress.decisions ∨
    number = progress.decisions ∧ progress.pending = none
  attempts : ∀ index settings attempt, course.attempts index = some (settings, attempt) →
    since index → attempt.Past number
  holders : ∀ index, course.holds index → since index

variable {course next : Course} {label : World.Label} {past mid : List World.Label} {index : Nat}

theorem Attempt.Past.durable (beyond : attempt.Past number) {dict : Dict} {progress : Progress}
    (tells : Tells job dict attempt.progress) (also : Tells job dict progress) :
    number < progress.decisions ∨ number = progress.decisions ∧ progress.pending = none := by
  rw [also.decisions_unique tells, also.pending_unique tells]
  exact beyond.imp_right fun holds => ⟨holds.1, holds.2.1⟩

theorem Course.Past.step (beyond : course.Past job number (Since index mid))
    (known : course.Kept (Knows job) (Known job) past)
    (step : Course.Step job configured course label next) :
    next.Past job number (Since index (mid ++ [label])) := by
  have grows {other : Nat} (since : Since index mid other) : Since index (mid ++ [label]) other :=
    since_snoc.mpr (.inl since)
  have before {other : Nat} (since : Since index (mid ++ [label]) other)
      (unclaimed : ∀ claim row, label ≠
        .event other ⟨.claim claim, (Except.ok row : Except RunStoreError RunRow)⟩) :
      Since index mid other :=
    (since_snoc.mp since).resolve_right fun ⟨claim, row, same⟩ => unclaimed claim row same
  cases step with
  | away becomes outside =>
      refine ⟨by rw [becomes.durable]; exact beyond.durable, fun other own attempt here since => ?_,
        fun other holds => grows (beyond.holders other (becomes.kept other holds))⟩
      rw [becomes.attempts] at here
      refine beyond.attempts other own attempt here (before since fun claim row same => ?_)
      cases (outside other _ same).1.symm.trans here
  | plain _ plain becomes =>
      refine ⟨by rw [becomes.durable]; exact beyond.durable, fun other own attempt here since => ?_,
        fun other holds => grows (beyond.holders other (becomes.kept other holds))⟩
      rw [becomes.attempts] at here
      refine beyond.attempts other own attempt here (before since fun claim row same => ?_)
      cases same
      cases plain
  | work working moves _ becomes =>
      refine ⟨by rw [becomes.durable]; exact beyond.durable, fun other own attempt here since => ?_,
        fun other holds => grows (beyond.holders other (becomes.kept other holds))⟩
      have long := before since fun claim row same => by
        cases same
        exact moves.not_claim claim rfl
      rcases attempts_update becomes.attempts here with ⟨rfl, same⟩ | ⟨_, there⟩
      · cases same
        exact (beyond.attempts _ _ _ working long).step moves
      · exact beyond.attempts other own attempt there long
  | save working holding _ _ _ moves becomes =>
      have later := (beyond.attempts _ _ _ working (beyond.holders _ holding)).step moves
      have tells := moves.tells (known.attempts _ _ _ working)
      refine ⟨?_, fun other own attempt here since => ?_,
        fun other holds => grows (beyond.holders other (becomes.kept other holds))⟩
      · rw [becomes.durable]
        exact fun progress also => later.durable tells also
      · have since := before since fun claim row same => by cases same
        rcases attempts_update becomes.attempts here with ⟨rfl, same⟩ | ⟨_, there⟩
        · cases same
          exact later
        · exact beyond.attempts other own attempt there since
  | @stuck _ holder settings attempt working holding _ _ _ _ becomes =>
      have tells : Tells job (attempt.dict.update
          [("limits", Runner.limitsOf settings attempt.dict)]) attempt.progress :=
        tells_other (known.attempts _ _ _ working) rfl
      refine ⟨?_, fun other own attempt here since => ?_,
        fun other holds => grows (beyond.holders other (becomes.kept other holds))⟩
      · rw [becomes.durable]
        exact fun progress also =>
          (beyond.attempts _ _ _ working (beyond.holders _ holding)).durable tells also
      · have since := before since fun claim row same => by cases same
        rcases attempts_update becomes.attempts here with ⟨_, gone⟩ | ⟨_, there⟩
        · cases gone
        · exact beyond.attempts other own attempt there since
  | leave _ leaves becomes =>
      refine ⟨by rw [becomes.durable]; exact beyond.durable, fun other own attempt here since => ?_,
        fun other holds => grows (beyond.holders other (becomes.kept other holds))⟩
      have since := before since fun claim row same => by
        cases same
        cases leaves
      rcases attempts_update becomes.attempts here with ⟨_, gone⟩ | ⟨_, there⟩
      · cases gone
      · exact beyond.attempts other own attempt there since
  | @claim _ claimer _ row _ progress _ _ _ recorded _ claimed _ durable arrives alone =>
      have claims : Since index (mid ++ [.event claimer ⟨.claim job.dump,
          (Except.ok row : Except RunStoreError RunRow)⟩]) claimer :=
        since_snoc.mpr (.inr ⟨_, row, rfl⟩)
      refine ⟨by rw [durable]; exact beyond.durable, fun other own attempt here since => ?_,
        fun other holds => alone other holds ▸ claims⟩
      rcases attempts_update arrives here with ⟨_, begun⟩ | ⟨different, there⟩
      · cases begun
        have tells := claimed.tells
        rw [recorded] at tells
        exact (beyond.durable progress tells).imp_right fun holds => ⟨holds.1, holds.2, rfl⟩
      · refine beyond.attempts other own attempt there (before since fun claim row same => ?_)
        cases same
        exact different rfl
  | claimFailed vacant _ _ durable arrives nobody =>
      refine ⟨by rw [durable]; exact beyond.durable, fun other own attempt here since => ?_,
        fun other holds => absurd holds (nobody other)⟩
      rw [arrives] at here
      refine beyond.attempts other own attempt here (before since fun claim row same => ?_)
      cases same
      cases vacant.symm.trans here

end Past

/-! ## Calls that were pending -/

/-- The stages before a pending call is dispatched. -/
inductive Stage.Resuming (decision : ToolCallDecision) : Stage → Prop
  | opening : Stage.Resuming decision .opening
  | chosen : Stage.Resuming decision (.chosen (.toolCall decision))
  | pended : Stage.Resuming decision (.pended decision)
  | answered {answer : AgentAnswer} : Stage.Resuming decision (.answered answer)

/-- The attempt has the pending call still to dispatch. -/
structure Attempt.Resumes (number : Int) (decision : ToolCallDecision) (attempt : Attempt) :
    Prop where
  number : attempt.progress.decisions = number
  pending : attempt.progress.pending = some decision
  stage : attempt.stage.Resuming decision

theorem Attempt.Resumes.step {settings : Settings} {job : AgentRunJob} {attempt after : Attempt}
    {taken : Event Reply} {number : Int} {decision : ToolCallDecision} {flag : Bool}
    (resumes : attempt.Resumes number decision)
    (registered : Tools.replaySafe settings.tools decision.name.value = .ok flag)
    (step : attempt.Step settings job taken after) :
    after.Resumes number decision ∨
      taken = ⟨.dispatch job.agentRunId.text number decision, ()⟩ := by
  obtain ⟨same, pending, stage⟩ := resumes
  have elsewhere {other : Stage} (here : attempt.stage = other)
      (never : ¬other.Resuming decision) : False := never (here ▸ stage)
  cases step with
  | opened _ entry =>
      left
      cases entry with
      | final => exact ⟨same, pending, .answered⟩
      | pending _ marked =>
          cases pending.symm.trans marked
          exact ⟨same, pending, .chosen⟩
      | fresh _ settled => cases pending.symm.trans settled
  | progressed moves =>
      generalize attempt.stage = was at moves stage
      cases stage with
      | chosen =>
          cases moves with
          | pend marked _ kept => exact .inl ⟨by rw [kept]; exact same, marked, .pended⟩
      | _ => cases moves
  | decide busy | decided busy | returned busy | raised busy | reviewed busy =>
      exact (elsewhere busy fun impossible => by cases impossible).elim
  | reserved calls | reconciled _ calls =>
      generalize attempt.stage = was at calls stage
      cases stage <;> cases calls
  | invoked => exact .inl ⟨same, pending, stage⟩
  | recovered recovers =>
      generalize attempt.stage = was at recovers stage
      cases stage with
      | chosen =>
          cases recovers with
          | unknown unregistered =>
              rw [Tools.replaySafe, unregistered] at registered
              cases registered
      | _ => cases recovers
  | dispatch busy =>
      rw [busy] at stage
      cases stage
      exact .inr (by rw [same])
  | answered proposes =>
      generalize attempt.stage = was at proposes stage
      cases stage <;> cases proposes

/-- Since its claim an attempt has dispatched the call that was pending, or it has
it still to dispatch. -/
structure Resuming (job : AgentRunJob) (decision : ToolCallDecision) (past : List World.Label)
    (index : Nat) (settings : Settings) (attempt : Attempt) : Prop where
  registered : Tools.replaySafe settings.tools decision.name.value = .ok true
  tells : Tells job attempt.dict attempt.progress
  resumes : ∀ claim row rest number,
    (⟨.claim claim, (Except.ok row : Except RunStoreError RunRow)⟩ : Event Reply) :: rest <:+
      milestones index past →
    (∀ event ∈ rest, ∀ other, event.request ≠ .claim other) →
    AgentLoop.pendingOf row.checkpoint = some decision.dump →
    counter row.checkpoint "decisions" = .ok number →
    (⟨.dispatch job.agentRunId.text number decision, ()⟩ : Event Reply) ∈ rest ∨
      attempt.Resumes number decision

theorem Resuming.step {job : AgentRunJob} {decision : ToolCallDecision}
    {past : List World.Label} {index : Nat} {settings : Settings} {attempt after : Attempt}
    {taken : Event Reply} (resuming : Resuming job decision past index settings attempt)
    (step : attempt.Step settings job taken after) :
    Resuming job decision (past ++ [.event index taken]) index settings after := by
  refine ⟨resuming.registered, step.tells resuming.tells, fun claim row rest number last none
    pending counted => ?_⟩
  cases marks : milestone taken with
  | false =>
      rw [milestones_unmarked marks] at last
      refine (resuming.resumes claim row rest number last none pending counted).elim .inl
        fun resumes => (resumes.step resuming.registered step).symm.imp (fun same => ?_) id
      rw [same] at marks
      cases marks
  | true =>
      rw [milestones_of_some marks] at last
      obtain ⟨before, same, earlier⟩ := (List.suffix_concat_iff.mp last).resolve_left (by simp)
      rcases List.cons_eq_append_iff.mp same with ⟨_, single⟩ | ⟨rest', rfl, rfl⟩
      · cases single
        exact absurd rfl (step.not_claim claim)
      · refine (resuming.resumes claim row rest' number earlier
          (fun event member => none event (List.mem_append_left _ member)) pending counted).elim
          (fun member => .inl (List.mem_append_left _ member))
          fun resumes => (resumes.step resuming.registered step).symm.imp (fun same => ?_) id
        rw [same]
        exact List.mem_append_right _ (List.mem_singleton_self _)

theorem resuming_keeps (job : AgentRunJob) (decision : ToolCallDecision) :
    Course.Keeps job
      (fun settings => Tools.replaySafe settings.tools decision.name.value = .ok true)
      (Resuming job decision) (Known job) where
  blank := ⟨_, .of_empty job⟩
  waits {past label index settings attempt} resuming plain := by
    refine ⟨resuming.registered, resuming.tells, ?_⟩
    rw [milestones_of_none (milestone_waits plain)]
    exact resuming.resumes
  rests known _ := known
  opens {past index settings row token progress control} registered _ _ claimed _ := by
    refine ⟨registered, claimed.tells, fun claim other rest number last none pending counted => ?_⟩
    rw [milestones_of_some rfl] at last
    obtain ⟨before, same, _⟩ := (List.suffix_concat_iff.mp last).resolve_left (by simp)
    rcases List.cons_eq_append_iff.mp same with ⟨_, single⟩ | ⟨rest', _, rfl⟩
    · cases single
      have tells := claimed.tells
      refine .inr ⟨Except.ok.inj (tells.decisions.symm.trans counted), ?_, .opening⟩
      have marked := tells.pending.symm.trans pending
      obtain ⟨found, here, dumped⟩ := Option.map_eq_some_iff.mp marked
      rw [ToolCallDecision.dump_inj dumped] at here
      exact here
    · exact absurd rfl (none _ (List.mem_append_right _ (List.mem_singleton_self _)) job.dump)
  works resuming step _ := resuming.step step
  saves resuming _ _ step := ⟨resuming.step step, _, step.tells resuming.tells⟩
  stuck resuming _ _ _ := ⟨_, tells_other resuming.tells rfl⟩

/-! ## Splitting a run of the world -/

theorem World.reaches {first middle last : World} {job : AgentRunJob}
    {configured : Settings → Prop} {Works : List World.Label → Nat → Settings → Attempt → Prop}
    {Durable : List World.Label → Dict → Prop} (keeps : Course.Keeps job configured Works Durable)
    (initial : first.Initial) {before after : List World.Label}
    (earlier : Run World.Step first before middle) (rest : Run World.Step middle after last)
    (delivers : ∀ label ∈ before, label.Configured job configured)
    (registered : ∀ view, last.store.db.view job.agentRunId.text = some view →
      view.row.job = Dict.sorted job.dump) :
    ∃ floor : Floor, middle.Shown floor ∧ floor.Sound ∧ floor.Registers job ∧
      floor.Configured job configured ∧ (floor.course job).Kept Works Durable before := by
  obtain ⟨begun, start, shownFirst⟩ := initial.floor
  obtain ⟨floor, floorRun, shown⟩ := World.floor earlier shownFirst
  obtain ⟨final, restRun, shownLast⟩ := World.floor rest shown
  have sound : floor.Sound := floorRun.preserves (fun _ _ _ sound step => step.sound sound)
    start.sound
  have registers : floor.Registers job := by
    refine Floor.registers_run restRun sound ?_
    unfold Floor.Registers
    rw [shownLast.store]
    exact registered
  have known : begun.Configured job configured := start.knows
  have moves := (Floor.course_run floorRun start.sound known delivers registers).2
  rw [start.course] at moves
  exact ⟨floor, shown, sound, registers, Floor.configured_run floorRun known delivers,
    keeps.run moves⟩

/-- The attempt that acts at one point of a run. As long as it has the lease of the
run, the durable checkpoint is the one it works with. -/
theorem World.acts {first last : World} {job : AgentRunJob} {configured : Settings → Prop}
    {Works : List World.Label → Nat → Settings → Attempt → Prop}
    {Durable : List World.Label → Dict → Prop} (keeps : Course.Keeps job configured Works Durable)
    (initial : first.Initial) {before after : List World.Label} {index : Nat} {taken : Event Reply}
    (run : Run World.Step first (before ++ .event index taken :: after) last)
    (delivers : ∀ label ∈ before, label.Configured job configured)
    (registered : ∀ view, last.store.db.view job.agentRunId.text = some view →
      view.row.job = Dict.sorted job.dump)
    (names : taken.request.runOf = some job.agentRunId.text)
    (calm : ∀ token, taken.request.operation token = none) :
    ∃ middle settings attempt later, Run World.Step first before middle ∧
      Run World.Step middle (.event index taken :: after) last ∧
      Works before index settings attempt ∧ attempt.Step settings job taken later ∧
      ∀ view, middle.store.db.view job.agentRunId.text = some view →
        view.row.leaseToken = some attempt.control.lease.token →
        view.row.checkpoint = attempt.dict := by
  obtain ⟨middle, earlier, rest⟩ := run.split
  obtain ⟨floor, shown, sound, registers, known, kept⟩ :=
    World.reaches keeps initial earlier rest delivers registered
  obtain ⟨final, restRun, _⟩ := World.floor rest shown
  cases restRun with
  | cons step _ =>
      obtain ⟨settings, attempt, later, working, acts⟩ :=
        (step.course sound registers known).acts names calm
      obtain ⟨party, here, rfl, rfl, standing⟩ := Floor.course_attempts.mp working
      refine ⟨middle, _, attempt, later, earlier, rest, kept.attempts _ _ _ working, acts, ?_⟩
      rw [← shown.store]
      exact fun view => (sound.parties index party here).holds attempt view standing

/-! ## The history of a run -/

/-- What becomes of the history of a run, and of the calls that it records. -/
structure HistoryKept (job : AgentRunJob) (first last : World) (labels : List World.Label) :
    Prop where
  /-- The provider is asked with the history of the checkpoint its attempt has saved
  last, which is the durable one while the attempt has the lease. -/
  asked : ∀ before index number messages timeout after, labels = before ++ .event index
      (⟨.decide job.agentRunId.text number messages timeout, ()⟩ : Event Reply) :: after →
    ∃ middle lease saved, Run World.Step first before middle ∧
      Run World.Step middle (.event index
        (⟨.decide job.agentRunId.text number messages timeout, ()⟩ : Event Reply) :: after) last ∧
      lease.runId = job.agentRunId.text ∧
      [checkpointed lease .progress saved (.ok ())] <:+ milestones index before ∧
      counter saved "decisions" = .ok number ∧ historyOf job saved = .ok messages ∧
      ∀ view, middle.store.db.view job.agentRunId.text = some view →
        view.row.leaseToken = some lease.token → view.row.checkpoint = saved
  numbered : (numbers Request.asked job.agentRunId.text labels).Nodup
  /-- In the order of their checkpoints, histories are prefixes of later ones. -/
  ordered : ∀ index other number next messages longer timeout later,
    .event index (⟨.decide job.agentRunId.text number messages timeout, ()⟩ : Event Reply) ∈ labels →
    .event other (⟨.decide job.agentRunId.text next longer later, ()⟩ : Event Reply) ∈ labels →
    number < next → messages <+: longer
  /-- A recorded call is not made again. -/
  recorded : ∀ past index lease saved number decision remaining result mid other again call after,
    labels = past ++ .event index (checkpointed lease .progress saved (.ok ())) :: (mid ++
      .event other (⟨.dispatch job.agentRunId.text again call, ()⟩ : Event Reply) :: after) →
    lease.runId = job.agentRunId.text →
    called job.agentRunId.text number decision remaining result <:+ milestones index past →
    Since index mid other → number < again
  /-- A pending call is made before the provider is asked again. -/
  resumed : ∀ past index claim row decision number mid next messages timeout after,
    labels = past ++ .event index
      (⟨.claim claim, (Except.ok row : Except RunStoreError RunRow)⟩ : Event Reply) :: (mid ++
        .event index (⟨.decide job.agentRunId.text next messages timeout, ()⟩ : Event Reply) ::
          after) →
    (∀ other taken, .event index ⟨.claim other, taken⟩ ∉ mid) →
    (∀ settings, .deliver settings job ∈ labels →
      Tools.replaySafe settings.tools decision.name.value = .ok true) →
    AgentLoop.pendingOf row.checkpoint = some decision.dump →
    counter row.checkpoint "decisions" = .ok number →
    .event index (⟨.dispatch job.agentRunId.text number decision, ()⟩ : Event Reply) ∈ mid

theorem event_of_milestone {index : Nat} {labels : List World.Label} {taken : Event Reply}
    (member : taken ∈ milestones index labels) : .event index taken ∈ labels := by
  obtain ⟨label, here, marks⟩ := List.mem_filterMap.mp member
  cases label with
  | event other event =>
      rw [World.Label.milestone] at marks
      split at marks
      · rename_i same
        cases marks
        exact same.1 ▸ here
      · cases marks
  | _ => cases marks

theorem Course.asked {job : AgentRunJob} {configured : Settings → Prop} {course : Course}
    {labels : List World.Label} (moves : Run (Course.Move job configured) .blank labels course)
    {index : Nat} {number : Int} {messages : List DecisionMessage} {timeout : Time}
    (member : .event index
      (⟨.decide job.agentRunId.text number messages timeout, ()⟩ : Event Reply) ∈ labels) :
    ∃ saved ∈ saves job.agentRunId.text labels, ∃ progress, Tells job saved progress ∧
      number = progress.decisions ∧ messages = progress.history := by
  obtain ⟨before, after, rfl⟩ := List.append_of_mem member
  obtain ⟨settings, attempt, later, telling, step⟩ :=
    (telling_keeps job configured).acts moves rfl fun _ => rfl
  cases step with
  | decide raised =>
      obtain ⟨run, last⟩ := telling.raised raised
      have here := event_of_milestone (last.subset (List.mem_singleton_self _))
      exact ⟨attempt.dict, List.mem_filterMap.mpr ⟨_, List.mem_append_left _ here,
        saved_checkpointed _ _ run⟩, attempt.progress, telling.tells, rfl, rfl⟩

theorem Course.Step.recorded {job : AgentRunJob} {configured : Settings → Prop}
    {course next : Course} {past : List World.Label} {index : Nat} {lease : Lease} {saved : Dict}
    {number : Int} {decision : ToolCallDecision} {remaining : Time} {result : ToolResult}
    (step : Course.Step job configured course
      (.event index (checkpointed lease .progress saved (.ok ()))) next)
    (run : lease.runId = job.agentRunId.text) (alone : course.Alone)
    (kept : course.Kept (Searching job configured) (Gated job) past)
    (last : called job.agentRunId.text number decision remaining result <:+
      milestones index past) :
    ∃ done : Nat, number = done ∧ next.Past job done (Since index []) := by
  generalize same : World.Label.event index (checkpointed lease .progress saved (.ok ())) = label
    at step
  cases step with
  | away _ outside => exact absurd (congrArg some run) (outside index _ same.symm).2
  | plain _ plain =>
      cases same
      cases plain
  | work _ _ calm =>
      cases same
      cases calm ""
  | @save _ holder site settings attempt after working holding _ _ _ moves becomes =>
      simp only [World.Label.event.injEq] at same
      obtain ⟨rfl, taken⟩ := same
      have searching := kept.attempts _ _ _ working
      obtain ⟨other, stage, _⟩ := searching.result _ _ _ _ ((List.suffix_cons _ _).trans last)
      obtain ⟨left_, also⟩ := searching.returned other result stage
      have numbers := (List.suffix_of_suffix_length_le last also (le_refl _)).eq_of_length rfl
      have tells := moves.tells searching.tells
      have done : after.Past attempt.progress.decisions := by
        rw [← taken] at moves
        cases moves with
        | progressed moves =>
            rw [stage] at moves
            cases moves with
            | record pending same => exact .inr ⟨same.symm, pending, rfl⟩
      refine ⟨attempt.progress.decisions, by cases numbers; rfl, ?_, ?_, ?_⟩
      · rw [becomes.durable]
        exact fun progress also => done.durable tells also
      · rintro other own found here (rfl | ⟨_, _, impossible⟩)
        · rcases attempts_update becomes.attempts here with ⟨_, same⟩ | ⟨different, _⟩
          · cases same
            exact done
          · exact absurd rfl different
        · cases impossible
      · exact fun other holds => .inl (alone other index (becomes.kept other holds) holding)
  | stuck => cases same
  | leave _ leaves =>
      cases same
      cases leaves
  | claim | claimFailed => cases same

/-- The history of a run is append-only whatever becomes of its attempts, and its
tool calls are made again only while they are pending. -/
theorem history_append_only {first last : World} {job : AgentRunJob} (initial : first.Initial)
    {labels : List World.Label} (run : Run World.Step first labels last)
    (registered : ∀ view, last.store.db.view job.agentRunId.text = some view →
      view.row.job = Dict.sorted job.dump) : HistoryKept job first last labels := by
  obtain ⟨course, moves, _, _⟩ := @World.course job (fun _ => True) _ _ _ initial run
    (fun _ _ _ _ => trivial) registered
  refine ⟨?_, ?_, ?_, ?_, ?_⟩
  · rintro before index number messages timeout after rfl
    obtain ⟨middle, settings, attempt, later, earlier, rest, telling, step, holds⟩ :=
      World.acts (telling_keeps job fun _ => True) initial run (fun _ _ _ _ => trivial) registered
        rfl fun _ => rfl
    cases step with
    | decide raised =>
        obtain ⟨about, last⟩ := telling.raised raised
        exact ⟨middle, _, attempt.dict, earlier, rest, about, last, telling.tells.decisions,
          telling.tells.history, holds⟩
  · exact (Course.Once.run (askTicket_lawful job) (knows_keeps job _) moves).nodup
  · intro index other number next messages longer timeout later here there less
    obtain ⟨saved, known, progress, tells, rfl, rfl⟩ := Course.asked moves here
    obtain ⟨after, alsoKnown, further, also, rfl, rfl⟩ := Course.asked moves there
    have chained := ((telling_keeps job fun _ => True).run moves).durable
    rcases chained.ordered saved known after alsoKnown with grows | grows
    · exact (grows _ _ tells also).2
    · have more := (grows _ _ also tells).1
      omega
  · rintro past index lease saved number decision remaining result mid other again call after rfl
      about last since
    obtain ⟨before, earlier, later⟩ := moves.split
    cases later with
    | cons move rest =>
        have kept := (searching_keeps job fun _ => True).run earlier
        have alone : before.Alone := earlier.preserves
          (fun _ _ _ alone move => move.step.alone alone) Course.blank_alone
        obtain ⟨done, rfl, beyond⟩ := move.step.recorded about alone kept last
        obtain ⟨middle, before, dispatches⟩ := rest.split
        have known := ((knows_keeps job fun _ => True).step
          ((knows_keeps job fun _ => True).run earlier) move.step)
        have traced := @Run.traced _ _ _ (fun mid course =>
            Course.Kept (Knows job) (Known job) mid course ∧
            Course.Past job done (Since index mid) course)
          (fun _ _ _ _ holds move => ⟨(knows_keeps job fun _ => True).step holds.1 move.step,
            holds.2.step holds.1 move.step⟩) _ _ _ before []
          ⟨⟨known.durable, known.attempts⟩, beyond⟩
        cases dispatches with
        | cons move _ =>
            obtain ⟨settings, attempt, later, working, step⟩ := move.step.acts rfl fun _ => rfl
            have past := traced.2.attempts other settings attempt working since
            cases step with
            | dispatch pended =>
                rcases past with less | ⟨_, _, rests⟩
                · exact Int.ofNat_lt.mpr less
                · rw [pended] at rests
                  cases rests
  · rintro past index claim row decision number mid next messages timeout after rfl once
      replaySafe pending counted
    obtain ⟨course, moves, _, _⟩ := @World.course job
      (fun settings => Tools.replaySafe settings.tools decision.name.value = .ok true) _ _ _ initial
      run (fun label member settings same => replaySafe settings (same ▸ member)) registered
    rw [← List.cons_append, ← List.append_assoc] at moves
    obtain ⟨settings, attempt, later, resuming, step⟩ :=
      (resuming_keeps job decision).acts moves rfl fun _ => rfl
    have claims : (⟨.claim claim, (Except.ok row : Except RunStoreError RunRow)⟩ : Event Reply) ::
        milestones index mid <:+ milestones index (past ++ .event index
          (⟨.claim claim, (Except.ok row : Except RunStoreError RunRow)⟩ : Event Reply) :: mid) := by
      rw [List.append_cons, milestones_append, milestones_of_some rfl, List.append_assoc]
      exact List.suffix_append _ _
    have none : ∀ event ∈ milestones index mid, ∀ other, event.request ≠ .claim other := by
      rintro ⟨request, reply⟩ member other rfl
      exact once other reply (event_of_milestone member)
    cases step with
    | decide raised =>
        rcases resuming.resumes claim row _ number claims none pending counted with made | resumes
        · exact event_of_milestone made
        · have stage := resumes.stage
          rw [raised] at stage
          cases stage

/-! A run that searches, and one whose first attempt is overtaken by a second
between its last guard and its call of the provider. -/

namespace Sample

def seeker : Settings := { worker with tools := [searcher] }

def overtaking : List World.Move :=
  [.client RunStore.Sample.store 0 (.create task.dump 300 none),
    .deliver seeker (.obj task.dump)] ++
  List.replicate 15 (.event 0 0 "first" (finding searchCall.dump)) ++
  [.deliver seeker (.obj task.dump)] ++
  List.replicate 46 (.event 1 200 "second" (finding searchCall.dump))

def overtaken : Option (World.Label × World) :=
  (World.play overtaking empty).2.advance (.event 0 200 "first" (finding searchCall.dump))

def askedWith : World.Label → Option (List DecisionMessage)
  | .event _ ⟨.decide runId _ messages _, _⟩ =>
      if runId = task.agentRunId.text then some messages else none
  | _ => none

theorem of_askedWith {label : World.Label} {messages : List DecisionMessage}
    (asks : askedWith label = some messages) : ∃ index number timeout, label = .event index
      (⟨.decide task.agentRunId.text number messages timeout, ()⟩ : Event Reply) := by
  unfold askedWith at asks
  split at asks
  · split at asks
    · rename_i same
      cases asks
      subst same
      exact ⟨_, _, _, rfl⟩
    · cases asks
  · cases asks

end Sample

open Sample in
/-- The history of the overtaken run. -/
theorem history_append_only_overtaking : HistoryKept task empty (World.play overtaking empty).2
    (World.play overtaking empty).1 := by
  have facts : ((World.play overtaking empty).2.store.db.view task.agentRunId.text).any
      (fun view => view.row.job = Dict.sorted task.dump) = true := by decide +kernel
  obtain ⟨view, found, sameJob⟩ := (Option.any_eq_true _ _).mp facts
  have start : empty.Initial := ⟨rfl, rfl⟩
  exact history_append_only start (World.play_run overtaking empty) fun other here => by
    cases found.symm.trans here
    exact of_decide_eq_true sameJob

open Sample in
/-- An attempt that was overtaken asks with a history that is no longer the durable
one. -/
theorem overtaken_attempt_asks : ¬∀ (first last : World) (job : AgentRunJob)
    (labels : List World.Label), first.Initial → Run World.Step first labels last →
    (∀ view, last.store.db.view job.agentRunId.text = some view →
      view.row.job = Dict.sorted job.dump) →
    ∀ before index number messages timeout after, labels = before ++ .event index
      (⟨.decide job.agentRunId.text number messages timeout, ()⟩ : Event Reply) :: after →
    ∀ middle, Run World.Step first before middle →
      Run World.Step middle (.event index
        (⟨.decide job.agentRunId.text number messages timeout, ()⟩ : Event Reply) :: after) last →
      ∃ view, middle.store.db.view job.agentRunId.text = some view ∧
        historyOf job view.row.checkpoint = .ok messages := by
  intro durable
  have facts : overtaken.any (fun asked => (askedWith asked.1).any (fun messages =>
      messages.length = 1) ∧ (asked.2.store.db.view task.agentRunId.text).any (fun view =>
      view.row.job = Dict.sorted task.dump)) = true := by decide +kernel
  have seen : ((World.play overtaking empty).2.store.db.view task.agentRunId.text).all (fun view =>
      (historyOf task view.row.checkpoint).toOption.all fun messages => messages.length = 3) =
        true := by decide +kernel
  obtain ⟨⟨label, last⟩, advances, holds⟩ := (Option.any_eq_true _ _).mp facts
  obtain ⟨asks, kept⟩ := of_decide_eq_true holds
  obtain ⟨messages, asks, single⟩ := (Option.any_eq_true _ _).mp asks
  obtain ⟨view, found, sameJob⟩ := (Option.any_eq_true _ _).mp kept
  obtain ⟨index, number, timeout, rfl⟩ := of_askedWith asks
  have run := World.play_run overtaking empty
  have step := World.advance_step advances
  obtain ⟨other, before, history⟩ := durable empty last task _ ⟨rfl, rfl⟩
    (run.append (.cons step (.nil _))) (fun other here => by
      cases found.symm.trans here
      exact of_decide_eq_true sameJob)
    _ index number messages timeout [] rfl _ run (.cons step (.nil _))
  rw [before, Option.all_some, history] at seen
  have three : messages.length = 3 := of_decide_eq_true seen
  have one : messages.length = 1 := of_decide_eq_true single
  omega

end Crewos.Agent

import Crewos.Agent.AnswerAgreement

/-! # The course of one run

All that matters to one run of a floor: its durable checkpoint, the attempts at
work on it, and which of them holds its lease. An attempt that has lost the lease
may go on, but only the holder writes a checkpoint, and the checkpoint it goes on
from is then its own. -/

namespace Crewos.Agent

open Foundation RunStore

/-! ## Courses -/

structure Course where
  durable : Dict
  /-- The attempts at work, by the delivery they belong to. -/
  attempts : Nat → Option (Settings × Attempt)
  holds : Nat → Prop
  /-- The result of a run that has succeeded. -/
  settled : Option (Option Json)

def Request.runOf : Request → Option String
  | .decide runId _ _ _ | .decided runId _ _ | .dispatch runId _ _ => some runId
  | .control (.checkpoint lease _ _) => some lease.runId
  | _ => none

def Attempt.begun (control : Control) (row : RunRow) (progress : Progress) : Attempt :=
  { control, number := row.attempts, dict := row.checkpoint, progress, stage := .opening,
    charge := .none }

/-- An event that ends the work of its attempt. -/
inductive Attempt.Leaves (attempt : Attempt) : Event Reply → Prop
  | refused {site : Site} {saved : Dict} {error : RunStoreError} :
      Attempt.Leaves attempt (checkpointed attempt.control.lease site saved (.error error))
  | reports {lease : Lease} {state : RunState} {result : Option Json} {name : Option String}
      {reply : Except RunStoreError Unit} :
      Attempt.Leaves attempt ⟨.finish lease state result name, reply⟩

/-- The durable checkpoint and the attempts are these now, and the lease is with
whoever had it, or with nobody at work. -/
structure Course.Becomes (course next : Course) (durable : Dict)
    (attempts : Nat → Option (Settings × Attempt)) : Prop where
  durable : next.durable = durable
  attempts : next.attempts = attempts
  kept : ∀ index, next.holds index → course.holds index

/-- What one step does to a run. No step but a claim hands the lease over. -/
inductive Course.Step (job : AgentRunJob) (configured : Settings → Prop) :
    Course → World.Label → Course → Prop
  /-- Others act: clients, deliveries of other runs, deliveries without an
  attempt at work. -/
  | away {course next : Course} {label : World.Label}
      (becomes : course.Becomes next course.durable course.attempts)
      (outside : ∀ index taken, label = .event index taken →
        course.attempts index = none ∧ taken.request.runOf ≠ some job.agentRunId.text) :
      Course.Step job configured course label next
  | plain {course next : Course} {index : Nat} {taken : Event Reply} {worker : Settings × Attempt}
      (working : course.attempts index = some worker) (plain : taken.request.plain = true)
      (becomes : course.Becomes next course.durable course.attempts) :
      Course.Step job configured course (.event index taken) next
  | work {course next : Course} {index : Nat} {taken : Event Reply} {settings : Settings}
      {attempt after : Attempt} (working : course.attempts index = some (settings, attempt))
      (step : attempt.Step settings job taken after)
      (calm : ∀ token, taken.request.operation token = none)
      (becomes : course.Becomes next course.durable
        (Function.update course.attempts index (some (settings, after)))) :
      Course.Step job configured course (.event index taken) next
  | save {course next : Course} {index : Nat} {site : Site} {settings : Settings}
      {attempt after : Attempt} (working : course.attempts index = some (settings, attempt))
      (holding : course.holds index) (same : course.durable = attempt.dict)
      (unsettled : course.settled = none)
      (lease : attempt.control.lease.runId = job.agentRunId.text)
      (step : attempt.Step settings job
        (checkpointed attempt.control.lease site after.dict (.ok ())) after)
      (becomes : course.Becomes next after.dict
        (Function.update course.attempts index (some (settings, after)))) :
      Course.Step job configured course
        (.event index (checkpointed attempt.control.lease site after.dict (.ok ()))) next
  | stuck {course next : Course} {index : Nat} {settings : Settings} {attempt : Attempt}
      (working : course.attempts index = some (settings, attempt)) (holding : course.holds index)
      (same : course.durable = attempt.dict) (unsettled : course.settled = none)
      (lease : attempt.control.lease.runId = job.agentRunId.text)
      (opening : attempt.stage = .opening)
      (becomes : course.Becomes next
        (attempt.dict.update [("limits", Runner.limitsOf settings attempt.dict)])
        (Function.update course.attempts index none)) :
      Course.Step job configured course
        (.event index (checkpointed attempt.control.lease .limits
          (attempt.dict.update [("limits", Runner.limitsOf settings attempt.dict)]) (.ok ()))) next
  | leave {course next : Course} {index : Nat} {taken : Event Reply} {settings : Settings}
      {attempt : Attempt} (working : course.attempts index = some (settings, attempt))
      (leaves : attempt.Leaves taken)
      (becomes : course.Becomes next course.durable (Function.update course.attempts index none)) :
      Course.Step job configured course (.event index taken) next
  | claim {course next : Course} {index : Nat} {settings : Settings} {row : RunRow}
      {token : String} {progress : Progress} {control : Control}
      (vacant : course.attempts index = none) (allowed : configured settings)
      (same : row.checkpoint = course.durable) (safe : unsafePending course.durable = false)
      (claimed : Claimed job row token progress)
      (built : controlFor settings (Runner.jobLease job token) row.checkpoint = .ok control)
      (durable : next.durable = course.durable)
      (attempts : next.attempts = Function.update course.attempts index
        (some (settings, Attempt.begun control row progress)))
      (alone : ∀ other, next.holds other → other = index) :
      Course.Step job configured course
        (.event index ⟨.claim job.dump, (Except.ok row : Except RunStoreError RunRow)⟩) next
  /-- No control can be built from the claimed checkpoint. -/
  | claimFailed {course next : Course} {index : Nat} {row : RunRow}
      (vacant : course.attempts index = none) (same : row.checkpoint = course.durable)
      (safe : unsafePending course.durable = false) (durable : next.durable = course.durable)
      (attempts : next.attempts = course.attempts) (nobody : ∀ other, ¬next.holds other) :
      Course.Step job configured course
        (.event index ⟨.claim job.dump, (Except.ok row : Except RunStoreError RunRow)⟩) next

/-- A run succeeds by the report of an attempt that has saved its answer. -/
structure Course.Move (job : AgentRunJob) (configured : Settings → Prop) (course : Course)
    (label : World.Label) (next : Course) : Prop where
  step : Course.Step job configured course label next
  settles : ∀ result, next.settled = some result → course.settled = some result ∨
    ∃ index settings attempt answer, course.attempts index = some (settings, attempt) ∧
      course.durable = attempt.dict ∧ next.durable = course.durable ∧
      attempt.stage = .answered answer ∧ result = some answer.dump

/-! ## The course of a run on a floor -/

def Standing.attempt? : Standing → Option Attempt
  | .working attempt => some attempt
  | _ => none

def Party.worker (job : AgentRunJob) (party : Party) : Option (Settings × Attempt) :=
  if party.job = job then party.standing.attempt?.map fun attempt => (party.settings, attempt)
  else none

theorem Party.worker_eq_some {job : AgentRunJob} {party : Party} {settings : Settings}
    {attempt : Attempt} : party.worker job = some (settings, attempt) ↔
      party.job = job ∧ party.settings = settings ∧ party.standing = .working attempt := by
  unfold Party.worker Standing.attempt?
  split
  · split <;> simp_all
  · simp_all

theorem Party.worker_of_idle {job : AgentRunJob} {party : Party}
    (idle : ∀ attempt, party.standing ≠ .working attempt) : party.worker job = none := by
  cases worker : party.worker job with
  | none => rfl
  | some found => exact absurd (Party.worker_eq_some.mp worker).2.2 (idle found.2)

theorem Party.worker_of_other {job : AgentRunJob} {party : Party} (other : party.job ≠ job) :
    party.worker job = none := if_neg other

def durableOf : Option RunView → Dict
  | some view => view.row.checkpoint
  | none => []

def settledOf : Option RunView → Option (Option Json)
  | some view => if view.row.state = .succeeded then some view.row.result else none
  | none => none

theorem settledOf_eq_some {found : Option RunView} {result : Option Json} :
    settledOf found = some result ↔
      ∃ view, found = some view ∧ view.row.state = .succeeded ∧ view.row.result = result := by
  cases found with
  | none => simp [settledOf]
  | some view => simp [settledOf]

namespace Floor

def course (job : AgentRunJob) (floor : Floor) : Course where
  durable := durableOf (floor.store.db.view job.agentRunId.text)
  attempts index := floor.parties[index]?.bind (Party.worker job)
  holds index := ∃ view worker, floor.store.db.view job.agentRunId.text = some view ∧
    floor.parties[index]?.bind (Party.worker job) = some worker ∧
    view.row.leaseToken = some worker.2.control.lease.token
  settled := settledOf (floor.store.db.view job.agentRunId.text)

/-- Nothing else is registered under the identifier of the job's run. -/
def Registers (job : AgentRunJob) (floor : Floor) : Prop :=
  ∀ view, floor.store.db.view job.agentRunId.text = some view →
    view.row.job = Dict.sorted job.dump

variable {job : AgentRunJob} {floor next : Floor} {label : World.Label}

theorem course_attempts {index : Nat} {settings : Settings} {attempt : Attempt} :
    (floor.course job).attempts index = some (settings, attempt) ↔
      ∃ party, floor.parties[index]? = some party ∧ party.job = job ∧
        party.settings = settings ∧ party.standing = .working attempt := by
  simp only [course, Option.bind_eq_some_iff, Party.worker_eq_some]

theorem course_set {store : StoreState} {index : Nat} {party later : Party}
    (here : floor.parties[index]? = some party) :
    (course job { store, parties := floor.parties.set index later }).attempts =
      Function.update (floor.course job).attempts index (later.worker job) := by
  funext other
  simp only [course, List.getElem?_set]
  by_cases same : index = other
  · subst same
    have within : index < floor.parties.length := by
      rw [List.getElem?_eq_some_iff] at here
      exact here.1
    simp [within]
  · rw [if_neg same, Function.update_of_ne (fun equal => same equal.symm)]

theorem course_worker {index : Nat} {party : Party} (here : floor.parties[index]? = some party) :
    (floor.course job).attempts index = party.worker job := by
  simp [course, here]

theorem Step.registers (step : Floor.Step floor label next) (valid : floor.store.db.WellFormed)
    (registers : next.Registers job) : floor.Registers job := by
  intro view found
  rcases step.view valid job.agentRunId.text with same | ⟨_, _, _, _, viewStep⟩
  · exact registers view (same.trans found)
  · rw [found] at viewStep
    generalize arrived : next.store.db.view job.agentRunId.text = after at viewStep
    cases viewStep with
    | same => exact registers view arrived
    | created absent => cases absent
    | changed present change =>
        cases present
        rw [← (change_job change).2]
        exact registers _ arrived

theorem Step.kept (step : Floor.Step floor label next) (sound : floor.Sound)
    (comes : ∀ index settings after,
      (next.course job).attempts index = some (settings, after) → ∃ attempt,
        (floor.course job).attempts index = some (settings, attempt) ∧
        after.control = attempt.control) :
    ∀ index, (next.course job).holds index → (floor.course job).holds index := by
  rintro index ⟨after, ⟨settings, later⟩, arrived, working, held⟩
  obtain ⟨attempt, before, control⟩ := comes index settings later working
  rw [control] at held
  rcases step.view sound.valid job.agentRunId.text with same | ⟨_, _, _, _, viewStep⟩
  · exact ⟨after, _, same.symm.trans arrived, before, held⟩
  rw [arrived] at viewStep
  generalize found : floor.store.db.view job.agentRunId.text = was at viewStep
  cases viewStep with
  | same => exact ⟨after, _, found, before, held⟩
  | created => cases held
  | @changed view _ present change =>
      subst present
      rcases change_leaseToken change held with holding | ⟨_, _, fresh⟩
      · exact ⟨view, _, found, before, holding⟩
      · obtain ⟨party, here, rfl, _, standing⟩ := course_attempts.mp before
        obtain ⟨token, seen, lease, attends⟩ :=
          (sound.parties index party here).attends attempt.control.lease (standing ▸ .working)
        cases attends.found.symm.trans found
        obtain ⟨drawn, member, same⟩ := List.mem_map.mp attends.issued
        rw [lease] at fresh
        exact absurd same (fresh drawn member)

end Floor

/-! ## Every step of a floor is one of the course -/

section Courses

variable {job : AgentRunJob} {floor : Floor} {label : World.Label}

theorem durable_of_evolves {before after : Option RunView} (evolves : Evolves Steady before after) :
    durableOf after = durableOf before := by
  cases evolves with
  | absent => rfl
  | created blank => exact blank
  | changed calm => exact calm.checkpoint

theorem writes_calm {store : SQLiteRunStore} {state next : StoreState} {taken : Event Reply}
    (answers : Answers store state taken next) (valid : state.db.WellFormed)
    (calm : taken.request.writes = false) (runId : String) :
    Evolves Steady (state.db.view runId) (next.db.view runId) := by
  refine mild_calm answers valid (fun token operation asks => ?_) runId
  generalize taken.request = request at calm asks
  cases request with
  | claim => cases calm
  | control request =>
      cases request with
      | checkpoint => cases calm
      | guard =>
          cases asks
          trivial
      | _ => cases asks
  | finish | get =>
      cases asks
      trivial
  | _ => cases asks

theorem Standing.Step.runOf {settings : Settings} {standing later : Standing} {taken : Event Reply}
    (moves : Standing.Step settings job standing taken later) (real : standing ≠ .unreal)
    {runId : String} (names : taken.request.runOf = some runId) :
    ∃ attempt, standing = .working attempt ∧
      (runId = job.agentRunId.text ∨ runId = attempt.control.lease.runId) := by
  cases moves with
  | plain plain =>
      generalize taken.request = request at plain names
      cases request with
      | control request =>
          cases request with
          | checkpoint => cases plain
          | _ => cases names
      | decide => cases plain
      | decided => cases plain
      | dispatch => cases plain
      | _ => cases names
  | unreal => exact absurd rfl real
  | works step =>
      refine ⟨_, rfl, ?_⟩
      cases step with
      | decide | decided | dispatch =>
          cases names
          exact .inl rfl
      | invoked | returned | raised => cases names
      | _ =>
          cases names
          exact .inr rfl
  | stuck | refused =>
      cases names
      exact ⟨_, rfl, .inr rfl⟩
  | _ => cases names

theorem SavedBy.durable {state next : StoreState} {attempt : Attempt} {saved : Dict}
    {token : String} {view : RunView} (savedBy : SavedBy state next job attempt saved token view) :
    durableOf (state.db.view job.agentRunId.text) = attempt.dict ∧
      durableOf (next.db.view job.agentRunId.text) = saved := by
  obtain ⟨after, found, checkpoint, _, _⟩ := savedBy.after
  rw [savedBy.attends.found, found]
  exact ⟨savedBy.checkpoint, checkpoint⟩

theorem SavedBy.unsettled {state next : StoreState} {attempt : Attempt} {saved : Dict}
    {token : String} {view : RunView} (savedBy : SavedBy state next job attempt saved token view) :
    settledOf (state.db.view job.agentRunId.text) = none := by
  rw [savedBy.attends.found, settledOf, savedBy.running]
  rfl

theorem ClaimedBy.durable {store : SQLiteRunStore} {state next : StoreState} {token : String}
    {now : Time} {view : RunView} (claimed : ClaimedBy store state next job token now view) :
    durableOf (state.db.view job.agentRunId.text) = view.row.checkpoint ∧
      durableOf (next.db.view job.agentRunId.text) = view.row.checkpoint := by
  rw [claimed.found, claimed.after.1]
  exact ⟨rfl, rfl⟩

theorem Floor.Registers.job_eq (registers : floor.Registers job) {other : AgentRunJob}
    {view : RunView} (found : floor.store.db.view other.agentRunId.text = some view)
    (registered : view.row.job = Dict.sorted other.dump)
    (sameRun : job.agentRunId.text = other.agentRunId.text) : other = job := by
  rw [← sameRun] at found
  exact AgentRunJob.sorted_dump_inj (registered.symm.trans (registers view found))

variable {index : Nat} {party : Party} {taken : Event Reply} {standing : Standing}
  {store : StoreState} {configured : Settings → Prop}

theorem Floor.elsewhere (sound : floor.Sound) (registers : floor.Registers job)
    (here : floor.parties[index]? = some party) (different : party.job ≠ job)
    (moves : Standing.Step party.settings party.job party.standing taken standing)
    (answers : Answers party.settings.store floor.store taken store) :
    durableOf (store.db.view job.agentRunId.text) =
        durableOf (floor.store.db.view job.agentRunId.text) ∧
      taken.request.runOf ≠ some job.agentRunId.text := by
  have known := sound.parties index party here
  have apart {view : RunView} (found : floor.store.db.view party.job.agentRunId.text = some view)
      (registered : view.row.job = Dict.sorted party.job.dump) :
      job.agentRunId.text ≠ party.job.agentRunId.text :=
    fun sameRun => different (registers.job_eq found registered sameRun)
  constructor
  · rcases moves.kinds known.real with ⟨attempt, site, saved, working, rfl, saves⟩ |
      ⟨row, token, waiting, rfl, open_, starts⟩ | ⟨row, rfl, open_, impossible⟩ | rest
    · obtain ⟨token, view, savedBy⟩ := known.saved working answers sound.valid
      rw [savedBy.elsewhere (apart savedBy.attends.found savedBy.attends.job)]
    · obtain ⟨view, token, now, rfl, claimed⟩ := answers.claimed sound.valid open_
      rw [claimed.elsewhere (apart claimed.found claimed.job)]
    · obtain ⟨view, token, now, rfl, claimed⟩ := answers.claimed sound.valid open_
      rw [claimed.elsewhere (apart claimed.found claimed.job)]
    · exact durable_of_evolves (rest_calm rest answers sound.valid _)
  · intro names
    obtain ⟨attempt, working, runs⟩ := moves.runOf known.real names
    obtain ⟨token, view, lease, attends⟩ :=
      known.attends attempt.control.lease (working ▸ .working)
    rw [lease] at runs
    exact apart attends.found attends.job (runs.elim id id)

theorem Request.plain_calm {request : Request} (plain : request.plain = true) :
    request.writes = false := by
  cases request with
  | control request => cases request <;> first | rfl | cases plain
  | claim => cases plain
  | _ => rfl

theorem Floor.durable_calm (answers : Answers party.settings.store floor.store taken store)
    (valid : floor.store.db.WellFormed) (calm : taken.request.writes = false) :
    durableOf (store.db.view job.agentRunId.text) = (floor.course job).durable :=
  durable_of_evolves (writes_calm answers valid calm _)

theorem Floor.moved_kept (sound : floor.Sound) (here : floor.parties[index]? = some party)
    {later : Party}
    (step : Floor.Step floor label { store, parties := floor.parties.set index later })
    (comes : ∀ settings after, later.worker job = some (settings, after) →
      ∃ attempt, party.worker job = some (settings, attempt) ∧ after.control = attempt.control) :
    ∀ other, (Floor.course job { store, parties := floor.parties.set index later }).holds other →
      (floor.course job).holds other := by
  refine step.kept sound fun other settings after found => ?_
  rw [Floor.course_set here] at found
  by_cases same : other = index
  · subst same
    rw [Function.update_self] at found
    rw [Floor.course_worker here]
    exact comes settings after found
  · rw [Function.update_of_ne same] at found
    exact ⟨after, found, rfl⟩

theorem Floor.worked (sound : floor.Sound) (here : floor.parties[index]? = some party)
    (same : party.job = job) {attempt : Attempt} (working : party.standing = .working attempt)
    (moves : Standing.Step party.settings party.job party.standing taken standing)
    (answers : Answers party.settings.store floor.store taken store)
    (step : Floor.Step floor (.event index taken)
      { store, parties := floor.parties.set index { party with standing } }) :
    Course.Step job configured (floor.course job) (.event index taken)
      (Floor.course job { store, parties := floor.parties.set index { party with standing } }) := by
  subst same
  have worker : party.worker party.job = some (party.settings, attempt) :=
    Party.worker_eq_some.mpr ⟨rfl, rfl, working⟩
  have present : (floor.course party.job).attempts index = some (party.settings, attempt) :=
    (Floor.course_worker here).trans worker
  have attempts := @Floor.course_set party.job floor store index party { party with standing } here
  have reports : party.standing.Reports attempt.control.lease := working ▸ .working
  have gone (idle : ∀ other, standing ≠ .working other) :
      (∀ other, (Floor.course party.job
        { store, parties := floor.parties.set index { party with standing } }).holds other →
        (floor.course party.job).holds other) ∧
      Party.worker party.job { party with standing } = none := by
    have none := @Party.worker_of_idle party.job { party with standing } idle
    refine ⟨Floor.moved_kept sound here step fun settings after found => ?_, none⟩
    rw [none] at found
    cases found
  rw [working] at moves
  cases moves with
  | plain plain =>
      have stays : Party.worker party.job { party with standing := .working attempt } =
          some (party.settings, attempt) := Party.worker_eq_some.mpr ⟨rfl, rfl, rfl⟩
      have kept := Floor.moved_kept sound here step fun settings after found => by
        rw [stays] at found
        cases found
        exact ⟨attempt, worker, rfl⟩
      rw [stays, ← present, Function.update_eq_self] at attempts
      have durable : durableOf (store.db.view party.job.agentRunId.text) =
          (floor.course party.job).durable :=
        Floor.durable_calm answers sound.valid (Request.plain_calm plain)
      exact .plain present plain ⟨durable, attempts, kept⟩
  | @works _ after _ step_ =>
      have stays : Party.worker party.job { party with standing := .working after } =
          some (party.settings, after) := Party.worker_eq_some.mpr ⟨rfl, rfl, rfl⟩
      have kept := Floor.moved_kept sound here step fun settings later found => by
        rw [stays] at found
        cases found
        exact ⟨attempt, worker, step_.control⟩
      rw [stays] at attempts
      rcases step_.saves with ⟨site, rfl⟩ | ⟨_, _, nowhere⟩
      · obtain ⟨token, view, savedBy⟩ := (sound.parties index party here).saved working answers
          sound.valid
        have held : (floor.course party.job).holds index :=
          ⟨view, _, savedBy.attends.found, present, by rw [savedBy.held, savedBy.lease]; rfl⟩
        have lease : attempt.control.lease.runId = party.job.agentRunId.text := by
          rw [savedBy.lease]
          rfl
        exact .save present held savedBy.durable.1 savedBy.unsettled lease step_
          ⟨savedBy.durable.2, attempts, kept⟩
      · have durable : durableOf (store.db.view party.job.agentRunId.text) =
            (floor.course party.job).durable := by
          rw [answers.elsewhere nowhere]
          rfl
        exact .work present step_ nowhere ⟨durable, attempts, kept⟩
  | stuck opening =>
      obtain ⟨kept, none⟩ := gone fun _ same => by cases same
      obtain ⟨token, view, savedBy⟩ := (sound.parties index party here).saved working answers
        sound.valid
      have held : (floor.course party.job).holds index :=
        ⟨view, _, savedBy.attends.found, present, by rw [savedBy.held, savedBy.lease]; rfl⟩
      have lease : attempt.control.lease.runId = party.job.agentRunId.text := by
        rw [savedBy.lease]
        rfl
      rw [none] at attempts
      exact .stuck present held savedBy.durable.1 savedBy.unsettled lease opening
        ⟨savedBy.durable.2, attempts, kept⟩
  | refused =>
      obtain ⟨kept, none⟩ := gone fun _ same => by cases same
      rw [none] at attempts
      have durable : durableOf (store.db.view party.job.agentRunId.text) =
          (floor.course party.job).durable := by
        rcases answers.checkpoint sound.valid with ⟨_, _, same⟩ | ⟨accepted, _⟩
        · rw [same]
          rfl
        · cases accepted
      exact .leave present .refused ⟨durable, attempts, kept⟩
  | finishes | finishRefused | reports =>
      obtain ⟨kept, none⟩ := gone fun _ same => by cases same
      rw [none] at attempts
      have durable : durableOf (store.db.view party.job.agentRunId.text) =
          (floor.course party.job).durable := Floor.durable_calm answers sound.valid rfl
      exact .leave present .reports ⟨durable, attempts, kept⟩

theorem Floor.idled (sound : floor.Sound) (here : floor.parties[index]? = some party)
    (same : party.job = job) (idle : ∀ attempt, party.standing ≠ .working attempt)
    (allowed : configured party.settings)
    (moves : Standing.Step party.settings party.job party.standing taken standing)
    (answers : Answers party.settings.store floor.store taken store)
    (step : Floor.Step floor (.event index taken)
      { store, parties := floor.parties.set index { party with standing } }) :
    Course.Step job configured (floor.course job) (.event index taken)
      (Floor.course job { store, parties := floor.parties.set index { party with standing } }) := by
  subst same
  have known := sound.parties index party here
  have worker : party.worker party.job = none := Party.worker_of_idle idle
  have vacant : (floor.course party.job).attempts index = none :=
    (Floor.course_worker here).trans worker
  have attempts := @Floor.course_set party.job floor store index party { party with standing } here
  have still (none : Party.worker party.job { party with standing } = none) :
      Function.update (floor.course party.job).attempts index
        (Party.worker party.job { party with standing }) = (floor.course party.job).attempts := by
    rw [none, ← vacant, Function.update_eq_self]
  rcases moves.kinds known.real with ⟨attempt, _, _, working, _⟩ |
    ⟨row, token, waiting, rfl, open_, starts⟩ | ⟨row, rfl, open_, impossible⟩ | rest
  · exact absurd working (idle attempt)
  · obtain ⟨view, drawn, now, rfl, claimed⟩ := answers.claimed sound.valid open_
    have safe : unsafePending (floor.course party.job).durable = false := by
      have before := claimed.claimable.safe
      rwa [← claimed.durable.1] at before
    have recorded : (view.row.claimed party.settings.store drawn now).checkpoint =
        (floor.course party.job).durable := claimed.durable.1.symm
    -- Nobody but the claimant has the token that was just drawn.
    have kept : ∀ other, (Floor.course party.job
        { store, parties := floor.parties.set index { party with standing } }).holds other →
        other = index := by
      rintro other ⟨after, ⟨settings, later⟩, arrived, found, held⟩
      by_contra different
      cases claimed.after.1.symm.trans arrived
      rw [List.getElem?_set_ne (Ne.symm different)] at found
      obtain ⟨holder, there, work⟩ := Option.bind_eq_some_iff.mp found
      obtain ⟨sameJob, _, working⟩ := Party.worker_eq_some.mp work
      obtain ⟨taken, seen, lease, attends⟩ :=
        (sound.parties other holder there).attends later.control.lease (working ▸ .working)
      rw [lease] at held
      cases held
      rw [sameJob] at attends
      cases attends.found.symm.trans claimed.found
      exact claimed.fresh attends.issued
    cases starts with
    | @working progress control real built =>
        have stays : Party.worker party.job
            { party with
                standing := .working (Attempt.begun control
                  (view.row.claimed party.settings.store drawn now) progress) } =
            some (party.settings, Attempt.begun control
              (view.row.claimed party.settings.store drawn now) progress) :=
          Party.worker_eq_some.mpr ⟨rfl, rfl, rfl⟩
        have arrives := attempts.trans (congrArg _ stays)
        exact .claim vacant allowed recorded safe real built (claimed.durable.2.trans recorded)
          arrives kept
    | failing real =>
        have none : Party.worker party.job
            { party with standing := .failing (Runner.jobLease party.job token) } = none :=
          Party.worker_of_idle fun _ same => by cases same
        refine .claimFailed vacant recorded safe (claimed.durable.2.trans recorded)
          (attempts.trans (still none)) fun other held => ?_
        have same := kept other held
        subst same
        obtain ⟨_, _, _, found, _⟩ := held
        have gone := congrFun (attempts.trans (still none)) other
        rw [vacant] at gone
        cases gone.symm.trans found
  · obtain ⟨view, drawn, now, rfl, claimed⟩ := answers.claimed sound.valid open_
    obtain ⟨progress, tells⟩ := sound.rows _ _ _ claimed.found claimed.job
    exact absurd (claimed.real tells) (impossible _ _)
  · have none : Party.worker party.job { party with standing } = none :=
      Party.worker_of_idle fun after same => by
        obtain ⟨attempt, working, _⟩ := rest.works after same
        exact idle attempt working
    have kept := Floor.moved_kept sound here step fun settings after found => by
      rw [none] at found
      cases found
    have durable := durable_of_evolves
      (rest_calm rest answers sound.valid party.job.agentRunId.text)
    refine .away ⟨durable, attempts.trans (still none), kept⟩ fun other event same => ?_
    cases same
    refine ⟨vacant, fun names => ?_⟩
    obtain ⟨attempt, working, _⟩ := moves.runOf known.real names
    exact idle attempt working

def Floor.Configured (job : AgentRunJob) (configured : Settings → Prop) (floor : Floor) : Prop :=
  ∀ (index : Nat) (party : Party), floor.parties[index]? = some party → party.job = job →
    configured party.settings

/-- Every step of a floor is one of the course of each job's run. -/
theorem Floor.Step.course {next : Floor} (step : Floor.Step floor label next) (sound : floor.Sound)
    (registers : floor.Registers job) (known : floor.Configured job configured) :
    Course.Step job configured (floor.course job) label (next.course job) := by
  have whole := step
  cases step with
  | client able calls =>
      have kept := @Floor.Step.kept job _ _ _ whole sound fun index settings after found =>
        ⟨after, found, rfl⟩
      have durable := durable_of_evolves (client_calm able calls sound.valid job.agentRunId.text)
      exact .away ⟨durable, rfl, kept⟩ fun index taken same => by cases same
  | @deliver settings other =>
      have attempts : (Floor.course job { floor with
          parties := floor.parties ++
            [{ settings, job := other, standing := .waiting }] }).attempts =
          (floor.course job).attempts := by
        funext index
        have none : Party.worker job { settings, job := other, standing := .waiting } = none :=
          Party.worker_of_idle fun _ same => by cases same
        simp only [Floor.course, List.getElem?_append]
        split
        · rfl
        · rename_i beyond
          rw [List.getElem?_singleton, List.getElem?_eq_none (not_lt.mp beyond)]
          split
          · exact none
          · rfl
      have kept := @Floor.Step.kept job _ _ _ whole sound fun index settings after found => by
        rw [attempts] at found
        exact ⟨after, found, rfl⟩
      exact .away ⟨rfl, attempts, kept⟩ fun index taken same => by cases same
  | @event index party taken standing store here moves answers =>
      by_cases same : party.job = job
      · by_cases working : ∃ attempt, party.standing = .working attempt
        · obtain ⟨attempt, working⟩ := working
          exact Floor.worked sound here same working moves answers whole
        · exact Floor.idled sound here same (fun attempt at_ => working ⟨attempt, at_⟩)
            (known index party here same) moves answers whole
      · obtain ⟨durable, outside⟩ := Floor.elsewhere sound registers here same moves answers
        have before : (floor.course job).attempts index = none :=
          (Floor.course_worker here).trans (Party.worker_of_other same)
        have none : Party.worker job { party with standing } = none := Party.worker_of_other same
        have attempts := @Floor.course_set job floor store index party { party with standing } here
        rw [none, ← before, Function.update_eq_self] at attempts
        have kept := Floor.moved_kept sound here whole fun settings after found => by
          rw [none] at found
          cases found
        refine .away ⟨durable, attempts, kept⟩ fun other event equal => ?_
        cases equal
        exact ⟨before, outside⟩

theorem Floor.Step.settles {next : Floor} (step : Floor.Step floor label next)
    (sound : floor.Sound) (registers : floor.Registers job) {result : Option Json}
    (now : (next.course job).settled = some result) : (floor.course job).settled = some result ∨
      ∃ index settings attempt answer,
        (floor.course job).attempts index = some (settings, attempt) ∧
        (floor.course job).durable = attempt.dict ∧
        (next.course job).durable = (floor.course job).durable ∧
        attempt.stage = .answered answer ∧ result = some answer.dump := by
  obtain ⟨after, arrived, succeeded, rfl⟩ := settledOf_eq_some.mp now
  rcases step.succeeds sound arrived succeeded with ⟨view, found, _, already, same⟩ |
    ⟨index, party, attempt, answer, view, run, reported⟩
  · exact .inl (settledOf_eq_some.mpr ⟨view, found, already, same.symm⟩)
  · have found := reported.found
    rw [run] at found
    have sameJob : party.job = job := registers.job_eq reported.found reported.sameJob run.symm
    refine .inr ⟨index, party.settings, attempt, answer, course_attempts.mpr
      ⟨party, reported.here, sameJob, rfl, reported.working⟩, ?_, ?_, reported.answered,
      reported.result⟩
    · rw [Floor.course, found]
      exact reported.durable
    · rw [Floor.course, Floor.course, found, arrived]
      exact reported.kept

def Course.blank : Course :=
  { durable := [], attempts := fun _ => none, holds := fun _ => False, settled := none }

def Course.Alone (course : Course) : Prop :=
  ∀ index other, course.holds index → course.holds other → index = other

theorem Course.blank_alone : Course.Alone .blank := fun _ _ here => here.elim

theorem Course.Step.alone {course next : Course}
    (step : Course.Step job configured course label next)
    (alone : course.Alone) : next.Alone := by
  cases step with
  | away becomes | plain _ _ becomes | work _ _ _ becomes | save _ _ _ _ _ _ becomes
  | stuck _ _ _ _ _ _ becomes | leave _ _ becomes =>
      exact fun index other here there =>
        alone index other (becomes.kept index here) (becomes.kept other there)
  | claim _ _ _ _ _ _ _ _ claims =>
      exact fun index other here there => (claims index here).trans (claims other there).symm
  | claimFailed _ _ _ _ _ nobody => exact fun index _ here => absurd here (nobody index)

theorem Floor.Initial.course (initial : floor.Initial) : floor.course job = .blank := by
  obtain ⟨store, parties⟩ := initial
  have empty : floor.store.db = RunDb.empty := store
  have attempts : (floor.course job).attempts = fun _ => none := by
    funext index
    simp [Floor.course, parties]
  have durable : (floor.course job).durable = [] := by
    rw [Floor.course, empty]
    rfl
  have holds : (floor.course job).holds = fun _ => False := by
    funext index
    refine propext ⟨fun held => ?_, False.elim⟩
    obtain ⟨_, _, _, found, _⟩ := held
    rw [parties] at found
    cases found
  have settled : (floor.course job).settled = none := by
    rw [Floor.course, empty]
    rfl
  rw [Course.blank, ← durable, ← attempts, ← holds, ← settled]

theorem Floor.Initial.knows (initial : floor.Initial) : floor.Configured job configured := by
  intro index party here
  rw [initial.2] at here
  cases here

def World.Label.Configured (job : AgentRunJob) (configured : Settings → Prop)
    (label : World.Label) : Prop :=
  ∀ settings, label = .deliver settings job → configured settings

theorem Floor.Step.keepsConfigured {next : Floor} (step : Floor.Step floor label next)
    (known : floor.Configured job configured) (delivers : label.Configured job configured) :
    next.Configured job configured := by
  intro other found there sameJob
  cases step with
  | client => exact known other found there sameJob
  | deliver =>
      rcases Floor.parties_append there with there | ⟨_, rfl⟩
      · exact known other found there sameJob
      · cases sameJob
        exact delivers _ rfl
  | @event index party taken standing store here =>
      rcases Floor.parties_set there with ⟨rfl, rfl⟩ | ⟨_, there⟩
      · exact known other party here sameJob
      · exact known other found there sameJob

theorem Floor.configured_run {last : Floor} {labels : List World.Label}
    (run : Run Floor.Step floor labels last) (known : floor.Configured job configured)
    (delivers : ∀ label ∈ labels, label.Configured job configured) :
    last.Configured job configured := by
  induction run with
  | nil => exact known
  | cons step _ induction =>
      exact induction (step.keepsConfigured known (delivers _ List.mem_cons_self))
        fun label member => delivers label (List.mem_cons_of_mem _ member)

theorem Floor.registers_run {last : Floor} {labels : List World.Label}
    (run : Run Floor.Step floor labels last) (sound : floor.Sound)
    (registers : last.Registers job) : floor.Registers job := by
  induction run with
  | nil => exact registers
  | cons step _ induction =>
      exact step.registers sound.valid (induction (step.sound sound) registers)

theorem Floor.course_run {last : Floor} {labels : List World.Label}
    (run : Run Floor.Step floor labels last) (sound : floor.Sound)
    (known : floor.Configured job configured)
    (delivers : ∀ label ∈ labels, label.Configured job configured)
    (registers : last.Registers job) :
    floor.Registers job ∧
      Run (Course.Move job configured) (floor.course job) labels (last.course job) := by
  induction run with
  | nil => exact ⟨registers, .nil _⟩
  | cons step rest induction =>
      have first := delivers _ List.mem_cons_self
      obtain ⟨middle, later⟩ := induction (step.sound sound) (step.keepsConfigured known first)
        (fun label member => delivers label (List.mem_cons_of_mem _ member)) registers
      have registered := Floor.Step.registers step sound.valid middle
      exact ⟨registered,
        .cons ⟨step.course sound registered known, fun _ => step.settles sound registered⟩ later⟩

/-- What a world shows of a job's run. -/
theorem World.course {world last : World} {labels : List World.Label} (initial : world.Initial)
    (run : Run World.Step world labels last)
    (delivers : ∀ label ∈ labels, label.Configured job configured)
    (registers : ∀ view, last.store.db.view job.agentRunId.text = some view →
      view.row.job = Dict.sorted job.dump) :
    ∃ course, Run (Course.Move job configured) .blank labels course ∧
      course.durable = durableOf (last.store.db.view job.agentRunId.text) ∧
      course.settled = settledOf (last.store.db.view job.agentRunId.text) := by
  obtain ⟨begun, first, start⟩ := initial.floor
  obtain ⟨floor, floorRun, shown⟩ := World.floor run start
  have registered : floor.Registers job := by
    unfold Floor.Registers
    rw [shown.store]
    exact registers
  have known : begun.Configured job configured := first.knows
  refine ⟨floor.course job, ?_, by rw [Floor.course, shown.store],
    by rw [Floor.course, shown.store]⟩
  rw [← first.course]
  exact (Floor.course_run floorRun first.sound known delivers registered).2

end Courses

end Crewos.Agent

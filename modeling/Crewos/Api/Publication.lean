import Crewos.Agent.Tenancy
import Crewos.Api.AgentRoutes

/-! # Confirmed publications

A queued run that is marked as published has a delivery on its way, unless the
mark came from a publication that a resumption has overtaken. -/

namespace Crewos.Api

open Foundation RunStore Agent

/-- Every queued run that is marked as published has a delivery of it pending. -/
def Backed (world : World) : Prop :=
  ∀ row ∈ world.db.runs, row.state = .queued → row.published = true →
    ∃ payload ∈ world.deliveries, textField payload "agent_run_id" = .ok row.id

/-- The event marks a queued run that was not marked before, and nothing was sent
since the run entered the queue: the publication is one from before that. -/
def Overtaken (world : World) (event : Event) : Prop :=
  ∃ index sends clock runId tenantId, event = .advance index sends clock ∧
    world.clients[index]? = some (.confirming runId tenantId) ∧ runId ∉ world.sent ∧
    ∃ row ∈ world.db.runs, row.id = runId ∧ row.tenant = tenantId ∧ row.state = .queued ∧
      row.published = false

/-! ## Jobs and their dumps -/

/-- The run was registered for the job. -/
structure RunsJob (job : AgentRunJob) (row : RunRow) : Prop where
  id : row.id = job.agentRunId.text
  tenant : row.tenant = job.tenantId
  job : row.job = Dict.sorted job.dump

/-- A worker that gets the payload claims the run. -/
structure Carries (maxDecisions : Nat) (payload : Dict) (row : RunRow) : Prop where
  runId : textField payload "agent_run_id" = .ok row.id
  registered : ∃ job, AgentRunJob.validate (.obj payload) = some job ∧
    job.maxDecisions ≤ maxDecisions ∧ RunsJob job row

theorem RunsJob.registered {job : AgentRunJob} {row : RunRow} (runs : RunsJob job row) :
    Registered row job.dump where
  idField := by rw [(textField_dump job).1, runs.id]
  tenantField := by rw [(textField_dump job).2, runs.tenant]
  same := runs.job

/-- The stored form of a job is read as the job. -/
theorem validate_sorted (job : AgentRunJob) :
    AgentRunJob.validate (.obj (Dict.sorted job.dump)) = some job ∧
      textField (Dict.sorted job.dump) "agent_run_id" = .ok job.agentRunId.text := by
  rcases job with ⟨agentRunId, tenantId, tenant, message, maxDecisions, positive, answerMode⟩
  have readTenant : AgentRunJob.readTenant (.str tenantId) = some ⟨tenantId, tenant⟩ :=
    dif_pos tenant
  have readBudget : AgentRunJob.readBudget (.int maxDecisions) = some ⟨maxDecisions, positive⟩ :=
    dif_pos positive
  rw [AgentRunJob.sorted_dump]
  cases answerMode with
  | general =>
      simp [AgentRunJob.validate, Fields.object, Fields.required, Fields.optional,
        Dict.get?_cons, Dict.get?_nil, readTenant, readBudget, textField]
  | document =>
      have readMode := AnswerMode.read_text .document
      simp only [AnswerMode.text] at readMode
      simp [AgentRunJob.validate, Fields.object, Fields.required, Fields.optional,
        Dict.get?_cons, readTenant, readBudget, readMode, textField]

/-! ## Queued runs -/

/-- A claim of a queued run always starts an attempt. -/
structure Waiting (store : SQLiteRunStore) (row : RunRow) : Prop where
  wanted : row.cancelRequested = false
  safe : unsafePending row.checkpoint = false
  attempts : row.attempts < store.maxAttempts

/-- Only a resumption puts a run back into the queue. Otherwise a queued run was
queued before, and only its mark can have changed. -/
theorem Change.queued {store : SQLiteRunStore} {clock : Clock} {operation : Operation}
    {view after : RunView} (change : Change store clock operation view after)
    (queued : after.row.state = .queued) :
    (Resumable store view.row clock ∧ operation = .resume view.row.id view.row.tenant ∧
      after = view.requeued (clock 2)) ∨
    (view.row.state = .queued ∧ (Waiting store view.row → Waiting store after.row) ∧
      (after.row.published = view.row.published ∨
        operation = .markPublished view.row.id view.row.tenant)) := by
  cases change with
  | published => exact .inr ⟨queued, fun waiting => ⟨waiting.1, waiting.2, waiting.3⟩, .inr rfl⟩
  | claimed => cases queued
  | renewed owned => exact absurd (owned.running.symm.trans queued) (by decide)
  | saved owned => exact absurd (owned.running.symm.trans queued) (by decide)
  | finished owned final =>
      exfalso
      revert queued
      simp only [RunView.finished, RunRow.finished, SQLiteRunStore.verdict]
      split
      · simp
      · rintro rfl
        cases final
  | cancelled notFinal lease =>
      exfalso
      revert queued
      simp only [RunView.cancelling, RunRow.cancelling]
      split <;> simp
  | resumed resumable => exact .inl ⟨resumable, rfl, rfl⟩
  | read reconciled =>
      cases reconciled with
      | cancelled => cases queued
      | needsReview => cases queued
      | exhausted => cases queued
      | untouched => exact .inr ⟨queued, id, .inl rfl⟩

theorem Change.identity {store : SQLiteRunStore} {clock : Clock} {operation : Operation}
    {view after : RunView} (change : Change store clock operation view after) :
    after.row.id = view.row.id ∧ after.row.tenant = view.row.tenant ∧
      after.row.job = view.row.job := by
  cases change with
  | read reconciled => cases reconciled <;> exact ⟨rfl, rfl, rfl⟩
  | _ => exact ⟨rfl, rfl, rfl⟩

/-! ## The invariant -/

section Invariant

variable {store : SQLiteRunStore} {maxDecisions : Nat}

/-- Requests about to be published carry the job of their run. -/
def Client.Sound (maxDecisions : Nat) (db : RunDb) : Client → Prop
  | .publishing payload runId _ =>
      ∃ view, db.view runId = some view ∧ Carries maxDecisions payload view.row
  | _ => True

structure World.Sound (store : SQLiteRunStore) (maxDecisions : Nat) (world : World) : Prop where
  valid : world.db.WellFormed
  rows : ∀ runId view, world.db.view runId = some view →
    ∃ job, job.maxDecisions ≤ maxDecisions ∧ RunsJob job view.row
  waiting : ∀ runId view, world.db.view runId = some view → view.row.state = .queued →
    Waiting store view.row
  clients : ∀ client ∈ world.clients, client.Sound maxDecisions world.db
  deliveries : ∀ payload ∈ world.deliveries, ∃ runId view, world.db.view runId = some view ∧
    Carries maxDecisions payload view.row
  known : ∀ runId ∈ world.sent, ∃ view, world.db.view runId = some view
  backed : ∀ runId view, world.db.view runId = some view → view.row.state = .queued →
    runId ∈ world.sent → ∃ payload ∈ world.deliveries,
      textField payload "agent_run_id" = .ok runId
  marked : ∀ runId view, world.db.view runId = some view → view.row.state = .queued →
    view.row.published = true → runId ∈ world.sent

namespace World.Sound

variable {world : World}

theorem initial : World.initial.Sound store maxDecisions := by
  refine ⟨.empty, ?_, ?_, ?_, ?_, ?_, ?_, ?_⟩ <;>
    simp [World.initial, RunDb.view, RunDb.find, RunDb.empty, Table.find]

theorem holds (sound : world.Sound store maxDecisions) : Backed world := by
  intro row member queued published
  have found : world.db.view row.id = some { row, attempts := world.db.attemptsOf row.id } := by
    rw [RunDb.view, RunDb.find, Table.find_of_mem sound.valid.ids member]
    rfl
  exact sound.backed row.id _ found queued (sound.marked row.id _ found queued published)

theorem kept {db next : RunDb} {clock : Clock} {operation : Operation}
    (effect : Effect store clock db operation next) (valid : db.WellFormed) {runId : String}
    {view : RunView} (found : db.view runId = some view) :
    ∃ after, next.view runId = some after ∧ after.row.id = view.row.id ∧
      after.row.tenant = view.row.tenant ∧ after.row.job = view.row.job := by
  have step := effect.view valid runId
  generalize reached : next.view runId = result at step
  cases step with
  | same => exact ⟨view, found, rfl, rfl, rfl⟩
  | created absent =>
      rw [found] at absent
      cases absent
  | changed present change =>
      rw [found] at present
      cases present
      exact ⟨_, rfl, Change.identity change⟩

theorem Carries.congr {payload : Dict} {row after : RunRow}
    (carries : Carries maxDecisions payload row)
    (same : after.id = row.id ∧ after.tenant = row.tenant ∧ after.job = row.job) :
    Carries maxDecisions payload after := by
  obtain ⟨id, tenant, job⟩ := same
  obtain ⟨runId, registered, valid, bounded, runs⟩ := carries
  exact ⟨by rw [runId, id], registered, valid, bounded, id.trans runs.id,
    tenant.trans runs.tenant, job.trans runs.job⟩

theorem client_kept {db next : RunDb} {clock : Clock} {operation : Operation}
    (effect : Effect store clock db operation next) (valid : db.WellFormed) {client : Client}
    (sound : client.Sound maxDecisions db) : client.Sound maxDecisions next := by
  cases client with
  | publishing payload runId tenantId =>
      obtain ⟨view, found, carries⟩ := sound
      obtain ⟨after, foundAfter, same⟩ := kept effect valid found
      exact ⟨after, foundAfter, Carries.congr carries same⟩
  | _ => trivial

theorem delivery_kept {db next : RunDb} {clock : Clock} {operation : Operation}
    (effect : Effect store clock db operation next) (valid : db.WellFormed) {payload : Dict}
    (carried : ∃ runId view, db.view runId = some view ∧
      Carries maxDecisions payload view.row) :
    ∃ runId view, next.view runId = some view ∧ Carries maxDecisions payload view.row := by
  obtain ⟨runId, view, found, carries⟩ := carried
  obtain ⟨after, foundAfter, same⟩ := kept effect valid found
  exact ⟨runId, after, foundAfter, Carries.congr carries same⟩

theorem call {clock : Clock} {operation : Operation} {next : RunDb}
    (sound : world.Sound store maxDecisions)
    (effect : Effect store clock world.db operation next)
    (quiet : ∀ job duration key, operation ≠ .create job duration key)
    (settled : ∀ runId tenantId, operation ≠ .resume runId tenantId)
    (confirmed : ∀ view, world.db.view view.row.id = some view →
      operation = .markPublished view.row.id view.row.tenant → view.row.state = .queued →
      view.row.published = false → view.row.id ∈ world.sent) :
    { world with db := next }.Sound store maxDecisions := by
  have valid := sound.valid
  -- A queued run was queued before, under the same mark or a confirmed one.
  have queuedBefore : ∀ runId after, next.view runId = some after →
      after.row.state = .queued → ∃ view, world.db.view runId = some view ∧
        view.row.state = .queued ∧ Waiting store after.row ∧
        (after.row.published = true → runId ∈ world.sent) := by
    intro runId after foundAfter queued
    have step := effect.view valid runId
    rw [foundAfter] at step
    generalize before : world.db.view runId = present at step
    cases step with
    | same =>
        exact ⟨after, rfl, queued, sound.waiting runId after before queued,
          sound.marked runId after before queued⟩
    | created _ creates => exact absurd creates (quiet _ _ _)
    | @changed view _ found change =>
        subst found
        have id := RunDb.id_of_view before
        rcases Change.queued change queued with ⟨_, resumes, _⟩ | ⟨was, keeps, mark⟩
        · exact absurd resumes (settled _ _)
        · refine ⟨view, rfl, was, keeps (sound.waiting runId view before was), fun published => ?_⟩
          cases already : view.row.published with
          | true => exact sound.marked runId view before was already
          | false =>
              rcases mark with same | marks
              · rw [same, already] at published
                cases published
              · rw [← id]
                exact confirmed view (id ▸ before) marks was already
  refine ⟨effect.wellFormed valid, ?rows, ?waiting, ?clients, ?deliveries, ?known, ?backed,
    ?marked⟩
  case rows =>
    intro runId after foundAfter
    have step := effect.view valid runId
    rw [foundAfter] at step
    generalize before : world.db.view runId = present at step
    cases step with
    | same => exact sound.rows runId after before
    | created _ creates => exact absurd creates (quiet _ _ _)
    | changed found change =>
        subst found
        obtain ⟨job, bounded, runs⟩ := sound.rows runId _ before
        obtain ⟨id, tenant, same⟩ := Change.identity change
        exact ⟨job, bounded, id.trans runs.id, tenant.trans runs.tenant, same.trans runs.job⟩
  case waiting =>
    intro runId after foundAfter queued
    exact (queuedBefore runId after foundAfter queued).choose_spec.2.2.1
  case clients => exact fun client member => client_kept effect valid (sound.clients client member)
  case deliveries =>
    exact fun payload member => delivery_kept effect valid (sound.deliveries payload member)
  case known =>
    intro runId member
    obtain ⟨view, found⟩ := sound.known runId member
    obtain ⟨after, foundAfter, _⟩ := kept effect valid found
    exact ⟨after, foundAfter⟩
  case backed =>
    intro runId after foundAfter queued sent
    obtain ⟨view, found, was, _⟩ := queuedBefore runId after foundAfter queued
    exact sound.backed runId view found was sent
  case marked =>
    intro runId after foundAfter queued published
    obtain ⟨_, _, _, _, marks⟩ := queuedBefore runId after foundAfter queued
    exact marks published

theorem settle (sound : world.Sound store maxDecisions) {index : Nat} {client : Client}
    (fits : client.Sound maxDecisions world.db) :
    (world.settle index client).Sound store maxDecisions where
  valid := sound.valid
  rows := sound.rows
  waiting := sound.waiting
  clients := by
    intro other member
    rcases List.mem_or_eq_of_mem_set member with old | rfl
    · exact sound.clients other old
    · exact fits
  deliveries := sound.deliveries
  known := sound.known
  backed := sound.backed
  marked := sound.marked

theorem mem_runs {db : RunDb} (valid : db.WellFormed) {row : RunRow} (member : row ∈ db.runs) :
    ∃ view, db.view row.id = some view ∧ view.row = row := by
  refine ⟨{ row, attempts := db.attemptsOf row.id }, ?_, rfl⟩
  rw [RunDb.view, RunDb.find, Table.find_of_mem valid.ids member]
  rfl

theorem enqueue (sound : world.Sound store maxDecisions) {record : RunRow}
    (member : record ∈ world.db.runs) (job : AgentRunJob) :
    (enqueue job record).Sound maxDecisions world.db := by
  obtain ⟨view, found, rfl⟩ := mem_runs sound.valid member
  obtain ⟨registered, bounded, runs⟩ := sound.rows _ view found
  unfold Api.enqueue
  split
  · trivial
  · rw [runs.job, (validate_sorted registered).1]
    refine ⟨view, runs.id ▸ found, ?_, registered, AgentRunJob.validate_dump registered, bounded,
      runs⟩
    rw [(textField_dump registered).1, runs.id]

theorem create (sound : world.Sound store maxDecisions) {row : RunRow}
    (fresh : ∀ old ∈ world.db.runs, old.id ≠ row.id) {job : AgentRunJob}
    (bounded : job.maxDecisions ≤ maxDecisions) (runs : RunsJob job row)
    (waiting : Waiting store row) (unmarked : row.published = false)
    (unleased : row.leaseToken = none) :
    { world with db := { world.db with runs := world.db.runs ++ [row] } }.Sound
      store maxDecisions := by
  have views := RunDb.view_insertRun sound.valid fresh
  have unknown : ∀ runId view, world.db.view runId = some view → runId ≠ row.id := by
    rintro runId view found rfl
    exact fresh view.row (RunDb.mem_runs_of_view found) (RunDb.id_of_view found)
  have old : ∀ runId view, world.db.view runId = some view →
      RunDb.view { world.db with runs := world.db.runs ++ [row] } runId = some view := by
    intro runId view found
    rw [views, if_neg (unknown runId view found), found]
  -- A run that is found is the new one or an old one.
  have cases : ∀ runId view,
      RunDb.view { world.db with runs := world.db.runs ++ [row] } runId = some view →
      (runId = row.id ∧ view.row = row) ∨ world.db.view runId = some view := by
    intro runId view found
    rw [views] at found
    split at found
    · rename_i same
      cases found
      exact .inl ⟨same, rfl⟩
    · exact .inr found
  refine ⟨sound.valid.insertRun fresh unleased, ?rows, ?waiting, ?clients, ?deliveries, ?known,
    ?backed, ?marked⟩
  case rows =>
    intro runId view found
    rcases cases runId view found with ⟨_, rfl⟩ | before
    · exact ⟨job, bounded, runs⟩
    · exact sound.rows runId view before
  case waiting =>
    intro runId view found queued
    rcases cases runId view found with ⟨_, rfl⟩ | before
    · exact waiting
    · exact sound.waiting runId view before queued
  case clients =>
    intro client member
    have fits := sound.clients client member
    cases client with
    | publishing payload runId tenantId =>
        obtain ⟨view, found, carries⟩ := fits
        exact ⟨view, old runId view found, carries⟩
    | _ => trivial
  case deliveries =>
    intro payload member
    obtain ⟨runId, view, found, carries⟩ := sound.deliveries payload member
    exact ⟨runId, view, old runId view found, carries⟩
  case known =>
    intro runId member
    obtain ⟨view, found⟩ := sound.known runId member
    exact ⟨view, old runId view found⟩
  case backed =>
    intro runId view found queued sent
    rcases cases runId view found with ⟨rfl, _⟩ | before
    · obtain ⟨other, known⟩ := sound.known _ sent
      exact absurd rfl (unknown _ other known)
    · exact sound.backed runId view before queued sent
  case marked =>
    intro runId view found queued published
    rcases cases runId view found with ⟨_, rfl⟩ | before
    · rw [unmarked] at published
      cases published
    · exact sound.marked runId view before queued published

theorem resume (sound : world.Sound store maxDecisions) {clock : Clock} {view : RunView}
    (found : world.db.view view.row.id = some view) (resumable : Resumable store view.row clock) :
    { world with
        db := world.db.updateRun view.row.id fun row => row.requeued (clock 2)
        sent := world.sent.filter (· ≠ view.row.id) }.Sound store maxDecisions := by
  have rewrites : world.db.Rewrites view (view.requeued (clock 2))
      (world.db.updateRun view.row.id fun row => row.requeued (clock 2)) :=
    .updateRun sound.valid found (fun row => row.requeued (clock 2)) (fun _ => rfl)
      fun _ _ held => by cases held
  have effect : Effect store clock world.db (.resume view.row.id view.row.tenant)
      (world.db.updateRun view.row.id fun row => row.requeued (clock 2)) :=
    .changed found (.resumed resumable) rewrites
  have valid := sound.valid
  refine ⟨rewrites.valid, ?rows, ?waiting, ?clients, ?deliveries, ?known, ?backed, ?marked⟩
  case rows =>
    intro runId after foundAfter
    by_cases same : runId = view.row.id
    · subst same
      rw [rewrites.here] at foundAfter
      cases foundAfter
      obtain ⟨job, bounded, runs⟩ := sound.rows _ view found
      exact ⟨job, bounded, runs.id, runs.tenant, runs.job⟩
    · rw [rewrites.elsewhere runId same] at foundAfter
      exact sound.rows runId after foundAfter
  case waiting =>
    intro runId after foundAfter queued
    by_cases same : runId = view.row.id
    · subst same
      rw [rewrites.here] at foundAfter
      cases foundAfter
      exact ⟨resumable.wanted, resumable.safe, resumable.attempts⟩
    · rw [rewrites.elsewhere runId same] at foundAfter
      exact sound.waiting runId after foundAfter queued
  case clients => exact fun client member => client_kept effect valid (sound.clients client member)
  case deliveries =>
    exact fun payload member => delivery_kept effect valid (sound.deliveries payload member)
  case known =>
    intro runId member
    obtain ⟨before, known⟩ := sound.known runId (List.mem_filter.mp member).1
    obtain ⟨after, foundAfter, _⟩ := kept effect valid known
    exact ⟨after, foundAfter⟩
  case backed =>
    intro runId after foundAfter queued sent
    obtain ⟨sent, different⟩ := List.mem_filter.mp sent
    rw [rewrites.elsewhere runId (by simpa using different)] at foundAfter
    exact sound.backed runId after foundAfter queued sent
  case marked =>
    intro runId after foundAfter queued published
    by_cases same : runId = view.row.id
    · subst same
      rw [rewrites.here] at foundAfter
      cases foundAfter
      cases published
    · rw [rewrites.elsewhere runId same] at foundAfter
      exact List.mem_filter.mpr
        ⟨sound.marked runId after foundAfter queued published, by simpa using same⟩

theorem publish (sound : world.Sound store maxDecisions) {payload : Dict} {view : RunView}
    (found : world.db.view view.row.id = some view)
    (carries : Carries maxDecisions payload view.row) :
    { world with
        deliveries := world.deliveries ++ [payload]
        sent := view.row.id :: world.sent }.Sound store maxDecisions where
  valid := sound.valid
  rows := sound.rows
  waiting := sound.waiting
  clients := sound.clients
  deliveries := by
    intro other member
    rcases List.mem_append.mp member with old | new
    · exact sound.deliveries other old
    · rw [List.mem_singleton.mp new]
      exact ⟨_, view, found, carries⟩
  known := by
    intro runId member
    rcases List.mem_cons.mp member with rfl | old
    · exact ⟨view, found⟩
    · exact sound.known runId old
  backed := by
    intro runId other foundOther queued sent
    rcases List.mem_cons.mp sent with rfl | old
    · exact ⟨payload, by simp, carries.runId⟩
    · obtain ⟨pending, member, runId⟩ := sound.backed runId other foundOther queued old
      exact ⟨pending, List.mem_append_left _ member, runId⟩
  marked := by
    intro runId other foundOther queued published
    exact List.mem_cons_of_mem _ (sound.marked runId other foundOther queued published)

theorem take (sound : world.Sound store maxDecisions) {index : Nat} {payload : Dict}
    (at_ : world.deliveries[index]? = some payload)
    (idle : ∀ runId view, textField payload "agent_run_id" = .ok runId →
      world.db.view runId = some view → view.row.state ≠ .queued) :
    { world with deliveries := world.deliveries.eraseIdx index }.Sound store maxDecisions where
  valid := sound.valid
  rows := sound.rows
  waiting := sound.waiting
  clients := sound.clients
  deliveries := fun other member => sound.deliveries other (List.mem_of_mem_eraseIdx member)
  known := sound.known
  backed := by
    intro runId view found queued sent
    obtain ⟨pending, member, about⟩ := sound.backed runId view found queued sent
    refine ⟨pending, ?_, about⟩
    obtain ⟨place, bound, rfl⟩ := List.mem_iff_getElem.mp member
    rw [List.mem_eraseIdx_iff_getElem]
    refine ⟨place, bound, ?_, rfl⟩
    rintro rfl
    rw [List.getElem?_eq_getElem bound] at at_
    cases at_
    exact idle runId view about found queued
  marked := sound.marked

end World.Sound

/-! ## Steps -/

section Steps

variable {world : World}

theorem perform_cases (operation : Operation) (store : SQLiteRunStore) (clock : Clock)
    (db : RunDb) :
    (∃ reply next, operation.body store clock db = .ok (reply, next) ∧
      operation.perform store clock db = (.ok reply, next)) ∨
    ∃ error, operation.perform store clock db = (.error error, db) := by
  unfold Operation.perform
  cases ran : operation.body store clock db with
  | ok out => exact .inl ⟨out.1, out.2, rfl, rfl⟩
  | error error => exact .inr ⟨error, rfl⟩

theorem World.Sound.submit (sound : world.Sound store maxDecisions) {job : AgentRunJob}
    (bounded : job.maxDecisions ≤ maxDecisions) {duration : Time} {key : Option String}
    {clock : Clock} {record : RunRow} {next : RunDb}
    (ran : (Operation.create job.dump duration key).body store clock world.db =
      .ok (.record record, next)) :
    { world with db := next }.Sound store maxDecisions ∧ record ∈ next.runs := by
  simp only [Operation.body, Outcome.map_eq_ok, Prod.exists, Prod.mk.injEq,
    Reply.record.injEq] at ran
  obtain ⟨_, _, created, rfl, rfl⟩ := ran
  obtain ⟨tenant, tenantField, _, ⟨found, _, rfl⟩ | ⟨_, id, idField, fresh, rfl, rfl⟩⟩ :=
    SQLiteRunStore.create_ok created
  · refine ⟨sound, ?_⟩
    unfold SQLiteRunStore.existing at found
    split at found
    · exact List.mem_of_find?_eq_some found
    · cases found
  · rw [(textField_dump job).1] at idField
    rw [(textField_dump job).2] at tenantField
    cases idField
    cases tenantField
    exact ⟨sound.create fresh bounded ⟨rfl, rfl, rfl⟩ ⟨rfl, rfl, store.attemptsPositive⟩ rfl rfl,
      by simp⟩

theorem World.Sound.consume (sound : world.Sound store maxDecisions) {index : Nat}
    {token : String} {clock : Clock}
    (fresh : ∀ attempt ∈ world.db.attempts, attempt.token ≠ token) :
    (world.consume store maxDecisions index token clock).Sound store maxDecisions := by
  unfold World.consume
  split
  · rename_i payload at_
    obtain ⟨runId, view, found, about, job, valid, bounded, runs⟩ :=
      sound.deliveries payload (List.mem_of_getElem? at_)
    have key := RunDb.id_of_view found
    subst key
    have claims : runAgent store maxDecisions payload token clock world.db =
        ((Operation.claim job.dump token).perform store clock world.db).2 := by
      simp only [runAgent, valid, if_neg (not_lt.mpr bounded)]
    rw [claims]
    have effect := Effect.of_perform sound.valid store clock (.claim job.dump token)
    have called := sound.call effect nofun nofun (fun _ _ marks => by cases marks)
    refine called.take at_ ?_
    intro other after otherAbout foundAfter queued
    rw [about] at otherAbout
    cases otherAbout
    -- The claim of a waiting run starts an attempt, and that ends its wait.
    have step := effect.view sound.valid view.row.id
    rw [foundAfter, found] at step
    generalize present : some view = before at step
    cases step with
    | same =>
        cases present
        have waiting := sound.waiting _ _ found queued
        have claimable : Claimable store view.row (clock 0) :=
          ⟨waiting.wanted, .inl queued, waiting.safe, waiting.attempts⟩
        obtain ⟨started, leads, more⟩ :=
          claimable.starts sound.valid found runs.registered fresh
        have same : some started = some view := by
          rw [← leads, ← foundAfter]
          rfl
        cases same
        exact absurd more (lt_irrefl _)
    | created absent => cases present.trans absent
    | changed found' change =>
        cases present.trans found'
        rcases Change.queued change queued with ⟨_, resumes, _⟩ | ⟨was, _, _⟩
        · cases resumes
        · generalize claimed : Operation.claim job.dump token = operation at change
          cases change with
          | claimed => cases queued
          | _ => cases claimed
  · exact sound

theorem World.Sound.advance (sound : world.Sound store maxDecisions) {index : Nat}
    {sends : Bool} {clock : Clock} (kept : ¬Overtaken world (.advance index sends clock)) :
    (world.advance store maxDecisions index sends clock).Sound store maxDecisions := by
  unfold World.advance
  split
  · rename_i job duration key at_
    split
    · exact sound.settle trivial
    · rename_i bounded
      rcases perform_cases (.create job.dump duration key) store clock world.db with
        ⟨reply, next, ran, performed⟩ | ⟨error, performed⟩
      · rw [performed]
        have shape : ∃ record, reply = .record record := by
          simp only [Operation.body, Outcome.map_eq_ok, Prod.mk.injEq] at ran
          obtain ⟨out, _, rfl, _⟩ := ran
          exact ⟨_, rfl⟩
        obtain ⟨record, rfl⟩ := shape
        obtain ⟨registered, member⟩ := sound.submit (not_lt.mp bounded) ran
        exact registered.settle (registered.enqueue member job)
      · rw [performed]
        exact sound.settle trivial
  · rename_i runId tenantId at_
    rcases perform_cases (.resume runId tenantId) store clock world.db with
      ⟨reply, next, ran, performed⟩ | ⟨error, performed⟩
    · rw [performed]
      simp only [Operation.body, Outcome.map_eq_ok, Prod.exists, Prod.mk.injEq] at ran
      obtain ⟨record, _, resumed, rfl, rfl⟩ := ran
      obtain ⟨view, found, rfl, resumable, rfl, rfl⟩ :=
        SQLiteRunStore.resume_ok sound.valid resumed
      have key := RunDb.id_of_view found
      subst key
      refine (sound.resume found resumable).settle ?_
      obtain ⟨job, bounded, runs⟩ := sound.rows _ view found
      refine ⟨view.requeued (clock 2), ?_, ?_, job, ?_, bounded, ⟨runs.id, runs.tenant, runs.job⟩⟩
      · exact (RunDb.Rewrites.updateRun sound.valid found (fun row => row.requeued (clock 2))
          (fun _ => rfl) fun _ _ held => by cases held).here
      · rw [show (view.row.requeued (clock 2)).job = Dict.sorted job.dump from runs.job,
          (validate_sorted job).2, ← runs.id]
        rfl
      · rw [show (view.row.requeued (clock 2)).job = Dict.sorted job.dump from runs.job,
          (validate_sorted job).1]
    · rw [performed]
      exact sound.settle trivial
  · rename_i payload runId tenantId at_
    split
    · obtain ⟨view, found, carries⟩ := sound.clients _ (List.mem_of_getElem? at_)
      have key := RunDb.id_of_view found
      subst key
      exact (sound.publish found carries).settle trivial
    · exact sound.settle trivial
  · rename_i runId tenantId at_
    have effect := Effect.of_perform sound.valid store clock (.markPublished runId tenantId)
    refine (sound.call effect (by simp) (by simp) ?_).settle trivial
    intro view found marks queued unmarked
    cases marks
    by_contra unsent
    exact kept ⟨index, sends, clock, _, _, rfl, at_, unsent, view.row,
      RunDb.mem_runs_of_view found, rfl, rfl, queued, unmarked⟩
  · exact sound
  · exact sound

theorem Step.sound {event : Event} {next : World} (step : Step store maxDecisions world event next)
    (sound : world.Sound store maxDecisions) (kept : ¬Overtaken world event) :
    next.Sound store maxDecisions := by
  obtain ⟨allowed, rfl⟩ := step
  cases event with
  | arrive client =>
      have fits : client.Sound maxDecisions world.db := by
        cases client with
        | publishing => cases allowed
        | _ => trivial
      exact
        { sound with
          clients := fun other member => by
            rcases List.mem_append.mp member with old | new
            · exact sound.clients other old
            · rw [List.mem_singleton.mp new]
              exact fits }
  | advance index sends clock => exact sound.advance kept
  | crash index => exact sound.settle trivial
  | consume index token clock => exact sound.consume allowed
  | call operation clock =>
      refine sound.call (Effect.of_perform sound.valid store clock operation) ?_ ?_ ?_
      · rintro job duration key rfl
        exact allowed
      · rintro runId tenantId rfl
        exact allowed
      · rintro view _ rfl
        exact absurd allowed id

end Steps

end Invariant

/-- A queued run that is marked as published has a pending delivery, in every run
in which no mark comes from a publication that a resumption has overtaken. -/
theorem publication_backed (store : SQLiteRunStore) (maxDecisions : Nat) {events : List Event}
    {last : World}
    (run : Run (fun world event next => Step store maxDecisions world event next ∧
      ¬Overtaken world event) World.initial events last) : Backed last := by
  have sound : last.Sound store maxDecisions := by
    refine @Run.preserves _ _ _ (World.Sound store maxDecisions) ?_ _ _ _ run .initial
    intro world event next sound step
    exact step.1.sound sound step.2
  exact sound.holds

/-! A submission and a resumption of its run. -/

namespace Sample

def store : SQLiteRunStore := RunStore.Sample.store

def job : AgentRunJob := Agent.Sample.task

def runId : String := job.agentRunId.text

def instant : Clock := fun _ => 0

def published : List Event :=
  [.arrive (.submitting job 300 (some "key")), .advance 0 true instant, .advance 0 true instant]

def confirmed : List Event := published ++ [.advance 0 true instant]

/-- The attempt fails, the run is resumed without a publication, and then the
first publication is confirmed. -/
def overtaken : List Event :=
  published ++ [.consume 0 "token" instant,
    .call (.finish runId "acme" "token" .failed none (some "TimeoutError")) instant,
    .arrive (.resuming runId "acme"), .advance 1 true instant, .advance 1 false instant,
    .advance 0 true instant]

def play (world : World) (events : List Event) : World :=
  events.foldl (fun world event => world.act store 5 event) world

def marks (world : World) : Event → Option String
  | .advance index _ _ =>
      match world.clients[index]? with
      | some (.confirming runId _) => some runId
      | _ => none
  | _ => none

theorem not_overtaken {world : World} {event : Event}
    (sent : (marks world event).all (fun runId => runId ∈ world.sent) = true) :
    ¬Overtaken world event := by
  rintro ⟨index, sends, clock, runId, tenantId, rfl, confirming, unsent, _⟩
  rw [marks, confirming] at sent
  exact unsent (by simpa using sent)

theorem play_run {Condition : World → Event → Prop} {world : World} {events : List Event}
    (allowed : ∀ place, (bound : place < events.length) →
      (events[place]).Allowed (play world (events.take place)) ∧
        Condition (play world (events.take place)) events[place]) :
    Run (fun world event next => Step store 5 world event next ∧ Condition world event) world
      events (play world events) := by
  induction events generalizing world with
  | nil => exact .nil world
  | cons event rest induction =>
      obtain ⟨here, holds⟩ := allowed 0 (Nat.zero_lt_succ _)
      refine .cons ⟨⟨here, rfl⟩, holds⟩ (induction fun place bound => ?_)
      exact allowed (place + 1) (Nat.succ_lt_succ bound)

end Sample

/-- The submission and its confirmation leave a delivery behind. -/
theorem publication_backed_confirmed : Backed (Sample.play .initial Sample.confirmed) := by
  apply publication_backed Sample.store 5
  apply Sample.play_run
  have allowed : ∀ place, (bound : place < Sample.confirmed.length) →
      (Sample.confirmed[place]).Allowed (Sample.play .initial (Sample.confirmed.take place)) ∧
        (Sample.marks (Sample.play .initial (Sample.confirmed.take place))
          Sample.confirmed[place]).all (fun runId =>
            runId ∈ (Sample.play .initial (Sample.confirmed.take place)).sent) = true := by
    decide +kernel
  exact fun place bound => ⟨(allowed place bound).1, Sample.not_overtaken (allowed place bound).2⟩

/-- A late confirmation of the first publication marks the resumed run, for which
nothing was published. -/
theorem publication_unbacked :
    ¬∀ events last, Run (Step Sample.store 5) World.initial events last → Backed last := by
  intro backed
  have allowed : ∀ place, (bound : place < Sample.overtaken.length) →
      (Sample.overtaken[place]).Allowed
        (Sample.play .initial (Sample.overtaken.take place)) ∧ True := by
    decide +kernel
  have unbacked : (∃ row ∈ (Sample.play .initial Sample.overtaken).db.runs,
      row.state = .queued ∧ row.published = true) ∧
      (Sample.play .initial Sample.overtaken).deliveries = [] := by
    decide +kernel
  obtain ⟨⟨row, member, queued, published⟩, none⟩ := unbacked
  have run := (@Sample.play_run (fun _ _ => True) _ _ allowed).mono fun _ _ _ step => step.1
  obtain ⟨payload, pending, _⟩ := backed _ _ run row member queued published
  rw [none] at pending
  cases pending

end Crewos.Api

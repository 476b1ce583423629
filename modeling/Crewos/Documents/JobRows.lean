import Crewos.Documents.Deletion

/-! # The columns of a document job

Which columns of a job row are set in which state, in every history in which the
attempt limit stays the same. -/

namespace Crewos.Documents

open Foundation SQLiteDocumentStore

def Transition.Registers (transition : Transition) (jobId : Uuid4) : Prop :=
  (∀ old ∈ transition.before.jobs, old.id ≠ jobId) ∧
    ∃ row ∈ transition.after.jobs, row.id = jobId

def DeletedSince (trace : List Transition) (row : JobRow) : Prop :=
  ∃ before deletion after, trace = before ++ deletion :: after ∧
    deletion.Deletes row.tenant row.documentId ∧
    ∃ submission ∈ before, submission.Registers row.id

theorem deletedSince_snoc {trace : List Transition} {transition : Transition} {row : JobRow} :
    DeletedSince (trace ++ [transition]) row ↔ DeletedSince trace row ∨
      (transition.Deletes row.tenant row.documentId ∧
        ∃ submission ∈ trace, submission.Registers row.id) := by
  constructor
  · rintro ⟨before, deletion, after, split, deletes, registered⟩
    rcases snoc_split split with ⟨rfl, rfl, rfl⟩ | ⟨init, rfl, rfl⟩
    · exact .inr ⟨deletes, registered⟩
    · exact .inl ⟨before, deletion, init, rfl, deletes, registered⟩
  · rintro (⟨before, deletion, after, rfl, deletes, registered⟩ | ⟨deletes, registered⟩)
    · exact ⟨before, deletion, after ++ [transition], by simp, deletes, registered⟩
    · exact ⟨trace, transition, [], rfl, deletes, registered⟩

/-! ## One row -/

/-- The columns a row has set in its state. `deleted` tells whether the document
was deleted since the job was registered. -/
structure JobRow.Sound (most : Nat) (deleted : Prop) (row : JobRow) : Prop where
  attempts : row.attempts ≤ most
  queued : row.state = .queued → row.payload ≠ none ∧ row.token = none ∧
    row.leaseUntil = none ∧ row.error = none ∧ row.version = none ∧ row.attempts < most
  running : row.state = .running → row.payload ≠ none ∧ row.token ≠ none ∧
    row.leaseUntil ≠ none ∧ row.error = none ∧ row.version = none ∧ 1 ≤ row.attempts
  succeeded : row.state = .succeeded → row.version ≠ none ∧ row.payload = none ∧
    row.token = none ∧ row.error = none
  failed : row.state = .failed → row.error ≠ none ∧ row.token = none ∧ row.version = none ∧
    (row.payload = none ↔ most ≤ row.attempts ∨ deleted)
  dead : deleted → row.Dead

namespace JobRow.Sound

variable {most : Nat} {deleted : Prop} {row : JobRow}

theorem congr {other : Prop} (sound : row.Sound most deleted) (same : deleted ↔ other) :
    row.Sound most other := by
  rw [propext same] at sound
  exact sound

theorem newJob {store : SQLiteDocumentStore} (tenantId : String) (request : DocumentRequest)
    (options : ChunkingOptions) (key : String) (documentId jobId : Uuid4) (now : Time)
    (never : ¬deleted) :
    (store.newJob tenantId request options key documentId jobId now).Sound
      store.jobMaxAttempts deleted where
  attempts := Nat.zero_le _
  queued := fun _ => ⟨by simp [SQLiteDocumentStore.newJob], rfl, rfl, rfl, rfl,
    store.attemptsPositive⟩
  running := fun running => by cases running
  succeeded := fun succeeded => by cases succeeded
  failed := fun failed => by cases failed
  dead := fun gone => absurd gone never

theorem not_deleted_of_idle (sound : row.Sound most deleted) {now : Time} (idle : Idle row now) :
    ¬deleted := fun gone => (sound.dead gone).not_idle idle

theorem not_deleted_of_running (sound : row.Sound most deleted) (running : row.state = .running) :
    ¬deleted := fun gone => (sound.dead gone).not_running running

theorem of_idle (sound : row.Sound most deleted) {now : Time} (idle : Idle row now) :
    row.payload ≠ none ∧ row.error = none ∧ row.version = none := by
  rcases idle with queued | ⟨running, _⟩
  · obtain ⟨payload, _, _, error, version, _⟩ := sound.queued queued
    exact ⟨payload, error, version⟩
  · obtain ⟨payload, _, _, error, version, _⟩ := sound.running running
    exact ⟨payload, error, version⟩

theorem limited (sound : row.Sound most deleted) {now : Time} (idle : Idle row now)
    (reached : most ≤ row.attempts) : row.limited.Sound most deleted where
  attempts := sound.attempts
  queued := fun queued => by cases queued
  running := fun running => by cases running
  succeeded := fun succeeded => by cases succeeded
  failed := fun _ => ⟨by simp [JobRow.limited], rfl, (sound.of_idle idle).2.2,
    iff_of_true rfl (.inl reached)⟩
  dead := fun gone => absurd gone (sound.not_deleted_of_idle idle)

theorem claimed (sound : row.Sound most deleted) {now : Time} (idle : Idle row now)
    (below : row.attempts < most) (token : String) (leaseUntil updated : Time) :
    (row.claimed token leaseUntil updated).Sound most deleted := by
  obtain ⟨payload, error, version⟩ := sound.of_idle idle
  exact
    { attempts := below
      queued := fun queued => by cases queued
      running := fun _ => ⟨payload, by simp [JobRow.claimed], by simp [JobRow.claimed], error,
        version, Nat.le_add_left 1 _⟩
      succeeded := fun succeeded => by cases succeeded
      failed := fun failed => by cases failed
      dead := fun gone => absurd gone (sound.not_deleted_of_idle idle) }

theorem committed (sound : row.Sound most deleted) (running : row.state = .running)
    (version : Nat) (updated : Time) : (row.succeeded version updated).Sound most deleted where
  attempts := sound.attempts
  queued := fun queued => by cases queued
  running := fun running => by cases running
  succeeded := fun _ => ⟨by simp [JobRow.succeeded], rfl, rfl, rfl⟩
  failed := fun failed => by cases failed
  dead := fun gone => absurd gone (sound.not_deleted_of_running running)

theorem stopped (sound : row.Sound most deleted) (running : row.state = .running)
    (errorCode : String) (updated : Time) :
    (row.failed errorCode most updated).Sound most deleted := by
  obtain ⟨payload, _, _, _, version, _⟩ := sound.running running
  have alive := sound.not_deleted_of_running running
  refine
    { attempts := sound.attempts
      queued := fun queued => by cases queued
      running := fun running => by cases running
      succeeded := fun succeeded => by cases succeeded
      failed := fun _ => ⟨by simp [JobRow.failed], rfl, version, ?_⟩
      dead := fun gone => absurd gone alive }
  by_cases reached : most ≤ row.attempts
  · exact iff_of_true (by simp [JobRow.failed, reached]) (.inl reached)
  · refine iff_of_false (by simpa [JobRow.failed, reached] using payload) ?_
    exact fun lost => lost.elim reached alive

theorem requeued (sound : row.Sound most deleted) (unfinished : row.state ≠ .succeeded)
    (below : row.attempts < most) (payload : row.payload ≠ none) (updated : Time) :
    (row.requeued updated).Sound most deleted := by
  have version : row.version = none := by
    cases state : row.state with
    | queued => exact (sound.queued state).2.2.2.2.1
    | running => exact (sound.running state).2.2.2.2.1
    | succeeded => exact absurd state unfinished
    | failed => exact (sound.failed state).2.2.1
  exact
    { attempts := sound.attempts
      queued := fun _ => ⟨payload, rfl, rfl, rfl, version, below⟩
      running := fun running => by cases running
      succeeded := fun succeeded => by cases succeeded
      failed := fun failed => by cases failed
      dead := fun gone => absurd (sound.dead gone).payload payload }

theorem markedPublished (sound : row.Sound most deleted) (updated : Time) :
    (row.markedPublished updated).Sound most deleted where
  attempts := sound.attempts
  queued := sound.queued
  running := sound.running
  succeeded := sound.succeeded
  failed := sound.failed
  dead := fun gone => ⟨(sound.dead gone).payload, (sound.dead gone).state⟩

theorem fenced (sound : row.Sound most deleted) {gone : Prop} (now : gone) :
    row.fenced.Sound most gone := by
  have dead := JobRow.Dead.fenced row
  by_cases succeeded : row.state = .succeeded
  · obtain ⟨version, _, _, error⟩ := sound.succeeded succeeded
    have state : row.fenced.state = .succeeded := by simp [JobRow.fenced, succeeded]
    exact
      { attempts := sound.attempts
        queued := fun queued => by simp [state] at queued
        running := fun running => by simp [state] at running
        succeeded := fun _ => ⟨version, rfl, rfl, by simpa [JobRow.fenced, succeeded] using error⟩
        failed := fun failed => by simp [state] at failed
        dead := fun _ => dead }
  · have state : row.fenced.state = .failed := by simp [JobRow.fenced, succeeded]
    have version : row.version = none := by
      cases before : row.state with
      | queued => exact (sound.queued before).2.2.2.2.1
      | running => exact (sound.running before).2.2.2.2.1
      | succeeded => exact absurd before succeeded
      | failed => exact (sound.failed before).2.2.1
    exact
      { attempts := sound.attempts
        queued := fun queued => by simp [state] at queued
        running := fun running => by simp [state] at running
        succeeded := fun succeeded => by simp [state] at succeeded
        failed := fun _ => ⟨by simp [JobRow.fenced, succeeded], rfl, version,
          iff_of_true rfl (.inr now)⟩
        dead := fun _ => dead }

end JobRow.Sound

/-- Only a deletion of its document makes a row a deleted one. -/
theorem RowChange.sound {store : SQLiteDocumentStore} {clock : Clock} {operation : Operation}
    {reply : Reply} {row after : JobRow} {deleted gone : Prop}
    (change : RowChange store clock operation reply row after)
    (sound : row.Sound store.jobMaxAttempts deleted)
    (deletes : gone ↔ deleted ∨ operation = .delete row.tenant row.documentId) :
    after.Sound store.jobMaxAttempts gone := by
  have same (other : operation ≠ .delete row.tenant row.documentId) : deleted ↔ gone := by
    rw [deletes, or_iff_left other]
  cases change with
  | kept spared =>
      refine sound.congr (same ?_)
      rintro rfl
      exact spared ⟨rfl, rfl⟩
  | limited idle reached => exact (sound.limited idle reached).congr (same (by simp))
  | claimed idle below => exact (sound.claimed idle below _ _ _).congr (same (by simp))
  | committed owned => exact (sound.committed owned.running _ _).congr (same (by simp))
  | failed selected =>
      simp only [failing, decide_eq_true_eq] at selected
      exact (sound.stopped selected.2.2.2 _ _).congr (same (by simp))
  | retried unfinished below payload =>
      exact (sound.requeued unfinished below payload _).congr (same (by simp))
  | published => exact (sound.markedPublished _).congr (same (by simp))
  | fenced => exact sound.fenced (deletes.mpr (.inr rfl))

/-! ## Every row -/

structure SoundRows (most : Nat) (trace : List Transition) (state : DocumentState) : Prop where
  valid : state.Valid
  registered : ∀ row ∈ state.db.jobs, ∃ submission ∈ trace, submission.Registers row.id
  known : ∀ submission ∈ trace, ∀ jobId, submission.Registers jobId →
    ∃ row ∈ state.db.jobs, row.id = jobId
  rows : ∀ row ∈ state.db.jobs, row.Sound most (DeletedSince trace row)

theorem SoundRows.initial {most : Nat} {state : DocumentState} (initial : Initial state) :
    SoundRows most [] state := by
  refine ⟨.initial initial, ?_, by simp, ?_⟩ <;> simp [initial.1, DocumentDb.empty]

theorem Step.row_of_mem {state next : DocumentState} {transition : Transition}
    (valid : state.Valid) (step : Step state transition next) {row : JobRow}
    (member : row ∈ next.db.jobs) :
    (∃ old ∈ state.db.jobs, ∃ reply, transition.reply = .ok reply ∧
      RowChange transition.call.store transition.call.clock transition.call.operation reply
        old row) ∨
    (row ∈ state.db.jobs ∧ ∃ error, transition.reply = .error error) ∨
    ((∀ old ∈ state.db.jobs, old.id ≠ row.id) ∧ ∃ tenantId request options key documentId jobId,
      row = transition.call.store.newJob tenantId request options key documentId jobId
        (transition.call.clock 0)) := by
  rw [step.db] at member
  rcases step.effect valid.ids with ⟨reply, answered, effect⟩ | ⟨error, answered, same⟩
  · obtain ⟨change, added, jobs, changes, adds⟩ := effect.jobs
    rw [step.before] at jobs changes adds
    rw [jobs, List.mem_append] at member
    rcases member with old | new
    · obtain ⟨before, beforeMember, rfl⟩ := List.mem_map.mp old
      exact .inl ⟨before, beforeMember, reply, answered, changes before beforeMember⟩
    · generalize transition.call.operation = operation at adds
      cases adds with
      | nothing => cases new
      | registered _ fresh =>
          rw [List.mem_singleton] at new
          subst new
          exact .inr (.inr ⟨fresh, _, _, _, _, _, _, rfl⟩)
  · rw [same, step.before] at member
    exact .inr (.inl ⟨member, error, answered⟩)

theorem Step.row_kept {state next : DocumentState} {transition : Transition}
    (valid : state.Valid) (step : Step state transition next) {row : JobRow}
    (member : row ∈ state.db.jobs) : ∃ after ∈ next.db.jobs, after.id = row.id := by
  rw [step.db]
  rcases step.effect valid.ids with ⟨reply, _, effect⟩ | ⟨error, _, same⟩
  · rw [step.before] at effect
    obtain ⟨after, afterMember, change⟩ := effect.row_after member
    exact ⟨after, afterMember, change.columns.1⟩
  · rw [same, step.before]
    exact ⟨row, member, rfl⟩

theorem SoundRows.step {most : Nat} {trace : List Transition} {state next : DocumentState}
    {transition : Transition} (sound : SoundRows most trace state)
    (step : Step state transition next) (fixed : transition.call.store.jobMaxAttempts = most) :
    SoundRows most (trace ++ [transition]) next := by
  have valid := sound.valid
  subst fixed
  refine ⟨valid.step step, ?registered, ?known, ?rows⟩
  case registered =>
    intro row member
    rcases step.row_of_mem valid member with ⟨old, oldMember, _, _, change⟩ | ⟨old, _⟩ | ⟨fresh, _⟩
    · obtain ⟨submission, earlier, registers⟩ := sound.registered old oldMember
      exact ⟨submission, List.mem_append_left _ earlier, change.columns.1 ▸ registers⟩
    · obtain ⟨submission, earlier, registers⟩ := sound.registered row old
      exact ⟨submission, List.mem_append_left _ earlier, registers⟩
    · refine ⟨transition, List.mem_append_right _ (List.mem_singleton_self _), ?_, row, ?_, rfl⟩
      · rw [step.before]
        exact fresh
      · rw [← step.db]
        exact member
  case known =>
    intro submission member jobId registers
    rw [List.mem_append, List.mem_singleton] at member
    rcases member with earlier | rfl
    · obtain ⟨row, rowMember, rfl⟩ := sound.known submission earlier jobId registers
      exact step.row_kept valid rowMember
    · obtain ⟨_, row, rowMember, same⟩ := registers
      exact ⟨row, step.db ▸ rowMember, same⟩
  case rows =>
    intro row member
    rcases step.row_of_mem valid member with ⟨old, oldMember, reply, answered, change⟩ |
      ⟨old, error, answered⟩ | ⟨fresh, _, _, _, _, _, _, rfl⟩
    · obtain ⟨id, tenant, document, _⟩ := change.columns
      refine change.sound (sound.rows old oldMember) ?_
      rw [deletedSince_snoc, DeletedSince, id, tenant, document]
      refine or_congr Iff.rfl ⟨fun deletes => deletes.1.1, fun deletes => ?_⟩
      exact ⟨⟨deletes, reply, answered⟩, sound.registered old oldMember⟩
    · refine (sound.rows row old).congr ?_
      rw [deletedSince_snoc, or_iff_left]
      rintro ⟨⟨_, reply, returned⟩, _⟩
      rw [answered] at returned
      cases returned
    · refine JobRow.Sound.newJob _ _ _ _ _ _ _ ?_
      rw [deletedSince_snoc]
      rintro (⟨before, deletion, after, rfl, _, submission, earlier, registers⟩ |
        ⟨_, submission, earlier, registers⟩)
      · obtain ⟨old, oldMember, same⟩ := sound.known submission
          (List.mem_append_left _ earlier) _ registers
        exact fresh old oldMember same
      · obtain ⟨old, oldMember, same⟩ := sound.known submission earlier _ registers
        exact fresh old oldMember same

theorem Run.soundRows {first last : DocumentState} {trace : List Transition}
    (initial : Initial first) (run : Run Step first trace last) {most : Nat}
    (fixed : ∀ transition ∈ trace, transition.call.store.jobMaxAttempts = most) :
    SoundRows most trace last := by
  have reached := @Run.traced _ _ _
    (fun past state => (∀ transition ∈ past, transition.call.store.jobMaxAttempts = most) →
      SoundRows most past state)
    (fun past state transition next holds step fixed => by
      have earlier := holds fun earlier member => fixed earlier (List.mem_append_left _ member)
      exact earlier.step step
        (fixed transition (List.mem_append_right _ (List.mem_singleton_self _))))
    _ _ _ run [] fun _ => .initial initial
  exact reached fixed

/-! ## Claiming and retrying -/

theorem DocumentDb.jobRow_of_mem {db : DocumentDb} (ids : db.WellFormed) {row : JobRow}
    (member : row ∈ db.jobs) : jobRow db row.id.text row.tenant = .ok row := by
  unfold jobRow
  cases search : db.jobs.find? fun other =>
      other.id.text = row.id.text ∧ other.tenant = row.tenant with
  | none =>
      rw [List.find?_eq_none] at search
      exact absurd (by simp) (search row member)
  | some other =>
      have selected := List.find?_some search
      simp only [decide_eq_true_eq] at selected
      have same := DocumentDb.eq_of_id ids (List.mem_of_find?_eq_some search) member
        (Uuid4.ext_text selected.1)
      rw [same]

theorem JobRow.Registered.readRow {row : JobRow} (registered : row.Registered)
    (waiting : row.payload ≠ none) : ∃ read, readRow row = .ok read := by
  obtain ⟨payload, present⟩ := Option.ne_none_iff_exists'.mp waiting
  obtain ⟨options, dumped⟩ := registered.options
  obtain ⟨request, rfl, operation, same⟩ := registered.payload payload present
  refine ⟨(request, options), ?_⟩
  have read := readJob_payload request options
  rw [operation, ← dumped, ← present] at read
  simp [SQLiteDocumentStore.readRow, read, same, raiseWhen, pure, Except.pure]

theorem jobRow_error {db : DocumentDb} {jobId tenantId : String} {error : DocumentError}
    (raised : jobRow db jobId tenantId = .error error) :
    error = .documentJobNotFound "Document job unavailable" := by
  unfold jobRow at raised
  split at raised <;> cases raised
  rfl

theorem claimJob_not_corrupt {db : DocumentDb} (rows : ∀ row ∈ db.jobs, row.Registered)
    (waiting : ∀ row ∈ db.jobs, row.state = .queued → row.payload ≠ none)
    (store : SQLiteDocumentStore)
    (jobId tenantId token : String) (clock : Clock) {error : DocumentError}
    (raised : store.claimJob jobId tenantId token clock db = .error error) (message : String) :
    error ≠ .documentStorageCorruption message := by
  rintro rfl
  unfold claimJob at raised
  cases found : jobRow db jobId tenantId with
  | error other =>
      rw [found, Outcome.error_bind] at raised
      cases raised
      exact nomatch jobRow_error found
  | ok row =>
      obtain ⟨member, _⟩ := jobRow_ok found
      rw [found, Outcome.ok_bind] at raised
      split at raised
      · cases raised
      · rename_i open_
        cases active : attemptActive row (clock 0) with
        | error other =>
            rw [active, Outcome.error_bind] at raised
            unfold attemptActive leaseAfter at active
            split at active
            · split at active <;> cases active
              cases raised
            · cases active
        | ok running =>
            rw [active, Outcome.ok_bind] at raised
            cases running with
            | true => simp [raiseWhen] at raised
            | false =>
                rw [raiseWhen_of_not _ (by simp), Outcome.ok_bind] at raised
                split at raised
                · cases raised
                · have payload : row.payload ≠ none := by
                    cases state : row.state with
                    | queued => exact waiting row member state
                    | running =>
                        obtain ⟨payload, present⟩ := (rows row member).running state
                        simp [present]
                    | succeeded => exact absurd (.inl state) open_
                    | failed => exact absurd (.inr state) open_
                  obtain ⟨read, reads⟩ := (rows row member).readRow payload
                  unfold startAttempt at raised
                  rw [reads, Outcome.ok_bind] at raised
                  dsimp only at raised
                  cases again : jobRow (db.updateJob row.id fun row =>
                      row.claimed token (clock 1 + store.jobLeaseSeconds) (clock 2))
                      row.id.text row.tenant with
                  | error other =>
                      have missing := jobRow_error again
                      subst missing
                      simp [again] at raised
                  | ok read => simp [again, pure, Except.pure] at raised

theorem DocumentDb.WellFormed.updateJob {db : DocumentDb} (ids : db.WellFormed) (jobId : Uuid4)
    {change : JobRow → JobRow} (keeps : ∀ row, (change row).id = row.id) :
    (db.updateJob jobId change).WellFormed := by
  rw [DocumentDb.WellFormed, DocumentDb.updateJob, DocumentDb.updateJobs,
    Table.map_update _ _ _ keeps]
  exact ids

theorem DocumentDb.mem_updateJob {db : DocumentDb} {row : JobRow} (member : row ∈ db.jobs)
    (change : JobRow → JobRow) : change row ∈ (db.updateJob row.id change).jobs :=
  Table.mem_update.mpr ⟨row, member, by simp⟩

theorem retryJob_of_failed {db : DocumentDb} (ids : db.WellFormed) {row : JobRow}
    (member : row ∈ db.jobs) (failed : row.state = .failed) (payload : row.payload ≠ none)
    {store : SQLiteDocumentStore} (below : row.attempts < store.jobMaxAttempts) (clock : Clock) :
    ∃ job next, store.retryJob row.id.text row.tenant clock db = .ok (job, next) := by
  have read := DocumentDb.jobRow_of_mem ids member
  have idle : attemptActive row (clock 0) = .ok false := by simp [attemptActive, failed]
  have keeps : ∀ row : JobRow, (row.requeued (clock 1)).id = row.id := fun _ => rfl
  have readBack : jobRow (db.updateJob row.id fun row => row.requeued (clock 1)) row.id.text
      row.tenant = .ok (row.requeued (clock 1)) :=
    DocumentDb.jobRow_of_mem (ids.updateJob row.id keeps)
      (DocumentDb.mem_updateJob member fun row => row.requeued (clock 1))
  refine ⟨SQLiteDocumentStore.job (db.updateJob row.id fun row => row.requeued (clock 1))
    (row.requeued (clock 1)) (clock 2), db.updateJob row.id fun row => row.requeued (clock 1), ?_⟩
  simp only [retryJob, read, Outcome.ok_bind, failed, reduceCtorEq, if_false, idle]
  rw [raiseWhen_of_not _ (by simp [payload, below]), Outcome.ok_bind, readBack, Outcome.ok_bind]
  rfl

theorem retryJob_payload {db : DocumentDb} (ids : db.WellFormed) {row : JobRow}
    (member : row ∈ db.jobs) (failed : row.state = .failed) {store : SQLiteDocumentStore}
    {clock : Clock} {job : DocumentJob} {next : DocumentDb}
    (ok : store.retryJob row.id.text row.tenant clock db = .ok (job, next)) :
    row.payload ≠ none := by
  simp only [retryJob, DocumentDb.jobRow_of_mem ids member, Outcome.ok_bind, failed,
    reduceCtorEq, if_false, Outcome.bind_eq_ok, raiseWhen_eq_ok] at ok
  obtain ⟨_, _, _, allowed, _⟩ := ok
  push Not at allowed
  exact allowed.2.2.2

theorem RowChange.of_finished {store : SQLiteDocumentStore} {clock : Clock}
    {operation : Operation} {reply : Reply} {row after : JobRow}
    (change : RowChange store clock operation reply row after) :
    (row.state = .succeeded → after.state = .succeeded) ∧
      (row.state = .failed → row.payload = none →
        after.state = .failed ∧ after.payload = none) ∧
      (row.state = .failed → after.state ≠ .failed →
        after.state = .queued ∧ operation = .retryJob row.id.text row.tenant) := by
  refine ⟨fun succeeded => ?_, fun failed cleared => ?_, fun failed left_ => ?_⟩
  · cases change with
    | kept => exact succeeded
    | limited idle => rcases idle with queued | ⟨running, _⟩ <;> simp_all
    | claimed idle => rcases idle with queued | ⟨running, _⟩ <;> simp_all
    | committed => rfl
    | failed selected => simp [failing, succeeded] at selected
    | retried unfinished => exact absurd succeeded unfinished
    | published => exact succeeded
    | fenced => simp [JobRow.fenced, succeeded]
  · cases change with
    | kept => exact ⟨failed, cleared⟩
    | limited => exact ⟨rfl, rfl⟩
    | claimed idle => rcases idle with queued | ⟨running, _⟩ <;> simp_all
    | committed owned => simp [owned.running] at failed
    | failed selected => simp [failing, failed] at selected
    | retried _ _ payload => exact absurd cleared payload
    | published => exact ⟨failed, cleared⟩
    | fenced => simp [JobRow.fenced, failed]
  · cases change with
    | kept => exact absurd failed left_
    | limited => exact absurd rfl left_
    | claimed idle => rcases idle with queued | ⟨running, _⟩ <;> simp_all
    | committed owned => simp [owned.running] at failed
    | failed => exact absurd rfl left_
    | retried => exact ⟨rfl, rfl⟩
    | published => exact absurd failed left_
    | fenced => simp [JobRow.fenced, failed] at left_

/-- In every history with one attempt limit every job row has the columns of its
state set, so a claim never meets a corrupt row, a failed job keeps its source
exactly while it can be retried, and what is finished stays finished. -/
theorem document_job_rows {first last : DocumentState} {trace : List Transition}
    (initial : Initial first) (run : Run Step first trace last) {most : Nat}
    (fixed : ∀ transition ∈ trace, transition.call.store.jobMaxAttempts = most) :
    (∀ row ∈ last.db.jobs, row.Sound most (DeletedSince trace row)) ∧
    (∀ store clock jobId tenantId token message,
      ((Operation.claimJob jobId tenantId token).perform store clock last.db).1 ≠
        .error (.documentStorageCorruption message)) ∧
    (∀ row ∈ last.db.jobs, row.state = .failed → ∀ store : SQLiteDocumentStore,
      store.jobMaxAttempts = most → ∀ clock, (row.payload ≠ none ↔ ∃ job,
        ((Operation.retryJob row.id.text row.tenant).perform store clock last.db).1 =
          .ok (.job job))) ∧
    ∀ transition next, Step last transition next → ∀ row ∈ last.db.jobs, ∀ after ∈ next.db.jobs,
      after.id = row.id →
      (row.state = .succeeded → after.state = .succeeded) ∧
      (row.state = .failed → row.payload = none →
        after.state = .failed ∧ after.payload = none) ∧
      (row.state = .failed → after.state ≠ .failed → after.state = .queued ∧
        transition.call.operation = .retryJob row.id.text row.tenant) := by
  have sound := Run.soundRows initial run fixed
  have ids := sound.valid.ids
  refine ⟨sound.rows, ?_, ?_, ?_⟩
  · intro store clock jobId tenantId token message
    simp only [Operation.perform, Operation.body]
    cases ran : store.claimJob jobId tenantId token clock last.db with
    | ok out => simp [Functor.map, Except.map]
    | error error =>
        have healthy := claimJob_not_corrupt sound.valid.rows
          (fun row member queued => ((sound.rows row member).queued queued).1) store jobId
          tenantId token clock ran message
        simpa [Functor.map, Except.map] using healthy
  · intro row member failed store same clock
    simp only [Operation.perform, Operation.body]
    constructor
    · intro payload
      have below : row.attempts < store.jobMaxAttempts := by
        by_contra reached
        rw [same, not_lt] at reached
        exact payload (((sound.rows row member).failed failed).2.2.2.mpr (.inl reached))
      obtain ⟨job, next, ok⟩ := retryJob_of_failed ids member failed payload below clock
      exact ⟨job, by rw [ok]; rfl⟩
    · rintro ⟨job, answered⟩
      cases ran : store.retryJob row.id.text row.tenant clock last.db with
      | ok out => exact retryJob_payload ids member failed ran
      | error error => simp [ran, Functor.map, Except.map] at answered
  · intro transition next step row member after afterMember id
    rcases step.row_of_mem sound.valid afterMember with ⟨old, oldMember, _, _, change⟩ |
      ⟨old, _⟩ | ⟨fresh, _⟩
    · have same := DocumentDb.eq_of_id ids oldMember member (change.columns.1.symm.trans id)
      subst same
      exact change.of_finished
    · have same := DocumentDb.eq_of_id ids old member id
      subst same
      exact ⟨fun state => state, fun state payload => ⟨state, payload⟩,
        fun state left_ => absurd state left_⟩
    · exact absurd id.symm (fresh row member)

/-- The succeeded sample job has a version and neither payload nor token. -/
theorem document_job_rows_committed :
    Sample.committed.db.jobs.map JobRow.state = [.succeeded] ∧
      ∀ row ∈ Sample.committed.db.jobs, row.Sound 3 (DeletedSince Sample.trace row) := by
  have finished : Sample.committed.db.jobs.map JobRow.state = [.succeeded] := by decide +kernel
  have fixed : ∀ transition ∈ Sample.trace, transition.call.store.jobMaxAttempts = 3 := by
    decide +kernel
  exact ⟨finished, (document_job_rows ⟨rfl, rfl⟩ Sample.committed_run fixed).1⟩

end Crewos.Documents

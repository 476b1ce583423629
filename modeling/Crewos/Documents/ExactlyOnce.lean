import Crewos.Documents.Histories

/-! # One document version per job

A job and its version are written in the same transaction, by the only call
that can make the job succeed. -/

namespace Crewos.Documents

open Foundation SQLiteDocumentStore

/-- A commit that stored this version for the job, with the transition that did
so. -/
def Transition.Inserts (transition : Transition) (jobId : Uuid4) (tenantId : String)
    (documentId : Uuid4) (version : Nat) : Prop :=
  ∃ claim record saved, transition.call.operation = .commitJob claim record ∧
    transition.reply = .ok (.record saved) ∧ claim.job.jobId = jobId ∧
    transition.after.versions = transition.before.versions ++ [.of saved] ∧
    saved.tenantId = tenantId ∧ saved.documentId = documentId ∧ saved.version = version

/-- The revision a job may store: the first one of a new document, or the one
after the expected one of an update. -/
inductive Revision (db : DocumentDb) (row : JobRow) : Nat → Prop
  | first (creates : row.operation = .create)
      (missing : db.latest row.tenant row.documentId = 0) : Revision db row 1
  | next {request : DocumentUpdateRequest} (updates : row.operation = .update)
      (payload : row.payload = some (DocumentRequest.update request).payload)
      (document : request.documentId = row.documentId)
      (current : db.latest row.tenant row.documentId = request.expectedVersion) :
      Revision db row (request.expectedVersion + 1)

def JobRow.SucceededWith (row : JobRow) (version : Nat) : Prop :=
  row.state = .succeeded ∧ row.version = some version

theorem payload_injective {left right : DocumentUpdateRequest}
    (same : (DocumentRequest.update left).payload = (DocumentRequest.update right).payload) :
    left = right := by
  have options : ChunkingOptions := {}
  have leftRead := readJob_payload (.update left) options
  have rightRead := readJob_payload (.update right) options
  simp only [DocumentRequest.operation] at leftRead rightRead
  rw [same, rightRead] at leftRead
  cases leftRead
  rfl

/-! ## What a commit does -/

theorem DocumentJobClaim.For.revision {claim : DocumentJobClaim} {row : JobRow}
    (issued : claim.For row) (waiting : ∃ payload, row.payload = some payload) {db : DocumentDb}
    {version : Nat} (expected : expectedRevision claim = .ok version)
    (following : version = db.latest row.tenant row.documentId + 1) :
    Revision db row version := by
  obtain ⟨payload, present⟩ := waiting
  have stored : row.payload = some claim.request.payload := by
    rcases issued.payload with cleared | same
    · rw [cleared] at present
      cases present
    · exact same
  have operation := issued.operation
  have requested := issued.request
  have aimed := issued.target
  unfold expectedRevision at expected
  cases kind : claim.job.operation with
  | create =>
      simp only [kind, Except.ok.injEq] at expected
      subst expected
      exact .first (operation ▸ kind) (by omega)
  | update =>
      cases request : claim.request with
      | ingestion source => simp [kind, request] at expected
      | update request' =>
          simp only [kind, request, Except.ok.injEq] at expected
          subst expected
          rw [request] at stored aimed
          exact .next (operation ▸ kind) stored aimed (by omega)

theorem Step.owner {state next : DocumentState} {transition : Transition} (valid : state.Valid)
    (step : Step state transition next) {jobId : Uuid4} {tenantId : String}
    {documentId : Uuid4} {version : Nat}
    (inserts : transition.Inserts jobId tenantId documentId version) :
    ∃ row ∈ transition.before.jobs, row.id = jobId ∧ row.tenant = tenantId ∧
      row.documentId = documentId ∧ row.state = .running ∧
      Revision transition.before row version ∧
      ∃ after ∈ transition.after.jobs, after.id = jobId ∧ after.tenant = tenantId ∧
        after.documentId = documentId ∧ after.SucceededWith version := by
  obtain ⟨claim, record, saved, operation, answered, rfl, _, rfl, rfl, rfl⟩ := inserts
  rcases step.effect valid.ids with ⟨reply, answer, effect⟩ | ⟨error, answer, _⟩
  · rw [answered] at answer
    cases answer
    rw [operation] at effect
    have versions := effect.versions
    generalize transition.after.versions = rows at versions
    cases versions with
    | kept quiet => exact absurd trivial quiet
    | committed tenant document revision following owner _ =>
        obtain ⟨now, row, member, owned⟩ := owner
        obtain ⟨after, afterMember, change⟩ := effect.row_after member
        have presented := step.presented claim (by rw [operation]; rfl)
        obtain ⟨other, otherMember, issued⟩ := valid.claims claim presented
        rw [step.before] at member
        have same := DocumentDb.eq_of_id valid.ids otherMember member
          (issued.id.symm.trans owned.id.symm)
        subst same
        have sameTenant : other.tenant = saved.tenantId := by rw [tenant, owned.tenant]
        have sameDocument : other.documentId = saved.documentId := by
          rw [document, issued.document]
        refine ⟨other, step.before ▸ member, owned.id, sameTenant, sameDocument, owned.running,
          ?_, after, afterMember, ?_⟩
        · refine issued.revision ((valid.rows other otherMember).running owned.running) revision ?_
          rw [sameTenant, sameDocument, following]
        · cases change with
          | kept spared => exact absurd owned.id spared
          | committed => exact ⟨owned.id, sameTenant, sameDocument, rfl, rfl⟩
  · rw [answered] at answer
    cases answer

theorem Step.latest_of_inserts {state next : DocumentState} {transition : Transition}
    (valid : state.Valid) (step : Step state transition next) {jobId : Uuid4}
    {tenantId : String} {documentId : Uuid4} {version : Nat}
    (inserts : transition.Inserts jobId tenantId documentId version) :
    version = state.db.latest tenantId documentId + 1 ∧
      next.db.latest tenantId documentId = version := by
  obtain ⟨claim, record, saved, operation, answered, -, appended, rfl, rfl, rfl⟩ := inserts
  have following : saved.version = transition.before.latest saved.tenantId saved.documentId + 1 := by
    rcases step.effect valid.ids with ⟨reply, answer, effect⟩ | ⟨error, answer, _⟩
    · rw [answered] at answer
      cases answer
      have versions := effect.versions
      rw [operation] at versions
      generalize transition.after.versions = rows at versions
      cases versions with
      | kept quiet => exact absurd trivial quiet
      | committed _ _ _ following => exact following
    · rw [answered] at answer
      cases answer
  rw [step.before] at following appended
  rw [← step.db] at appended
  exact ⟨following, DocumentDb.latest_append appended following⟩

/-! ## Receipts -/

theorem RowChange.staysSucceeded {store : SQLiteDocumentStore} {clock : Clock}
    {operation : Operation} {reply : Reply} {row after : JobRow}
    (change : RowChange store clock operation reply row after) {version : Nat}
    (succeeded : row.SucceededWith version) : after.SucceededWith version := by
  obtain ⟨state, same⟩ := succeeded
  cases change with
  | kept => exact ⟨state, same⟩
  | limited idle => rcases idle with queued | ⟨running, _⟩ <;> simp_all
  | claimed idle => rcases idle with queued | ⟨running, _⟩ <;> simp_all
  | committed owned => simp [owned.running] at state
  | failed selected => simp [failing, state] at selected
  | retried unfinished => exact absurd state unfinished
  | published => exact ⟨state, same⟩
  | fenced => exact ⟨by simp [JobRow.fenced, state], same⟩

theorem RowChange.succeeds {store : SQLiteDocumentStore} {clock : Clock}
    {operation : Operation} {reply : Reply} {row after : JobRow}
    (change : RowChange store clock operation reply row after) {version : Nat}
    (succeeded : after.SucceededWith version) :
    row.SucceededWith version ∨ ∃ claim record saved, operation = .commitJob claim record ∧
      reply = .record saved ∧ OwnedJob claim row (clock 0) ∧ saved.version = version := by
  obtain ⟨state, same⟩ := succeeded
  cases change with
  | kept => exact .inl ⟨state, same⟩
  | limited => cases state
  | claimed => cases state
  | committed owned => exact .inr ⟨_, _, _, rfl, rfl, owned, Option.some.inj same⟩
  | failed => cases state
  | retried => cases state
  | published => exact .inl ⟨state, same⟩
  | fenced =>
      left
      simp only [JobRow.fenced] at state
      split at state
      · exact ⟨state, same⟩
      · cases state

theorem Added.queued {store : SQLiteDocumentStore} {clock : Clock} {db : DocumentDb}
    {operation : Operation} {reply : Reply} {added : List JobRow}
    (adds : Added store clock db operation reply added) {row : JobRow} (member : row ∈ added) :
    row.state = .queued := by
  cases adds with
  | nothing => cases member
  | registered =>
      rw [List.mem_singleton] at member
      rw [member]
      rfl

/-- The insertions of the past are the receipts in the table. -/
structure Receipts (past : List Transition) (state : DocumentState) : Prop where
  valid : state.Valid
  stored : ∀ transition ∈ past, ∀ jobId tenantId documentId version,
    transition.Inserts jobId tenantId documentId version →
    ∃ row ∈ state.db.jobs, row.id = jobId ∧ row.tenant = tenantId ∧
      row.documentId = documentId ∧ row.SucceededWith version
  earned : ∀ row ∈ state.db.jobs, ∀ version, row.SucceededWith version →
    ∃ transition ∈ past, transition.Inserts row.id row.tenant row.documentId version

theorem Effect.inserts {transition : Transition} {state next : DocumentState} {reply : Reply}
    (valid : state.Valid) (step : Step state transition next)
    (answered : transition.reply = .ok reply)
    (effect : Effect transition.call.store transition.call.clock transition.before
      transition.call.operation reply transition.after)
    {claim : DocumentJobClaim} {record saved : StoredDocumentVersion}
    (operation : transition.call.operation = .commitJob claim record)
    (committed : reply = .record saved) {row : JobRow} (member : row ∈ transition.before.jobs)
    {now : Time} (owned : OwnedJob claim row now) :
    transition.Inserts row.id row.tenant row.documentId saved.version := by
  subst committed
  have versions := effect.versions
  rw [operation] at versions
  generalize reached : transition.after.versions = rows at versions
  cases versions with
  | kept quiet => exact absurd trivial quiet
  | committed tenant document _ _ _ _ =>
      have presented := step.presented claim (by rw [operation]; rfl)
      obtain ⟨other, otherMember, issued⟩ := valid.claims claim presented
      rw [step.before] at member
      have same := DocumentDb.eq_of_id valid.ids otherMember member
        (issued.id.symm.trans owned.id.symm)
      subst same
      exact ⟨claim, record, saved, operation, answered, issued.id, reached,
        tenant.trans issued.tenant, document.trans issued.document, rfl⟩

theorem Receipts.step {past : List Transition} {state next : DocumentState}
    {transition : Transition} (receipts : Receipts past state)
    (step : Step state transition next) : Receipts (past ++ [transition]) next := by
  have valid := receipts.valid
  have sameDb := step.before
  refine ⟨valid.step step, ?stored, ?earned⟩
  case stored =>
    intro earlier member jobId tenantId documentId version inserts
    rw [List.mem_append, List.mem_singleton] at member
    rcases member with old | rfl
    · obtain ⟨row, rowMember, id, tenant, document, succeeded⟩ :=
        receipts.stored earlier old jobId tenantId documentId version inserts
      rcases step.effect valid.ids with ⟨reply, _, effect⟩ | ⟨_, _, same⟩
      · rw [sameDb, ← step.db] at effect
        obtain ⟨after, afterMember, change⟩ := effect.row_after rowMember
        obtain ⟨sameId, sameTenant, sameDocument, _⟩ := change.columns
        exact ⟨after, afterMember, sameId.trans id, sameTenant.trans tenant,
          sameDocument.trans document, change.staysSucceeded succeeded⟩
      · rw [step.db, same, sameDb]
        exact ⟨row, rowMember, id, tenant, document, succeeded⟩
    · obtain ⟨_, _, _, _, _, _, _, after, afterMember, receipt⟩ := step.owner valid inserts
      exact ⟨after, step.db ▸ afterMember, receipt⟩
  case earned =>
    intro row member version succeeded
    have earlier (old : JobRow) (oldMember : old ∈ state.db.jobs)
        (oldSucceeded : old.SucceededWith version) (id : row.id = old.id)
        (tenant : row.tenant = old.tenant) (document : row.documentId = old.documentId) :
        ∃ transition' ∈ past ++ [transition],
          transition'.Inserts row.id row.tenant row.documentId version := by
      obtain ⟨source, sourceMember, inserts⟩ :=
        receipts.earned old oldMember version oldSucceeded
      rw [id, tenant, document]
      exact ⟨source, List.mem_append_left _ sourceMember, inserts⟩
    rcases step.effect valid.ids with ⟨reply, answered, effect⟩ | ⟨_, _, same⟩
    · obtain ⟨change, added, jobs, changes, adds⟩ := effect.jobs
      rw [step.db, jobs, List.mem_append] at member
      rcases member with old | new
      · obtain ⟨before, beforeMember, rfl⟩ := List.mem_map.mp old
        have changed := changes before beforeMember
        obtain ⟨id, tenant, document, _⟩ := changed.columns
        rcases changed.succeeds succeeded with already | ⟨claim, record, saved, operation,
          committed, owned, rfl⟩
        · exact earlier before (sameDb ▸ beforeMember) already id tenant document
        · rw [id, tenant, document]
          exact ⟨transition, List.mem_append_right _ (List.mem_singleton_self _),
            effect.inserts valid step answered operation committed beforeMember owned⟩
      · have waiting := adds.queued new
        rw [succeeded.1] at waiting
        cases waiting
    · rw [step.db, same, sameDb] at member
      exact earlier row member succeeded rfl rfl rfl

theorem Run.receipts {first last : DocumentState} {trace : List Transition}
    (initial : Initial first) (run : Run Step first trace last) : Receipts trace last := by
  have start : Receipts [] first :=
    { valid := .initial initial
      stored := fun _ member => by cases member
      earned := fun row member => by
        rw [initial.1] at member
        cases member }
  have reached := run.traced (fun _ _ _ _ receipts step => receipts.step step) start
  simpa using reached

theorem Step.expected {state next : DocumentState} {transition : Transition}
    (valid : state.Valid) (step : Step state transition next) {row : JobRow}
    (member : row ∈ transition.before.jobs) (updates : row.operation = .update)
    {request : DocumentUpdateRequest}
    (payload : row.payload = some (DocumentRequest.update request).payload)
    {tenantId : String} {documentId : Uuid4} {version : Nat}
    (inserts : transition.Inserts row.id tenantId documentId version) :
    version = request.expectedVersion + 1 := by
  obtain ⟨other, otherMember, id, _, _, _, revision, _⟩ := step.owner valid inserts
  rw [step.before] at member otherMember
  have same := DocumentDb.eq_of_id valid.ids otherMember member id
  subst same
  cases revision with
  | first creates =>
      rw [creates] at updates
      cases updates
  | next _ stored =>
      rw [payload, Option.some.injEq] at stored
      rw [payload_injective stored]

theorem Run.before {first last : DocumentState} {past rest : List Transition}
    {transition : Transition} (run : Run Step first (past ++ transition :: rest) last) :
    ∃ state next, Run Step first past state ∧ Step state transition next ∧
      Run Step next rest last := by
  obtain ⟨state, earlier, later⟩ := run.split
  cases later with
  | cons step rest => exact ⟨state, _, earlier, step, rest⟩

def Follows (trace : List Transition) (transition : Transition) (between : List Transition)
    (later : Transition) : Prop :=
  ∃ past rest, trace = past ++ transition :: (between ++ later :: rest)

/-! ## The effect of a job -/

/-- Whatever the order of calls, expired leases and retries: a job stores at
most one version; its receipt says so exactly when a commit stored that version
in the same transaction; the version is the one the job was submitted for;
between two updates of the same version the document was deleted; and a commit
that raises does nothing. -/
theorem document_effect_once {first last : DocumentState} {trace : List Transition}
    (initial : Initial first) (run : Run Step first trace last) :
    (∀ transition between later, Follows trace transition between later →
      ∀ jobId tenantId documentId version tenantId' documentId' version',
      transition.Inserts jobId tenantId documentId version →
      ¬later.Inserts jobId tenantId' documentId' version') ∧
    (∀ row ∈ last.db.jobs, ∀ version,
      (row.state = .succeeded ∧ row.version = some version) ↔
        ∃ transition ∈ trace, transition.Inserts row.id row.tenant row.documentId version) ∧
    (∀ transition ∈ trace, ∀ jobId tenantId documentId version,
      transition.Inserts jobId tenantId documentId version →
      ∃ row ∈ transition.before.jobs, row.id = jobId ∧ row.tenant = tenantId ∧
        row.documentId = documentId ∧ Revision transition.before row version) ∧
    (∀ transition between later, Follows trace transition between later →
      ∀ row ∈ transition.before.jobs, ∀ row' ∈ later.before.jobs, ∀ request request',
      row.operation = .update → row.payload = some (DocumentRequest.update request).payload →
      row'.operation = .update →
      row'.payload = some (DocumentRequest.update request').payload →
      row'.tenant = row.tenant → row'.documentId = row.documentId →
      request.expectedVersion = request'.expectedVersion →
      ∀ version version', transition.Inserts row.id row.tenant row.documentId version →
      later.Inserts row'.id row'.tenant row'.documentId version' →
      ∃ deletion ∈ between, deletion.Deletes row.tenant row.documentId) ∧
    (∀ transition ∈ trace, ∀ claim record error,
      transition.call.operation = .commitJob claim record → transition.reply = .error error →
      transition.after = transition.before) := by
  have start := DocumentState.Valid.initial initial
  -- Every transition of the trace is a step from a valid state.
  have stepAt : ∀ transition ∈ trace, ∃ state next, state.Valid ∧ Step state transition next := by
    intro transition member
    obtain ⟨past, rest, rfl⟩ := List.append_of_mem member
    obtain ⟨state, next, earlier, step, _⟩ := Run.before run
    exact ⟨state, next, Run.valid earlier start, step⟩
  refine ⟨?once, ?receipt, ?revision, ?competing, ?raises⟩
  case once =>
    rintro transition between later ⟨past, rest, rfl⟩ jobId tenantId documentId version
      tenantId' documentId' version' inserts again
    obtain ⟨state, next, earlier, step, following⟩ := Run.before run
    obtain ⟨state', next', middle, step', _⟩ := Run.before following
    have before := Run.receipts initial ((earlier.snoc step).append middle)
    obtain ⟨row, member, id, _, _, succeeded⟩ := before.stored transition (by simp) _ _ _ _ inserts
    obtain ⟨row', member', id', _, _, running, _⟩ := step'.owner before.valid again
    rw [step'.before] at member'
    have same := DocumentDb.eq_of_id before.valid.ids member member' (id.trans id'.symm)
    rw [same, JobRow.SucceededWith, running] at succeeded
    cases succeeded.1
  case receipt =>
    have receipts := Run.receipts initial run
    intro row member version
    constructor
    · exact receipts.earned row member version
    · rintro ⟨transition, transitionMember, inserts⟩
      obtain ⟨other, otherMember, id, _, _, succeeded⟩ :=
        receipts.stored transition transitionMember _ _ _ _ inserts
      rw [← DocumentDb.eq_of_id receipts.valid.ids otherMember member id]
      exact succeeded
  case revision =>
    intro transition member jobId tenantId documentId version inserts
    obtain ⟨state, next, valid, step⟩ := stepAt transition member
    obtain ⟨row, rowMember, id, tenant, document, _, revision, _⟩ := step.owner valid inserts
    exact ⟨row, rowMember, id, tenant, document, revision⟩
  case competing =>
    rintro transition between later ⟨past, rest, rfl⟩ row member row' member' request request'
      updates payload updates' payload' tenant document expected version version' inserts again
    obtain ⟨state, next, earlier, step, following⟩ := Run.before run
    obtain ⟨state', next', middle, step', _⟩ := Run.before following
    have valid := Run.valid earlier start
    have validNext := valid.step step
    have valid' := Run.valid middle validNext
    have reached := step.expected valid member updates payload inserts
    have reached' := step'.expected valid' member' updates' payload' again
    rw [tenant, document] at again
    obtain ⟨_, latest⟩ := step.latest_of_inserts valid inserts
    by_contra undeleted
    have kept : ∀ deletion ∈ between, ¬deletion.Deletes row.tenant row.documentId :=
      fun deletion inside deletes => undeleted ⟨deletion, inside, deletes⟩
    have monotone := Run.latest_mono middle validNext kept
    obtain ⟨current, _⟩ := step'.latest_of_inserts valid' again
    omega
  case raises =>
    intro transition member claim record error operation answered
    obtain ⟨state, next, valid, step⟩ := stepAt transition member
    rcases step.effect valid.ids with ⟨reply, answer, _⟩ | ⟨_, _, same⟩
    · rw [answered] at answer
      cases answer
    · exact same

/-- The receipt of the sample job is its commit. -/
theorem document_effect_once_committed :
    ∃ transition ∈ Sample.trace, transition.Inserts Sample.job "acme" Sample.document 1 := by
  have receipts := (document_effect_once ⟨rfl, rfl⟩ Sample.committed_run).2.1
  have row : ∃ row ∈ Sample.committed.db.jobs, row.id = Sample.job ∧ row.tenant = "acme" ∧
      row.documentId = Sample.document ∧ row.state = .succeeded ∧ row.version = some 1 := by
    decide +kernel
  obtain ⟨row, member, id, tenant, document, succeeded⟩ := row
  have effect := receipts row member 1
  rw [id, tenant, document] at effect
  exact effect.mp succeeded

end Crewos.Documents

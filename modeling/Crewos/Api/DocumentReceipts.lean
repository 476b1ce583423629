import Crewos.Api.Provenance
import Crewos.Documents.ExactlyOnce

/-! # What a receipt promises

A submission that is answered with success has its text in the database, whoever
stored it and whether the key was used before. -/

namespace Crewos.DocumentService

open Foundation Documents Api

theorem run_replay {first last : DocumentState} {trace : List Transition}
    (initial : Initial first) (run : Run Documents.Step first trace last) :
    last.db = DocumentDb.empty.replay (trace.map Transition.call) := by
  refine @Run.traced _ _ _ (fun past state =>
    state.db = DocumentDb.empty.replay (past.map Transition.call)) ?_ _ _ _ run [] initial.1
  intro past state transition next replayed step
  rw [List.map_append, replay_append, ← replayed, step.db]
  have performed := step.performed
  rw [step.before] at performed
  exact (congrArg Prod.snd performed).symm

theorem statusOf_synchronous {job : DocumentJob} :
    statusOf job false = 200 ↔ job.state = .succeeded := by
  cases state : job.state <;> simp [statusOf, state]
  cases found : failureStatuses.find? fun entry => job.errorCode = some entry.1 with
  | none => simp
  | some entry =>
      have member := List.mem_of_find?_eq_some found
      simp only [failureStatuses, List.mem_cons, List.not_mem_nil, or_false] at member
      rcases member with rfl | rfl | rfl | rfl | rfl | rfl | rfl <;> simp

section Histories

variable {settings : TenantSettings} {store : SQLiteDocumentStore} {first last : DocumentState}
  {history : List Entry}

theorem step_of_member (run : Run Documents.Step first (history.map Entry.transition) last)
    {earlier later : List Entry} {entry : Entry} (split : history = earlier ++ entry :: later) :
    ∃ state next, Run Documents.Step first (earlier.map Entry.transition) state ∧
      Documents.Step state entry.transition next := by
  rw [split, List.map_append, List.map_cons] at run
  obtain ⟨state, reached, following⟩ := run.split
  cases following with
  | cons step _ => exact ⟨state, _, reached, step⟩

theorem submitted_of_entry (initial : Initial first)
    (run : Run Documents.Step first (history.map Entry.transition) last) {entry : Entry}
    (member : entry ∈ history) {tenantId key : String} {request : DocumentRequest}
    {operation : JobOperation} {drawing : Drawing} {answer : DocumentJob} {replayed : Bool}
    (submits : entry.transition.call.operation =
      (StoreMethod.submitJob tenantId request operation DocumentSubmissionFacade.options
        key).operation drawing)
    (answered : entry.transition.reply = .ok (.submission answer replayed)) :
    Submitted (history.map fun entry => entry.transition.call) tenantId key request answer ∧
      (replayed = false → answer.jobId = drawing.jobId) := by
  obtain ⟨earlier, later, split⟩ := List.append_of_mem member
  obtain ⟨state, next, reached, step⟩ := step_of_member run split
  have performed := step.performed
  rw [step.before, answered, submits] at performed
  have replied := congrArg Prod.fst performed
  obtain ⟨checked, accepted, used⟩ := perform_submit_ok replied
  cases DocumentRequest.validate_raw accepted.request
  refine ⟨⟨earlier.map fun entry => entry.transition.call, entry.transition.call,
    later.map fun entry => entry.transition.call, request.raw, operation,
    DocumentSubmissionFacade.options, drawing.documentId, drawing.jobId, replayed,
    by rw [split]; simp, submits, accepted.request, ?_⟩, ?_⟩
  · have tables := run_replay initial reached
    rw [List.map_map] at tables
    rw [show (earlier.map fun entry => entry.transition.call) =
      earlier.map (Transition.call ∘ Entry.transition) from rfl, ← tables, submits]
    exact replied
  · rintro rfl
    rcases used with ⟨replays, _⟩ | ⟨_, unused, fresh⟩
    · cases replays
    · rw [StoreMethod.operation, perform_submit_unused accepted unused fresh] at replied
      cases replied
      rfl

theorem row_of_receipt (run : Run Documents.Step first (history.map Entry.transition) last)
    {earlier later : List Entry} {entry : Entry} (split : history = earlier ++ entry :: later)
    {jobId tenantId : String} {answer : DocumentJob}
    (reads : entry.transition.call.operation = .getJob jobId tenantId)
    (answered : entry.transition.reply = .ok (.job answer)) :
    ∃ state row now, Run Documents.Step first (earlier.map Entry.transition) state ∧
      row ∈ state.db.jobs ∧ row.id.text = jobId ∧ row.tenant = tenantId ∧
      answer = SQLiteDocumentStore.job state.db row now := by
  obtain ⟨state, next, reached, step⟩ := step_of_member run split
  have performed := step.performed
  rw [step.before, answered, reads] at performed
  have ran := perform_ok performed
  simp only [Operation.body, Outcome.map_eq_ok, Prod.mk.injEq, SQLiteDocumentStore.getJob,
    Outcome.bind_eq_ok, Outcome.pure_eq_ok] at ran
  obtain ⟨_, ⟨row, found, rfl⟩, same, _⟩ := ran
  cases same
  obtain ⟨member, id, tenant⟩ := SQLiteDocumentStore.jobRow_ok found
  exact ⟨state, row, _, reached, member, id, tenant, rfl⟩

theorem request_of_job (injective : Function.Injective store.sha256)
    (vouched : ∀ entry ∈ history, entry.Vouched settings store)
    {leftTenant leftKey rightTenant rightKey : String} {left right : DocumentRequest}
    {leftAnswer rightAnswer : DocumentJob}
    (submitted : Submitted (history.map fun entry => entry.transition.call) leftTenant leftKey left
      leftAnswer)
    (again : Submitted (history.map fun entry => entry.transition.call) rightTenant rightKey right
      rightAnswer) (same : leftAnswer.jobId = rightAnswer.jobId) : left = right := by
  have shared : ∀ call ∈ history.map fun entry => entry.transition.call,
      call.store.sha256 = store.sha256 := by
    intro call member
    obtain ⟨entry, there, rfl⟩ := List.mem_map.mp member
    obtain ⟨_, _, _, _, _, _, _, called⟩ := vouched entry there
    rw [called]
    rfl
  obtain ⟨row, rowMember, id, _, _, _, fingerprint⟩ := submitted.registered shared
  obtain ⟨other, otherMember, otherId, _, _, _, otherFingerprint⟩ := again.registered shared
  have equal := DocumentDb.eq_of_id (wellFormed_replay _) rowMember otherMember
    (id.trans (same.trans otherId.symm))
  rw [← equal, fingerprint] at otherFingerprint
  exact fingerprintText_inj (injective otherFingerprint)

theorem text_of_routed {left right : DocumentInput} {request : DocumentRequest}
    (routed : Routed left request) (again : Routed right request) : left.text = right.text := by
  have same := routed.content.symm.trans again.content
  have decoded := congrArg Utf8.decode same
  rw [Utf8.decode_encode, Utf8.decode_encode] at decoded
  exact Option.some.inj decoded

theorem commit_of_receipt (initial : Initial first)
    (run : Run Documents.Step first (history.map Entry.transition) last)
    (vouched : ∀ entry ∈ history, entry.Vouched settings store) {entry : Entry}
    (member : entry ∈ history) {jobId tenantId : String} {answer : DocumentJob}
    (reads : entry.transition.call.operation = .getJob jobId tenantId)
    (answered : entry.transition.reply = .ok (.job answer))
    (succeeded : answer.state = .succeeded) :
    ∃ commit saved, answer.jobId.text = jobId ∧ saved.tenantId = answer.tenantId ∧
      saved.documentId = answer.documentId ∧ answer.version = some saved.version ∧
      commit ∈ history ∧ commit.transition.Appends saved ∧
      ∃ claim record, commit.transition.call.operation = .commitJob claim record ∧
        claim.job.jobId = answer.jobId := by
  obtain ⟨earlier, later, split⟩ := List.append_of_mem member
  obtain ⟨state, row, now, reached, rowMember, id, _, rfl⟩ :=
    row_of_receipt run split reads answered
  have fixed : ∀ transition ∈ earlier.map Entry.transition,
      transition.call.store.jobMaxAttempts = store.jobMaxAttempts := by
    intro transition there
    obtain ⟨other, otherMember, rfl⟩ := List.mem_map.mp there
    obtain ⟨_, _, _, _, _, _, _, called⟩ := vouched other (by simp [split, otherMember])
    rw [called]
    rfl
  have versioned := (((Run.soundRows initial reached fixed).rows row rowMember).succeeded
    succeeded).1
  obtain ⟨version, holds⟩ := Option.ne_none_iff_exists'.mp versioned
  obtain ⟨transition, there, claim, record, saved, commits, replied, sameJob, _, tenant, document,
    rfl⟩ := (Run.receipts initial reached).earned row rowMember version ⟨succeeded, holds⟩
  obtain ⟨commit, commitMember, rfl⟩ := List.mem_map.mp there
  exact ⟨commit, saved, id, tenant, document, holds, by simp [split, commitMember],
    ⟨.inl ⟨claim, record, commits⟩, replied⟩, claim, record, commits, sameJob⟩

end Histories

/-- A submission that is answered with a job that succeeded, as every synchronous
one is that is answered with 200: the text of its own body is stored, byte order
mark aside, as the version its receipt names, through some commit of its tenant;
and until the document is deleted that version reads back so. -/
theorem accepted_submission_is_stored {settings : TenantSettings} {store : SQLiteDocumentStore}
    (injective : Function.Injective store.sha256) {labels : List (Service.Label Answer Origin)}
    {world : Service.World Answer Origin ServerState (Except ServerError Response × Unit)}
    (run : Run (Service.Step (service settings store)) (.start .empty) labels world)
    {session : Service.Session Answer Origin (Except ServerError Response × Unit)}
    (member : session ∈ world.sessions) {request : HttpRequest}
    (arrived : session.origin = .http request) {status : Nat} {job : DocumentJob} {replayed : Bool}
    (ends : session.program = .done (.ok (.submission status job replayed), ()))
    (accepted : job.state = .succeeded ∨ request.route.background = false ∧ status = 200) :
    ∃ payload operation made key saved other submission commit,
      settings.Authenticated request.tenantHeader request.credentials saved.tenantId ∧
      Submission payload request.route operation made key ∧
      Traced settings world.state.history job.jobId saved other submission commit ∧
      saved.document.text = Utf8.unmarked payload.text ∧ saved.documentId = job.documentId ∧
      job.version = some saved.version ∧
      ∀ before after, world.state.history = before ++ commit :: after →
        (∀ entry ∈ after, ¬entry.transition.Deletes saved.tenantId saved.documentId) →
        SQLiteDocumentStore.get saved.tenantId saved.documentId (some saved.version)
          world.state.documents.db = .ok (saved, world.state.documents.db) := by
  have upheld := (sound settings store).run Shared.empty run
  obtain ⟨⟨first, initial, stored⟩, _, vouched⟩ := upheld.shared
  have told := upheld.finished member ends
  have recalls := (upheld.sessions session member).knows
  rw [arrived] at told
  obtain ⟨tenantId, authenticated, tenant, payload, operation, made, key, registered, submitted,
    registering, reporting, rfl⟩ := told
  have succeeded : job.state = .succeeded := by
    rcases accepted with succeeded | ⟨synchronous, ok⟩
    · exact succeeded
    · rw [synchronous] at ok
      exact statusOf_synchronous.mp ok
  obtain ⟨submitter, submitterMember, _, ⟨drawing, submits⟩, receipt⟩ :=
    recalls.answered _ registering
  obtain ⟨reporter, reporterMember, _, ⟨_, reads⟩, reported⟩ := recalls.answered _ reporting
  obtain ⟨commit, saved, about, owner, document, version, commitMember, appends, claim, record,
    commits, sameJob⟩ :=
    commit_of_receipt initial stored vouched reporterMember reads reported succeeded
  obtain ⟨earlier, later, split⟩ := List.append_of_mem commitMember
  obtain ⟨claim', record', other, submission, commits', traced⟩ :=
    traced_of_commit initial stored vouched split appends
  cases commits.symm.trans commits'
  rw [sameJob] at traced
  -- The request the job was registered for is the one of this session.
  obtain ⟨route, otherOperation, otherMade, otherKey, otherDrawing, _, otherSubmitted, _,
    otherSubmits, drawn, answer, registration⟩ := traced.submitted
  obtain ⟨front, between, back, ordered⟩ := traced.order
  have submissionMember : submission ∈ world.state.history := by simp [ordered]
  have earliest := submitted_of_entry initial stored submissionMember otherSubmits registration
  have mine := submitted_of_entry initial stored submitterMember submits receipt
  have same := request_of_job injective vouched mine.1 earliest.1
    ((Uuid4.ext_text about).symm.trans (drawn.symm.trans (earliest.2 rfl).symm))
  subst same
  refine ⟨payload, operation, made, key, saved, other, submission, commit,
    owner.trans tenant ▸ authenticated, submitted, traced, ?_, document, version, ?_⟩
  · rw [traced.text, text_of_routed otherSubmitted.routed submitted.routed]
  · intro before after cut spared
    refine (Chained.of_run initial stored).get_exact ?_
    refine ⟨before.map Entry.transition, commit.transition, after.map Entry.transition, ?_, appends,
      ?_⟩
    · rw [ServerState.trace, cut, List.map_append, List.map_cons]
    · intro deletion there
      obtain ⟨entry, entryMember, rfl⟩ := List.mem_map.mp there
      exact spared entry entryMember

/-- Whoever reads a version is told what a session of its own tenant submitted and
another one committed before: the version it asked for, or the latest one. -/
theorem read_document_provenance {settings : TenantSettings} {store : SQLiteDocumentStore}
    {labels : List (Service.Label Answer Origin)}
    {world : Service.World Answer Origin ServerState (Except ServerError Response × Unit)}
    (run : Run (Service.Step (service settings store)) (.start .empty) labels world)
    {session : Service.Session Answer Origin (Except ServerError Response × Unit)}
    (member : session ∈ world.sessions) {request : HttpRequest}
    (arrived : session.origin = .http request) {record : StoredDocumentVersion}
    (ends : session.program = .done (.ok (.version record), ())) :
    ∃ documentId exact jobId payload submission commit reading before after,
      request.route = .readDocument documentId exact ∧
      Uuid4.parse documentId = some record.documentId ∧
      settings.Authenticated request.tenantHeader request.credentials record.tenantId ∧
      world.state.history = before ++ reading :: after ∧ reading.origin = .http request ∧
      Traced settings before jobId record payload submission commit ∧
      record.version = (exact.map Int.toNat).getD
        (reading.transition.before.latest record.tenantId record.documentId) := by
  have upheld := (sound settings store).run Shared.empty run
  obtain ⟨⟨first, initial, stored⟩, _, vouched⟩ := upheld.shared
  have told := upheld.finished member ends
  have recalls := (upheld.sessions session member).knows
  rw [arrived] at told
  obtain ⟨tenantId, authenticated, tenant, documentId, id, exact, routed, parsed, reading⟩ := told
  obtain ⟨reader, readerMember, own, ⟨_, reads⟩, read⟩ := recalls.answered _ reading
  obtain ⟨before, after, split⟩ := List.append_of_mem readerMember
  obtain ⟨state, next, reached, step⟩ := step_of_member stored split
  have chained := Chained.of_run initial reached
  have performed := step.performed
  rw [step.before, read, reads] at performed
  have ran : (Operation.get tenantId id (exact.map Int.toNat)).body reader.transition.call.store
      reader.transition.call.clock state.db = .ok (.record record, reader.transition.after) :=
    perform_ok performed
  obtain ⟨⟨found, _⟩, got, same⟩ := Outcome.map_eq_ok.mp ran
  cases same
  rcases chained.get_cases tenantId id (exact.map Int.toNat) with
    ⟨saved, kept, _, document, version, answer⟩ | ⟨_, _, answer⟩ | ⟨answer, _⟩
  · obtain rfl : saved = found := congrArg Prod.fst (Except.ok.inj (answer.symm.trans got))
    obtain ⟨past, appending, rest, whole, appends, _⟩ := kept
    obtain ⟨earlier, commit, later, rfl, rfl, rfl, rfl⟩ := entry_of_split whole
    obtain ⟨claim, _, payload, submission, _, traced⟩ := traced_of_commit initial reached
      (fun entry there => vouched entry (by rw [split]; exact List.mem_append_left _ there))
      rfl appends
    refine ⟨documentId, exact, claim.job.jobId, payload, submission, commit, reader, _, after,
      routed, document ▸ parsed, tenant ▸ authenticated, split, own.trans arrived, traced, ?_⟩
    rw [step.before, tenant, document]
    exact version
  · rw [answer] at got
    cases got
  · rw [answer] at got
    cases got

namespace Sample

def answered : DocumentJob :=
  { jobId := Documents.Sample.job, tenantId := "acme", documentId := Documents.Sample.document
    operation := .create, state := .succeeded, version := some 1, attempts := 1, errorCode := none
    publicationConfirmed := false, leaseActive := false, resultAvailable := true }

end Sample

open Sample in
/-- The request of the sample was answered with 200, and its text is stored without
the mark in front of it. -/
theorem accepted_submission_is_stored_served : ∃ saved : StoredDocumentVersion,
    saved.document.text = Utf8.unmarked Documents.Sample.payload.text ∧
      answered.version = some saved.version := by
  have ends : session.program = .done (.ok (.submission 200 answered false), ()) :=
    Service.eq_done_of_value? (by decide +kernel)
  obtain ⟨payload, _, _, _, saved, _, _, _, _, submitted, _, text, _, version, _⟩ :=
    accepted_submission_is_stored (fun _ _ same => same) served_run (List.mem_singleton_self _)
      rfl ends (.inr ⟨rfl, rfl⟩)
  refine ⟨saved, ?_, version⟩
  have body : submissionBody Documents.Sample.payload "key" = some Documents.Sample.payload := by
    decide +kernel
  cases submitted with
  | create admitted _ =>
      rw [text, ← Option.some.inj (body.symm.trans admitted)]

namespace Sample

def reader : HttpRequest where
  tenantHeader := "acme"
  credentials := some "secret"
  route := .readDocument Documents.Sample.document.text none

def shown := Service.solo (respond reader) legal 20 served.2.2.1 (handle settings (.http reader))

def reading : Service.Session Answer Origin (Except ServerError Response × Unit) :=
  ⟨.http reader, shown.2.1, shown.1⟩

theorem shown_run : Run (Service.Step (service settings Documents.Sample.store)) (.start .empty)
    ((.arrive (.http request) :: served.1.map (.event 0)) ++
      .arrive (.http reader) :: shown.1.map (.event 1))
    { state := shown.2.2.1, sessions := [session, reading] } :=
  served_run.append
    ((Service.solo_alone (respond_answers reader) (by decide +kernel)).served [session])

end Sample

open Sample in
/-- The version that was read goes back to the request of the sample. -/
theorem read_document_provenance_served : ∃ jobId payload submission commit before,
    Traced Sample.settings before jobId Documents.Sample.version payload submission commit := by
  have ends : reading.program = .done (.ok (.version Documents.Sample.version), ()) :=
    Service.eq_done_of_value? (by decide +kernel)
  obtain ⟨_, _, jobId, payload, submission, commit, _, before, _, _, _, _, _, _, traced, _⟩ :=
    read_document_provenance shown_run (by simp) rfl ends
  exact ⟨jobId, payload, submission, commit, before, traced⟩

end Crewos.DocumentService

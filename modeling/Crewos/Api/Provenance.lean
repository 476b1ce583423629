import Crewos.Api.DocumentRuns

/-! # Provenance of stored versions

Each version in the database goes back, through the claim it was committed with
and the job that was claimed, to one authenticated request. -/

namespace Crewos.DocumentService

open Foundation Documents Api

/-- A version that a session committed for a job, of a body that an earlier session
of the same tenant submitted and the job was registered for. Its chunks are those that
the chunking makes of its text, and slices of it. -/
structure Traced (settings : TenantSettings) (history : List Entry) (jobId : Uuid4)
    (saved : StoredDocumentVersion) (payload : DocumentInput) (submission commit : Entry) :
    Prop where
  order : ∃ before between after, history = before ++ submission :: (between ++ commit :: after)
  submitter : submission.origin.Admitted settings saved.tenantId
  submitted : ∃ route operation request key drawing, submission.origin.route = some route ∧
    Submission payload route operation request key ∧
    settings.Grants saved.tenantId ("document." ++ operation.text) ∧
    submission.transition.call.operation =
      (StoreMethod.submitJob saved.tenantId request operation DocumentSubmissionFacade.options
        key).operation drawing ∧
    drawing.jobId = jobId ∧ ∃ answer, submission.transition.reply = .ok (.submission answer false)
  committer : commit.origin.Admitted settings saved.tenantId
  committed : ∃ claim record, commit.transition.call.operation = .commitJob claim record ∧
    claim.job.jobId = jobId ∧ commit.transition.reply = .ok (.record saved) ∧
    settings.Grants saved.tenantId ("document." ++ claim.job.operation.text)
  text : saved.document.text = Utf8.unmarked payload.text
  chunking : Chunked saved.document.text DocumentSubmissionFacade.options saved.chunking
  chunks : ChunkedText saved.document.text saved.chunking.chunks

theorem Submission.routed {payload : DocumentInput} {route : Route} {operation : JobOperation}
    {request : DocumentRequest} {key : String}
    (submission : Submission payload route operation request key) : Routed payload request := by
  cases submission with
  | create _ made => exact .create made
  | update _ _ made => exact .update made

theorem issued_origin {first state : DocumentState} {past : List Transition}
    (initial : Initial first) (run : Run Documents.Step first past state)
    {claim : DocumentJobClaim} (issued : claim ∈ state.issued) :
    ∃ before claiming between, past = before ++ claiming :: between ∧
      claiming.reply = .ok (.claim (some claim)) := by
  have origin := @Run.traced _ _ _ (fun past state => state.Valid ∧ ∀ claim ∈ state.issued,
      ∃ before claiming between, past = before ++ claiming :: between ∧
        claiming.reply = .ok (.claim (some claim))) ?_ _ _ _ run []
    ⟨.initial initial, by simp [initial.2]⟩
  · exact origin.2 claim issued
  · rintro past state transition next ⟨valid, known⟩ step
    refine ⟨valid.step step, fun claim member => ?_⟩
    rw [step.issued, List.mem_append] at member
    rcases member with old | new
    · obtain ⟨before, claiming, between, rfl, replied⟩ := known claim old
      exact ⟨before, claiming, between ++ [transition], by simp, replied⟩
    · exact ⟨past, transition, [], rfl, (step.issued_claim valid new).2.1⟩

theorem entry_of_split {history : List Entry} {before after : List Transition}
    {transition : Transition}
    (split : history.map Entry.transition = before ++ transition :: after) :
    ∃ earlier entry later, history = earlier ++ entry :: later ∧
      earlier.map Entry.transition = before ∧ entry.transition = transition ∧
      later.map Entry.transition = after := by
  obtain ⟨earlier, rest, rfl, same, shape⟩ := List.map_eq_append_iff.mp split
  obtain ⟨entry, later, rfl, here, following⟩ := List.map_eq_cons_iff.mp shape
  exact ⟨earlier, entry, later, rfl, same, here, following⟩

variable {settings : TenantSettings} {store : SQLiteDocumentStore}

theorem Entry.Vouched.committed {entry : Entry} (vouched : entry.Vouched settings store)
    {saved : StoredDocumentVersion} (appends : entry.transition.Appends saved) :
    ∃ claim record, entry.origin.Admitted settings claim.job.tenantId ∧
      entry.transition.call.operation = .commitJob claim record ∧
      settings.Grants claim.job.tenantId ("document." ++ claim.job.operation.text) ∧
      Processes claim record := by
  obtain ⟨tenantId, known, drawing, method, clock, admitted, authorised, called⟩ := vouched
  have performed : entry.transition.call.operation = method.operation drawing :=
    congrArg Call.operation called
  rcases appends.1 with ⟨claim, record, commits⟩ | ⟨record, creates⟩
  · rw [commits] at performed
    cases authorised with
    | commit held tenant granted processes =>
        cases performed
        exact ⟨claim, record, tenant ▸ admitted, commits, tenant ▸ granted, processes⟩
    | _ => cases performed
  · rw [creates] at performed
    cases authorised <;> cases performed

theorem Entry.Vouched.submitted {entry : Entry} (vouched : entry.Vouched settings store)
    {jobId : Uuid4} {form : SubmissionForm} (submits : entry.transition.Submits jobId form) :
    entry.origin.Admitted settings form.tenantId ∧
      ∃ payload route request key drawing, entry.origin.route = some route ∧
        Submission payload route form.operation request key ∧ form.raw = request.raw ∧
        form.options = DocumentSubmissionFacade.options ∧
        settings.Grants form.tenantId ("document." ++ form.operation.text) ∧
        entry.transition.call.operation =
          (StoreMethod.submitJob form.tenantId request form.operation
            DocumentSubmissionFacade.options key).operation drawing ∧
        drawing.jobId = jobId := by
  obtain ⟨tenantId, known, drawing, method, clock, admitted, authorised, called⟩ := vouched
  have performed : entry.transition.call.operation = method.operation drawing :=
    congrArg Call.operation called
  obtain ⟨⟨key, documentId, submits⟩, _⟩ := submits
  rw [submits] at performed
  cases authorised with
  | @submit payload route operation request key routed submission granted =>
      injection performed with tenant raw operation options keys document job
      subst tenant operation keys
      refine ⟨admitted, payload, route, request, _, drawing, routed, submission, raw, options,
        granted, ?_, job.symm⟩
      rw [submits, StoreMethod.operation, raw, options, document, job]
  | _ => cases performed

theorem handed_of_claim {first last : DocumentState} {past rest : List Transition}
    {claiming : Transition} (initial : Initial first)
    (run : Run Documents.Step first (past ++ claiming :: rest) last) {claim : DocumentJobClaim}
    (claimed : claiming.reply = .ok (.claim (some claim))) :
    (∃ submission ∈ past, ∃ form, submission.Submits claim.job.jobId form) ∧
      ∀ submission ∈ past, ∀ form, submission.Submits claim.job.jobId form →
        claim.job.tenantId = form.tenantId ∧ claim.options = form.options ∧
          ∀ request : DocumentRequest, form.raw = request.raw → claim.request = request := by
  obtain ⟨state, before, after⟩ := run.split
  have kept := Run.keptForms initial before
  cases after with
  | cons step _ =>
      obtain ⟨row, member, id, tenant, _, _, read⟩ := step.claims kept.valid claimed
      refine ⟨id ▸ kept.rows row member, fun submission earlier form submits => ?_⟩
      obtain ⟨other, otherMember, same, keeps⟩ := kept.known submission earlier _ form submits
      obtain rfl := DocumentDb.eq_of_id kept.valid.ids otherMember member (same.trans id.symm)
      obtain ⟨valid, options, _⟩ := keeps.read read
      refine ⟨tenant.trans keeps.tenant, options, fun request fields => ?_⟩
      rw [fields] at valid
      exact DocumentRequest.validate_raw valid

theorem text_of_commit {state next : DocumentState} {committing : Transition}
    {payload : DocumentInput} {request : DocumentRequest} {claim : DocumentJobClaim}
    {record saved : StoredDocumentVersion} (step : Documents.Step state committing next)
    (routed : Routed payload request) (same : claim.request = request)
    (processes : Processes claim record)
    (commits : committing.call.operation = .commitJob claim record)
    (succeeds : committing.reply = .ok (.record saved)) :
    saved.document.text = Utf8.unmarked payload.text ∧
      Chunked saved.document.text claim.options saved.chunking ∧
      ChunkedText saved.document.text saved.chunking.chunks := by
  have reaches := step.reaches_of_appends ⟨.inl ⟨claim, record, commits⟩, succeeds⟩
  have chunks := chunkedText_of_valid reaches.valid
  rw [Transition.Reaches, commits] at reaches
  obtain ⟨checked, checks, target, _⟩ := reaches
  have text : saved.document.text = record.document.text := by
    rw [claimedRecord_text target, validate_text checks]
  have chunking : saved.chunking = record.chunking := by
    rw [claimedRecord_chunking target, validate_chunking checks]
  refine ⟨text.trans (processes.text (same ▸ routed.content)), ?_, chunks⟩
  rw [text, chunking]
  exact processes.chunked

theorem traced_of_commit {first last : DocumentState} {history earlier later : List Entry}
    {commit : Entry} {saved : StoredDocumentVersion} (initial : Initial first)
    (stored : Run Documents.Step first (history.map Entry.transition) last)
    (vouched : ∀ entry ∈ history, entry.Vouched settings store)
    (split : history = earlier ++ commit :: later) (appends : commit.transition.Appends saved) :
    ∃ claim record payload submission, commit.transition.call.operation = .commitJob claim record ∧
      Traced settings history claim.job.jobId saved payload submission commit := by
  obtain ⟨claim, record, committer, commits, granted, processes⟩ :=
    (vouched commit (by simp [split])).committed appends
  -- The claim was handed out before the commit, and the job registered before that.
  have whole := stored
  rw [split, List.map_append, List.map_cons] at whole
  obtain ⟨state, reached, following⟩ := whole.split
  cases following with
  | cons step _ =>
      obtain ⟨past, claiming, between, handed, claimed⟩ :=
        issued_origin initial reached (step.presented claim (by rw [commits]; rfl))
      have performed := step.performed
      rw [appends.2, commits] at performed
      have tenant : saved.tenantId = claim.job.tenantId :=
        @perform_describes _ _ _ _ ⟨claim.job.jobId, claim.job.jobId, claim.token⟩
          (.commitJob claim record) _ performed
      have ordered : history.map Entry.transition = past ++ claiming ::
          (between ++ commit.transition :: later.map Entry.transition) := by
        rw [split, List.map_append, List.map_cons, handed]
        simp
      rw [ordered] at stored
      obtain ⟨⟨registered, known, form, submits⟩, handedOut⟩ :=
        handed_of_claim initial stored claimed
      obtain ⟨sameTenant, sameOptions, sameRequest⟩ := handedOut registered known form submits
      obtain ⟨front, back, rfl⟩ := List.append_of_mem known
      obtain ⟨before, submission, middle, rfl, _, rfl, _⟩ := entry_of_split
        (handed.trans (List.append_assoc front (registered :: back) (claiming :: between)))
      obtain ⟨submitter, payload, route, request, key, drawing, routed, made, raw, options,
        allowed, submitting, drawn⟩ := (vouched submission (by simp [split])).submitted submits
      obtain ⟨text, chunking, chunks⟩ :=
        text_of_commit step made.routed (sameRequest _ raw) processes
        commits appends.2
      have owner : saved.tenantId = form.tenantId := tenant.trans sameTenant
      refine ⟨claim, record, payload, submission, commits, ?_⟩
      exact
        { order := ⟨before, middle, later, by rw [split]; simp⟩
          submitter := owner ▸ submitter
          submitted := ⟨route, form.operation, request, key, drawing, routed, made,
            owner ▸ allowed, owner ▸ submitting, drawn, submits.2⟩
          committer := tenant ▸ committer
          committed := ⟨claim, record, commits, rfl, appends.2, tenant ▸ granted⟩
          text
          chunking := options ▸ sameOptions ▸ chunking
          chunks }

section Runs

variable {labels : List (Service.Label Answer Origin)}
  {world : Service.World Answer Origin ServerState (Except ServerError Response × Unit)}

theorem traced_of_run
    (run : Run (Service.Step (service settings store)) (.start .empty) labels world)
    {saved : StoredDocumentVersion} (member : .of saved ∈ world.state.documents.db.versions) :
    ∃ jobId payload submission commit,
      Traced settings world.state.history jobId saved payload submission commit := by
  have shared := ((sound settings store).run Shared.empty run).shared
  obtain ⟨first, initial, stored⟩ := shared.run
  have vouched := shared.vouched
  obtain ⟨other, _, same, past, appending, rest, split, appends, _⟩ :=
    (Chained.of_run initial stored).rows _ member
  obtain rfl := VersionRow.of_injective same
  obtain ⟨earlier, commit, later, history, rfl, rfl, rfl⟩ := entry_of_split split
  obtain ⟨claim, record, payload, submission, _, traced⟩ :=
    traced_of_commit initial stored vouched history appends
  exact ⟨claim.job.jobId, payload, submission, commit, traced⟩

/-- Every version in the database was submitted, byte order mark aside, by an
authenticated request of its tenant with the grant to do so, and was committed
later by a session of the same tenant with that grant; its chunks are those that the
chunking makes of that text. -/
theorem stored_version_provenance
    (run : Run (Service.Step (service settings store)) (.start .empty) labels world)
    {row : VersionRow} (member : row ∈ world.state.documents.db.versions) :
    ∃ saved jobId payload submission commit, row = .of saved ∧
      Traced settings world.state.history jobId saved payload submission commit := by
  obtain ⟨first, initial, stored⟩ := ((sound settings store).run Shared.empty run).shared.run
  obtain ⟨saved, _, rfl, _⟩ := (Chained.of_run initial stored).rows row member
  obtain ⟨jobId, payload, submission, commit, traced⟩ := traced_of_run run member
  exact ⟨saved, jobId, payload, submission, commit, rfl, traced⟩

open Sample in
/-- The version of the sample goes back to its request. -/
theorem stored_version_provenance_served : ∃ saved jobId payload submission commit,
    saved.document.text = "hi" ∧
      Traced Sample.settings Sample.world.state.history jobId saved payload submission commit := by
  have stored : VersionRow.of Documents.Sample.version ∈
      Sample.world.state.documents.db.versions := by decide +kernel
  obtain ⟨saved, jobId, payload, submission, commit, same, traced⟩ :=
    stored_version_provenance served_run stored
  rw [← VersionRow.of_injective same] at traced
  exact ⟨_, jobId, payload, submission, commit, by decide +kernel, traced⟩

end Runs

end Crewos.DocumentService

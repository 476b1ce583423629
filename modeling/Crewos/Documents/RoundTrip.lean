import Crewos.Documents.JobRows
import Crewos.Documents.Submission

/-! # Job payloads over histories

What an attempt is handed is what was submitted, whatever was called between the
submission and the attempt, and by whichever store. -/

namespace Crewos.Documents

open Foundation SQLiteDocumentStore

def DocumentRequest.raw : DocumentRequest → RawRequest
  | .ingestion request =>
      { content := request.content, title := request.title.value
        sourceRef := request.sourceRef.map TextField.value, target := none }
  | .update request =>
      { content := request.content, title := request.title.value
        sourceRef := request.sourceRef.map TextField.value
        target := some (request.documentId, request.expectedVersion) }

theorem DocumentRequest.validate_raw {request checked : DocumentRequest}
    {operation : JobOperation} (valid : request.raw.validate operation = .ok checked) :
    checked = request := by
  cases request with
  | ingestion request =>
      cases operation with
      | create =>
          simp only [RawRequest.validate, DocumentRequest.raw,
            DocumentIngestionRequest.validate_self, Outcome.bind_eq_ok, Outcome.pure_eq_ok,
            Except.ok.injEq] at valid
          obtain ⟨_, _, _, rfl, rfl⟩ := valid
          rfl
      | update => cases valid
  | update request =>
      cases operation with
      | create => simp [RawRequest.validate, DocumentRequest.raw, raiseWhen] at valid
      | update =>
          simp only [RawRequest.validate, DocumentRequest.raw,
            DocumentUpdateRequest.validate_self, Outcome.bind_eq_ok, Outcome.pure_eq_ok,
            Except.ok.injEq] at valid
          obtain ⟨_, _, _, rfl, rfl⟩ := valid
          rfl

structure SubmissionForm where
  tenantId : String
  raw : RawRequest
  operation : JobOperation
  options : ChunkingOptions

/-- The call registered a new job for the form. -/
def Transition.Submits (transition : Transition) (jobId : Uuid4) (form : SubmissionForm) : Prop :=
  (∃ key documentId, transition.call.operation = .submitJob form.tenantId form.raw
    form.operation form.options key documentId jobId) ∧
  ∃ job, transition.reply = .ok (.submission job false)

/-- The row still says what the form said. -/
structure JobRow.Keeps (row : JobRow) (form : SubmissionForm) : Prop where
  tenant : row.tenant = form.tenantId
  operation : row.operation = form.operation
  options : row.options = form.options.dump
  request : ∃ request, form.raw.validate form.operation = .ok request ∧
    SQLiteDocumentStore.target request row.documentId = row.documentId ∧
    (row.payload = none ∨ row.payload = some request.payload)

theorem JobRow.Keeps.change {row after : JobRow} {form : SubmissionForm}
    {store : SQLiteDocumentStore} {clock : Clock} {operation : Operation} {reply : Reply}
    (keeps : row.Keeps form) (change : RowChange store clock operation reply row after) :
    after.Keeps form := by
  obtain ⟨_, tenant, document, sameOperation, options⟩ := change.columns
  obtain ⟨request, valid, target, payload⟩ := keeps.request
  refine ⟨tenant.trans keeps.tenant, sameOperation.trans keeps.operation,
    options.trans keeps.options, request, valid, document ▸ target, ?_⟩
  rcases change.payload with cleared | same
  · exact .inl cleared
  · exact same ▸ payload

theorem JobRow.Keeps.read {row : JobRow} {form : SubmissionForm} (keeps : row.Keeps form)
    {request : DocumentRequest} {options : ChunkingOptions}
    (ok : readRow row = .ok (request, options)) :
    form.raw.validate form.operation = .ok request ∧ options = form.options ∧
      SQLiteDocumentStore.target request row.documentId = row.documentId := by
  obtain ⟨again, _⟩ := readRow_ok ok
  obtain ⟨submitted, valid, target, cleared | waiting⟩ := keeps.request
  · rw [cleared, readJob_none] at again
    cases again
  · have operation : submitted.operation = row.operation :=
      (RawRequest.validate_operation valid).trans keeps.operation.symm
    rw [waiting, ← operation, keeps.options, readJob_payload] at again
    cases again
    exact ⟨valid, rfl, target⟩

/-! ## Every row -/

/-- Every row keeps the form it was registered for, and waits with its source. -/
structure KeptForms (past : List Transition) (state : DocumentState) : Prop where
  valid : state.Valid
  rows : ∀ row ∈ state.db.jobs, ∃ submission ∈ past, ∃ form, submission.Submits row.id form
  known : ∀ submission ∈ past, ∀ jobId form, submission.Submits jobId form →
    ∃ row ∈ state.db.jobs, row.id = jobId ∧ row.Keeps form
  waiting : ∀ row ∈ state.db.jobs, row.state = .queued → row.payload ≠ none

theorem KeptForms.initial {state : DocumentState} (initial : Initial state) :
    KeptForms [] state := by
  refine ⟨.initial initial, ?_, by simp, ?_⟩ <;> simp [initial.1, DocumentDb.empty]

theorem Transition.Submits.row {state next : DocumentState} {transition : Transition}
    {jobId : Uuid4} {form : SubmissionForm} (submits : transition.Submits jobId form)
    (step : Step state transition next) :
    ∃ row ∈ next.db.jobs, row.id = jobId ∧ row.Keeps form := by
  obtain ⟨⟨key, documentId, operation⟩, job, answered⟩ := submits
  have performed := step.performed
  rw [operation, answered] at performed
  obtain ⟨request, accepted, ⟨replayed, _⟩ | ⟨_, unused, fresh⟩⟩ :=
    perform_submit_ok (congrArg Prod.fst performed)
  · cases replayed
  · rw [perform_submit_unused accepted unused fresh] at performed
    have rows : next.db = _ := step.db.trans (congrArg Prod.snd performed).symm
    refine ⟨_, by rw [rows]; exact List.mem_append_right _ (List.mem_singleton_self _), rfl, rfl,
      RawRequest.validate_operation accepted.request, rfl, request, accepted.request, ?_,
      .inr rfl⟩
    cases request <;> rfl

theorem Step.submits {state next : DocumentState} {transition : Transition}
    (valid : state.Valid) (step : Step state transition next) {row : JobRow}
    (member : row ∈ next.db.jobs) (fresh : ∀ old ∈ state.db.jobs, old.id ≠ row.id) :
    ∃ form, transition.Submits row.id form := by
  rw [step.db] at member
  rcases step.effect valid.ids with ⟨reply, answered, effect⟩ | ⟨error, _, same⟩
  · obtain ⟨change, added, jobs, changes, adds⟩ := effect.jobs
    rw [step.before] at jobs changes
    rw [jobs, List.mem_append] at member
    rcases member with old | new
    · obtain ⟨before, beforeMember, rfl⟩ := List.mem_map.mp old
      exact absurd (changes before beforeMember).columns.1.symm (fresh before beforeMember)
    · generalize called : transition.call.operation = operation at adds
      cases adds with
      | nothing => cases new
      | registered =>
          rw [List.mem_singleton] at new
          subst new
          exact ⟨⟨_, _, _, _⟩, ⟨_, _, called⟩, _, answered⟩
  · rw [same, step.before] at member
    exact absurd rfl (fresh row member)

theorem RowChange.waiting {row after : JobRow} {store : SQLiteDocumentStore} {clock : Clock}
    {operation : Operation} {reply : Reply}
    (change : RowChange store clock operation reply row after)
    (waiting : row.state = .queued → row.payload ≠ none) :
    after.state = .queued → after.payload ≠ none := by
  intro queued
  cases change with
  | kept => exact waiting queued
  | limited => cases queued
  | claimed => cases queued
  | committed => cases queued
  | failed => cases queued
  | retried _ _ payload => exact payload
  | published => exact waiting queued
  | fenced =>
      simp only [JobRow.fenced] at queued
      split at queued
      · rename_i done
        rw [done] at queued
        cases queued
      · cases queued

theorem KeptForms.step {past : List Transition} {state next : DocumentState}
    {transition : Transition} (kept : KeptForms past state)
    (step : Step state transition next) : KeptForms (past ++ [transition]) next := by
  have valid := kept.valid
  refine ⟨valid.step step, ?rows, ?known, ?waiting⟩
  case rows =>
    intro row member
    by_cases known : ∃ old ∈ state.db.jobs, old.id = row.id
    · obtain ⟨old, oldMember, same⟩ := known
      obtain ⟨submission, earlier, form, submits⟩ := kept.rows old oldMember
      exact ⟨submission, List.mem_append_left _ earlier, form, same ▸ submits⟩
    · have fresh : ∀ old ∈ state.db.jobs, old.id ≠ row.id := by
        intro old oldMember same
        exact known ⟨old, oldMember, same⟩
      exact ⟨transition, List.mem_append_right _ (List.mem_singleton_self _),
        step.submits valid member fresh⟩
  case known =>
    intro submission member jobId form submits
    rw [List.mem_append, List.mem_singleton] at member
    rcases member with earlier | rfl
    · obtain ⟨row, rowMember, id, keeps⟩ := kept.known submission earlier jobId form submits
      rw [step.db]
      rcases step.effect valid.ids with ⟨reply, _, effect⟩ | ⟨error, _, same⟩
      · rw [step.before] at effect
        obtain ⟨after, afterMember, change⟩ := effect.row_after rowMember
        exact ⟨after, afterMember, change.columns.1.trans id, keeps.change change⟩
      · rw [same, step.before]
        exact ⟨row, rowMember, id, keeps⟩
    · exact submits.row step
  case waiting =>
    intro row member
    rcases step.row_of_mem valid member with ⟨old, oldMember, _, _, change⟩ | ⟨old, _⟩ |
      ⟨_, _, _, _, _, _, _, rfl⟩
    · exact change.waiting (kept.waiting old oldMember)
    · exact kept.waiting row old
    · intro _ cleared
      cases cleared

theorem Run.keptForms {first last : DocumentState} {trace : List Transition}
    (initial : Initial first) (run : Run Step first trace last) : KeptForms trace last := by
  have kept := run.traced (fun _ _ _ _ kept step => kept.step step) (KeptForms.initial initial)
  simpa using kept

/-! ## Claims -/

theorem Step.claims {state next : DocumentState} {transition : Transition}
    {claim : DocumentJobClaim} (valid : state.Valid) (step : Step state transition next)
    (answered : transition.reply = .ok (.claim (some claim))) :
    ∃ row ∈ state.db.jobs, row.id = claim.job.jobId ∧ claim.job.tenantId = row.tenant ∧
      claim.job.documentId = row.documentId ∧ claim.job.operation = row.operation ∧
      readRow row = .ok (claim.request, claim.options) := by
  rcases step.effect valid.ids with ⟨reply, returned, effect⟩ | ⟨error, raised, _⟩
  · rw [returned, Except.ok.injEq] at answered
    subst answered
    rw [step.before] at effect
    obtain ⟨⟨row, member, id⟩, _, _, _, called⟩ := effect.claims claim rfl
    obtain ⟨after, _, change⟩ := effect.row_after member
    rw [called] at change
    cases change with
    | kept spared => exact absurd id spared
    | claimed _ _ read _ tenant document operation =>
        exact ⟨row, member, id, tenant, document, operation, read⟩
  · rw [raised] at answered
    cases answered

/-- In every history a claim was preceded by the registration of its job, and it
hands out what that registration submitted; no attempt finds its job corrupt. -/
theorem claim_returns_submission {first last : DocumentState} {past rest : List Transition}
    {claiming : Transition} (initial : Initial first)
    (run : Run Step first (past ++ claiming :: rest) last) :
    (∀ claim, claiming.reply = .ok (.claim (some claim)) →
      (∃ submission ∈ past, ∃ form, submission.Submits claim.job.jobId form) ∧
      ∀ submission ∈ past, ∀ form, submission.Submits claim.job.jobId form →
        form.raw.validate form.operation = .ok claim.request ∧
        (∀ request : DocumentRequest, form.raw = request.raw → claim.request = request) ∧
        claim.options = form.options ∧ claim.job.tenantId = form.tenantId ∧
        claim.job.operation = form.operation ∧
        ∀ update, claim.request = .update update → update.documentId = claim.job.documentId) ∧
    ∀ jobId tenantId token, claiming.call.operation = .claimJob jobId tenantId token →
      ∀ message, claiming.reply ≠ .error (.documentStorageCorruption message) := by
  obtain ⟨state, before, after⟩ := run.split
  have kept := Run.keptForms initial before
  cases after with
  | cons step _ =>
      refine ⟨fun claim answered => ?_, fun jobId tenantId token called message corrupt => ?_⟩
      · obtain ⟨row, member, id, tenant, document, operation, read⟩ :=
          step.claims kept.valid answered
        refine ⟨?_, fun submission earlier form submits => ?_⟩
        · rw [← id]
          exact kept.rows row member
        · obtain ⟨other, otherMember, same, keeps⟩ :=
            kept.known submission earlier _ form submits
          obtain rfl := DocumentDb.eq_of_id kept.valid.ids otherMember member (same.trans id.symm)
          obtain ⟨valid, options, target⟩ := keeps.read read
          refine ⟨valid, ?_, options, tenant.trans keeps.tenant, operation.trans keeps.operation,
            ?_⟩
          · intro request fields
            rw [fields] at valid
            exact DocumentRequest.validate_raw valid
          · intro update isUpdate
            rw [isUpdate] at target
            exact target.trans document.symm
      · have performed := step.performed
        rw [called, corrupt, step.before] at performed
        simp only [Operation.perform, Operation.body] at performed
        cases ran : claiming.call.store.claimJob jobId tenantId token claiming.call.clock
            state.db with
        | ok out => simp [ran, Functor.map, Except.map] at performed
        | error error =>
            have healthy := claimJob_not_corrupt kept.valid.rows kept.waiting
              claiming.call.store jobId tenantId token claiming.call.clock ran message
            simp only [ran, Functor.map, Except.map, Prod.mk.injEq, Except.error.injEq]
              at performed
            exact healthy performed.1

/-! The sample job fails, and a reopened store retries and claims it. -/

namespace Sample

def fail : Call := .instant store 2 (.failJob (claimed.issued.head claimed_issued) "Parse")

def stopped : DocumentState := claimed.next fail

def reopened : SQLiteDocumentStore :=
  { store with jobLeaseSeconds := 60, leasePositive := by decide }

def retry : Call := .instant reopened 3 (.retryJob job.text "acme")

def waiting : DocumentState := stopped.next retry

def reclaim : Call := .instant reopened 4 (.claimJob job.text "acme" "later")

def reclaimed : DocumentState := waiting.next reclaim

def later : DocumentJobClaim := reclaimed.issued.getLast (by decide +kernel)

def retries : List Transition :=
  [.of start.db submit, .of submitted.db claim, .of claimed.db fail, .of stopped.db retry]

theorem reclaimed_run :
    Run Step start (retries ++ [.of waiting.db reclaim]) reclaimed := by
  have submits : Step start (.of start.db submit) submitted :=
    .of_call start submit (by simp [submit, Call.instant, Operation.presented])
  have claims : Step submitted (.of submitted.db claim) claimed :=
    .of_call submitted claim (by simp [claim, Call.instant, Operation.presented])
  have fails : Step claimed (.of claimed.db fail) stopped := by
    refine .of_call claimed fail ?_
    simp [fail, Call.instant, Operation.presented]
  have requeues : Step stopped (.of stopped.db retry) waiting :=
    .of_call stopped retry (by simp [retry, Call.instant, Operation.presented])
  have reclaims : Step waiting (.of waiting.db reclaim) reclaimed :=
    .of_call waiting reclaim (by simp [reclaim, Call.instant, Operation.presented])
  exact .cons submits (.cons claims (.cons fails (.cons requeues (.single reclaims))))

end Sample

open Sample in
/-- The second attempt of the sample job is handed the submitted request. -/
theorem claim_returns_submission_retried :
    later.request = Sample.request ∧ later.options = {} ∧ later.job.attempts = 2 := by
  have answered : (Transition.of waiting.db reclaim).reply = .ok (.claim (some later)) := by
    decide +kernel
  have submits : (Transition.of start.db submit).Submits later.job.jobId
      ⟨"acme", source, .create, {}⟩ :=
    ⟨⟨"key", document, by
      rw [show later.job.jobId = Sample.job by decide +kernel]
      rfl⟩, Sample.receipt, by decide +kernel⟩
  obtain ⟨_, same, options, _⟩ :=
    ((claim_returns_submission ⟨rfl, rfl⟩ reclaimed_run).1 later answered).2 _
      (List.mem_cons_self) _ submits
  exact ⟨same Sample.request (by decide +kernel), options, by decide +kernel⟩

end Crewos.Documents

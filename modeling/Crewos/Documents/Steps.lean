import Crewos.Documents.Store

/-! # What each document operation can do

For every operation that returned, what it checked and what it wrote. `Effect`
collects these once; everything later is derived from it. -/

namespace Crewos.Documents

open Foundation

namespace SQLiteDocumentStore

variable {store : SQLiteDocumentStore} {db next : DocumentDb} {clock : Clock}
  {jobId tenantId token : String} {row : JobRow}

theorem jobRow_ok (ok : jobRow db jobId tenantId = .ok row) :
    row ∈ db.jobs ∧ row.id.text = jobId ∧ row.tenant = tenantId := by
  unfold jobRow at ok
  split at ok
  · rename_i found
    cases ok
    have selected := List.find?_some found
    simp only [decide_eq_true_eq] at selected
    exact ⟨List.mem_of_find?_eq_some found, selected.1, selected.2⟩
  · cases ok

theorem attemptActive_ok {now : Time} {active : Bool} (ok : attemptActive row now = .ok active) :
    row.state = .running ∧ (∃ leaseUntil, row.leaseUntil = some leaseUntil ∧
      active = decide (now < leaseUntil)) ∨ row.state ≠ .running ∧ active = false := by
  unfold attemptActive at ok
  split at ok
  · rename_i running
    unfold leaseAfter at ok
    split at ok
    · rename_i leaseUntil set
      cases ok
      exact .inl ⟨running, leaseUntil, set, rfl⟩
    · cases ok
  · rename_i idle
    cases ok
    exact .inr ⟨idle, rfl⟩

theorem readRow_ok {request : DocumentRequest} {options : ChunkingOptions}
    (ok : readRow row = .ok (request, options)) :
    readJob row.operation row.payload row.options = .ok (request, options) ∧
      ¬(row.operation = .update ∧ target request row.documentId ≠ row.documentId) := by
  simp only [readRow, Outcome.bind_eq_ok, raiseWhen_eq_ok, Outcome.pure_eq_ok] at ok
  obtain ⟨⟨_, _⟩, read, _, same, equal⟩ := ok
  cases equal
  exact ⟨read, same⟩

theorem submitJob_ok {raw : RawRequest} {operation : JobOperation} {options : ChunkingOptions}
    {key : String} {documentId drawn : Uuid4} {job : DocumentJob} {replayed : Bool}
    (ok : store.submitJob tenantId raw operation options key documentId drawn clock db =
      .ok ((job, replayed), next)) :
    ∃ request, raw.validate operation = .ok request ∧
      ((replayed = true ∧ next = db) ∨
        (replayed = false ∧ (∀ old ∈ db.jobs, old.id ≠ drawn) ∧
          next = { db with jobs := db.jobs ++ [store.newJob tenantId request options key
            (target request documentId) drawn (clock 0)] })) := by
  simp only [submitJob, Outcome.bind_eq_ok, raiseWhen_eq_ok] at ok
  obtain ⟨_, _, request, valid, _, _, ok⟩ := ok
  refine ⟨request, valid, ?_⟩
  split at ok
  · simp only [Outcome.bind_eq_ok, raiseWhen_eq_ok, Outcome.pure_eq_ok, Prod.mk.injEq] at ok
    obtain ⟨_, _, ⟨-, rfl⟩, rfl⟩ := ok
    exact .inl ⟨rfl, rfl⟩
  · simp only [Outcome.bind_eq_ok, raiseWhen_eq_ok, Outcome.pure_eq_ok, Prod.mk.injEq] at ok
    obtain ⟨_, fresh, _, _, ⟨-, rfl⟩, rfl⟩ := ok
    exact .inr ⟨rfl, fun old member same => fresh ⟨old, member, same⟩, rfl⟩

theorem startAttempt_ok {claim : DocumentJobClaim}
    (ok : store.startAttempt row token clock db = .ok (claim, next)) :
    ∃ request options read, readRow row = .ok (request, options) ∧ read ∈ next.jobs ∧
      read.id.text = row.id.text ∧
      claim = { job := job next read (clock 3), request, options, token } ∧
      next = db.updateJob row.id fun row =>
        row.claimed token (clock 1 + store.jobLeaseSeconds) (clock 2) := by
  simp only [startAttempt, Outcome.bind_eq_ok, Outcome.pure_eq_ok, Prod.mk.injEq] at ok
  obtain ⟨⟨request, options⟩, read, again, found, rfl, rfl⟩ := ok
  obtain ⟨member, same, _⟩ := jobRow_ok found
  exact ⟨request, options, again, read, member, same, rfl, rfl⟩

/-- The states a claim starts from. -/
def Idle (row : JobRow) (now : Time) : Prop :=
  row.state = .queued ∨
    row.state = .running ∧ ∃ leaseUntil, row.leaseUntil = some leaseUntil ∧ leaseUntil ≤ now

theorem claimJob_ok {claim : Option DocumentJobClaim}
    (ok : store.claimJob jobId tenantId token clock db = .ok (claim, next)) :
    ∃ row ∈ db.jobs, row.id.text = jobId ∧ row.tenant = tenantId ∧
      ((claim = none ∧ next = db) ∨
        (Idle row (clock 0) ∧ store.jobMaxAttempts ≤ row.attempts ∧ claim = none ∧
          next = db.updateJob row.id JobRow.limited) ∨
        (Idle row (clock 0) ∧ row.attempts < store.jobMaxAttempts ∧
          ∃ started, claim = some started ∧
            store.startAttempt row token clock db = .ok (started, next))) := by
  simp only [claimJob, Outcome.bind_eq_ok] at ok
  obtain ⟨row, found, ok⟩ := ok
  obtain ⟨member, id, tenant⟩ := jobRow_ok found
  refine ⟨row, member, id, tenant, ?_⟩
  split at ok
  · simp only [Outcome.pure_eq_ok, Prod.mk.injEq] at ok
    exact .inl ⟨ok.1.symm, ok.2.symm⟩
  · rename_i notDone
    simp only [Outcome.bind_eq_ok, raiseWhen_eq_ok] at ok
    obtain ⟨active, lease, _, free, ok⟩ := ok
    have idle : Idle row (clock 0) := by
      rcases attemptActive_ok lease with ⟨running, leaseUntil, set, rfl⟩ | ⟨notRunning, _⟩
      · exact .inr ⟨running, leaseUntil, set, by simpa using free⟩
      · left
        cases state : row.state <;> simp_all
    split at ok
    · rename_i reached
      simp only [Outcome.pure_eq_ok, Prod.mk.injEq] at ok
      exact .inr (.inl ⟨idle, reached, ok.1.symm, ok.2.symm⟩)
    · rename_i below
      simp only [Outcome.bind_eq_ok, Outcome.pure_eq_ok, Prod.mk.injEq] at ok
      obtain ⟨⟨started, _⟩, start, rfl, rfl⟩ := ok
      exact .inr (.inr ⟨idle, not_le.mp below, started, rfl, start⟩)

theorem append_ok {record : StoredDocumentVersion} (ok : append db record = .ok next) :
    record.version = db.latest record.tenantId record.documentId + 1 ∧
      record.version < 2 ^ 63 ∧ next = { db with versions := db.versions ++
        [{ tenantId := record.tenantId, documentId := record.documentId,
           version := record.version, snapshot := record.dump }] } := by
  simp only [append, Outcome.bind_eq_ok, raiseWhen_eq_ok, Outcome.pure_eq_ok] at ok
  obtain ⟨_, _, _, version, _, bounded, rfl⟩ := ok
  exact ⟨not_not.mp version, not_le.mp bounded, rfl⟩

theorem validate_identity {record saved : StoredDocumentVersion}
    (ok : record.validate = .ok saved) :
    saved.tenantId = record.tenantId ∧ saved.documentId = record.documentId ∧
      saved.version = record.version := by
  simp only [StoredDocumentVersion.validate, Outcome.bind_eq_ok, Outcome.pure_eq_ok] at ok
  obtain ⟨_, _, _, _, _, _, _, _, _, _, _, _, _, _, rfl⟩ := ok
  exact ⟨rfl, rfl, rfl⟩

theorem claimedRecord_ok {claim : DocumentJobClaim} {record saved : StoredDocumentVersion}
    (ok : claimedRecord claim record = .ok saved) (valid : record.validate = .ok record) :
    saved.tenantId = claim.job.tenantId ∧ saved.documentId = claim.job.documentId ∧
      saved.validate = .ok saved := by
  simp only [claimedRecord, Outcome.bind_eq_ok, raiseWhen_eq_ok] at ok
  obtain ⟨_, tenant, ok⟩ := ok
  split at ok
  · simp only [Outcome.bind_eq_ok, raiseWhen_eq_ok] at ok
    obtain ⟨_, _, ok⟩ := ok
    obtain ⟨sameTenant, sameDocument, _⟩ := validate_identity ok
    exact ⟨sameTenant.trans (not_not.mp tenant), sameDocument,
      StoredDocumentVersion.validate_idem ok⟩
  · simp only [Outcome.bind_eq_ok, raiseWhen_eq_ok, Outcome.pure_eq_ok] at ok
    obtain ⟨_, document, rfl⟩ := ok
    exact ⟨not_not.mp tenant, not_not.mp document, valid⟩

/-- The claim runs the job under a lease that is live at `now`. -/
structure OwnedJob (claim : DocumentJobClaim) (row : JobRow) (now : Time) : Prop where
  id : row.id = claim.job.jobId
  tenant : row.tenant = claim.job.tenantId
  running : row.state = .running
  held : row.token = some claim.token
  live : ∃ leaseUntil, row.leaseUntil = some leaseUntil ∧ now < leaseUntil

theorem ownedJob_ok {claim : DocumentJobClaim} {now : Time}
    (ok : ownedJob db claim now = .ok row) : row ∈ db.jobs ∧ OwnedJob claim row now := by
  simp only [ownedJob, Outcome.bind_eq_ok, raiseWhen_eq_ok, Outcome.pure_eq_ok] at ok
  obtain ⟨found, read, _, owned, active, lease, _, live, rfl⟩ := ok
  obtain ⟨member, id, tenant⟩ := jobRow_ok read
  push Not at owned
  refine ⟨member, Uuid4.ext_text id, tenant, owned.1, owned.2, ?_⟩
  unfold leaseAfter at lease
  split at lease
  · rename_i leaseUntil set
    cases lease
    exact ⟨leaseUntil, set, by simpa using live⟩
  · cases lease

theorem commitJob_ok {claim : DocumentJobClaim} {record saved : StoredDocumentVersion}
    (ok : commitJob claim record clock db = .ok (saved, next)) :
    ∃ row ∈ db.jobs, OwnedJob claim row (clock 0) ∧
      saved.tenantId = claim.job.tenantId ∧ saved.documentId = claim.job.documentId ∧
      expectedRevision claim = .ok saved.version ∧
      saved.version = db.latest saved.tenantId saved.documentId + 1 ∧
      (saved.validate = .ok saved ∧ saved.version < 2 ^ 63) ∧
      next = { versions := db.versions ++
                [{ tenantId := saved.tenantId, documentId := saved.documentId,
                   version := saved.version, snapshot := saved.dump }],
               jobs := (db.updateJob row.id fun row =>
                row.succeeded saved.version (clock 1)).jobs } := by
  simp only [commitJob, Outcome.bind_eq_ok, raiseWhen_eq_ok, Outcome.pure_eq_ok,
    Prod.mk.injEq] at ok
  obtain ⟨_, checked, stored, target, expected, revision, _, version, row, own, appended, append,
    rfl, rfl⟩ := ok
  obtain ⟨member, owned⟩ := ownedJob_ok own
  obtain ⟨tenant, document, valid⟩ :=
    claimedRecord_ok target (StoredDocumentVersion.validate_idem checked)
  obtain ⟨following, bounded, rfl⟩ := append_ok append
  refine ⟨row, member, owned, tenant, document, ?_, following, ⟨valid, bounded⟩, rfl⟩
  rw [revision, not_not.mp version]

theorem retryJob_ok {answer : DocumentJob}
    (ok : store.retryJob jobId tenantId clock db = .ok (answer, next)) :
    ∃ row ∈ db.jobs, row.id.text = jobId ∧ row.tenant = tenantId ∧
      (next = db ∨ (row.state ≠ .succeeded ∧ row.attempts < store.jobMaxAttempts ∧
        row.payload ≠ none ∧
        attemptActive row (clock 0) = .ok false ∧
        next = db.updateJob row.id fun row => row.requeued (clock 1))) := by
  simp only [retryJob, Outcome.bind_eq_ok] at ok
  obtain ⟨row, found, ok⟩ := ok
  obtain ⟨member, id, tenant⟩ := jobRow_ok found
  refine ⟨row, member, id, tenant, ?_⟩
  split at ok
  · simp only [Outcome.pure_eq_ok, Prod.mk.injEq] at ok
    exact .inl ok.2.symm
  · simp only [Outcome.bind_eq_ok, raiseWhen_eq_ok, Outcome.pure_eq_ok, Prod.mk.injEq] at ok
    obtain ⟨active, lease, _, allowed, _, _, -, rfl⟩ := ok
    push Not at allowed
    obtain ⟨open_, free, attempts, payload⟩ := allowed
    rw [Bool.eq_false_iff.mpr free] at lease
    exact .inr ⟨open_, attempts, payload, lease, rfl⟩

theorem delete_ok {documentId : Uuid4} (ok : delete tenantId documentId db = .ok ((), next)) :
    db.versionsOf tenantId documentId ≠ [] ∧
      next = { versions := db.versions.filter fun row =>
                ¬(row.tenantId = tenantId ∧ row.documentId = documentId),
               jobs := Table.update
                (fun row => row.tenant = tenantId ∧ row.documentId = documentId)
                JobRow.fenced db.jobs } := by
  simp only [delete, Outcome.bind_eq_ok, raiseWhen_eq_ok, Outcome.pure_eq_ok,
    Prod.mk.injEq] at ok
  obtain ⟨_, _, _, stored, -, rfl⟩ := ok
  exact ⟨stored, rfl⟩

end SQLiteDocumentStore

end Crewos.Documents

import Crewos.Documents.Steps

/-! # Document histories

What a call does to every job row and to the versions, the transitions of a
history with the claims it hands out, and the invariants of all histories. -/

namespace Crewos.Documents

open Foundation SQLiteDocumentStore

/-- The rows a call that returned has certainly written. -/
def Writes : Operation → Reply → JobRow → Prop
  | .claimJob _ _ _, .claim (some claim), row => row.id = claim.job.jobId
  | .commitJob claim _, _, row => row.id = claim.job.jobId
  | .failJob claim _, _, row => failing claim row = true
  | .delete tenantId documentId, _, row => row.tenant = tenantId ∧ row.documentId = documentId
  | _, _, _ => False

/-- One job row across a call that returned. -/
inductive RowChange (store : SQLiteDocumentStore) (clock : Clock) :
    Operation → Reply → JobRow → JobRow → Prop
  | kept {operation reply row} (spared : ¬Writes operation reply row) :
      RowChange store clock operation reply row row
  | limited {row token} (idle : Idle row (clock 0))
      (reached : store.jobMaxAttempts ≤ row.attempts) :
      RowChange store clock (.claimJob row.id.text row.tenant token) (.claim none) row
        row.limited
  | claimed {row claim} (idle : Idle row (clock 0))
      (below : row.attempts < store.jobMaxAttempts)
      (read : readRow row = .ok (claim.request, claim.options))
      (id : claim.job.jobId = row.id) (tenant : claim.job.tenantId = row.tenant)
      (document : claim.job.documentId = row.documentId)
      (operation : claim.job.operation = row.operation) :
      RowChange store clock (.claimJob row.id.text row.tenant claim.token)
        (.claim (some claim)) row
        (row.claimed claim.token (clock 1 + store.jobLeaseSeconds) (clock 2))
  | committed {row claim record saved} (owned : OwnedJob claim row (clock 0)) :
      RowChange store clock (.commitJob claim record) (.record saved) row
        (row.succeeded saved.version (clock 1))
  | failed {row claim errorCode} (selected : failing claim row = true) :
      RowChange store clock (.failJob claim errorCode) .nothing row
        (row.failed errorCode store.jobMaxAttempts (clock 0))
  | retried {row answer} (unfinished : row.state ≠ .succeeded)
      (below : row.attempts < store.jobMaxAttempts) (payload : row.payload ≠ none)
      (free : attemptActive row (clock 0) = .ok false) :
      RowChange store clock (.retryJob row.id.text row.tenant) (.job answer) row
        (row.requeued (clock 1))
  | published {row} :
      RowChange store clock (.markJobPublished row.id.text row.tenant) .nothing row
        (row.markedPublished (clock 0))
  | fenced {row} :
      RowChange store clock (.delete row.tenant row.documentId) .nothing row row.fenced

inductive Added (store : SQLiteDocumentStore) (clock : Clock) (db : DocumentDb) :
    Operation → Reply → List JobRow → Prop
  | nothing {operation reply} : Added store clock db operation reply []
  | registered {tenantId raw operation options key documentId jobId request job}
      (valid : raw.validate operation = .ok request)
      (fresh : ∀ old ∈ db.jobs, old.id ≠ jobId) :
      Added store clock db (.submitJob tenantId raw operation options key documentId jobId)
        (.submission job false)
        [store.newJob tenantId request options key (target request documentId) jobId (clock 0)]

def Operation.Versioned : Operation → Prop
  | .commitJob _ _ | .createVersion _ | .delete _ _ => True
  | _ => False

def VersionRow.of (record : StoredDocumentVersion) : VersionRow :=
  { tenantId := record.tenantId, documentId := record.documentId, version := record.version,
    snapshot := record.dump }

/-- A record that `_append` takes: it passes its checks as it is, and its version
fits its column. -/
def Storable (saved : StoredDocumentVersion) : Prop :=
  saved.validate = .ok saved ∧ saved.version < 2 ^ 63

/-- The versions across a call that returned. -/
inductive VersionChange (db : DocumentDb) : Operation → Reply → List VersionRow → Prop
  | kept {operation reply} (quiet : ¬operation.Versioned) :
      VersionChange db operation reply db.versions
  | committed {claim record saved} (tenant : saved.tenantId = claim.job.tenantId)
      (document : saved.documentId = claim.job.documentId)
      (revision : expectedRevision claim = .ok saved.version)
      (following : saved.version = db.latest saved.tenantId saved.documentId + 1)
      (owner : ∃ now, ∃ row ∈ db.jobs, OwnedJob claim row now) (storable : Storable saved) :
      VersionChange db (.commitJob claim record) (.record saved)
        (db.versions ++ [.of saved])
  | created {record saved} (valid : record.validate = .ok saved)
      (following : saved.version = db.latest saved.tenantId saved.documentId + 1)
      (storable : Storable saved) :
      VersionChange db (.createVersion record) (.record saved) (db.versions ++ [.of saved])
  | deleted {tenantId documentId} (stored : db.versionsOf tenantId documentId ≠ []) :
      VersionChange db (.delete tenantId documentId) .nothing
        (db.versions.filter fun row =>
          ¬(row.tenantId = tenantId ∧ row.documentId = documentId))

structure Effect (store : SQLiteDocumentStore) (clock : Clock) (db : DocumentDb)
    (operation : Operation) (reply : Reply) (next : DocumentDb) : Prop where
  jobs : ∃ change added, next.jobs = db.jobs.map change ++ added ∧
    (∀ row ∈ db.jobs, RowChange store clock operation reply row (change row)) ∧
    Added store clock db operation reply added
  versions : VersionChange db operation reply next.versions
  claims : ∀ claim, reply = .claim (some claim) →
    (∃ row ∈ db.jobs, row.id = claim.job.jobId) ∧
      ∃ jobId tenantId token, operation = .claimJob jobId tenantId token

/-- Job ids are a primary key. -/
def DocumentDb.WellFormed (db : DocumentDb) : Prop := (db.jobs.map JobRow.id).Nodup

namespace Effect

variable {store : SQLiteDocumentStore} {clock : Clock} {db : DocumentDb}
  {operation : Operation} {reply : Reply}

theorem untouched (spared : ∀ row, ¬Writes operation reply row)
    (quiet : ¬operation.Versioned) (silent : ∀ claim, reply ≠ .claim (some claim)) :
    Effect store clock db operation reply db where
  jobs := ⟨id, [], by simp, fun row _ => .kept (spared row), .nothing⟩
  versions := .kept quiet
  claims := fun claim answer => absurd answer (silent claim)

theorem rows {selects : JobRow → Bool} {change : JobRow → JobRow}
    (selected : ∀ row ∈ db.jobs, selects row = true →
      RowChange store clock operation reply row (change row))
    (spared : ∀ row ∈ db.jobs, selects row = false → ¬Writes operation reply row) :
    ∃ rewrite added, Table.update selects change db.jobs = db.jobs.map rewrite ++ added ∧
      (∀ row ∈ db.jobs, RowChange store clock operation reply row (rewrite row)) ∧
      Added store clock db operation reply added := by
  refine ⟨fun row => if selects row then change row else row, [], by simp [Table.update], ?_,
    .nothing⟩
  intro row member
  cases hit : selects row with
  | true => simpa [hit] using selected row member hit
  | false => simpa [hit] using RowChange.kept (spared row member hit)

theorem row (valid : db.WellFormed) {row : JobRow} (member : row ∈ db.jobs)
    {change : JobRow → JobRow}
    (changed : RowChange store clock operation reply row (change row))
    (spared : ∀ other, other.id ≠ row.id → ¬Writes operation reply other) :
    ∃ rewrite added,
      (db.updateJob row.id change).jobs = db.jobs.map rewrite ++ added ∧
      (∀ row ∈ db.jobs, RowChange store clock operation reply row (rewrite row)) ∧
      Added store clock db operation reply added := by
  refine Effect.rows ?_ fun other _ different => spared other (by simpa using different)
  intro other otherMember same
  have equal : other = row :=
    List.inj_on_of_nodup_map valid otherMember member (by simpa using same)
  exact equal ▸ changed

theorem of_perform (valid : db.WellFormed)
    (store : SQLiteDocumentStore) (clock : Clock) {operation : Operation} {next : DocumentDb}
    {reply : Reply} (ok : operation.perform store clock db = (.ok reply, next)) :
    Effect store clock db operation reply next := by
  unfold Operation.perform at ok
  cases ran : operation.body store clock db with
  | error => simp [ran] at ok
  | ok out =>
      rcases out with ⟨answer, after⟩
      simp only [ran, Prod.mk.injEq, Except.ok.injEq] at ok
      obtain ⟨rfl, rfl⟩ := ok
      cases operation <;>
        simp only [Operation.body, Outcome.map_eq_ok, Prod.exists, Prod.mk.injEq] at ran
      case submitJob tenantId raw operation options key documentId jobId =>
        obtain ⟨job, replayed, _, ok, rfl, rfl⟩ := ran
        obtain ⟨request, valid, ⟨rfl, rfl⟩ | ⟨rfl, fresh, rfl⟩⟩ := submitJob_ok ok
        · exact untouched (fun _ writes => writes) id (by simp)
        · refine ⟨⟨id, _, ?_, fun row _ => .kept id, .registered valid fresh⟩, .kept id, by simp⟩
          simp
      case getJob jobId tenantId =>
        obtain ⟨job, _, ok, rfl, rfl⟩ := ran
        simp only [SQLiteDocumentStore.getJob, Outcome.bind_eq_ok, Outcome.pure_eq_ok,
          Prod.mk.injEq] at ok
        obtain ⟨_, _, -, rfl⟩ := ok
        exact untouched (fun _ writes => writes) id (by simp)
      case claimJob jobId tenantId token =>
        obtain ⟨claim, _, ok, rfl, rfl⟩ := ran
        obtain ⟨row, member, rfl, rfl, done | limited | started⟩ := claimJob_ok ok
        · obtain ⟨rfl, rfl⟩ := done
          exact untouched (fun _ writes => writes) id (by simp)
        · obtain ⟨idle, reached, rfl, rfl⟩ := limited
          exact ⟨Effect.row valid member (.limited idle reached) (fun _ _ writes => writes),
            .kept id, by simp⟩
        · obtain ⟨idle, below, claim, rfl, start⟩ := started
          obtain ⟨request, options, read, again, readMember, same, shape, rfl⟩ :=
            startAttempt_ok start
          obtain ⟨old, oldMember, rfl⟩ := Table.mem_update.mp readMember
          have equal : old = row := by
            refine List.inj_on_of_nodup_map valid oldMember member (Uuid4.ext_text ?_)
            split at same <;> exact same
          subst equal
          have held : token = claim.token := by rw [shape]
          have asked : readRow old = .ok (claim.request, claim.options) := by rw [shape]; exact again
          have id : claim.job.jobId = old.id := by simp [shape, job, JobRow.claimed]
          refine ⟨Effect.row valid member ?_ ?_, .kept fun versioned => versioned, ?_⟩
          · rw [held]
            refine .claimed idle below asked id ?_ ?_ ?_ <;> simp [shape, job, JobRow.claimed]
          · exact fun other different writes => different (writes.trans id)
          · rintro _ answer
            cases answer
            exact ⟨⟨old, member, id.symm⟩, _, _, _, rfl⟩
      case commitJob claim record =>
        obtain ⟨saved, _, ok, rfl, rfl⟩ := ran
        obtain ⟨row, member, owned, tenant, document, revision, following, storable, rfl⟩ :=
          commitJob_ok ok
        refine ⟨Effect.row valid member (.committed owned) ?_,
          .committed tenant document revision following ⟨_, row, member, owned⟩ storable,
          by simp⟩
        exact fun other different writes => different (writes.trans owned.id.symm)
      case failJob claim errorCode =>
        obtain ⟨_, _, ok, rfl, rfl⟩ := ran
        simp only [SQLiteDocumentStore.failJob, Outcome.bind_eq_ok, Outcome.pure_eq_ok,
          Prod.mk.injEq] at ok
        obtain ⟨_, _, -, rfl⟩ := ok
        refine ⟨Effect.rows (fun row _ selected => .failed selected) ?_, .kept id, by simp⟩
        intro row _ missed writes
        rw [show failing claim row = true from writes] at missed
        cases missed
      case retryJob jobId tenantId =>
        obtain ⟨job, _, ok, rfl, rfl⟩ := ran
        obtain ⟨row, member, rfl, rfl, rfl | requeued⟩ := retryJob_ok ok
        · exact untouched (fun _ writes => writes) id (by simp)
        · obtain ⟨unfinished, below, payload, free, rfl⟩ := requeued
          exact ⟨Effect.row valid member (.retried unfinished below payload free)
            (fun _ _ writes => writes), .kept id, by simp⟩
      case markJobPublished jobId tenantId =>
        obtain ⟨_, _, ok, rfl, rfl⟩ := ran
        simp only [SQLiteDocumentStore.markJobPublished, Outcome.bind_eq_ok,
          Outcome.pure_eq_ok, Prod.mk.injEq] at ok
        obtain ⟨row, found, -, rfl⟩ := ok
        obtain ⟨member, rfl, rfl⟩ := jobRow_ok found
        exact ⟨Effect.row valid member .published (fun _ _ writes => writes), .kept id, by simp⟩
      case createVersion record =>
        obtain ⟨saved, _, ok, rfl, rfl⟩ := ran
        simp only [SQLiteDocumentStore.createVersion, Outcome.bind_eq_ok, Outcome.pure_eq_ok,
          Prod.mk.injEq] at ok
        obtain ⟨_, validated, _, appended, rfl, rfl⟩ := ok
        obtain ⟨following, bounded, rfl⟩ := append_ok appended
        exact ⟨⟨id, [], by simp, fun row _ => .kept id, .nothing⟩,
          .created validated following
            ⟨StoredDocumentVersion.validate_idem validated, bounded⟩, by simp⟩
      case get tenantId documentId version =>
        obtain ⟨record, _, ok, rfl, rfl⟩ := ran
        simp only [SQLiteDocumentStore.get, Outcome.bind_eq_ok] at ok
        obtain ⟨_, _, _, _, ok⟩ := ok
        split at ok
        · simp only [Outcome.bind_eq_ok, Outcome.pure_eq_ok, Prod.mk.injEq] at ok
          obtain ⟨_, _, -, rfl⟩ := ok
          exact untouched (fun _ writes => writes) id (by simp)
        · simp at ok
      case delete tenantId documentId =>
        obtain ⟨_, _, ok, rfl, rfl⟩ := ran
        obtain ⟨stored, rfl⟩ := delete_ok ok
        refine ⟨Effect.rows ?_ ?_, .deleted stored, by simp⟩
        · intro row _ selected
          simp only [decide_eq_true_eq] at selected
          obtain ⟨rfl, rfl⟩ := selected
          exact .fenced
        · intro row _ missed writes
          simp only [decide_eq_false_iff_not] at missed
          exact missed writes

end Effect

end Crewos.Documents

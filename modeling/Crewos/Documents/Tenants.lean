import Crewos.Documents.Submission
import Crewos.Foundation.Noninterference

/-! # Tenants of the document store

Every operation is for one tenant. What it answers and what it writes depends on
that tenant's versions and jobs alone, and it writes nowhere else. -/

namespace Crewos.Documents

open Foundation SQLiteDocumentStore

def Operation.tenant : Operation → String
  | .submitJob tenantId _ _ _ _ _ _ | .getJob _ tenantId | .claimJob _ tenantId _
  | .retryJob _ tenantId | .markJobPublished _ tenantId | .get tenantId _ _
  | .delete tenantId _ => tenantId
  | .commitJob claim _ | .failJob claim _ => claim.job.tenantId
  | .createVersion record => record.tenantId

/-- The versions and the jobs of a tenant. -/
def DocumentDb.partOf (tenantId : String) (db : DocumentDb) : DocumentDb where
  versions := db.versions.filter fun row => row.tenantId = tenantId
  jobs := db.jobs.filter fun row => row.tenant = tenantId

/-! ## Reading and writing a part -/

namespace DocumentDb

variable {db : DocumentDb} {tenantId : String}

theorem jobRow_partOf (jobId : String) :
    jobRow (db.partOf tenantId) jobId tenantId = jobRow db jobId tenantId := by
  have found : ((db.jobs.filter fun row => row.tenant = tenantId).find? fun row =>
      row.id.text = jobId ∧ row.tenant = tenantId) =
        db.jobs.find? fun row => row.id.text = jobId ∧ row.tenant = tenantId := by
    rw [List.find?_filter]
    congr 1
    funext row
    by_cases same : row.tenant = tenantId <;> simp [same]
  unfold jobRow
  rw [← found]
  rfl

theorem registered_partOf (keyHash : String) :
    ((db.partOf tenantId).jobs.find? fun row => row.tenant = tenantId ∧ row.keyHash = keyHash) =
      db.jobs.find? fun row => row.tenant = tenantId ∧ row.keyHash = keyHash := by
  simp only [partOf, List.find?_filter]
  congr 1
  funext row
  by_cases same : row.tenant = tenantId <;> simp [same]

theorem versionsOf_partOf (documentId : Uuid4) :
    (db.partOf tenantId).versionsOf tenantId documentId = db.versionsOf tenantId documentId := by
  simp only [versionsOf, partOf, List.filter_filter]
  apply List.filter_congr
  intro row _
  by_cases same : row.tenantId = tenantId <;> simp [same]

theorem latest_partOf (documentId : Uuid4) :
    (db.partOf tenantId).latest tenantId documentId = db.latest tenantId documentId := by
  rw [latest, latest, versionsOf_partOf]

theorem job_partOf {row : JobRow} (tenant : row.tenant = tenantId) (now : Time) :
    job (db.partOf tenantId) row now = job db row now := by
  have stored (version : Nat) : (∃ stored ∈ (db.partOf tenantId).versions,
      stored.tenantId = row.tenant ∧ stored.documentId = row.documentId ∧
        stored.version = version) ↔ ∃ stored ∈ db.versions, stored.tenantId = row.tenant ∧
      stored.documentId = row.documentId ∧ stored.version = version := by
    simp only [partOf, List.mem_filter, decide_eq_true_eq]
    constructor
    · rintro ⟨version, ⟨member, -⟩, same⟩
      exact ⟨version, member, same⟩
    · rintro ⟨version, member, same⟩
      exact ⟨version, ⟨member, same.1.trans tenant⟩, same⟩
  simp only [job, stored]

theorem partOf_updateJobs (selects : JobRow → Bool) {change : JobRow → JobRow}
    (keeps : ∀ row, (change row).tenant = row.tenant) :
    (db.updateJobs selects change).partOf tenantId =
      (db.partOf tenantId).updateJobs selects change := by
  simp only [updateJobs, partOf, DocumentDb.mk.injEq, true_and]
  exact Table.filter_update _ _ _ (by simp [keeps]) _

theorem partOf_insertJob {row : JobRow} (tenant : row.tenant = tenantId) :
    { db with jobs := db.jobs ++ [row] }.partOf tenantId =
      { db.partOf tenantId with jobs := (db.partOf tenantId).jobs ++ [row] } := by
  simp [partOf, tenant]

theorem partOf_insertVersion {row : VersionRow} (tenant : row.tenantId = tenantId) :
    { db with versions := db.versions ++ [row] }.partOf tenantId =
      { db.partOf tenantId with versions := (db.partOf tenantId).versions ++ [row] } := by
  simp [partOf, tenant]

end DocumentDb

/-! ## The tenant's own calls -/

section Own

variable {store : SQLiteDocumentStore} {clock : Clock} {db : DocumentDb} {tenantId : String}

/-- The identifier a submission draws is not in use by another tenant. -/
def Draws (tenantId : String) (db : DocumentDb) : Operation → Prop
  | .submitJob _ _ _ _ _ _ jobId => ∀ row ∈ db.jobs, row.id = jobId → row.tenant = tenantId
  | _ => True

theorem getJob_partOf (jobId : String) :
    getJob jobId tenantId clock (db.partOf tenantId) =
      seenBy (DocumentDb.partOf tenantId) (getJob jobId tenantId clock db) := by
  simp only [getJob, seenBy_bind, seenBy_pure, DocumentDb.jobRow_partOf]
  cases read : jobRow db jobId tenantId with
  | error => rfl
  | ok row =>
      obtain ⟨-, -, tenant⟩ := jobRow_ok read
      simp only [Outcome.ok_bind, DocumentDb.job_partOf tenant]

theorem readBack_partOf (jobId : String) (now : Time) (reply : DocumentJob → α) :
    (do let row ← jobRow (db.partOf tenantId) jobId tenantId
        return (reply (job (db.partOf tenantId) row now), db.partOf tenantId)) =
      seenBy (DocumentDb.partOf tenantId) (do
        let row ← jobRow db jobId tenantId
        return (reply (job db row now), db)) := by
  rw [DocumentDb.jobRow_partOf, seenBy_bind]
  cases read : jobRow db jobId tenantId with
  | error => rfl
  | ok row =>
      obtain ⟨-, -, tenant⟩ := jobRow_ok read
      simp only [Outcome.ok_bind, DocumentDb.job_partOf tenant, seenBy_pure]

theorem submitJob_partOf (raw : RawRequest) (operation : JobOperation) (options : ChunkingOptions)
    (key : String) (documentId : Uuid4) {jobId : Uuid4}
    (draws : ∀ row ∈ db.jobs, row.id = jobId → row.tenant = tenantId) :
    store.submitJob tenantId raw operation options key documentId jobId clock
        (db.partOf tenantId) =
      seenBy (DocumentDb.partOf tenantId)
        (store.submitJob tenantId raw operation options key documentId jobId clock db) := by
  simp only [submitJob, seenBy_bind]
  congr 1; funext _
  congr 1; funext request
  congr 1; funext _
  generalize row_eq : store.newJob tenantId request options key (target request documentId) jobId
    (clock 0) = row
  have tenant : row.tenant = tenantId := by rw [← row_eq]; rfl
  rw [DocumentDb.registered_partOf]
  split
  · rename_i old found
    have oldTenant : old.tenant = tenantId := by
      have selected := List.find?_some found
      simp only [decide_eq_true_eq] at selected
      exact selected.1
    simp only [seenBy_bind, seenBy_pure, DocumentDb.job_partOf oldTenant]
  · have taken : (∃ old ∈ (db.partOf tenantId).jobs, old.id = jobId) ↔
        ∃ old ∈ db.jobs, old.id = jobId := by
      simp only [DocumentDb.partOf, List.mem_filter, decide_eq_true_eq]
      constructor
      · rintro ⟨old, ⟨member, -⟩, same⟩
        exact ⟨old, member, same⟩
      · rintro ⟨old, member, same⟩
        exact ⟨old, ⟨member, draws old member same⟩, same⟩
    simp only [seenBy_bind, taken]
    congr 1; funext _
    rw [← DocumentDb.partOf_insertJob tenant]
    have read := @readBack_partOf { db with jobs := db.jobs ++ [row] } tenantId
      (DocumentJob × Bool) jobId.text (clock 1) fun job => (job, false)
    rw [seenBy_bind] at read
    exact read

theorem startAttempt_partOf {row : JobRow} (tenant : row.tenant = tenantId) (token : String) :
    store.startAttempt row token clock (db.partOf tenantId) =
      seenBy (DocumentDb.partOf tenantId) (store.startAttempt row token clock db) := by
  simp only [startAttempt, seenBy_bind]
  congr 1; funext read
  have written := @DocumentDb.partOf_updateJobs db tenantId (fun other => other.id = row.id)
    (fun row => row.claimed token (clock 1 + store.jobLeaseSeconds) (clock 2)) fun _ => rfl
  have readBack := @readBack_partOf (db.updateJob row.id fun row =>
    row.claimed token (clock 1 + store.jobLeaseSeconds) (clock 2)) tenantId DocumentJobClaim
    row.id.text (clock 3) fun job => { job, request := read.1, options := read.2, token }
  rw [seenBy_bind] at readBack
  rw [tenant]
  refine Eq.trans ?_ readBack
  rw [DocumentDb.updateJob, DocumentDb.updateJob, written]

theorem claimJob_partOf (jobId token : String) :
    store.claimJob jobId tenantId token clock (db.partOf tenantId) =
      seenBy (DocumentDb.partOf tenantId) (store.claimJob jobId tenantId token clock db) := by
  simp only [claimJob, DocumentDb.jobRow_partOf, seenBy_bind]
  cases read : jobRow db jobId tenantId with
  | error => rfl
  | ok row =>
      obtain ⟨-, -, tenant⟩ := jobRow_ok read
      have keeps (row : JobRow) : row.limited.tenant = row.tenant := rfl
      simp only [Outcome.ok_bind, seenBy_ite, seenBy_bind, seenBy_pure]
      split
      · rfl
      · congr 1; funext active
        congr 1; funext _
        split
        · rw [DocumentDb.updateJob, DocumentDb.updateJob, DocumentDb.partOf_updateJobs _ keeps]
        · rw [startAttempt_partOf tenant]
          cases store.startAttempt row token clock db <;> rfl

theorem append_partOf {record : StoredDocumentVersion} (tenant : record.tenantId = tenantId) :
    append (db.partOf tenantId) record =
      (DocumentDb.partOf tenantId) <$> append db record := by
  subst tenant
  have inserted := @DocumentDb.partOf_insertVersion db record.tenantId
    { tenantId := record.tenantId, documentId := record.documentId, version := record.version,
      snapshot := record.dump } rfl
  simp only [append, DocumentDb.latest_partOf, map_bind, map_pure, inserted]

theorem createVersion_partOf {record : StoredDocumentVersion}
    (tenant : record.tenantId = tenantId) :
    createVersion record (db.partOf tenantId) =
      seenBy (DocumentDb.partOf tenantId) (createVersion record db) := by
  simp only [createVersion, seenBy_bind]
  cases checked : record.validate with
  | error => rfl
  | ok saved =>
      have same := (validate_identity checked).1
      simp only [Outcome.ok_bind, append_partOf (same.trans tenant), bind_map_left, seenBy_pure]

theorem commitJob_partOf {claim : DocumentJobClaim} (record : StoredDocumentVersion)
    (tenant : claim.job.tenantId = tenantId) :
    commitJob claim record clock (db.partOf tenantId) =
      seenBy (DocumentDb.partOf tenantId) (commitJob claim record clock db) := by
  have owned (now : Time) : ownedJob (db.partOf tenantId) claim now = ownedJob db claim now := by
    simp only [ownedJob, tenant, DocumentDb.jobRow_partOf]
  have keeps (version : Nat) (row : JobRow) :
      (row.succeeded version (clock 1)).tenant = row.tenant := rfl
  simp only [commitJob, seenBy_bind]
  cases checked : record.validate with
  | error => rfl
  | ok valid =>
      simp only [Outcome.ok_bind]
      cases moved : claimedRecord claim valid with
      | error => rfl
      | ok saved =>
          have same := (claimedRecord_ok moved (StoredDocumentVersion.validate_idem checked)).1
          simp only [Outcome.ok_bind, owned, append_partOf (same.trans tenant), bind_map_left,
            seenBy_pure, DocumentDb.updateJob,
            DocumentDb.partOf_updateJobs _ (keeps saved.version)]

theorem failJob_partOf (claim : DocumentJobClaim) (errorCode : String) :
    store.failJob claim errorCode clock (db.partOf tenantId) =
      seenBy (DocumentDb.partOf tenantId) (store.failJob claim errorCode clock db) := by
  have keeps (row : JobRow) :
      (row.failed errorCode store.jobMaxAttempts (clock 0)).tenant = row.tenant := rfl
  simp only [failJob, seenBy_bind, seenBy_pure, DocumentDb.partOf_updateJobs _ keeps]

theorem retryJob_partOf (jobId : String) :
    store.retryJob jobId tenantId clock (db.partOf tenantId) =
      seenBy (DocumentDb.partOf tenantId) (store.retryJob jobId tenantId clock db) := by
  simp only [retryJob, DocumentDb.jobRow_partOf, seenBy_bind]
  cases read : jobRow db jobId tenantId with
  | error => rfl
  | ok row =>
      obtain ⟨-, -, tenant⟩ := jobRow_ok read
      simp only [Outcome.ok_bind, seenBy_ite, seenBy_bind, seenBy_pure,
        DocumentDb.job_partOf tenant]
      split
      · rfl
      · congr 1; funext active
        congr 1; funext _
        have written := @DocumentDb.partOf_updateJobs db tenantId (fun other => other.id = row.id)
          (fun row => row.requeued (clock 1)) fun _ => rfl
        have readBack := @readBack_partOf (db.updateJob row.id fun row => row.requeued (clock 1))
          tenantId DocumentJob jobId (clock 2) id
        rw [seenBy_bind] at readBack
        refine Eq.trans ?_ readBack
        rw [DocumentDb.updateJob, DocumentDb.updateJob, written]
        rfl

theorem markJobPublished_partOf (jobId : String) :
    markJobPublished jobId tenantId clock (db.partOf tenantId) =
      seenBy (DocumentDb.partOf tenantId) (markJobPublished jobId tenantId clock db) := by
  have keeps (row : JobRow) : (row.markedPublished (clock 0)).tenant = row.tenant := rfl
  simp only [markJobPublished, DocumentDb.jobRow_partOf, seenBy_bind, seenBy_pure,
    DocumentDb.updateJob, DocumentDb.partOf_updateJobs _ keeps]

theorem get_partOf (documentId : Uuid4) (version : Option Nat) :
    SQLiteDocumentStore.get tenantId documentId version (db.partOf tenantId) =
      seenBy (DocumentDb.partOf tenantId)
        (SQLiteDocumentStore.get tenantId documentId version db) := by
  simp only [SQLiteDocumentStore.get, seenBy_bind, DocumentDb.latest_partOf,
    DocumentDb.versionsOf_partOf]
  congr 1; funext _
  congr 1; funext _
  split
  · rename_i row _
    cases decode row <;> rfl
  · rfl

theorem delete_partOf (documentId : Uuid4) :
    SQLiteDocumentStore.delete tenantId documentId (db.partOf tenantId) =
      seenBy (DocumentDb.partOf tenantId)
        (SQLiteDocumentStore.delete tenantId documentId db) := by
  have keeps (row : JobRow) : row.fenced.tenant = row.tenant := rfl
  have erased : ((db.partOf tenantId).versions.filter fun row =>
      ¬(row.tenantId = tenantId ∧ row.documentId = documentId)) =
        (db.versions.filter fun row =>
          ¬(row.tenantId = tenantId ∧ row.documentId = documentId)).filter
            fun row => row.tenantId = tenantId := by
    simp only [DocumentDb.partOf, List.filter_filter]
    apply List.filter_congr
    intro row _
    rw [Bool.and_comm]
  simp only [SQLiteDocumentStore.delete, seenBy_bind, seenBy_pure, DocumentDb.versionsOf_partOf,
    DocumentDb.partOf_updateJobs _ keeps, erased]
  rfl

theorem latestRows_partOf : latestRows tenantId (db.partOf tenantId) = latestRows tenantId db := by
  simp only [latestRows, DocumentDb.partOf, List.filter_filter]
  apply List.filter_congr
  intro row _
  by_cases same : row.tenantId = tenantId <;> simp +contextual [same]

theorem readLatestDocuments_partOf (snapshotBytes : Dict → Nat)
    (maxDocuments maxSnapshotBytes : Int) :
    readLatestDocuments snapshotBytes tenantId maxDocuments maxSnapshotBytes
        (db.partOf tenantId) =
      readLatestDocuments snapshotBytes tenantId maxDocuments maxSnapshotBytes db := by
  simp only [readLatestDocuments, latestRows_partOf]

theorem body_partOf {operation : Operation} (mine : operation.tenant = tenantId)
    (draws : Draws tenantId db operation) :
    operation.body store clock (db.partOf tenantId) =
      seenBy (DocumentDb.partOf tenantId) (operation.body store clock db) := by
  cases operation <;> simp only [Operation.tenant] at mine
  case submitJob raw operation options key documentId jobId =>
    subst mine
    simp only [Operation.body, submitJob_partOf raw operation options key documentId draws]
    exact seenBy_map (fun out : DocumentJob × Bool => Reply.submission out.1 out.2) _
  case commitJob =>
    simp only [Operation.body, commitJob_partOf _ mine, seenBy_map Reply.record]
  case failJob =>
    simp only [Operation.body, failJob_partOf]
    exact seenBy_map (fun _ => Reply.nothing) _
  case createVersion =>
    simp only [Operation.body, createVersion_partOf mine, seenBy_map Reply.record]
  all_goals subst mine
  case getJob =>
    simp only [Operation.body, getJob_partOf, seenBy_map Reply.job]
  case claimJob =>
    simp only [Operation.body, claimJob_partOf, seenBy_map Reply.claim]
  case retryJob =>
    simp only [Operation.body, retryJob_partOf, seenBy_map Reply.job]
  case markJobPublished =>
    simp only [Operation.body, markJobPublished_partOf]
    exact seenBy_map (fun _ => Reply.nothing) _
  case get =>
    simp only [Operation.body, get_partOf, seenBy_map Reply.record]
  case delete =>
    simp only [Operation.body, delete_partOf]
    exact seenBy_map (fun _ => Reply.nothing) _

theorem perform_partOf (store : SQLiteDocumentStore) (clock : Clock) {operation : Operation}
    (mine : operation.tenant = tenantId) (draws : Draws tenantId db operation) :
    operation.perform store clock (db.partOf tenantId) =
      ((operation.perform store clock db).1,
        (operation.perform store clock db).2.partOf tenantId) := by
  unfold Operation.perform
  rw [body_partOf mine draws]
  cases operation.body store clock db <;> rfl

end Own

/-! ## Calls of the others -/

section Others

variable {store : SQLiteDocumentStore} {clock : Clock} {db next : DocumentDb} {tenantId : String}
  {operation : Operation} {reply : Reply}

theorem RowChange.tenant {row after : JobRow}
    (change : RowChange store clock operation reply row after) : after.tenant = row.tenant :=
  change.submission.tenant

theorem RowChange.eq_of_other {row after : JobRow}
    (change : RowChange store clock operation reply row after)
    (other : operation.tenant ≠ row.tenant) : after = row := by
  cases change with
  | kept => rfl
  | committed owned => exact absurd owned.tenant.symm other
  | failed selected =>
      simp only [failing, decide_eq_true_eq] at selected
      exact absurd selected.2.1.symm other
  | _ => exact absurd rfl other

theorem Added.tenant {added : List JobRow} (adds : Added store clock db operation reply added) :
    ∀ row ∈ added, row.tenant = operation.tenant := by
  intro row member
  cases adds with
  | nothing => cases member
  | registered =>
      rw [List.mem_singleton.mp member]
      rfl

theorem VersionChange.filter_other {versions : List VersionRow}
    (change : VersionChange db operation reply versions) (other : operation.tenant ≠ tenantId) :
    (versions.filter fun row => row.tenantId = tenantId) =
      db.versions.filter fun row => row.tenantId = tenantId := by
  cases change with
  | kept => rfl
  | committed tenant =>
      have apart : ¬(VersionRow.of _).tenantId = tenantId :=
        fun own => other (tenant.symm.trans own)
      simp [List.filter_append, apart]
  | created valid =>
      have same := (validate_identity valid).1
      have apart : ¬(VersionRow.of _).tenantId = tenantId := fun own => other (same.symm.trans own)
      simp [List.filter_append, apart]
  | deleted =>
      rw [List.filter_filter]
      apply List.filter_congr
      intro row _
      by_cases same : row.tenantId = tenantId
      · have apart : ¬tenantId = _ := fun own => other own.symm
        simp only [Operation.tenant] at apart
        simp [same, apart]
      · simp [same]

theorem Effect.partOf_other (effect : Effect store clock db operation reply next)
    (other : operation.tenant ≠ tenantId) : next.partOf tenantId = db.partOf tenantId := by
  obtain ⟨change, added, jobs, changes, adds⟩ := effect.jobs
  have none_ : (added.filter fun row => row.tenant = tenantId) = [] := by
    rw [List.filter_eq_nil_iff]
    intro row member
    rw [adds.tenant row member]
    simpa using other
  have kept : ((db.jobs.map change).filter fun row => row.tenant = tenantId) =
      db.jobs.filter fun row => row.tenant = tenantId := by
    have sameTest : (db.jobs.filter ((fun row => decide (row.tenant = tenantId)) ∘ change)) =
        db.jobs.filter fun row => row.tenant = tenantId := by
      apply List.filter_congr
      intro row member
      rw [Function.comp_apply, (changes row member).tenant]
    rw [List.filter_map, sameTest]
    conv => rhs; rw [← List.map_id (db.jobs.filter _)]
    apply List.map_congr_left
    intro row member
    obtain ⟨inside, tenant⟩ := List.mem_filter.mp member
    simp only [decide_eq_true_eq] at tenant
    exact (changes row inside).eq_of_other (tenant ▸ other)
  simp only [DocumentDb.partOf, jobs, List.filter_append, none_, List.append_nil, kept,
    effect.versions.filter_other other]

theorem perform_other (valid : db.WellFormed) (store : SQLiteDocumentStore) (clock : Clock)
    (other : operation.tenant ≠ tenantId) :
    (operation.perform store clock db).2.partOf tenantId = db.partOf tenantId := by
  cases performed : operation.perform store clock db with
  | mk answered next =>
      cases answered with
      | error error => rw [perform_error performed]
      | ok reply => exact (Effect.of_perform valid store clock performed).partOf_other other

end Others

/-! ## Two runs -/

/-- A call of a method, transactions and the corpus read alike. -/
inductive StoreCall where
  | transaction (call : Call)
  | readLatestDocuments (tenantId : String) (maxDocuments maxSnapshotBytes : Int)

inductive StoreReply where
  | reply (reply : Reply)
  | documents (documents : List StoredDocumentVersion)
  deriving DecidableEq

namespace StoreCall

def tenant : StoreCall → String
  | .transaction call => call.operation.tenant
  | .readLatestDocuments tenantId _ _ => tenantId

def isOf (tenantId : String) (call : StoreCall) : Bool := call.tenant = tenantId

/-- `snapshotBytes` is the length of the text that a snapshot is stored as. -/
def answer (snapshotBytes : Dict → Nat) (call : StoreCall) (db : DocumentDb) :
    Except DocumentError StoreReply × DocumentDb :=
  match call with
  | .transaction call =>
      let out := call.operation.perform call.store call.clock db
      (StoreReply.reply <$> out.1, out.2)
  | .readLatestDocuments tenantId maxDocuments maxSnapshotBytes =>
      (StoreReply.documents <$>
        SQLiteDocumentStore.readLatestDocuments snapshotBytes tenantId maxDocuments
          maxSnapshotBytes db, db)

def Draws (tenantId : String) (call : StoreCall) (db : DocumentDb) : Prop :=
  match call with
  | .transaction call => Documents.Draws tenantId db call.operation
  | .readLatestDocuments _ _ _ => True

end StoreCall

def DrawsFresh (snapshotBytes : Dict → Nat) (tenantId : String) (db : DocumentDb)
    (calls : List StoreCall) : Prop :=
  AtEach (StoreCall.answer snapshotBytes) (StoreCall.isOf tenantId) (StoreCall.Draws tenantId) db
    calls

theorem unwinding (snapshotBytes : Dict → Nat) (tenantId : String) :
    Unwinding (StoreCall.answer snapshotBytes) (StoreCall.isOf tenantId)
      (DocumentDb.partOf tenantId) DocumentDb.WellFormed (StoreCall.Draws tenantId) where
  keeps := by
    intro call db valid
    cases call with
    | transaction call => exact (call.origin valid).1
    | readLatestDocuments => exact valid
  respects := by
    intro call db valid other
    cases call with
    | transaction call =>
        exact perform_other valid call.store call.clock (of_decide_eq_false other)
    | readLatestDocuments => rfl
  consistent := by
    intro call left right leftValid rightValid isMine leftDraws rightDraws agree
    have mine := of_decide_eq_true isMine
    cases call with
    | transaction call =>
        have leftSeen := perform_partOf call.store call.clock mine leftDraws
        have rightSeen := perform_partOf call.store call.clock mine rightDraws
        rw [agree, rightSeen] at leftSeen
        obtain ⟨answers, parts⟩ := Prod.mk.inj leftSeen
        exact ⟨congrArg (StoreReply.reply <$> ·) answers.symm, parts.symm⟩
    | readLatestDocuments caller maxDocuments maxSnapshotBytes =>
        obtain rfl : caller = tenantId := mine
        refine ⟨?_, agree⟩
        simp only [StoreCall.answer]
        rw [← readLatestDocuments_partOf, agree, readLatestDocuments_partOf]

/-- The tables after a history of calls, whoever made them. -/
def DocumentDb.after (snapshotBytes : Dict → Nat) (db : DocumentDb) (calls : List StoreCall) :
    DocumentDb :=
  afterCalls (StoreCall.answer snapshotBytes) db calls

/-- Two runs with the same calls of a tenant answer them alike and leave its
versions and jobs alike, whatever the other tenants call. -/
theorem document_tenant_noninterference (snapshotBytes : Dict → Nat) (tenantId : String)
    {left right : DocumentDb} (leftValid : left.WellFormed) (rightValid : right.WellFormed)
    (agree : left.partOf tenantId = right.partOf tenantId) {leftCalls rightCalls : List StoreCall}
    (same : leftCalls.filter (StoreCall.isOf tenantId) =
      rightCalls.filter (StoreCall.isOf tenantId))
    (leftDraws : DrawsFresh snapshotBytes tenantId left leftCalls)
    (rightDraws : DrawsFresh snapshotBytes tenantId right rightCalls) :
    answersTo (StoreCall.answer snapshotBytes) (StoreCall.isOf tenantId) left leftCalls =
        answersTo (StoreCall.answer snapshotBytes) (StoreCall.isOf tenantId) right rightCalls ∧
      (left.after snapshotBytes leftCalls).partOf tenantId =
        (right.after snapshotBytes rightCalls).partOf tenantId :=
  (unwinding snapshotBytes tenantId).noninterference leftValid rightValid agree same leftDraws
    rightDraws

namespace Sample

def alone : List StoreCall :=
  [.transaction submit, .transaction claim, .transaction commit,
    .readLatestDocuments "acme" 8 1000]

def crowded : List StoreCall :=
  [.transaction (.instant store 0 (.submitJob "rival" source .create default "key" document document)),
    .transaction submit, .transaction claim,
    .transaction (.instant store 1 (.retryJob job.text "rival")), .transaction commit,
    .transaction (.instant store 3 (.delete "rival" document)),
    .readLatestDocuments "acme" 8 1000]

theorem alone_draws : DrawsFresh (fun _ => 0) "acme" .empty alone := by
  refine .cons (fun _ => ?_) (.cons (fun _ => trivial) (.cons (fun _ => trivial)
    (.cons (fun _ => trivial) (.nil _))))
  intro row member
  cases member

theorem crowded_draws : DrawsFresh (fun _ => 0) "acme" .empty crowded := by
  refine .cons (fun mine => ?_) (.cons (fun _ => ?_) (.cons (fun _ => trivial)
    (.cons (fun _ => trivial) (.cons (fun _ => trivial) (.cons (fun _ => trivial)
      (.cons (fun _ => trivial) (.nil _)))))))
  · cases mine
  · have rows : ∀ row ∈ (StoreCall.answer (fun _ => 0) (.transaction (.instant store 0
        (.submitJob "rival" source .create default "key" document document))) .empty).2.jobs,
        row.id = job → row.tenant = "acme" := by decide +kernel
    exact rows

end Sample

/-- The other tenant's calls change nothing for the sample document. -/
theorem document_tenant_noninterference_crowded :
    answersTo (StoreCall.answer fun _ => 0) (StoreCall.isOf "acme") .empty Sample.alone =
        answersTo (StoreCall.answer fun _ => 0) (StoreCall.isOf "acme") .empty Sample.crowded ∧
      (DocumentDb.empty.after (fun _ => 0) Sample.alone).partOf "acme" =
        (DocumentDb.empty.after (fun _ => 0) Sample.crowded).partOf "acme" := by
  have valid : DocumentDb.empty.WellFormed := List.nodup_nil
  exact document_tenant_noninterference (fun _ => 0) "acme" valid valid rfl rfl
    Sample.alone_draws Sample.crowded_draws

end Crewos.Documents

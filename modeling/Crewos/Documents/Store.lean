import Crewos.Documents.Snapshot
import Crewos.Foundation.Clock
import Crewos.Foundation.Table
import Mathlib.Algebra.GroupWithZero.Nat

/-! # The document store

The two tables of the document database and the operations on them. Each
operation is one transaction: `perform` keeps the old tables when it raises. -/

namespace Crewos.Documents

open Foundation

/-! ## Tables -/

inductive JobState where
  | queued
  | running
  | succeeded
  | failed
  deriving DecidableEq, Repr

/-- A row of `document_versions`. -/
structure VersionRow where
  tenantId : String
  documentId : Uuid4
  version : Nat
  snapshot : Dict
  deriving DecidableEq, Repr

/-- A row of `document_jobs`. -/
structure JobRow where
  id : Uuid4
  tenant : String
  documentId : Uuid4
  operation : JobOperation
  keyHash : String
  fingerprint : String
  payload : Option Dict
  options : Dict
  state : JobState := .queued
  version : Option Nat := none
  error : Option String := none
  attempts : Nat := 0
  token : Option String := none
  leaseUntil : Option Time := none
  published : Bool := false
  created : Time
  updated : Time
  deriving DecidableEq, Repr

structure DocumentDb where
  versions : List VersionRow
  jobs : List JobRow
  deriving DecidableEq, Repr

def DocumentDb.empty : DocumentDb := { versions := [], jobs := [] }

/-- A configured store. `sha256` is the hexadecimal digest of the standard
library; the model never looks inside it. -/
structure SQLiteDocumentStore where
  jobLeaseSeconds : Time := 180
  jobMaxAttempts : Nat := 3
  sha256 : String → String
  leasePositive : 0 < jobLeaseSeconds
  attemptsPositive : 1 ≤ jobMaxAttempts

/-- The receipt of a job, which never holds source content. -/
structure DocumentJob where
  jobId : Uuid4
  tenantId : String
  documentId : Uuid4
  operation : JobOperation
  state : JobState
  version : Option Nat
  attempts : Nat
  errorCode : Option String
  publicationConfirmed : Bool
  leaseActive : Bool
  resultAvailable : Bool
  deriving DecidableEq, Repr

structure DocumentJobClaim where
  job : DocumentJob
  request : DocumentRequest
  options : ChunkingOptions
  token : String
  deriving DecidableEq, Repr

/-! ## The writes

What each `UPDATE` sets, as a change of one row. -/

namespace JobRow

def limited (row : JobRow) : JobRow :=
  { row with
      state := .failed, error := some "AttemptLimit", payload := none, token := none,
      leaseUntil := none }

def claimed (row : JobRow) (token : String) (leaseUntil now : Time) : JobRow :=
  { row with
      state := .running, attempts := row.attempts + 1, token := some token,
      leaseUntil := some leaseUntil, updated := now }

def succeeded (row : JobRow) (version : Nat) (now : Time) : JobRow :=
  { row with
      state := .succeeded, version := some version, error := none, payload := none,
      token := none, leaseUntil := none, updated := now }

def failed (row : JobRow) (errorCode : String) (maxAttempts : Nat) (now : Time) : JobRow :=
  { row with
      state := .failed, error := some errorCode,
      payload := if maxAttempts ≤ row.attempts then none else row.payload,
      token := none, leaseUntil := none, updated := now }

def requeued (row : JobRow) (now : Time) : JobRow :=
  { row with
      state := .queued, error := none, token := none, leaseUntil := none,
      published := false, updated := now }

def markedPublished (row : JobRow) (now : Time) : JobRow :=
  { row with published := true, updated := now }

def fenced (row : JobRow) : JobRow :=
  { row with
      payload := none,
      state := if row.state = .succeeded then row.state else .failed,
      error := if row.state = .succeeded then row.error else some "DocumentDeleted",
      token := none, leaseUntil := none }

end JobRow

namespace DocumentDb

def updateJobs (db : DocumentDb) (selects : JobRow → Bool) (change : JobRow → JobRow) :
    DocumentDb :=
  { db with jobs := Table.update selects change db.jobs }

/-- `UPDATE document_jobs SET … WHERE id=?`. -/
def updateJob (db : DocumentDb) (jobId : Uuid4) (change : JobRow → JobRow) : DocumentDb :=
  db.updateJobs (fun row => row.id = jobId) change

def versionsOf (db : DocumentDb) (tenantId : String) (documentId : Uuid4) : List VersionRow :=
  db.versions.filter fun row => row.tenantId = tenantId ∧ row.documentId = documentId

/-- `MAX(version)`, or zero when the document has no versions. -/
def latest (db : DocumentDb) (tenantId : String) (documentId : Uuid4) : Nat :=
  ((db.versionsOf tenantId documentId).map VersionRow.version).foldr max 0

end DocumentDb

/-! ## The methods -/

namespace SQLiteDocumentStore

/-- `_identity`; the other half of the identity is typed. -/
def identity (tenantId : String) : Except DocumentError Unit :=
  raiseWhen (tenantPattern tenantId = false) (.valueError "Invalid tenant identity")

def jobRow (db : DocumentDb) (jobId tenantId : String) : Except DocumentError JobRow :=
  match db.jobs.find? fun row => row.id.text = jobId ∧ row.tenant = tenantId with
  | some row => .ok row
  | none => .error (.documentJobNotFound "Document job unavailable")

/-- A nullable lease compared with the clock. -/
def leaseAfter (leaseUntil : Option Time) (now : Time) : Except DocumentError Bool :=
  match leaseUntil with
  | some leaseUntil => .ok (now < leaseUntil)
  | none => .error .typeError

/-- The column is only read while the job is running. -/
def attemptActive (row : JobRow) (now : Time) : Except DocumentError Bool :=
  if row.state = .running then leaseAfter row.leaseUntil now else .ok false

def job (db : DocumentDb) (row : JobRow) (now : Time) : DocumentJob :=
  { jobId := row.id
    tenantId := row.tenant
    documentId := row.documentId
    operation := row.operation
    state := row.state
    version := row.version
    attempts := row.attempts
    errorCode := row.error
    publicationConfirmed := row.published
    leaseActive := row.state = .running ∧ ∃ leaseUntil ∈ row.leaseUntil, now < leaseUntil
    resultAvailable := ∃ version ∈ row.version, ∃ stored ∈ db.versions,
      stored.tenantId = row.tenant ∧ stored.documentId = row.documentId ∧
        stored.version = version }

/-- `[A-Za-z0-9._:-]` -/
def keyChar (char : Char) : Bool := char.isAlphanum || char ∈ ['.', '_', ':', '-']

def target (request : DocumentRequest) (drawn : Uuid4) : Uuid4 :=
  match request with
  | .ingestion _ => drawn
  | .update request => request.documentId

def newJob (store : SQLiteDocumentStore) (tenantId : String) (request : DocumentRequest)
    (options : ChunkingOptions) (idempotencyKey : String) (documentId jobId : Uuid4)
    (now : Time) : JobRow :=
  { id := jobId
    tenant := tenantId
    documentId
    operation := request.operation
    keyHash := store.sha256 idempotencyKey
    fingerprint := store.sha256 (fingerprintText request.operation request.payload)
    payload := some request.payload
    options := options.dump
    created := now
    updated := now }

/-- `documentId` and `jobId` are the fresh identifiers the call draws. -/
def submitJob (store : SQLiteDocumentStore) (tenantId : String) (raw : RawRequest)
    (operation : JobOperation) (options : ChunkingOptions) (idempotencyKey : String)
    (documentId jobId : Uuid4) (clock : Clock) (db : DocumentDb) :
    Except DocumentError ((DocumentJob × Bool) × DocumentDb) := do
  raiseWhen (Text.fullmatch keyChar 1 128 idempotencyKey = false)
    (.valueError "Invalid idempotency key")
  let request ← raw.validate operation
  identity tenantId
  let row := store.newJob tenantId request options idempotencyKey (target request documentId)
    jobId (clock 0)
  match db.jobs.find? fun old => old.tenant = tenantId ∧ old.keyHash = row.keyHash with
  | some old =>
      raiseWhen (old.fingerprint ≠ row.fingerprint)
        (.documentJobConflict "Idempotency key reused with different input")
      return ((job db old (clock 0), true), db)
  | none =>
      -- The id is a primary key.
      raiseWhen (∃ old ∈ db.jobs, old.id = jobId) .integrityError
      let db := { db with jobs := db.jobs ++ [row] }
      return ((job db (← jobRow db jobId.text tenantId) (clock 1), false), db)

def getJob (jobId tenantId : String) (clock : Clock) (db : DocumentDb) :
    Except DocumentError (DocumentJob × DocumentDb) := do
  return (job db (← jobRow db jobId tenantId) (clock 0), db)

def readRow (row : JobRow) : Except DocumentError (DocumentRequest × ChunkingOptions) := do
  let (request, options) ← readJob row.operation row.payload row.options
  raiseWhen (row.operation = .update ∧ target request row.documentId ≠ row.documentId)
    (.documentStorageCorruption "Document job identity is inconsistent")
  return (request, options)

/-- `token` is the fresh identifier the claim draws. -/
def startAttempt (store : SQLiteDocumentStore) (row : JobRow) (token : String) (clock : Clock)
    (db : DocumentDb) : Except DocumentError (DocumentJobClaim × DocumentDb) := do
  let (request, options) ← readRow row
  let db := db.updateJob row.id fun row =>
    row.claimed token (clock 1 + store.jobLeaseSeconds) (clock 2)
  let row ← jobRow db row.id.text row.tenant
  return ({ job := job db row (clock 3), request, options, token }, db)

def claimJob (store : SQLiteDocumentStore) (jobId tenantId token : String) (clock : Clock)
    (db : DocumentDb) : Except DocumentError (Option DocumentJobClaim × DocumentDb) := do
  let row ← jobRow db jobId tenantId
  if row.state = .succeeded ∨ row.state = .failed then
    return (none, db)
  else
    let active ← attemptActive row (clock 0)
    raiseWhen active (.documentJobConflict "Document job already has an active attempt")
    if store.jobMaxAttempts ≤ row.attempts then
      return (none, db.updateJob row.id JobRow.limited)
    else
      let (claim, db) ← store.startAttempt row token clock db
      return (some claim, db)

/-- `_append` -/
def append (db : DocumentDb) (record : StoredDocumentVersion) :
    Except DocumentError DocumentDb := do
  identity record.tenantId
  raiseWhen (record.version ≠ db.latest record.tenantId record.documentId + 1)
    (.documentVersionConflict "Document version is not the next revision")
  raiseWhen (2 ^ 63 ≤ record.version) .overflowError
  return { db with versions := db.versions ++
    [{ tenantId := record.tenantId, documentId := record.documentId,
       version := record.version, snapshot := record.dump }] }

def claimedRecord (claim : DocumentJobClaim) (record : StoredDocumentVersion) :
    Except DocumentError StoredDocumentVersion := do
  raiseWhen (record.tenantId ≠ claim.job.tenantId)
    (.documentJobConflict "Document job tenant differs from result")
  if claim.job.operation = .create then
    raiseWhen (claim.job.documentId.rfcVariant = false) .validationError
    { record with documentId := claim.job.documentId }.validate
  else
    raiseWhen (record.documentId ≠ claim.job.documentId)
      (.documentJobConflict "Document job target differs from result")
    return record

def expectedRevision (claim : DocumentJobClaim) : Except DocumentError Nat :=
  match claim.job.operation, claim.request with
  | .create, _ => .ok 1
  | .update, .update request => .ok (request.expectedVersion + 1)
  | .update, .ingestion _ => .error .typeError

def ownedJob (db : DocumentDb) (claim : DocumentJobClaim) (now : Time) :
    Except DocumentError JobRow := do
  let row ← jobRow db claim.job.jobId.text claim.job.tenantId
  raiseWhen (row.state ≠ .running ∨ row.token ≠ some claim.token)
    (.documentJobConflict "Document job attempt lost ownership")
  let active ← leaseAfter row.leaseUntil now
  raiseWhen (active = false) (.documentJobConflict "Document job attempt lost ownership")
  return row

def commitJob (claim : DocumentJobClaim) (record : StoredDocumentVersion) (clock : Clock)
    (db : DocumentDb) : Except DocumentError (StoredDocumentVersion × DocumentDb) := do
  let record ← record.validate
  let record ← claimedRecord claim record
  let expected ← expectedRevision claim
  raiseWhen (record.version ≠ expected)
    (.documentJobConflict "Document job revision differs from result")
  let row ← ownedJob db claim (clock 0)
  let db ← append db record
  return (record, db.updateJob row.id fun row => row.succeeded record.version (clock 1))

/-- `[A-Za-z][A-Za-z0-9_]{0,63}` -/
def codePattern (errorCode : String) : Bool :=
  Text.fullmatch (fun char => char.isAlphanum || char == '_') 1 64 errorCode &&
    (errorCode.toList.head?.any Char.isAlpha)

/-- The rows `fail_job` selects: the attempt that the claim still runs. -/
def failing (claim : DocumentJobClaim) (row : JobRow) : Bool :=
  row.id = claim.job.jobId ∧ row.tenant = claim.job.tenantId ∧
    row.token = some claim.token ∧ row.state = .running

def failJob (store : SQLiteDocumentStore) (claim : DocumentJobClaim) (errorCode : String)
    (clock : Clock) (db : DocumentDb) : Except DocumentError (Unit × DocumentDb) := do
  raiseWhen (codePattern errorCode = false) (.valueError "Invalid failure code")
  return ((), db.updateJobs (failing claim) fun row =>
    row.failed errorCode store.jobMaxAttempts (clock 0))

def retryJob (store : SQLiteDocumentStore) (jobId tenantId : String) (clock : Clock)
    (db : DocumentDb) : Except DocumentError (DocumentJob × DocumentDb) := do
  let row ← jobRow db jobId tenantId
  if row.state = .queued then
    return (job db row (clock 0), db)
  else
    let active ← attemptActive row (clock 0)
    raiseWhen (row.state = .succeeded ∨ active ∨ store.jobMaxAttempts ≤ row.attempts ∨
        row.payload = none)
      (.documentJobConflict "Document job cannot be retried")
    let db := db.updateJob row.id fun row => row.requeued (clock 1)
    return (job db (← jobRow db jobId tenantId) (clock 2), db)

def markJobPublished (jobId tenantId : String) (clock : Clock) (db : DocumentDb) :
    Except DocumentError (Unit × DocumentDb) := do
  let row ← jobRow db jobId tenantId
  return ((), db.updateJob row.id fun row => row.markedPublished (clock 0))

def createVersion (record : StoredDocumentVersion) (db : DocumentDb) :
    Except DocumentError (StoredDocumentVersion × DocumentDb) := do
  let record ← record.validate
  return (record, ← append db record)

/-- `_decode` -/
def decode (row : VersionRow) : Except DocumentError StoredDocumentVersion :=
  match StoredDocumentVersion.validateJson row.snapshot with
  | .error _ => .error (.documentStorageCorruption "Stored document snapshot is invalid")
  | .ok record => do
      raiseWhen (record.tenantId ≠ row.tenantId ∨ record.documentId ≠ row.documentId ∨
          record.version ≠ row.version)
        (.documentStorageCorruption "Stored document identity is inconsistent")
      return record

def get (tenantId : String) (documentId : Uuid4) (version : Option Nat) (db : DocumentDb) :
    Except DocumentError (StoredDocumentVersion × DocumentDb) := do
  identity tenantId
  raiseWhen (∃ exact ∈ version, exact < 1 ∨ 2 ^ 63 ≤ exact)
    (.valueError "Version must be a positive SQLite integer")
  let wanted := version.getD (db.latest tenantId documentId)
  match (db.versionsOf tenantId documentId).find? fun row => row.version = wanted with
  | some row => return (← decode row, db)
  | none => throw (.documentNotFound "Document unavailable")

def latestRows (tenantId : String) (db : DocumentDb) : List VersionRow :=
  db.versions.filter fun current => current.tenantId = tenantId ∧
    ¬∃ newer ∈ db.versions, newer.tenantId = current.tenantId ∧
      newer.documentId = current.documentId ∧ current.version < newer.version

/-- `snapshotBytes` is the length of the text that a snapshot is stored as. -/
def readLatestDocuments (snapshotBytes : Dict → Nat) (tenantId : String)
    (maxDocuments maxSnapshotBytes : Int) (db : DocumentDb) :
    Except DocumentError (List StoredDocumentVersion) := do
  raiseWhen (maxDocuments < 1 ∨ maxSnapshotBytes < 1)
    (.valueError "Corpus limits must be positive integers")
  identity tenantId
  let rows := latestRows tenantId db
  raiseWhen (maxDocuments < rows.length ∨
      maxSnapshotBytes < (rows.map fun row => snapshotBytes row.snapshot).sum)
    (.documentCorpusLimitExceeded "Tenant corpus exceeds scan limits")
  (rows.insertionSort fun left right => left.documentId.text ≤ right.documentId.text).mapM decode

def delete (tenantId : String) (documentId : Uuid4) (db : DocumentDb) :
    Except DocumentError (Unit × DocumentDb) := do
  identity tenantId
  raiseWhen (db.versionsOf tenantId documentId = [])
    (.documentNotFound "Document unavailable")
  let db := { db with versions := db.versions.filter fun row =>
    ¬(row.tenantId = tenantId ∧ row.documentId = documentId) }
  return ((), db.updateJobs
    (fun row => row.tenant = tenantId ∧ row.documentId = documentId) JobRow.fenced)

end SQLiteDocumentStore

/-! ## Calls -/

inductive Operation where
  | submitJob (tenantId : String) (request : RawRequest) (operation : JobOperation)
      (options : ChunkingOptions) (idempotencyKey : String) (documentId jobId : Uuid4)
  | getJob (jobId tenantId : String)
  | claimJob (jobId tenantId token : String)
  | commitJob (claim : DocumentJobClaim) (record : StoredDocumentVersion)
  | failJob (claim : DocumentJobClaim) (errorCode : String)
  | retryJob (jobId tenantId : String)
  | markJobPublished (jobId tenantId : String)
  | createVersion (record : StoredDocumentVersion)
  | get (tenantId : String) (documentId : Uuid4) (version : Option Nat)
  | delete (tenantId : String) (documentId : Uuid4)

inductive Reply where
  | submission (job : DocumentJob) (replayed : Bool)
  | job (job : DocumentJob)
  | claim (claim : Option DocumentJobClaim)
  | record (record : StoredDocumentVersion)
  | nothing
  deriving DecidableEq, Repr

namespace Operation

def body (store : SQLiteDocumentStore) (clock : Clock) (db : DocumentDb) :
    Operation → Except DocumentError (Reply × DocumentDb)
  | .submitJob tenantId request operation options key documentId jobId =>
      (fun out => (.submission out.1.1 out.1.2, out.2)) <$>
        store.submitJob tenantId request operation options key documentId jobId clock db
  | .getJob jobId tenantId =>
      (fun out => (.job out.1, out.2)) <$>
        SQLiteDocumentStore.getJob jobId tenantId clock db
  | .claimJob jobId tenantId token =>
      (fun out => (.claim out.1, out.2)) <$> store.claimJob jobId tenantId token clock db
  | .commitJob claim record =>
      (fun out => (.record out.1, out.2)) <$>
        SQLiteDocumentStore.commitJob claim record clock db
  | .failJob claim errorCode =>
      (fun out => (.nothing, out.2)) <$> store.failJob claim errorCode clock db
  | .retryJob jobId tenantId =>
      (fun out => (.job out.1, out.2)) <$> store.retryJob jobId tenantId clock db
  | .markJobPublished jobId tenantId =>
      (fun out => (.nothing, out.2)) <$>
        SQLiteDocumentStore.markJobPublished jobId tenantId clock db
  | .createVersion record =>
      (fun out => (.record out.1, out.2)) <$>
        SQLiteDocumentStore.createVersion record db
  | .get tenantId documentId version =>
      (fun out => (.record out.1, out.2)) <$>
        SQLiteDocumentStore.get tenantId documentId version db
  | .delete tenantId documentId =>
      (fun out => (.nothing, out.2)) <$>
        SQLiteDocumentStore.delete tenantId documentId db

/-- Run the transaction: an error rolls the tables back. -/
def perform (operation : Operation) (store : SQLiteDocumentStore) (clock : Clock)
    (db : DocumentDb) : Except DocumentError Reply × DocumentDb :=
  match operation.body store clock db with
  | .ok (reply, db) => (.ok reply, db)
  | .error error => (.error error, db)

end Operation

end Crewos.Documents

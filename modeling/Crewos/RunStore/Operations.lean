import Crewos.Foundation.Outcome
import Crewos.RunStore.Types

/-! # The operations of the run store

One definition per method. Each is one transaction: it either returns its
result with the new tables or raises, and then `perform` keeps the old ones. -/

namespace Crewos.RunStore

open Foundation

/-! ## The writes

What each `UPDATE` sets, as a change of one row. -/

namespace RunRow

def markedPublished (row : RunRow) (now : Time) : RunRow :=
  { row with published := true, updated := now }

def claimed (row : RunRow) (store : SQLiteRunStore) (token : String) (now : Time) : RunRow :=
  { row with
      state := .running, attempts := row.attempts + 1, leaseToken := some token,
      leaseUntil := some (now + store.leaseSeconds),
      deadline := some (row.deadline.getD (now + row.duration)), updated := now }

def renewed (row : RunRow) (leaseUntil : Time) : RunRow :=
  { row with leaseUntil := some leaseUntil }

def saved (row : RunRow) (checkpoint : Dict) (now leaseUntil : Time) : RunRow :=
  { row with checkpoint, updated := now, leaseUntil := some leaseUntil }

def finished (row : RunRow) (state : RunState) (result : Option Json)
    (error : Option String) (now : Time) : RunRow :=
  { row with
      state, result, error, leaseToken := none, leaseUntil := none, updated := now }

def cancelling (row : RunRow) (live : Bool) (now : Time) : RunRow :=
  { row with
      cancelRequested := true, state := if live then .running else .cancelled,
      updated := now }

def requeued (row : RunRow) (now : Time) : RunRow :=
  { row with
      state := .queued, leaseToken := none, leaseUntil := none, published := false,
      updated := now }

/-- Closed by `get`. Without an error of its own the column is left alone. -/
def abandoned (row : RunRow) (state : RunState) (error : Option String) (now : Time) :
    RunRow :=
  { row with
      state, error := error <|> row.error, leaseToken := none, leaseUntil := none,
      updated := now }

end RunRow

namespace AttemptRow

def expired (row : AttemptRow) (now : Time) : AttemptRow :=
  { row with state := .expired, ended := some now }

def finished (row : AttemptRow) (state : RunState) (error : Option String) (now : Time) :
    AttemptRow :=
  { row with state := .closed state, ended := some now, error }

def abandoned (row : AttemptRow) (state : RunState) (error : Option String) (now : Time) :
    AttemptRow :=
  { row with state := .closed state, ended := some now, error := error <|> row.error }

end AttemptRow

/-! ## The methods -/

namespace SQLiteRunStore

/-- The lease test `claim`, `cancel` and `resume` share. The column is only read
while the run is running; any other run holds no lease. -/
def leaseExpired (row : RunRow) (now : Time) : Except RunStoreError Bool :=
  if row.state = .running then notAfter row.leaseUntil now else .ok true

def newRun (id tenant : String) (job : Dict) (now duration : Time)
    (key : Option String) : RunRow :=
  { id, tenant, job := Dict.sorted job, state := .queued, created := now, updated := now,
    duration, idemKey := key }

/-- The digest under which an idempotency key is stored; an empty key is none. -/
def keyDigest (store : SQLiteRunStore) : Option String → Option String
  | some key => if key = "" then none else some (store.sha256 key)
  | none => none

def existing (db : RunDb) (tenant : String) (key : Option String) : Option RunRow :=
  match key with
  | some key => db.runs.find? fun row => row.tenant = tenant ∧ row.idemKey = some key
  | none => none

/-- The job without its run id; two submissions are the same when these agree. -/
def submission (job : Dict) : Dict :=
  Dict.sorted (job.filter fun field => field.1 ≠ "agent_run_id")

def create (store : SQLiteRunStore) (job : Dict) (duration : Time)
    (idempotencyKey : Option String) (clock : Clock) (db : RunDb) :
    Except RunStoreError (RunRow × RunDb) := do
  raiseWhen (duration ≤ 0) (.valueError "Run duration must be finite and positive")
  let tenant ← textField job "tenant_id"
  let key := store.keyDigest idempotencyKey
  match existing db tenant key with
  | some row =>
      raiseWhen (submission row.job ≠ submission job)
        (.runConflict "Idempotency key reused with different input")
      return (row, db)
  | none =>
      let id ← textField job "agent_run_id"
      -- The id is a primary key.
      raiseWhen (∃ row ∈ db.runs, row.id = id) .integrityError
      let row := newRun id tenant job (clock 0) duration key
      return (row, { db with runs := db.runs ++ [row] })

/-! `get` reconciles an abandoned run before it reads it, in three steps. -/

def abandon (db : RunDb) (row : RunRow) (state : RunState) (error : Option String)
    (updated ended : Time) : RunDb :=
  (db.updateRun row.id fun row => row.abandoned state error updated).updateAttempt
    row.leaseToken fun attempt => attempt.abandoned state error ended

def reconcileCancelled (row : RunRow) (clock : Clock) (db : RunDb) :
    Except RunStoreError RunDb :=
  if row.state = .running ∧ row.cancelRequested then do
    let expired ← notAfter row.leaseUntil (clock 0)
    return if expired then abandon db row .cancelled none (clock 1) (clock 2) else db
  else
    return db

def reconcileUnsafe (row : RunRow) (clock : Clock) (db : RunDb) :
    Except RunStoreError RunDb :=
  if row.state = .running ∧ ¬row.cancelRequested then do
    let expired ← notAfter row.leaseUntil (clock 3)
    return if expired && unsafePending row.checkpoint then
      abandon db row .needsReview (some "UnsafeReplay") (clock 4) (clock 5) else db
  else
    return db

/-- An abandoned run past its deadline. `current` is read after the other two
steps, and the deadline is only looked at once the lease has run out. -/
def reconcileDeadline (current : RunRow) (clock : Clock) (db : RunDb) :
    Except RunStoreError RunDb :=
  if current.state = .running then do
    if ← notAfter current.leaseUntil (clock 6) then
      let late ← notAfter current.deadline (clock 7)
      return if late then
        abandon db current .exhausted (some "AgentDeadlineExceeded") (clock 8) (clock 9)
        else db
    else
      return db
  else
    return db

def get (runId tenantId : String) (clock : Clock) (db : RunDb) :
    Except RunStoreError ((RunRow × List AttemptSummary) × RunDb) := do
  let row ← db.row runId tenantId
  let db ← reconcileCancelled row clock db
  let db ← reconcileUnsafe row clock db
  let current ← db.row runId tenantId
  let db ← reconcileDeadline current clock db
  let data ← db.row runId tenantId
  let history := ((db.attempts.filter fun attempt => attempt.runId = runId).map
    AttemptRow.summary).insertionSort fun left right => left.number ≤ right.number
  return ((data, history), db)

def markPublished (runId tenantId : String) (clock : Clock) (db : RunDb) :
    Except RunStoreError (Unit × RunDb) := do
  let _ ← db.row runId tenantId
  return ((), db.updateRun runId fun row => row.markedPublished (clock 0))

def claimable (store : SQLiteRunStore) (row : RunRow) (now : Time) :
    Except RunStoreError Unit := do
  raiseWhen (row.cancelRequested ∨ row.state = .cancelled) (.runCancelled "Run cancelled")
  raiseWhen (terminal row.state) (.runConflict "Run cannot execute in its current state")
  raiseWhen (row.state = .failed)
    (.runConflict "Explicit resume is required after a failed run")
  let expired ← leaseExpired row now
  raiseWhen (expired = false) (.runConflict "Run already has an active attempt")
  raiseWhen (unsafePending row.checkpoint)
    (.unsafeReplay "Pending tool outcome requires manual review")
  raiseWhen (store.maxAttempts ≤ row.attempts) (.runConflict "Attempt limit reached")

def newAttempt (row : RunRow) (token : String) (now : Time) : AttemptRow :=
  { token, runId := row.id, number := row.attempts + 1, state := .running, started := now }

/-- Expire the attempt that held the lapsed lease and start the next one. The
token is a primary key. -/
def startAttempt (store : SQLiteRunStore) (db : RunDb) (row : RunRow) (token : String)
    (now : Time) : Except RunStoreError RunDb := do
  let db := db.updateAttempt row.leaseToken fun attempt => attempt.expired now
  raiseWhen (∃ attempt ∈ db.attempts, attempt.token = token) .integrityError
  let db := { db with attempts := db.attempts ++ [newAttempt row token now] }
  return db.updateRun row.id fun row => row.claimed store token now

/-- `token` is the fresh identifier the claim draws. -/
def claim (store : SQLiteRunStore) (job : Dict) (token : String) (clock : Clock)
    (db : RunDb) : Except RunStoreError (RunRow × RunDb) := do
  let now := clock 0
  let runId ← textField job "agent_run_id"
  let tenantId ← textField job "tenant_id"
  let row ← db.row runId tenantId
  raiseWhen (row.job ≠ Dict.sorted job)
    (.runConflict "Job differs from registered submission")
  if row.state = .succeeded then
    return (row, db)
  else
    store.claimable row now
    let db ← store.startAttempt db row token now
    return (← db.row row.id row.tenant, db)

def ownedAttempt (db : RunDb) (runId tenantId token : String) (now : Time) :
    Except RunStoreError RunRow := do
  let row ← db.row runId tenantId
  raiseWhen (row.state ≠ .running ∨ row.leaseToken ≠ some token)
    (.runLeaseLost "Attempt no longer owns the run lease")
  let expired ← notAfter row.leaseUntil now
  raiseWhen (expired = true) (.runLeaseLost "Attempt no longer owns the run lease")
  return row

def guard (store : SQLiteRunStore) (runId tenantId token : String) (clock : Clock)
    (db : RunDb) : Except RunStoreError (Time × RunDb) := do
  let row ← ownedAttempt db runId tenantId token (clock 0)
  raiseWhen row.cancelRequested (.runCancelled "Run cancelled")
  let now := clock 1
  let db := db.updateRun runId fun row => row.renewed (now + store.leaseSeconds)
  match row.deadline with
  | some deadline => return (deadline - now, db)
  | none => throw .typeError

def checkpoint (store : SQLiteRunStore) (runId tenantId token : String)
    (saved : Dict) (clock : Clock) (db : RunDb) :
    Except RunStoreError (Unit × RunDb) := do
  let row ← ownedAttempt db runId tenantId token (clock 0)
  raiseWhen row.cancelRequested (.runCancelled "Run cancelled")
  return ((), db.updateRun runId fun row =>
    row.saved saved (clock 1) (clock 2 + store.leaseSeconds))

/-- What a finished attempt records. A requested cancellation overrides whatever
the attempt reports. -/
def verdict (row : RunRow) (state : RunState) (result : Option Json)
    (error : Option String) : RunState × Option Json × Option String :=
  if row.cancelRequested then (.cancelled, none, some "cancelled")
  else (state, result, error)

def finish (runId tenantId token : String) (state : RunState) (result : Option Json)
    (error : Option String) (clock : Clock) (db : RunDb) :
    Except RunStoreError (Unit × RunDb) := do
  raiseWhen (finishable state = false) (.valueError "Invalid terminal state")
  let row ← ownedAttempt db runId tenantId token (clock 0)
  let (state, result, error) := verdict row state result error
  let db := db.updateAttempt (some token) fun attempt =>
    attempt.finished state error (clock 1)
  return ((), db.updateRun runId fun row => row.finished state result error (clock 2))

def cancel (runId tenantId : String) (clock : Clock) (db : RunDb) :
    Except RunStoreError (RunRow × RunDb) := do
  let row ← db.row runId tenantId
  if terminal row.state then
    return (row, db)
  else
    let expired ← leaseExpired row (clock 0)
    let db := db.updateRun runId fun row => row.cancelling (!expired) (clock 1)
    return (← db.row runId tenantId, db)

def resumable (store : SQLiteRunStore) (row : RunRow) (clock : Clock) :
    Except RunStoreError Unit := do
  raiseWhen (row.cancelRequested ∨ terminal row.state) (.runConflict "Run is not resumable")
  let expired ← leaseExpired row (clock 0)
  raiseWhen (expired = false) (.runConflict "Run still has an active attempt")
  raiseWhen (store.maxAttempts ≤ row.attempts) (.runConflict "Attempt limit reached")
  raiseWhen (unsafePending row.checkpoint)
    (.unsafeReplay "Pending write cannot be replayed")
  raiseWhen (∃ deadline ∈ row.deadline, deadline ≤ clock 1)
    (.runConflict "Original run deadline has expired")

def resume (store : SQLiteRunStore) (runId tenantId : String) (clock : Clock)
    (db : RunDb) : Except RunStoreError (RunRow × RunDb) := do
  let row ← db.row runId tenantId
  store.resumable row clock
  let db := db.updateRun runId fun row => row.requeued (clock 2)
  return (← db.row runId tenantId, db)

end SQLiteRunStore

/-! ## Calls -/

inductive Operation where
  | create (job : Dict) (duration : Time) (idempotencyKey : Option String)
  | get (runId tenantId : String)
  | markPublished (runId tenantId : String)
  | claim (job : Dict) (token : String)
  | guard (runId tenantId token : String)
  | checkpoint (runId tenantId token : String) (saved : Dict)
  | finish (runId tenantId token : String) (state : RunState) (result : Option Json)
      (error : Option String)
  | cancel (runId tenantId : String)
  | resume (runId tenantId : String)

inductive Reply where
  | record (row : RunRow)
  | history (row : RunRow) (attempts : List AttemptSummary)
  | remaining (seconds : Time)
  | nothing
  deriving DecidableEq, Repr

namespace Operation

def body (store : SQLiteRunStore) (clock : Clock) (db : RunDb) :
    Operation → Except RunStoreError (Reply × RunDb)
  | .create job duration key =>
      (fun out => (.record out.1, out.2)) <$> store.create job duration key clock db
  | .get runId tenantId =>
      (fun out => (.history out.1.1 out.1.2, out.2)) <$>
        SQLiteRunStore.get runId tenantId clock db
  | .markPublished runId tenantId =>
      (fun out => (.nothing, out.2)) <$> SQLiteRunStore.markPublished runId tenantId clock db
  | .claim job token =>
      (fun out => (.record out.1, out.2)) <$> store.claim job token clock db
  | .guard runId tenantId token =>
      (fun out => (.remaining out.1, out.2)) <$> store.guard runId tenantId token clock db
  | .checkpoint runId tenantId token saved =>
      (fun out => (.nothing, out.2)) <$>
        store.checkpoint runId tenantId token saved clock db
  | .finish runId tenantId token state result error =>
      (fun out => (.nothing, out.2)) <$>
        SQLiteRunStore.finish runId tenantId token state result error clock db
  | .cancel runId tenantId =>
      (fun out => (.record out.1, out.2)) <$> SQLiteRunStore.cancel runId tenantId clock db
  | .resume runId tenantId =>
      (fun out => (.record out.1, out.2)) <$> store.resume runId tenantId clock db

/-- Run the transaction: an error rolls the tables back. -/
def perform (operation : Operation) (store : SQLiteRunStore) (clock : Clock) (db : RunDb) :
    Except RunStoreError Reply × RunDb :=
  match operation.body store clock db with
  | .ok (reply, db) => (.ok reply, db)
  | .error error => (.error error, db)

end Operation

end Crewos.RunStore

import Crewos.Foundation.Clock
import Crewos.Foundation.Json
import Crewos.Foundation.Table

/-! # Durable run records

The two tables of the run database, the errors its operations raise and the
configuration of a store. A TEXT column that holds a JSON dump is kept as the
value that was dumped. -/

namespace Crewos.RunStore

open Foundation

inductive RunState where
  | queued
  | running
  | succeeded
  | failed
  | cancelled
  | exhausted
  | needsReview
  deriving DecidableEq, Repr

/-- The states nothing leaves. -/
def terminal : RunState → Bool
  | .succeeded | .cancelled | .exhausted | .needsReview => true
  | .queued | .running | .failed => false

/-- The states `finish` accepts. -/
def finishable : RunState → Bool
  | .succeeded | .failed | .cancelled | .exhausted | .needsReview => true
  | .queued | .running => false

/-- An attempt runs, has lost its lease to a later claim, or was closed in a
state it shares with its run. -/
inductive AttemptState where
  | running
  | expired
  | closed (state : RunState)
  deriving DecidableEq, Repr

/-- A row of `agent_runs`. -/
structure RunRow where
  id : String
  tenant : String
  job : Dict
  state : RunState
  created : Time
  updated : Time
  attempts : Nat := 0
  leaseToken : Option String := none
  leaseUntil : Option Time := none
  deadline : Option Time := none
  duration : Time
  checkpoint : Dict := []
  result : Option Json := none
  error : Option String := none
  cancelRequested : Bool := false
  idemKey : Option String := none
  published : Bool := false
  deriving DecidableEq, Repr

/-- A row of `agent_attempts`. -/
structure AttemptRow where
  token : String
  runId : String
  number : Nat
  state : AttemptState
  started : Time
  ended : Option Time := none
  error : Option String := none
  deriving DecidableEq, Repr

/-- The columns of an attempt that `get` returns. -/
structure AttemptSummary where
  number : Nat
  state : AttemptState
  started : Time
  ended : Option Time
  error : Option String
  deriving DecidableEq, Repr

def AttemptRow.summary (row : AttemptRow) : AttemptSummary :=
  { number := row.number, state := row.state, started := row.started, ended := row.ended,
    error := row.error }

structure RunDb where
  runs : List RunRow
  attempts : List AttemptRow
  deriving DecidableEq, Repr

def RunDb.empty : RunDb := { runs := [], attempts := [] }

/-- What a store operation can raise, with the message of the source. -/
inductive RunStoreError where
  | runNotFound (message : String)
  | runConflict (message : String)
  | runLeaseLost (message : String)
  | runCancelled (message : String)
  | unsafeReplay (message : String)
  | valueError (message : String)
  | keyError (key : String)
  | typeError
  | integrityError
  | operationalError
  deriving DecidableEq, Repr

/-- The name under which an error is recorded. -/
def RunStoreError.name : RunStoreError → String
  | .runNotFound _ => "RunNotFound"
  | .runConflict _ => "RunConflict"
  | .runLeaseLost _ => "RunLeaseLost"
  | .runCancelled _ => "RunCancelled"
  | .unsafeReplay _ => "UnsafeReplay"
  | .valueError _ => "ValueError"
  | .keyError _ => "KeyError"
  | .typeError => "TypeError"
  | .integrityError => "IntegrityError"
  | .operationalError => "OperationalError"

/-- A configured store. `sha256` is the hexadecimal digest of the standard
library; the model never looks inside it. -/
structure SQLiteRunStore where
  leaseSeconds : Time := 45
  maxAttempts : Nat := 3
  sha256 : String → String
  leasePositive : 0 < leaseSeconds
  attemptsPositive : 1 ≤ maxAttempts

/-! The default limits are positive. -/

theorem SQLiteRunStore.defaultLease_positive : (0 : Time) < 45 := by decide +kernel

theorem SQLiteRunStore.defaultAttempts_positive : 1 ≤ 3 := by decide

/-! ## Rows -/

namespace RunDb

/-- `_row`: the run with this id, when it belongs to the tenant. -/
def row (db : RunDb) (runId tenantId : String) : Except RunStoreError RunRow :=
  match db.runs.find? fun row => row.id = runId ∧ row.tenant = tenantId with
  | some row => .ok row
  | none => .error (.runNotFound "Agent run unavailable")

/-- `UPDATE agent_runs SET … WHERE id=?`. -/
def updateRun (db : RunDb) (runId : String) (change : RunRow → RunRow) : RunDb :=
  { db with runs := Table.update (fun row => row.id = runId) change db.runs }

/-- `UPDATE agent_attempts SET … WHERE token=?`; a NULL token selects nothing. -/
def updateAttempt (db : RunDb) (token : Option String)
    (change : AttemptRow → AttemptRow) : RunDb :=
  { db with attempts := Table.update (fun row => some row.token = token) change db.attempts }

end RunDb

/-- A checkpoint with a pending decision that must not be repeated. -/
def unsafePending (checkpoint : Dict) : Bool :=
  (checkpoint.getD "pending" .null).truthy && !(checkpoint.getD "replay_safe" .null).truthy

/-- `stamp <= now` on a nullable column. -/
def notAfter (stamp : Option Time) (now : Time) : Except RunStoreError Bool :=
  match stamp with
  | some stamp => .ok (stamp ≤ now)
  | none => .error .typeError

def textField (job : Dict) (key : String) : Except RunStoreError String :=
  match job.get? key with
  | some (.str value) => .ok value
  | some _ => .error .typeError
  | none => .error (.keyError key)

end Crewos.RunStore

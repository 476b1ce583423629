import Crewos.RunStore.Columns

/-! # What a client sees of a run

The record that the routes return, and that no row of any history lacks a column
it compares. -/

namespace Crewos.Api

open Foundation RunStore

structure PublicRecord where
  agentRunId : String
  state : RunState
  created : Time
  updated : Time
  attempts : Nat
  publicationConfirmed : Bool
  attemptHistory : List AttemptSummary
  cancelRequested : Bool
  deadline : Option Time
  leaseActive : Bool
  result : Option Json
  errorCode : Option String
  decisions : Json
  reservedTokens : Json
  reportedInputTokens : Json
  reportedOutputTokens : Json
  estimatedCostUsd : Json

/-- The column is read while the run is running only. -/
def leaseActive (record : RunRow) (now : Time) : Except RunStoreError Bool :=
  if record.state = .running then do
    let lapsed ← notAfter record.leaseUntil now
    return !lapsed
  else
    return false

/-- `public_record`. Only the records of `get` have a history. -/
def publicRecord (record : RunRow) (attemptHistory : Option (List AttemptSummary)) (now : Time) :
    Except RunStoreError PublicRecord := do
  let active ← leaseActive record now
  return {
    agentRunId := record.id
    state := record.state
    created := record.created
    updated := record.updated
    attempts := record.attempts
    publicationConfirmed := record.published
    attemptHistory := attemptHistory.getD []
    cancelRequested := record.cancelRequested
    deadline := record.deadline
    leaseActive := active
    result := record.result
    errorCode := record.error
    decisions := record.checkpoint.getD "decisions" (.int 0)
    reservedTokens := record.checkpoint.getD "reserved_tokens" (.int 0)
    reportedInputTokens := record.checkpoint.getD "reported_input_tokens" .null
    reportedOutputTokens := record.checkpoint.getD "reported_output_tokens" .null
    estimatedCostUsd :=
      if (record.checkpoint.getD "pricing_configured" .null).truthy then
        record.checkpoint.getD "reserved_cost" .null
      else .null }

theorem publicRecord_of_present {record : RunRow} (present : record.Present)
    (attemptHistory : Option (List AttemptSummary)) (now : Time) :
    ∃ shown, publicRecord record attemptHistory now = .ok shown := by
  have active : ∃ active, leaseActive record now = .ok active := by
    unfold leaseActive
    split
    · rename_i running
      obtain ⟨leaseUntil, set⟩ := present.leaseUntil running
      rw [set]
      exact ⟨_, rfl⟩
    · exact ⟨false, rfl⟩
  obtain ⟨active, known⟩ := active
  unfold publicRecord
  rw [known]
  exact ⟨_, rfl⟩

/-- A running row without its lease could not be shown. -/
example : publicRecord
    { id := "run", tenant := "acme", job := [], state := .running, created := 0, updated := 0,
      duration := 300 } none 0 = .error .typeError := rfl

/-- After every history of calls, whatever the clocks read, the rows have set what
is compared. No operation raises a `TypeError` but for a job that does not name its
run and tenant, and every record that is returned can be shown. -/
theorem compared_columns_present (calls : List Call) :
    (∀ row ∈ (RunDb.empty.replay calls).runs, row.Present) ∧
      (∀ call : Call,
        (call.operation.perform call.store call.clock (RunDb.empty.replay calls)).1 =
            .error .typeError → call.operation.Unaddressed) ∧
      ∀ (call : Call) (reply : Reply) (record : RunRow),
        (call.operation.perform call.store call.clock (RunDb.empty.replay calls)).1 = .ok reply →
        reply.row? = some record → ∀ attemptHistory now,
          ∃ shown, publicRecord record attemptHistory now = .ok shown := by
  have present := present_of_replay calls
  refine ⟨present, fun call raised => unaddressed_of_typeError present raised,
    fun call reply record returned carries => ?_⟩
  have later := present_of_replay (calls ++ [call])
  rw [replay_snoc] at later
  exact publicRecord_of_present (later record (mem_of_returned returned carries))

end Crewos.Api

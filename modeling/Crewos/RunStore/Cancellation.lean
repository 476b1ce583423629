import Crewos.RunStore.Coherence

/-! # Cancellation

A cancellation is requested while an attempt may still run. From then on the
run only waits to be closed: no operation starts an attempt, saves a checkpoint
or records a result. -/

namespace Crewos.RunStore

open Foundation

/-- What is left of a run after a cancellation was requested on `view`. -/
structure RunView.Winding (view after : RunView) : Prop where
  requested : after.row.cancelRequested = true
  state : after.row.state = .running ∨ after.row.state = .cancelled ∨
    after.row.state = .exhausted
  checkpoint : after.row.checkpoint = view.row.checkpoint
  attempts : after.row.attempts = view.row.attempts
  deadline : after.row.deadline = view.row.deadline
  tokens : after.attempts.map AttemptRow.token = view.attempts.map AttemptRow.token
  result : after.row.result = view.row.result ∨ after.row.result = none

namespace RunView.Winding

variable {view after : RunView}

theorem cancelling (live : Bool) (now : Time) : view.Winding (view.cancelling live now) where
  requested := rfl
  state := by cases live <;> simp [RunView.cancelling, RunRow.cancelling]
  checkpoint := rfl
  attempts := rfl
  deadline := rfl
  tokens := rfl
  result := .inl rfl

theorem abandoned (winding : view.Winding after) {state : RunState} {error : Option String}
    {updated ended : Time} (closes : state = .cancelled ∨ state = .exhausted) :
    view.Winding (after.abandoned state error updated ended) where
  requested := winding.requested
  state := .inr closes
  checkpoint := winding.checkpoint
  attempts := winding.attempts
  deadline := winding.deadline
  tokens := by
    have kept := after.holding_map (fun attempt => attempt.abandoned state error ended)
      AttemptRow.token fun _ => rfl
    exact kept.trans winding.tokens
  result := winding.result

theorem change (winding : view.Winding after) {store : SQLiteRunStore} {clock : Clock}
    {operation : Operation} {later : RunView}
    (change : Change store clock operation after later) : view.Winding later := by
  have refused (wanted : after.row.cancelRequested = false) : False := by
    rw [winding.requested] at wanted
    cases wanted
  cases change with
  | published => exact { winding with }
  | claimed _ _ _ claimable => exact (refused claimable.wanted).elim
  | renewed _ wanted => exact (refused wanted).elim
  | saved _ wanted => exact (refused wanted).elim
  | resumed resumable => exact (refused resumable.wanted).elim
  | @finished _ token =>
      have kept := after.holding_map
        (fun attempt => attempt.finished .cancelled (some "cancelled") (clock 1))
        AttemptRow.token fun _ => rfl
      have verdict : SQLiteRunStore.verdict after.row = fun _ _ _ =>
          (.cancelled, none, some "cancelled") := by
        funext state result error
        simp [SQLiteRunStore.verdict, winding.requested]
      rw [verdict]
      exact
        { requested := winding.requested
          state := .inr (.inl rfl)
          checkpoint := winding.checkpoint
          attempts := winding.attempts
          deadline := winding.deadline
          tokens := kept.trans winding.tokens
          result := .inr rfl }
  | @cancelled _ expired =>
      have again : after.Winding (after.cancelling (!expired) (clock 1)) := .cancelling _ _
      exact { winding with requested := rfl, state := again.state }
  | read reconciled =>
      cases reconciled with
      | cancelled => exact winding.abandoned (.inl rfl)
      | needsReview _ wanted => exact (refused wanted).elim
      | exhausted => exact winding.abandoned (.inr rfl)
      | untouched => exact winding

end RunView.Winding

/-- A result is only reported together with success, as every caller does. -/
def Operation.ReportsOnSuccess : Operation → Prop
  | .finish _ _ _ state result _ => state ≠ .succeeded → result = none
  | _ => True

def RunView.ResultOnSuccess (view : RunView) : Prop :=
  view.row.state ≠ .succeeded → view.row.result = none

theorem result_of_replay {calls : List Call}
    (reports : ∀ call ∈ calls, call.operation.ReportsOnSuccess) {runId : String} {view : RunView}
    (found : (RunDb.empty.replay calls).view runId = some view) :
    view.ResultOnSuccess := by
  refine RunDb.view_invariant (fun _ _ _ _ _ _ _ => rfl) ?_ found
  rintro ⟨store, operation, clock⟩ member view after holds change notSucceeded
  have convention := reports _ member
  cases change with
  | published => exact holds notSucceeded
  | claimed _ _ _ claimable =>
      rcases claimable.idle with queued | abandoned
      · exact holds (by simp [queued])
      · exact holds (by simp [abandoned.running])
  | renewed => exact holds notSucceeded
  | saved => exact holds notSucceeded
  | finished =>
      simp only [RunView.finished, RunRow.finished, SQLiteRunStore.verdict] at notSucceeded ⊢
      split at notSucceeded
      · rename_i requested
        rw [if_pos requested]
      · rename_i wanted
        rw [if_neg wanted]
        exact convention notSucceeded
  | cancelled notFinal => exact holds fun succeeded => by simp [succeeded, terminal] at notFinal
  | resumed resumable =>
      rcases resumable.idle with queued | failed | abandoned
      · exact holds (by simp [queued])
      · exact holds (by simp [failed])
      · exact holds (by simp [abandoned.running])
  | read reconciled =>
      cases reconciled with
      | cancelled abandoned => exact holds (by simp [abandoned.running])
      | needsReview abandoned => exact holds (by simp [abandoned.running])
      | exhausted abandoned => exact holds (by simp [abandoned.running])
      | untouched => exact holds notSucceeded

/-- Whatever is called after a cancellation of a run that is not final: the run
neither succeeds, fails, asks for a review nor waits for another attempt, and
its work is left as it was. -/
theorem cancellation_is_final {first state next later : StoreState} {past rest : List Call}
    {call : Call} {runId : String} {view : RunView} (initial : Initial first)
    (before : Run Step first past state) (found : state.db.view runId = some view)
    (notFinal : terminal view.row.state = false) (step : Step state call next)
    (cancels : call.operation = .cancel runId view.row.tenant)
    (run : Run Step next rest later) :
    ∃ after, later.db.view runId = some after ∧
      (after.row.state ≠ .succeeded ∧ after.row.state ≠ .failed ∧
        after.row.state ≠ .needsReview ∧ after.row.state ≠ .queued) ∧
      after.row.checkpoint = view.row.checkpoint ∧
      after.row.attempts = view.row.attempts ∧
      after.row.deadline = view.row.deadline ∧
      after.attempts.map AttemptRow.token = view.attempts.map AttemptRow.token ∧
      (view.row.result = none → after.row.result = none) ∧
      ((∀ call ∈ past, call.operation.ReportsOnSuccess) → after.row.result = none) := by
  have reachable : Reachable Step Initial state := ⟨first, past, initial, before⟩
  have valid := Reachable.wellFormed reachable
  have coherent := Reachable.coherent reachable found
  obtain rfl := RunDb.id_of_view found
  obtain ⟨expired, lease⟩ := coherent.leaseExpired (call.clock 0)
  have requested : next.db.view view.row.id =
      some (view.cancelling (!expired) (call.clock 1)) := by
    have keeps : ∀ row : RunRow, (row.cancelling (!expired) (call.clock 1)).id = row.id :=
      fun _ => rfl
    rw [step.db, Call.apply, cancels, perform_cancel valid found notFinal lease,
      RunDb.view_updateRun_same keeps, found]
    rfl
  obtain ⟨after, foundAfter, winding⟩ := Run.view_preserves
    (fun _ _ _ _ winding => winding)
    (fun _ _ _ _ _ _ (winding : view.Winding _) change => winding.change change)
    run (Reachable.wellFormed (reachable.run (.single step))) requested
    (RunView.Winding.cancelling _ _)
  have kept : view.row.result = none → after.row.result = none := by
    intro unset
    rcases winding.result with same | same
    · rw [same, unset]
    · exact same
  have states : after.row.state ≠ .succeeded ∧ after.row.state ≠ .failed ∧
      after.row.state ≠ .needsReview ∧ after.row.state ≠ .queued := by
    rcases winding.state with same | same | same <;> simp [same]
  refine ⟨after, foundAfter, states, winding.checkpoint, winding.attempts, winding.deadline,
    winding.tokens, kept, fun reports => kept ?_⟩
  rw [Run.db before, initial] at found
  refine result_of_replay reports found fun succeeded => ?_
  simp [succeeded, terminal] at notFinal

/-- An attempt that still holds the lease reports success too late. -/
theorem cancellation_is_final_late :
    ∃ after, ((Call.instant Sample.store 2
        (.finish "run" "acme" "first" .succeeded (some (.str "done")) none)).apply
        ((Call.instant Sample.store 1 (.cancel "run" "acme")).apply Sample.started)).view
          "run" = some after ∧ after.row.result = none := by
  have found : Sample.started.view "run" = some
      ((Sample.started.view "run").get (by decide +kernel)) := (Option.some_get _).symm
  have cancels : (Call.instant Sample.store 1 (.cancel "run" "acme")).operation = .cancel "run"
      ((Sample.started.view "run").get (by decide +kernel)).row.tenant :=
    congrArg (Operation.cancel "run") (by decide +kernel)
  have initial : Initial { db := RunDb.empty, now := 0 } := rfl
  have final := cancellation_is_final initial Sample.started_run found (by decide +kernel)
    (.instant _ _ (by decide +kernel) _) cancels
    (.single (.instant Sample.store
      (.finish "run" "acme" "first" .succeeded (some (.str "done")) none)
      (by decide +kernel : (1 : Time) ≤ 2) _))
  obtain ⟨after, foundAfter, _, _, _, _, _, kept, _⟩ := final
  exact ⟨after, foundAfter, kept (by decide +kernel)⟩

namespace Sample

def reportedFailure : RunDb :=
  (Call.instant store 1 (.finish "run" "acme" "first" .failed (some (.str "partial")) none)).apply
    started

theorem reportedFailure_run :
    Run Step { db := RunDb.empty, now := 0 }
      ([.instant store 0 (.create job 300 none), .instant store 0 (.claim job "first")] ++
        [.instant store 1 (.finish "run" "acme" "first" .failed (some (.str "partial")) none)])
      { db := reportedFailure, now := 1 } :=
  started_run.append (.single (.instant _ _ (by decide +kernel : (0 : Time) ≤ 1) _))

end Sample

/-- A failure that was reported with a result keeps it through a cancellation. -/
theorem reported_failure_keeps_result : ¬∀ (first state next later : StoreState)
    (past rest : List Call) (call : Call) (runId : String) (view : RunView), Initial first →
    Run Step first past state → state.db.view runId = some view →
    terminal view.row.state = false → Step state call next →
    call.operation = .cancel runId view.row.tenant → Run Step next rest later →
    ∃ after, later.db.view runId = some after ∧ after.row.result = none := by
  intro cleared
  have found : Sample.reportedFailure.view "run" = some
      ((Sample.reportedFailure.view "run").get (by decide +kernel)) := (Option.some_get _).symm
  have cancels : (Call.instant Sample.store 2 (.cancel "run" "acme")).operation = .cancel "run"
      ((Sample.reportedFailure.view "run").get (by decide +kernel)).row.tenant :=
    congrArg (Operation.cancel "run") (by decide +kernel)
  have initial : Initial { db := RunDb.empty, now := 0 } := rfl
  obtain ⟨after, foundAfter, unset⟩ := cleared _ _ _ _ _ [] _ _ _ initial Sample.reportedFailure_run
    found (by decide +kernel) (.instant Sample.store (.cancel "run" "acme")
      (by decide +kernel : (1 : Time) ≤ 2) _) cancels (.nil _)
  have kept : ((Call.instant Sample.store 2 (.cancel "run" "acme")).apply
      Sample.reportedFailure).view "run" = some after := foundAfter
  have held : ((Call.instant Sample.store 2 (.cancel "run" "acme")).apply
      Sample.reportedFailure).view "run" |>.any (fun view => view.row.result.isSome) := by
    decide +kernel
  rw [kept, Option.any_some, unset] at held
  cases held

end Crewos.RunStore

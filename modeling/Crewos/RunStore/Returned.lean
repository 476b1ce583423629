import Crewos.RunStore.Changes

/-! # Calls that returned

What the calls of an attempt did when they returned, as rewritings of one view,
and that a call that raised did nothing. -/

namespace Crewos.RunStore

open Foundation

variable {store : SQLiteRunStore} {clock : Clock} {db next : RunDb}

theorem perform_raised {operation : Operation} {error : RunStoreError}
    (raised : (operation.perform store clock db).1 = .error error) :
    (operation.perform store clock db).2 = db := by
  unfold Operation.perform at raised ⊢
  split at raised
  · cases raised
  · rfl

theorem perform_returned {operation : Operation} {reply : Reply}
    (returned : (operation.perform store clock db).1 = .ok reply) :
    operation.body store clock db = .ok (reply, (operation.perform store clock db).2) := by
  unfold Operation.perform at returned ⊢
  split at returned
  · rename_i ran
    cases returned
    exact ran
  · cases returned

variable {runId tenant token : String}

theorem checkpoint_returned (valid : db.WellFormed) {saved : Dict} {reply : Reply}
    (returned : ((Operation.checkpoint runId tenant token saved).perform store clock db).1 =
      .ok reply) :
    ∃ view updated leaseUntil, view.row.id = runId ∧ view.row.tenant = tenant ∧
      Owned view.row token (clock 0) ∧ view.row.cancelRequested = false ∧
      db.view view.row.id = some view ∧
      db.Rewrites view (view.saved saved updated leaseUntil)
        ((Operation.checkpoint runId tenant token saved).perform store clock db).2 := by
  have ran := perform_returned returned
  simp only [Operation.body, Outcome.map_eq_ok, Prod.exists, Prod.mk.injEq] at ran
  obtain ⟨_, _, ok, -, same⟩ := ran
  obtain ⟨view, found, rfl, owned, wanted, rfl⟩ := SQLiteRunStore.checkpoint_ok valid ok
  obtain rfl := RunDb.id_of_view found
  refine ⟨view, clock 1, clock 2 + store.leaseSeconds, rfl, rfl, owned, wanted, found, ?_⟩
  rw [← same]
  exact .updateRun valid found (fun row => row.saved _ _ _) (fun _ => rfl) fun _ _ held => held

theorem finish_returned (valid : db.WellFormed) {state : RunState} {result : Option Json}
    {error : Option String} {reply : Reply}
    (returned : ((Operation.finish runId tenant token state result error).perform store clock
      db).1 = .ok reply) :
    ∃ view ended updated, view.row.id = runId ∧ view.row.tenant = tenant ∧
      Owned view.row token (clock 0) ∧ db.view view.row.id = some view ∧
      db.Rewrites view (view.finished (SQLiteRunStore.verdict view.row state result error).1
        (SQLiteRunStore.verdict view.row state result error).2.1
        (SQLiteRunStore.verdict view.row state result error).2.2 ended updated)
        ((Operation.finish runId tenant token state result error).perform store clock db).2 := by
  have ran := perform_returned returned
  simp only [Operation.body, Outcome.map_eq_ok, Prod.exists, Prod.mk.injEq] at ran
  obtain ⟨_, _, ok, -, same⟩ := ran
  obtain ⟨view, found, rfl, owned, final, rfl⟩ := SQLiteRunStore.finish_ok valid ok
  obtain rfl := RunDb.id_of_view found
  refine ⟨view, clock 1, clock 2, rfl, rfl, owned, found, ?_⟩
  rw [← same, ← owned.held]
  exact .close valid found (fun attempt => attempt.finished _ _ _)
    (fun row => row.finished _ _ _ _) (fun _ => rfl) (fun _ => rfl) (fun _ => rfl)
    fun _ _ held => by cases held

theorem claim_returned (valid : db.WellFormed) {job : Dict} {record : RunRow}
    (returned : ((Operation.claim job token).perform store clock db).1 = .ok (.record record)) :
    ∃ view, db.view view.row.id = some view ∧
      textField job "agent_run_id" = .ok view.row.id ∧
      textField job "tenant_id" = .ok view.row.tenant ∧ view.row.job = Dict.sorted job ∧
      ((view.row.state = .succeeded ∧ record = view.row ∧
          ((Operation.claim job token).perform store clock db).2 = db) ∨
        (Claimable store view.row (clock 0) ∧
          (∀ attempt ∈ db.attempts, attempt.token ≠ token) ∧
          record = view.row.claimed store token (clock 0) ∧
          db.Rewrites view (view.claimed store token (clock 0))
            ((Operation.claim job token).perform store clock db).2)) := by
  have ran := perform_returned returned
  simp only [Operation.body, Outcome.map_eq_ok, Prod.exists, Prod.mk.injEq, Reply.record.injEq]
    at ran
  obtain ⟨_, _, ok, rfl, same⟩ := ran
  rw [← same]
  exact SQLiteRunStore.claim_ok valid ok

theorem get_returned (valid : db.WellFormed) {row : RunRow} {history : List AttemptSummary}
    (returned : ((Operation.get runId tenant).perform store clock db).1 =
      .ok (.history row history)) :
    ∃ view after, view.row.id = runId ∧ view.row.tenant = tenant ∧
      db.view view.row.id = some view ∧ SQLiteRunStore.Reconciled clock view after ∧
      row = after.row ∧
      db.Rewrites view after ((Operation.get runId tenant).perform store clock db).2 := by
  have ran := perform_returned returned
  simp only [Operation.body, Outcome.map_eq_ok, Prod.exists, Prod.mk.injEq, Reply.history.injEq]
    at ran
  obtain ⟨_, _, _, ok, ⟨rfl, rfl⟩, same⟩ := ran
  obtain ⟨view, after, found, rfl, reconciled, rowEq, rewrites⟩ := SQLiteRunStore.get_ok valid ok
  obtain rfl := RunDb.id_of_view found
  exact ⟨view, after, rfl, rfl, found, reconciled, rowEq, same ▸ rewrites⟩

end Crewos.RunStore

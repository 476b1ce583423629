import Crewos.RunStore.Coherence

/-! # The lifecycle of a run

Which changes lead from which state to which, and what stays as it is once a run
has reached a terminal state. -/

namespace Crewos.RunStore

open Foundation

/-- The columns and attempt rows that outlive the end of a run. -/
structure RunView.Frozen (before after : RunView) : Prop where
  state : after.row.state = before.row.state
  result : after.row.result = before.row.result
  error : after.row.error = before.row.error
  checkpoint : after.row.checkpoint = before.row.checkpoint
  attempts : after.row.attempts = before.row.attempts
  deadline : after.row.deadline = before.row.deadline
  ledger : after.attempts = before.attempts

theorem RunView.Frozen.refl (view : RunView) : view.Frozen view :=
  ⟨rfl, rfl, rfl, rfl, rfl, rfl, rfl⟩

/-- Neither the owner of a lease, nor a claim, a cancellation, a resumption or a
reconciliation finds a run in a terminal state. -/
theorem Change.frozen {store : SQLiteRunStore} {clock : Clock} {operation : Operation}
    {first view after : RunView} (change : Change store clock operation view after)
    (frozen : first.Frozen view) (final : terminal view.row.state = true) :
    first.Frozen after := by
  have notRunning : view.row.state ≠ .running := by
    intro running
    rw [running] at final
    cases final
  have notQueued : view.row.state ≠ .queued := by
    intro queued
    rw [queued] at final
    cases final
  have notFailed : view.row.state ≠ .failed := by
    intro failed
    rw [failed] at final
    cases final
  cases change with
  | published =>
      exact ⟨frozen.state, frozen.result, frozen.error, frozen.checkpoint, frozen.attempts,
        frozen.deadline, frozen.ledger⟩
  | claimed _ _ _ claimable =>
      rcases claimable.idle with queued | abandoned
      · exact absurd queued notQueued
      · exact absurd abandoned.running notRunning
  | renewed owned => exact absurd owned.running notRunning
  | saved owned => exact absurd owned.running notRunning
  | finished owned => exact absurd owned.running notRunning
  | cancelled notFinal =>
      rw [final] at notFinal
      cases notFinal
  | resumed resumable =>
      rcases resumable.idle with queued | failed | abandoned
      · exact absurd queued notQueued
      · exact absurd failed notFailed
      · exact absurd abandoned.running notRunning
  | read reconciled =>
      cases reconciled with
      | cancelled abandoned => exact absurd abandoned.running notRunning
      | needsReview abandoned => exact absurd abandoned.running notRunning
      | exhausted abandoned => exact absurd abandoned.running notRunning
      | untouched => exact frozen

theorem RunDb.frozen_replay {db : RunDb} (valid : db.WellFormed) {runId : String}
    {view : RunView} (found : db.view runId = some view)
    (final : terminal view.row.state = true) (future : List Call) :
    ∃ after, (db.replay future).view runId = some after ∧ view.Frozen after := by
  refine @RunDb.replay_preserves view.Frozen future ?_ db valid runId view found (.refl view)
  intro call _ reached after frozen change
  exact change.frozen frozen (frozen.state ▸ final)

/-! ## After a failure -/

theorem Change.of_failed {store : SQLiteRunStore} {clock : Clock} {operation : Operation}
    {view after : RunView} (change : Change store clock operation view after)
    (failed : view.row.state = .failed) :
    after.attempts = view.attempts ∧ after.row.attempts = view.row.attempts ∧
      (after.row.state = .failed ∨
        (after.row.state = .queued ∧ operation = .resume view.row.id view.row.tenant) ∨
        (after.row.state = .cancelled ∧ operation = .cancel view.row.id view.row.tenant)) := by
  have notRunning : view.row.state ≠ .running := by simp [failed]
  cases change with
  | published => exact ⟨rfl, rfl, .inl failed⟩
  | claimed _ _ _ claimable =>
      rcases claimable.idle with queued | abandoned
      · rw [failed] at queued
        cases queued
      · exact absurd abandoned.running notRunning
  | renewed owned => exact absurd owned.running notRunning
  | saved owned => exact absurd owned.running notRunning
  | finished owned => exact absurd owned.running notRunning
  | cancelled _ lease =>
      rcases SQLiteRunStore.leaseExpired_eq_ok.mp lease with ⟨running, _⟩ | ⟨_, rfl⟩
      · exact absurd running notRunning
      · exact ⟨rfl, rfl, .inr (.inr ⟨rfl, rfl⟩)⟩
  | resumed => exact ⟨rfl, rfl, .inr (.inl ⟨rfl, rfl⟩)⟩
  | read reconciled =>
      cases reconciled with
      | cancelled abandoned => exact absurd abandoned.running notRunning
      | needsReview abandoned => exact absurd abandoned.running notRunning
      | exhausted abandoned => exact absurd abandoned.running notRunning
      | untouched => exact ⟨rfl, rfl, .inl failed⟩

/-- A run that has failed and is not resumed: it stays failed or is cancelled, and
no attempt is added. -/
structure RunView.Halted (first view : RunView) : Prop where
  id : view.row.id = first.row.id
  tenant : view.row.tenant = first.row.tenant
  state : view.row.state = .failed ∨ view.row.state = .cancelled
  attempts : view.row.attempts = first.row.attempts
  ledger : view.attempts = first.attempts

theorem Change.id {store : SQLiteRunStore} {clock : Clock} {operation : Operation}
    {view after : RunView} (change : Change store clock operation view after) :
    after.row.id = view.row.id := by
  cases change with
  | read reconciled => cases reconciled <;> rfl
  | _ => rfl

theorem Change.halted {store : SQLiteRunStore} {clock : Clock} {operation : Operation}
    {first view after : RunView} (change : Change store clock operation view after)
    (halted : first.Halted view)
    (notResumed : operation ≠ .resume first.row.id first.row.tenant) : first.Halted after := by
  have sameId := change.id.trans halted.id
  have sameTenant := change.tenant.trans halted.tenant
  rcases halted.state with failed | cancelled
  · obtain ⟨ledger, attempts, state⟩ := change.of_failed failed
    refine ⟨sameId, sameTenant, ?_, attempts.trans halted.attempts, ledger.trans halted.ledger⟩
    rcases state with failed | ⟨_, resumes⟩ | ⟨cancelled, _⟩
    · exact .inl failed
    · rw [halted.id, halted.tenant] at resumes
      exact absurd resumes notResumed
    · exact .inr cancelled
  · have frozen := change.frozen (.refl view) (by simp [cancelled, terminal])
    exact ⟨sameId, sameTenant, .inr (frozen.state.trans cancelled),
      frozen.attempts.trans halted.attempts, frozen.ledger.trans halted.ledger⟩

/-! ## Starting, counting and finishing -/

theorem Change.starts {store : SQLiteRunStore} {clock : Clock} {operation : Operation}
    {view after : RunView} (change : Change store clock operation view after)
    (running : after.row.state = .running) :
    view.row.state = .running ∨ ∃ job token, operation = .claim job token := by
  cases change with
  | published => exact .inl running
  | claimed => exact .inr ⟨_, _, rfl⟩
  | renewed => exact .inl running
  | saved => exact .inl running
  | finished _ final => exact absurd running (RunView.Coherent.verdict_ne_running final)
  | @cancelled _ expired _ lease =>
      rcases SQLiteRunStore.leaseExpired_eq_ok.mp lease with ⟨runs, _⟩ | ⟨_, rfl⟩
      · exact .inl runs
      · cases running
  | resumed => cases running
  | read reconciled =>
      cases reconciled with
      | untouched => exact .inl running
      | _ => cases running

/-- A result comes from a finish under a live lease, and not for a cancelled run. -/
theorem Change.result {store : SQLiteRunStore} {clock : Clock} {operation : Operation}
    {view after : RunView} (change : Change store clock operation view after) {result : Json}
    (written : after.row.result = some result) :
    view.row.result = some result ∨ ∃ token state error,
      operation = .finish view.row.id view.row.tenant token state (some result) error ∧
        Owned view.row token (clock 0) ∧ view.row.cancelRequested = false := by
  cases change with
  | @finished _ token state result' error owned final =>
      simp only [RunView.finished, RunRow.finished, SQLiteRunStore.verdict] at written
      split at written
      · cases written
      · rename_i wanted
        cases written
        exact .inr ⟨token, state, error, rfl, owned, by simpa using wanted⟩
  | read reconciled => cases reconciled <;> exact .inl written
  | _ => exact .inl written

/-- The attempts stay within the bound, and a queued run has one left. -/
structure RunView.Bounded (most : Nat) (view : RunView) : Prop where
  attempts : view.row.attempts ≤ most
  queued : view.row.state = .queued → view.row.attempts < most

theorem Change.bounded {store : SQLiteRunStore} {clock : Clock} {operation : Operation}
    {view after : RunView} (change : Change store clock operation view after)
    (bounded : view.Bounded store.maxAttempts) : after.Bounded store.maxAttempts := by
  cases change with
  | published => exact ⟨bounded.attempts, bounded.queued⟩
  | claimed _ _ _ claimable => exact ⟨claimable.attempts, fun queued => by cases queued⟩
  | renewed => exact ⟨bounded.attempts, bounded.queued⟩
  | saved => exact ⟨bounded.attempts, bounded.queued⟩
  | finished _ final =>
      refine ⟨bounded.attempts, fun queued => ?_⟩
      simp only [RunView.finished, RunRow.finished, SQLiteRunStore.verdict] at queued
      split at queued
      · cases queued
      · dsimp only at queued
        rw [queued] at final
        cases final
  | @cancelled _ expired =>
      refine ⟨bounded.attempts, fun queued => ?_⟩
      cases expired <;> cases queued
  | resumed resumable => exact ⟨bounded.attempts, fun _ => resumable.attempts⟩
  | read reconciled =>
      cases reconciled with
      | untouched => exact bounded
      | _ => exact ⟨bounded.attempts, fun queued => by cases queued⟩

theorem RunDb.bounded_replay {past : List Call} {most : Nat}
    (fixed : ∀ call ∈ past, call.store.maxAttempts = most) {runId : String} {view : RunView}
    (found : (RunDb.empty.replay past).view runId = some view) : view.Bounded most := by
  have positive : 1 ≤ most := by
    cases past with
    | nil => simp [RunDb.replay, RunDb.view, RunDb.find, RunDb.empty, Table.find] at found
    | cons call calls => exact fixed call List.mem_cons_self ▸ call.store.attemptsPositive
  refine @RunDb.view_invariant (RunView.Bounded most) past ?_ ?_ runId view found
  · intro id tenant job now duration key
    exact ⟨Nat.zero_le _, fun _ => positive⟩
  · intro call member view after bounded change
    have same := fixed call member
    subst same
    exact change.bounded bounded

/-- The lifecycle of a run over every history of the nine operations. -/
theorem run_lifecycle (past : List Call) (runId : String) :
    (∀ view, (RunDb.empty.replay past).view runId = some view →
      (terminal view.row.state = true → ∀ future, ∃ after,
        ((RunDb.empty.replay past).replay future).view runId = some after ∧
          view.Frozen after) ∧
      (view.row.state = .failed →
        (∀ call after, (Call.apply call (RunDb.empty.replay past)).view runId = some after →
          after.row.state = .failed ∨
          (after.row.state = .queued ∧
            call.operation = .resume view.row.id view.row.tenant) ∨
          (after.row.state = .cancelled ∧
            call.operation = .cancel view.row.id view.row.tenant)) ∧
        ∀ future, (∀ call ∈ future, call.operation ≠ .resume view.row.id view.row.tenant) →
          ∃ after, ((RunDb.empty.replay past).replay future).view runId = some after ∧
            after.row.state ≠ .running ∧ after.row.attempts = view.row.attempts ∧
            after.attempts = view.attempts) ∧
      ∀ most, (∀ call ∈ past, call.store.maxAttempts = most) →
        view.row.attempts ≤ most ∧ (view.row.state = .queued → view.row.attempts < most)) ∧
    ∀ call after, (Call.apply call (RunDb.empty.replay past)).view runId = some after →
      (after.row.state = .running →
        (∃ view, (RunDb.empty.replay past).view runId = some view ∧
          view.row.state = .running) ∨ ∃ job token, call.operation = .claim job token) ∧
      ∀ result, after.row.result = some result →
        ∃ view, (RunDb.empty.replay past).view runId = some view ∧
          (view.row.result = some result ∨ ∃ token state error,
            call.operation =
                .finish view.row.id view.row.tenant token state (some result) error ∧
              Owned view.row token (call.clock 0) ∧ view.row.cancelRequested = false) := by
  have valid := wellFormed_replay past .empty
  have step (call : Call) := (Effect.of_perform valid call.store call.clock call.operation).view
    valid runId
  refine ⟨fun view found => ⟨?ends, ?fails, ?bounds⟩, fun call after foundAfter => ?_⟩
  case ends =>
    intro final future
    exact RunDb.frozen_replay valid found final future
  case fails =>
    intro failed
    refine ⟨fun call after foundAfter => ?_, fun future notResumed => ?_⟩
    · have here := step call
      rw [found, show (call.operation.perform call.store call.clock _).2.view runId = some after
        from foundAfter] at here
      cases here with
      | same => exact .inl failed
      | created absent => cases absent
      | changed present change =>
          cases present
          exact (change.of_failed failed).2.2
    · obtain ⟨after, foundAfter, halted⟩ := @RunDb.replay_preserves view.Halted future
        (fun call member _ _ halted change => change.halted halted (notResumed call member))
        _ valid runId view found ⟨rfl, rfl, .inl failed, rfl, rfl⟩
      refine ⟨after, foundAfter, ?_, halted.attempts, halted.ledger⟩
      rcases halted.state with failed | cancelled
      · simp [failed]
      · simp [cancelled]
  case bounds =>
    intro most fixed
    have bounded := RunDb.bounded_replay fixed found
    exact ⟨bounded.attempts, bounded.queued⟩
  have here := step call
  rw [show (call.operation.perform call.store call.clock _).2.view runId = some after
    from foundAfter] at here
  generalize before : (RunDb.empty.replay past).view runId = earlier at here
  cases here with
  | same =>
      exact ⟨fun running => .inl ⟨after, rfl, running⟩,
        fun result written => ⟨after, rfl, .inl written⟩⟩
  | created =>
      refine ⟨fun running => ?_, fun result written => ?_⟩
      · cases running
      · cases written
  | changed present change =>
      refine ⟨fun running => ?_, fun result written => ?_⟩
      · exact (change.starts running).imp_left fun runs => ⟨_, present, runs⟩
      · exact ⟨_, present, change.result written⟩

end Crewos.RunStore

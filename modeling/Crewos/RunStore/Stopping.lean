import Crewos.RunStore.Fencing

/-! # Attempts that cannot go on

A cancellation, a lost lease and a passed deadline are never taken back: from
then on a guard of the attempt does not return time to work in. -/

namespace Crewos.RunStore

open Foundation

/-- The run is cancelled or its lease is lost. -/
def Stopped (view : RunView) (token : String) (now : Time) : Prop :=
  view.row.cancelRequested = true ∨ ¬Owned view.row token now

def Late (view : RunView) (now : Time) : Prop :=
  ∃ deadline, view.row.deadline = some deadline ∧ deadline ≤ now

theorem Change.cancelRequested {store : SQLiteRunStore} {clock : Clock} {operation : Operation}
    {view after : RunView} (change : Change store clock operation view after)
    (requested : view.row.cancelRequested = true) : after.row.cancelRequested = true := by
  cases change with
  | cancelled => rfl
  | read reconciled => cases reconciled <;> exact requested
  | _ => exact requested

theorem Change.deadline {store : SQLiteRunStore} {clock : Clock} {operation : Operation}
    {view after : RunView} (change : Change store clock operation view after) {deadline : Time}
    (set : view.row.deadline = some deadline) : after.row.deadline = some deadline := by
  cases change with
  | claimed => simp [RunView.claimed, RunRow.claimed, set]
  | read reconciled => cases reconciled <;> exact set
  | _ => exact set

theorem Change.issuedToken {store : SQLiteRunStore} {clock : Clock} {operation : Operation}
    {view after : RunView} (change : Change store clock operation view after) {token : String}
    (issued : Issued view token) : Issued after token := by
  obtain ⟨attempt, member, rfl⟩ := List.mem_map.mp issued
  have kept := change.issued (List.mem_map_of_mem member)
  obtain ⟨other, otherMember, same⟩ := List.mem_map.mp kept
  exact List.mem_map.mpr ⟨other, otherMember, (Prod.mk.inj same).1⟩

theorem Stopped.wait {view : RunView} {token : String} {now later : Time}
    (stopped : Stopped view token now) (forward : now ≤ later) : Stopped view token later :=
  stopped.imp_right fun notOwned owned => notOwned (owned.earlier forward)

theorem Late.wait {view : RunView} {now later : Time} (late : Late view now)
    (forward : now ≤ later) : Late view later := by
  obtain ⟨deadline, set, passed⟩ := late
  exact ⟨deadline, set, passed.trans forward⟩

theorem Stopped.change {call : Call} {now later : Time} {view after : RunView} {token : String}
    (stopped : Stopped view token now) (timed : call.Timed now later)
    (issued : Issued view token)
    (change : Change call.store call.clock call.operation view after) :
    Stopped after token later := by
  rcases stopped with requested | notOwned
  · exact .inl (change.cancelRequested requested)
  · exact .inr (change.staysLost timed issued notOwned)

theorem Late.change {call : Call} {now later : Time} {view after : RunView} (late : Late view now)
    (timed : call.Timed now later)
    (change : Change call.store call.clock call.operation view after) : Late after later := by
  obtain ⟨deadline, set, passed⟩ := late
  exact ⟨deadline, change.deadline set, passed.trans timed.forward⟩

theorem perform_guard {call : Call} {state next : StoreState} (step : Step state call next)
    (valid : state.db.WellFormed) {runId tenant token : String}
    (guards : call.operation = .guard runId tenant token) {remaining : Time}
    (returned : (call.operation.perform call.store call.clock state.db).1 =
      .ok (.remaining remaining)) (positive : 0 < remaining) :
    ∃ view, state.db.view runId = some view ∧ ¬Stopped view token state.now ∧
      ¬Late view state.now := by
  have inside : state.now ≤ call.clock 0 := step.timed.after (by rw [guards]; trivial)
  rw [guards] at returned
  unfold Operation.perform at returned
  cases ran : (Operation.guard runId tenant token).body call.store call.clock state.db with
  | error => rw [ran] at returned; cases returned
  | ok out =>
      rw [ran] at returned
      simp only [Operation.body, Outcome.map_eq_ok, Prod.exists] at ran
      obtain ⟨seconds, db, ok, rfl⟩ := ran
      cases returned
      obtain ⟨view, deadline, found, _, owned, wanted, set, same, _⟩ :=
        SQLiteRunStore.guard_ok valid ok
      refine ⟨view, found, ?_, ?_⟩
      · rintro (requested | notOwned)
        · rw [wanted] at requested
          cases requested
        · exact notOwned (owned.earlier inside)
      · rintro ⟨other, otherSet, passed⟩
        rw [set] at otherSet
        cases otherSet
        have later := step.timed.monotone (Nat.zero_le 1)
        have left : 0 < deadline - call.clock 1 := same ▸ positive
        exact absurd (sub_pos.mp left) (not_lt.mpr ((passed.trans inside).trans later))

theorem perform_checkpoint {call : Call} {state next : StoreState} (step : Step state call next)
    (valid : state.db.WellFormed) {runId tenant token : String} {saved : Dict}
    (writes : call.operation = .checkpoint runId tenant token saved) {reply : Reply}
    (returned : (call.operation.perform call.store call.clock state.db).1 = .ok reply) :
    ∃ view, state.db.view runId = some view ∧ ¬Stopped view token state.now := by
  have inside : state.now ≤ call.clock 0 := step.timed.after (by rw [writes]; trivial)
  rw [writes] at returned
  unfold Operation.perform at returned
  cases ran : (Operation.checkpoint runId tenant token saved).body call.store call.clock
      state.db with
  | error => rw [ran] at returned; cases returned
  | ok out =>
      simp only [Operation.body, Outcome.map_eq_ok, Prod.exists] at ran
      obtain ⟨_, db, ok, _⟩ := ran
      obtain ⟨view, found, _, owned, wanted, _⟩ := SQLiteRunStore.checkpoint_ok valid ok
      refine ⟨view, found, ?_⟩
      rintro (requested | notOwned)
      · rw [wanted] at requested
        cases requested
      · exact notOwned (owned.earlier inside)

end Crewos.RunStore

import Crewos.RunStore.Changes

/-! # Invariants of every run

What holds of a run and its attempts after any sequence of calls, whatever the
clocks read: numbering, and which columns are set. -/

namespace Crewos.RunStore

open Foundation

namespace RunView

theorem holding_map (view : RunView) (change : AttemptRow → AttemptRow) (field : AttemptRow → α)
    (keeps : ∀ attempt, field (change attempt) = field attempt) :
    (view.holding change).map field = view.attempts.map field :=
  Table.map_update _ _ _ keeps _

theorem mem_holding {view : RunView} {change : AttemptRow → AttemptRow} {attempt : AttemptRow} :
    attempt ∈ view.holding change ↔ ∃ old ∈ view.attempts,
      attempt = if some old.token = view.row.leaseToken then change old else old := by
  simp [holding, Table.mem_update]

/-- The attempts are numbered from one, their tokens are distinct, and the
nullable columns are set when they are used. -/
structure Coherent (view : RunView) : Prop where
  numbered : view.attempts.map AttemptRow.number = List.range' 1 view.row.attempts
  tokens : (view.attempts.map AttemptRow.token).Nodup
  leaseToken : view.row.state = .running → ∃ token, view.row.leaseToken = some token
  leaseUntil : view.row.state = .running → ∃ leaseUntil, view.row.leaseUntil = some leaseUntil
  deadline : 1 ≤ view.row.attempts ↔ ∃ deadline, view.row.deadline = some deadline
  newest : ∀ token, view.row.leaseToken = some token →
    (view.attempts.map AttemptRow.token).getLast? = some token

namespace Coherent

variable {view : RunView}

theorem length (coherent : view.Coherent) : view.attempts.length = view.row.attempts := by
  have lengths := congrArg List.length coherent.numbered
  simpa using lengths

theorem leaseExpired (coherent : view.Coherent) (now : Time) :
    ∃ expired, SQLiteRunStore.leaseExpired view.row now = .ok expired := by
  by_cases running : view.row.state = .running
  · obtain ⟨leaseUntil, set⟩ := coherent.leaseUntil running
    exact ⟨_, SQLiteRunStore.leaseExpired_eq_ok.mpr (.inl ⟨running, leaseUntil, set, rfl⟩)⟩
  · exact ⟨true, SQLiteRunStore.leaseExpired_eq_ok.mpr (.inr ⟨running, rfl⟩)⟩

theorem created (id tenant : String) (job : Dict) (now duration : Time)
    (key : Option String) :
    Coherent { row := SQLiteRunStore.newRun id tenant job now duration key, attempts := [] } := by
  constructor <;> simp [SQLiteRunStore.newRun]

theorem rewrite {after : RunView} (coherent : view.Coherent)
    (numbers : after.attempts.map AttemptRow.number = view.attempts.map AttemptRow.number)
    (tokens : after.attempts.map AttemptRow.token = view.attempts.map AttemptRow.token)
    (attempts : after.row.attempts = view.row.attempts)
    (deadline : after.row.deadline = view.row.deadline)
    (running : after.row.state = .running →
      view.row.state = .running ∧ after.row.leaseToken = view.row.leaseToken ∧
        after.row.leaseUntil.isSome = view.row.leaseUntil.isSome)
    (lease : ∀ token, after.row.leaseToken = some token → view.row.leaseToken = some token) :
    after.Coherent := by
  constructor
  · rw [numbers, attempts, coherent.numbered]
  · rw [tokens]
    exact coherent.tokens
  · intro runs
    obtain ⟨before, same, _⟩ := running runs
    rw [same]
    exact coherent.leaseToken before
  · intro runs
    obtain ⟨before, _, same⟩ := running runs
    obtain ⟨leaseUntil, set⟩ := coherent.leaseUntil before
    rw [set, Option.isSome_some, Option.isSome_iff_exists] at same
    exact same
  · rw [attempts, deadline]
    exact coherent.deadline
  · intro token held
    rw [tokens]
    exact coherent.newest token (lease token held)

theorem claimed (coherent : view.Coherent) (store : SQLiteRunStore) {token : String}
    (now : Time) (fresh : ∀ attempt ∈ view.attempts, attempt.token ≠ token) :
    (view.claimed store token now).Coherent := by
  have numbers := view.holding_map (fun attempt => attempt.expired now)
    AttemptRow.number fun _ => rfl
  have tokens := view.holding_map (fun attempt => attempt.expired now)
    AttemptRow.token fun _ => rfl
  constructor
  · simp only [RunView.claimed, List.map_append, numbers, coherent.numbered, RunRow.claimed,
      SQLiteRunStore.newAttempt, List.map_cons, List.map_nil]
    rw [List.range'_1_concat, Nat.add_comm 1]
  · simp only [RunView.claimed, List.map_append, tokens, SQLiteRunStore.newAttempt,
      List.map_cons, List.map_nil]
    rw [List.nodup_append]
    refine ⟨coherent.tokens, by simp, ?_⟩
    intro old member other isNew
    obtain ⟨attempt, attemptMember, rfl⟩ := List.mem_map.mp member
    rw [List.mem_singleton] at isNew
    exact isNew ▸ fresh attempt attemptMember
  · exact fun _ => ⟨token, rfl⟩
  · exact fun _ => ⟨_, rfl⟩
  · simp [RunView.claimed, RunRow.claimed]
  · intro other held
    cases held
    simp [RunView.claimed, SQLiteRunStore.newAttempt]

theorem abandoned (coherent : view.Coherent) {state : RunState} {error : Option String}
    {updated ended : Time} (stopped : state ≠ .running) :
    (view.abandoned state error updated ended).Coherent :=
  coherent.rewrite (view.holding_map _ _ fun _ => rfl) (view.holding_map _ _ fun _ => rfl)
    rfl rfl (fun runs => absurd runs stopped) fun _ held => by cases held

theorem verdict_ne_running {row : RunRow} {state : RunState} {result : Option Json}
    {error : Option String} (final : finishable state = true) :
    (SQLiteRunStore.verdict row state result error).1 ≠ .running := by
  unfold SQLiteRunStore.verdict
  split
  · simp
  · rintro rfl
    simp [finishable] at final

theorem change (coherent : view.Coherent) {store : SQLiteRunStore} {clock : Clock}
    {operation : Operation} {after : RunView}
    (change : Change store clock operation view after) : after.Coherent := by
  cases change with
  | published =>
      exact coherent.rewrite rfl rfl rfl rfl (fun runs => ⟨runs, rfl, rfl⟩)
        fun _ held => held
  | claimed _ _ _ _ fresh => exact coherent.claimed store _ fresh
  | renewed owned =>
      obtain ⟨leaseUntil, set, _⟩ := owned.live
      exact coherent.rewrite rfl rfl rfl rfl
        (fun runs => ⟨runs, rfl, by simp [RunView.renewed, RunRow.renewed, set]⟩)
        fun _ held => held
  | saved owned =>
      obtain ⟨leaseUntil, set, _⟩ := owned.live
      exact coherent.rewrite rfl rfl rfl rfl
        (fun runs => ⟨runs, rfl, by simp [RunView.saved, RunRow.saved, set]⟩)
        fun _ held => held
  | finished owned final =>
      exact coherent.rewrite (view.holding_map _ _ fun _ => rfl)
        (view.holding_map _ _ fun _ => rfl) rfl rfl
        (fun runs => absurd runs (verdict_ne_running final)) fun _ held => by cases held
  | @cancelled _ expired _ lease =>
      refine coherent.rewrite rfl rfl rfl rfl (fun runs => ⟨?_, rfl, rfl⟩) fun _ held => held
      -- A run that still runs after the request had a live lease.
      cases expired with
      | true => cases runs
      | false =>
          rcases SQLiteRunStore.leaseExpired_eq_ok.mp lease with ⟨running, _⟩ | ⟨_, wrong⟩
          · exact running
          · cases wrong
  | resumed =>
      exact coherent.rewrite rfl rfl rfl rfl (fun runs => by cases runs)
        fun _ held => by cases held
  | read reconciled =>
      cases reconciled with
      | cancelled => exact coherent.abandoned (by simp)
      | needsReview => exact coherent.abandoned (by simp)
      | exhausted => exact coherent.abandoned (by simp)
      | untouched => exact coherent

end Coherent

end RunView

/-- Every run of every history is coherent. -/
theorem coherent_of_replay {calls : List Call} {runId : String} {view : RunView}
    (found : (RunDb.empty.replay calls).view runId = some view) : view.Coherent :=
  RunDb.view_invariant .created (fun _ _ _ _ coherent change => coherent.change change) found

theorem Reachable.coherent {state : StoreState} (reachable : Reachable Step Initial state)
    {runId : String} {view : RunView} (found : state.db.view runId = some view) :
    view.Coherent := by
  obtain ⟨first, calls, initial, run⟩ := reachable
  rw [Run.db run, initial] at found
  exact coherent_of_replay found

end Crewos.RunStore

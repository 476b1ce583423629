import Mathlib.Data.Fintype.EquivFin
import Crewos.RunStore.Lifecycle

/-! # Abandoned runs

What reading, claiming and resuming a run do whose lease has run out. A read
and a resumption look at the deadline of the run, a claim does not. -/

namespace Crewos.RunStore

open Foundation

/-- A job that was registered as this run. -/
structure Registered (row : RunRow) (job : Dict) : Prop where
  idField : textField job "agent_run_id" = .ok row.id
  tenantField : textField job "tenant_id" = .ok row.tenant
  same : row.job = Dict.sorted job

def Leads (store : SQLiteRunStore) (now : Time) (operation : Operation) (db : RunDb)
    (runId : String) (after : RunView) : Prop :=
  ((Call.instant store now operation).apply db).view runId = some after

/-- A read of the run would move it to a final state. -/
def Closes (store : SQLiteRunStore) (now : Time) (db : RunDb) (row : RunRow) : Prop :=
  ∃ after, Leads store now (.get row.id row.tenant) db row.id after ∧
    terminal after.row.state = true

def Starts (store : SQLiteRunStore) (now : Time) (db : RunDb) (row : RunRow) (job : Dict)
    (token : String) : Prop :=
  ∃ after, Leads store now (.claim job token) db row.id after ∧
    row.attempts < after.row.attempts

def Requeues (store : SQLiteRunStore) (now : Time) (db : RunDb) (row : RunRow) : Prop :=
  ∃ after, Leads store now (.resume row.id row.tenant) db row.id after ∧
    after.row.state = .queued

/-- A run that a read closes is not started or requeued instead, so a claim
starts it after the read exactly when it starts it without. -/
structure Agrees (store : SQLiteRunStore) (now : Time) (db : RunDb) (row : RunRow) : Prop where
  claim : Closes store now db row → ∀ job token, Registered row job →
    ¬Starts store now db row job token
  resume : Closes store now db row → ¬Requeues store now db row
  readFirst : Closes store now db row → ∀ job token, Registered row job →
    (Starts store now ((Call.instant store now (.get row.id row.tenant)).apply db) row job token ↔
      Starts store now db row job token)

/-! ## What a call finds -/

section Calls

variable {store : SQLiteRunStore} {now : Time} {db : RunDb} {view : RunView}

theorem Leads.change {operation : Operation} {after : RunView} (valid : db.WellFormed)
    (found : db.view view.row.id = some view)
    (leads : Leads store now operation db view.row.id after) :
    after = view ∨ Change store (fun _ => now) operation view after := by
  have step := (Effect.of_perform valid store (fun _ => now) operation).view valid view.row.id
  rw [found, show (operation.perform store (fun _ => now) db).2.view view.row.id = some after
    from leads] at step
  cases step with
  | same => exact .inl rfl
  | created absent => cases absent
  | changed present change =>
      cases present
      exact .inr change

theorem Starts.claimable {job : Dict} {token : String} (valid : db.WellFormed)
    (found : db.view view.row.id = some view)
    (starts : Starts store now db view.row job token) : Claimable store view.row now := by
  obtain ⟨after, leads, more⟩ := starts
  rcases leads.change valid found with rfl | change
  · exact absurd more (lt_irrefl _)
  · cases change with
    | claimed _ _ _ claimable => exact claimable

theorem Requeues.resumable (valid : db.WellFormed) (found : db.view view.row.id = some view)
    (running : view.row.state = .running) (requeues : Requeues store now db view.row) :
    Resumable store view.row fun _ => now := by
  obtain ⟨after, leads, queued⟩ := requeues
  rcases leads.change valid found with rfl | change
  · rw [running] at queued
    cases queued
  · generalize asked : Operation.resume view.row.id view.row.tenant = operation at change
    cases change with
    | resumed resumable => exact resumable
    | _ => cases asked

theorem Closes.reconciled (valid : db.WellFormed) (found : db.view view.row.id = some view)
    (running : view.row.state = .running) (closes : Closes store now db view.row) :
    view.row.cancelRequested = true ∨ unsafePending view.row.checkpoint = true ∨
      SQLiteRunStore.Late view.row now := by
  obtain ⟨after, leads, final⟩ := closes
  rcases leads.change valid found with rfl | change
  · rw [running] at final
    cases final
  · generalize asked : Operation.get view.row.id view.row.tenant = operation at change
    cases change with
    | read reconciled =>
        cases reconciled with
        | cancelled _ requested => exact .inl requested
        | needsReview _ _ pending => exact .inr (.inl pending)
        | exhausted _ late => exact .inr (.inr late)
        | untouched =>
            rw [running] at final
            cases final
    | _ => cases asked

/-! ## What a call does -/

theorem Claimable.starts (claimable : Claimable store view.row now) (valid : db.WellFormed)
    (found : db.view view.row.id = some view) {job : Dict} (registered : Registered view.row job)
    {token : String} (fresh : ∀ attempt ∈ db.attempts, attempt.token ≠ token) :
    Starts store now db view.row job token := by
  have read : db.row view.row.id view.row.tenant = .ok view.row :=
    (RunDb.row_ok_iff valid).mpr ⟨view, found, rfl, rfl⟩
  have started : ∃ next, store.startAttempt db view.row token now = .ok next := by
    refine ⟨_, Outcome.bind_eq_ok.mpr ⟨(), raiseWhen_eq_ok.mpr ?_, rfl⟩⟩
    rintro ⟨attempt, member, same⟩
    obtain ⟨old, oldMember, rfl⟩ := Table.mem_update.mp member
    refine fresh old oldMember ?_
    split at same <;> exact same
  obtain ⟨next, started⟩ := started
  obtain ⟨_, rewrites⟩ := RunDb.Rewrites.startAttempt valid found store started
  have readBack : next.row view.row.id view.row.tenant = .ok (view.row.claimed store token now) :=
    (RunDb.row_ok_iff rewrites.valid).mpr ⟨_, rewrites.here, rfl, rfl⟩
  have unfinished : view.row.state ≠ .succeeded := by
    rcases claimable.idle with queued | abandoned
    · simp [queued]
    · simp [abandoned.running]
  refine ⟨view.claimed store token now, ?_, Nat.lt_succ_self _⟩
  have checked := SQLiteRunStore.claimable_eq_ok.mpr claimable
  have claims : store.claim job token (fun _ => now) db =
      .ok (view.row.claimed store token now, next) := by
    simp only [SQLiteRunStore.claim, registered.idField, registered.tenantField, Outcome.ok_bind,
      read, registered.same, ne_eq, not_true_eq_false, raiseWhen_of_not, not_false_eq_true,
      unfinished, if_false, checked, started, readBack]
    rfl
  rw [Leads, Call.apply, Call.instant]
  simp only [Operation.perform, Operation.body, claims, Functor.map, Except.map]
  exact rewrites.here

theorem SQLiteRunStore.Late.closes (late : SQLiteRunStore.Late view.row now)
    (abandoned : Abandoned view.row now)
    (wanted : view.row.cancelRequested = false)
    (safe : unsafePending view.row.checkpoint = false) (valid : db.WellFormed)
    (found : db.view view.row.id = some view) : Closes store now db view.row := by
  obtain ⟨leaseUntil, leased, lapsed⟩ := abandoned.lapsed
  obtain ⟨deadline, due, passed⟩ := late
  have read : db.row view.row.id view.row.tenant = .ok view.row :=
    (RunDb.row_ok_iff valid).mpr ⟨view, found, rfl, rfl⟩
  have expired : notAfter view.row.leaseUntil now = .ok true :=
    notAfter_eq_ok.mpr ⟨leaseUntil, leased, by simp [lapsed]⟩
  have isLate : notAfter view.row.deadline now = .ok true :=
    notAfter_eq_ok.mpr ⟨deadline, due, by simp [passed]⟩
  have rewrites := RunDb.Rewrites.abandon valid found .exhausted (some "AgentDeadlineExceeded")
    now now
  have readBack := (RunDb.row_ok_iff rewrites.valid).mpr
    ⟨_, rewrites.here, rfl, (rfl : _ = view.row.tenant)⟩
  have kept : SQLiteRunStore.reconcileCancelled view.row (fun _ => now) db = .ok db := by
    simp [SQLiteRunStore.reconcileCancelled, wanted, pure, Except.pure]
  have alsoKept : SQLiteRunStore.reconcileUnsafe view.row (fun _ => now) db = .ok db := by
    simp [SQLiteRunStore.reconcileUnsafe, abandoned.running, wanted, expired, safe, bind,
      Except.bind, pure, Except.pure]
  have closed : SQLiteRunStore.reconcileDeadline view.row (fun _ => now) db =
      .ok (SQLiteRunStore.abandon db view.row .exhausted (some "AgentDeadlineExceeded")
        now now) := by
    simp [SQLiteRunStore.reconcileDeadline, abandoned.running, expired, isLate, bind,
      Except.bind, pure, Except.pure]
  refine ⟨view.abandoned .exhausted (some "AgentDeadlineExceeded") now now, ?_, rfl⟩
  rw [Leads, Call.apply, Call.instant]
  simp only [Operation.perform, Operation.body, SQLiteRunStore.get, read, Outcome.ok_bind,
    kept, alsoKept, closed, readBack]
  exact rewrites.here

end Calls

/-! ## Reachable runs -/

theorem registered_of_replay {calls : List Call} {runId : String} {view : RunView}
    (found : (RunDb.empty.replay calls).view runId = some view)
    (running : view.row.state = .running) : ∃ job, Registered view.row job := by
  refine @RunDb.view_invariant
    (fun view => view.row.state = .running → ∃ job, Registered view.row job)
    calls ?_ ?_ runId view found running
  · intro id tenant job now duration key runs
    cases runs
  · intro call _ view after registered change runs
    have kept : view.row.state = .running → after.row.id = view.row.id →
        after.row.tenant = view.row.tenant → after.row.job = view.row.job →
        ∃ job, Registered after.row job := by
      intro ran sameId sameTenant sameJob
      obtain ⟨job, idField, tenantField, same⟩ := registered ran
      exact ⟨job, by rw [sameId, idField], by rw [sameTenant, tenantField], by rw [sameJob, same]⟩
    rcases call with ⟨store, operation, clock⟩
    dsimp only at change
    cases change with
    | claimed idField tenantField sameJob => exact ⟨_, idField, tenantField, sameJob⟩
    | published => exact kept runs rfl rfl rfl
    | renewed => exact kept runs rfl rfl rfl
    | saved => exact kept runs rfl rfl rfl
    | finished _ final => exact absurd runs (RunView.Coherent.verdict_ne_running final)
    | @cancelled _ expired _ lease =>
        rcases SQLiteRunStore.leaseExpired_eq_ok.mp lease with ⟨ran, _⟩ | ⟨_, rfl⟩
        · exact kept ran rfl rfl rfl
        · cases runs
    | resumed => cases runs
    | read reconciled =>
        cases reconciled with
        | untouched => exact kept runs rfl rfl rfl
        | _ => cases runs

theorem exists_fresh_token (db : RunDb) :
    ∃ token, ∀ attempt ∈ db.attempts, attempt.token ≠ token := by
  obtain ⟨token, absent⟩ :=
    Infinite.exists_notMem_finset (db.attempts.map AttemptRow.token).toFinset
  refine ⟨token, fun attempt member same => absent ?_⟩
  rw [List.mem_toFinset, List.mem_map]
  exact ⟨attempt, member, same⟩

/-- The three operations agree about an abandoned run exactly when its deadline
does not decide: when it is cancelled, waits for a review, has no attempts left,
or is not late. -/
theorem abandoned_runs_agree {state : StoreState} (reachable : Reachable Step Initial state)
    {runId : String} {view : RunView} (found : state.db.view runId = some view)
    (store : SQLiteRunStore) (now : Time) (abandoned : Abandoned view.row now) :
    Agrees store now state.db view.row ↔
      view.row.cancelRequested = true ∨ unsafePending view.row.checkpoint = true ∨
        store.maxAttempts ≤ view.row.attempts ∨ ¬SQLiteRunStore.Late view.row now := by
  obtain rfl := RunDb.id_of_view found
  have valid := Reachable.wellFormed reachable
  have running := abandoned.running
  constructor
  · intro agrees
    by_contra decided
    push Not at decided
    obtain ⟨wanted, safe, attempts, late⟩ := decided
    have wanted : view.row.cancelRequested = false := by simpa using wanted
    have safe : unsafePending view.row.checkpoint = false := by simpa using safe
    obtain ⟨first, calls, initial, run⟩ := reachable
    have replayed := Run.db run
    rw [initial] at replayed
    obtain ⟨job, registered⟩ := registered_of_replay (replayed ▸ found) running
    obtain ⟨token, fresh⟩ := exists_fresh_token state.db
    have claimable : Claimable store view.row now := ⟨wanted, .inr abandoned, safe, attempts⟩
    exact agrees.claim (late.closes abandoned wanted safe valid found) job token registered
      (claimable.starts valid found registered fresh)
  · intro undecided
    have refused : Closes store now state.db view.row → ∀ job token,
        ¬Starts store now state.db view.row job token := by
      intro closes job token starts
      have claimable := starts.claimable valid found
      rcases undecided with requested | pending | attempts | early
      · rw [claimable.wanted] at requested
        cases requested
      · rw [claimable.safe] at pending
        cases pending
      · exact absurd claimable.attempts (not_lt.mpr attempts)
      · rcases closes.reconciled valid found running with requested | pending | late
        · rw [claimable.wanted] at requested
          cases requested
        · rw [claimable.safe] at pending
          cases pending
        · exact early late
    refine ⟨fun closes job token _ => refused closes job token, fun closes requeues => ?_,
      fun closes job token _ => iff_of_false ?_ (refused closes job token)⟩
    · have resumable := requeues.resumable valid found running
      rcases closes.reconciled valid found running with requested | pending | late
      · rw [resumable.wanted] at requested
        cases requested
      · rw [resumable.safe] at pending
        cases pending
      · obtain ⟨deadline, due, passed⟩ := late
        exact absurd (resumable.early deadline due) (not_lt.mpr passed)
    · intro starts
      obtain ⟨after, leads, final⟩ := closes
      have validAfter := (Effect.of_perform valid store (fun _ => now)
        (.get view.row.id view.row.tenant)).wellFormed valid
      obtain ⟨again, leadsAgain, more⟩ := starts
      have sameId := RunDb.id_of_view leads
      have foundAfter : ((Call.instant store now (.get view.row.id view.row.tenant)).apply
          state.db).view after.row.id = some after := sameId ▸ leads
      obtain ⟨last, foundLast, frozen⟩ := RunDb.frozen_replay validAfter foundAfter final
        [.instant store now (.claim job token)]
      have same : last = again := by
        rw [sameId] at foundLast
        exact Option.some.inj (foundLast.symm.trans leadsAgain)
      rcases leads.change valid found with rfl | change
      · rw [running] at final
        cases final
      · generalize asked : Operation.get view.row.id view.row.tenant = operation at change
        cases change with
        | read reconciled =>
            have kept : after.row.attempts = view.row.attempts := by
              cases reconciled <;> rfl
            rw [← same, frozen.attempts, kept] at more
            exact absurd more (lt_irrefl _)
        | _ => cases asked

namespace Sample

def startedView : RunView := (started.view "run").get (by decide +kernel)

theorem startedView_found : started.view "run" = some startedView := (Option.some_get _).symm

def startedLate : List Call :=
  [.instant store 400 (.claim job "second"),
    .instant store 401 (.finish "run" "acme" "second" .succeeded (some (.str "done")) none)]

end Sample

/-- The abandoned run is late. A read exhausts it, and so does a read before the
second attempt; without a read the second attempt starts and succeeds. -/
theorem abandoned_runs_disagree :
    ¬Agrees Sample.store 400 Sample.started Sample.startedView.row ∧
      ((Sample.started.replay Sample.startedLate).view "run").map (fun view => view.row.state) =
        some .succeeded ∧
      ((Sample.started.replay
        (.instant Sample.store 400 (.get "run" "acme") :: Sample.startedLate)).view "run").map
          (fun view => view.row.state) = some .exhausted := by
  refine ⟨fun agrees => ?_, by decide +kernel, by decide +kernel⟩
  have closes : Closes Sample.store 400 Sample.started Sample.startedView.row := by
    refine ⟨((((Call.instant Sample.store 400 (.get Sample.startedView.row.id
      Sample.startedView.row.tenant)).apply Sample.started).view
        Sample.startedView.row.id).get (by decide +kernel)), (Option.some_get _).symm, ?_⟩
    decide +kernel
  have starts : Starts Sample.store 400 Sample.started Sample.startedView.row Sample.job
      "second" := by
    refine ⟨((((Call.instant Sample.store 400 (.claim Sample.job "second")).apply
      Sample.started).view Sample.startedView.row.id).get (by decide +kernel)),
        (Option.some_get _).symm, ?_⟩
    decide +kernel
  have registered : Registered Sample.startedView.row Sample.job :=
    ⟨by decide +kernel, by decide +kernel, by decide +kernel⟩
  exact agrees.claim closes Sample.job "second" registered starts

/-- Before the deadline a read leaves the abandoned run alone. -/
theorem abandoned_runs_agree_early :
    Agrees Sample.store 100 Sample.started Sample.startedView.row := by
  have early : ¬SQLiteRunStore.Late Sample.startedView.row 100 := by
    rintro ⟨deadline, due, passed⟩
    have set : Sample.startedView.row.deadline = some 300 := by decide +kernel
    rw [set] at due
    cases due
    exact absurd passed (by decide +kernel)
  have abandoned : Abandoned Sample.startedView.row 100 :=
    ⟨by decide +kernel, 45, by decide +kernel, by decide +kernel⟩
  exact (abandoned_runs_agree
    ⟨{ db := RunDb.empty, now := 0 }, _, rfl, Sample.started_run⟩ Sample.startedView_found
    Sample.store 100 abandoned).mpr (.inr (.inr (.inr early)))

end Crewos.RunStore

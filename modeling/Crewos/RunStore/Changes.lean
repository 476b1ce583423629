import Mathlib.Order.Monotone.Basic
import Crewos.Foundation.Transition
import Crewos.RunStore.Steps

/-! # Histories of a run store

A call either leaves the tables alone, inserts one run, or changes one run's
view in one of eight ways. Histories are sequences of calls whose clock readings
do not go back; invariants of a view are proved once for all histories. -/

namespace Crewos.RunStore

open Foundation

/-- What a successful call does to the run it is about. -/
inductive Change (store : SQLiteRunStore) (clock : Clock) :
    Operation → RunView → RunView → Prop
  | published {view : RunView} :
      Change store clock (.markPublished view.row.id view.row.tenant) view
        (view.markedPublished (clock 0))
  | claimed {view : RunView} {job : Dict} {token : String}
      (idField : textField job "agent_run_id" = .ok view.row.id)
      (tenantField : textField job "tenant_id" = .ok view.row.tenant)
      (sameJob : view.row.job = Dict.sorted job)
      (claimable : Claimable store view.row (clock 0))
      (fresh : ∀ attempt ∈ view.attempts, attempt.token ≠ token) :
      Change store clock (.claim job token) view (view.claimed store token (clock 0))
  | renewed {view : RunView} {token : String} (owned : Owned view.row token (clock 0))
      (wanted : view.row.cancelRequested = false) :
      Change store clock (.guard view.row.id view.row.tenant token) view
        (view.renewed (clock 1 + store.leaseSeconds))
  | saved {view : RunView} {token : String} {saved : Dict}
      (owned : Owned view.row token (clock 0)) (wanted : view.row.cancelRequested = false) :
      Change store clock (.checkpoint view.row.id view.row.tenant token saved) view
        (view.saved saved (clock 1) (clock 2 + store.leaseSeconds))
  | finished {view : RunView} {token : String} {state : RunState} {result : Option Json}
      {error : Option String} (owned : Owned view.row token (clock 0))
      (final : finishable state = true) :
      Change store clock (.finish view.row.id view.row.tenant token state result error) view
        (view.finished (SQLiteRunStore.verdict view.row state result error).1
          (SQLiteRunStore.verdict view.row state result error).2.1
          (SQLiteRunStore.verdict view.row state result error).2.2 (clock 1) (clock 2))
  | cancelled {view : RunView} {expired : Bool} (notFinal : terminal view.row.state = false)
      (lease : SQLiteRunStore.leaseExpired view.row (clock 0) = .ok expired) :
      Change store clock (.cancel view.row.id view.row.tenant) view
        (view.cancelling (!expired) (clock 1))
  | resumed {view : RunView} (resumable : Resumable store view.row clock) :
      Change store clock (.resume view.row.id view.row.tenant) view (view.requeued (clock 2))
  | read {view after : RunView} (reconciled : SQLiteRunStore.Reconciled clock view after) :
      Change store clock (.get view.row.id view.row.tenant) view after

/-- What a call does to the tables. -/
inductive Effect (store : SQLiteRunStore) (clock : Clock) (db : RunDb) :
    Operation → RunDb → Prop
  | unchanged {operation} : Effect store clock db operation db
  | created {job duration key id tenant} (idField : textField job "agent_run_id" = .ok id)
      (tenantField : textField job "tenant_id" = .ok tenant) (positive : 0 < duration)
      (unused : SQLiteRunStore.existing db tenant (store.keyDigest key) = none)
      (fresh : ∀ old ∈ db.runs, old.id ≠ id) :
      Effect store clock db (.create job duration key)
        { db with runs := db.runs ++
            [SQLiteRunStore.newRun id tenant job (clock 0) duration (store.keyDigest key)] }
  | changed {operation view after next} (found : db.view view.row.id = some view)
      (change : Change store clock operation view after)
      (rewrites : db.Rewrites view after next) : Effect store clock db operation next

theorem Effect.of_perform {db : RunDb} (valid : db.WellFormed) (store : SQLiteRunStore)
    (clock : Clock) (operation : Operation) :
    Effect store clock db operation (operation.perform store clock db).2 := by
  unfold Operation.perform
  cases ran : operation.body store clock db with
  | error => exact .unchanged
  | ok out =>
      rcases out with ⟨reply, next⟩
      dsimp only
      cases operation <;>
        simp only [Operation.body, Outcome.map_eq_ok, Prod.exists, Prod.mk.injEq] at ran
      case create job duration key =>
        obtain ⟨row, _, ok, -, rfl⟩ := ran
        obtain ⟨tenant, tenantField, positive, replayed | registered⟩ :=
          SQLiteRunStore.create_ok ok
        · obtain ⟨-, -, rfl⟩ := replayed
          exact .unchanged
        · obtain ⟨unused, id, idField, fresh, rfl, rfl⟩ := registered
          exact .created idField tenantField positive unused fresh
      case get runId tenantId =>
        obtain ⟨row, history, _, ok, -, rfl⟩ := ran
        obtain ⟨view, after, found, rfl, reconciled, -, rewrites⟩ :=
          SQLiteRunStore.get_ok valid ok
        obtain rfl := RunDb.id_of_view found
        exact .changed found (.read reconciled) rewrites
      case markPublished runId tenantId =>
        obtain ⟨_, _, ok, -, rfl⟩ := ran
        obtain ⟨view, found, rfl, rfl⟩ := SQLiteRunStore.markPublished_ok valid ok
        obtain rfl := RunDb.id_of_view found
        exact .changed found .published
          (.updateRun valid found (fun row => row.markedPublished _) (fun _ => rfl)
            fun _ _ held => held)
      case claim job token =>
        obtain ⟨record, _, ok, -, rfl⟩ := ran
        obtain ⟨view, found, idField, tenantField, sameJob, cached | started⟩ :=
          SQLiteRunStore.claim_ok valid ok
        · obtain ⟨-, -, rfl⟩ := cached
          exact .unchanged
        · obtain ⟨claimable, fresh, -, rewrites⟩ := started
          refine .changed found (.claimed idField tenantField sameJob claimable ?_) rewrites
          intro attempt member
          rw [RunDb.attempts_of_view found] at member
          exact fresh attempt (List.mem_filter.mp member).1
      case guard runId tenantId token =>
        obtain ⟨remaining, _, ok, -, rfl⟩ := ran
        obtain ⟨view, deadline, found, rfl, owned, wanted, -, -, rfl⟩ :=
          SQLiteRunStore.guard_ok valid ok
        obtain rfl := RunDb.id_of_view found
        exact .changed found (.renewed owned wanted)
          (.updateRun valid found (fun row => row.renewed _) (fun _ => rfl)
            fun _ _ held => held)
      case checkpoint runId tenantId token saved =>
        obtain ⟨_, _, ok, -, rfl⟩ := ran
        obtain ⟨view, found, rfl, owned, wanted, rfl⟩ := SQLiteRunStore.checkpoint_ok valid ok
        obtain rfl := RunDb.id_of_view found
        exact .changed found (.saved owned wanted)
          (.updateRun valid found (fun row => row.saved _ _ _) (fun _ => rfl)
            fun _ _ held => held)
      case finish runId tenantId token state result error =>
        obtain ⟨_, _, ok, -, rfl⟩ := ran
        obtain ⟨view, found, rfl, owned, final, rfl⟩ := SQLiteRunStore.finish_ok valid ok
        obtain rfl := RunDb.id_of_view found
        refine .changed found (.finished owned final) ?_
        rw [← owned.held]
        exact .close valid found (fun attempt => attempt.finished _ _ _)
          (fun row => row.finished _ _ _ _) (fun _ => rfl) (fun _ => rfl) (fun _ => rfl)
          fun _ _ held => by cases held
      case cancel runId tenantId =>
        obtain ⟨row, _, ok, -, rfl⟩ := ran
        obtain ⟨view, found, rfl, final | requested⟩ := SQLiteRunStore.cancel_ok valid ok
        · obtain ⟨-, -, rfl⟩ := final
          exact .unchanged
        · obtain ⟨notFinal, expired, lease, -, rfl⟩ := requested
          obtain rfl := RunDb.id_of_view found
          exact .changed found (.cancelled notFinal lease)
            (.updateRun valid found (fun row => row.cancelling _ _) (fun _ => rfl)
              fun _ _ held => held)
      case resume runId tenantId =>
        obtain ⟨row, _, ok, -, rfl⟩ := ran
        obtain ⟨view, found, rfl, resumable, -, rfl⟩ := SQLiteRunStore.resume_ok valid ok
        obtain rfl := RunDb.id_of_view found
        exact .changed found (.resumed resumable)
          (.updateRun valid found (fun row => row.requeued _) (fun _ => rfl)
            fun _ _ held => by cases held)

theorem Effect.wellFormed {store : SQLiteRunStore} {clock : Clock} {db next : RunDb}
    {operation : Operation} (effect : Effect store clock db operation next)
    (valid : db.WellFormed) : next.WellFormed := by
  cases effect with
  | unchanged => exact valid
  | created _ _ _ _ fresh => exact valid.insertRun fresh rfl
  | changed _ _ rewrites => exact rewrites.valid

/-! The two calls that stop an abandoned run, in the other direction. -/

theorem perform_cancel {store : SQLiteRunStore} {clock : Clock} {db : RunDb}
    (valid : db.WellFormed) {view : RunView} (found : db.view view.row.id = some view)
    (notFinal : terminal view.row.state = false) {expired : Bool}
    (lease : SQLiteRunStore.leaseExpired view.row (clock 0) = .ok expired) :
    ((Operation.cancel view.row.id view.row.tenant).perform store clock db).2 =
      db.updateRun view.row.id fun row => row.cancelling (!expired) (clock 1) := by
  have read := (RunDb.row_ok_iff valid).mpr ⟨view, found, rfl, rfl⟩
  have written := RunDb.row_written valid found (fun row => row.cancelling (!expired) (clock 1))
    (fun _ => rfl) (fun _ => rfl) fun _ _ held => held
  simp only [Operation.perform, Operation.body, SQLiteRunStore.cancel, read, Outcome.ok_bind,
    notFinal, lease, Bool.false_eq_true, if_false, written]
  rfl

theorem perform_resume {store : SQLiteRunStore} {clock : Clock} {db : RunDb}
    (valid : db.WellFormed) {view : RunView} (found : db.view view.row.id = some view)
    (resumable : Resumable store view.row clock) :
    ((Operation.resume view.row.id view.row.tenant).perform store clock db).2 =
      db.updateRun view.row.id fun row => row.requeued (clock 2) := by
  have read := (RunDb.row_ok_iff valid).mpr ⟨view, found, rfl, rfl⟩
  have checked := SQLiteRunStore.resumable_eq_ok.mpr resumable
  have written := RunDb.row_written valid found (fun row => row.requeued (clock 2))
    (fun _ => rfl) (fun _ => rfl) fun _ _ held => by cases held
  simp only [Operation.perform, Operation.body, SQLiteRunStore.resume, read, Outcome.ok_bind,
    checked, written]
  rfl

/-- One run across a call: it is left alone, created, or changed. -/
inductive ViewStep (store : SQLiteRunStore) (clock : Clock) (operation : Operation)
    (before : Option RunView) : Option RunView → Prop
  | same : ViewStep store clock operation before before
  | created {id tenant job duration key} (absent : before = none)
      (creates : operation = .create job duration key) :
      ViewStep store clock operation before
        (some { row := SQLiteRunStore.newRun id tenant job (clock 0) duration
                  (store.keyDigest key),
                attempts := [] })
  | changed {view after} (present : before = some view)
      (change : Change store clock operation view after) :
      ViewStep store clock operation before (some after)

theorem Effect.view {store : SQLiteRunStore} {clock : Clock} {db next : RunDb}
    {operation : Operation} (effect : Effect store clock db operation next)
    (valid : db.WellFormed) (runId : String) :
    ViewStep store clock operation (db.view runId) (next.view runId) := by
  cases effect with
  | unchanged => exact .same
  | created idField tenantField positive unused fresh =>
      rw [RunDb.view_insertRun valid fresh]
      split
      · rename_i same
        refine .created ?_ rfl
        rw [RunDb.view, RunDb.find, Option.map_eq_none_iff, Table.find_eq_none]
        intro row member
        rw [same]
        exact fresh row member
      · exact .same
  | changed found change rewrites =>
      rename_i view after
      by_cases same : runId = view.row.id
      · rw [same, found, rewrites.here]
        exact .changed rfl change
      · rw [rewrites.elsewhere runId same]
        exact .same

/-! ## Histories -/

structure Call where
  store : SQLiteRunStore
  operation : Operation
  clock : Clock

def Call.apply (call : Call) (db : RunDb) : RunDb :=
  (call.operation.perform call.store call.clock db).2

def RunDb.replay (db : RunDb) (calls : List Call) : RunDb :=
  calls.foldl (fun db call => call.apply db) db

theorem replay_snoc (calls : List Call) (call : Call) (db : RunDb) :
    db.replay (calls ++ [call]) = call.apply (db.replay calls) := by
  simp [RunDb.replay]

/-- `create` and `claim` read the clock before their transaction starts; every
other operation reads it inside. -/
def Operation.readsInside : Operation → Prop
  | .create _ _ _ | .claim _ _ => False
  | _ => True

/-- The readings of a call that starts at `now` and is over at `later`. -/
structure Call.Timed (call : Call) (now later : Time) : Prop where
  forward : now ≤ later
  monotone : Monotone call.clock
  before : ∀ n, call.clock n ≤ later
  after : call.operation.readsInside → now ≤ call.clock 0

/-- The tables and the latest reading of the clock. -/
structure StoreState where
  db : RunDb
  now : Time

structure Step (state : StoreState) (call : Call) (next : StoreState) : Prop where
  timed : call.Timed state.now next.now
  db : next.db = call.apply state.db

def Initial (state : StoreState) : Prop := state.db = RunDb.empty

def Call.instant (store : SQLiteRunStore) (now : Time) (operation : Operation) : Call :=
  { store, operation, clock := fun _ => now }

theorem Step.instant (store : SQLiteRunStore) (operation : Operation) {now later : Time}
    (forward : now ≤ later) (db : RunDb) :
    Step { db, now } (.instant store later operation)
      { db := (Call.instant store later operation).apply db, now := later } :=
  { timed :=
      { forward, monotone := monotone_const, before := fun _ => le_refl _,
        after := fun _ => forward },
    db := rfl }

theorem wellFormed_replay (calls : List Call) {db : RunDb} (valid : db.WellFormed) :
    (db.replay calls).WellFormed := by
  induction calls generalizing db with
  | nil => exact valid
  | cons call calls induction =>
      exact induction ((Effect.of_perform valid _ _ _).wellFormed valid)

theorem Run.db {first last : StoreState} {calls : List Call}
    (run : Run Step first calls last) : last.db = first.db.replay calls := by
  induction run with
  | nil => rfl
  | cons step _ induction => rw [induction, step.db]; rfl

theorem Reachable.wellFormed {state : StoreState} (reachable : Reachable Step Initial state) :
    state.db.WellFormed := by
  obtain ⟨first, calls, initial, run⟩ := reachable
  rw [Run.db run, initial]
  exact wellFormed_replay calls .empty

theorem Step.view {state next : StoreState} {call : Call} (step : Step state call next)
    (valid : state.db.WellFormed) (runId : String) :
    ViewStep call.store call.clock call.operation (state.db.view runId)
      (next.db.view runId) := by
  rw [step.db]
  exact (Effect.of_perform valid _ _ _).view valid runId

theorem RunDb.view_invariant {Invariant : RunView → Prop} {calls : List Call}
    (created : ∀ id tenant job now duration key,
      Invariant { row := SQLiteRunStore.newRun id tenant job now duration key, attempts := [] })
    (changed : ∀ call ∈ calls, ∀ view after, Invariant view →
      Change call.store call.clock call.operation view after → Invariant after)
    {runId : String} {view : RunView}
    (found : (RunDb.empty.replay calls).view runId = some view) : Invariant view := by
  suffices ∀ db : RunDb, db.WellFormed → (∀ view, db.view runId = some view → Invariant view) →
      ∀ view, (db.replay calls).view runId = some view → Invariant view from
    this _ .empty (by simp [RunDb.view, RunDb.find, RunDb.empty, Table.find]) _ found
  clear found
  induction calls with
  | nil => exact fun _ _ holds => holds
  | cons call calls induction =>
      intro db valid holds
      have effect := Effect.of_perform valid call.store call.clock call.operation
      have here := changed call List.mem_cons_self
      refine induction (fun later member => changed later (List.mem_cons_of_mem _ member))
        (call.apply db) (effect.wellFormed valid) ?_
      intro later foundLater
      have step := effect.view valid runId
      rw [show (call.operation.perform call.store call.clock db).2.view runId = some later
        from foundLater] at step
      generalize db.view runId = before at step holds
      cases step with
      | same => exact holds _ rfl
      | created => exact created _ _ _ _ _ _
      | changed present change => exact here _ _ (holds _ present) change

theorem RunDb.replay_preserves {Property : RunView → Prop} {calls : List Call}
    (changed : ∀ call ∈ calls, ∀ view after, Property view →
      Change call.store call.clock call.operation view after → Property after)
    {db : RunDb} (valid : db.WellFormed) {runId : String} {view : RunView}
    (found : db.view runId = some view) (holds : Property view) :
    ∃ after, (db.replay calls).view runId = some after ∧ Property after := by
  induction calls generalizing db view with
  | nil => exact ⟨view, found, holds⟩
  | cons call calls induction =>
      have effect := Effect.of_perform valid call.store call.clock call.operation
      have step := effect.view valid runId
      rw [found] at step
      have rest := fun later member => changed later (List.mem_cons_of_mem call member)
      generalize arrived : (call.operation.perform call.store call.clock db).2.view runId =
        reached at step
      cases step with
      | same => exact induction rest (effect.wellFormed valid) arrived holds
      | created absent => cases absent
      | changed present change =>
          cases present
          exact induction rest (effect.wellFormed valid) arrived
            (changed call List.mem_cons_self _ _ holds change)

theorem Run.view_preserves {Property : Time → RunView → Prop}
    (wait : ∀ now later view, now ≤ later → Property now view → Property later view)
    (changed : ∀ (call : Call) now later view after, call.Timed now later →
      Property now view → Change call.store call.clock call.operation view after →
      Property later after)
    {first last : StoreState} {calls : List Call} (run : Run Step first calls last)
    (valid : first.db.WellFormed) {runId : String} {view : RunView}
    (found : first.db.view runId = some view) (holds : Property first.now view) :
    ∃ after, last.db.view runId = some after ∧ Property last.now after := by
  induction run generalizing view with
  | nil => exact ⟨view, found, holds⟩
  | @cons first middle last call calls step rest induction =>
      have middleValid : middle.db.WellFormed := by
        rw [step.db]
        exact (Effect.of_perform valid _ _ _).wellFormed valid
      have viewStep := step.view valid runId
      rw [found] at viewStep
      generalize reached : middle.db.view runId = arrived at viewStep
      cases viewStep with
      | same => exact induction middleValid reached (wait _ _ _ step.timed.forward holds)
      | created absent => cases absent
      | changed present change =>
          cases present
          exact induction middleValid reached (changed _ _ _ _ _ step.timed holds change)

/-! A store, and a job to run on it. -/

namespace Sample

def store : SQLiteRunStore :=
  { sha256 := id, leasePositive := SQLiteRunStore.defaultLease_positive,
    attemptsPositive := SQLiteRunStore.defaultAttempts_positive }

def job : Dict :=
  [("agent_run_id", .str "run"), ("query", .str "status"), ("tenant_id", .str "acme")]

def started : RunDb :=
  RunDb.empty.replay
    [.instant store 0 (.create job 300 none), .instant store 0 (.claim job "first")]

theorem started_run :
    Run Step { db := RunDb.empty, now := 0 }
      [.instant store 0 (.create job 300 none), .instant store 0 (.claim job "first")]
      { db := started, now := 0 } :=
  .cons (.instant _ _ (le_refl _) _) (.single (.instant _ _ (le_refl _) _))

end Sample

theorem Change.tenant {store : SQLiteRunStore} {clock : Clock} {operation : Operation}
    {view after : RunView} (change : Change store clock operation view after) :
    after.row.tenant = view.row.tenant := by
  cases change with
  | read reconciled => cases reconciled <;> rfl
  | _ => rfl

theorem Run.tenant {state later : StoreState} (reachable : Reachable Step Initial state)
    {runId : String} {view after : RunView} (found : state.db.view runId = some view)
    {calls : List Call} (run : Run Step state calls later)
    (foundAfter : later.db.view runId = some after) : after.row.tenant = view.row.tenant := by
  obtain ⟨reached, foundReached, kept⟩ := Run.view_preserves
    (fun _ _ _ _ holds => holds)
    (fun _ _ _ _ _ _ holds change => (Change.tenant change).trans holds)
    run (Reachable.wellFormed reachable) found rfl
  rw [foundAfter] at foundReached
  cases foundReached
  exact kept

end Crewos.RunStore

import Crewos.RunStore.Coherence

/-! # Lease fencing

A token is accepted while its lease is live. Once a token is not accepted any
more it never is again, and the tokens of a run take turns in the order of
their attempts. -/

namespace Crewos.RunStore

open Foundation

/-- A claim of this run has drawn the token. -/
def Issued (view : RunView) (token : String) : Prop :=
  token ∈ view.attempts.map AttemptRow.token

/-- The lease has run out, the row holds another token or none, or the run is
not running: every way in which a token stops being accepted. -/
def Lost (row : RunRow) (token : String) (now : Time) : Prop :=
  (∃ leaseUntil, row.leaseUntil = some leaseUntil ∧ leaseUntil ≤ now) ∨
    row.leaseToken ≠ some token ∨ row.state ≠ .running

/-- A call that presents the token as the run's lease. -/
inductive Presents (runId tenant token : String) : Operation → Prop
  | guard : Presents runId tenant token (.guard runId tenant token)
  | checkpoint (saved : Dict) :
      Presents runId tenant token (.checkpoint runId tenant token saved)
  | finish (state : RunState) (result : Option Json) (error : Option String)
      (final : finishable state = true) :
      Presents runId tenant token (.finish runId tenant token state result error)

/-- The store accepts the token for the run at this reading of the clock. -/
def Accepted (db : RunDb) (runId tenant token : String) (now : Time) : Prop :=
  ∃ row, SQLiteRunStore.ownedAttempt db runId tenant token now = .ok row

namespace Owned

variable {row : RunRow} {token : String} {now later : Time}

theorem earlier (owned : Owned row token later) (forward : now ≤ later) :
    Owned row token now := by
  obtain ⟨leaseUntil, set, live⟩ := owned.live
  exact ⟨owned.running, owned.held, leaseUntil, set, lt_of_le_of_lt forward live⟩

theorem unique {other : String} {elsewhen : Time} (owned : Owned row token now)
    (alsoOwned : Owned row other elsewhen) : token = other :=
  Option.some.inj (owned.held.symm.trans alsoOwned.held)

theorem newest {view : RunView} (coherent : view.Coherent)
    (owned : Owned view.row token now) :
    ∃ attempt ∈ view.attempts, attempt.token = token ∧ attempt.number = view.row.attempts := by
  have newest := coherent.newest token owned.held
  rw [List.getLast?_map, Option.map_eq_some_iff] at newest
  obtain ⟨attempt, last, rfl⟩ := newest
  refine ⟨attempt, List.mem_of_getLast? last, rfl, ?_⟩
  have numbered := congrArg List.getLast? coherent.numbered
  rw [List.getLast?_map, last, List.getLast?_range'] at numbered
  split at numbered
  · cases numbered
  · simp only [Option.map_some, Option.some.injEq] at numbered
    omega

end Owned

theorem lost_iff_not_owned {view : RunView} (coherent : view.Coherent) {token : String}
    {now : Time} : Lost view.row token now ↔ ¬Owned view.row token now := by
  constructor
  · rintro lost owned
    obtain ⟨leaseUntil, set, live⟩ := owned.live
    rcases lost with ⟨other, same, lapsed⟩ | other | stopped
    · rw [set] at same
      cases same
      exact absurd lapsed (not_le.mpr live)
    · exact other owned.held
    · exact stopped owned.running
  · intro notOwned
    by_contra kept
    simp only [Lost, not_or, not_exists, not_and, not_le, not_not] at kept
    obtain ⟨live, held, running⟩ := kept
    obtain ⟨leaseUntil, set⟩ := coherent.leaseUntil running
    exact notOwned ⟨running, held, leaseUntil, set, live leaseUntil set⟩

theorem Accepted.owned {db : RunDb} (valid : db.WellFormed) {runId tenant token : String}
    {view : RunView} (found : db.view runId = some view) {now : Time}
    (accepted : Accepted db runId tenant token now) : Owned view.row token now := by
  obtain ⟨row, accepts⟩ := accepted
  obtain ⟨other, foundOther, rfl, _, owned⟩ :=
    (SQLiteRunStore.ownedAttempt_eq_ok valid).mp accepts
  rw [found] at foundOther
  cases foundOther
  exact owned

theorem perform_of_lost {db : RunDb} (valid : db.WellFormed) {runId : String}
    {view : RunView} (found : db.view runId = some view) (coherent : view.Coherent)
    {token : String} {operation : Operation}
    (presents : Presents runId view.row.tenant token operation)
    (store : SQLiteRunStore) {clock : Clock} (lost : Lost view.row token (clock 0)) :
    operation.perform store clock db =
      (.error (.runLeaseLost "Attempt no longer owns the run lease"), db) := by
  have read : db.row runId view.row.tenant = .ok view.row :=
    (RunDb.row_ok_iff valid).mpr ⟨view, found, rfl, rfl⟩
  have refused : SQLiteRunStore.ownedAttempt db runId view.row.tenant token (clock 0) =
      .error (.runLeaseLost "Attempt no longer owns the run lease") := by
    simp only [SQLiteRunStore.ownedAttempt, read, Outcome.ok_bind]
    by_cases holds : view.row.state ≠ .running ∨ view.row.leaseToken ≠ some token
    · rw [raiseWhen_of _ holds, Outcome.error_bind]
    · push Not at holds
      obtain ⟨leaseUntil, set⟩ := coherent.leaseUntil holds.1
      have lapsed : leaseUntil ≤ clock 0 := by
        rcases lost with ⟨other, same, lapsed⟩ | other | stopped
        · rw [set] at same
          cases same
          exact lapsed
        · exact absurd holds.2 other
        · exact absurd holds.1 stopped
      simp [raiseWhen, holds.1, holds.2, set, notAfter, lapsed, bind, Except.bind]
  cases presents with
  | guard =>
      simp [Operation.perform, Operation.body, SQLiteRunStore.guard, refused, Functor.map,
        Except.map]
  | checkpoint saved =>
      simp [Operation.perform, Operation.body, SQLiteRunStore.checkpoint, refused,
        Functor.map, Except.map]
  | finish state result error final =>
      simp [Operation.perform, Operation.body, SQLiteRunStore.finish, refused, final,
        raiseWhen, Functor.map, Except.map]

/-! ## What a change does to tokens -/

theorem Change.issued {store : SQLiteRunStore} {clock : Clock} {operation : Operation}
    {view after : RunView} (change : Change store clock operation view after)
    {token : String} {number : Nat}
    (issued : (token, number) ∈ view.attempts.map fun attempt =>
      (attempt.token, attempt.number)) :
    (token, number) ∈ after.attempts.map fun attempt => (attempt.token, attempt.number) := by
  have holding (close : AttemptRow → AttemptRow)
      (keeps : ∀ attempt, ((close attempt).token, (close attempt).number) =
        (attempt.token, attempt.number)) :
      (token, number) ∈ (view.holding close).map
        fun attempt => (attempt.token, attempt.number) := by
    rw [view.holding_map close _ keeps]
    exact issued
  cases change with
  | published => exact issued
  | claimed =>
      simp only [RunView.claimed, List.map_append, List.mem_append]
      exact .inl (holding _ fun _ => rfl)
  | renewed => exact issued
  | saved => exact issued
  | finished => exact holding _ fun _ => rfl
  | cancelled => exact issued
  | resumed => exact issued
  | read reconciled =>
      cases reconciled with
      | cancelled => exact holding _ fun _ => rfl
      | needsReview => exact holding _ fun _ => rfl
      | exhausted => exact holding _ fun _ => rfl
      | untouched => exact issued

/-- A claim, or any change that stops the run, ends the acceptance of every
token drawn before it. -/
theorem Change.notOwned {store : SQLiteRunStore} {clock : Clock} {operation : Operation}
    {view after : RunView} (change : Change store clock operation view after)
    (ends : view.row.attempts < after.row.attempts ∨ after.row.state ≠ .running)
    {token : String} (issued : Issued view token) (now : Time) :
    ¬Owned after.row token now := by
  intro owned
  rcases ends with reclaimed | stopped
  · cases change with
    | claimed _ _ _ _ fresh =>
        obtain ⟨attempt, member, same⟩ := List.mem_map.mp issued
        have held := owned.held
        cases held
        exact fresh attempt member same
    | read reconciled => cases reconciled <;> exact absurd reclaimed (lt_irrefl _)
    | _ => exact absurd reclaimed (lt_irrefl _)
  · exact stopped owned.running

/-- Time and changes never bring a lost token back: a renewal needs a live lease
under the same token. -/
theorem Change.staysLost {call : Call} {now later : Time} {view after : RunView}
    (timed : call.Timed now later)
    (change : Change call.store call.clock call.operation view after) {token : String}
    (issued : Issued view token) (notOwned : ¬Owned view.row token now) :
    ¬Owned after.row token later := by
  intro owned
  have ended (ends : view.row.attempts < after.row.attempts ∨ after.row.state ≠ .running) :
      False := change.notOwned ends issued later owned
  rcases call with ⟨store, operation, clock⟩
  dsimp only at change
  have renewal {holder : String} (holds : Owned view.row holder (clock 0))
      (same : view.row.leaseToken = some token) (inside : now ≤ clock 0) : False := by
    have equal : holder = token := Option.some.inj (holds.held.symm.trans same)
    subst equal
    exact notOwned (holds.earlier inside)
  cases change with
  | published =>
      have before : Owned view.row token later := ⟨owned.running, owned.held, owned.live⟩
      exact notOwned (before.earlier timed.forward)
  | claimed => exact ended (.inl (Nat.lt_succ_self _))
  | renewed holds => exact renewal holds owned.held (timed.after trivial)
  | saved holds => exact renewal holds owned.held (timed.after trivial)
  | finished holds final => exact RunView.Coherent.verdict_ne_running final owned.running
  | @cancelled _ expired _ lease =>
      rcases SQLiteRunStore.leaseExpired_eq_ok.mp lease with ⟨running, _⟩ | ⟨_, rfl⟩
      · have before : Owned view.row token later := ⟨running, owned.held, owned.live⟩
        exact notOwned (before.earlier timed.forward)
      · cases owned.running
  | resumed => cases owned.running
  | read reconciled =>
      cases reconciled with
      | untouched => exact notOwned (owned.earlier timed.forward)
      | _ => cases owned.running

/-! ## Fencing over histories -/

variable {state : StoreState} {runId : String} {view : RunView}

theorem Run.staysLost (reachable : Reachable Step Initial state)
    (found : state.db.view runId = some view) {token : String} (issued : Issued view token)
    (lost : Lost view.row token state.now) {calls : List Call} {later : StoreState}
    (run : Run Step state calls later) :
    ∃ after, later.db.view runId = some after ∧ Lost after.row token later.now := by
  have coherent := Reachable.coherent reachable found
  rw [lost_iff_not_owned coherent] at lost
  have drawn : ∃ number, (token, number) ∈
      view.attempts.map fun attempt => (attempt.token, attempt.number) := by
    obtain ⟨attempt, member, rfl⟩ := List.mem_map.mp issued
    exact ⟨attempt.number, List.mem_map_of_mem member⟩
  obtain ⟨number, drawn⟩ := drawn
  obtain ⟨after, foundAfter, _, notOwned⟩ := Run.view_preserves
    (fun now later view forward (holds : (token, number) ∈ view.attempts.map
        (fun attempt => (attempt.token, attempt.number)) ∧ ¬Owned view.row token now) =>
      ⟨holds.1, fun owned => holds.2 (owned.earlier forward)⟩)
    (fun call now later view after timed holds change => by
      refine ⟨change.issued holds.1, change.staysLost timed ?_ holds.2⟩
      obtain ⟨attempt, member, same⟩ := List.mem_map.mp holds.1
      exact List.mem_map.mpr ⟨attempt, member, (Prod.mk.inj same).1⟩)
    run (Reachable.wellFormed reachable) found ⟨drawn, lost⟩
  exact ⟨after, foundAfter,
    (lost_iff_not_owned (Reachable.coherent (reachable.run run) foundAfter)).mpr notOwned⟩

theorem RunView.Coherent.attempt_unique (coherent : view.Coherent) {first second : AttemptRow}
    (firstMember : first ∈ view.attempts) (secondMember : second ∈ view.attempts)
    (same : first.number = second.number) : first = second := by
  have distinct : (view.attempts.map AttemptRow.number).Nodup := by
    rw [coherent.numbered]
    exact List.nodup_range'
  exact List.inj_on_of_nodup_map distinct firstMember secondMember same

theorem RunView.Coherent.number_le (coherent : view.Coherent) {attempt : AttemptRow}
    (member : attempt ∈ view.attempts) : attempt.number ≤ view.row.attempts := by
  have numbered : attempt.number ∈ view.attempts.map AttemptRow.number :=
    List.mem_map_of_mem member
  rw [coherent.numbered, List.mem_range'_1] at numbered
  omega

theorem Run.acceptedInOrder (reachable : Reachable Step Initial state)
    (found : state.db.view runId = some view) {calls : List Call} {later : StoreState}
    (run : Run Step state calls later) {after : RunView}
    (foundAfter : later.db.view runId = some after) {first second : String}
    {now elsewhen : Time} (owned : Owned view.row first now)
    (laterOwned : Owned after.row second elsewhen) (different : first ≠ second) :
    ∃ earlier ∈ after.attempts, ∃ newest ∈ after.attempts,
      earlier.token = first ∧ newest.token = second ∧ earlier.number < newest.number := by
  have coherent := Reachable.coherent (reachable.run run) foundAfter
  obtain ⟨attempt, member, rfl, _⟩ := owned.newest (Reachable.coherent reachable found)
  obtain ⟨newest, newestMember, rfl, last⟩ := laterOwned.newest coherent
  have drawn : (attempt.token, attempt.number) ∈
      view.attempts.map fun attempt => (attempt.token, attempt.number) :=
    List.mem_map.mpr ⟨attempt, member, rfl⟩
  obtain ⟨reached, foundReached, kept⟩ := Run.view_preserves
    (fun _ _ _ _ holds => holds) (fun _ _ _ _ _ _ holds change => change.issued holds)
    run (Reachable.wellFormed reachable) found drawn
  rw [foundAfter] at foundReached
  cases foundReached
  obtain ⟨earlier, earlierMember, same⟩ := List.mem_map.mp kept
  obtain ⟨sameToken, _⟩ := Prod.mk.inj same
  refine ⟨earlier, earlierMember, newest, newestMember, sameToken, rfl, ?_⟩
  have notLater := coherent.number_le earlierMember
  rw [← last] at notLater
  refine lt_of_le_of_ne notLater fun sameNumber => ?_
  have equal := coherent.attempt_unique earlierMember newestMember sameNumber
  rw [equal] at sameToken
  exact different sameToken.symm

theorem Run.refuses (reachable : Reachable Step Initial state)
    (found : state.db.view runId = some view) {token : String} (issued : Issued view token)
    (lost : Lost view.row token state.now) {calls : List Call} {later : StoreState}
    (run : Run Step state calls later) {operation : Operation}
    (presents : Presents runId view.row.tenant token operation) (store : SQLiteRunStore)
    {clock : Clock} (after : later.now ≤ clock 0) :
    operation.perform store clock later.db =
      (.error (.runLeaseLost "Attempt no longer owns the run lease"), later.db) := by
  obtain ⟨view', foundLater, lostLater⟩ := Run.staysLost reachable found issued lost run
  have laterReachable := reachable.run run
  have coherent := Reachable.coherent laterReachable foundLater
  have tenant : view'.row.tenant = view.row.tenant := Run.tenant reachable found run foundLater
  rw [lost_iff_not_owned coherent] at lostLater
  refine perform_of_lost (Reachable.wellFormed laterReachable) foundLater coherent
    (tenant ▸ presents) store ?_
  rw [lost_iff_not_owned coherent]
  exact fun owned => lostLater (owned.earlier after)

/-- Whatever the order of calls: one token is accepted at a time, tokens are
accepted in the order of their attempts and never again once a later one was,
a lost token is refused ever after without effect, and a token is lost when the
run is claimed again or stops running. -/
theorem run_lease_fencing (reachable : Reachable Step Initial state)
    (found : state.db.view runId = some view) :
    (∀ first second, Accepted state.db runId view.row.tenant first state.now →
      Accepted state.db runId view.row.tenant second state.now → first = second) ∧
    (∀ calls later, Run Step state calls later →
      ∀ after, later.db.view runId = some after →
      ∀ first second, Accepted state.db runId view.row.tenant first state.now →
      Accepted later.db runId view.row.tenant second later.now → first ≠ second →
      (∃ earlier ∈ after.attempts, ∃ newest ∈ after.attempts,
        earlier.token = first ∧ newest.token = second ∧ earlier.number < newest.number) ∧
      ∀ more last, Run Step later more last →
        ¬Accepted last.db runId view.row.tenant first last.now) ∧
    (∀ token, Issued view token → Lost view.row token state.now →
      ∀ calls later, Run Step state calls later →
      ∀ operation, Presents runId view.row.tenant token operation →
      ∀ (store : SQLiteRunStore) (clock : Clock), later.now ≤ clock 0 →
      operation.perform store clock later.db =
        (.error (.runLeaseLost "Attempt no longer owns the run lease"), later.db)) ∧
    ∀ call next, Step state call next → ∀ after, next.db.view runId = some after →
      view.row.attempts < after.row.attempts ∨ after.row.state ≠ .running →
      ∀ token, Issued view token → Lost after.row token next.now := by
  have valid := Reachable.wellFormed reachable
  refine ⟨?once, ?order, ?fence, ?ends⟩
  case once =>
    intro first second accepted alsoAccepted
    exact (accepted.owned valid found).unique (alsoAccepted.owned valid found)
  case order =>
    intro calls later run after foundAfter first second accepted acceptedLater different
    have owned := accepted.owned valid found
    have laterReachable := reachable.run run
    have ownedLater := acceptedLater.owned (Reachable.wellFormed laterReachable) foundAfter
    have inOrder :=
      Run.acceptedInOrder reachable found run foundAfter owned ownedLater different
    refine ⟨inOrder, fun more last rest acceptedLast => ?_⟩
    obtain ⟨earlier, member, _, _, sameToken, _⟩ := inOrder
    have lost : Lost after.row first later.now :=
      .inr (.inl fun held => different (Option.some.inj (held.symm.trans ownedLater.held)))
    obtain ⟨final, foundFinal, lostFinal⟩ := Run.staysLost laterReachable foundAfter
      (List.mem_map.mpr ⟨earlier, member, sameToken⟩) lost rest
    have lastReachable := laterReachable.run rest
    rw [lost_iff_not_owned (Reachable.coherent lastReachable foundFinal)] at lostFinal
    exact lostFinal (acceptedLast.owned (Reachable.wellFormed lastReachable) foundFinal)
  case fence =>
    intro token issued lost calls later run operation presents store clock after
    exact Run.refuses reachable found issued lost run presents store after
  case ends =>
    intro call next step after foundAfter ends token issued
    have viewStep := step.view valid runId
    rw [found, foundAfter] at viewStep
    have nextReachable := reachable.run (.single step)
    rw [lost_iff_not_owned (Reachable.coherent nextReachable foundAfter)]
    cases viewStep with
    | same =>
        rcases ends with reclaimed | stopped
        · exact absurd reclaimed (lt_irrefl _)
        · exact fun owned => stopped owned.running
    | created absent => cases absent
    | changed present change =>
        cases present
        exact change.notOwned ends issued next.now

namespace Sample

def takenOver : RunDb := (Call.instant store 100 (.claim job "second")).apply started

def takenOverView : RunView := (takenOver.view "run").get (by decide +kernel)

theorem takenOver_found : takenOver.view "run" = some takenOverView :=
  (Option.some_get _).symm

theorem takenOver_reachable : Reachable Step Initial { db := takenOver, now := 100 } :=
  ⟨{ db := RunDb.empty, now := 0 }, _, rfl,
    started_run.snoc (.instant _ _ (by decide +kernel) _)⟩

end Sample

/-- The heartbeat of the first attempt comes too late. -/
theorem run_lease_fencing_takeover :
    (Operation.guard "run" "acme" "first").perform Sample.store (fun _ => 101)
        Sample.takenOver =
      (.error (.runLeaseLost "Attempt no longer owns the run lease"), Sample.takenOver) := by
  have tenant : Sample.takenOverView.row.tenant = "acme" := by decide +kernel
  have issued : Issued Sample.takenOverView "first" := by
    unfold Issued
    decide +kernel
  have lost : Lost Sample.takenOverView.row "first" 100 := .inr (.inl (by decide +kernel))
  have fencing := run_lease_fencing Sample.takenOver_reachable Sample.takenOver_found
  exact fencing.2.2.1 "first" issued lost [] _ (.nil _) _ (tenant ▸ .guard) Sample.store
    (fun _ => 101) (by decide +kernel)

end Crewos.RunStore

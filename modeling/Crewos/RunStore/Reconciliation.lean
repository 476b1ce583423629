import Mathlib.Order.Monotone.Basic
import Crewos.RunStore.Ledger
import Crewos.RunStore.Returned

/-! # Reading a run

A read closes a run whose lease has run out. It reads the clock once for every
comparison, so a lease can run out between two of them; this module says what a
read should do and for which readings it does so. -/

namespace Crewos.RunStore

open Foundation SQLiteRunStore

/-! ## Every read returns -/

def RunView.history (view : RunView) : List AttemptSummary :=
  (view.attempts.map AttemptRow.summary).insertionSort fun left right => left.number ≤ right.number

section Read

variable {store : SQLiteRunStore} {clock : Clock} {db : RunDb} {view : RunView}

theorem RunView.Coherent.due (coherent : view.Coherent) (running : view.row.state = .running) :
    ∃ deadline, view.row.deadline = some deadline := by
  obtain ⟨token, held⟩ := coherent.leaseToken running
  have last := List.mem_of_getLast? (coherent.newest token held)
  have some_ := List.length_pos_of_mem last
  rw [List.length_map, coherent.length] at some_
  exact coherent.deadline.mp some_

theorem reconcileCancelled_returns (coherent : view.Coherent) :
    ∃ next, reconcileCancelled view.row clock db = .ok next := by
  unfold reconcileCancelled
  split
  · rename_i applies
    obtain ⟨leaseUntil, set⟩ := coherent.leaseUntil applies.1
    exact ⟨_, by rw [set]; rfl⟩
  · exact ⟨db, rfl⟩

theorem reconcileUnsafe_returns (coherent : view.Coherent) :
    ∃ next, reconcileUnsafe view.row clock db = .ok next := by
  unfold reconcileUnsafe
  split
  · rename_i applies
    obtain ⟨leaseUntil, set⟩ := coherent.leaseUntil applies.1
    exact ⟨_, by rw [set]; rfl⟩
  · exact ⟨db, rfl⟩

theorem reconcileDeadline_returns (coherent : view.Coherent) :
    ∃ next, reconcileDeadline view.row clock db = .ok next := by
  unfold reconcileDeadline
  split
  · rename_i running
    obtain ⟨leaseUntil, set⟩ := coherent.leaseUntil running
    obtain ⟨deadline, due⟩ := coherent.due running
    rw [set, due]
    by_cases lapsed : leaseUntil ≤ clock 6
    · refine ⟨if deadline ≤ clock 7 then abandon db view.row .exhausted
          (some "AgentDeadlineExceeded") (clock 8) (clock 9) else db, ?_⟩
      simp [notAfter, lapsed, bind, Except.bind, pure, Except.pure]
    · exact ⟨db, by simp [notAfter, lapsed, bind, Except.bind, pure, Except.pure]⟩
  · exact ⟨db, rfl⟩

theorem reconciled_twice (valid : db.WellFormed) (found : db.view view.row.id = some view)
    (coherent : view.Coherent) {first second : RunDb}
    (cancelled : reconcileCancelled view.row clock db = .ok first)
    (unsafe_ : reconcileUnsafe view.row clock first = .ok second) :
    ∃ after : RunView, after.Coherent ∧ after.row.id = view.row.id ∧
      after.row.tenant = view.row.tenant ∧ db.Rewrites view after second := by
  rcases reconcileCancelled_ok cancelled with ⟨_, requested, rfl⟩ | ⟨_, rfl⟩
  · rcases reconcileUnsafe_ok unsafe_ with ⟨_, wanted, _⟩ | ⟨_, rfl⟩
    · rw [requested] at wanted
      cases wanted
    · exact ⟨_, coherent.abandoned (by simp), rfl, rfl, .abandon valid found _ _ _ _⟩
  · rcases reconcileUnsafe_ok unsafe_ with ⟨_, _, _, rfl⟩ | ⟨_, rfl⟩
    · exact ⟨_, coherent.abandoned (by simp), rfl, rfl, .abandon valid found _ _ _ _⟩
    · exact ⟨view, coherent, rfl, rfl, .refl valid found⟩

theorem get_returns (valid : db.WellFormed) (found : db.view view.row.id = some view)
    (coherent : view.Coherent) :
    ∃ answer next, get view.row.id view.row.tenant clock db = .ok (answer, next) := by
  have read : db.row view.row.id view.row.tenant = .ok view.row :=
    (RunDb.row_ok_iff valid).mpr ⟨view, found, rfl, rfl⟩
  obtain ⟨first, cancelled⟩ := @reconcileCancelled_returns clock db view coherent
  obtain ⟨second, unsafe_⟩ := @reconcileUnsafe_returns clock first view coherent
  obtain ⟨after, coherentAfter, id, tenant, rewrites⟩ :=
    reconciled_twice valid found coherent cancelled unsafe_
  have current : second.row view.row.id view.row.tenant = .ok after.row :=
    (RunDb.row_ok_iff rewrites.valid).mpr ⟨after, rewrites.here, rfl, tenant⟩
  obtain ⟨third, late⟩ := @reconcileDeadline_returns clock second after coherentAfter
  have here : second.view after.row.id = some after := id ▸ rewrites.here
  obtain ⟨data, readBack⟩ : ∃ data, third.row view.row.id view.row.tenant = .ok data := by
    rcases reconcileDeadline_ok late with ⟨_, _, rfl⟩ | ⟨_, rfl⟩
    · have closed := RunDb.Rewrites.abandon rewrites.valid here .exhausted
        (some "AgentDeadlineExceeded") (clock 8) (clock 9)
      rw [← id]
      exact ⟨_, (RunDb.row_ok_iff closed.valid).mpr ⟨_, closed.here, rfl, tenant⟩⟩
    · exact ⟨_, current⟩
  simp only [SQLiteRunStore.get, read, cancelled, unsafe_, current, late, readBack,
    Outcome.ok_bind]
  exact ⟨_, _, rfl⟩

theorem perform_get (valid : db.WellFormed) (found : db.view view.row.id = some view)
    (coherent : view.Coherent) (store : SQLiteRunStore) (clock : Clock) :
    ∃ after next, (Operation.get view.row.id view.row.tenant).perform store clock db =
        (.ok (.history after.row after.history), next) ∧
      Reconciled clock view after ∧ db.Rewrites view after next := by
  obtain ⟨⟨row, history⟩, next, ran⟩ := @get_returns clock db view valid found coherent
  obtain ⟨_, after, foundAgain, -, reconciled, rfl, rewrites⟩ := get_ok valid ran
  rw [found] at foundAgain
  cases foundAgain
  refine ⟨after, next, ?_, reconciled, rewrites⟩
  have attempts := RunDb.attempts_of_view rewrites.here
  have listed : history = after.history := by
    simp only [SQLiteRunStore.get, Outcome.bind_eq_ok, Outcome.pure_eq_ok, Prod.mk.injEq] at ran
    obtain ⟨_, -, _, -, _, -, _, -, _, -, _, -, ⟨-, rfl⟩, rfl⟩ := ran
    rw [RunView.history, attempts]
    rfl
  unfold Operation.perform
  simp only [Operation.body, ran, listed]
  rfl

end Read

/-! ## What a read should do -/

/-- The state an abandoned run should get, in the order of the source. -/
inductive Due (row : RunRow) (now : Time) : RunState → Prop
  | cancelled (requested : row.cancelRequested = true) : Due row now .cancelled
  | needsReview (wanted : row.cancelRequested = false)
      (pending : unsafePending row.checkpoint = true) : Due row now .needsReview
  | exhausted (wanted : row.cancelRequested = false)
      (safe : unsafePending row.checkpoint = false) (late : Late row now) :
      Due row now .exhausted

/-- The run and the attempt that held its lease are closed with the state, and
everything else about them is as it was. -/
structure ClosedWith (view : RunView) (state : RunState) (after : RunView) : Prop where
  reached : after.row.state = state
  row : ∃ error updated, after.row =
    { view.row with state, error, leaseToken := none, leaseUntil := none, updated }
  held : ∃ attempt ∈ after.attempts, some attempt.token = view.row.leaseToken ∧
    attempt.state = .closed state ∧ attempt.ended ≠ none
  others : ∀ attempt ∈ view.attempts, some attempt.token ≠ view.row.leaseToken →
    attempt ∈ after.attempts

/-- A later read that sees the lease and the deadline as `clock` last saw them. -/
def Immediate (row : RunRow) (clock again : Clock) : Prop :=
  ∀ reading, (Abandoned row (again reading) ↔ Abandoned row (clock 6)) ∧
    (Late row (again reading) ↔ Late row (clock 7))

/-- A read that closes what it should and nothing else, and that an immediate
second read agrees with. -/
structure Reconciles (store : SQLiteRunStore) (clock : Clock) (db : RunDb) (view after : RunView)
    (next : RunDb) : Prop where
  answered : (Operation.get view.row.id view.row.tenant).perform store clock db =
    (.ok (.history after.row after.history), next)
  here : next.view view.row.id = some after
  elsewhere : ∀ other, other ≠ view.row.id → next.view other = db.view other
  closes : after = view ∨ ∃ state, Due view.row (clock 7) state ∧
    Abandoned view.row (clock 6) ∧ ClosedWith view state after
  owed : Abandoned view.row (clock 0) → ∀ state, Due view.row (clock 0) state →
    ClosedWith view state after
  repeated : ∀ again, Immediate view.row clock again →
    ∃ last, (Operation.get view.row.id view.row.tenant).perform store again next =
        (.ok (.history after.row after.history), last) ∧ last.view view.row.id = some after

/-- The lease runs out after the read has looked for a requested cancellation or
for an unsafe decision, and before it looks at the deadline. -/
structure LapsesBetween (row : RunRow) (clock : Clock) : Prop where
  abandoned : Abandoned row (clock 6)
  missed : (row.cancelRequested = true ∧ ¬Abandoned row (clock 0)) ∨
    (row.cancelRequested = false ∧ unsafePending row.checkpoint = true ∧
      ¬Abandoned row (clock 3))

theorem Abandoned.later {row : RunRow} {now later : Time} (abandoned : Abandoned row now)
    (order : now ≤ later) : Abandoned row later := by
  obtain ⟨leaseUntil, set, lapsed⟩ := abandoned.lapsed
  exact ⟨abandoned.running, leaseUntil, set, lapsed.trans order⟩

theorem late_later {row : RunRow} {now later : Time} (late : Late row now)
    (order : now ≤ later) : Late row later := by
  obtain ⟨deadline, due, passed⟩ := late
  exact ⟨deadline, due, passed.trans order⟩

section Reconcile

variable {store : SQLiteRunStore} {clock : Clock} {db next : RunDb} {view after : RunView}

theorem ClosedWith.of_abandoned (coherent : view.Coherent) (running : view.row.state = .running)
    (state : RunState) (error : Option String) (updated ended : Time) :
    ClosedWith view state (view.abandoned state error updated ended) := by
  obtain ⟨attempt, member, -, held⟩ := coherent.holder running
  refine ⟨rfl, ⟨_, _, rfl⟩, ?_, ?_⟩
  · refine ⟨attempt.abandoned state error ended, ?_, held.symm, rfl, by simp [AttemptRow.abandoned]⟩
    exact RunView.mem_holding.mpr ⟨attempt, member, by rw [if_pos held.symm]⟩
  · intro other otherMember different
    exact RunView.mem_holding.mpr ⟨other, otherMember, by rw [if_neg different]⟩

theorem Due.later {row : RunRow} {now later : Time} {state : RunState} (due : Due row now state)
    (order : now ≤ later) : Due row later state := by
  cases due with
  | cancelled requested => exact .cancelled requested
  | needsReview wanted pending => exact .needsReview wanted pending
  | exhausted wanted safe late => exact .exhausted wanted safe (late_later late order)

theorem Due.unique {row : RunRow} {now : Time} {left right : RunState} (leftDue : Due row now left)
    (rightDue : Due row now right) : left = right := by
  cases leftDue <;> cases rightDue <;> simp_all

theorem reconciled_closes (reconciled : Reconciled clock view after) (coherent : view.Coherent)
    (monotone : Monotone clock) (seen : ¬LapsesBetween view.row clock) :
    (after = view ∧ ∀ state, Abandoned view.row (clock 6) → ¬Due view.row (clock 7) state) ∨
      ∃ state, Due view.row (clock 7) state ∧ Abandoned view.row (clock 6) ∧
        ClosedWith view state after := by
  cases reconciled with
  | cancelled abandoned requested =>
      exact .inr ⟨_, .cancelled requested, abandoned.later (monotone (by decide)),
        .of_abandoned coherent abandoned.running _ _ _ _⟩
  | needsReview abandoned wanted pending =>
      exact .inr ⟨_, .needsReview wanted pending, abandoned.later (monotone (by decide)),
        .of_abandoned coherent abandoned.running _ _ _ _⟩
  | exhausted abandoned late notCancelled safe =>
      have wanted : view.row.cancelRequested = false := by
        by_contra requested
        rw [Bool.not_eq_false] at requested
        exact seen ⟨abandoned, .inl ⟨requested, notCancelled requested⟩⟩
      have safe : unsafePending view.row.checkpoint = false := by
        by_contra pending
        rw [Bool.not_eq_false] at pending
        refine seen ⟨abandoned, .inr ⟨wanted, pending, fun early => ?_⟩⟩
        rw [safe wanted early] at pending
        cases pending
      exact .inr ⟨_, .exhausted wanted safe late, abandoned,
        .of_abandoned coherent abandoned.running _ _ _ _⟩
  | untouched notCancelled safe early =>
      refine .inl ⟨rfl, ?_⟩
      intro state abandoned due
      cases due with
      | cancelled requested => exact seen ⟨abandoned, .inl ⟨requested, notCancelled requested⟩⟩
      | needsReview wanted pending =>
          refine seen ⟨abandoned, .inr ⟨wanted, pending, fun early => ?_⟩⟩
          rw [safe wanted early] at pending
          cases pending
      | exhausted _ _ late => exact early abandoned late

theorem reconciled_quiet {again : Clock} (quiet : ∀ state, Abandoned view.row (clock 6) →
      ¬Due view.row (clock 7) state) (immediate : Immediate view.row clock again)
    (reconciled : Reconciled again view after) : after = view := by
  have before {reading : Nat} (abandoned : Abandoned view.row (again reading)) :
      Abandoned view.row (clock 6) := (immediate reading).1.mp abandoned
  cases reconciled with
  | cancelled abandoned requested =>
      exact absurd (Due.cancelled requested) (quiet _ (before abandoned))
  | needsReview abandoned wanted pending =>
      exact absurd (Due.needsReview wanted pending) (quiet _ (before abandoned))
  | exhausted abandoned late notCancelled safe =>
      have isLate := (immediate 7).2.mp late
      have first := (immediate 0).1.mpr (before abandoned)
      have second := (immediate 3).1.mpr (before abandoned)
      cases requested : view.row.cancelRequested with
      | true => exact absurd first (notCancelled requested)
      | false =>
          exact absurd (Due.exhausted requested (safe requested second) isLate)
            (quiet _ (before abandoned))
  | untouched => rfl

theorem reconciled_stopped {again : Clock} (stopped : view.row.state ≠ .running)
    (reconciled : Reconciled again view after) : after = view := by
  cases reconciled with
  | cancelled abandoned => exact absurd abandoned.running stopped
  | needsReview abandoned => exact absurd abandoned.running stopped
  | exhausted abandoned => exact absurd abandoned.running stopped
  | untouched => rfl

theorem reconciles_of_seen (coherent : view.Coherent) (monotone : Monotone clock)
    (seen : ¬LapsesBetween view.row clock) (valid : db.WellFormed)
    (found : db.view view.row.id = some view) (store : SQLiteRunStore) :
    ∃ after next, Reconciles store clock db view after next := by
  obtain ⟨after, next, answered, reconciled, rewrites⟩ := perform_get valid found coherent store
    clock
  refine ⟨after, next, answered, rewrites.here, rewrites.elsewhere, ?_, ?_, ?_⟩
  all_goals
    rcases reconciled_closes reconciled coherent monotone seen with
      ⟨rfl, quiet⟩ | ⟨state, due, abandoned, closed⟩
  · exact .inl rfl
  · exact .inr ⟨state, due, abandoned, closed⟩
  · intro abandoned state due
    exact absurd (due.later (monotone (by decide)))
      (quiet state (abandoned.later (monotone (by decide))))
  · intro _ other otherDue
    rw [(otherDue.later (monotone (by decide))).unique due]
    exact closed
  · intro again immediate
    obtain ⟨last, end_, answeredAgain, reconciledAgain, rewritesAgain⟩ :=
      perform_get rewrites.valid rewrites.here coherent store again
    obtain rfl := reconciled_quiet quiet immediate reconciledAgain
    exact ⟨end_, answeredAgain, rewritesAgain.here⟩
  · intro again _
    obtain ⟨error, updated, row⟩ := closed.row
    have id : after.row.id = view.row.id := by rw [row]
    have tenant : after.row.tenant = view.row.tenant := by rw [row]
    have stopped : after.row.state ≠ .running := by
      rw [closed.reached]
      cases due <;> simp
    have coherentAfter : after.Coherent :=
      coherent.change (@Change.read store clock view after reconciled)
    obtain ⟨last, end_, answeredAgain, reconciledAgain, rewritesAgain⟩ :=
      perform_get rewrites.valid (id ▸ rewrites.here) coherentAfter store again
    obtain rfl := reconciled_stopped stopped reconciledAgain
    rw [id, tenant] at answeredAgain
    exact ⟨end_, answeredAgain, id ▸ rewritesAgain.here⟩

/-- A read that misses a lapse leaves a run that the next read would close, or
closes it as late although it should have been closed otherwise. -/
theorem not_reconciles_of_lapses (coherent : view.Coherent) (monotone : Monotone clock)
    (lapses : LapsesBetween view.row clock) (valid : db.WellFormed)
    (found : db.view view.row.id = some view) (store : SQLiteRunStore) :
    ¬∃ after next, Reconciles store clock db view after next := by
  rintro ⟨after, next, proper⟩
  obtain ⟨other, otherNext, answered, reconciled, rewrites⟩ := perform_get valid found coherent
    store clock
  rw [proper.answered] at answered
  obtain rfl : next = otherNext := (Prod.mk.inj answered).2
  obtain rfl : after = other := Option.some.inj (proper.here.symm.trans rewrites.here)
  have running := lapses.abandoned.running
  -- None of the two closings that should come first can apply.
  have undecided : ∀ now, Due view.row now .exhausted → False := by
    intro now due
    cases due with
    | exhausted wanted safe =>
        rcases lapses.missed with ⟨requested, _⟩ | ⟨_, pending, _⟩
        · rw [wanted] at requested
          cases requested
        · rw [safe] at pending
          cases pending
  cases reconciled with
  | cancelled abandoned requested =>
      rcases lapses.missed with ⟨_, live⟩ | ⟨wanted, _⟩
      · exact live abandoned
      · rw [requested] at wanted
        cases wanted
  | needsReview abandoned wanted pending =>
      rcases lapses.missed with ⟨requested, _⟩ | ⟨_, _, live⟩
      · rw [wanted] at requested
        cases requested
      · exact live abandoned
  | exhausted abandoned late =>
      rcases proper.closes with same | ⟨state, due, _, closed⟩
      · have state := congrArg (fun view => view.row.state) same
        rw [running] at state
        cases state
      · obtain rfl := closed.reached
        exact undecided _ due
  | untouched =>
      -- The next read sees the lease run out at once.
      have immediate : Immediate view.row clock fun _ => clock 7 := fun _ =>
        ⟨iff_of_true (lapses.abandoned.later (monotone (by decide))) lapses.abandoned, Iff.rfl⟩
      obtain ⟨last, repeated, -⟩ := proper.repeated _ immediate
      obtain ⟨again, _, answeredAgain, reconciledAgain, -⟩ :=
        perform_get rewrites.valid proper.here coherent store fun _ => clock 7
      rw [repeated] at answeredAgain
      have sameRow : view.row = again.row := by
        have replies := Except.ok.inj (Prod.mk.inj answeredAgain).1
        exact (Reply.history.inj replies).1
      have stays : again.row.state = .running := sameRow ▸ running
      have now : Abandoned view.row (clock 7) := (immediate 0).1.mpr lapses.abandoned
      cases reconciledAgain with
      | cancelled => cases stays
      | needsReview => cases stays
      | exhausted => cases stays
      | untouched notCancelled safe =>
          rcases lapses.missed with ⟨requested, _⟩ | ⟨wanted, pending, _⟩
          · exact notCancelled requested now
          · rw [safe wanted now] at pending
            cases pending

end Reconcile

/-- A read of any reachable run does what it should, unless the lease runs out
while it is looking. -/
theorem get_reconciles {calls : List Call} {view : RunView}
    (found : (RunDb.empty.replay calls).view view.row.id = some view) {clock : Clock}
    (monotone : Monotone clock) (store : SQLiteRunStore) :
    (∃ after next, Reconciles store clock (RunDb.empty.replay calls) view after next) ↔
      ¬LapsesBetween view.row clock := by
  have valid : (RunDb.empty.replay calls).WellFormed := wellFormed_replay calls .empty
  have coherent := coherent_of_replay found
  constructor
  · intro proper lapses
    exact not_reconciles_of_lapses coherent monotone lapses valid found store proper
  · intro seen
    exact reconciles_of_seen coherent monotone seen valid found store

namespace Sample

def undecided : List Call :=
  [.instant store 0 (.create job 30 none), .instant store 0 (.claim job "first"),
    .instant store 0 (.checkpoint "run" "acme" "first"
      [("pending", .obj [("name", .str "write")]), ("replay_safe", .bool false)])]

def undecidedView : RunView :=
  ((RunDb.empty.replay undecided).view "run").get (by decide +kernel)

theorem undecided_found :
    (RunDb.empty.replay undecided).view undecidedView.row.id = some undecidedView := by
  have same : undecidedView.row.id = "run" := by decide +kernel
  rw [same]
  exact (Option.some_get _).symm

/-- The readings of a read during which the lease runs out. -/
def crossing : Clock := fun reading => if reading < 6 then 44 else 45

theorem crossing_monotone : Monotone crossing := by
  intro left right order
  unfold crossing
  split <;> split <;> first | omega | decide +kernel

theorem crossing_lapses : LapsesBetween undecidedView.row crossing := by
  have due : undecidedView.row.leaseUntil = some 45 := by decide +kernel
  refine ⟨⟨by decide +kernel, 45, due, by decide +kernel⟩, .inr ⟨by decide +kernel,
    by decide +kernel, ?_⟩⟩
  rintro ⟨-, leaseUntil, set, lapsed⟩
  rw [due] at set
  cases set
  exact absurd lapsed (by decide +kernel)

end Sample

/-- The lease of a run with an unsafe decision runs out during a read, and the
read reports the run as late instead of handing it to a review. -/
theorem get_reconciles_crossing :
    (¬∃ after next, Reconciles Sample.store Sample.crossing
      (RunDb.empty.replay Sample.undecided) Sample.undecidedView after next) ∧
    unsafePending Sample.undecidedView.row.checkpoint = true ∧
    ((((Operation.get "run" "acme").perform Sample.store Sample.crossing
      (RunDb.empty.replay Sample.undecided)).2.view "run").map fun view => view.row.state) =
        some .exhausted := by
  refine ⟨?_, by decide +kernel, by decide +kernel⟩
  exact not_reconciles_of_lapses (coherent_of_replay Sample.undecided_found)
    Sample.crossing_monotone Sample.crossing_lapses (wellFormed_replay _ .empty)
    Sample.undecided_found Sample.store

/-- A read after the lease has run out closes the same run for a review. -/
theorem get_reconciles_late :
    ∃ after next, Reconciles Sample.store (fun _ => 45) (RunDb.empty.replay Sample.undecided)
      Sample.undecidedView after next := by
  refine (get_reconciles Sample.undecided_found monotone_const Sample.store).mpr ?_
  intro lapses
  rcases lapses.missed with ⟨_, live⟩ | ⟨_, _, live⟩
  · exact live lapses.abandoned
  · exact live lapses.abandoned

end Crewos.RunStore

import Mathlib.Data.List.Induction
import Crewos.RunStore.Coherence

/-! # The attempt ledger

The attempts of a run are numbered without gaps, and the running one is the
attempt that holds the lease. The calls that break this are named here: they
stop an abandoned run and leave its attempt row open. -/

namespace Crewos.RunStore

open Foundation

/-- The row of an attempt nobody has closed. -/
def AttemptRow.Open (attempt : AttemptRow) : Prop :=
  attempt.state = .running ∧ attempt.ended = none

def RunView.Leases (view : RunView) (attempt : AttemptRow) : Prop :=
  view.row.state = .running ∧ view.row.leaseToken = some attempt.token

structure RunView.Ledger (view : RunView) : Prop where
  numbered : view.attempts.map AttemptRow.number = List.range' 1 view.row.attempts
  openIffLeases : ∀ attempt ∈ view.attempts, attempt.Open ↔ view.Leases attempt

def RunDb.Ledger (db : RunDb) : Prop :=
  ∀ runId view, db.view runId = some view → view.Ledger

/-- A call that stops an abandoned run without closing its attempt. -/
inductive Strands (store : SQLiteRunStore) (clock : Clock) (db : RunDb) : Operation → Prop
  | cancel {view : RunView} (found : db.view view.row.id = some view)
      (abandoned : Abandoned view.row (clock 0)) :
      Strands store clock db (.cancel view.row.id view.row.tenant)
  | resume {view : RunView} (found : db.view view.row.id = some view)
      (abandoned : Abandoned view.row (clock 0)) (resumable : Resumable store view.row clock) :
      Strands store clock db (.resume view.row.id view.row.tenant)

/-! ## The calls that keep the ledger -/

namespace RunView.Ledger

variable {view : RunView}

theorem closed_of_holding (ledger : view.Ledger) {close : AttemptRow → AttemptRow}
    (closes : ∀ attempt, ¬(close attempt).Open) {attempt : AttemptRow}
    (member : attempt ∈ view.holding close) : ¬attempt.Open := by
  obtain ⟨old, oldMember, rfl⟩ := mem_holding.mp member
  split
  · exact closes old
  · rename_i other
    intro isOpen
    have leases := (ledger.openIffLeases old oldMember).mp isOpen
    exact other leases.2.symm

theorem close {after : RunView} (ledger : view.Ledger) (coherent : after.Coherent)
    {close : AttemptRow → AttemptRow} (closes : ∀ attempt, ¬(close attempt).Open)
    (attempts : after.attempts = view.holding close)
    (stopped : after.row.state ≠ .running) : after.Ledger := by
  refine ⟨coherent.numbered, fun attempt member => ?_⟩
  rw [attempts] at member
  have notOpen := ledger.closed_of_holding closes member
  exact iff_of_false notOpen fun leases => stopped leases.1

theorem keep {after : RunView} (ledger : view.Ledger) (coherent : after.Coherent)
    (attempts : after.attempts = view.attempts) (state : after.row.state = view.row.state)
    (leaseToken : after.row.leaseToken = view.row.leaseToken) : after.Ledger := by
  refine ⟨coherent.numbered, fun attempt member => ?_⟩
  rw [attempts] at member
  rw [RunView.Leases, state, leaseToken]
  exact ledger.openIffLeases attempt member

theorem idle {after : RunView} (ledger : view.Ledger) (coherent : after.Coherent)
    (attempts : after.attempts = view.attempts) (before : view.row.state ≠ .running)
    (stopped : after.row.state ≠ .running) : after.Ledger := by
  refine ⟨coherent.numbered, fun attempt member => ?_⟩
  rw [attempts] at member
  rw [ledger.openIffLeases attempt member]
  exact iff_of_false (fun leases => before leases.1) fun leases => stopped leases.1

theorem claimed (ledger : view.Ledger) {store : SQLiteRunStore} {token : String} {now : Time}
    (coherent : (view.claimed store token now).Coherent)
    (fresh : ∀ attempt ∈ view.attempts, attempt.token ≠ token) :
    (view.claimed store token now).Ledger := by
  refine ⟨coherent.numbered, fun attempt member => ?_⟩
  rcases List.mem_append.mp member with earlier | isNew
  · have notOpen := ledger.closed_of_holding
      (fun attempt isOpen => by cases isOpen.1) earlier
    refine iff_of_false notOpen fun leases => ?_
    obtain ⟨old, oldMember, rfl⟩ := mem_holding.mp earlier
    have sameToken : token = old.token := by
      have held := Option.some.inj leases.2
      split at held <;> exact held
    exact fresh old oldMember sameToken.symm
  · rw [List.mem_singleton] at isNew
    subst isNew
    exact iff_of_true ⟨rfl, rfl⟩ ⟨rfl, rfl⟩

theorem change {store : SQLiteRunStore} {clock : Clock} {operation : Operation}
    {after : RunView} (ledger : view.Ledger) (coherent : view.Coherent)
    (change : Change store clock operation view after) {db : RunDb}
    (found : db.view view.row.id = some view) (clean : ¬Strands store clock db operation) :
    after.Ledger := by
  have coherentAfter := coherent.change change
  cases change with
  | published => exact ledger.keep coherentAfter rfl rfl rfl
  | claimed _ _ _ _ fresh => exact ledger.claimed coherentAfter fresh
  | renewed => exact ledger.keep coherentAfter rfl rfl rfl
  | saved => exact ledger.keep coherentAfter rfl rfl rfl
  | finished _ final =>
      exact ledger.close coherentAfter (fun attempt isOpen => by cases isOpen.1) rfl
        (Coherent.verdict_ne_running final)
  | @cancelled _ expired _ lease =>
      rcases SQLiteRunStore.leaseExpired_eq_ok.mp lease with
        ⟨running, leaseUntil, set, rfl⟩ | ⟨stopped, rfl⟩
      · by_cases lapsed : leaseUntil ≤ clock 0
        · exact absurd (.cancel found ⟨running, leaseUntil, set, lapsed⟩) clean
        · refine ledger.keep coherentAfter rfl ?_ rfl
          simp [RunView.cancelling, RunRow.cancelling, lapsed, running]
      · exact ledger.idle coherentAfter rfl stopped (by simp [RunView.cancelling, RunRow.cancelling])
  | resumed resumable =>
      rcases resumable.idle with queued | failed | abandoned
      · exact ledger.idle coherentAfter rfl (by simp [queued]) nofun
      · exact ledger.idle coherentAfter rfl (by simp [failed]) nofun
      · exact absurd (.resume found abandoned resumable) clean
  | read reconciled =>
      cases reconciled with
      | untouched => exact ledger
      | _ => exact ledger.close coherentAfter (fun attempt isOpen => by cases isOpen.1) rfl nofun

end RunView.Ledger

/-! ## The calls that break it -/

theorem RunView.Coherent.holder {view : RunView} (coherent : view.Coherent)
    (running : view.row.state = .running) : ∃ attempt ∈ view.attempts, view.Leases attempt := by
  obtain ⟨token, held⟩ := coherent.leaseToken running
  have last := coherent.newest token held
  obtain ⟨attempt, member, same⟩ := List.mem_map.mp (List.mem_of_getLast? last)
  exact ⟨attempt, member, running, held.trans (congrArg some same.symm)⟩

theorem Strands.view {store : SQLiteRunStore} {clock : Clock} {db : RunDb}
    {operation : Operation} (valid : db.WellFormed) (strands : Strands store clock db operation) :
    ∃ view after, db.view view.row.id = some view ∧ view.row.state = .running ∧
      (operation.perform store clock db).2.view view.row.id = some after ∧
      after.attempts = view.attempts ∧ after.row.state ≠ .running := by
  cases strands with
  | @cancel view found abandoned =>
      obtain ⟨leaseUntil, set, lapsed⟩ := abandoned.lapsed
      have keeps : ∀ row : RunRow, (row.cancelling (!true) (clock 1)).id = row.id := fun _ => rfl
      refine ⟨view, view.cancelling false (clock 1), found, abandoned.running, ?_, rfl,
        by simp [RunView.cancelling, RunRow.cancelling]⟩
      have expired : SQLiteRunStore.leaseExpired view.row (clock 0) = .ok true :=
        SQLiteRunStore.leaseExpired_eq_ok.mpr (.inl ⟨abandoned.running, leaseUntil, set, by
          simp [lapsed]⟩)
      have notFinal : terminal view.row.state = false := by simp [abandoned.running, terminal]
      rw [perform_cancel valid found notFinal expired, RunDb.view_updateRun_same keeps, found]
      rfl
  | @resume view found abandoned resumable =>
      have keeps : ∀ row : RunRow, (row.requeued (clock 2)).id = row.id := fun _ => rfl
      refine ⟨view, view.requeued (clock 2), found, abandoned.running, ?_, rfl,
        by simp [RunView.requeued, RunRow.requeued]⟩
      rw [perform_resume valid found resumable, RunDb.view_updateRun_same keeps, found]
      rfl

theorem Strands.not_ledger {store : SQLiteRunStore} {clock : Clock} {db : RunDb}
    {operation : Operation} (valid : db.WellFormed) (ledger : db.Ledger)
    (coherent : ∀ runId view, db.view runId = some view → view.Coherent)
    (strands : Strands store clock db operation) :
    ¬(operation.perform store clock db).2.Ledger := by
  intro ledgerAfter
  obtain ⟨view, after, found, running, foundAfter, attempts, stopped⟩ := strands.view valid
  obtain ⟨attempt, member, leases⟩ := (coherent _ _ found).holder running
  have isOpen := ((ledger _ _ found).openIffLeases attempt member).mpr leases
  rw [← attempts] at member
  have leasesAfter := ((ledgerAfter _ _ foundAfter).openIffLeases attempt member).mp isOpen
  exact stopped leasesAfter.1

/-! ## Histories -/

theorem RunDb.Ledger.empty : RunDb.empty.Ledger := by
  intro runId view found
  simp [RunDb.view, RunDb.find, RunDb.empty, Table.find] at found

theorem RunDb.Ledger.apply {db : RunDb} {call : Call} (valid : db.WellFormed)
    (coherent : ∀ runId view, db.view runId = some view → view.Coherent)
    (ledger : db.Ledger) (clean : ¬Strands call.store call.clock db call.operation) :
    (call.apply db).Ledger := by
  intro runId after found
  have step := (Effect.of_perform valid call.store call.clock call.operation).view valid runId
  rw [show (call.operation.perform call.store call.clock db).2.view runId = some after
    from found] at step
  generalize before : db.view runId = earlier at step
  cases step with
  | same => exact ledger runId after before
  | created =>
      refine ⟨(RunView.Coherent.created _ _ _ _ _ _).numbered, fun attempt member => ?_⟩
      cases member
  | @changed view _ present change =>
      rw [present] at before
      have key := RunDb.id_of_view before
      exact (ledger runId view before).change (coherent runId view before) change
        (key ▸ before) clean

/-- The ledger is kept through a history exactly when no call stops a run whose
lease has run out by cancelling or resuming it. -/
theorem attempt_ledger (calls : List Call) :
    (∀ past, past <+: calls → (RunDb.empty.replay past).Ledger) ↔
      ∀ past call, past ++ [call] <+: calls →
        ¬Strands call.store call.clock (RunDb.empty.replay past) call.operation := by
  constructor
  · intro ledgers past call isPrefix strands
    have ledger := ledgers past ((List.prefix_append past [call]).trans isPrefix)
    have ledgerAfter := ledgers (past ++ [call]) isPrefix
    rw [replay_snoc] at ledgerAfter
    exact strands.not_ledger (wellFormed_replay past .empty) ledger
      (fun _ _ found => coherent_of_replay found) ledgerAfter
  · intro clean past
    induction past using List.reverseRecOn with
    | nil => exact fun _ => RunDb.Ledger.empty
    | append_singleton past call induction =>
        intro isPrefix
        have ledger := induction ((List.prefix_append past [call]).trans isPrefix)
        rw [replay_snoc]
        exact ledger.apply (wellFormed_replay past .empty)
          (fun _ _ found => coherent_of_replay found) (clean past call isPrefix)

namespace Sample

def cancelledLate : List Call :=
  [.instant store 0 (.create job 300 none), .instant store 0 (.claim job "first"),
    .instant store 100 (.cancel "run" "acme")]

end Sample

/-- The cancelled run keeps an open attempt. -/
theorem attempt_ledger_stranded : ¬(RunDb.empty.replay Sample.cancelledLate).Ledger := by
  intro ledger
  have found : (RunDb.empty.replay Sample.cancelledLate).view "run" = some
      (((RunDb.empty.replay Sample.cancelledLate).view "run").get (by decide +kernel)) :=
    (Option.some_get _).symm
  have broken := (ledger "run" _ found).openIffLeases
    { token := "first", runId := "run", number := 1, state := .running, started := 0 }
    (by decide +kernel)
  have stopped := (broken.mp ⟨rfl, rfl⟩).1
  exact absurd stopped (by decide +kernel)

end Crewos.RunStore

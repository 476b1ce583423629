import Crewos.RunStore.Views

/-! # What each operation can do

For every operation that returned, the conditions it checked and the write it
made. Everything later about the store is derived from these lemmas and never
unfolds an operation again. -/

namespace Crewos.RunStore

open Foundation

/-! ## The conditions -/

theorem notAfter_eq_ok {stamp : Option Time} {now : Time} {expired : Bool} :
    notAfter stamp now = .ok expired ↔
      ∃ value, stamp = some value ∧ expired = decide (value ≤ now) := by
  cases stamp <;> simp [notAfter, eq_comm (a := expired)]

/-- `token` holds a lease on the row that is live at `now`. -/
structure Owned (row : RunRow) (token : String) (now : Time) : Prop where
  running : row.state = .running
  held : row.leaseToken = some token
  live : ∃ leaseUntil, row.leaseUntil = some leaseUntil ∧ now < leaseUntil

/-- The run is `running` under a lease that has run out. -/
structure Abandoned (row : RunRow) (now : Time) : Prop where
  running : row.state = .running
  lapsed : ∃ leaseUntil, row.leaseUntil = some leaseUntil ∧ leaseUntil ≤ now

structure Claimable (store : SQLiteRunStore) (row : RunRow) (now : Time) : Prop where
  wanted : row.cancelRequested = false
  idle : row.state = .queued ∨ Abandoned row now
  safe : unsafePending row.checkpoint = false
  attempts : row.attempts < store.maxAttempts

structure Resumable (store : SQLiteRunStore) (row : RunRow) (clock : Clock) : Prop where
  wanted : row.cancelRequested = false
  idle : row.state = .queued ∨ row.state = .failed ∨ Abandoned row (clock 0)
  safe : unsafePending row.checkpoint = false
  attempts : row.attempts < store.maxAttempts
  early : ∀ deadline, row.deadline = some deadline → clock 1 < deadline

namespace SQLiteRunStore

theorem leaseExpired_eq_ok {row : RunRow} {now : Time} {expired : Bool} :
    leaseExpired row now = .ok expired ↔
      (row.state = .running ∧ ∃ leaseUntil, row.leaseUntil = some leaseUntil ∧
        expired = decide (leaseUntil ≤ now)) ∨ (row.state ≠ .running ∧ expired = true) := by
  by_cases running : row.state = .running
  · simp [leaseExpired, running, notAfter_eq_ok]
  · rw [leaseExpired, if_neg running, Except.ok.injEq]
    simp [running, eq_comm]

theorem claimable_eq_ok {store : SQLiteRunStore} {row : RunRow} {now : Time} :
    store.claimable row now = .ok () ↔ Claimable store row now := by
  simp only [claimable, Outcome.bind_eq_ok, raiseWhen_eq_ok, leaseExpired_eq_ok]
  constructor
  · rintro ⟨_, wanted, _, open_, _, notFailed, expired, lapsed, _, idle, _, safe, attempts⟩
    push Not at wanted
    refine ⟨by simpa using wanted.1, ?_, by simpa using safe, by simpa using attempts⟩
    rcases lapsed with ⟨running, leaseUntil, until_, rfl⟩ | ⟨notRunning, rfl⟩
    · exact .inr ⟨running, leaseUntil, until_, by simpa using idle⟩
    · left
      cases state : row.state <;> simp_all [terminal]
  · rintro ⟨wanted, idle, safe, attempts⟩
    have open_ : row.state = .queued ∨ row.state = .running :=
      idle.imp_right Abandoned.running
    refine ⟨(), ?_, (), ?_, (), ?_, true, ?_, (), by simp, (), by simp [safe],
      by simpa using attempts⟩
    · rcases open_ with state | state <;> simp [wanted, state]
    · rcases open_ with state | state <;> simp [terminal, state]
    · rcases open_ with state | state <;> simp [state]
    · rcases idle with queued | ⟨running, leaseUntil, until_, lapsed⟩
      · exact .inr ⟨by simp [queued], rfl⟩
      · exact .inl ⟨running, leaseUntil, until_, by simp [lapsed]⟩

theorem resumable_eq_ok {store : SQLiteRunStore} {row : RunRow} {clock : Clock} :
    store.resumable row clock = .ok () ↔ Resumable store row clock := by
  simp only [resumable, Outcome.bind_eq_ok, raiseWhen_eq_ok, leaseExpired_eq_ok]
  constructor
  · rintro ⟨_, wanted, expired, lapsed, _, idle, _, attempts, _, safe, early⟩
    push Not at wanted
    refine ⟨by simpa using wanted.1, ?_, by simpa using safe, by simpa using attempts, ?_⟩
    · rcases lapsed with ⟨running, leaseUntil, until_, rfl⟩ | ⟨notRunning, rfl⟩
      · exact .inr (.inr ⟨running, leaseUntil, until_, by simpa using idle⟩)
      · cases state : row.state <;> simp_all [terminal]
    · intro deadline set
      by_contra late
      exact early ⟨deadline, set, not_lt.mp late⟩
  · rintro ⟨wanted, idle, safe, attempts, early⟩
    have open_ : terminal row.state = false := by
      rcases idle with state | state | ⟨state, _⟩ <;> simp [terminal, state]
    refine ⟨(), by simp [wanted, open_], true, ?_, (), by simp, (), by simpa using attempts,
      (), by simp [safe], ?_⟩
    · rcases idle with state | state | ⟨running, leaseUntil, until_, lapsed⟩
      · exact .inr ⟨by simp [state], rfl⟩
      · exact .inr ⟨by simp [state], rfl⟩
      · exact .inl ⟨running, leaseUntil, until_, by simp [lapsed]⟩
    · rintro ⟨deadline, set, late⟩
      exact absurd (early deadline set) (not_lt.mpr late)

variable {store : SQLiteRunStore} {db next : RunDb} {clock : Clock}
  {runId tenantId token : String}

theorem ownedAttempt_eq_ok (valid : db.WellFormed) {now : Time} {row : RunRow} :
    ownedAttempt db runId tenantId token now = .ok row ↔
      ∃ view, db.view runId = some view ∧ view.row = row ∧ row.tenant = tenantId ∧
        Owned row token now := by
  simp only [ownedAttempt, Outcome.bind_eq_ok, RunDb.row_ok_iff valid, raiseWhen_eq_ok,
    notAfter_eq_ok, Outcome.pure_eq_ok]
  constructor
  · rintro ⟨_, ⟨view, found, rfl, tenant⟩, _, owned, _, ⟨leaseUntil, until_, rfl⟩, _, live, rfl⟩
    push Not at owned
    exact ⟨view, found, rfl, tenant, owned.1, owned.2, leaseUntil, until_, by simpa using live⟩
  · rintro ⟨view, found, rfl, tenant, running, held, leaseUntil, until_, live⟩
    exact ⟨view.row, ⟨view, found, rfl, tenant⟩, (), by simp [running, held], _,
      ⟨leaseUntil, until_, rfl⟩, (), by simpa using live, rfl⟩

/-! ## Inversion of each method -/

theorem create_ok {job : Dict} {duration : Time} {key : Option String} {row : RunRow}
    (ok : store.create job duration key clock db = .ok (row, next)) :
    ∃ tenant, textField job "tenant_id" = .ok tenant ∧ 0 < duration ∧
      ((existing db tenant (store.keyDigest key) = some row ∧
          submission row.job = submission job ∧ next = db) ∨
        (existing db tenant (store.keyDigest key) = none ∧
          ∃ id, textField job "agent_run_id" = .ok id ∧ (∀ old ∈ db.runs, old.id ≠ id) ∧
            row = newRun id tenant job (clock 0) duration (store.keyDigest key) ∧
            next = { db with runs := db.runs ++ [row] })) := by
  simp only [create, Outcome.bind_eq_ok, raiseWhen_eq_ok] at ok
  obtain ⟨_, positive, tenant, tenantField, ok⟩ := ok
  refine ⟨tenant, tenantField, not_le.mp positive, ?_⟩
  split at ok
  · rename_i stored found
    simp only [Outcome.bind_eq_ok, raiseWhen_eq_ok, Outcome.pure_eq_ok, Prod.mk.injEq] at ok
    obtain ⟨_, same, rfl, rfl⟩ := ok
    exact .inl ⟨found, not_not.mp same, rfl⟩
  · rename_i missing
    simp only [Outcome.bind_eq_ok, raiseWhen_eq_ok, Outcome.pure_eq_ok, Prod.mk.injEq] at ok
    obtain ⟨id, idField, _, fresh, rfl, rfl⟩ := ok
    push Not at fresh
    exact .inr ⟨missing, id, idField, fresh, rfl, rfl⟩

theorem markPublished_ok (valid : db.WellFormed)
    (ok : markPublished runId tenantId clock db = .ok ((), next)) :
    ∃ view, db.view runId = some view ∧ view.row.tenant = tenantId ∧
      next = db.updateRun runId fun row => row.markedPublished (clock 0) := by
  simp only [markPublished, Outcome.bind_eq_ok, RunDb.row_ok_iff valid,
    Outcome.pure_eq_ok, Prod.mk.injEq] at ok
  obtain ⟨_, ⟨view, found, rfl, tenant⟩, -, rfl⟩ := ok
  exact ⟨view, found, tenant, rfl⟩

theorem guard_ok (valid : db.WellFormed) {remaining : Time}
    (ok : store.guard runId tenantId token clock db = .ok (remaining, next)) :
    ∃ view deadline, db.view runId = some view ∧ view.row.tenant = tenantId ∧
      Owned view.row token (clock 0) ∧ view.row.cancelRequested = false ∧
      view.row.deadline = some deadline ∧ remaining = deadline - clock 1 ∧
      next = db.updateRun runId fun row => row.renewed (clock 1 + store.leaseSeconds) := by
  simp only [guard, Outcome.bind_eq_ok, ownedAttempt_eq_ok valid, raiseWhen_eq_ok] at ok
  obtain ⟨_, ⟨view, found, rfl, tenant, owned⟩, _, wanted, ok⟩ := ok
  split at ok
  · rename_i deadline set
    simp only [Outcome.pure_eq_ok, Prod.mk.injEq] at ok
    obtain ⟨rfl, rfl⟩ := ok
    exact ⟨view, deadline, found, tenant, owned, by simpa using wanted, set, rfl, rfl⟩
  · simp at ok

theorem checkpoint_ok (valid : db.WellFormed) {saved : Dict}
    (ok : store.checkpoint runId tenantId token saved clock db = .ok ((), next)) :
    ∃ view, db.view runId = some view ∧ view.row.tenant = tenantId ∧
      Owned view.row token (clock 0) ∧ view.row.cancelRequested = false ∧
      next = db.updateRun runId fun row =>
        row.saved saved (clock 1) (clock 2 + store.leaseSeconds) := by
  simp only [checkpoint, Outcome.bind_eq_ok, ownedAttempt_eq_ok valid, raiseWhen_eq_ok,
    Outcome.pure_eq_ok, Prod.mk.injEq] at ok
  obtain ⟨_, ⟨view, found, rfl, tenant, owned⟩, _, wanted, -, rfl⟩ := ok
  exact ⟨view, found, tenant, owned, by simpa using wanted, rfl⟩

theorem finish_ok (valid : db.WellFormed) {state : RunState} {result : Option Json}
    {error : Option String}
    (ok : finish runId tenantId token state result error clock db = .ok ((), next)) :
    ∃ view, db.view runId = some view ∧ view.row.tenant = tenantId ∧
      Owned view.row token (clock 0) ∧ finishable state = true ∧
      next = (db.updateAttempt (some token) fun attempt =>
          attempt.finished (verdict view.row state result error).1
            (verdict view.row state result error).2.2 (clock 1)).updateRun runId
        fun row => row.finished (verdict view.row state result error).1
          (verdict view.row state result error).2.1
          (verdict view.row state result error).2.2 (clock 2) := by
  simp only [finish, Outcome.bind_eq_ok, ownedAttempt_eq_ok valid, raiseWhen_eq_ok,
    Outcome.pure_eq_ok, Prod.mk.injEq] at ok
  obtain ⟨_, finishable, _, ⟨view, found, rfl, tenant, owned⟩, -, rfl⟩ := ok
  exact ⟨view, found, tenant, owned, by simpa using finishable, rfl⟩

theorem cancel_ok (valid : db.WellFormed) {row : RunRow}
    (ok : cancel runId tenantId clock db = .ok (row, next)) :
    ∃ view, db.view runId = some view ∧ view.row.tenant = tenantId ∧
      ((terminal view.row.state = true ∧ row = view.row ∧ next = db) ∨
        (terminal view.row.state = false ∧
          ∃ expired, leaseExpired view.row (clock 0) = .ok expired ∧
            row = view.row.cancelling (!expired) (clock 1) ∧
            next = db.updateRun runId fun row => row.cancelling (!expired) (clock 1))) := by
  simp only [cancel, Outcome.bind_eq_ok, RunDb.row_ok_iff valid] at ok
  obtain ⟨_, ⟨view, found, rfl, tenant⟩, ok⟩ := ok
  refine ⟨view, found, tenant, ?_⟩
  split at ok
  · rename_i final
    simp only [Outcome.pure_eq_ok, Prod.mk.injEq] at ok
    exact .inl ⟨final, ok.1.symm, ok.2.symm⟩
  · rename_i open_
    simp only [Outcome.bind_eq_ok, Outcome.pure_eq_ok, Prod.mk.injEq] at ok
    obtain ⟨expired, lapsed, _, read, rfl, rfl⟩ := ok
    refine .inr ⟨by simpa using open_, expired, lapsed, ?_, rfl⟩
    exact RunDb.row_updateRun valid found read (fun _ => rfl) (fun _ _ held => held)

theorem resume_ok (valid : db.WellFormed) {row : RunRow}
    (ok : store.resume runId tenantId clock db = .ok (row, next)) :
    ∃ view, db.view runId = some view ∧ view.row.tenant = tenantId ∧
      Resumable store view.row clock ∧ row = view.row.requeued (clock 2) ∧
      next = db.updateRun runId fun row => row.requeued (clock 2) := by
  simp only [resume, Outcome.bind_eq_ok, RunDb.row_ok_iff valid, Outcome.pure_eq_ok,
    Prod.mk.injEq] at ok
  obtain ⟨_, ⟨view, found, rfl, tenant⟩, _, resumable, _, read, rfl, rfl⟩ := ok
  refine ⟨view, found, tenant, resumable_eq_ok.mp resumable, ?_, rfl⟩
  exact RunDb.row_updateRun valid found read (fun _ => rfl) (fun _ _ held => by cases held)

end SQLiteRunStore

/-! ## Writes to one run -/

namespace RunView

/-- The attempts, with a change to the one that holds the lease. -/
def holding (view : RunView) (change : AttemptRow → AttemptRow) : List AttemptRow :=
  Table.update (fun attempt => some attempt.token = view.row.leaseToken) change view.attempts

def markedPublished (view : RunView) (now : Time) : RunView :=
  { view with row := view.row.markedPublished now }

def claimed (view : RunView) (store : SQLiteRunStore) (token : String) (now : Time) :
    RunView :=
  { row := view.row.claimed store token now
    attempts := view.holding (fun attempt => attempt.expired now) ++
      [SQLiteRunStore.newAttempt view.row token now] }

def renewed (view : RunView) (leaseUntil : Time) : RunView :=
  { view with row := view.row.renewed leaseUntil }

def saved (view : RunView) (checkpoint : Dict) (now leaseUntil : Time) : RunView :=
  { view with row := view.row.saved checkpoint now leaseUntil }

def finished (view : RunView) (state : RunState) (result : Option Json)
    (error : Option String) (ended updated : Time) : RunView :=
  { row := view.row.finished state result error updated
    attempts := view.holding fun attempt => attempt.finished state error ended }

def cancelling (view : RunView) (live : Bool) (now : Time) : RunView :=
  { view with row := view.row.cancelling live now }

def requeued (view : RunView) (now : Time) : RunView :=
  { view with row := view.row.requeued now }

def abandoned (view : RunView) (state : RunState) (error : Option String)
    (updated ended : Time) : RunView :=
  { row := view.row.abandoned state error updated
    attempts := view.holding fun attempt => attempt.abandoned state error ended }

end RunView

/-- Tables in which exactly one run's view has changed. -/
structure RunDb.Rewrites (db : RunDb) (before after : RunView) (next : RunDb) : Prop where
  valid : next.WellFormed
  here : next.view before.row.id = some after
  elsewhere : ∀ other, other ≠ before.row.id → next.view other = db.view other

namespace RunDb

variable {db : RunDb} {view : RunView} {runId : String}

theorem Rewrites.refl (valid : db.WellFormed) (found : db.view runId = some view) :
    db.Rewrites view view db :=
  ⟨valid, by rw [id_of_view found]; exact found, fun _ _ => rfl⟩

theorem Rewrites.updateRun (valid : db.WellFormed) (found : db.view runId = some view)
    (change : RunRow → RunRow) (keeps : ∀ row, (change row).id = row.id)
    (lease : ∀ row token, (change row).leaseToken = some token →
      row.leaseToken = some token) :
    db.Rewrites view { view with row := change view.row } (db.updateRun runId change) := by
  have key := id_of_view found
  refine ⟨valid.updateRun_of_lease keeps lease, ?_, ?_⟩
  · rw [key, view_updateRun_same keeps, found]
    rfl
  · intro other different
    rw [key] at different
    exact view_updateRun_other keeps different

theorem mem_runs_of_view (found : db.view runId = some view) : view.row ∈ db.runs :=
  Table.mem_of_find (find_of_view found)

theorem Rewrites.updateAttempt (valid : db.WellFormed) (found : db.view runId = some view)
    (change : AttemptRow → AttemptRow)
    (keepsToken : ∀ attempt, (change attempt).token = attempt.token)
    (keepsRun : ∀ attempt, (change attempt).runId = attempt.runId) :
    db.Rewrites view { view with attempts := view.holding change }
      (db.updateAttempt view.row.leaseToken change) := by
  refine ⟨valid.updateAttempt keepsToken keepsRun, ?_, ?_⟩
  · rw [id_of_view found, view_updateAttempt_same keepsRun, found]
    rfl
  · intro other different
    exact view_updateAttempt_other valid keepsRun (mem_runs_of_view found) rfl different

theorem Rewrites.trans {middle last : RunDb} {first second third : RunView}
    (left : db.Rewrites first second middle) (right : middle.Rewrites second third last)
    (same : second.row.id = first.row.id) : db.Rewrites first third last := by
  refine ⟨right.valid, same ▸ right.here, ?_⟩
  intro other different
  rw [right.elsewhere other (same ▸ different), left.elsewhere other different]

theorem Rewrites.close (valid : db.WellFormed) (found : db.view runId = some view)
    (close : AttemptRow → AttemptRow) (change : RunRow → RunRow)
    (keepsToken : ∀ attempt, (close attempt).token = attempt.token)
    (keepsRun : ∀ attempt, (close attempt).runId = attempt.runId)
    (keeps : ∀ row, (change row).id = row.id)
    (lease : ∀ row token, (change row).leaseToken = some token →
      row.leaseToken = some token) :
    db.Rewrites view { row := change view.row, attempts := view.holding close }
      ((db.updateAttempt view.row.leaseToken close).updateRun runId change) := by
  have key := id_of_view found
  have closed := Rewrites.updateAttempt valid found close keepsToken keepsRun
  have written := Rewrites.updateRun closed.valid (key ▸ closed.here) change keeps lease
  exact closed.trans written rfl

theorem Rewrites.abandon (valid : db.WellFormed) (found : db.view runId = some view)
    (state : RunState) (error : Option String) (updated ended : Time) :
    db.Rewrites view (view.abandoned state error updated ended)
      (SQLiteRunStore.abandon db view.row state error updated ended) := by
  have closed := Rewrites.close valid found
    (fun attempt => attempt.abandoned state error ended)
    (fun row => row.abandoned state error updated)
    (fun _ => rfl) (fun _ => rfl) (fun _ => rfl) (fun _ _ held => by cases held)
  rw [← id_of_view found] at closed
  exact closed

theorem Rewrites.startAttempt (valid : db.WellFormed) (found : db.view runId = some view)
    (store : SQLiteRunStore) {token : String} {now : Time} {next : RunDb}
    (ok : store.startAttempt db view.row token now = .ok next) :
    (∀ attempt ∈ db.attempts, attempt.token ≠ token) ∧
      db.Rewrites view (view.claimed store token now) next := by
  simp only [SQLiteRunStore.startAttempt, Outcome.bind_eq_ok, raiseWhen_eq_ok,
    Outcome.pure_eq_ok] at ok
  obtain ⟨_, fresh, rfl⟩ := ok
  have key := id_of_view found
  have expired := Rewrites.updateAttempt valid found
    (fun attempt => attempt.expired now) (fun _ => rfl) (fun _ => rfl)
  push Not at fresh
  have member : view.row ∈ db.runs := mem_runs_of_view found
  have owner : ∃ row ∈ (db.updateAttempt view.row.leaseToken
      fun attempt => attempt.expired now).runs,
      row.id = (SQLiteRunStore.newAttempt view.row token now).runId :=
    ⟨view.row, member, rfl⟩
  have inserted := expired.valid.insertAttempt fresh owner
  have keeps : ∀ row : RunRow, (row.claimed store token now).id = row.id := fun _ => rfl
  refine ⟨?_, ?_, ?_, ?_⟩
  · intro attempt member same
    refine fresh _ (Table.mem_update.mpr ⟨attempt, member, rfl⟩) ?_
    split <;> exact same
  · refine inserted.updateRun keeps ?_
    intro row _ same other held
    cases held
    exact ⟨_, List.mem_append_right _ (List.mem_singleton_self _), rfl, rfl⟩
  · rw [view_updateRun_same keeps, view_insertAttempt, expired.here]
    simp [SQLiteRunStore.newAttempt, RunView.claimed]
  · intro other different
    have elsewhere : other ≠ (SQLiteRunStore.newAttempt view.row token now).runId := different
    rw [view_updateRun_other keeps different, view_insertAttempt, if_neg elsewhere,
      expired.elsewhere other different]

end RunDb

namespace SQLiteRunStore

variable {store : SQLiteRunStore} {db next : RunDb} {clock : Clock}
  {runId tenantId token : String}

theorem claim_ok (valid : db.WellFormed) {job : Dict} {record : RunRow}
    (ok : store.claim job token clock db = .ok (record, next)) :
    ∃ view, db.view view.row.id = some view ∧
      textField job "agent_run_id" = .ok view.row.id ∧
      textField job "tenant_id" = .ok view.row.tenant ∧ view.row.job = Dict.sorted job ∧
      ((view.row.state = .succeeded ∧ record = view.row ∧ next = db) ∨
        (Claimable store view.row (clock 0) ∧
          (∀ attempt ∈ db.attempts, attempt.token ≠ token) ∧
          record = view.row.claimed store token (clock 0) ∧
          db.Rewrites view (view.claimed store token (clock 0)) next)) := by
  simp only [claim, Outcome.bind_eq_ok, RunDb.row_ok_iff valid, raiseWhen_eq_ok] at ok
  obtain ⟨runId, idField, tenantId, tenantField, _, ⟨view, found, rfl, rfl⟩, _, same, ok⟩ := ok
  have key := RunDb.id_of_view found
  refine ⟨view, key ▸ found, key ▸ idField, tenantField, not_not.mp same, ?_⟩
  split at ok
  · rename_i done
    simp only [Outcome.pure_eq_ok, Prod.mk.injEq] at ok
    exact .inl ⟨done, ok.1.symm, ok.2.symm⟩
  · simp only [Outcome.bind_eq_ok, Outcome.pure_eq_ok, Prod.mk.injEq] at ok
    obtain ⟨_, claimable, started, start, row, read, rfl, rfl⟩ := ok
    obtain ⟨fresh, rewrites⟩ := RunDb.Rewrites.startAttempt valid found store start
    refine .inr ⟨claimable_eq_ok.mp claimable, fresh, ?_, rewrites⟩
    obtain ⟨after, foundAfter, rfl, _⟩ := (RunDb.row_ok_iff rewrites.valid).mp read
    rw [rewrites.here] at foundAfter
    cases foundAfter
    rfl

/-! ### Reading -/

theorem reconcileCancelled_ok {row : RunRow}
    (ok : reconcileCancelled row clock db = .ok next) :
    (Abandoned row (clock 0) ∧ row.cancelRequested = true ∧
        next = abandon db row .cancelled none (clock 1) (clock 2)) ∨
      ((row.cancelRequested = true → ¬Abandoned row (clock 0)) ∧ next = db) := by
  unfold reconcileCancelled at ok
  split at ok
  · rename_i applies
    simp only [Outcome.bind_eq_ok, notAfter_eq_ok, Outcome.pure_eq_ok] at ok
    obtain ⟨_, ⟨leaseUntil, set, rfl⟩, rfl⟩ := ok
    by_cases lapsed : leaseUntil ≤ clock 0
    · exact .inl ⟨⟨applies.1, leaseUntil, set, lapsed⟩, applies.2, by simp [lapsed]⟩
    · refine .inr ⟨fun _ abandoned => lapsed ?_, by simp [lapsed]⟩
      obtain ⟨other, same, earlier⟩ := abandoned.lapsed
      rw [set] at same
      cases same
      exact earlier
  · rename_i differs
    simp only [Outcome.pure_eq_ok] at ok
    exact .inr ⟨fun wanted abandoned => differs ⟨abandoned.running, wanted⟩, ok.symm⟩

theorem reconcileUnsafe_ok {row : RunRow} (ok : reconcileUnsafe row clock db = .ok next) :
    (Abandoned row (clock 3) ∧ row.cancelRequested = false ∧
        unsafePending row.checkpoint = true ∧
        next = abandon db row .needsReview (some "UnsafeReplay") (clock 4) (clock 5)) ∨
      ((row.cancelRequested = false → Abandoned row (clock 3) →
        unsafePending row.checkpoint = false) ∧ next = db) := by
  unfold reconcileUnsafe at ok
  split at ok
  · rename_i applies
    simp only [Outcome.bind_eq_ok, notAfter_eq_ok, Outcome.pure_eq_ok] at ok
    obtain ⟨_, ⟨leaseUntil, set, rfl⟩, rfl⟩ := ok
    have wanted : row.cancelRequested = false := by simpa using applies.2
    by_cases lapsed : leaseUntil ≤ clock 3
    · cases pending : unsafePending row.checkpoint with
      | true =>
          exact .inl ⟨⟨applies.1, leaseUntil, set, lapsed⟩, wanted, rfl, by simp [lapsed]⟩
      | false => exact .inr ⟨fun _ _ => rfl, by simp⟩
    · refine .inr ⟨fun _ abandoned => absurd ?_ lapsed, by simp [lapsed]⟩
      obtain ⟨other, same, earlier⟩ := abandoned.lapsed
      rw [set] at same
      cases same
      exact earlier
  · rename_i differs
    simp only [Outcome.pure_eq_ok] at ok
    refine .inr ⟨fun wanted abandoned => absurd ⟨abandoned.running, ?_⟩ differs, ok.symm⟩
    simp [wanted]

/-- The deadline column was set and has passed. -/
def Late (row : RunRow) (now : Time) : Prop :=
  ∃ deadline, row.deadline = some deadline ∧ deadline ≤ now

theorem reconcileDeadline_ok {row : RunRow}
    (ok : reconcileDeadline row clock db = .ok next) :
    (Abandoned row (clock 6) ∧ Late row (clock 7) ∧
        next = abandon db row .exhausted (some "AgentDeadlineExceeded") (clock 8) (clock 9)) ∨
      ((Abandoned row (clock 6) → ¬Late row (clock 7)) ∧ next = db) := by
  unfold reconcileDeadline at ok
  split at ok
  · rename_i running
    simp only [Outcome.bind_eq_ok, notAfter_eq_ok] at ok
    obtain ⟨_, ⟨leaseUntil, set, rfl⟩, ok⟩ := ok
    split at ok
    · rename_i lapsed
      simp only [Outcome.bind_eq_ok, notAfter_eq_ok, Outcome.pure_eq_ok] at ok
      obtain ⟨_, ⟨deadline, due, rfl⟩, rfl⟩ := ok
      by_cases late : deadline ≤ clock 7
      · exact .inl ⟨⟨running, leaseUntil, set, by simpa using lapsed⟩, ⟨deadline, due, late⟩,
          by simp [late]⟩
      · refine .inr ⟨fun _ isLate => late ?_, by simp [late]⟩
        obtain ⟨other, same, earlier⟩ := isLate
        rw [due] at same
        cases same
        exact earlier
    · rename_i live
      simp only [Outcome.pure_eq_ok] at ok
      refine .inr ⟨fun abandoned => absurd ?_ live, ok.symm⟩
      obtain ⟨other, same, earlier⟩ := abandoned.lapsed
      rw [set] at same
      cases same
      simpa using earlier
  · rename_i differs
    simp only [Outcome.pure_eq_ok] at ok
    exact .inr ⟨fun abandoned => absurd abandoned.running differs, ok.symm⟩

/-- What reading a run does to it. -/
inductive Reconciled (clock : Clock) : RunView → RunView → Prop
  | cancelled {view} (abandoned : Abandoned view.row (clock 0))
      (requested : view.row.cancelRequested = true) :
      Reconciled clock view (view.abandoned .cancelled none (clock 1) (clock 2))
  | needsReview {view} (abandoned : Abandoned view.row (clock 3))
      (wanted : view.row.cancelRequested = false)
      (pending : unsafePending view.row.checkpoint = true) :
      Reconciled clock view
        (view.abandoned .needsReview (some "UnsafeReplay") (clock 4) (clock 5))
  | exhausted {view} (abandoned : Abandoned view.row (clock 6))
      (late : Late view.row (clock 7))
      (notCancelled : view.row.cancelRequested = true → ¬Abandoned view.row (clock 0))
      (safe : view.row.cancelRequested = false → Abandoned view.row (clock 3) →
        unsafePending view.row.checkpoint = false) :
      Reconciled clock view
        (view.abandoned .exhausted (some "AgentDeadlineExceeded") (clock 8) (clock 9))
  | untouched {view}
      (notCancelled : view.row.cancelRequested = true → ¬Abandoned view.row (clock 0))
      (safe : view.row.cancelRequested = false → Abandoned view.row (clock 3) →
        unsafePending view.row.checkpoint = false)
      (early : Abandoned view.row (clock 6) → ¬Late view.row (clock 7)) :
      Reconciled clock view view

theorem get_ok (valid : db.WellFormed) {row : RunRow} {history : List AttemptSummary}
    (ok : get runId tenantId clock db = .ok ((row, history), next)) :
    ∃ view after, db.view runId = some view ∧ view.row.tenant = tenantId ∧
      Reconciled clock view after ∧ row = after.row ∧ db.Rewrites view after next := by
  simp only [get, Outcome.bind_eq_ok, RunDb.row_ok_iff valid, Outcome.pure_eq_ok,
    Prod.mk.injEq] at ok
  obtain ⟨_, ⟨view, found, rfl, tenant⟩, first, cancelled, second, unsafe_, current, read,
    third, late, data, readBack, ⟨rfl, -⟩, rfl⟩ := ok
  have key := RunDb.id_of_view found
  -- It suffices to know how the last tables rewrite the first.
  suffices ∃ after, Reconciled clock view after ∧ db.Rewrites view after third by
    obtain ⟨after, reconciled, rewrites⟩ := this
    refine ⟨view, after, found, tenant, reconciled, ?_, rewrites⟩
    obtain ⟨last, foundLast, rfl, _⟩ := (RunDb.row_ok_iff rewrites.valid).mp readBack
    rw [← key, rewrites.here] at foundLast
    cases foundLast
    rfl
  have settled {after : RunView} (rewrites : db.Rewrites view after second)
      (stopped : after.row.state ≠ .running) : third = second := by
    obtain ⟨now, foundNow, rfl, _⟩ := (RunDb.row_ok_iff rewrites.valid).mp read
    rw [← key, rewrites.here] at foundNow
    cases foundNow
    rcases reconcileDeadline_ok late with ⟨abandoned, _⟩ | ⟨_, same⟩
    · exact absurd abandoned.running stopped
    · exact same
  rcases reconcileCancelled_ok cancelled with ⟨abandoned, requested, rfl⟩ | ⟨notCancelled, rfl⟩
  · rcases reconcileUnsafe_ok unsafe_ with ⟨_, wanted, _⟩ | ⟨_, rfl⟩
    · rw [requested] at wanted
      cases wanted
    · have rewrites := RunDb.Rewrites.abandon valid found .cancelled none (clock 1) (clock 2)
      rw [settled rewrites (by simp [RunView.abandoned, RunRow.abandoned])]
      exact ⟨_, .cancelled abandoned requested, rewrites⟩
  · rcases reconcileUnsafe_ok unsafe_ with ⟨abandoned, wanted, pending, rfl⟩ | ⟨safe, rfl⟩
    · have rewrites := RunDb.Rewrites.abandon valid found .needsReview (some "UnsafeReplay")
        (clock 4) (clock 5)
      rw [settled rewrites (by simp [RunView.abandoned, RunRow.abandoned])]
      exact ⟨_, .needsReview abandoned wanted pending, rewrites⟩
    · obtain ⟨same, foundSame, rfl, _⟩ := (RunDb.row_ok_iff valid).mp read
      rw [found] at foundSame
      cases foundSame
      rcases reconcileDeadline_ok late with ⟨abandoned, isLate, rfl⟩ | ⟨early, rfl⟩
      · exact ⟨_, .exhausted abandoned isLate notCancelled safe,
          RunDb.Rewrites.abandon valid found _ _ _ _⟩
      · exact ⟨_, .untouched notCancelled safe early, .refl valid found⟩

end SQLiteRunStore

end Crewos.RunStore

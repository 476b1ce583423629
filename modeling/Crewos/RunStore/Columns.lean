import Crewos.RunStore.Coherence
import Crewos.RunStore.Returned

/-! # Nullable columns

The lease columns and the deadline may be NULL, and comparing or subtracting a
NULL raises a `TypeError`. In every history the rows have set what the operations
compare, so that no operation meets one. -/

namespace Crewos.RunStore

open Foundation

/-! ## Rows -/

/-- A running row has set what is compared while it runs, and the deadline is set
by the first claim. -/
structure RunRow.Present (row : RunRow) : Prop where
  leaseToken : row.state = .running → ∃ token, row.leaseToken = some token
  leaseUntil : row.state = .running → ∃ leaseUntil, row.leaseUntil = some leaseUntil
  deadline : row.state = .running → ∃ deadline, row.deadline = some deadline
  started : 1 ≤ row.attempts ↔ ∃ deadline, row.deadline = some deadline

theorem RunView.Coherent.present {view : RunView} (coherent : view.Coherent) :
    view.row.Present := by
  refine ⟨coherent.leaseToken, coherent.leaseUntil, fun running => ?_, coherent.deadline⟩
  -- the attempt that holds the lease has been counted
  obtain ⟨token, held⟩ := coherent.leaseToken running
  have newest := coherent.newest token held
  have counted : view.attempts ≠ [] := by
    intro none
    rw [none] at newest
    cases newest
  have positive := List.length_pos_iff.mpr counted
  rw [coherent.length] at positive
  exact coherent.deadline.mp positive

def RunDb.Present (db : RunDb) : Prop := ∀ row ∈ db.runs, row.Present

theorem present_of_replay (calls : List Call) : (RunDb.empty.replay calls).Present := by
  intro row member
  have valid := wellFormed_replay calls .empty
  have found : (RunDb.empty.replay calls).view row.id =
      some { row, attempts := (RunDb.empty.replay calls).attemptsOf row.id } := by
    rw [RunDb.view, RunDb.find, Table.find_of_mem valid.ids member]
    rfl
  exact (coherent_of_replay found).present

theorem RunDb.mem_of_row {db : RunDb} {runId tenantId : String} {row : RunRow}
    (read : db.row runId tenantId = .ok row) : row ∈ db.runs := by
  unfold RunDb.row at read
  split at read
  · rename_i found
    cases read
    exact List.mem_of_find?_eq_some found
  · cases read

/-! ## Comparisons -/

abbrev Compares (result : Except RunStoreError α) : Prop := Outcome.Avoids .typeError result

variable {db : RunDb} {row : RunRow}

theorem compares_row (runId tenantId : String) : Compares (db.row runId tenantId) := by
  unfold RunDb.row
  split
  · exact Outcome.avoids_ok _
  · exact Outcome.avoids_error (by nofun)

theorem compares_notAfter {stamp : Option Time} (set : ∃ value, stamp = some value) (now : Time) :
    Compares (notAfter stamp now) := by
  obtain ⟨value, rfl⟩ := set
  exact Outcome.avoids_ok _

namespace SQLiteRunStore

theorem compares_leaseExpired (present : row.Present) (now : Time) :
    Compares (leaseExpired row now) := by
  unfold leaseExpired
  split
  · rename_i running
    exact compares_notAfter (present.leaseUntil running) now
  · exact Outcome.avoids_ok _

theorem compares_claimable (store : SQLiteRunStore) (present : row.Present) (now : Time) :
    Compares (store.claimable row now) := by
  unfold claimable
  refine Outcome.avoids_check (by nofun) fun _ => ?_
  refine Outcome.avoids_check (by nofun) fun _ => ?_
  refine Outcome.avoids_check (by nofun) fun _ => ?_
  apply Outcome.avoids_bind (compares_leaseExpired present now)
  intro _ _
  refine Outcome.avoids_check (by nofun) fun _ => ?_
  refine Outcome.avoids_check (by nofun) fun _ => ?_
  exact Outcome.avoids_raiseWhen (by nofun)

theorem compares_resumable (store : SQLiteRunStore) (present : row.Present) (clock : Clock) :
    Compares (store.resumable row clock) := by
  unfold resumable
  refine Outcome.avoids_check (by nofun) fun _ => ?_
  apply Outcome.avoids_bind (compares_leaseExpired present (clock 0))
  intro _ _
  refine Outcome.avoids_check (by nofun) fun _ => ?_
  refine Outcome.avoids_check (by nofun) fun _ => ?_
  refine Outcome.avoids_check (by nofun) fun _ => ?_
  exact Outcome.avoids_raiseWhen (by nofun)

theorem compares_startAttempt (store : SQLiteRunStore) (token : String) (now : Time) :
    Compares (store.startAttempt db row token now) := by
  unfold startAttempt
  refine Outcome.avoids_check (by nofun) fun _ => ?_
  exact Outcome.avoids_ok _

theorem ownedAttempt_running {runId tenantId token : String} {now : Time}
    (owned : ownedAttempt db runId tenantId token now = .ok row) :
    row ∈ db.runs ∧ row.state = .running := by
  unfold ownedAttempt at owned
  simp only [Outcome.bind_eq_ok, raiseWhen_eq_ok, Outcome.pure_eq_ok] at owned
  obtain ⟨stored, read, _, holds, _, _, _, _, rfl⟩ := owned
  exact ⟨RunDb.mem_of_row read, by_contra fun other => holds (.inl other)⟩

theorem compares_ownedAttempt (present : db.Present) (runId tenantId token : String)
    (now : Time) : Compares (ownedAttempt db runId tenantId token now) := by
  unfold ownedAttempt
  apply Outcome.avoids_bind (compares_row runId tenantId)
  intro row read
  refine Outcome.avoids_check (by nofun) fun held => ?_
  have running : row.state = .running := by_contra fun other => held (.inl other)
  apply Outcome.avoids_bind
    (compares_notAfter ((present row (RunDb.mem_of_row read)).leaseUntil running) now)
  intro _ _
  refine Outcome.avoids_check (by nofun) fun _ => ?_
  exact Outcome.avoids_ok _

/-! ### Reading a run -/

theorem present_abandon (present : db.Present) {state : RunState} (stopped : state ≠ .running)
    (error : Option String) (updated ended : Time) :
    (abandon db row state error updated ended).Present := by
  intro after member
  obtain ⟨old, here, rfl⟩ := Table.mem_update.mp member
  split
  · exact ⟨fun running => absurd running stopped, fun running => absurd running stopped,
      fun running => absurd running stopped, (present old here).started⟩
  · exact present old here

theorem compares_reconcileCancelled (present : row.Present) (clock : Clock) :
    Compares (reconcileCancelled row clock db) := by
  unfold reconcileCancelled
  split
  · rename_i cancelling
    apply Outcome.avoids_bind (compares_notAfter (present.leaseUntil cancelling.1) (clock 0))
    intro _ _
    exact Outcome.avoids_ok _
  · exact Outcome.avoids_ok _

theorem present_reconcileCancelled (present : db.Present) {clock : Clock} {next : RunDb}
    (returned : reconcileCancelled row clock db = .ok next) : next.Present := by
  unfold reconcileCancelled at returned
  split at returned
  · obtain ⟨expired, _, same⟩ := Outcome.bind_eq_ok.mp returned
    cases same
    split
    · exact present_abandon present (by nofun) _ _ _
    · exact present
  · cases returned
    exact present

theorem compares_reconcileUnsafe (present : row.Present) (clock : Clock) :
    Compares (reconcileUnsafe row clock db) := by
  unfold reconcileUnsafe
  split
  · rename_i abandoned
    apply Outcome.avoids_bind (compares_notAfter (present.leaseUntil abandoned.1) (clock 3))
    intro _ _
    exact Outcome.avoids_ok _
  · exact Outcome.avoids_ok _

theorem present_reconcileUnsafe (present : db.Present) {clock : Clock} {next : RunDb}
    (returned : reconcileUnsafe row clock db = .ok next) : next.Present := by
  unfold reconcileUnsafe at returned
  split at returned
  · obtain ⟨expired, _, same⟩ := Outcome.bind_eq_ok.mp returned
    cases same
    split
    · exact present_abandon present (by nofun) _ _ _
    · exact present
  · cases returned
    exact present

theorem compares_reconcileDeadline (present : row.Present) (clock : Clock) :
    Compares (reconcileDeadline row clock db) := by
  unfold reconcileDeadline
  split
  · rename_i running
    apply Outcome.avoids_bind (compares_notAfter (present.leaseUntil running) (clock 6))
    intro expired _
    split
    · apply Outcome.avoids_bind (compares_notAfter (present.deadline running) (clock 7))
      intro _ _
      exact Outcome.avoids_ok _
    · exact Outcome.avoids_ok _
  · exact Outcome.avoids_ok _

theorem compares_get (present : db.Present) (runId tenantId : String) (clock : Clock) :
    Compares (get runId tenantId clock db) := by
  unfold SQLiteRunStore.get
  apply Outcome.avoids_bind (compares_row runId tenantId)
  intro row read
  have here := present row (RunDb.mem_of_row read)
  apply Outcome.avoids_bind (compares_reconcileCancelled here clock)
  intro closed cancelled
  apply Outcome.avoids_bind (compares_reconcileUnsafe here clock)
  intro reviewed unsafe_
  have kept := present_reconcileUnsafe (present_reconcileCancelled present cancelled) unsafe_
  apply Outcome.avoids_bind (compares_row runId tenantId)
  intro current reread
  apply Outcome.avoids_bind
    (compares_reconcileDeadline (kept current (RunDb.mem_of_row reread)) clock)
  intro _ _
  apply Outcome.avoids_bind (compares_row runId tenantId)
  intro _ _
  exact Outcome.avoids_ok _

/-! ### The other operations -/

theorem compares_markPublished (runId tenantId : String) (clock : Clock) :
    Compares (markPublished runId tenantId clock db) := by
  unfold markPublished
  apply Outcome.avoids_bind (compares_row runId tenantId)
  intro _ _
  exact Outcome.avoids_ok _

theorem compares_claim (store : SQLiteRunStore) (present : db.Present) {job : Dict}
    (addressed : ∀ key ∈ ["agent_run_id", "tenant_id"], Compares (textField job key))
    (token : String) (clock : Clock) : Compares (store.claim job token clock db) := by
  unfold claim
  apply Outcome.avoids_bind (addressed _ (by simp))
  intro runId _
  apply Outcome.avoids_bind (addressed _ (by simp))
  intro tenantId _
  apply Outcome.avoids_bind (compares_row runId tenantId)
  intro row read
  refine Outcome.avoids_check (by nofun) fun _ => ?_
  split
  · exact Outcome.avoids_ok _
  · apply Outcome.avoids_bind
      (compares_claimable store (present row (RunDb.mem_of_row read)) (clock 0))
    intro _ _
    apply Outcome.avoids_bind (compares_startAttempt store token (clock 0))
    intro _ _
    apply Outcome.avoids_bind (compares_row row.id row.tenant)
    intro _ _
    exact Outcome.avoids_ok _

theorem compares_create (store : SQLiteRunStore) {job : Dict}
    (addressed : ∀ key ∈ ["agent_run_id", "tenant_id"], Compares (textField job key))
    (duration : Time) (idempotencyKey : Option String) (clock : Clock) :
    Compares (store.create job duration idempotencyKey clock db) := by
  unfold create
  refine Outcome.avoids_check (by nofun) fun _ => ?_
  apply Outcome.avoids_bind (addressed _ (by simp))
  intro tenant _
  dsimp only
  split
  · refine Outcome.avoids_check (by nofun) fun _ => ?_
    exact Outcome.avoids_ok _
  · apply Outcome.avoids_bind (addressed _ (by simp))
    intro id _
    refine Outcome.avoids_check (by nofun) fun _ => ?_
    exact Outcome.avoids_ok _

theorem compares_guard (store : SQLiteRunStore) (present : db.Present)
    (runId tenantId token : String) (clock : Clock) :
    Compares (store.guard runId tenantId token clock db) := by
  unfold SQLiteRunStore.guard
  apply Outcome.avoids_bind (compares_ownedAttempt present runId tenantId token (clock 0))
  intro row owned
  obtain ⟨member, running⟩ := ownedAttempt_running owned
  refine Outcome.avoids_check (by nofun) fun _ => ?_
  obtain ⟨deadline, set⟩ := (present row member).deadline running
  rw [set]
  exact Outcome.avoids_ok _

theorem compares_checkpoint (store : SQLiteRunStore) (present : db.Present)
    (runId tenantId token : String) (saved : Dict) (clock : Clock) :
    Compares (store.checkpoint runId tenantId token saved clock db) := by
  unfold checkpoint
  apply Outcome.avoids_bind (compares_ownedAttempt present runId tenantId token (clock 0))
  intro _ _
  refine Outcome.avoids_check (by nofun) fun _ => ?_
  exact Outcome.avoids_ok _

theorem compares_finish (present : db.Present) (runId tenantId token : String)
    (state : RunState) (result : Option Json) (error : Option String) (clock : Clock) :
    Compares (finish runId tenantId token state result error clock db) := by
  unfold finish
  refine Outcome.avoids_check (by nofun) fun _ => ?_
  apply Outcome.avoids_bind (compares_ownedAttempt present runId tenantId token (clock 0))
  intro _ _
  exact Outcome.avoids_ok _

theorem compares_cancel (present : db.Present) (runId tenantId : String) (clock : Clock) :
    Compares (cancel runId tenantId clock db) := by
  unfold cancel
  apply Outcome.avoids_bind (compares_row runId tenantId)
  intro row read
  split
  · exact Outcome.avoids_ok _
  · apply Outcome.avoids_bind
      (compares_leaseExpired (present row (RunDb.mem_of_row read)) (clock 0))
    intro _ _
    apply Outcome.avoids_bind (compares_row runId tenantId)
    intro _ _
    exact Outcome.avoids_ok _

theorem compares_resume (store : SQLiteRunStore) (present : db.Present)
    (runId tenantId : String) (clock : Clock) :
    Compares (store.resume runId tenantId clock db) := by
  unfold resume
  apply Outcome.avoids_bind (compares_row runId tenantId)
  intro row read
  apply Outcome.avoids_bind
    (compares_resumable store (present row (RunDb.mem_of_row read)) clock)
  intro _ _
  apply Outcome.avoids_bind (compares_row runId tenantId)
  intro _ _
  exact Outcome.avoids_ok _

end SQLiteRunStore

/-- The job of the call does not name a run and a tenant as texts. -/
def Operation.Unaddressed : Operation → Prop
  | .create job _ _ | .claim job _ =>
      ∃ key ∈ ["agent_run_id", "tenant_id"], textField job key = .error .typeError
  | _ => False

/-- A `TypeError` comes from the job of the call, never from a row. -/
theorem unaddressed_of_typeError (present : db.Present) {store : SQLiteRunStore} {clock : Clock}
    {operation : Operation}
    (raised : (operation.perform store clock db).1 = .error .typeError) :
    operation.Unaddressed := by
  have failed : operation.body store clock db = .error .typeError := by
    unfold Operation.perform at raised
    split at raised
    · cases raised
    · rename_i failed
      cases raised
      exact failed
  by_contra addressed
  have addresses {job : Dict} (none : ¬∃ key ∈ ["agent_run_id", "tenant_id"],
      textField job key = .error .typeError) :
      ∀ key ∈ ["agent_run_id", "tenant_id"], Compares (textField job key) :=
    fun key member failed => none ⟨key, member, failed⟩
  revert failed
  change Compares (operation.body store clock db)
  cases operation with
  | create job duration key =>
      exact Outcome.avoids_map
        (SQLiteRunStore.compares_create store (addresses addressed) duration key clock)
  | get runId tenantId =>
      exact Outcome.avoids_map (SQLiteRunStore.compares_get present runId tenantId clock)
  | markPublished runId tenantId =>
      exact Outcome.avoids_map (SQLiteRunStore.compares_markPublished runId tenantId clock)
  | claim job token =>
      exact Outcome.avoids_map
        (SQLiteRunStore.compares_claim store present (addresses addressed) token clock)
  | guard runId tenantId token =>
      exact Outcome.avoids_map
        (SQLiteRunStore.compares_guard store present runId tenantId token clock)
  | checkpoint runId tenantId token saved =>
      exact Outcome.avoids_map
        (SQLiteRunStore.compares_checkpoint store present runId tenantId token saved clock)
  | finish runId tenantId token state result error =>
      exact Outcome.avoids_map
        (SQLiteRunStore.compares_finish present runId tenantId token state result error clock)
  | cancel runId tenantId =>
      exact Outcome.avoids_map (SQLiteRunStore.compares_cancel present runId tenantId clock)
  | resume runId tenantId =>
      exact Outcome.avoids_map (SQLiteRunStore.compares_resume store present runId tenantId clock)

/-! ## Records -/

def Reply.row? : Reply → Option RunRow
  | .record row | .history row _ => some row
  | .remaining _ | .nothing => none

namespace SQLiteRunStore

variable {next : RunDb} {runId tenantId : String} {clock : Clock}

theorem mem_of_create {store : SQLiteRunStore} {job : Dict} {duration : Time}
    {idempotencyKey : Option String}
    (returned : store.create job duration idempotencyKey clock db = .ok (row, next)) :
    row ∈ next.runs := by
  simp only [create, Outcome.bind_eq_ok] at returned
  obtain ⟨_, _, tenant, _, returned⟩ := returned
  split at returned
  · rename_i found
    obtain ⟨_, _, same⟩ := Outcome.bind_eq_ok.mp returned
    cases same
    unfold existing at found
    split at found
    · exact List.mem_of_find?_eq_some found
    · cases found
  · simp only [Outcome.bind_eq_ok, Outcome.pure_eq_ok] at returned
    obtain ⟨id, _, _, _, same⟩ := returned
    cases same
    exact List.mem_append_right _ (List.mem_singleton_self _)

theorem mem_of_get {history : List AttemptSummary}
    (returned : get runId tenantId clock db = .ok ((row, history), next)) : row ∈ next.runs := by
  simp only [get, Outcome.bind_eq_ok, Outcome.pure_eq_ok] at returned
  obtain ⟨_, _, _, _, _, _, _, _, _, _, _, read, same⟩ := returned
  cases same
  exact RunDb.mem_of_row read

theorem mem_of_claim {store : SQLiteRunStore} {job : Dict} {token : String}
    (returned : store.claim job token clock db = .ok (row, next)) : row ∈ next.runs := by
  simp only [claim, Outcome.bind_eq_ok] at returned
  obtain ⟨_, _, _, _, stored, read, _, _, returned⟩ := returned
  split at returned
  · cases returned
    exact RunDb.mem_of_row read
  · simp only [Outcome.bind_eq_ok, Outcome.pure_eq_ok] at returned
    obtain ⟨_, _, _, _, _, reread, same⟩ := returned
    cases same
    exact RunDb.mem_of_row reread

theorem mem_of_cancel (returned : cancel runId tenantId clock db = .ok (row, next)) :
    row ∈ next.runs := by
  obtain ⟨stored, read, returned⟩ := Outcome.bind_eq_ok.mp returned
  split at returned
  · cases returned
    exact RunDb.mem_of_row read
  · simp only [Outcome.bind_eq_ok, Outcome.pure_eq_ok] at returned
    obtain ⟨_, _, _, reread, same⟩ := returned
    cases same
    exact RunDb.mem_of_row reread

theorem mem_of_resume {store : SQLiteRunStore}
    (returned : store.resume runId tenantId clock db = .ok (row, next)) : row ∈ next.runs := by
  simp only [resume, Outcome.bind_eq_ok, Outcome.pure_eq_ok] at returned
  obtain ⟨_, _, _, _, _, read, same⟩ := returned
  cases same
  exact RunDb.mem_of_row read

end SQLiteRunStore

theorem mem_of_returned {store : SQLiteRunStore} {clock : Clock} {operation : Operation}
    {reply : Reply} (returned : (operation.perform store clock db).1 = .ok reply)
    (here : reply.row? = some row) : row ∈ (operation.perform store clock db).2.runs := by
  have ran := perform_returned returned
  generalize (operation.perform store clock db).2 = next at ran
  cases operation with
  | create job duration key =>
      obtain ⟨⟨record, after⟩, done, same⟩ := Outcome.map_eq_ok.mp ran
      cases same
      cases here
      exact SQLiteRunStore.mem_of_create done
  | get runId tenantId =>
      obtain ⟨⟨⟨record, history⟩, after⟩, done, same⟩ := Outcome.map_eq_ok.mp ran
      cases same
      cases here
      exact SQLiteRunStore.mem_of_get done
  | claim job token =>
      obtain ⟨⟨record, after⟩, done, same⟩ := Outcome.map_eq_ok.mp ran
      cases same
      cases here
      exact SQLiteRunStore.mem_of_claim done
  | cancel runId tenantId =>
      obtain ⟨⟨record, after⟩, done, same⟩ := Outcome.map_eq_ok.mp ran
      cases same
      cases here
      exact SQLiteRunStore.mem_of_cancel done
  | resume runId tenantId =>
      obtain ⟨⟨record, after⟩, done, same⟩ := Outcome.map_eq_ok.mp ran
      cases same
      cases here
      exact SQLiteRunStore.mem_of_resume done
  | markPublished | guard | checkpoint | finish =>
      obtain ⟨_, _, same⟩ := Outcome.map_eq_ok.mp ran
      cases same
      cases here

end Crewos.RunStore

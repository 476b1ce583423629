import Crewos.Foundation.Noninterference
import Crewos.RunStore.Returned
import Crewos.RunStore.Submission

/-! # Tenants of the run store

Every operation names a tenant. What it answers and what it writes depends on
that tenant's runs and attempts alone, and it writes nowhere else. -/

namespace Crewos.RunStore

open Foundation SQLiteRunStore

def Operation.tenant : Operation → Except RunStoreError String
  | .create job _ _ | .claim job _ => textField job "tenant_id"
  | .get _ tenantId | .markPublished _ tenantId | .guard _ tenantId _
  | .checkpoint _ tenantId _ _ | .finish _ tenantId _ _ _ _ | .cancel _ tenantId
  | .resume _ tenantId => .ok tenantId

def RunDb.Owns (db : RunDb) (tenantId runId : String) : Prop :=
  ∃ row ∈ db.runs, row.id = runId ∧ row.tenant = tenantId

instance (db : RunDb) (tenantId runId : String) : Decidable (db.Owns tenantId runId) :=
  inferInstanceAs (Decidable (∃ row ∈ db.runs, row.id = runId ∧ row.tenant = tenantId))

/-- The runs of a tenant and their attempts. -/
def RunDb.partOf (tenantId : String) (db : RunDb) : RunDb where
  runs := db.runs.filter fun row => row.tenant = tenantId
  attempts := db.attempts.filter fun attempt => db.Owns tenantId attempt.runId

/-! ## Reading and writing a part -/

structure Stays (change : RunRow → RunRow) : Prop where
  id : ∀ row, (change row).id = row.id
  tenant : ∀ row, (change row).tenant = row.tenant

namespace RunDb

variable {db : RunDb} {tenantId : String}

theorem row_partOf (runId : String) : (db.partOf tenantId).row runId tenantId =
    db.row runId tenantId := by
  have found : ((db.runs.filter fun row => row.tenant = tenantId).find? fun row =>
      row.id = runId ∧ row.tenant = tenantId) =
        db.runs.find? fun row => row.id = runId ∧ row.tenant = tenantId := by
    rw [List.find?_filter]
    congr 1
    funext row
    by_cases same : row.tenant = tenantId <;> simp [same]
  unfold RunDb.row
  rw [← found]
  rfl

theorem existing_partOf (key : Option String) :
    existing (db.partOf tenantId) tenantId key = existing db tenantId key := by
  cases key with
  | none => rfl
  | some key =>
      unfold existing
      simp only [partOf, List.find?_filter]
      congr 1
      funext row
      by_cases same : row.tenant = tenantId <;> simp [same]

theorem owns_updateRun {runId : String} {change : RunRow → RunRow} (stays : Stays change)
    (other : String) : (db.updateRun runId change).Owns tenantId other ↔ db.Owns tenantId other := by
  simp only [Owns, updateRun, Table.mem_update]
  constructor
  · rintro ⟨_, ⟨old, member, rfl⟩, same⟩
    refine ⟨old, member, ?_⟩
    split at same
    · rw [stays.id, stays.tenant] at same
      exact same
    · exact same
  · rintro ⟨old, member, same⟩
    refine ⟨_, ⟨old, member, rfl⟩, ?_⟩
    split
    · rw [stays.id, stays.tenant]
      exact same
    · exact same

theorem partOf_updateRun (runId : String) {change : RunRow → RunRow} (stays : Stays change) :
    (db.updateRun runId change).partOf tenantId = (db.partOf tenantId).updateRun runId change := by
  have owners := @owns_updateRun db tenantId runId change stays
  simp only [partOf, owners]
  simp only [updateRun, RunDb.mk.injEq, and_true]
  exact Table.filter_update _ _ _ (by simp [stays.tenant]) _

theorem partOf_updateAttempt (token : Option String) {change : AttemptRow → AttemptRow}
    (keepsRun : ∀ attempt, (change attempt).runId = attempt.runId) :
    (db.updateAttempt token change).partOf tenantId =
      (db.partOf tenantId).updateAttempt token change := by
  have owners (runId : String) :
      (db.updateAttempt token change).Owns tenantId runId ↔ db.Owns tenantId runId := Iff.rfl
  simp only [partOf, owners]
  simp only [updateAttempt, RunDb.mk.injEq, true_and]
  exact Table.filter_update _ _ _ (by simp [keepsRun]) _

theorem partOf_insertRun (valid : db.WellFormed) {row : RunRow} (tenant : row.tenant = tenantId)
    (fresh : ∀ old ∈ db.runs, old.id ≠ row.id) :
    { db with runs := db.runs ++ [row] }.partOf tenantId =
      { db.partOf tenantId with runs := (db.partOf tenantId).runs ++ [row] } := by
  simp only [partOf, RunDb.mk.injEq, List.filter_append, List.append_cancel_left_eq]
  refine ⟨by simp [tenant], ?_⟩
  apply List.filter_congr
  intro attempt member
  obtain ⟨owner, ownerMember, same⟩ := valid.owner attempt member
  have different := fresh owner ownerMember
  rw [same] at different
  apply decide_eq_decide.mpr
  simp [Owns, different.symm]

theorem partOf_insertAttempt {attempt : AttemptRow} (owned : db.Owns tenantId attempt.runId) :
    { db with attempts := db.attempts ++ [attempt] }.partOf tenantId =
      { db.partOf tenantId with attempts := (db.partOf tenantId).attempts ++ [attempt] } := by
  have owners (runId : String) :
      ({ db with attempts := db.attempts ++ [attempt] } : RunDb).Owns tenantId runId ↔
        db.Owns tenantId runId := Iff.rfl
  simp only [partOf, owners]
  simp [owned]

/-! ## Writing elsewhere -/

theorem partOf_updateRun_other {runId : String} {change : RunRow → RunRow} (stays : Stays change)
    (other : ∀ row ∈ db.runs, row.id = runId → row.tenant ≠ tenantId) :
    (db.updateRun runId change).partOf tenantId = db.partOf tenantId := by
  rw [partOf_updateRun runId stays]
  unfold updateRun
  rw [Table.update_of_none]
  intro row member
  obtain ⟨inside, tenant⟩ := List.mem_filter.mp member
  simp only [decide_eq_true_eq] at tenant
  simp only [decide_eq_false_iff_not]
  exact fun same => other row inside same tenant

theorem partOf_updateAttempt_other {token : Option String} {change : AttemptRow → AttemptRow}
    (keepsRun : ∀ attempt, (change attempt).runId = attempt.runId)
    (other : ∀ attempt ∈ db.attempts, some attempt.token = token →
      ¬db.Owns tenantId attempt.runId) :
    (db.updateAttempt token change).partOf tenantId = db.partOf tenantId := by
  rw [partOf_updateAttempt token keepsRun]
  unfold updateAttempt
  rw [Table.update_of_none]
  intro attempt member
  obtain ⟨inside, owned⟩ := List.mem_filter.mp member
  simp only [decide_eq_true_eq] at owned
  simp only [decide_eq_false_iff_not]
  exact fun same => other attempt inside same owned

theorem partOf_insertRun_other {row : RunRow} (tenant : row.tenant ≠ tenantId) :
    { db with runs := db.runs ++ [row] }.partOf tenantId = db.partOf tenantId := by
  have owners (runId : String) :
      ({ db with runs := db.runs ++ [row] } : RunDb).Owns tenantId runId ↔
        db.Owns tenantId runId := by
    simp [Owns, tenant]
  simp only [partOf, owners]
  simp [tenant]

theorem partOf_insertAttempt_other {attempt : AttemptRow}
    (other : ¬db.Owns tenantId attempt.runId) :
    { db with attempts := db.attempts ++ [attempt] }.partOf tenantId = db.partOf tenantId := by
  have owners (runId : String) :
      ({ db with attempts := db.attempts ++ [attempt] } : RunDb).Owns tenantId runId ↔
        db.Owns tenantId runId := Iff.rfl
  simp only [partOf, owners]
  simp [other]

end RunDb

/-! ## The tenant's own calls -/

section Own

variable {store : SQLiteRunStore} {clock : Clock} {db : RunDb} {tenantId : String}

theorem row_updateRun_partOf (runId : String) {change : RunRow → RunRow} (stays : Stays change) :
    ((db.partOf tenantId).updateRun runId change).row runId tenantId =
      (db.updateRun runId change).row runId tenantId := by
  rw [← RunDb.partOf_updateRun runId stays, RunDb.row_partOf]

theorem markPublished_partOf (runId : String) :
    markPublished runId tenantId clock (db.partOf tenantId) =
      seenBy (RunDb.partOf tenantId) (markPublished runId tenantId clock db) := by
  have stays : Stays fun row => row.markedPublished (clock 0) := ⟨fun _ => rfl, fun _ => rfl⟩
  simp only [markPublished, seenBy_bind, seenBy_pure, RunDb.row_partOf,
    RunDb.partOf_updateRun runId stays]

theorem ownedAttempt_partOf (runId token : String) (now : Time) :
    ownedAttempt (db.partOf tenantId) runId tenantId token now =
      ownedAttempt db runId tenantId token now := by
  simp only [ownedAttempt, RunDb.row_partOf]

theorem guard_partOf (runId token : String) :
    store.guard runId tenantId token clock (db.partOf tenantId) =
      seenBy (RunDb.partOf tenantId) (store.guard runId tenantId token clock db) := by
  have stays : Stays fun row => row.renewed (clock 1 + store.leaseSeconds) :=
    ⟨fun _ => rfl, fun _ => rfl⟩
  simp only [SQLiteRunStore.guard, seenBy_bind, ownedAttempt_partOf]
  congr 1
  funext row
  cases row.deadline with
  | none => rfl
  | some deadline =>
      simp only [seenBy_pure, RunDb.partOf_updateRun runId stays]

theorem checkpoint_partOf (runId token : String) (saved : Dict) :
    store.checkpoint runId tenantId token saved clock (db.partOf tenantId) =
      seenBy (RunDb.partOf tenantId) (store.checkpoint runId tenantId token saved clock db) := by
  have stays : Stays fun row => row.saved saved (clock 1) (clock 2 + store.leaseSeconds) :=
    ⟨fun _ => rfl, fun _ => rfl⟩
  simp only [checkpoint, seenBy_bind, seenBy_pure, ownedAttempt_partOf,
    RunDb.partOf_updateRun runId stays]

theorem finish_partOf (runId token : String) (state : RunState) (result : Option Json)
    (error : Option String) :
    finish runId tenantId token state result error clock (db.partOf tenantId) =
      seenBy (RunDb.partOf tenantId) (finish runId tenantId token state result error clock db) := by
  have stays (state : RunState) (result : Option Json) (error : Option String) :
      Stays fun row => row.finished state result error (clock 2) := ⟨fun _ => rfl, fun _ => rfl⟩
  have keepsRun (state : RunState) (error : Option String) (attempt : AttemptRow) :
      (attempt.finished state error (clock 1)).runId = attempt.runId := rfl
  simp only [finish, seenBy_bind, seenBy_pure, ownedAttempt_partOf,
    RunDb.partOf_updateRun runId (stays _ _ _), RunDb.partOf_updateAttempt _ (keepsRun _ _)]

theorem cancel_partOf (runId : String) :
    cancel runId tenantId clock (db.partOf tenantId) =
      seenBy (RunDb.partOf tenantId) (cancel runId tenantId clock db) := by
  have stays (running : Bool) : Stays fun row => row.cancelling running (clock 1) :=
    ⟨fun _ => rfl, fun _ => rfl⟩
  simp only [cancel, seenBy_bind, seenBy_ite, seenBy_pure, RunDb.row_partOf,
    row_updateRun_partOf runId (stays _), RunDb.partOf_updateRun runId (stays _)]

theorem resume_partOf (runId : String) :
    store.resume runId tenantId clock (db.partOf tenantId) =
      seenBy (RunDb.partOf tenantId) (store.resume runId tenantId clock db) := by
  have stays : Stays fun row => row.requeued (clock 2) := ⟨fun _ => rfl, fun _ => rfl⟩
  simp only [resume, seenBy_bind, seenBy_pure, RunDb.row_partOf, row_updateRun_partOf runId stays,
    RunDb.partOf_updateRun runId stays]

/-! ### Reading -/

theorem abandon_partOf (row : RunRow) (state : RunState) (error : Option String)
    (updated ended : Time) :
    abandon (db.partOf tenantId) row state error updated ended =
      (abandon db row state error updated ended).partOf tenantId := by
  have stays : Stays fun row => row.abandoned state error updated := ⟨fun _ => rfl, fun _ => rfl⟩
  have keepsRun (attempt : AttemptRow) :
      (attempt.abandoned state error ended).runId = attempt.runId := rfl
  rw [abandon, abandon, RunDb.partOf_updateAttempt _ keepsRun, RunDb.partOf_updateRun _ stays]

theorem reconcileCancelled_partOf (row : RunRow) :
    reconcileCancelled row clock (db.partOf tenantId) =
      (fun next => next.partOf tenantId) <$> reconcileCancelled row clock db := by
  unfold reconcileCancelled
  split
  · cases notAfter row.leaseUntil (clock 0) with
    | error => rfl
    | ok expired =>
        cases expired <;> simp [abandon_partOf, pure, Except.pure, Functor.map, Except.map]
  · rfl

theorem reconcileUnsafe_partOf (row : RunRow) :
    reconcileUnsafe row clock (db.partOf tenantId) =
      (fun next => next.partOf tenantId) <$> reconcileUnsafe row clock db := by
  unfold reconcileUnsafe
  split
  · cases notAfter row.leaseUntil (clock 3) with
    | error => rfl
    | ok expired =>
        cases unsafePending row.checkpoint <;> cases expired <;>
          simp [abandon_partOf, pure, Except.pure, Functor.map, Except.map]
  · rfl

theorem reconcileDeadline_partOf (row : RunRow) :
    reconcileDeadline row clock (db.partOf tenantId) =
      (fun next => next.partOf tenantId) <$> reconcileDeadline row clock db := by
  unfold reconcileDeadline
  split
  · cases notAfter row.leaseUntil (clock 6) with
    | error => rfl
    | ok expired =>
        cases expired with
        | false => rfl
        | true =>
            cases notAfter row.deadline (clock 7) with
            | error => rfl
            | ok late =>
                cases late <;>
                  simp [abandon_partOf, pure, Except.pure, Functor.map, Except.map]
  · rfl

theorem filter_attempts_partOf {runId : String} (owned : db.Owns tenantId runId) :
    ((db.partOf tenantId).attempts.filter fun attempt => attempt.runId = runId) =
      db.attempts.filter fun attempt => attempt.runId = runId := by
  simp only [RunDb.partOf, List.filter_filter]
  apply List.filter_congr
  intro attempt _
  by_cases same : attempt.runId = runId
  · simp [same, owned]
  · simp [same]

theorem owns_of_row {runId : String} {row : RunRow} (read : db.row runId tenantId = .ok row) :
    row ∈ db.runs ∧ row.id = runId ∧ row.tenant = tenantId := by
  unfold RunDb.row at read
  split at read
  · rename_i found
    cases read
    have selected := List.find?_some found
    simp only [decide_eq_true_eq] at selected
    exact ⟨List.mem_of_find?_eq_some found, selected⟩
  · cases read

theorem get_partOf (runId : String) :
    SQLiteRunStore.get runId tenantId clock (db.partOf tenantId) =
      seenBy (RunDb.partOf tenantId) (SQLiteRunStore.get runId tenantId clock db) := by
  simp only [SQLiteRunStore.get, seenBy_bind, seenBy_pure, RunDb.row_partOf,
    reconcileCancelled_partOf, reconcileUnsafe_partOf, reconcileDeadline_partOf, bind_map_left]
  congr 1; funext row
  congr 1; funext first
  congr 1; funext second
  congr 1; funext current
  congr 1; funext third
  cases read : third.row runId tenantId with
  | error => rfl
  | ok data =>
      have owned := owns_of_row read
      simp only [filter_attempts_partOf ⟨data, owned⟩]

/-! ### Creating and claiming -/

/-- The identifier a call draws is not in use by another tenant. -/
def Draws (tenantId : String) (db : RunDb) : Operation → Prop
  | .create job _ _ => ∀ row ∈ db.runs, textField job "agent_run_id" = .ok row.id →
      row.tenant = tenantId
  | .claim _ token => ∀ attempt ∈ db.attempts, attempt.token = token →
      db.Owns tenantId attempt.runId
  | _ => True

theorem create_partOf (valid : db.WellFormed) {job : Dict} {duration : Time} {key : Option String}
    (tenantField : textField job "tenant_id" = .ok tenantId)
    (draws : Draws tenantId db (.create job duration key)) :
    store.create job duration key clock (db.partOf tenantId) =
      seenBy (RunDb.partOf tenantId) (store.create job duration key clock db) := by
  simp only [create, seenBy_bind, tenantField, Outcome.ok_bind, RunDb.existing_partOf]
  congr 1; funext _
  cases existing db tenantId (store.keyDigest key) with
  | some row => simp only [seenBy_bind, seenBy_pure]
  | none =>
      simp only [seenBy_bind, seenBy_pure]
      cases idField : textField job "agent_run_id" with
      | error => rfl
      | ok id =>
          simp only [Outcome.ok_bind]
          have taken : (∃ row ∈ (db.partOf tenantId).runs, row.id = id) ↔
              ∃ row ∈ db.runs, row.id = id := by
            constructor
            · rintro ⟨row, member, same⟩
              exact ⟨row, (List.mem_filter.mp member).1, same⟩
            · rintro ⟨row, member, same⟩
              have tenant := draws row member (same ▸ idField)
              exact ⟨row, List.mem_filter.mpr ⟨member, by simp [tenant]⟩, same⟩
          simp only [taken]
          by_cases used : ∃ row ∈ db.runs, row.id = id
          · rw [raiseWhen_of _ used]
            rfl
          · rw [raiseWhen_of_not _ used]
            push Not at used
            have inserted := @RunDb.partOf_insertRun db tenantId valid
              (newRun id tenantId job (clock 0) duration (store.keyDigest key)) rfl used
            simp only [Outcome.ok_bind, inserted]

theorem startAttempt_partOf {row : RunRow} (owned : db.Owns tenantId row.id) {token : String}
    (draws : ∀ attempt ∈ db.attempts, attempt.token = token → db.Owns tenantId attempt.runId)
    (now : Time) :
    store.startAttempt (db.partOf tenantId) row token now =
      (fun next => next.partOf tenantId) <$> store.startAttempt db row token now := by
  have keepsRun (attempt : AttemptRow) : (attempt.expired now).runId = attempt.runId := rfl
  have stays : Stays fun row => row.claimed store token now := ⟨fun _ => rfl, fun _ => rfl⟩
  unfold startAttempt
  simp only [← RunDb.partOf_updateAttempt _ keepsRun]
  have ownedAfter : (db.updateAttempt row.leaseToken fun attempt => attempt.expired now).Owns
      tenantId row.id := owned
  have drawsAfter : ∀ attempt ∈ (db.updateAttempt row.leaseToken fun attempt =>
      attempt.expired now).attempts, attempt.token = token →
        (db.updateAttempt row.leaseToken fun attempt => attempt.expired now).Owns tenantId
          attempt.runId := by
    intro attempt member same
    obtain ⟨old, oldMember, rfl⟩ := Table.mem_update.mp member
    split at same
    · rw [if_pos (by assumption), keepsRun]
      exact draws old oldMember same
    · rw [if_neg (by assumption)]
      exact draws old oldMember same
  generalize db.updateAttempt row.leaseToken (fun attempt => attempt.expired now) = expired
    at ownedAfter drawsAfter ⊢
  have taken : (∃ attempt ∈ (expired.partOf tenantId).attempts, attempt.token = token) ↔
      ∃ attempt ∈ expired.attempts, attempt.token = token := by
    constructor
    · rintro ⟨attempt, member, same⟩
      exact ⟨attempt, (List.mem_filter.mp member).1, same⟩
    · rintro ⟨attempt, member, same⟩
      have inside := drawsAfter attempt member same
      exact ⟨attempt, List.mem_filter.mpr ⟨member, by simp [inside]⟩, same⟩
  simp only [taken]
  by_cases used : ∃ attempt ∈ expired.attempts, attempt.token = token
  · rw [raiseWhen_of _ used]
    rfl
  · rw [raiseWhen_of_not _ used]
    have inserted := @RunDb.partOf_insertAttempt expired tenantId (newAttempt row token now)
      ownedAfter
    simp only [Outcome.ok_bind, ← inserted, ← RunDb.partOf_updateRun row.id stays]
    rfl

theorem claim_partOf {job : Dict} {token : String}
    (tenantField : textField job "tenant_id" = .ok tenantId)
    (draws : Draws tenantId db (.claim job token)) :
    store.claim job token clock (db.partOf tenantId) =
      seenBy (RunDb.partOf tenantId) (store.claim job token clock db) := by
  simp only [claim, seenBy_bind, tenantField, Outcome.ok_bind, RunDb.row_partOf]
  congr 1; funext runId
  cases read : db.row runId tenantId with
  | error => rfl
  | ok row =>
      obtain ⟨member, -, tenant⟩ := owns_of_row read
      simp only [Outcome.ok_bind, seenBy_bind, seenBy_ite, seenBy_pure, tenant]
      congr 1; funext _
      split
      · rfl
      · congr 1; funext _
        rw [startAttempt_partOf ⟨row, member, rfl, tenant⟩ draws, bind_map_left]
        simp only [RunDb.row_partOf]

theorem body_partOf (valid : db.WellFormed) {operation : Operation}
    (mine : operation.tenant = .ok tenantId) (draws : Draws tenantId db operation) :
    operation.body store clock (db.partOf tenantId) =
      seenBy (RunDb.partOf tenantId) (operation.body store clock db) := by
  cases operation <;> simp only [Operation.tenant, Except.ok.injEq] at mine
  case create =>
    simp only [Operation.body, create_partOf valid mine draws, seenBy_map Reply.record]
  case claim =>
    simp only [Operation.body, claim_partOf mine draws, seenBy_map Reply.record]
  all_goals subst mine
  case get =>
    simp only [Operation.body, get_partOf]
    exact seenBy_map (fun out : RunRow × List AttemptSummary => Reply.history out.1 out.2) _
  case markPublished =>
    simp only [Operation.body, markPublished_partOf]
    exact seenBy_map (fun _ => Reply.nothing) _
  case guard =>
    simp only [Operation.body, guard_partOf, seenBy_map Reply.remaining]
  case checkpoint =>
    simp only [Operation.body, checkpoint_partOf]
    exact seenBy_map (fun _ => Reply.nothing) _
  case finish =>
    simp only [Operation.body, finish_partOf]
    exact seenBy_map (fun _ => Reply.nothing) _
  case cancel =>
    simp only [Operation.body, cancel_partOf, seenBy_map Reply.record]
  case resume =>
    simp only [Operation.body, resume_partOf, seenBy_map Reply.record]

theorem perform_partOf (store : SQLiteRunStore) (clock : Clock) (valid : db.WellFormed)
    {operation : Operation}
    (mine : operation.tenant = .ok tenantId) (draws : Draws tenantId db operation) :
    operation.perform store clock (db.partOf tenantId) =
      ((operation.perform store clock db).1,
        (operation.perform store clock db).2.partOf tenantId) := by
  unfold Operation.perform
  rw [body_partOf valid mine draws]
  cases operation.body store clock db <;> rfl

end Own

/-! ## Calls of the others -/

section Others

variable {store : SQLiteRunStore} {clock : Clock} {db next : RunDb} {tenantId : String}

theorem other_rows (valid : db.WellFormed) {row : RunRow} (member : row ∈ db.runs)
    (other : row.tenant ≠ tenantId) :
    ∀ same ∈ db.runs, same.id = row.id → same.tenant ≠ tenantId := by
  intro same sameMember id
  rw [valid.eq_of_id sameMember member id]
  exact other

theorem other_attempts (valid : db.WellFormed) {row : RunRow} (member : row ∈ db.runs)
    (other : row.tenant ≠ tenantId) :
    ∀ attempt ∈ db.attempts, some attempt.token = row.leaseToken →
      ¬db.Owns tenantId attempt.runId := by
  rintro attempt attemptMember held ⟨owner, ownerMember, id, tenant⟩
  obtain ⟨leased, leasedMember, token, runId⟩ := valid.lease row member _ held.symm
  have same : attempt = leased :=
    List.inj_on_of_nodup_map valid.tokens attemptMember leasedMember token.symm
  rw [same, runId] at id
  exact other_rows valid member other owner ownerMember id tenant

theorem abandon_other (valid : db.WellFormed) {row : RunRow} (member : row ∈ db.runs)
    (other : row.tenant ≠ tenantId) (state : RunState) (error : Option String)
    (updated ended : Time) :
    (abandon db row state error updated ended).partOf tenantId = db.partOf tenantId := by
  have stays : Stays fun row => row.abandoned state error updated := ⟨fun _ => rfl, fun _ => rfl⟩
  have kept := RunDb.partOf_updateRun_other stays (other_rows valid member other)
  have keepsRun (attempt : AttemptRow) :
      (attempt.abandoned state error ended).runId = attempt.runId := rfl
  have owners (runId : String) : (db.updateRun row.id fun row =>
      row.abandoned state error updated).Owns tenantId runId ↔ db.Owns tenantId runId :=
    RunDb.owns_updateRun stays runId
  rw [abandon, RunDb.partOf_updateAttempt_other keepsRun, kept]
  intro attempt attemptMember held
  rw [owners]
  exact other_attempts valid member other attempt attemptMember held

theorem updateRun_other (valid : db.WellFormed) {runId : String} {view : RunView}
    (found : db.view runId = some view) (other : view.row.tenant ≠ tenantId)
    {change : RunRow → RunRow} (stays : Stays change) :
    (db.updateRun runId change).partOf tenantId = db.partOf tenantId := by
  refine RunDb.partOf_updateRun_other stays ?_
  have rows := other_rows valid (RunDb.mem_runs_of_view found) other
  rw [RunDb.id_of_view found] at rows
  exact rows

theorem get_other (valid : db.WellFormed) {runId caller : String}
    {answer : RunRow × List AttemptSummary}
    (ok : SQLiteRunStore.get runId caller clock db = .ok (answer, next))
    (other : caller ≠ tenantId) : next.partOf tenantId = db.partOf tenantId := by
  simp only [SQLiteRunStore.get, Outcome.bind_eq_ok, Outcome.pure_eq_ok, Prod.mk.injEq] at ok
  obtain ⟨row, read, first, cancelled, second, unsafe_, current, readAgain, third, late, _, -, -,
    rfl⟩ := ok
  obtain ⟨member, id, rfl⟩ := owns_of_row read
  obtain ⟨view, found, same⟩ := view_of_mem valid member
  -- The first two steps close the run at most once.
  obtain ⟨validSecond, kept⟩ : second.WellFormed ∧
      second.partOf tenantId = db.partOf tenantId := by
    have closed (state : RunState) (error : Option String) (updated ended : Time) :=
      And.intro (RunDb.Rewrites.abandon valid found state error updated ended).valid
        (abandon_other valid member other state error updated ended)
    rw [same] at closed
    rcases reconcileCancelled_ok cancelled with ⟨_, requested, rfl⟩ | ⟨_, rfl⟩
    · rcases reconcileUnsafe_ok unsafe_ with ⟨_, wanted, _⟩ | ⟨_, rfl⟩
      · rw [requested] at wanted
        cases wanted
      · exact closed _ _ _ _
    · rcases reconcileUnsafe_ok unsafe_ with ⟨_, _, _, rfl⟩ | ⟨_, rfl⟩
      · exact closed _ _ _ _
      · exact ⟨valid, rfl⟩
  obtain ⟨currentMember, -, currentTenant⟩ := owns_of_row readAgain
  rcases reconcileDeadline_ok late with ⟨_, _, rfl⟩ | ⟨_, rfl⟩
  · rw [abandon_other validSecond currentMember (currentTenant ▸ other), kept]
  · exact kept

theorem claim_other (valid : db.WellFormed) {job : Dict} {token caller : String} {record : RunRow}
    (ok : store.claim job token clock db = .ok (record, next))
    (callerField : textField job "tenant_id" = .ok caller) (other : caller ≠ tenantId) :
    next.partOf tenantId = db.partOf tenantId := by
  simp only [claim, callerField, Outcome.ok_bind, Outcome.bind_eq_ok] at ok
  obtain ⟨runId, -, row, read, _, -, ok⟩ := ok
  obtain ⟨member, id, rfl⟩ := owns_of_row read
  split at ok
  · simp only [Outcome.pure_eq_ok, Prod.mk.injEq] at ok
    rw [ok.2]
  · simp only [Outcome.bind_eq_ok, Outcome.pure_eq_ok, Prod.mk.injEq, startAttempt] at ok
    obtain ⟨_, -, started, ⟨_, -, rfl⟩, _, -, -, rfl⟩ := ok
    have keepsRun (attempt : AttemptRow) : (attempt.expired (clock 0)).runId = attempt.runId := rfl
    have stays : Stays fun row => row.claimed store token (clock 0) := ⟨fun _ => rfl, fun _ => rfl⟩
    have rows := other_rows valid member other
    have notOwned : ¬db.Owns tenantId row.id := by
      rintro ⟨owner, ownerMember, sameId, tenant⟩
      exact rows owner ownerMember sameId tenant
    have inserted := @RunDb.partOf_insertAttempt_other
      (db.updateAttempt row.leaseToken fun attempt => attempt.expired (clock 0)) tenantId
      (newAttempt row token (clock 0)) notOwned
    refine (RunDb.partOf_updateRun_other stays ?_).trans (inserted.trans ?_)
    · exact rows
    · exact RunDb.partOf_updateAttempt_other keepsRun (other_attempts valid member other)

theorem finish_other (valid : db.WellFormed) {runId caller token : String} {state : RunState}
    {result : Option Json} {error : Option String}
    (ok : finish runId caller token state result error clock db = .ok ((), next))
    (other : caller ≠ tenantId) : next.partOf tenantId = db.partOf tenantId := by
  obtain ⟨view, found, rfl, owned, -, rfl⟩ := finish_ok valid ok
  have member := RunDb.mem_runs_of_view found
  have rows := other_rows valid member other
  have attempts := other_attempts valid member other
  rw [RunDb.id_of_view found] at rows
  rw [owned.held] at attempts
  generalize verdict view.row state result error = final
  have stays : Stays fun row => row.finished final.1 final.2.1 final.2.2 (clock 2) :=
    ⟨fun _ => rfl, fun _ => rfl⟩
  have keepsRun (attempt : AttemptRow) :
      (attempt.finished final.1 final.2.2 (clock 1)).runId = attempt.runId := rfl
  refine (RunDb.partOf_updateRun_other stays ?_).trans
    (RunDb.partOf_updateAttempt_other keepsRun attempts)
  exact rows

theorem perform_other (valid : db.WellFormed) (store : SQLiteRunStore) (clock : Clock)
    {operation : Operation} (other : operation.tenant ≠ .ok tenantId) :
    (operation.perform store clock db).2.partOf tenantId = db.partOf tenantId := by
  unfold Operation.perform
  cases ran : operation.body store clock db with
  | error => rfl
  | ok out =>
      obtain ⟨reply, next⟩ := out
      cases operation <;>
        simp only [Operation.body, Outcome.map_eq_ok, Prod.exists, Prod.mk.injEq] at ran <;>
        simp only [Operation.tenant, ne_eq, Except.ok.injEq] at other
      case create job duration key =>
        obtain ⟨_, _, ok, -, rfl⟩ := ran
        obtain ⟨caller, callerField, -, ⟨-, -, rfl⟩ | ⟨-, id, -, -, rfl, rfl⟩⟩ := create_ok ok
        · rfl
        · refine RunDb.partOf_insertRun_other fun same => other ?_
          rw [callerField]
          exact congrArg _ same
      case get =>
        obtain ⟨_, _, _, ok, -, rfl⟩ := ran
        exact get_other valid ok other
      case markPublished =>
        obtain ⟨_, _, ok, -, rfl⟩ := ran
        obtain ⟨view, found, rfl, rfl⟩ := markPublished_ok valid ok
        exact updateRun_other valid found other ⟨fun _ => rfl, fun _ => rfl⟩
      case claim job token =>
        obtain ⟨_, _, ok, -, rfl⟩ := ran
        obtain ⟨_, -, -, callerField, -⟩ := claim_ok valid ok
        refine claim_other valid ok callerField fun same => other ?_
        rw [callerField, same]
      case guard =>
        obtain ⟨_, _, ok, -, rfl⟩ := ran
        obtain ⟨view, _, found, rfl, -, -, -, -, rfl⟩ := guard_ok valid ok
        exact updateRun_other valid found other ⟨fun _ => rfl, fun _ => rfl⟩
      case checkpoint =>
        obtain ⟨_, _, ok, -, rfl⟩ := ran
        obtain ⟨view, found, rfl, -, -, rfl⟩ := checkpoint_ok valid ok
        exact updateRun_other valid found other ⟨fun _ => rfl, fun _ => rfl⟩
      case finish =>
        obtain ⟨_, _, ok, -, rfl⟩ := ran
        exact finish_other valid ok other
      case cancel =>
        obtain ⟨_, _, ok, -, rfl⟩ := ran
        obtain ⟨view, found, rfl, ⟨-, -, rfl⟩ | ⟨-, expired, -, -, rfl⟩⟩ := cancel_ok valid ok
        · rfl
        · exact updateRun_other valid found other ⟨fun _ => rfl, fun _ => rfl⟩
      case resume =>
        obtain ⟨_, _, ok, -, rfl⟩ := ran
        obtain ⟨view, found, rfl, -, -, rfl⟩ := resume_ok valid ok
        exact updateRun_other valid found other ⟨fun _ => rfl, fun _ => rfl⟩

end Others

/-! ## Two runs -/

def Call.answer (call : Call) (db : RunDb) : Except RunStoreError Reply × RunDb :=
  call.operation.perform call.store call.clock db

def Call.isOf (tenantId : String) (call : Call) : Bool :=
  match call.operation.tenant with
  | .ok caller => caller = tenantId
  | .error _ => false

theorem Call.isOf_iff {tenantId : String} {call : Call} :
    call.isOf tenantId = true ↔ call.operation.tenant = .ok tenantId := by
  unfold Call.isOf
  split
  · rename_i caller named
    rw [named]
    simp
  · rename_i named
    rw [named]
    simp

def DrawsFresh (tenantId : String) (db : RunDb) (calls : List Call) : Prop :=
  AtEach Call.answer (Call.isOf tenantId) (fun call db => Draws tenantId db call.operation) db calls

theorem unwinding (tenantId : String) :
    Unwinding Call.answer (Call.isOf tenantId) (fun db => db.partOf tenantId) RunDb.WellFormed
      fun call db => Draws tenantId db call.operation where
  keeps := fun call _ valid =>
    (Effect.of_perform valid call.store call.clock call.operation).wellFormed valid
  respects := by
    intro call db valid other
    refine perform_other valid call.store call.clock fun mine => ?_
    rw [Call.isOf_iff.mpr mine] at other
    cases other
  consistent := by
    intro call left right leftValid rightValid isMine leftDraws rightDraws agree
    have mine := Call.isOf_iff.mp isMine
    have leftSeen := perform_partOf call.store call.clock leftValid mine leftDraws
    have rightSeen := perform_partOf call.store call.clock rightValid mine rightDraws
    rw [show left.partOf tenantId = right.partOf tenantId from agree, rightSeen] at leftSeen
    exact ⟨(Prod.mk.inj leftSeen).1.symm, (Prod.mk.inj leftSeen).2.symm⟩

/-- The calls about one run that is registered already. Invalid final states are
refused before a run is looked for. -/
inductive Operation.Addresses (runId : String) : Operation → Prop
  | get {tenantId} : Addresses runId (.get runId tenantId)
  | markPublished {tenantId} : Addresses runId (.markPublished runId tenantId)
  | claim {job token} (idField : textField job "agent_run_id" = .ok runId) :
      Addresses runId (.claim job token)
  | guard {tenantId token} : Addresses runId (.guard runId tenantId token)
  | checkpoint {tenantId token saved} : Addresses runId (.checkpoint runId tenantId token saved)
  | finish {tenantId token state result error} (final : finishable state = true) :
      Addresses runId (.finish runId tenantId token state result error)
  | cancel {tenantId} : Addresses runId (.cancel runId tenantId)
  | resume {tenantId} : Addresses runId (.resume runId tenantId)

/-- A run is not disclosed to another tenant, and stays as it is. -/
theorem perform_not_found {db : RunDb} (valid : db.WellFormed) {tenantId runId caller : String}
    (owned : db.Owns tenantId runId) (other : caller ≠ tenantId) {operation : Operation}
    (addresses : operation.Addresses runId) (named : operation.tenant = .ok caller)
    (store : SQLiteRunStore) (clock : Clock) :
    operation.perform store clock db = (.error (.runNotFound "Agent run unavailable"), db) := by
  have missing : db.row runId caller = .error (.runNotFound "Agent run unavailable") := by
    obtain ⟨row, member, rfl, tenant⟩ := owned
    unfold RunDb.row
    have absent : (db.runs.find? fun found => found.id = row.id ∧ found.tenant = caller) =
        none := by
      rw [List.find?_eq_none]
      intro found foundMember selected
      simp only [decide_eq_true_eq] at selected
      rw [valid.eq_of_id foundMember member selected.1] at selected
      exact other (selected.2.symm.trans tenant)
    rw [absent]
  unfold Operation.perform
  cases addresses with
  | claim idField =>
      simp only [Operation.tenant] at named
      simp only [Operation.body, SQLiteRunStore.claim, idField, named, missing, Outcome.ok_bind,
        Outcome.error_bind]
      rfl
  | finish final =>
      cases named
      have passes := Bool.not_eq_false _ ▸ final
      simp only [Operation.body, SQLiteRunStore.finish, SQLiteRunStore.ownedAttempt,
        raiseWhen_of_not _ passes, missing, Outcome.ok_bind, Outcome.error_bind]
      rfl
  | _ =>
      cases named
      simp only [Operation.body, SQLiteRunStore.get, SQLiteRunStore.markPublished,
        SQLiteRunStore.guard, SQLiteRunStore.checkpoint, SQLiteRunStore.ownedAttempt,
        SQLiteRunStore.cancel, SQLiteRunStore.resume, missing, Outcome.error_bind]
      rfl

/-- Two runs with the same calls of a tenant answer them alike and leave its runs
and attempts alike, whatever the other tenants call; their calls about its runs
find nothing. -/
theorem run_tenant_noninterference (tenantId : String) {left right : RunDb}
    (leftValid : left.WellFormed) (rightValid : right.WellFormed)
    (agree : left.partOf tenantId = right.partOf tenantId) {leftCalls rightCalls : List Call}
    (same : leftCalls.filter (Call.isOf tenantId) = rightCalls.filter (Call.isOf tenantId))
    (leftDraws : DrawsFresh tenantId left leftCalls)
    (rightDraws : DrawsFresh tenantId right rightCalls) :
    answersTo Call.answer (Call.isOf tenantId) left leftCalls =
        answersTo Call.answer (Call.isOf tenantId) right rightCalls ∧
      (left.replay leftCalls).partOf tenantId = (right.replay rightCalls).partOf tenantId ∧
      ∀ runId caller (operation : Operation), (left.replay leftCalls).Owns tenantId runId →
        caller ≠ tenantId → operation.Addresses runId → operation.tenant = .ok caller →
        ∀ store clock,
          operation.perform store clock (left.replay leftCalls) =
            (.error (.runNotFound "Agent run unavailable"), left.replay leftCalls) := by
  obtain ⟨answers, parts⟩ := (unwinding tenantId).noninterference leftValid rightValid agree same
    leftDraws rightDraws
  refine ⟨answers, parts, ?_⟩
  intro runId caller operation owned other addresses named store clock
  exact perform_not_found (wellFormed_replay leftCalls leftValid) owned other addresses named store
    clock

namespace Sample

def rivalJob : Dict :=
  [("agent_run_id", .str "other"), ("query", .str "status"), ("tenant_id", .str "rival")]

def visited : List Call :=
  [.instant store 0 (.create job 300 (some "key")), .instant store 0 (.cancel "run" "rival"),
    .instant store 0 (.create rivalJob 300 (some "key")), .instant store 0 (.claim job "first")]

theorem keyed_draws : DrawsFresh "acme" RunDb.empty keyed := by
  refine .cons (fun _ => ?_) (.cons (fun _ => ?_) (.nil _))
  · intro row member
    cases member
  · intro attempt member
    cases member

theorem visited_draws : DrawsFresh "acme" RunDb.empty visited := by
  refine .cons (fun _ => ?_) (.cons (fun mine => ?_) (.cons (fun mine => ?_)
    (.cons (fun _ => ?_) (.nil _))))
  · intro row member
    cases member
  · cases mine
  · cases mine
  · intro attempt member
    cases member

end Sample

/-- The other tenant's calls change nothing for the sample run. -/
theorem run_tenant_noninterference_visited :
    answersTo Call.answer (Call.isOf "acme") RunDb.empty Sample.keyed =
        answersTo Call.answer (Call.isOf "acme") RunDb.empty Sample.visited ∧
      (RunDb.empty.replay Sample.keyed).partOf "acme" =
        (RunDb.empty.replay Sample.visited).partOf "acme" := by
  have same : Sample.keyed.filter (Call.isOf "acme") = Sample.visited.filter (Call.isOf "acme") :=
    rfl
  obtain ⟨answers, parts, -⟩ := run_tenant_noninterference "acme" .empty .empty rfl same
    Sample.keyed_draws Sample.visited_draws
  exact ⟨answers, parts⟩

end Crewos.RunStore

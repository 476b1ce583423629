import Crewos.Agent.Contracts
import Crewos.Foundation.SortedKeys
import Crewos.RunStore.Ledger
import Crewos.RunStore.Returned

/-! # Idempotent submission

A tenant's idempotency key stands for one run from its first use on. What a run
was registered with never changes, so the key keeps standing for it whatever
becomes of the run. -/

namespace Crewos.RunStore

open Foundation

/-! ## Registrations -/

/-- The columns that say what a run was registered with. -/
structure SameRegistration (before after : RunRow) : Prop where
  id : after.id = before.id
  tenant : after.tenant = before.tenant
  job : after.job = before.job
  idemKey : after.idemKey = before.idemKey

theorem SameRegistration.refl (row : RunRow) : SameRegistration row row := ⟨rfl, rfl, rfl, rfl⟩

theorem SameRegistration.trans {first second third : RunRow} (left : SameRegistration first second)
    (right : SameRegistration second third) : SameRegistration first third :=
  ⟨right.id.trans left.id, right.tenant.trans left.tenant, right.job.trans left.job,
    right.idemKey.trans left.idemKey⟩

theorem Change.registration {store : SQLiteRunStore} {clock : Clock} {operation : Operation}
    {view after : RunView} (change : Change store clock operation view after) :
    SameRegistration view.row after.row := by
  cases change with
  | read reconciled => cases reconciled <;> exact ⟨rfl, rfl, rfl, rfl⟩
  | _ => exact ⟨rfl, rfl, rfl, rfl⟩

theorem registration_replay {db : RunDb} (valid : db.WellFormed) {runId : String} {view : RunView}
    (found : db.view runId = some view) (future : List Call) :
    ∃ after, (db.replay future).view runId = some after ∧ SameRegistration view.row after.row := by
  refine @RunDb.replay_preserves (fun after => SameRegistration view.row after.row) future ?_ db
    valid runId view found (.refl _)
  intro call _ reached after same change
  exact same.trans change.registration

theorem Effect.origin {store : SQLiteRunStore} {clock : Clock} {db next : RunDb}
    {operation : Operation} (effect : Effect store clock db operation next)
    (valid : db.WellFormed) {runId : String} {after : RunView}
    (found : next.view runId = some after) :
    (∃ view, db.view runId = some view ∧ SameRegistration view.row after.row) ∨
      ∃ job duration key tenant, operation = .create job duration key ∧
        textField job "tenant_id" = .ok tenant ∧
        textField job "agent_run_id" = .ok runId ∧ 0 < duration ∧
        SQLiteRunStore.existing db tenant (store.keyDigest key) = none ∧
        (∀ old ∈ db.runs, old.id ≠ runId) ∧
        after.row = SQLiteRunStore.newRun runId tenant job (clock 0) duration
          (store.keyDigest key) := by
  cases effect with
  | unchanged => exact .inl ⟨after, found, .refl _⟩
  | @created job duration key id tenant idField tenantField positive unused fresh =>
      rw [RunDb.view_insertRun valid fresh] at found
      split at found
      · rename_i same
        cases found
        have same : runId = id := same
        subst same
        exact .inr ⟨job, duration, key, tenant, rfl, tenantField, idField, positive, unused, fresh,
          rfl⟩
      · exact .inl ⟨after, found, .refl _⟩
  | @changed _ view changed _ present change rewrites =>
      left
      by_cases same : runId = view.row.id
      · subst same
        cases rewrites.here.symm.trans found
        exact ⟨view, present, change.registration⟩
      · rw [rewrites.elsewhere runId same] at found
        exact ⟨after, found, .refl _⟩

/-! ## Rows under a key -/

theorem view_of_mem {db : RunDb} (valid : db.WellFormed) {row : RunRow} (member : row ∈ db.runs) :
    ∃ view, db.view row.id = some view ∧ view.row = row := by
  refine ⟨{ row, attempts := db.attemptsOf row.id }, ?_, rfl⟩
  rw [RunDb.view, RunDb.find, Table.find_of_mem valid.ids member]
  rfl

theorem existing_some {db : RunDb} {tenant : String} {key : Option String} {row : RunRow}
    (found : SQLiteRunStore.existing db tenant key = some row) :
    row ∈ db.runs ∧ row.tenant = tenant ∧ row.idemKey = key ∧ key ≠ none := by
  unfold SQLiteRunStore.existing at found
  split at found
  · have selected := List.find?_some found
    simp only [decide_eq_true_eq] at selected
    exact ⟨List.mem_of_find?_eq_some found, selected.1, selected.2, by simp⟩
  · cases found

theorem existing_none {db : RunDb} {tenant digest : String}
    (missing : SQLiteRunStore.existing db tenant (some digest) = none) :
    ∀ row ∈ db.runs, row.tenant = tenant → row.idemKey ≠ some digest := by
  intro row member sameTenant sameKey
  simp only [SQLiteRunStore.existing, List.find?_eq_none, decide_eq_true_eq] at missing
  exact missing row member ⟨sameTenant, sameKey⟩

/-- At most one run for each tenant and key. -/
def RunDb.UniqueKeys (db : RunDb) : Prop :=
  ∀ left ∈ db.runs, ∀ right ∈ db.runs, left.tenant = right.tenant →
    left.idemKey = right.idemKey → left.idemKey ≠ none → left = right

theorem RunDb.WellFormed.eq_of_id {db : RunDb} (valid : db.WellFormed) {left right : RunRow}
    (leftMember : left ∈ db.runs) (rightMember : right ∈ db.runs) (same : left.id = right.id) :
    left = right := by
  have found := Table.find_of_mem valid.ids leftMember
  rw [same, Table.find_of_mem valid.ids rightMember] at found
  exact (Option.some.inj found).symm

theorem no_key_of_existing {db : RunDb} {tenant : String} {key : Option String} {old : RunRow}
    (unused : SQLiteRunStore.existing db tenant key = none) (member : old ∈ db.runs)
    (sameTenant : old.tenant = tenant) (sameKey : old.idemKey = key) : old.idemKey = none := by
  cases key with
  | none => exact sameKey
  | some digest => exact absurd sameKey (existing_none unused old member sameTenant)

theorem RunDb.UniqueKeys.step {store : SQLiteRunStore} {clock : Clock} {db next : RunDb}
    {operation : Operation} (effect : Effect store clock db operation next)
    (valid : db.WellFormed) (unique : db.UniqueKeys) : next.UniqueKeys := by
  have validNext := effect.wellFormed valid
  intro left leftMember right rightMember sameTenant sameKey keyed
  obtain ⟨leftView, leftFound, rfl⟩ := view_of_mem validNext leftMember
  obtain ⟨rightView, rightFound, rfl⟩ := view_of_mem validNext rightMember
  refine validNext.eq_of_id leftMember rightMember ?_
  rcases effect.origin valid leftFound with ⟨leftOld, leftWas, leftSame⟩ |
    ⟨job, duration, key, tenant, creates, _, leftId, _, unused, _, leftNew⟩
  · have leftRow := RunDb.mem_runs_of_view leftWas
    rcases effect.origin valid rightFound with ⟨rightOld, rightWas, rightSame⟩ |
      ⟨job, duration, key, tenant, _, _, _, _, unused, _, rightNew⟩
    · have same := unique leftOld.row leftRow rightOld.row (RunDb.mem_runs_of_view rightWas)
        (by rw [← leftSame.tenant, ← rightSame.tenant, sameTenant])
        (by rw [← leftSame.idemKey, ← rightSame.idemKey, sameKey])
        (by rw [← leftSame.idemKey]; exact keyed)
      rw [leftSame.id, rightSame.id, same]
    · rw [rightNew] at sameTenant sameKey
      have none_ := no_key_of_existing unused leftRow (leftSame.tenant.symm.trans sameTenant)
        (leftSame.idemKey.symm.trans sameKey)
      exact absurd (leftSame.idemKey.trans none_) keyed
  · rcases effect.origin valid rightFound with ⟨rightOld, rightWas, rightSame⟩ |
      ⟨_, _, _, _, otherCreates, _, rightId, _, _, _, rightNew⟩
    · have shared := sameKey
      rw [leftNew] at sameTenant sameKey
      have none_ := no_key_of_existing unused (RunDb.mem_runs_of_view rightWas)
        (rightSame.tenant.symm.trans sameTenant.symm) (rightSame.idemKey.symm.trans sameKey.symm)
      exact absurd (shared.trans (rightSame.idemKey.trans none_)) keyed
    · rw [creates] at otherCreates
      cases otherCreates
      exact Except.ok.inj (leftId.symm.trans rightId)

theorem uniqueKeys_replay (past : List Call) : (RunDb.empty.replay past).UniqueKeys := by
  suffices ∀ db : RunDb, db.WellFormed → db.UniqueKeys → (db.replay past).UniqueKeys from
    this _ .empty (by intro left member; cases member)
  induction past with
  | nil => exact fun _ _ unique => unique
  | cons call past induction =>
      intro db valid unique
      have effect := Effect.of_perform valid call.store call.clock call.operation
      exact induction _ (effect.wellFormed valid) (.step effect valid unique)

/-! ## Creating -/

section Create

variable {store : SQLiteRunStore} {clock : Clock} {db : RunDb} {job : Dict} {duration : Time}
  {key : Option String} {tenant : String}

theorem perform_create_used (positive : 0 < duration)
    (tenantField : textField job "tenant_id" = .ok tenant) {row : RunRow}
    (used : SQLiteRunStore.existing db tenant (store.keyDigest key) = some row) :
    (Operation.create job duration key).perform store clock db =
      if SQLiteRunStore.submission row.job = SQLiteRunStore.submission job then
        (.ok (.record row), db)
      else (.error (.runConflict "Idempotency key reused with different input"), db) := by
  have early : ¬duration ≤ 0 := not_le.mpr positive
  unfold Operation.perform
  simp only [Operation.body, SQLiteRunStore.create, raiseWhen_of_not _ early, tenantField, used,
    Outcome.ok_bind]
  by_cases same : SQLiteRunStore.submission row.job = SQLiteRunStore.submission job
  · rw [if_pos same, raiseWhen_of_not _ (not_not.mpr same)]
    rfl
  · rw [if_neg same, raiseWhen_of _ same]
    rfl

theorem perform_create_unused (positive : 0 < duration)
    (tenantField : textField job "tenant_id" = .ok tenant)
    (unused : SQLiteRunStore.existing db tenant (store.keyDigest key) = none) {id : String}
    (idField : textField job "agent_run_id" = .ok id) (fresh : ∀ row ∈ db.runs, row.id ≠ id) :
    (Operation.create job duration key).perform store clock db =
      (.ok (.record (SQLiteRunStore.newRun id tenant job (clock 0) duration
          (store.keyDigest key))),
        { db with runs := db.runs ++
            [SQLiteRunStore.newRun id tenant job (clock 0) duration (store.keyDigest key)] }) := by
  have early : ¬duration ≤ 0 := not_le.mpr positive
  have absent : ¬∃ row ∈ db.runs, row.id = id := by
    push Not
    exact fresh
  unfold Operation.perform
  simp only [Operation.body, SQLiteRunStore.create, raiseWhen_of_not _ early, tenantField, unused,
    idField, raiseWhen_of_not _ absent, Outcome.ok_bind]
  rfl

end Create

/-! ## Keys in histories -/

/-- A create of this history returned the row. -/
def Received (past : List Call) (job : Dict) (key : Option String) (row : RunRow) : Prop :=
  ∃ before call after duration, past = before ++ call :: after ∧
    call.operation = .create job duration key ∧
    (call.operation.perform call.store call.clock (RunDb.empty.replay before)).1 =
      .ok (.record row)

theorem Received.append {past : List Call} {job : Dict} {key : Option String} {row : RunRow}
    (received : Received past job key row) (future : List Call) :
    Received (past ++ future) job key row := by
  obtain ⟨before, call, after, duration, rfl, creates, returned⟩ := received
  exact ⟨before, call, after ++ future, duration, by simp, creates, returned⟩

theorem submission_sorted (job : Dict) :
    SQLiteRunStore.submission job.sorted = SQLiteRunStore.submission job :=
  Dict.sorted_filter job fun name => name ≠ "agent_run_id"

theorem create_received {store : SQLiteRunStore} {clock : Clock} {db : RunDb} {job : Dict}
    {duration : Time} {key : Option String} {row : RunRow} (valid : db.WellFormed)
    (returned : ((Operation.create job duration key).perform store clock db).1 =
      .ok (.record row)) :
    textField job "tenant_id" = .ok row.tenant ∧ row.idemKey = store.keyDigest key ∧
      SQLiteRunStore.submission row.job = SQLiteRunStore.submission job ∧
      ∃ view, ((Operation.create job duration key).perform store clock db).2.view row.id =
        some view ∧ view.row = row := by
  have ran := perform_returned returned
  have validNext := (Effect.of_perform valid store clock (.create job duration key)).wellFormed
    valid
  generalize ((Operation.create job duration key).perform store clock db).2 = next
    at ran validNext ⊢
  simp only [Operation.body, Outcome.map_eq_ok, Prod.exists, Prod.mk.injEq,
    Reply.record.injEq] at ran
  obtain ⟨_, _, ok, rfl, rfl⟩ := ran
  obtain ⟨tenant, tenantField, -, ⟨used, same, rfl⟩ | ⟨-, id, -, -, rfl, rfl⟩⟩ :=
    SQLiteRunStore.create_ok ok
  · obtain ⟨member, rfl, sameKey, -⟩ := existing_some used
    exact ⟨tenantField, sameKey, same, view_of_mem valid member⟩
  · exact ⟨tenantField, rfl, submission_sorted job, view_of_mem validNext (by simp)⟩

section Histories

variable {sha : String → String} {past : List Call} {job : Dict} {key : Option String} {row : RunRow}

theorem Received.registered (received : Received past job key row)
    (shared : ∀ call ∈ past, call.store.sha256 = sha) :
    textField job "tenant_id" = .ok row.tenant ∧
      SQLiteRunStore.submission row.job = SQLiteRunStore.submission job ∧
      (∀ used, key = some used → used ≠ "" → row.idemKey = some (sha used)) ∧
      ∃ view, (RunDb.empty.replay past).view row.id = some view ∧
        SameRegistration row view.row := by
  obtain ⟨before, call, after, duration, rfl, creates, returned⟩ := received
  have valid : (RunDb.empty.replay before).WellFormed := wellFormed_replay before .empty
  have validNext := (Effect.of_perform valid call.store call.clock call.operation).wellFormed valid
  have split : RunDb.empty.replay (before ++ call :: after) =
      (call.apply (RunDb.empty.replay before)).replay after := by
    simp [RunDb.replay, List.foldl_append]
  rw [creates] at returned
  obtain ⟨tenantField, sameKey, sameJob, view, found, rfl⟩ := create_received valid returned
  refine ⟨tenantField, sameJob, ?_, ?_⟩
  · rintro used rfl keyed
    rw [sameKey, SQLiteRunStore.keyDigest, if_neg keyed, shared call (by simp)]
  · have present : (call.apply (RunDb.empty.replay before)).view view.row.id = some view := by
      rw [Call.apply, creates]
      exact found
    obtain ⟨last, there, same⟩ := registration_replay validNext present after
    rw [split]
    exact ⟨last, there, same⟩

theorem keyed_received (past : List Call) (shared : ∀ call ∈ past, call.store.sha256 = sha) :
    ∀ row ∈ (RunDb.empty.replay past).runs, ∀ digest, row.idemKey = some digest →
      ∃ used job old, used ≠ "" ∧ digest = sha used ∧
        textField job "tenant_id" = .ok row.tenant ∧ Received past job (some used) old := by
  induction past using List.reverseRecOn with
  | nil =>
      intro row member
      cases member
  | append_singleton past call induction =>
      intro row member digest keyed
      have earlier := induction fun other there => shared other (by simp [there])
      have valid : (RunDb.empty.replay past).WellFormed := wellFormed_replay past .empty
      have effect := Effect.of_perform valid call.store call.clock call.operation
      rw [replay_snoc] at member
      obtain ⟨view, found, rfl⟩ := view_of_mem (effect.wellFormed valid) member
      rcases effect.origin valid found with ⟨old, was, same⟩ |
        ⟨job, duration, key, tenant, creates, tenantField, idField, positive, unused, fresh, new⟩
      · obtain ⟨used, job, row, named, rfl, tenantField, received⟩ :=
          earlier old.row (RunDb.mem_runs_of_view was) digest (same.idemKey.symm.trans keyed)
        rw [← same.tenant] at tenantField
        exact ⟨used, job, row, named, rfl, tenantField, received.append [call]⟩
      · have performed := @perform_create_unused _ call.clock _ _ _ _ _ positive tenantField unused
          _ idField fresh
        have received : Received (past ++ [call]) job key view.row := by
          refine ⟨past, call, [], duration, rfl, creates, ?_⟩
          rw [creates, performed, ← new]
        have sameTenant : view.row.tenant = tenant := by rw [new]; rfl
        have sameKey : call.store.keyDigest key = some digest := by rw [← keyed, new]; rfl
        rw [← sameTenant] at tenantField
        cases key with
        | none => cases sameKey
        | some used =>
            rw [SQLiteRunStore.keyDigest] at sameKey
            split at sameKey
            · cases sameKey
            · rename_i named
              rw [shared call (by simp)] at sameKey
              exact ⟨used, job, view.row, named, (Option.some.inj sameKey).symm, tenantField,
                received⟩

theorem existing_of_mem {db : RunDb} (unique : db.UniqueKeys) {row : RunRow} {digest : String}
    (member : row ∈ db.runs) (keyed : row.idemKey = some digest) :
    SQLiteRunStore.existing db row.tenant (some digest) = some row := by
  cases found : SQLiteRunStore.existing db row.tenant (some digest) with
  | none => exact absurd keyed (existing_none found row member rfl)
  | some other =>
      obtain ⟨there, sameTenant, sameKey, -⟩ := existing_some found
      rw [unique other there row member sameTenant (sameKey.trans keyed.symm) (by simp [sameKey])]

end Histories

/-! ## Jobs of agent runs -/

/-- Two jobs that ask for the same thing. -/
structure SameRequest (left right : Agent.AgentRunJob) : Prop where
  tenantId : left.tenantId = right.tenantId
  message : left.message = right.message
  maxDecisions : left.maxDecisions = right.maxDecisions
  answerMode : left.answerMode = right.answerMode

theorem submission_dump (job : Agent.AgentRunJob) :
    SQLiteRunStore.submission job.dump =
      (match job.answerMode with
        | .general => []
        | .document => [("answer_mode", .str "document")]) ++
      [("max_decisions", .int job.maxDecisions), ("message", .str job.message.value),
        ("tenant_id", .str job.tenantId)] := by
  cases mode : job.answerMode <;>
    simp +decide [SQLiteRunStore.submission, Agent.AgentRunJob.dump, mode, Dict.sorted,
      Json.sortFields, Json.sortKeys, List.insertionSort, List.orderedInsert]

/-- The comparison of a create tells two jobs apart exactly when they ask for
different things. -/
theorem submission_dump_eq_iff {left right : Agent.AgentRunJob} :
    SQLiteRunStore.submission left.dump = SQLiteRunStore.submission right.dump ↔
      SameRequest left right := by
  rw [submission_dump, submission_dump]
  constructor
  · intro same
    have dumps : ∀ mode : Agent.AnswerMode, left.answerMode = mode →
        right.answerMode = mode → SameRequest left right := by
      intro mode leftMode rightMode
      rw [leftMode, rightMode] at same
      simp only [List.append_cancel_left_eq, List.cons.injEq, Prod.mk.injEq, Json.int.injEq,
        Json.str.injEq, true_and, and_true, Nat.cast_inj] at same
      obtain ⟨sameBudget, sameMessage, sameTenant⟩ := same
      exact ⟨sameTenant, Stripped.eq_of_value sameMessage, sameBudget,
        leftMode.trans rightMode.symm⟩
    cases leftMode : left.answerMode <;> cases rightMode : right.answerMode
    case general.general => exact dumps .general leftMode rightMode
    case document.document => exact dumps .document leftMode rightMode
    all_goals simp [leftMode, rightMode] at same
  · rintro ⟨tenantId, message, maxDecisions, answerMode⟩
    rw [tenantId, message, maxDecisions, answerMode]

/-- A key stands for one run of its tenant: the submission it was first used for
gets that run again, any other one is refused, and neither changes anything. -/
theorem idempotent_submission {sha : String → String} (injective : Function.Injective sha)
    (past : List Call) (shared : ∀ call ∈ past, call.store.sha256 = sha) :
    (RunDb.empty.replay past).UniqueKeys ∧
    (∀ row ∈ (RunDb.empty.replay past).runs, ∀ future,
      ∃ later ∈ (RunDb.empty.replay (past ++ future)).runs, SameRegistration row later) ∧
    (∀ store : SQLiteRunStore, store.sha256 = sha →
      ∀ clock job duration tenant, 0 < duration → textField job "tenant_id" = .ok tenant →
        (∀ used first row, used ≠ "" → textField first "tenant_id" = .ok tenant →
          Received past first (some used) row →
          ∃ current ∈ (RunDb.empty.replay past).runs, current.id = row.id ∧
            (Operation.create job duration (some used)).perform store clock
                (RunDb.empty.replay past) =
              if SQLiteRunStore.submission first = SQLiteRunStore.submission job then
                (.ok (.record current), RunDb.empty.replay past)
              else
                (.error (.runConflict "Idempotency key reused with different input"),
                  RunDb.empty.replay past)) ∧
        (∀ key id, textField job "agent_run_id" = .ok id →
          (∀ row ∈ (RunDb.empty.replay past).runs, row.id ≠ id) →
          (∀ used first row, key = some used → used ≠ "" →
            textField first "tenant_id" = .ok tenant → ¬Received past first (some used) row) →
          ∃ new, new.id = id ∧ new.tenant = tenant ∧ new.job = job.sorted ∧
            new.state = .queued ∧ new.attempts = 0 ∧
            (Operation.create job duration key).perform store clock (RunDb.empty.replay past) =
              (.ok (.record new), { RunDb.empty.replay past with
                runs := (RunDb.empty.replay past).runs ++ [new] }))) ∧
    (∀ left right : Agent.AgentRunJob,
      (SQLiteRunStore.submission left.dump = SQLiteRunStore.submission right.dump ↔
        SameRequest left right) ∧
      ∀ leftKey rightKey leftRow rightRow, Received past left.dump leftKey leftRow →
        Received past right.dump rightKey rightRow → leftRow.id = rightRow.id →
        SameRequest left right) := by
  have valid : (RunDb.empty.replay past).WellFormed := wellFormed_replay past .empty
  have unique := uniqueKeys_replay past
  refine ⟨unique, ?_, ?_, ?_⟩
  · intro row member future
    obtain ⟨view, found, rfl⟩ := view_of_mem valid member
    obtain ⟨last, there, same⟩ := registration_replay valid found future
    refine ⟨last.row, ?_, same⟩
    have appended : RunDb.empty.replay (past ++ future) = (RunDb.empty.replay past).replay future :=
      by simp [RunDb.replay]
    rw [appended]
    exact RunDb.mem_runs_of_view there
  · intro store hashes clock job duration tenant positive tenantField
    refine ⟨?_, ?_⟩
    · intro used first row named firstTenant received
      obtain ⟨receivedTenant, sameJob, digest, view, found, same⟩ := received.registered shared
      have member := RunDb.mem_runs_of_view found
      have keyed := same.idemKey.trans (digest used rfl named)
      have sameTenant : view.row.tenant = tenant :=
        same.tenant.trans (Except.ok.inj (receivedTenant.symm.trans firstTenant))
      have current := existing_of_mem unique member keyed
      have digested : store.keyDigest (some used) = some (sha used) := by
        rw [SQLiteRunStore.keyDigest, if_neg named, hashes]
      rw [sameTenant, ← digested] at current
      refine ⟨view.row, member, same.id, ?_⟩
      rw [perform_create_used positive tenantField current, same.job, sameJob]
    · intro key id idField fresh unknown
      have unused : SQLiteRunStore.existing (RunDb.empty.replay past) tenant
          (store.keyDigest key) = none := by
        by_contra taken
        obtain ⟨row, found⟩ := Option.ne_none_iff_exists'.mp taken
        obtain ⟨member, rfl, sameKey, digested⟩ := existing_some found
        obtain ⟨digest, isDigest⟩ := Option.ne_none_iff_exists'.mp digested
        obtain ⟨used, first, old, named, rfl, firstTenant, received⟩ :=
          keyed_received past shared row member digest (sameKey.trans isDigest)
        refine unknown used first old ?_ named firstTenant received
        cases key with
        | none => cases isDigest
        | some given =>
            rw [SQLiteRunStore.keyDigest, hashes] at isDigest
            split at isDigest
            · cases isDigest
            · rw [injective (Option.some.inj isDigest)]
      exact ⟨SQLiteRunStore.newRun id tenant job (clock 0) duration (store.keyDigest key), rfl, rfl,
        rfl, rfl, rfl, perform_create_unused positive tenantField unused idField fresh⟩
  · intro left right
    refine ⟨submission_dump_eq_iff, ?_⟩
    intro leftKey rightKey leftRow rightRow leftReceived rightReceived same
    obtain ⟨-, leftJob, -, leftView, leftFound, leftSame⟩ := leftReceived.registered shared
    obtain ⟨-, rightJob, -, rightView, rightFound, rightSame⟩ := rightReceived.registered shared
    rw [same, rightFound] at leftFound
    cases leftFound
    refine submission_dump_eq_iff.mp ?_
    rw [← leftJob, ← rightJob, ← leftSame.job, ← rightSame.job]

namespace Sample

def keyed : List Call :=
  [.instant store 0 (.create job 300 (some "key")), .instant store 0 (.claim job "first")]

def keyedRow : RunRow := SQLiteRunStore.newRun "run" "acme" job 0 300 (some "key")

theorem keyedRow_received : Received keyed job (some "key") keyedRow :=
  ⟨[], .instant store 0 (.create job 300 (some "key")),
    [.instant store 0 (.claim job "first")], 300, rfl, rfl, by decide +kernel⟩

end Sample

/-- The claimed run is returned for its key, also when another duration is asked for. -/
theorem idempotent_submission_claimed :
    (RunDb.empty.replay Sample.keyed).UniqueKeys ∧
    ∃ current ∈ (RunDb.empty.replay Sample.keyed).runs, current.id = "run" ∧
      (Operation.create Sample.job 500 (some "key")).perform Sample.store (fun _ => 7)
        (RunDb.empty.replay Sample.keyed) =
          (.ok (.record current), RunDb.empty.replay Sample.keyed) := by
  have shared : ∀ call ∈ Sample.keyed, call.store.sha256 = id := by
    intro call member
    rcases List.mem_cons.mp member with rfl | later
    · rfl
    · rw [List.mem_singleton.mp later]
      rfl
  obtain ⟨unique, -, answers, -⟩ :=
    idempotent_submission Function.injective_id Sample.keyed shared
  obtain ⟨current, member, same, performed⟩ :=
    (answers Sample.store rfl (fun _ => 7) Sample.job 500 "acme" (by decide +kernel) rfl).1 "key"
      Sample.job Sample.keyedRow (by decide) rfl Sample.keyedRow_received
  rw [if_pos rfl] at performed
  exact ⟨unique, current, member, same, performed⟩

end Crewos.RunStore

import Crewos.Api.AgentAccess

/-! # Runs of the agent service

The discipline is sound for the run store and the ownership entries: whatever
sessions of any number of tenants do side by side, every call was authorised, a
task never has two tenants, and whoever looks a task up is its tenant. -/

namespace Crewos.AgentService

open Foundation RunStore Api
open Agent (AgentRunJob Exc)

/-! ## Calls of the store -/

section Calls

variable {store : SQLiteRunStore} {clock : Clock} {db : RunDb} {operation : Operation}

theorem mem_of_view {runId : String} {view : RunView} (found : db.view runId = some view) :
    view.row ∈ db.runs := Table.mem_of_find (RunDb.find_of_view found)

theorem row_named {runId tenantId : String} {row : RunRow}
    (read : db.row runId tenantId = .ok row) : row.id = runId ∧ row.tenant = tenantId := by
  unfold RunDb.row at read
  split at read
  · rename_i found
    cases read
    simpa using List.find?_some found
  · cases read

theorem returned_named {reply : RunStore.Reply} {row : RunRow}
    (returned : (operation.perform store clock db).1 = .ok reply)
    (here : reply.row? = some row) :
    operation.tenant = .ok row.tenant ∧ ∀ runId, named operation = some runId → row.id = runId := by
  have ran := perform_returned returned
  generalize (operation.perform store clock db).2 = next at ran
  cases operation with
  | create job duration key =>
      obtain ⟨⟨record, after⟩, created, same⟩ := Outcome.map_eq_ok.mp ran
      cases same
      cases here
      simp only [SQLiteRunStore.create, Outcome.bind_eq_ok] at created
      obtain ⟨_, _, tenant, tenantField, created⟩ := created
      refine ⟨?_, fun runId asked => by cases asked⟩
      split at created
      · rename_i found
        obtain ⟨_, _, same⟩ := Outcome.bind_eq_ok.mp created
        cases same
        rw [(existing_some found).2.1]
        exact tenantField
      · simp only [Outcome.bind_eq_ok, Outcome.pure_eq_ok] at created
        obtain ⟨id, _, _, _, same⟩ := created
        cases same
        exact tenantField
  | get runId tenantId =>
      obtain ⟨⟨⟨record, history⟩, after⟩, read, same⟩ := Outcome.map_eq_ok.mp ran
      cases same
      cases here
      simp only [SQLiteRunStore.get, Outcome.bind_eq_ok, Outcome.pure_eq_ok] at read
      obtain ⟨_, _, _, _, _, _, _, _, _, _, _, found, same⟩ := read
      cases same
      obtain ⟨id, tenant⟩ := row_named found
      refine ⟨congrArg _ tenant.symm, ?_⟩
      rintro _ ⟨⟩
      exact id
  | claim job token =>
      obtain ⟨⟨record, after⟩, claimed, same⟩ := Outcome.map_eq_ok.mp ran
      cases same
      cases here
      simp only [SQLiteRunStore.claim, Outcome.bind_eq_ok] at claimed
      obtain ⟨_, _, tenant, tenantField, stored, read, _, _, claimed⟩ := claimed
      refine ⟨?_, fun runId asked => by cases asked⟩
      have same : stored.tenant = tenant := (row_named read).2
      split at claimed
      · cases claimed
        rw [same]
        exact tenantField
      · simp only [Outcome.bind_eq_ok, Outcome.pure_eq_ok] at claimed
        obtain ⟨_, _, _, _, _, reread, again⟩ := claimed
        cases again
        rw [(row_named reread).2, same]
        exact tenantField
  | cancel runId tenantId =>
      obtain ⟨⟨record, after⟩, cancels, same⟩ := Outcome.map_eq_ok.mp ran
      cases same
      cases here
      have found : ∃ db : RunDb, db.row runId tenantId = .ok record := by
        obtain ⟨stored, read, cancels⟩ := Outcome.bind_eq_ok.mp cancels
        split at cancels
        · cases cancels
          exact ⟨_, read⟩
        · simp only [Outcome.bind_eq_ok, Outcome.pure_eq_ok] at cancels
          obtain ⟨_, _, _, reread, same⟩ := cancels
          cases same
          exact ⟨_, reread⟩
      obtain ⟨_, found⟩ := found
      obtain ⟨id, tenant⟩ := row_named found
      refine ⟨congrArg _ tenant.symm, ?_⟩
      rintro _ ⟨⟩
      exact id
  | resume runId tenantId =>
      obtain ⟨⟨record, after⟩, resumes, same⟩ := Outcome.map_eq_ok.mp ran
      cases same
      cases here
      simp only [SQLiteRunStore.resume, Outcome.bind_eq_ok, Outcome.pure_eq_ok] at resumes
      obtain ⟨_, _, _, _, _, found, same⟩ := resumes
      cases same
      obtain ⟨id, tenant⟩ := row_named found
      refine ⟨congrArg _ tenant.symm, ?_⟩
      rintro _ ⟨⟩
      exact id
  | markPublished | guard | checkpoint | finish =>
      obtain ⟨_, _, same⟩ := Outcome.map_eq_ok.mp ran
      cases same
      cases here

theorem owns_apply {call : Call} (valid : db.WellFormed) {tenantId runId : String}
    (owns : db.Owns tenantId runId) : (call.apply db).Owns tenantId runId := by
  obtain ⟨row, member, id, tenant⟩ := owns
  obtain ⟨view, found, rfl⟩ := view_of_mem valid member
  obtain ⟨after, kept, same⟩ := registration_replay valid found [call]
  exact ⟨after.row, mem_of_view kept, same.id.trans id, same.tenant.trans tenant⟩

theorem row_of_apply {call : Call} (valid : db.WellFormed) {row : RunRow}
    (member : row ∈ (call.apply db).runs) :
    (∃ old ∈ db.runs, SameRegistration old row) ∨
      ∃ job duration key, call.operation = .create job duration key ∧
        textField job "tenant_id" = .ok row.tenant ∧
        textField job "agent_run_id" = .ok row.id ∧ row.job = Dict.sorted job := by
  have effect := Effect.of_perform valid call.store call.clock call.operation
  obtain ⟨after, found, rfl⟩ := view_of_mem (effect.wellFormed valid) member
  rcases effect.origin valid found with ⟨view, old, same⟩ |
    ⟨job, duration, key, tenant, creates, tenantField, idField, _, _, _, new⟩
  · exact .inl ⟨view.row, mem_of_view old, same⟩
  · refine .inr ⟨job, duration, key, creates, ?_, idField, ?_⟩
    · rw [new]
      exact tenantField
    · rw [new]
      rfl

end Calls

/-! ## What a state keeps -/

section States

variable {settings : ServiceSettings} {state next : ServerState} {origin : Origin}

/-- Runs, identifiers and entries that were there once are there, or are
remembered. -/
structure Grows (state next : ServerState) : Prop where
  owns : ∀ tenantId runId, state.store.db.Owns tenantId runId →
    next.store.db.Owns tenantId runId
  drawn : state.drawn ⊆ next.drawn
  history : state.history ⊆ next.history
  registered : state.registered ⊆ next.registered

theorem Grows.of_same (db : next.store.db = state.store.db) (drawn : state.drawn ⊆ next.drawn)
    (history : state.history ⊆ next.history) (registered : state.registered ⊆ next.registered) :
    Grows state next :=
  ⟨fun _ _ owns => db ▸ owns, drawn, history, registered⟩

theorem Shared.wellFormed (shared : Shared settings state) : state.store.db.WellFormed := by
  rw [shared.db]
  exact wellFormed_replay state.calls .empty

theorem Grows.perform (shared : Shared settings state) {call : Call} {store : StoreState}
    (step : RunStore.Step state.store call store) : Grows state (state.perform origin call store) :=
  { owns := fun _ _ owns => by
      show store.db.Owns _ _
      rw [step.db]
      exact owns_apply shared.wellFormed owns
    drawn := List.Subset.refl _
    history := List.subset_append_left _ _
    registered := List.Subset.refl _ }

theorem Submitted.grows (grows : Grows state next) {old row : RunRow} {job : AgentRunJob}
    {entry : Entry} (submitted : Submitted settings state old job entry)
    (same : SameRegistration old row) : Submitted settings next row job entry where
  runs := ⟨same.id.trans submitted.runs.id, same.tenant.trans submitted.runs.tenant,
    same.job.trans submitted.runs.job⟩
  member := grows.history submitted.member
  admitted := same.tenant ▸ submitted.admitted
  drawn := grows.drawn submitted.drawn
  creates := same.tenant ▸ submitted.creates

theorem Belongs.grows (grows : Grows state next) {key tenantId : String}
    (belongs : Belongs settings state key tenantId) : Belongs settings next key tenantId := by
  obtain ⟨taskId, named, owned | ⟨origin, id, crew⟩⟩ := belongs
  · exact ⟨taskId, named, .inl (grows.owns tenantId taskId owned)⟩
  · exact ⟨taskId, named, .inr ⟨origin, id, { crew with drawn := grows.drawn crew.drawn }⟩⟩

theorem Recalls.grows (grows : Grows state next) {past : Past}
    (recalls : Recalls state origin past) : Recalls next origin past where
  drew id drew := grows.drawn (recalls.drew id drew)
  rows operation reply row returned here :=
    grows.owns _ _ (recalls.rows operation reply row returned here)
  owns key tenantId owns := grows.registered (recalls.owns key tenantId owns)

theorem Shared.empty {now : Time} : Shared settings (.empty now) where
  db := rfl
  distinct := List.nodup_nil
  rows := by simp [ServerState.empty, RunDb.empty]
  owners := List.Subset.refl _
  registered := by simp [ServerState.empty]

theorem Shared.waits (shared : Shared settings state) {store : StoreState}
    (same : store.db = state.store.db) : Shared settings { state with store } := by
  have grows : Grows state { state with store } :=
    .of_same same (List.Subset.refl _) (List.Subset.refl _) (List.Subset.refl _)
  exact
    { shared with
      db := same.trans shared.db
      rows := fun row member => by
        obtain ⟨job, entry, submitted⟩ := shared.rows row (same ▸ member)
        exact ⟨job, entry, submitted.grows grows (.refl row)⟩
      registered := fun entry member => (shared.registered entry member).grows grows }

theorem Shared.fade (shared : Shared settings state) {owners : List (String × String)}
    (kept : owners ⊆ state.owners) : Shared settings (state.fade owners) := by
  have grows : Grows state (state.fade owners) :=
    .of_same rfl (List.Subset.refl _) (List.Subset.refl _) (List.Subset.refl _)
  exact
    { db := shared.db
      distinct := shared.distinct
      rows := fun row member => by
        obtain ⟨job, entry, submitted⟩ := shared.rows row member
        exact ⟨job, entry, submitted.grows grows (.refl row)⟩
      owners := List.Subset.trans kept shared.owners
      registered := fun entry member => (shared.registered entry member).grows grows }

theorem Grows.register (key tenantId : String) : Grows state (state.register key tenantId) :=
  .of_same rfl (List.Subset.refl _) (List.Subset.refl _) (List.subset_append_left _ _)

theorem Shared.register (shared : Shared settings state) {key tenantId : String}
    (belongs : Belongs settings state key tenantId) :
    Shared settings (state.register key tenantId) where
  db := shared.db
  distinct := shared.distinct
  rows row member := by
    obtain ⟨job, entry, submitted⟩ := shared.rows row member
    exact ⟨job, entry, submitted.grows (.register key tenantId) (.refl row)⟩
  owners entry member := by
    rcases List.mem_cons.mp member with rfl | old
    · exact List.mem_append_right _ (List.mem_singleton_self _)
    · exact List.mem_append_left _ (shared.owners old)
  registered entry member := by
    rcases List.mem_append.mp member with old | new
    · exact (shared.registered entry old).grows (.register key tenantId)
    · cases List.mem_singleton.mp new
      exact belongs.grows (.register key tenantId)

theorem Grows.draws {id : Uuid4} (draws : Draws origin state id next) : Grows state next := by
  obtain ⟨_, rfl⟩ := draws
  exact .of_same rfl (List.subset_append_left _ _) (List.Subset.refl _) (List.Subset.refl _)

theorem Shared.draws (shared : Shared settings state) {id : Uuid4}
    (draws : Draws origin state id next) : Shared settings next := by
  have grows := Grows.draws draws
  obtain ⟨fresh, rfl⟩ := draws
  exact
    { db := shared.db
      distinct := by
        rw [List.map_append, List.map_singleton, List.nodup_append]
        refine ⟨shared.distinct, List.nodup_singleton _, ?_⟩
        rintro _ old _ new rfl
        obtain ⟨drawn, member, same⟩ := List.mem_map.mp old
        exact fresh drawn member (same.trans (List.mem_singleton.mp new))
      rows := fun row member => by
        obtain ⟨job, entry, submitted⟩ := shared.rows row member
        exact ⟨job, entry, submitted.grows grows (.refl row)⟩
      owners := shared.owners
      registered := fun entry member => (shared.registered entry member).grows grows }

def Creates (settings : ServiceSettings) (state : ServerState) (origin : Origin)
    (operation : Operation) : Prop :=
  ∀ job duration key, operation = .create job duration key →
    ∃ (asked : AgentRunJob) (tenantId : String) (idempotencyKey : Option String),
      origin.Admitted settings tenantId ∧ (origin, asked.agentRunId) ∈ state.drawn ∧
      Submits settings tenantId origin idempotencyKey asked ∧
      operation = .create asked.dump settings.agentMaxDuration idempotencyKey

theorem Authorised.creates {tenantId : String} {past : Past} {operation : Operation}
    (authorised : Authorised settings tenantId origin past operation)
    (admitted : origin.Admitted settings tenantId) (recalls : Recalls state origin past) :
    Creates settings state origin operation := by
  rintro _ _ _ rfl
  cases authorised with
  | create submits drew =>
      exact ⟨_, tenantId, _, admitted, recalls.drew _ drew, submits, rfl⟩

theorem Shared.perform (shared : Shared settings state) {call : Call} {store : StoreState}
    (step : RunStore.Step state.store call store)
    (creates : Creates settings state origin call.operation) :
    Shared settings (state.perform origin call store) := by
  have grows : Grows state (state.perform origin call store) := .perform shared step
  refine
    { db := ?_
      distinct := shared.distinct
      rows := fun row member => ?_
      owners := shared.owners
      registered := fun entry member => (shared.registered entry member).grows grows }
  · rw [ServerState.calls_perform, replay_snoc, ← shared.db]
    exact step.db
  · have after : row ∈ (call.apply state.store.db).runs := step.db ▸ member
    rcases row_of_apply shared.wellFormed after with ⟨old, there, same⟩ |
      ⟨job, duration, key, creation, tenantField, idField, stored⟩
    · obtain ⟨asked, entry, submitted⟩ := shared.rows old there
      exact ⟨asked, entry, submitted.grows grows same⟩
    · obtain ⟨asked, tenantId, idempotencyKey, admitted, drawn, submits, again⟩ :=
        creates job duration key creation
      cases creation.symm.trans again
      obtain ⟨sameId, sameTenant⟩ := Agent.textField_dump asked
      have id : row.id = asked.agentRunId.text := Except.ok.inj (idField.symm.trans sameId)
      have tenant : row.tenant = asked.tenantId := Except.ok.inj (tenantField.symm.trans sameTenant)
      have own : row.tenant = tenantId := tenant.trans submits.tenant
      refine ⟨asked, ⟨origin, call⟩, ?_⟩
      exact
        { runs := ⟨id, tenant, stored⟩
          member := List.mem_append_right _ (List.mem_singleton_self _)
          admitted := own ▸ admitted
          drawn
          creates := ⟨key, own ▸ submits, again⟩ }

/-! ## Soundness -/

theorem Shared.transacts (shared : Shared settings state) {tenantId : String} {past : Past}
    {operation : Operation} {reply : Except RunStoreError RunStore.Reply}
    (admitted : origin.Admitted settings tenantId) (recalls : Recalls state origin past)
    (authorised : Authorised settings tenantId origin past operation)
    (transacts : Transacts settings origin state operation reply next) :
    Shared settings next := by
  cases transacts with
  | before => exact shared
  | done _ calls step | after _ calls step =>
      subst calls
      exact shared.perform step (authorised.creates admitted recalls)

theorem Grows.transacts (shared : Shared settings state) {operation : Operation}
    {reply : Except RunStoreError RunStore.Reply}
    (transacts : Transacts settings origin state operation reply next) : Grows state next := by
  cases transacts with
  | before =>
      exact .of_same rfl (List.Subset.refl _) (List.Subset.refl _) (List.Subset.refl _)
  | done _ _ step | after _ _ step => exact .perform shared step

theorem not_creates (request : Agent.Request) (token : String) {job : Dict} {duration : Time}
    {key : Option String} : request.operation token ≠ some (.create job duration key) := by
  intro same
  unfold Agent.Request.operation at same
  split at same <;> cases same

theorem Shared.attempts (shared : Shared settings state) {store : SQLiteRunStore}
    {event : Event Agent.Reply} (attempts : Attempts store origin state event next) :
    Shared settings next := by
  cases attempts with
  | performed _ operation step =>
      refine shared.perform step ?_
      rintro job duration key creation
      rw [creation] at operation
      exact absurd operation (not_creates _ _)
  | refused _ waits => exact shared.waits waits.db
  | other _ waits => exact shared.waits waits.db

theorem Attempts.handsOut {store : SQLiteRunStore} {event : Event Agent.Reply}
    (attempts : Attempts store origin state event next) : Agent.HandsOut event := by
  rcases event with ⟨request, reply⟩
  cases request with
  | claim job =>
      rintro row (returned : reply = (.ok row : Except RunStoreError RunRow))
      cases attempts with
      | @performed call token later _ operation step replied =>
          have claims : Operation.claim job token = call.operation := Option.some.inj operation
          rw [returned] at replied
          have carried : (RunStore.Reply.record row).row? = some row := rfl
          have tenant := (returned_named replied carried).1
          rw [← claims] at tenant
          exact tenant
      | refused refused =>
          rw [returned] at refused
          cases refused
      | other elsewhere => cases elsewhere ""
  | _ => trivial

theorem Grows.attempts (shared : Shared settings state) {store : SQLiteRunStore}
    {event : Event Agent.Reply} (attempts : Attempts store origin state event next) :
    Grows state next := by
  cases attempts with
  | performed _ _ step => exact .perform shared step
  | refused _ waits | other _ waits =>
      exact .of_same waits.db (List.Subset.refl _) (List.Subset.refl _) (List.Subset.refl _)

theorem Recalls.belongs {tenantId taskId : String} {past : Past}
    (recalls : Recalls state origin past) (admitted : origin.Admitted settings tenantId)
    (may : MayRegister past tenantId origin taskId) :
    Belongs settings state (TaskOwnershipStore.key settings taskId) tenantId := by
  rcases may with ⟨row, job, received, rfl⟩ | ⟨body, id, routed, drew, named⟩
  · obtain ⟨operation, returned⟩ := received.returned
    have owns := recalls.rows operation _ row returned rfl
    rw [received.tenant] at owns
    exact ⟨row.id, rfl, .inl owns⟩
  · exact ⟨taskId, rfl, .inr ⟨origin, id, recalls.drew id drew, admitted, ⟨body, routed⟩, named⟩⟩

theorem Shared.sets (shared : Shared settings state) {key tenantId : String}
    {reply : Except Exc Bool} (belongs : Belongs settings state key tenantId)
    (sets : Sets state key tenantId reply next) : Shared settings next := by
  have faded : ∀ owners, Belongs settings (state.fade owners) key tenantId := fun owners =>
    have same : Grows state (state.fade owners) :=
      .of_same rfl (List.Subset.refl _) (List.Subset.refl _) (List.Subset.refl _)
    belongs.grows same
  cases sets with
  | before kept | taken kept => exact shared.fade kept
  | done kept | after kept => exact (shared.fade kept).register (faded _)

theorem Grows.sets {key tenantId : String} {reply : Except Exc Bool}
    (sets : Sets state key tenantId reply next) : Grows state next := by
  have register : ∀ owners, Grows state ((state.fade owners).register key tenantId) :=
    fun _ => .of_same rfl (List.Subset.refl _) (List.Subset.refl _) (List.subset_append_left _ _)
  cases sets with
  | before | taken =>
      exact .of_same rfl (List.Subset.refl _) (List.Subset.refl _) (List.Subset.refl _)
  | done | after => exact register _

theorem Shared.gets (shared : Shared settings state) {key : String}
    {reply : Except Exc (Option String)} (gets : Gets state key reply next) :
    Shared settings next := by
  cases gets with
  | failed kept | done kept => exact shared.fade kept

theorem Grows.gets {key : String} {reply : Except Exc (Option String)}
    (gets : Gets state key reply next) : Grows state next := by
  cases gets with
  | failed | done =>
      exact .of_same rfl (List.Subset.refl _) (List.Subset.refl _) (List.Subset.refl _)

theorem Grows.answers (shared : Shared settings state) {request : Ask} {reply : Answer request}
    (answered : answers settings origin state request reply next) : Grows state next := by
  cases request with
  | uuid4 => exact .draws answered
  | call operation => exact .transacts shared answered
  | setOwner key tenantId => exact .sets answered
  | getOwner key => exact .gets answered
  | attempt request => exact .attempts shared answered
  | _ =>
      obtain rfl : next = state := answered
      exact .of_same rfl (List.Subset.refl _) (List.Subset.refl _) (List.Subset.refl _)

theorem Shared.answers (shared : Shared settings state) {tenantId : String} {past : Past}
    {request : Ask} {reply : Answer request} (admitted : origin.Admitted settings tenantId)
    (recalls : Recalls state origin past)
    (permitted : Permits settings tenantId origin past request)
    (answered : answers settings origin state request reply next) : Shared settings next := by
  cases request with
  | uuid4 => exact shared.draws answered
  | call operation => exact shared.transacts admitted recalls permitted answered
  | setOwner key owner =>
      obtain ⟨rfl, taskId, rfl, may⟩ := permitted
      exact shared.sets (recalls.belongs admitted may) answered
  | getOwner key => exact shared.gets answered
  | attempt request => exact shared.attempts answered
  | _ => exact (show next = state from answered) ▸ shared

theorem Transacts.returned {operation : Operation} {reply : RunStore.Reply} {row : RunRow}
    (transacts : Transacts settings origin state operation (.ok reply) next)
    (here : reply.row? = some row) : row ∈ next.store.db.runs ∧ operation.tenant = .ok row.tenant ∧
      ∀ runId, named operation = some runId → row.id = runId := by
  generalize outcome : (Except.ok reply : Except RunStoreError RunStore.Reply) = replied
    at transacts
  cases transacts with
  | before | after => cases outcome
  | @done call store _ calls step =>
      subst calls
      obtain ⟨tenant, about⟩ := returned_named outcome.symm here
      refine ⟨?_, tenant, about⟩
      have kept : row ∈ store.db.runs := by
        rw [step.db]
        exact mem_of_returned outcome.symm here
      exact kept

theorem owner_mem {key tenantId : String} (found : state.owner key = some tenantId) :
    (key, tenantId) ∈ state.owners := by
  obtain ⟨entry, selected, rfl⟩ := Option.map_eq_some_iff.mp found
  have same := List.find?_some selected
  simp only [decide_eq_true_eq] at same
  subst same
  exact List.mem_of_find?_eq_some selected

theorem Recalls.learns (shared : Shared settings state) {past : Past} {request : Ask}
    {reply : Answer request} (recalls : Recalls state origin past)
    (answered : AgentService.answers settings origin state request reply next) :
    Recalls next origin (past.learn request reply) := by
  have kept := recalls.grows (.answers shared answered)
  refine
    { drew := fun id drew => ?_
      rows := fun operation answer row returned here => ?_
      owns := fun key tenantId owns => ?_ }
  · rcases List.mem_append.mp drew with old | new
    · exact kept.drew id old
    · cases List.mem_singleton.mp new
      obtain ⟨_, rfl⟩ := answered
      exact List.mem_append_right _ (List.mem_singleton_self _)
  · rcases List.mem_append.mp returned with old | new
    · exact kept.rows operation answer row old here
    · cases List.mem_singleton.mp new
      exact ⟨row, (Transacts.returned answered here).1, rfl, rfl⟩
  · rcases owns with read | made
    · rcases List.mem_append.mp read with old | new
      · exact kept.owns key tenantId (.inl old)
      · cases List.mem_singleton.mp new
        generalize outcome : (Except.ok (some tenantId) : Except Exc (Option String)) = replied
          at answered
        cases (show Gets state key replied next from answered) with
        | failed => cases outcome
        | done keeps =>
            exact shared.owners (keeps (owner_mem (Except.ok.inj outcome).symm))
    · rcases List.mem_append.mp made with old | new
      · exact kept.owns key tenantId (.inr old)
      · cases List.mem_singleton.mp new
        generalize outcome : (Except.ok true : Except Exc Bool) = replied at answered
        cases (show Sets state key tenantId replied next from answered) with
        | before | taken | after => cases outcome
        | done => exact List.mem_append_right _ (List.mem_singleton_self _)

end States

/-- The discipline of the sessions is sound. -/
theorem sound (settings : ServiceSettings) :
    Service.Sound (service settings) (discipline settings) where
  obeys := handle_obeys
  begins _ _ :=
    { drew := by simp [discipline, Past.nothing, Past.Drew]
      rows := by simp [discipline, Past.nothing, Past.Returned]
      owns := by simp [discipline, Past.nothing, Past.Owns] }
  shared := by
    rintro state origin past request reply next shared recalls ⟨tenantId, admitted, permitted⟩
      answered
    exact shared.answers admitted recalls permitted answered
  stable := by
    intro state origin past request reply next shared _ _ answered other known recalls
    exact Recalls.grows (.answers shared answered) recalls
  learns := by
    rintro state origin past request reply next shared recalls ⟨tenantId, admitted, permitted⟩
      answered
    refine ⟨?_, Recalls.learns shared recalls answered⟩
    cases request with
    | call operation =>
        rintro answer rfl row here
        obtain ⟨member, tenant, about⟩ := Transacts.returned answered here
        obtain ⟨job, entry, submitted⟩ :=
          (Shared.answers shared admitted recalls permitted answered).rows row member
        exact ⟨tenant, about, job, submitted.runs⟩
    | attempt request => exact Attempts.handsOut answered
    | _ => trivial

/-! ## One tenant a task -/

section Tasks

variable {settings : ServiceSettings} {state : ServerState}

theorem Origin.Admitted.unique {origin : Origin} {first second : String}
    (one : origin.Admitted settings first) (other : origin.Admitted settings second) :
    first = second := by
  cases one with
  | http authenticated =>
      cases other with
      | http again => exact authenticated.tenant.trans again.tenant.symm
  | worker valid tenant =>
      cases other with
      | worker again tenantAgain =>
          cases valid.symm.trans again
          exact tenant.symm.trans tenantAgain
  | heartbeat tenant =>
      cases other with
      | heartbeat again => exact tenant.symm.trans again

theorem Shared.drawn_once (shared : Shared settings state) {first second : Origin}
    {id other : Uuid4} (one : (first, id) ∈ state.drawn) (again : (second, other) ∈ state.drawn)
    (same : id.text = other.text) : first = second := by
  cases Uuid4.ext_text same
  exact congrArg Prod.fst (List.inj_on_of_nodup_map shared.distinct one again rfl)

theorem Shared.not_named (shared : Shared settings state) {row : RunRow}
    (member : row ∈ state.store.db.runs) {tenantId : String} {origin : Origin} {id : Uuid4} :
    ¬Named settings state tenantId row.id origin id := by
  intro crew
  obtain ⟨job, entry, submitted⟩ := shared.rows row member
  have same : entry.origin = origin :=
    shared.drawn_once submitted.drawn crew.drawn (submitted.runs.id.symm.trans crew.text.symm)
  obtain ⟨key, submits, _⟩ := submitted.creates
  obtain ⟨body, payload, submitting, _, _⟩ := submits.routed
  obtain ⟨other, routed⟩ := crew.routed
  rw [same, routed] at submitting
  cases submitting

theorem HasTask.unique (shared : Shared settings state) {taskId first second : String}
    (one : HasTask settings state first taskId) (other : HasTask settings state second taskId) :
    first = second := by
  rcases one with ⟨row, member, rfl, rfl⟩ | ⟨origin, id, crew⟩
  · rcases other with ⟨again, memberAgain, id, rfl⟩ | ⟨origin, id, crew⟩
    · exact congrArg RunRow.tenant
        (List.inj_on_of_nodup_map shared.wellFormed.ids member memberAgain id.symm)
    · exact absurd crew (shared.not_named member)
  · rcases other with ⟨row, member, rfl, rfl⟩ | ⟨rival, again, crewAgain⟩
    · exact absurd crew (shared.not_named member)
    · have same := shared.drawn_once crew.drawn crewAgain.drawn
        (crew.text.trans crewAgain.text.symm)
      exact (same ▸ crew.admitted).unique crewAgain.admitted

theorem sha256_of_key {taskId other : String}
    (same : TaskOwnershipStore.key settings taskId = TaskOwnershipStore.key settings other) :
    settings.store.sha256 taskId = settings.store.sha256 other :=
  (String.append_right_inj "crewos:task-owner:").mp same

end Tasks

/-! ## One request, all the way -/

namespace Sample

def creating : Permission :=
  { value := "agent_run.create", stripped := by decide +kernel, nonempty := by decide }

def cancelling : Permission :=
  { value := "agent_run.cancel", stripped := by decide +kernel, nonempty := by decide }

def settings : ServiceSettings where
  tenants :=
    { tenantApiKeys tenantId := if tenantId = "acme" then some "secret" else none
      tenantPermissions tenantId :=
        if tenantId = "acme" then some [creating, cancelling] else none
      celeryQueueName := "crewai" }
  store := RunStore.Sample.store
  agentMaxDecisions := 5
  agentMaxDuration := 300

def requesting (route : Route) : Origin := .http ⟨"acme", some "secret", route⟩

def submitting : Origin :=
  requesting (.submitAgentRun (.obj [("message", .str "hi")]) (some "key"))

def looking : Origin := requesting (.getTaskStatus Agent.Sample.task.agentRunId.text)

/-- Everything goes well, and at once. -/
def respond (origin : Origin) (state : ServerState) :
    (request : Ask) → Answer request × ServerState
  | .log | .getTaskStore | .getRunStore | .applyAsync _ _ _ | .runCrew _ _ _ _ =>
      ((.ok () : Except Exc Unit), state)
  | .uuid4 =>
      (Agent.Sample.task.agentRunId,
        { state with drawn := state.drawn ++ [(origin, Agent.Sample.task.agentRunId)] })
  | .now => ((0 : Time), state)
  | .call operation =>
      let call := Call.instant settings.store state.store.now operation
      ((operation.perform settings.store call.clock state.store.db).1,
        state.perform origin call { state.store with db := call.apply state.store.db })
  | .setOwner key tenantId =>
      if state.owner key = none then ((.ok true : Except Exc Bool), state.register key tenantId)
      else ((.ok false : Except Exc Bool), state)
  | .getOwner key => ((.ok (state.owner key) : Except Exc (Option String)), state)
  | .state _ | .resultType _ => ((.ok "PENDING" : Except Exc String), state)
  | .result _ => ((.ok .null : Except Exc Json), state)
  | .attempt request => (Agent.Sample.others request, state)

def legal (state : ServerState) : Ask → Bool
  | .uuid4 => state.drawn.all fun drawn => drawn.2 ≠ Agent.Sample.task.agentRunId
  | .attempt _ => false
  | _ => true

theorem respond_answers (origin : Origin) (configured : origin.store settings = settings.store)
    (state : ServerState) (ask : Ask) (allowed : legal state ask = true) :
    answers settings origin state ask (respond origin state ask).1
      (respond origin state ask).2 := by
  cases ask with
  | uuid4 =>
      have fresh : ∀ drawn ∈ state.drawn, drawn.2 ≠ Agent.Sample.task.agentRunId := by
        simpa [legal] using allowed
      exact ⟨fresh, rfl⟩
  | call operation =>
      have forward : state.store.now ≤ state.store.now := le_refl _
      exact .done configured.symm rfl (.instant settings.store operation forward state.store.db)
  | setOwner key tenantId =>
      by_cases free : state.owner key = none
      · simp only [respond, if_pos free]
        exact .done (List.Subset.refl _) free
      · simp only [respond, if_neg free]
        exact .taken (List.Subset.refl _) free
  | getOwner key => exact .done (List.Subset.refl _)
  | attempt request => cases allowed
  | _ => rfl

def serving (state : ServerState) (origin : Origin) :=
  Service.solo (respond origin) legal 20 state (handle settings origin)

def submitted := serving (.empty 0) submitting

def looked := serving submitted.2.2.1 looking

def submission : Service.Session Answer Origin (Except ServerError Response × Unit) :=
  ⟨submitting, submitted.2.1, submitted.1⟩

def look : Service.Session Answer Origin (Except ServerError Response × Unit) :=
  ⟨looking, looked.2.1, looked.1⟩

def world : Service.World Answer Origin ServerState (Except ServerError Response × Unit) :=
  { state := looked.2.2.1, sessions := [submission, look] }

theorem served_run : Run (Service.Step (service settings)) (.start (.empty 0))
    ((.arrive submitting :: submitted.1.map (.event 0)) ++
      .arrive looking :: looked.1.map (.event 1)) world :=
  ((Service.solo_alone (respond_answers _ rfl) (by decide +kernel)).served []).append
    ((Service.solo_alone (respond_answers _ rfl) (by decide +kernel)).served [submission])

end Sample

/-! ## Mediation -/

section Runs

variable {settings : ServiceSettings} {now : Time}
  {labels : List (Service.Label Answer Origin)}
  {world : Service.World Answer Origin ServerState (Except ServerError Response × Unit)}

theorem after_nothing (origin : Origin) (events : List (Event Answer)) :
    (monitor settings origin).after .nothing events = ⟨events⟩ := by
  induction events using List.reverseRecOn with
  | nil => rfl
  | append_singleton events event induction =>
      rw [Monitor.after_snoc, induction]
      rfl

theorem ghost_eq (session : Service.Session Answer Origin (Except ServerError Response × Unit)) :
    (discipline settings).ghost session = ⟨session.past⟩ :=
  after_nothing session.origin session.past

/-- However requests, deliveries and heartbeats of any tenants are interleaved,
whatever fails or expires and wherever sessions stop: a session asks only for what
its events so far permit its own tenant, with the grant it needs, and looks at the
result backend, publishes and enqueues only for a task whose entry it has read or
made; and it ends with data of its tenant or one of the fixed answers. -/
theorem agent_requests_authorised
    (run : Run (Service.Step (service settings)) (.start (.empty now)) labels world) :
    ∀ session ∈ world.sessions,
      (∀ before event rest, session.past = before ++ event :: rest →
        ∃ tenantId, session.origin.Admitted settings tenantId ∧
          Permits settings tenantId session.origin ⟨before⟩ event.request) ∧
      (∀ outcome, session.program = .done outcome →
        Ends settings ⟨session.past⟩ session.origin outcome.1) := by
  have upheld := (sound settings).run Shared.empty run
  intro session member
  refine ⟨fun before event rest split => ?_, fun outcome ends => ?_⟩
  · have permitted := (upheld.sessions session member).permitted before event rest split
    exact after_nothing session.origin before ▸ permitted
  · exact ghost_eq session ▸ upheld.finished member ends

open Sample in
/-- The sample ends with a response that shows what it was answered. -/
theorem agent_requests_authorised_served : ∃ tenantId,
    Sample.settings.tenants.Authenticated "acme" (some "secret") tenantId ∧
      Response.Of Sample.settings tenantId ⟨submitted.1⟩
        (.submitAgentRun (.obj [("message", .str "hi")]) (some "key"))
        (.accepted Agent.Sample.task.agentRunId .queued false) := by
  have ended : submitted.2.1.value? =
      some (.ok (.accepted Agent.Sample.task.agentRunId .queued false), ()) := by decide +kernel
  exact (agent_requests_authorised served_run submission (by simp [Sample.world])).2 _
    (Service.eq_done_of_value? ended)

/-- The task a request looks up in the result backend. -/
def lookup : Ask → Option String
  | .state taskId | .result taskId | .resultType taskId => some taskId
  | _ => none

theorem Permits.owns {tenantId : String} {origin : Origin} {past : Past} {request : Ask}
    (permitted : Permits settings tenantId origin past request) {taskId : String}
    (looks : lookup request = some taskId) :
    past.Owns (TaskOwnershipStore.key settings taskId) tenantId := by
  cases request with
  | state | result | resultType =>
      cases looks
      exact permitted.1
  | _ => cases looks

/-- A task never has two tenants, whatever entries expire and are made again; every
entry that ever was is of a task of its tenant; and who looked a task up is the
tenant of the task, unless two tasks have one digest. -/
theorem task_has_one_tenant
    (run : Run (Service.Step (service settings)) (.start (.empty now)) labels world) :
    (∀ taskId first second, HasTask settings world.state first taskId →
      HasTask settings world.state second taskId → first = second) ∧
    (∀ entry ∈ world.state.registered, Belongs settings world.state entry.1 entry.2) ∧
    ∀ session ∈ world.sessions, ∀ event ∈ session.past, ∀ taskId,
      lookup event.request = some taskId → ∃ tenantId,
        session.origin.Admitted settings tenantId ∧
          (HasTask settings world.state tenantId taskId ∨ ∃ other, other ≠ taskId ∧
            HasTask settings world.state tenantId other ∧
              settings.store.sha256 other = settings.store.sha256 taskId) := by
  have upheld := (sound settings).run Shared.empty run
  refine ⟨fun _ _ _ one other => one.unique upheld.shared other, upheld.shared.registered, ?_⟩
  intro session member event happened taskId looks
  obtain ⟨before, rest, split⟩ := List.append_of_mem happened
  obtain ⟨tenantId, admitted, permitted⟩ :=
    (upheld.sessions session member).permitted before event rest split
  rw [show (discipline settings).start = Past.nothing from rfl] at permitted
  rw [show (discipline settings).monitor = monitor settings from rfl, after_nothing] at permitted
  have knows : Recalls world.state session.origin ⟨session.past⟩ :=
    ghost_eq session ▸ (upheld.sessions session member).knows
  have earlier : (⟨before⟩ : Past) ≤ ⟨session.past⟩ := by
    show before ⊆ session.past
    rw [split]
    exact List.subset_append_left _ _
  have entry := knows.owns _ _ ((permitted.owns looks).mono earlier)
  obtain ⟨other, same, task⟩ := upheld.shared.registered _ entry
  refine ⟨tenantId, admitted, ?_⟩
  by_cases again : other = taskId
  · exact .inl (again ▸ task)
  · exact .inr ⟨other, again, task, (sha256_of_key same).symm⟩

open Sample in
/-- The tenant that looked the sample's task up is the one that submitted it. -/
theorem task_has_one_tenant_looked : ∃ tenantId, looking.Admitted Sample.settings tenantId ∧
    (HasTask Sample.settings Sample.world.state tenantId Agent.Sample.task.agentRunId.text ∨
      ∃ other, other ≠ Agent.Sample.task.agentRunId.text ∧
        HasTask Sample.settings Sample.world.state tenantId other ∧
          Sample.settings.store.sha256 other =
            Sample.settings.store.sha256 Agent.Sample.task.agentRunId.text) := by
  have asked : ∃ event ∈ look.past,
      lookup event.request = some Agent.Sample.task.agentRunId.text := by decide +kernel
  obtain ⟨event, happened, looks⟩ := asked
  exact (task_has_one_tenant served_run).2.2 look (by simp [Sample.world]) event happened _ looks

/-! ## Where runs come from -/

def Makes : Ask → Operation → Prop
  | .call operation, made => operation = made
  | .attempt request, made => ∃ token, Agent.Request.operation token request = some made
  | _, _ => False

theorem history_of_answers {state next : ServerState} {origin : Origin} {request : Ask}
    {reply : Answer request} (answered : answers settings origin state request reply next) :
    next.history = state.history ∨ ∃ call, next.history = state.history ++ [⟨origin, call⟩] ∧
      Makes request call.operation := by
  cases request with
  | call operation =>
      generalize outcome : (reply : Except RunStoreError RunStore.Reply) = replied at answered
      cases (show Transacts settings origin state operation replied next from answered) with
      | before => exact .inl rfl
      | done _ calls | after _ calls => exact .inr ⟨_, rfl, calls.symm⟩
  | attempt request =>
      cases (show Attempts _ origin state _ next from answered) with
      | performed _ operation => exact .inr ⟨_, rfl, _, operation⟩
      | refused | other => exact .inl rfl
  | setOwner =>
      generalize outcome : (reply : Except Exc Bool) = replied at answered
      cases (show Sets state _ _ replied next from answered) <;> exact .inl rfl
  | getOwner =>
      generalize outcome : (reply : Except Exc (Option String)) = replied at answered
      cases (show Gets state _ replied next from answered) <;> exact .inl rfl
  | uuid4 =>
      obtain ⟨_, rfl⟩ := answered
      exact .inl rfl
  | _ => exact .inl (congrArg ServerState.history answered)

/-- Every call was asked for by a session of its origin. -/
def Traced (world : Service.World Answer Origin ServerState (Except ServerError Response × Unit)) :
    Prop :=
  world.Asked ServerState.history fun entry origin request =>
    origin = entry.origin ∧ Makes request entry.call.operation

theorem Traced.step
    {next : Service.World Answer Origin ServerState (Except ServerError Response × Unit)}
    {label : Service.Label Answer Origin} (traced : Traced world)
    (step : Service.Step (service settings) world label next) : Traced next := by
  refine Service.World.Asked.step traced ?_ step
  intro origin state request reply following answered entry member
  rcases history_of_answers answered with same | ⟨call, more, makes⟩
  · exact .inl (same ▸ member)
  · rcases List.mem_append.mp (more ▸ member) with old | new
    · exact .inl old
    · cases List.mem_singleton.mp new
      exact .inr ⟨rfl, makes⟩

/-- The database of the service is what the calls of its sessions made of an empty
one, and every run in it was submitted: by a session of its tenant that had drawn
its identifier, for the message of its request, within the budget and with the
grant. -/
theorem agent_runs_submitted
    (run : Run (Service.Step (service settings)) (.start (.empty now)) labels world) :
    world.state.store.db = RunDb.empty.replay world.state.calls ∧ Traced world ∧
      ∀ row ∈ world.state.store.db.runs, ∃ job entry,
        Submitted settings world.state row job entry := by
  have shared := ((sound settings).run Shared.empty run).shared
  have start : Traced (.start (.empty now)) := by
    simp [Traced, Service.World.Asked, Service.World.start, ServerState.empty]
  exact ⟨shared.db, run.preserves (fun _ _ _ traced step => traced.step step) start, shared.rows⟩

open Sample in
theorem agent_runs_submitted_served :
    ∃ row ∈ Sample.world.state.store.db.runs, row.id = Agent.Sample.task.agentRunId.text ∧
      ∃ job entry, Submitted Sample.settings Sample.world.state row job entry := by
  have there : ∃ row ∈ Sample.world.state.store.db.runs,
      row.id = Agent.Sample.task.agentRunId.text := by
    decide +kernel
  obtain ⟨row, member, id⟩ := there
  exact ⟨row, member, id, (agent_runs_submitted served_run).2.2 row member⟩

end Runs

end Crewos.AgentService

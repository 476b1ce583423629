import Crewos.Documents.Coordinator
import Crewos.Documents.ExactlyOnce

/-! # Deletion

A deleted document stays deleted: the jobs about it are closed with their
payloads gone, a later update finds no version to follow, and a first version
needs an identifier that was never drawn before. -/

namespace Crewos.Documents

open Foundation SQLiteDocumentStore

/-- A job nothing can start again. -/
structure JobRow.Dead (row : JobRow) : Prop where
  payload : row.payload = none
  state : row.state = .succeeded ∨ row.state = .failed

theorem JobRow.Dead.not_running {row : JobRow} (dead : row.Dead) : row.state ≠ .running := by
  rcases dead.state with done | done <;> simp [done]

theorem JobRow.Dead.fenced (row : JobRow) : row.fenced.Dead := by
  refine ⟨rfl, ?_⟩
  by_cases done : row.state = .succeeded <;> simp [JobRow.fenced, done]

theorem JobRow.Dead.not_idle {row : JobRow} (dead : row.Dead) {now : Time} : ¬Idle row now := by
  rintro (queued | ⟨running, _⟩)
  · rcases dead.state with done | done <;> simp [queued] at done
  · exact dead.not_running running

theorem RowChange.staysDead {store : SQLiteDocumentStore} {clock : Clock}
    {operation : Operation} {reply : Reply} {row after : JobRow}
    (change : RowChange store clock operation reply row after) (dead : row.Dead) :
    after.Dead := by
  cases change with
  | kept => exact dead
  | limited idle => exact absurd idle dead.not_idle
  | claimed idle => exact absurd idle dead.not_idle
  | committed owned => exact absurd owned.running dead.not_running
  | failed selected =>
      simp only [failing, decide_eq_true_eq] at selected
      exact absurd selected.2.2.2 dead.not_running
  | retried _ _ payload => exact absurd dead.payload payload
  | published => exact ⟨dead.payload, dead.state⟩
  | fenced => exact .fenced row

theorem RawRequest.validate_operation {raw : RawRequest} {operation : JobOperation}
    {request : DocumentRequest} (valid : raw.validate operation = .ok request) :
    request.operation = operation := by
  unfold RawRequest.validate at valid
  split at valid
  · simp only [Outcome.bind_eq_ok, Outcome.pure_eq_ok] at valid
    obtain ⟨_, _, _, _, rfl⟩ := valid
    rfl
  · split at valid
    · simp only [Outcome.bind_eq_ok, Outcome.pure_eq_ok] at valid
      obtain ⟨_, _, _, _, rfl⟩ := valid
      rfl
    · cases valid

theorem DocumentDb.exists_of_latest {db : DocumentDb} {tenantId : String} {documentId : Uuid4}
    (stored : 1 ≤ db.latest tenantId documentId) :
    ∃ row ∈ db.versions, row.tenantId = tenantId ∧ row.documentId = documentId := by
  by_contra missing
  push Not at missing
  have none : db.latest tenantId documentId ≤ 0 := by
    rw [latest_le]
    exact fun row member tenant document => absurd document (missing row member tenant)
  omega

theorem DocumentDb.latest_eq_zero {db : DocumentDb} {tenantId : String} {documentId : Uuid4}
    (missing : ∀ row ∈ db.versions, ¬(row.tenantId = tenantId ∧ row.documentId = documentId)) :
    db.latest tenantId documentId = 0 := by
  by_contra stored
  obtain ⟨row, member, same⟩ := exists_of_latest (Nat.one_le_iff_ne_zero.mpr stored)
  exact missing row member same

/-! ## Where a version can come from -/

/-- Where the version a call stores comes from. -/
inductive Source (past : List Transition) (operation : Operation) (db : DocumentDb)
    (saved : StoredDocumentVersion) : Prop
  | job {row : JobRow} (member : row ∈ db.jobs) (tenant : row.tenant = saved.tenantId)
      (document : row.documentId = saved.documentId) (running : row.state = .running)
      (revision : Revision db row saved.version)
  | process (fresh : saved.documentId ∉ drawnIds past)
      (draws : operation.drawn = some saved.documentId)
  | update (later : 2 ≤ saved.version)
      (following : saved.version = db.latest saved.tenantId saved.documentId + 1)

theorem Step.versions {past : List Transition} {state next : DocumentState}
    {transition : Transition} (valid : state.Valid) (step : Step state transition next)
    (permitted : Permitted past transition.call.operation) {row : VersionRow}
    (member : row ∈ next.db.versions) :
    row ∈ state.db.versions ∨ ∃ saved, row = .of saved ∧
      Source past transition.call.operation state.db saved := by
  rw [step.db] at member
  rcases step.effect valid.ids with ⟨reply, answered, effect⟩ | ⟨error, answered, same⟩
  · have versions := effect.versions
    generalize reached : transition.after.versions = rows at versions member
    generalize performed : transition.call.operation = operation at versions permitted
    rw [step.before] at versions
    cases versions with
    | kept => exact .inl member
    | @committed claim record saved =>
        rcases List.mem_append.mp member with old | new
        · exact .inl old
        · rw [List.mem_singleton] at new
          have inserts : transition.Inserts claim.job.jobId saved.tenantId saved.documentId
              saved.version :=
            ⟨claim, record, saved, performed, answered, rfl, by rw [reached, step.before], rfl,
              rfl, rfl⟩
          obtain ⟨owner, ownerMember, _, tenant, document, running, revision, _⟩ :=
            step.owner valid inserts
          rw [step.before] at ownerMember revision
          exact .inr ⟨saved, new, .job ownerMember tenant document running revision⟩
    | @created record saved validated following =>
        rcases List.mem_append.mp member with old | new
        · exact .inl old
        · rw [List.mem_singleton] at new
          obtain ⟨tenant, document, version⟩ := validate_identity validated
          refine .inr ⟨saved, new, ?_⟩
          cases permitted with
          | process fresh assembled =>
              obtain ⟨_, drawn, first⟩ := DocumentProcessingCoordinator.process_ok assembled
              refine .process (document.trans drawn ▸ fresh) ?_
              simp [Operation.drawn, first, document]
          | update read assembled =>
              rename_i request _ _ _
              obtain ⟨_, later⟩ := DocumentProcessingCoordinator.update_ok assembled
              have positive := request.positive
              exact .update (by omega) following
    | deleted => exact .inl (List.mem_filter.mp member).1
  · rw [same, step.before] at member
    exact .inl member

/-! ## Before the deletion -/

/-- Every stored document, and every document a create job is about, was drawn. -/
structure Drawn (past : List Transition) (state : DocumentState) : Prop where
  valid : state.Valid
  versions : ∀ row ∈ state.db.versions, row.documentId ∈ drawnIds past
  creates : ∀ row ∈ state.db.jobs, row.operation = .create → row.documentId ∈ drawnIds past

theorem Step.jobs {past : List Transition} {state next : DocumentState}
    {transition : Transition} (valid : state.Valid) (step : Step state transition next)
    (permitted : Permitted past transition.call.operation) {row : JobRow}
    (member : row ∈ next.db.jobs) :
    (∃ old ∈ state.db.jobs, row = old ∨ ∃ reply, RowChange transition.call.store
        transition.call.clock transition.call.operation reply old row) ∨
      ((∀ old ∈ state.db.jobs, old.id ≠ row.id) ∧ (row.operation = .update ∨
        row.documentId ∉ drawnIds past ∧
          transition.call.operation.drawn = some row.documentId)) := by
  rw [step.db] at member
  rcases step.effect valid.ids with ⟨reply, answered, effect⟩ | ⟨error, answered, same⟩
  · obtain ⟨change, added, jobs, changes, adds⟩ := effect.jobs
    rw [step.before] at jobs changes adds
    rw [jobs, List.mem_append] at member
    rcases member with old | new
    · obtain ⟨before, beforeMember, rfl⟩ := List.mem_map.mp old
      exact .inl ⟨before, beforeMember, .inr ⟨reply, changes before beforeMember⟩⟩
    · right
      generalize transition.call.operation = operation at adds permitted
      cases adds with
      | nothing => cases new
      | @registered _ _ _ _ _ _ _ request _ validated fresh =>
          rw [List.mem_singleton] at new
          subst new
          have kind := RawRequest.validate_operation validated
          refine ⟨fresh, ?_⟩
          cases permitted with
          | submitUpdate => exact .inl kind
          | submitCreate unused =>
              cases request with
              | ingestion request => exact .inr ⟨unused, rfl⟩
              | update request => cases kind
  · rw [same, step.before] at member
    exact .inl ⟨row, member, .inl rfl⟩

theorem Drawn.step {past : List Transition} {state next : DocumentState}
    {transition : Transition} (drawn : Drawn past state) (step : Step state transition next)
    (permitted : Permitted past transition.call.operation) :
    Drawn (past ++ [transition]) next := by
  refine ⟨drawn.valid.step step, ?_, ?_⟩
  · intro row member
    rw [drawnIds_snoc]
    rcases step.versions drawn.valid permitted member with old | ⟨saved, rfl, source⟩
    · exact .inl (drawn.versions row old)
    · rw [show (VersionRow.of saved).documentId = saved.documentId from rfl]
      cases source with
      | job ownerMember tenant document _ revision =>
          left
          generalize saved.version = version at revision
          cases revision with
          | first creates => exact document ▸ drawn.creates _ ownerMember creates
          | @next request _ _ _ current =>
              have positive := request.positive
              obtain ⟨stored, storedMember, _, same⟩ := DocumentDb.exists_of_latest
                (current ▸ positive)
              rw [← document, ← same]
              exact drawn.versions stored storedMember
      | process _ draws => exact .inr draws
      | update later following =>
          left
          obtain ⟨stored, storedMember, _, same⟩ := DocumentDb.exists_of_latest
            (by omega : 1 ≤ state.db.latest saved.tenantId saved.documentId)
          rw [← same]
          exact drawn.versions stored storedMember
  · intro row member creates
    rw [drawnIds_snoc]
    rcases step.jobs drawn.valid permitted member with
      ⟨old, oldMember, rfl | ⟨reply, change⟩⟩ | ⟨_, updates | ⟨_, draws⟩⟩
    · exact .inl (drawn.creates _ oldMember creates)
    · obtain ⟨_, _, document, operation, _⟩ := change.columns
      rw [document]
      exact .inl (drawn.creates old oldMember (operation ▸ creates))
    · rw [creates] at updates
      cases updates
    · exact .inr draws

theorem Run.drawn {first last : DocumentState} {trace : List Transition}
    (initial : Initial first) (run : Run Step first trace last)
    (disciplined : Disciplined trace) : Drawn trace last := by
  have start : Drawn [] first := by
    refine ⟨.initial initial, ?_, ?_⟩ <;> simp [initial.1, DocumentDb.empty]
  have reached := run.traced
    (fun past state _ _ (holds : Disciplined past → Drawn past state) step disciplined =>
      (holds disciplined.snoc.1).step step disciplined.snoc.2)
    (fun _ => start)
  exact reached disciplined

/-! ## After the deletion -/

/-- The document is gone, and everything about it that could bring it back is
closed. `closed` are the jobs that were about it when it was deleted. -/
structure Erased (tenantId : String) (documentId : Uuid4) (closed : List Uuid4)
    (past : List Transition) (state : DocumentState) : Prop where
  valid : state.Valid
  drawn : documentId ∈ drawnIds past
  versions : ∀ row ∈ state.db.versions,
    ¬(row.tenantId = tenantId ∧ row.documentId = documentId)
  jobs : ∀ row ∈ state.db.jobs, row.tenant = tenantId → row.documentId = documentId →
    row.Dead ∨ row.operation = .update
  known : ∀ id ∈ closed, ∃ row ∈ state.db.jobs, row.id = id
  closed : ∀ row ∈ state.db.jobs, row.id ∈ closed → row.Dead

theorem Erased.step {tenantId : String} {documentId : Uuid4} {closed : List Uuid4}
    {past : List Transition} {state next : DocumentState} {transition : Transition}
    (erased : Erased tenantId documentId closed past state) (step : Step state transition next)
    (permitted : Permitted past transition.call.operation) :
    Erased tenantId documentId closed (past ++ [transition]) next := by
  have missing := DocumentDb.latest_eq_zero erased.versions
  refine ⟨erased.valid.step step, drawnIds_snoc.mpr (.inl erased.drawn), ?versions, ?jobs,
    ?known, ?closed⟩
  case versions =>
    intro row member
    rcases step.versions erased.valid permitted member with old | ⟨saved, rfl, source⟩
    · exact erased.versions row old
    · rintro ⟨rfl, rfl⟩
      cases source with
      | job ownerMember tenant document running revision =>
          rcases erased.jobs _ ownerMember tenant document with dead | updates
          · exact dead.not_running running
          · generalize saved.version = version at revision
            cases revision with
            | first creates =>
                rw [creates] at updates
                cases updates
            | @next request _ _ _ current =>
                have positive := request.positive
                rw [tenant, document] at current
                have none : state.db.latest saved.tenantId saved.documentId = 0 := missing
                omega
      | process fresh => exact fresh erased.drawn
      | update later following =>
          have none : state.db.latest saved.tenantId saved.documentId = 0 := missing
          omega
  case jobs =>
    intro row member tenant document
    rcases step.jobs erased.valid permitted member with
      ⟨old, oldMember, rfl | ⟨reply, change⟩⟩ | ⟨_, updates | ⟨fresh, _⟩⟩
    · exact erased.jobs _ oldMember tenant document
    · obtain ⟨_, sameTenant, sameDocument, sameOperation, _⟩ := change.columns
      rcases erased.jobs old oldMember (sameTenant ▸ tenant) (sameDocument ▸ document) with
        dead | updates
      · exact .inl (change.staysDead dead)
      · exact .inr (sameOperation.trans updates)
    · exact .inr updates
    · exact absurd erased.drawn (document ▸ fresh)
  case known =>
    intro id member
    obtain ⟨row, rowMember, same⟩ := erased.known id member
    rcases step.effect erased.valid.ids with ⟨reply, _, effect⟩ | ⟨_, _, unchanged⟩
    · rw [step.before, ← step.db] at effect
      obtain ⟨after, afterMember, change⟩ := effect.row_after rowMember
      exact ⟨after, afterMember, change.columns.1.trans same⟩
    · rw [step.db, unchanged, step.before]
      exact ⟨row, rowMember, same⟩
  case closed =>
    intro row member id
    rcases step.jobs erased.valid permitted member with
      ⟨old, oldMember, rfl | ⟨reply, change⟩⟩ | ⟨fresh, _⟩
    · exact erased.closed _ oldMember id
    · exact change.staysDead (erased.closed old oldMember (change.columns.1 ▸ id))
    · obtain ⟨old, oldMember, same⟩ := erased.known row.id id
      exact absurd same (fresh old oldMember)

def DocumentDb.jobsAbout (db : DocumentDb) (tenantId : String) (documentId : Uuid4) :
    List Uuid4 :=
  (db.jobs.filter fun row => row.tenant = tenantId ∧ row.documentId = documentId).map JobRow.id

theorem DocumentDb.mem_jobsAbout {db : DocumentDb} {tenantId : String} {documentId id : Uuid4} :
    id ∈ db.jobsAbout tenantId documentId ↔
      ∃ row ∈ db.jobs, row.tenant = tenantId ∧ row.documentId = documentId ∧ row.id = id := by
  simp [jobsAbout, and_assoc]

theorem Drawn.erased {past : List Transition} {state next : DocumentState}
    {deletion : Transition} (drawn : Drawn past state) (step : Step state deletion next)
    {tenantId : String} {documentId : Uuid4} (deletes : deletion.Deletes tenantId documentId) :
    Erased tenantId documentId (state.db.jobsAbout tenantId documentId) (past ++ [deletion])
      next := by
  obtain ⟨operation, reply, answered⟩ := deletes
  have valid := drawn.valid
  rcases step.effect valid.ids with ⟨other, _, effect⟩ | ⟨error, raised, _⟩
  · rw [operation, step.before, ← step.db] at effect
    have versions := effect.versions
    generalize reached : next.db.versions = rows at versions
    cases versions with
    | kept quiet => exact absurd trivial quiet
    | deleted stored =>
        obtain ⟨row, member⟩ := List.exists_mem_of_ne_nil _ stored
        simp only [DocumentDb.versionsOf, List.mem_filter, decide_eq_true_eq] at member
        obtain ⟨rowMember, _, about⟩ := member
        have origin : documentId ∈ drawnIds past := about ▸ drawn.versions row rowMember
        obtain ⟨change, added, jobs, changes, adds⟩ := effect.jobs
        cases adds
        rw [List.append_nil] at jobs
        -- Every job about the document is fenced.
        have fences : ∀ job ∈ state.db.jobs, job.tenant = tenantId →
            job.documentId = documentId → (change job).Dead := by
          intro job jobMember tenant document
          have changed := changes job jobMember
          generalize change job = after at changed
          cases changed with
          | kept spared => exact absurd ⟨tenant, document⟩ spared
          | fenced => exact .fenced job
        refine ⟨valid.step step, drawnIds_snoc.mpr (.inl origin), ?_, ?_, ?_, ?_⟩
        · intro kept keptMember
          rw [reached, List.mem_filter, decide_eq_true_eq] at keptMember
          exact keptMember.2
        · intro job jobMember tenant document
          rw [jobs] at jobMember
          obtain ⟨old, oldMember, rfl⟩ := List.mem_map.mp jobMember
          obtain ⟨_, sameTenant, sameDocument, _⟩ := (changes old oldMember).columns
          exact .inl (fences old oldMember (sameTenant ▸ tenant) (sameDocument ▸ document))
        · intro id closed
          obtain ⟨old, oldMember, _, _, rfl⟩ := DocumentDb.mem_jobsAbout.mp closed
          refine ⟨change old, ?_, (changes old oldMember).columns.1⟩
          rw [jobs]
          exact List.mem_map_of_mem oldMember
        · intro job jobMember closed
          rw [jobs] at jobMember
          obtain ⟨old, oldMember, rfl⟩ := List.mem_map.mp jobMember
          obtain ⟨other, otherMember, tenant, document, same⟩ := DocumentDb.mem_jobsAbout.mp closed
          rw [(changes old oldMember).columns.1] at same
          rw [← DocumentDb.eq_of_id valid.ids otherMember oldMember same]
          exact fences other otherMember tenant document
  · rw [answered] at raised
    cases raised

theorem Run.erased {state last : DocumentState} {past rest : List Transition}
    {tenantId : String} {documentId : Uuid4} {closed : List Uuid4}
    (run : Run Step state rest last) (disciplined : Disciplined (past ++ rest))
    (erased : Erased tenantId documentId closed past state) :
    Erased tenantId documentId closed (past ++ rest) last := by
  have reached := run.traced
    (fun trace state _ _
        (holds : Disciplined trace → Erased tenantId documentId closed trace state) step
        disciplined => (holds disciplined.snoc.1).step step disciplined.snoc.2)
    (fun _ => erased)
  exact reached disciplined

theorem perform_commit_of_dead {db : DocumentDb} (ids : db.WellFormed) {row : JobRow}
    (member : row ∈ db.jobs) (dead : row.Dead) {claim : DocumentJobClaim}
    (id : claim.job.jobId = row.id) (store : SQLiteDocumentStore) (clock : Clock)
    (record : StoredDocumentVersion) :
    ∃ error, (Operation.commitJob claim record).perform store clock db = (.error error, db) := by
  unfold Operation.perform
  cases ran : (Operation.commitJob claim record).body store clock db with
  | error error => exact ⟨error, rfl⟩
  | ok out =>
      exfalso
      rcases out with ⟨reply, next⟩
      simp only [Operation.body, Outcome.map_eq_ok, Prod.exists, Prod.mk.injEq] at ran
      obtain ⟨saved, _, ok, -, -⟩ := ran
      obtain ⟨owner, ownerMember, owned, _⟩ := commitJob_ok ok
      have same := DocumentDb.eq_of_id ids ownerMember member (owned.id.trans id)
      exact (same ▸ dead).not_running owned.running

/-- After a deletion, whatever is called: the document gets no version again,
the jobs that were about it have no payload, and the claims handed out for it
before cannot commit. -/
theorem deletion_is_final {first state next last : DocumentState} {past rest : List Transition}
    {deletion : Transition} {tenantId : String} {documentId : Uuid4} (initial : Initial first)
    (before : Run Step first past state) (step : Step state deletion next)
    (deletes : deletion.Deletes tenantId documentId) (after : Run Step next rest last)
    (disciplined : Disciplined (past ++ deletion :: rest)) :
    (∀ row ∈ last.db.versions, ¬(row.tenantId = tenantId ∧ row.documentId = documentId)) ∧
    (∀ job ∈ state.db.jobs, job.tenant = tenantId → job.documentId = documentId →
      ∀ row ∈ last.db.jobs, row.id = job.id → row.payload = none) ∧
    (∀ claim ∈ state.issued, claim.job.tenantId = tenantId → claim.job.documentId = documentId →
      ∀ record store clock, ∃ error,
        (Operation.commitJob claim record).perform store clock last.db =
          (.error error, last.db)) := by
  have split : past ++ deletion :: rest = (past ++ [deletion]) ++ rest := by simp
  have earlier : Disciplined past := by
    rintro trace transition tail rfl
    exact disciplined trace transition (tail ++ deletion :: rest) (by simp)
  have drawn := Run.drawn initial before earlier
  rw [split] at disciplined
  have erased := Run.erased after disciplined (drawn.erased step deletes)
  refine ⟨erased.versions, ?_, ?_⟩
  · intro job member tenant document row rowMember id
    have about : row.id ∈ state.db.jobsAbout tenantId documentId :=
      DocumentDb.mem_jobsAbout.mpr ⟨job, member, tenant, document, id.symm⟩
    exact (erased.closed row rowMember about).payload
  · intro claim issued tenant document record store clock
    obtain ⟨job, member, issuedFor⟩ := drawn.valid.claims claim issued
    have about : claim.job.jobId ∈ state.db.jobsAbout tenantId documentId :=
      DocumentDb.mem_jobsAbout.mpr ⟨job, member, issuedFor.tenant ▸ tenant,
        issuedFor.document ▸ document, issuedFor.id.symm⟩
    obtain ⟨row, rowMember, id⟩ := erased.known _ about
    exact perform_commit_of_dead erased.valid.ids rowMember
      (erased.closed row rowMember (id ▸ about)) id.symm store clock record

/-! The sample document is deleted while an update of it is being processed. -/

namespace Sample

def third : Uuid4 := ⟨"00000000-0000-4000-8000-000000000003", by decide +kernel⟩

def fourth : Uuid4 := ⟨"00000000-0000-4000-8000-000000000004", by decide +kernel⟩

def edit : RawRequest := { source with target := some (document, 1) }

def update : Call :=
  .instant store 3 (.submitJob "acme" edit .update default "edit" document third)

def updating : DocumentState := committed.next update

def claimUpdate : Call := .instant store 4 (.claimJob third.text "acme" "other")

def claimedUpdate : DocumentState := updating.next claimUpdate

def delete : Call := .instant store 5 (.delete "acme" document)

def deleted : DocumentState := claimedUpdate.next delete

def submitAgain : Call :=
  .instant store 6 (.submitJob "acme" edit .update default "again" document fourth)

def afterwards : DocumentState := deleted.next submitAgain

def second : StoredDocumentVersion := { record with version := 2 }

theorem claimedUpdate_run : Run Step start
    (trace ++ [.of committed.db update, .of updating.db claimUpdate]) claimedUpdate := by
  have updates : Step committed (.of committed.db update) updating :=
    .of_call committed update (by simp [update, Call.instant, Operation.presented])
  have takes : Step updating (.of updating.db claimUpdate) claimedUpdate :=
    .of_call updating claimUpdate (by simp [claimUpdate, Call.instant, Operation.presented])
  exact committed_run.append (.cons updates (.single takes))

theorem afterwards_disciplined : Disciplined
    ((trace ++ [.of committed.db update, .of updating.db claimUpdate]) ++
      .of claimedUpdate.db delete :: [.of deleted.db submitAgain]) := by
  have submits : Disciplined [.of start.db submit] :=
    Disciplined.nil.append (.submitCreate (by simp [drawnIds]))
  have claims : Disciplined [.of start.db submit, .of submitted.db claim] :=
    submits.append .claimJob
  have commits : Disciplined trace := claims.append .commitJob
  have updates : Disciplined (trace ++ [.of committed.db update]) := commits.append .submitUpdate
  have takes : Disciplined (trace ++ [.of committed.db update, .of updating.db claimUpdate]) :=
    updates.append .claimJob
  have deletes : Disciplined ((trace ++ [.of committed.db update, .of updating.db claimUpdate]) ++
      [.of claimedUpdate.db delete]) := takes.append .delete
  exact deletes.append .submitUpdate

end Sample

/-- The update could be committed before the deletion. After it the payload of the
update is gone, its claim commits nothing, and one more update changes neither. -/
theorem deletion_is_final_updating : ∃ claim ∈ Sample.claimedUpdate.issued,
    claim.job.jobId = Sample.third ∧
    ((Operation.commitJob claim Sample.second).perform Sample.store (fun _ => 5)
      Sample.claimedUpdate.db).1.isOk = true ∧
    (∀ row ∈ Sample.afterwards.db.versions,
      ¬(row.tenantId = "acme" ∧ row.documentId = Sample.document)) ∧
    (∀ row ∈ Sample.afterwards.db.jobs, row.id = Sample.third → row.payload = none) ∧
    ∃ error, (Operation.commitJob claim Sample.second).perform Sample.store (fun _ => 7)
      Sample.afterwards.db = (.error error, Sample.afterwards.db) := by
  have flight : ∃ claim ∈ Sample.claimedUpdate.issued, (claim.job.jobId = Sample.third ∧
      claim.job.tenantId = "acme" ∧ claim.job.documentId = Sample.document) ∧
      ((Operation.commitJob claim Sample.second).perform Sample.store (fun _ => 5)
        Sample.claimedUpdate.db).1.isOk = true := by
    decide +kernel
  have present : ∃ job ∈ Sample.claimedUpdate.db.jobs, job.tenant = "acme" ∧
      job.documentId = Sample.document ∧ job.id = Sample.third := by
    decide +kernel
  have deletes : (Transition.of Sample.claimedUpdate.db Sample.delete).Deletes "acme"
      Sample.document := by
    refine ⟨rfl, .nothing, ?_⟩
    decide +kernel
  have deletion : Step Sample.claimedUpdate (.of Sample.claimedUpdate.db Sample.delete)
      Sample.deleted :=
    .of_call _ _ (by simp [Sample.delete, Call.instant, Operation.presented])
  have submits : Step Sample.deleted (.of Sample.deleted.db Sample.submitAgain)
      Sample.afterwards :=
    .of_call _ _ (by simp [Sample.submitAgain, Call.instant, Operation.presented])
  obtain ⟨claim, issued, ⟨id, tenant, document⟩, commits⟩ := flight
  obtain ⟨job, member, sameTenant, sameDocument, sameId⟩ := present
  obtain ⟨versions, payloads, claims⟩ := deletion_is_final ⟨rfl, rfl⟩ Sample.claimedUpdate_run
    deletion deletes (.single submits) Sample.afterwards_disciplined
  exact ⟨claim, issued, id, commits, versions,
    fun row rowMember about =>
      payloads job member sameTenant sameDocument row rowMember (about.trans sameId.symm),
    claims claim issued tenant document Sample.second Sample.store fun _ => 7⟩

end Crewos.Documents

import Crewos.Documents.Deletion
import Crewos.Foundation.Printing

/-! # Idempotent document submissions

A tenant's idempotency key stands for one job from its first use on. What a job
was submitted with stays in its row while the job and its document live and die. -/

namespace Crewos.Documents

open Foundation SQLiteDocumentStore

/-! ## Fingerprints -/

theorem flat_sourceRefField (request : DocumentIngestionRequest) :
    Json.Flat (sourceRefField request) := by
  unfold sourceRefField
  cases request.sourceRef with
  | none => exact .null
  | some source => exact .str source.value

theorem flat_payload (request : DocumentRequest) : ∀ field ∈ request.payload, Json.Flat field.2 := by
  intro field member
  cases request with
  | ingestion request =>
      rw [payload_ingestion] at member
      simp only [List.mem_cons, List.not_mem_nil, or_false] at member
      rcases member with rfl | rfl | rfl
      · exact .str _
      · exact flat_sourceRefField request
      · exact .str _
  | update request =>
      rw [payload_update] at member
      simp only [List.mem_cons, List.not_mem_nil, or_false] at member
      rcases member with rfl | rfl | rfl | rfl | rfl
      · exact .str _
      · exact .str _
      · exact .int _
      · exact flat_sourceRefField request.toDocumentIngestionRequest
      · exact .str _

theorem request_of_payload {left right : DocumentRequest}
    (operation : left.operation = right.operation) (payload : left.payload = right.payload) :
    left = right := by
  have leftRead := readJob_payload left {}
  rw [operation, payload, readJob_payload right {}] at leftRead
  cases leftRead
  rfl

theorem fingerprintText_inj {left right : DocumentRequest}
    (same : fingerprintText left.operation left.payload =
      fingerprintText right.operation right.payload) : left = right := by
  have chars := congrArg String.toList same
  simp only [fingerprintText, String.toList_append] at chars
  have objects : left.operation = right.operation ∧
      (Json.render Json.dense (.obj left.payload)).toList =
        (Json.render Json.dense (.obj right.payload)).toList := by
    cases leftOperation : left.operation <;> cases rightOperation : right.operation <;>
      simp [leftOperation, rightOperation, JobOperation.text] at chars ⊢ <;> exact chars
  exact request_of_payload objects.1 (Json.render_flat_inj (flat_payload left)
    (flat_payload right) (String.toList_inj.mp objects.2))

/-! ## What a row keeps -/

/-- The columns that say what a job was submitted with. -/
structure SameSubmission (before after : JobRow) : Prop where
  id : after.id = before.id
  tenant : after.tenant = before.tenant
  documentId : after.documentId = before.documentId
  keyHash : after.keyHash = before.keyHash
  fingerprint : after.fingerprint = before.fingerprint

theorem SameSubmission.refl (row : JobRow) : SameSubmission row row := ⟨rfl, rfl, rfl, rfl, rfl⟩

theorem SameSubmission.trans {first second third : JobRow} (left : SameSubmission first second)
    (right : SameSubmission second third) : SameSubmission first third :=
  ⟨right.id.trans left.id, right.tenant.trans left.tenant, right.documentId.trans left.documentId,
    right.keyHash.trans left.keyHash, right.fingerprint.trans left.fingerprint⟩

theorem RowChange.submission {store : SQLiteDocumentStore} {clock : Clock} {operation : Operation}
    {reply : Reply} {row after : JobRow} (change : RowChange store clock operation reply row after) :
    SameSubmission row after := by
  cases change <;> exact ⟨rfl, rfl, rfl, rfl, rfl⟩

/-! ## Submitting -/

section Submit

variable {store : SQLiteDocumentStore} {clock : Clock} {db : DocumentDb} {tenantId key : String}
  {raw : RawRequest} {operation : JobOperation} {options : ChunkingOptions}
  {documentId jobId : Uuid4} {request : DocumentRequest}

structure Accepted (tenantId key : String) (raw : RawRequest) (operation : JobOperation)
    (request : DocumentRequest) : Prop where
  key : Text.fullmatch keyChar 1 128 key = true
  request : raw.validate operation = .ok request
  tenant : tenantPattern tenantId = true

/-- The registered job of a key. -/
def registered (store : SQLiteDocumentStore) (db : DocumentDb) (tenantId key : String) :
    Option JobRow :=
  db.jobs.find? fun old => old.tenant = tenantId ∧ old.keyHash = store.sha256 key

theorem registered_some {row : JobRow} (found : registered store db tenantId key = some row) :
    row ∈ db.jobs ∧ row.tenant = tenantId ∧ row.keyHash = store.sha256 key := by
  have selected := List.find?_some found
  simp only [decide_eq_true_eq] at selected
  exact ⟨List.mem_of_find?_eq_some found, selected.1, selected.2⟩

theorem registered_none (missing : registered store db tenantId key = none) :
    ∀ row ∈ db.jobs, row.tenant = tenantId → row.keyHash ≠ store.sha256 key := by
  intro row member sameTenant sameKey
  simp only [registered, List.find?_eq_none, decide_eq_true_eq] at missing
  exact missing row member ⟨sameTenant, sameKey⟩

theorem perform_submit_used (accepted : Accepted tenantId key raw operation request) {old : JobRow}
    (used : registered store db tenantId key = some old) :
    (Operation.submitJob tenantId raw operation options key documentId jobId).perform store clock
        db =
      if old.fingerprint = store.sha256 (fingerprintText request.operation request.payload) then
        (.ok (.submission (job db old (clock 0)) true), db)
      else
        (.error (.documentJobConflict "Idempotency key reused with different input"), db) := by
  have passes : ¬true = false := by decide
  have print : store.sha256 (fingerprintText request.operation request.payload) =
      (store.newJob tenantId request options key (target request documentId) jobId
        (clock 0)).fingerprint := rfl
  have found : (db.jobs.find? fun row => row.tenant = tenantId ∧ row.keyHash =
      (store.newJob tenantId request options key (target request documentId) jobId
        (clock 0)).keyHash) = some old := used
  unfold Operation.perform
  simp only [Operation.body, submitJob, identity, accepted.key, accepted.tenant, accepted.request,
    raiseWhen_of_not _ passes, Outcome.ok_bind, found]
  rw [print]
  by_cases same : old.fingerprint = (store.newJob tenantId request options key
      (target request documentId) jobId (clock 0)).fingerprint
  · rw [if_pos same, raiseWhen_of_not _ (not_not.mpr same)]
    rfl
  · rw [if_neg same, raiseWhen_of _ same]
    rfl

theorem jobRow_append {row : JobRow} (tenant : row.tenant = tenantId)
    (fresh : ∀ old ∈ db.jobs, old.id ≠ row.id) :
    jobRow { db with jobs := db.jobs ++ [row] } row.id.text tenantId = .ok row := by
  have absent : (db.jobs.find? fun old => old.id.text = row.id.text ∧ old.tenant = tenantId) =
      none := by
    rw [List.find?_eq_none]
    intro old member selected
    simp only [decide_eq_true_eq] at selected
    exact fresh old member (Uuid4.ext_text selected.1)
  unfold jobRow
  simp only [List.find?_append, absent, Option.none_or]
  simp [tenant]

theorem perform_submit_unused (accepted : Accepted tenantId key raw operation request)
    (unused : registered store db tenantId key = none) (fresh : ∀ row ∈ db.jobs, row.id ≠ jobId) :
    (Operation.submitJob tenantId raw operation options key documentId jobId).perform store clock
        db =
      let row := store.newJob tenantId request options key (target request documentId) jobId
        (clock 0)
      let next := { db with jobs := db.jobs ++ [row] }
      (.ok (.submission (job next row (clock 1)) false), next) := by
  have passes : ¬true = false := by decide
  have missing : (db.jobs.find? fun row => row.tenant = tenantId ∧ row.keyHash =
      (store.newJob tenantId request options key (target request documentId) jobId
        (clock 0)).keyHash) = none := unused
  have absent : ¬∃ old ∈ db.jobs, old.id = jobId := by
    rintro ⟨old, member, same⟩
    exact fresh old member same
  have read : jobRow { db with jobs := db.jobs ++ [store.newJob tenantId request options key
      (target request documentId) jobId (clock 0)] } jobId.text tenantId =
        .ok (store.newJob tenantId request options key (target request documentId) jobId
          (clock 0)) :=
    @jobRow_append db tenantId (store.newJob tenantId request options key
      (target request documentId) jobId (clock 0)) rfl fresh
  unfold Operation.perform
  simp only [Operation.body, submitJob, identity, accepted.key, accepted.tenant, accepted.request,
    raiseWhen_of_not _ passes, Outcome.ok_bind, missing, raiseWhen_of_not _ absent, read]
  rfl

theorem perform_submit_ok {answer : DocumentJob} {replayed : Bool}
    (answered : ((Operation.submitJob tenantId raw operation options key documentId jobId).perform
      store clock db).1 = .ok (.submission answer replayed)) :
    ∃ request, Accepted tenantId key raw operation request ∧
      ((replayed = true ∧ ∃ old, registered store db tenantId key = some old ∧
          old.fingerprint = store.sha256 (fingerprintText request.operation request.payload)) ∨
        (replayed = false ∧ registered store db tenantId key = none ∧
          ∀ row ∈ db.jobs, row.id ≠ jobId)) := by
  unfold Operation.perform at answered
  split at answered
  · rename_i ran
    cases answered
    simp only [Operation.body, Outcome.map_eq_ok, Prod.exists, Prod.mk.injEq, submitJob, identity,
      Outcome.bind_eq_ok, raiseWhen_eq_ok, Bool.not_eq_false] at ran
    obtain ⟨_, _, _, ⟨_, keyed, request, valid, _, tenant, ok⟩, shape, rfl⟩ := ran
    cases shape
    refine ⟨request, ⟨keyed, valid, tenant⟩, ?_⟩
    split at ok
    · rename_i old found
      simp only [Outcome.bind_eq_ok, raiseWhen_eq_ok, Outcome.pure_eq_ok, Prod.mk.injEq] at ok
      obtain ⟨_, same, ⟨-, rfl⟩, -⟩ := ok
      exact .inl ⟨rfl, old, found, not_not.mp same⟩
    · rename_i missing
      simp only [Outcome.bind_eq_ok, raiseWhen_eq_ok, Outcome.pure_eq_ok, Prod.mk.injEq] at ok
      obtain ⟨_, absent, _, _, ⟨-, rfl⟩, -⟩ := ok
      exact .inr ⟨rfl, missing, fun row member same => absent ⟨row, member, same⟩⟩
  · cases answered

end Submit

/-! ## Histories -/

def Call.apply (call : Call) (db : DocumentDb) : DocumentDb :=
  (call.operation.perform call.store call.clock db).2

/-- The tables after a history of calls, whoever made them. -/
def DocumentDb.replay (db : DocumentDb) (calls : List Call) : DocumentDb :=
  calls.foldl (fun db call => call.apply db) db

theorem replay_append (db : DocumentDb) (past future : List Call) :
    db.replay (past ++ future) = (db.replay past).replay future := by
  simp [DocumentDb.replay, List.foldl_append]

theorem Call.origin (call : Call) {db : DocumentDb} (ids : db.WellFormed) :
    (call.apply db).WellFormed ∧
    (∀ row ∈ db.jobs, ∃ after ∈ (call.apply db).jobs, SameSubmission row after) ∧
    ∀ after ∈ (call.apply db).jobs, (∃ row ∈ db.jobs, SameSubmission row after) ∨
      ∃ tenantId raw operation options key documentId jobId request answer,
        call.operation = .submitJob tenantId raw operation options key documentId jobId ∧
        Accepted tenantId key raw operation request ∧
        registered call.store db tenantId key = none ∧
        after = call.store.newJob tenantId request options key (target request documentId) jobId
          (call.clock 0) ∧
        (call.operation.perform call.store call.clock db).1 =
          .ok (.submission answer false) := by
  cases performed : call.operation.perform call.store call.clock db with
  | mk answered next =>
      have applied : call.apply db = next := congrArg Prod.snd performed
      rw [applied]
      cases answered with
      | error error =>
          rw [perform_error performed]
          exact ⟨ids, fun row member => ⟨row, member, .refl row⟩,
            fun after member => .inl ⟨after, member, .refl after⟩⟩
      | ok reply =>
          have effect := Effect.of_perform ids _ _ performed
          refine ⟨effect.wellFormed ids, ?_, ?_⟩
          · intro row member
            obtain ⟨after, afterMember, change⟩ := effect.row_after member
            exact ⟨after, afterMember, change.submission⟩
          · intro after member
            obtain ⟨change, added, jobs, changes, adds⟩ := effect.jobs
            rw [jobs, List.mem_append] at member
            rcases member with old | new
            · obtain ⟨row, rowMember, rfl⟩ := List.mem_map.mp old
              exact .inl ⟨row, rowMember, (changes row rowMember).submission⟩
            · right
              cases call with
              | mk store operation clock =>
                  dsimp only at adds performed ⊢
                  cases adds with
                  | nothing => cases new
                  | @registered tenantId raw operation options key documentId jobId request job
                      valid fresh =>
                      obtain ⟨again, accepted, ⟨replays, _⟩ | ⟨-, unused, -⟩⟩ :=
                        perform_submit_ok (congrArg Prod.fst performed)
                      · cases replays
                      · cases accepted.request.symm.trans valid
                        exact ⟨tenantId, raw, operation, options, key, documentId, jobId, request,
                          job, rfl, accepted, unused, List.mem_singleton.mp new, rfl⟩

/-- At most one job for each tenant and key. -/
def DocumentDb.UniqueKeys (db : DocumentDb) : Prop :=
  ∀ left ∈ db.jobs, ∀ right ∈ db.jobs, left.tenant = right.tenant →
    left.keyHash = right.keyHash → left = right

theorem DocumentDb.UniqueKeys.step {db : DocumentDb} (call : Call) (ids : db.WellFormed)
    (unique : db.UniqueKeys) : (call.apply db).UniqueKeys := by
  obtain ⟨idsAfter, -, origin⟩ := call.origin ids
  intro left leftMember right rightMember sameTenant sameKey
  refine DocumentDb.eq_of_id idsAfter leftMember rightMember ?_
  rcases origin left leftMember with ⟨leftRow, leftOld, leftSame⟩ |
    ⟨tenantId, raw, operation, options, key, documentId, jobId, request, answer, calls, accepted,
      unused, rfl, -⟩
  · rcases origin right rightMember with ⟨rightRow, rightOld, rightSame⟩ |
      ⟨tenantId, raw, operation, options, key, documentId, jobId, request, answer, calls, accepted,
        unused, rfl, -⟩
    · have same := unique leftRow leftOld rightRow rightOld
        (by rw [← leftSame.tenant, ← rightSame.tenant, sameTenant])
        (by rw [← leftSame.keyHash, ← rightSame.keyHash, sameKey])
      rw [leftSame.id, rightSame.id, same]
    · exact absurd (leftSame.keyHash.symm.trans sameKey) (registered_none unused leftRow leftOld
        (leftSame.tenant.symm.trans sameTenant))
  · rcases origin right rightMember with ⟨rightRow, rightOld, rightSame⟩ |
      ⟨_, _, _, _, _, _, _, _, _, otherCalls, _, _, rfl, -⟩
    · exact absurd (rightSame.keyHash.symm.trans sameKey.symm) (registered_none unused rightRow
        rightOld (rightSame.tenant.symm.trans sameTenant.symm))
    · rw [calls] at otherCalls
      cases otherCalls
      rfl

theorem wellFormed_replay (past : List Call) : (DocumentDb.empty.replay past).WellFormed := by
  induction past using List.reverseRecOn with
  | nil => exact List.nodup_nil
  | append_singleton past call induction =>
      rw [replay_append]
      exact (call.origin induction).1

theorem uniqueKeys_replay (past : List Call) : (DocumentDb.empty.replay past).UniqueKeys := by
  induction past using List.reverseRecOn with
  | nil =>
      intro row member
      cases member
  | append_singleton past call induction =>
      rw [replay_append]
      exact .step call (wellFormed_replay past) induction

theorem submission_replay {db : DocumentDb} (ids : db.WellFormed) {row : JobRow}
    (member : row ∈ db.jobs) (future : List Call) :
    ∃ after ∈ (db.replay future).jobs, SameSubmission row after := by
  induction future generalizing db row with
  | nil => exact ⟨row, member, .refl row⟩
  | cons call future induction =>
      obtain ⟨idsAfter, stays, -⟩ := call.origin ids
      obtain ⟨next, nextMember, same⟩ := stays row member
      obtain ⟨after, afterMember, later⟩ := induction idsAfter nextMember
      exact ⟨after, afterMember, same.trans later⟩

/-- A call of this history submitted the request under the key and got the job. -/
def Submitted (past : List Call) (tenantId key : String) (request : DocumentRequest)
    (answer : DocumentJob) : Prop :=
  ∃ before call after raw operation options documentId jobId replayed,
    past = before ++ call :: after ∧
    call.operation = .submitJob tenantId raw operation options key documentId jobId ∧
    raw.validate operation = .ok request ∧
    (call.operation.perform call.store call.clock (DocumentDb.empty.replay before)).1 =
      .ok (.submission answer replayed)

theorem Submitted.append {past : List Call} {tenantId key : String} {request : DocumentRequest}
    {answer : DocumentJob} (submitted : Submitted past tenantId key request answer)
    (future : List Call) : Submitted (past ++ future) tenantId key request answer := by
  obtain ⟨before, call, after, raw, operation, options, documentId, jobId, replayed, rfl, calls,
    valid, answered⟩ := submitted
  exact ⟨before, call, after ++ future, raw, operation, options, documentId, jobId, replayed,
    by simp, calls, valid, answered⟩

section Histories

variable {sha : String → String} {past : List Call} {tenantId key : String}
  {request : DocumentRequest} {answer : DocumentJob}

theorem Submitted.registered (submitted : Submitted past tenantId key request answer)
    (shared : ∀ call ∈ past, call.store.sha256 = sha) :
    ∃ row ∈ (DocumentDb.empty.replay past).jobs, row.id = answer.jobId ∧
      row.documentId = answer.documentId ∧ row.tenant = tenantId ∧ row.keyHash = sha key ∧
      row.fingerprint = sha (fingerprintText request.operation request.payload) := by
  obtain ⟨before, call, after, raw, operation, options, documentId, jobId, replayed, rfl, calls,
    valid, answered⟩ := submitted
  have ids := wellFormed_replay before
  have hashes := shared call (by simp)
  obtain ⟨row, member, id, document, tenant, keyHash, fingerprint⟩ : ∃ row ∈
      (call.apply (DocumentDb.empty.replay before)).jobs, row.id = answer.jobId ∧
      row.documentId = answer.documentId ∧ row.tenant = tenantId ∧ row.keyHash = sha key ∧
      row.fingerprint = sha (fingerprintText request.operation request.payload) := by
    rw [Call.apply, calls]
    rw [calls] at answered
    obtain ⟨again, accepted, ⟨-, old, used, same⟩ | ⟨-, unused, fresh⟩⟩ :=
      perform_submit_ok answered
    · cases accepted.request.symm.trans valid
      rw [perform_submit_used accepted used, if_pos same] at answered ⊢
      cases answered
      obtain ⟨member, tenant, keyHash⟩ := registered_some used
      rw [hashes] at same keyHash
      exact ⟨old, member, rfl, rfl, tenant, keyHash, same⟩
    · cases accepted.request.symm.trans valid
      rw [perform_submit_unused accepted unused fresh] at answered ⊢
      cases answered
      exact ⟨_, List.mem_append_right _ (List.mem_singleton_self _), rfl, rfl, rfl,
        congrFun hashes key, congrFun hashes _⟩
  obtain ⟨last, lastMember, same⟩ := submission_replay (call.origin ids).1 member after
  refine ⟨last, ?_, same.id.trans id, same.documentId.trans document, same.tenant.trans tenant,
    same.keyHash.trans keyHash, same.fingerprint.trans fingerprint⟩
  rw [replay_append]
  exact lastMember

theorem keyed_submitted (past : List Call) (shared : ∀ call ∈ past, call.store.sha256 = sha) :
    ∀ row ∈ (DocumentDb.empty.replay past).jobs,
      ∃ key request answer, row.keyHash = sha key ∧
        Submitted past row.tenant key request answer := by
  induction past using List.reverseRecOn with
  | nil =>
      intro row member
      cases member
  | append_singleton past call induction =>
      have earlier := induction fun other there => shared other (by simp [there])
      intro after member
      rw [replay_append] at member
      rcases (call.origin (wellFormed_replay past)).2.2 after member with ⟨row, old, same⟩ |
        ⟨tenantId, raw, operation, options, key, documentId, jobId, request, answer, calls,
          accepted, unused, rfl, answered⟩
      · obtain ⟨key, request, answer, keyHash, submitted⟩ := earlier row old
        refine ⟨key, request, answer, same.keyHash.trans keyHash, ?_⟩
        rw [same.tenant]
        exact submitted.append [call]
      · exact ⟨key, request, answer, congrFun (shared call (by simp)) key,
          past, call, [], raw, operation, options, documentId, jobId, false, rfl, calls,
          accepted.request, answered⟩

theorem registered_of_mem {store : SQLiteDocumentStore} {db : DocumentDb} (unique : db.UniqueKeys)
    {row : JobRow} (member : row ∈ db.jobs) (keyHash : row.keyHash = store.sha256 key) :
    registered store db row.tenant key = some row := by
  cases found : registered store db row.tenant key with
  | none => exact absurd keyHash (registered_none found row member rfl)
  | some other =>
      obtain ⟨there, sameTenant, sameKey⟩ := registered_some found
      rw [unique other there row member sameTenant (sameKey.trans keyHash.symm)]

/-- A key stands for one job of its tenant: the request it was first used for
gets that job again, any other one is refused, and neither changes anything. An
unused key registers one job. -/
theorem document_submission_idempotent (injective : Function.Injective sha) (past : List Call)
    (shared : ∀ call ∈ past, call.store.sha256 = sha) :
    (DocumentDb.empty.replay past).UniqueKeys ∧
    ∀ store : SQLiteDocumentStore, store.sha256 = sha →
      ∀ clock tenantId raw operation options key documentId jobId request,
        Accepted tenantId key raw operation request →
        (∀ first job, Submitted past tenantId key first job →
          (request = first → ∃ current : DocumentJob, current.jobId = job.jobId ∧
            current.documentId = job.documentId ∧ current.tenantId = tenantId ∧
            (Operation.submitJob tenantId raw operation options key documentId jobId).perform
                store clock (DocumentDb.empty.replay past) =
              (.ok (.submission current true), DocumentDb.empty.replay past)) ∧
          (request ≠ first →
            (Operation.submitJob tenantId raw operation options key documentId jobId).perform
                store clock (DocumentDb.empty.replay past) =
              (.error (.documentJobConflict "Idempotency key reused with different input"),
                DocumentDb.empty.replay past))) ∧
        ((∀ first job, ¬Submitted past tenantId key first job) →
          (∀ row ∈ (DocumentDb.empty.replay past).jobs, row.id ≠ jobId) →
          ∃ (new : JobRow) (current : DocumentJob), new.state = .queued ∧ new.attempts = 0 ∧
            new.tenant = tenantId ∧ new.id = jobId ∧ current.jobId = jobId ∧
            new.documentId = target request documentId ∧ current.documentId = new.documentId ∧
            (Operation.submitJob tenantId raw operation options key documentId jobId).perform
                store clock (DocumentDb.empty.replay past) =
              (.ok (.submission current false), { DocumentDb.empty.replay past with
                jobs := (DocumentDb.empty.replay past).jobs ++ [new] })) := by
  have unique := uniqueKeys_replay past
  refine ⟨unique, ?_⟩
  intro store hashes clock tenantId raw operation options key documentId jobId request accepted
  refine ⟨?_, ?_⟩
  · intro first answer submitted
    obtain ⟨row, member, id, document, rfl, keyHash, fingerprint⟩ := submitted.registered shared
    have used : registered store (DocumentDb.empty.replay past) row.tenant key = some row :=
      registered_of_mem unique member (keyHash.trans (by rw [hashes]))
    have performed := @perform_submit_used store clock _ row.tenant key raw operation options
      documentId jobId request accepted row used
    refine ⟨?_, ?_⟩
    · rintro rfl
      rw [if_pos (fingerprint.trans (by rw [hashes]))] at performed
      exact ⟨_, id, document, rfl, performed⟩
    · intro different
      rw [if_neg ?_] at performed
      · exact performed
      · rw [fingerprint, hashes]
        intro same
        exact different (fingerprintText_inj (injective same)).symm
  · intro unknown fresh
    have unused : registered store (DocumentDb.empty.replay past) tenantId key = none := by
      by_contra taken
      obtain ⟨row, found⟩ := Option.ne_none_iff_exists'.mp taken
      obtain ⟨member, rfl, sameKey⟩ := registered_some found
      obtain ⟨other, first, answer, keyHash, submitted⟩ := keyed_submitted past shared row member
      rw [hashes, keyHash] at sameKey
      obtain rfl := injective sameKey
      exact unknown first answer submitted
    exact ⟨_, _, rfl, rfl, rfl, rfl, rfl, rfl, rfl, perform_submit_unused accepted unused fresh⟩

end Histories

namespace Sample

def gone : List Call := [submit, claim, commit, delete]

def title : TextField 256 := ⟨"Runbook", by decide +kernel, by decide +kernel⟩

def request : DocumentRequest :=
  .ingestion
    { content := [104, 105]
      title
      sourceRef := none
      size := by decide }

theorem source_accepted : Accepted "acme" "key" source .create request :=
  ⟨by decide +kernel, by decide +kernel, by decide +kernel⟩

def receipt : DocumentJob :=
  { jobId := job, tenantId := "acme", documentId := document, operation := .create,
    state := .queued, version := none, attempts := 0, errorCode := none,
    publicationConfirmed := false, leaseActive := false, resultAvailable := false }

theorem gone_submitted : Submitted gone "acme" "key" request receipt :=
  ⟨[], submit, [claim, commit, delete], source, .create, default, document, job, false, rfl, rfl,
    source_accepted.request, by decide +kernel⟩

end Sample

/-- The job whose document is gone is answered again, whatever options come along. -/
theorem document_submission_idempotent_gone :
    ∃ current : DocumentJob, current.jobId = Sample.job ∧ current.documentId = Sample.document ∧
      current.tenantId = "acme" ∧
      (Operation.submitJob "acme" Sample.source .create { chunkSize := 50, overlap := 0 } "key"
          Sample.job Sample.document).perform Sample.store (fun _ => 9)
          (DocumentDb.empty.replay Sample.gone) =
        (.ok (.submission current true), DocumentDb.empty.replay Sample.gone) := by
  have shared : ∀ call ∈ Sample.gone, call.store.sha256 = id := by
    intro call member
    simp only [Sample.gone, List.mem_cons, List.not_mem_nil, or_false] at member
    rcases member with rfl | rfl | rfl | rfl <;> rfl
  obtain ⟨-, answers⟩ :=
    document_submission_idempotent Function.injective_id Sample.gone shared
  exact ((answers Sample.store rfl (fun _ => 9) "acme" Sample.source .create
    { chunkSize := 50, overlap := 0 } "key" Sample.job Sample.document Sample.request
    Sample.source_accepted).1 Sample.request Sample.receipt Sample.gone_submitted).1 rfl

end Crewos.Documents

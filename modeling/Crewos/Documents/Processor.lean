import Crewos.Documents.Coordinator
import Crewos.Documents.JobFencing

/-! # The document job processor

One run of `process_document_job`, among the calls of other clients. Whatever
happens outside the store is a parameter: each evaluation, each log line and each
store transaction may raise, a transaction also after it was committed. -/

namespace Crewos.Documents

open Foundation SQLiteDocumentStore

/-! ## Exceptions -/

/-- What can be raised, as far as the processor tells it apart. -/
inductive Raised where
  | policyDenied
  | document (error : DocumentError)
  | documentParse
  | chunkingLimitExceeded
  | exception
  | baseException
  deriving DecidableEq, Repr

/-- Whether `except Exception` catches it. -/
def Raised.isException : Raised → Bool
  | .baseException => false
  | _ => true

/-- The error code a failed attempt is recorded with. -/
def Raised.code : Raised → String
  | .policyDenied => "PermissionDenied"
  | .document (.documentVersionConflict _) => "VersionConflict"
  | .document (.documentNotFound _) => "NotFound"
  | .documentParse | .document .validationError => "InvalidDocument"
  | .chunkingLimitExceeded => "ResourceLimit"
  | .document (.documentJobConflict _) => "AttemptLost"
  | _ => "ProcessingFailed"

/-! ## Transactions among others -/

/-- A transaction, and whether the processor ran it. -/
structure Entry where
  own : Bool
  transition : Transition

structure Scene where
  db : DocumentDb
  history : List Entry

def Scene.step (scene : Scene) (own : Bool) (call : Call) : Scene :=
  { db := (Transition.of scene.db call).after
    history := scene.history ++ [{ own, transition := .of scene.db call }] }

def Scene.others (scene : Scene) (calls : List Call) : Scene :=
  calls.foldl (fun scene call => scene.step false call) scene

/-- What goes wrong around a transaction: nothing, or something is raised before
it, or once it is over. -/
inductive Fault where
  | nothing
  | before (raised : Raised)
  | after (raised : Raised)

/-- One access to the store: what other clients do first, and how it goes. -/
structure Access where
  others : List Call
  clock : Clock
  fault : Fault

def Access.run (access : Access) (store : SQLiteDocumentStore) (operation : Operation)
    (scene : Scene) : Except Raised Reply × Scene :=
  let scene := scene.others access.others
  let call : Call := { store, operation, clock := access.clock }
  match access.fault with
  | .nothing =>
      match (Transition.of scene.db call).reply with
      | .ok reply => (.ok reply, scene.step true call)
      | .error error => (.error (.document error), scene.step true call)
  | .before raised => (.error raised, scene)
  | .after raised => (.error raised, scene.step true call)

/-! ## Enforcement and logging -/

inductive PolicyEffect where
  | allow
  | deny
  deriving DecidableEq, Repr

/-- `PolicyEnforcedExecutor.execute`: `policy` is what the evaluation came to and
`logged` how its log line went. -/
def execute (policy : Except Raised PolicyEffect) (logged : Except Raised Unit)
    (operation : Scene → Except Raised α × Scene) (scene : Scene) : Except Raised α × Scene :=
  match policy, logged with
  | .error .baseException, _ => (.error .baseException, scene)
  | .error _, .error raised => (.error raised, scene)
  -- A `PolicyEvaluationError`.
  | .error _, .ok () => (.error .exception, scene)
  | .ok _, .error raised => (.error raised, scene)
  | .ok .deny, .ok () => (.error .policyDenied, scene)
  | .ok .allow, .ok () => operation scene

/-- `_record_lifecycle`: a log line before the operation and one after it. -/
def recordLifecycle (started finished : Except Raised Unit)
    (operation : Scene → Except Raised α × Scene) (scene : Scene) : Except Raised α × Scene :=
  match started with
  | .error raised => (.error raised, scene)
  | .ok () =>
      match operation scene, finished with
      | (.ok saved, scene), .ok () => (.ok saved, scene)
      | (.ok _, scene), .error raised => (.error raised, scene)
      | (.error .baseException, scene), _ => (.error .baseException, scene)
      | (.error raised, scene), .ok () => (.error raised, scene)
      | (.error _, scene), .error raised => (.error raised, scene)

/-! ## Processing -/

/-- All that happens around one run, and the identifiers it draws. -/
structure Surroundings where
  token : String
  documentId : Uuid4
  claiming : Access
  building : Except Raised Unit
  policy : Except Raised PolicyEffect
  evaluated : Except Raised Unit
  started : Except Raised Unit
  reading : Access
  prepared : Except Raised Prepared
  committing : Access
  finished : Except Raised Unit
  failing : Access
  reporting : Access

def Surroundings.concurrent (surroundings : Surroundings) : List Call :=
  surroundings.reading.others ++ surroundings.committing.others ++
    surroundings.failing.others ++ surroundings.reporting.others

section Processor

variable (store : SQLiteDocumentStore) (surroundings : Surroundings)

/-- `_ClaimedDocumentStore.create_version` -/
def createClaimed (claim : DocumentJobClaim) (record : Except DocumentError StoredDocumentVersion)
    (scene : Scene) : Except Raised Unit × Scene :=
  match record with
  | .error error => (.error (.document error), scene)
  | .ok record =>
      match surroundings.committing.run store (.commitJob claim record) scene with
      | (.ok _, scene) => (.ok (), scene)
      | (.error raised, scene) => (.error raised, scene)

/-- `DocumentProcessingCoordinator.process` over the claimed store. -/
def processClaimed (tenantId : String) (claim : DocumentJobClaim) (scene : Scene) :
    Except Raised Unit × Scene :=
  match surroundings.prepared with
  | .error raised => (.error raised, scene)
  | .ok prepared =>
      createClaimed store surroundings claim
        (DocumentProcessingCoordinator.process prepared tenantId surroundings.documentId) scene

/-- `DocumentProcessingCoordinator.update` over the claimed store. -/
def updateClaimed (tenantId : String) (claim : DocumentJobClaim) (request : DocumentUpdateRequest)
    (scene : Scene) : Except Raised Unit × Scene :=
  match surroundings.reading.run store (.get tenantId request.documentId none) scene with
  | (.error raised, scene) => (.error raised, scene)
  | (.ok (.record latest), scene) =>
      if latest.version ≠ request.expectedVersion then
        (.error (.document (.documentVersionConflict
          "Document has changed since the expected revision")), scene)
      else
        match surroundings.prepared with
        | .error raised => (.error raised, scene)
        | .ok prepared =>
            createClaimed store surroundings claim
              (DocumentProcessingCoordinator.prepareAndStore prepared tenantId request.documentId
                (request.expectedVersion + 1)) scene
  -- `get` returns nothing else.
  | (.ok _, scene) => (.error .exception, scene)

def ingestOrUpdate (tenantId : String) (claim : DocumentJobClaim) (scene : Scene) :
    Except Raised Unit × Scene :=
  execute surroundings.policy surroundings.evaluated
    (recordLifecycle surroundings.started surroundings.finished fun scene =>
      match claim.job.operation, claim.request with
      | .create, _ => processClaimed store surroundings tenantId claim scene
      | .update, .update request => updateClaimed store surroundings tenantId claim request scene
      -- The request has no target to validate.
      | .update, .ingestion _ => (.error (.document .validationError), scene)) scene

def reportJob (jobId tenantId : String) (scene : Scene) : Except Raised DocumentJob × Scene :=
  match surroundings.reporting.run store (.getJob jobId tenantId) scene with
  | (.error raised, scene) => (.error raised, scene)
  | (.ok (.job job), scene) => (.ok job, scene)
  -- `get_job` returns nothing else.
  | (.ok _, scene) => (.error .exception, scene)

def takeJob (jobId tenantId : String) (db : DocumentDb) : Except Raised Reply × Scene :=
  surroundings.claiming.run store (.claimJob jobId tenantId surroundings.token)
    { db, history := [] }

def processDocumentJob (jobId tenantId : String) (db : DocumentDb) :
    Except Raised DocumentJob × Scene :=
  match takeJob store surroundings jobId tenantId db with
  | (.error raised, scene) => (.error raised, scene)
  | (.ok (.claim (some claim)), scene) =>
      match surroundings.building with
      | .error raised => (.error raised, scene)
      | .ok () =>
          match ingestOrUpdate store surroundings tenantId claim scene with
          | (.ok (), scene) => reportJob store surroundings jobId tenantId scene
          | (.error raised, scene) =>
              if raised.isException then
                match surroundings.failing.run store (.failJob claim raised.code) scene with
                | (.ok _, scene) => reportJob store surroundings jobId tenantId scene
                | (.error raised, scene) => (.error raised, scene)
              else (.error raised, scene)
  | (.ok _, scene) => reportJob store surroundings jobId tenantId scene

end Processor

/-! ## What can happen to a claimed job -/

/-- The call does not come with this token: tokens are drawn fresh, and a claim
is known to its own client only. -/
def Operation.Foreign (token : String) (operation : Operation) : Prop :=
  operation.token ≠ some token ∧ ∀ claim, operation.presented = some claim → claim.token ≠ token

/-- The operations that end the attempt of somebody else. -/
def Operation.TakesOver (claim : DocumentJobClaim) : Operation → Prop
  | .claimJob jobId tenantId _ | .retryJob jobId tenantId =>
      jobId = claim.job.jobId.text ∧ tenantId = claim.job.tenantId
  | .delete tenantId documentId =>
      tenantId = claim.job.tenantId ∧ documentId = claim.job.documentId
  | _ => False

def Entry.Appends (entry : Entry) : Prop :=
  entry.own = true ∧ ∃ saved : StoredDocumentVersion,
    entry.transition.after.versions = entry.transition.before.versions ++ [.of saved]

def Appended (history : List Entry) : Prop := ∃ entry ∈ history, entry.Appends

/-- Another client ended the attempt: it claimed or retried the job, or deleted
its document. -/
def TakenOver (claim : DocumentJobClaim) (history : List Entry) : Prop :=
  ∃ entry ∈ history, entry.own = false ∧ entry.transition.call.operation.TakesOver claim ∧
    (∃ row ∈ entry.transition.before.jobs, row.id = claim.job.jobId ∧ Current claim row) ∧
    ∃ row ∈ entry.transition.after.jobs, row.id = claim.job.jobId ∧ ¬Current claim row

def FailureRecorded (claim : DocumentJobClaim) (errorCode : String) (history : List Entry) : Prop :=
  ∃ entry ∈ history, entry.own = true ∧
    (∃ row ∈ entry.transition.before.jobs, row.id = claim.job.jobId ∧ Current claim row) ∧
    ∃ row ∈ entry.transition.after.jobs, row.id = claim.job.jobId ∧ row.state = .failed ∧
      row.error = some errorCode ∧ row.attempts = claim.job.attempts

/-- The row of a claimed job, seen from the claim. -/
structure Standing (claim : DocumentJobClaim) (appended : Prop) (row : JobRow) : Prop where
  id : row.id = claim.job.jobId
  tenant : row.tenant = claim.job.tenantId
  document : row.documentId = claim.job.documentId
  attempts : claim.job.attempts ≤ row.attempts
  held : row.token = some claim.token → row.attempts = claim.job.attempts
  free : row.attempts = claim.job.attempts → row.token = none ∨ row.token = some claim.token
  succeeded : row.state = .succeeded ∧ row.attempts = claim.job.attempts ↔ appended

section Rows

variable {store : SQLiteDocumentStore} {clock : Clock} {operation : Operation} {reply : Reply}
  {row after : JobRow} {claim : DocumentJobClaim} {appended : Prop}

theorem Standing.stopped (standing : Standing claim appended row)
    (unfinished : row.state ≠ .succeeded) {next : JobRow} (id : next.id = row.id)
    (tenant : next.tenant = row.tenant) (document : next.documentId = row.documentId)
    (attempts : next.attempts = row.attempts) (token : next.token = none)
    (open_ : next.state ≠ .succeeded) : Standing claim appended next where
  id := id.trans standing.id
  tenant := tenant.trans standing.tenant
  document := document.trans standing.document
  attempts := attempts ▸ standing.attempts
  held := fun held => by simp [token] at held
  free := fun _ => .inl token
  succeeded := by
    rw [← standing.succeeded]
    exact ⟨fun done => absurd done.1 open_, fun done => absurd done.1 unfinished⟩

theorem not_succeeded_of_idle {now : Time} (idle : Idle row now) : row.state ≠ .succeeded := by
  rcases idle with queued | ⟨running, -⟩
  · simp [queued]
  · simp [running]

theorem Standing.foreign (standing : Standing claim appended row)
    (change : RowChange store clock operation reply row after)
    (foreign : operation.Foreign claim.token) : Standing claim appended after := by
  obtain ⟨undrawn, unknown⟩ := foreign
  cases change with
  | kept => exact standing
  | limited idle =>
      exact standing.stopped (not_succeeded_of_idle idle) rfl rfl rfl rfl rfl
        (by simp [JobRow.limited])
  | @claimed _ started idle =>
      have later : ¬row.attempts + 1 = claim.job.attempts := by
        have := standing.attempts
        omega
      exact
        { id := standing.id
          tenant := standing.tenant
          document := standing.document
          attempts := le_trans standing.attempts (Nat.le_succ _)
          held := fun held => absurd held undrawn
          free := fun same => absurd same later
          succeeded := by
            rw [← standing.succeeded]
            exact ⟨fun done => absurd done.2 later,
              fun done => absurd done.1 (not_succeeded_of_idle idle)⟩ }
  | @committed _ other record saved owned =>
      -- A row with our number of attempts is nobody else's.
      have later : row.attempts ≠ claim.job.attempts := by
        intro same
        rcases standing.free same with none_ | ours
        · rw [owned.held] at none_
          cases none_
        · rw [owned.held] at ours
          exact unknown other rfl (Option.some.inj ours)
      exact
        { id := standing.id
          tenant := standing.tenant
          document := standing.document
          attempts := standing.attempts
          held := fun held => by cases held
          free := fun same => absurd same later
          succeeded := by
            rw [← standing.succeeded]
            exact ⟨fun done => absurd done.2 later, fun done => absurd done.2 later⟩ }
  | failed selected =>
      simp only [failing, decide_eq_true_eq] at selected
      have unfinished : row.state ≠ .succeeded := by simp [selected.2.2.2]
      exact standing.stopped unfinished rfl rfl rfl rfl rfl (by simp [JobRow.failed])
  | retried unfinished =>
      exact standing.stopped unfinished rfl rfl rfl rfl rfl (by simp [JobRow.requeued])
  | published =>
      exact ⟨standing.id, standing.tenant, standing.document, standing.attempts, standing.held,
        standing.free, standing.succeeded⟩
  | fenced =>
      by_cases done : row.state = .succeeded
      · refine ⟨standing.id, standing.tenant, standing.document, standing.attempts,
          (by simp [JobRow.fenced]), fun _ => .inl rfl, ?_⟩
        rw [← standing.succeeded]
        simp [JobRow.fenced, done]
      · refine standing.stopped done rfl rfl rfl rfl rfl ?_
        simp [JobRow.fenced, done]

theorem RowChange.takesOver (change : RowChange store clock operation reply row after)
    (foreign : operation.Foreign claim.token) (standing : Standing claim appended row)
    (current : Current claim row) (ended : ¬Current claim after) : operation.TakesOver claim := by
  obtain ⟨running, held⟩ := current
  cases change with
  | kept => exact absurd ⟨running, held⟩ ended
  | limited => exact ⟨congrArg Uuid4.text standing.id, standing.tenant⟩
  | claimed => exact ⟨congrArg Uuid4.text standing.id, standing.tenant⟩
  | @committed _ other _ _ owned =>
      refine absurd ?_ (foreign.2 other rfl)
      exact Option.some.inj (owned.held.symm.trans held)
  | @failed _ other _ selected =>
      simp only [failing, decide_eq_true_eq] at selected
      refine absurd ?_ (foreign.2 other rfl)
      exact Option.some.inj (selected.2.2.1.symm.trans held)
  | retried => exact ⟨congrArg Uuid4.text standing.id, standing.tenant⟩
  | published => exact absurd ⟨running, held⟩ ended
  | fenced => exact ⟨standing.tenant, standing.document⟩

end Rows

/-! ## One transaction -/

theorem RowChange.succeeded {store : SQLiteDocumentStore} {clock : Clock} {operation : Operation}
    {reply : Reply} {row after : JobRow}
    (change : RowChange store clock operation reply row after) (done : row.state = .succeeded) :
    after.state = .succeeded ∧ after.version = row.version := by
  cases change with
  | kept => exact ⟨done, rfl⟩
  | limited idle => exact absurd done (not_succeeded_of_idle idle)
  | claimed idle => exact absurd done (not_succeeded_of_idle idle)
  | committed owned => simp [owned.running] at done
  | failed selected =>
      simp only [failing, decide_eq_true_eq] at selected
      simp [selected.2.2.2] at done
  | retried unfinished => exact absurd done unfinished
  | published => exact ⟨done, rfl⟩
  | fenced => exact ⟨by simp [JobRow.fenced, done], rfl⟩

theorem Transition.of_effect {db : DocumentDb} (ids : db.WellFormed) (call : Call) :
    (∃ error, (Transition.of db call).reply = .error error ∧ (Transition.of db call).after = db) ∨
      ∃ reply, (Transition.of db call).reply = .ok reply ∧
        Effect call.store call.clock db call.operation reply (Transition.of db call).after := by
  cases performed : call.operation.perform call.store call.clock db with
  | mk answered next =>
      have replied : (Transition.of db call).reply = answered := congrArg Prod.fst performed
      have reached : (Transition.of db call).after = next := congrArg Prod.snd performed
      rw [replied, reached]
      cases answered with
      | error error => exact .inl ⟨error, rfl, perform_error performed⟩
      | ok reply => exact .inr ⟨reply, rfl, Effect.of_perform ids _ _ performed⟩

def Entry.Lasting (entry : Entry) : Prop :=
  ∀ row ∈ entry.transition.before.jobs, row.state = .succeeded →
    ∃ after ∈ entry.transition.after.jobs, after.id = row.id ∧ after.state = .succeeded ∧
      after.version = row.version

structure Scene.Valid (scene : Scene) : Prop where
  ids : scene.db.WellFormed
  lasting : ∀ entry ∈ scene.history, entry.Lasting

theorem Scene.Valid.step {scene : Scene} (valid : scene.Valid) (own : Bool) (call : Call) :
    (scene.step own call).Valid := by
  refine ⟨?_, ?_⟩
  · rcases Transition.of_effect valid.ids call with ⟨_, _, same⟩ | ⟨_, _, effect⟩
    · rw [Scene.step, same]
      exact valid.ids
    · exact effect.wellFormed valid.ids
  · intro entry member
    rw [Scene.step, List.mem_append, List.mem_singleton] at member
    rcases member with old | rfl
    · exact valid.lasting entry old
    · intro row there done
      rcases Transition.of_effect valid.ids call with ⟨_, _, same⟩ | ⟨_, _, effect⟩
      · refine ⟨row, ?_, rfl, done, rfl⟩
        rw [same]
        exact there
      · obtain ⟨after, afterMember, change⟩ := effect.row_after there
        obtain ⟨stays, version⟩ := change.succeeded done
        exact ⟨after, afterMember, change.columns.1, stays, version⟩

/-- The claimed job while the attempt is going on: it runs, or the snapshot is
stored, or somebody else took it over. -/
structure Underway (claim : DocumentJobClaim) (scene : Scene) : Prop where
  valid : scene.Valid
  row : ∃ row ∈ scene.db.jobs, Standing claim (Appended scene.history) row ∧
    (Current claim row ∨ Appended scene.history ∨ TakenOver claim scene.history)

section Steps

variable {claim : DocumentJobClaim} {scene : Scene}

theorem appended_step (own : Bool) (call : Call) : Appended (scene.step own call).history ↔
    Appended scene.history ∨ ({ own, transition := .of scene.db call } : Entry).Appends := by
  simp [Appended, Scene.step, or_and_right, exists_or]

theorem TakenOver.step (taken : TakenOver claim scene.history) (own : Bool) (call : Call) :
    TakenOver claim (scene.step own call).history := by
  obtain ⟨entry, member, rest⟩ := taken
  exact ⟨entry, List.mem_append_left _ member, rest⟩

theorem appended_foreign (call : Call) :
    Appended (scene.step false call).history ↔ Appended scene.history := by
  rw [appended_step]
  refine or_iff_left ?_
  rintro ⟨own, -⟩
  cases own

theorem appended_quiet {call : Call}
    (quiet : (Transition.of scene.db call).after.versions = scene.db.versions) :
    Appended (scene.step true call).history ↔ Appended scene.history := by
  rw [appended_step]
  refine or_iff_left ?_
  rintro ⟨-, saved, grown⟩
  have same : scene.db.versions = scene.db.versions ++ [.of saved] := quiet.symm.trans grown
  simp at same

theorem Underway.foreign (underway : Underway claim scene) {call : Call}
    (foreign : call.operation.Foreign claim.token) : Underway claim (scene.step false call) := by
  obtain ⟨row, member, standing, status⟩ := underway.row
  refine ⟨underway.valid.step false call, ?_⟩
  rw [appended_foreign]
  rcases Transition.of_effect underway.valid.ids call with ⟨_, _, same⟩ | ⟨_, _, effect⟩
  · refine ⟨row, ?_, standing, ?_⟩
    · rw [Scene.step, same]
      exact member
    · exact status.imp_right (Or.imp_right fun taken => taken.step false call)
  · obtain ⟨after, afterMember, change⟩ := effect.row_after member
    refine ⟨after, afterMember, standing.foreign change foreign, ?_⟩
    rcases status with current | appended | taken
    · by_cases still : Current claim after
      · exact .inl still
      · have takes := change.takesOver foreign standing current still
        exact .inr (.inr ⟨_, List.mem_append_right _ (List.mem_singleton_self _), rfl, takes,
          ⟨row, member, standing.id, current⟩, after, afterMember,
          change.columns.1.trans standing.id, still⟩)
    · exact .inr (.inl appended)
    · exact .inr (.inr (taken.step false call))

theorem Underway.others (underway : Underway claim scene) {calls : List Call}
    (foreign : ∀ call ∈ calls, call.operation.Foreign claim.token) :
    Underway claim (scene.others calls) := by
  induction calls generalizing scene with
  | nil => exact underway
  | cons call calls induction =>
      exact induction (underway.foreign (foreign call List.mem_cons_self))
        fun other member => foreign other (List.mem_cons_of_mem _ member)

theorem Scene.Valid.others (valid : scene.Valid) (calls : List Call) :
    (scene.others calls).Valid := by
  induction calls generalizing scene with
  | nil => exact valid
  | cons call calls induction => exact induction (valid.step false call)

theorem appended_others (calls : List Call) :
    Appended (scene.others calls).history ↔ Appended scene.history := by
  induction calls generalizing scene with
  | nil => exact Iff.rfl
  | cons call calls induction => exact induction.trans (appended_foreign call)

theorem Underway.unchanged (underway : Underway claim scene) {call : Call}
    (same : (Transition.of scene.db call).after = scene.db) :
    Underway claim (scene.step true call) := by
  obtain ⟨row, member, standing, status⟩ := underway.row
  refine ⟨underway.valid.step true call, row, ?_, ?_⟩
  · rw [Scene.step, same]
    exact member
  · rw [appended_quiet (by rw [same])]
    exact ⟨standing, status.imp_right (Or.imp_right fun taken => taken.step true call)⟩

end Steps

/-! ## The processor's own accesses -/

section Accesses

variable {store : SQLiteDocumentStore} {access : Access} {operation : Operation} {scene : Scene}
  {claim : DocumentJobClaim}

def Access.call (access : Access) (store : SQLiteDocumentStore) (operation : Operation) : Call :=
  { store, operation, clock := access.clock }

theorem Access.run_cases (access : Access) (store : SQLiteDocumentStore) (operation : Operation)
    (scene : Scene) :
    (∃ raised, access.run store operation scene =
      (.error raised, scene.others access.others)) ∨
    (∃ raised, access.run store operation scene =
      (.error raised, (scene.others access.others).step true (access.call store operation))) ∨
    ∃ reply, access.run store operation scene =
        (.ok reply, (scene.others access.others).step true (access.call store operation)) ∧
      (Transition.of (scene.others access.others).db (access.call store operation)).reply =
        .ok reply := by
  unfold Access.run
  cases access.fault with
  | before raised => exact .inl ⟨raised, rfl⟩
  | after raised => exact .inr (.inl ⟨raised, rfl⟩)
  | nothing =>
      dsimp only
      split
      · rename_i reply replied
        exact .inr (.inr ⟨reply, rfl, replied⟩)
      · rename_i error _
        exact .inr (.inl ⟨.document error, rfl⟩)

def Operation.Reads : Operation → Prop
  | .get _ _ _ | .getJob _ _ => True
  | _ => False

theorem Operation.Reads.unchanged (reads : operation.Reads) (db : DocumentDb) (clock : Clock) :
    (operation.perform store clock db).2 = db := by
  unfold Operation.perform
  cases ran : operation.body store clock db with
  | error => rfl
  | ok out =>
      obtain ⟨reply, next⟩ := out
      cases operation <;> simp only [Operation.Reads] at reads
      case getJob =>
        simp only [Operation.body, SQLiteDocumentStore.getJob, Outcome.map_eq_ok,
          Outcome.bind_eq_ok, Outcome.pure_eq_ok, Prod.exists, Prod.mk.injEq] at ran
        obtain ⟨_, _, ⟨_, _, -, rfl⟩, -, rfl⟩ := ran
        rfl
      case get =>
        simp only [Operation.body, SQLiteDocumentStore.get, Outcome.map_eq_ok,
          Outcome.bind_eq_ok, Prod.exists, Prod.mk.injEq] at ran
        obtain ⟨_, _, ⟨_, _, _, _, ok⟩, -, rfl⟩ := ran
        split at ok
        · simp only [Outcome.bind_eq_ok, Outcome.pure_eq_ok, Prod.mk.injEq] at ok
          obtain ⟨_, _, -, rfl⟩ := ok
          rfl
        · simp at ok

theorem Underway.read (underway : Underway claim scene) (reads : operation.Reads)
    (foreign : ∀ call ∈ access.others, call.operation.Foreign claim.token) :
    Underway claim (access.run store operation scene).2 := by
  have reached := underway.others foreign
  have own : Underway claim
      ((scene.others access.others).step true (access.call store operation)) :=
    reached.unchanged (reads.unchanged _ access.clock)
  rcases access.run_cases store operation scene with ⟨_, ran⟩ | ⟨_, ran⟩ | ⟨_, ran, -⟩ <;> rw [ran]
  · exact reached
  · exact own
  · exact own

/-- Committing stores the snapshot of the attempt, or changes nothing. -/
theorem Underway.commitStep (underway : Underway claim scene) {call : Call}
    {record : StoredDocumentVersion} (commits : call.operation = .commitJob claim record) :
    Underway claim (scene.step true call) ∧
      ∀ reply, (Transition.of scene.db call).reply = .ok reply →
        Appended (scene.step true call).history := by
  rcases Transition.of_effect underway.valid.ids call with ⟨_, failed, same⟩ | ⟨reply, _, effect⟩
  · refine ⟨underway.unchanged same, ?_⟩
    intro _ replied
    rw [failed] at replied
    cases replied
  · rw [commits] at effect
    have appended : Appended (scene.step true call).history := by
      rw [appended_step]
      right
      have versions := effect.versions
      generalize grown_eq : (Transition.of scene.db call).after.versions = grown at versions
      cases versions with
      | kept quiet => exact absurd trivial quiet
      | @committed _ _ saved => exact ⟨rfl, saved, grown_eq⟩
    refine ⟨⟨underway.valid.step true call, ?_⟩, fun _ _ => appended⟩
    obtain ⟨row, member, standing, -⟩ := underway.row
    obtain ⟨after, afterMember, change⟩ := effect.row_after member
    refine ⟨after, afterMember, ?_, .inr (.inl appended)⟩
    cases change with
    | kept spared => exact absurd standing.id spared
    | committed owned =>
        exact
          { id := standing.id
            tenant := standing.tenant
            document := standing.document
            attempts := standing.attempts
            held := fun _ => standing.held owned.held
            free := fun _ => .inl rfl
            succeeded := ⟨fun _ => appended, fun _ => ⟨rfl, standing.held owned.held⟩⟩ }

theorem Underway.commit (underway : Underway claim scene) (record : StoredDocumentVersion)
    (foreign : ∀ call ∈ access.others, call.operation.Foreign claim.token) :
    Underway claim (access.run store (.commitJob claim record) scene).2 ∧
      ∀ reply, (access.run store (.commitJob claim record) scene).1 = .ok reply →
        Appended (access.run store (.commitJob claim record) scene).2.history := by
  have reached := underway.others foreign
  have committing : (access.call store (.commitJob claim record)).operation =
    .commitJob claim record := rfl
  obtain ⟨own, appends⟩ := reached.commitStep committing
  rcases access.run_cases store (.commitJob claim record) scene with
    ⟨_, ran⟩ | ⟨_, ran⟩ | ⟨reply, ran, replied⟩ <;> rw [ran]
  · exact ⟨reached, fun _ returned => by cases returned⟩
  · exact ⟨own, fun _ returned => by cases returned⟩
  · exact ⟨own, fun _ _ => appends reply replied⟩

/-- The attempt is over: its snapshot is stored, somebody else took the job
over, or it failed for the reason that is recorded. -/
structure Resolved (claim : DocumentJobClaim) (errorCode : String) (scene : Scene) : Prop where
  valid : scene.Valid
  row : ∃ row ∈ scene.db.jobs, Standing claim (Appended scene.history) row ∧ ¬Current claim row
  outcome : Appended scene.history ∨ TakenOver claim scene.history ∨
    FailureRecorded claim errorCode scene.history

theorem Underway.failStep (underway : Underway claim scene) {call : Call} {errorCode : String}
    (fails : call.operation = .failJob claim errorCode) {reply : Reply}
    (replied : (Transition.of scene.db call).reply = .ok reply) :
    Resolved claim errorCode (scene.step true call) := by
  rcases Transition.of_effect underway.valid.ids call with ⟨_, failed, -⟩ | ⟨_, -, effect⟩
  · rw [failed] at replied
    cases replied
  · rw [fails] at effect
    have quiet : (Transition.of scene.db call).after.versions = scene.db.versions := by
      have versions := effect.versions
      generalize (Transition.of scene.db call).after.versions = same at versions
      cases versions
      rfl
    obtain ⟨row, member, standing, status⟩ := underway.row
    obtain ⟨after, afterMember, change⟩ := effect.row_after member
    cases change with
    | kept spared =>
        have lost : ¬Current claim row := by
          rintro ⟨running, held⟩
          refine spared ?_
          simp only [Writes, failing, decide_eq_true_eq]
          exact ⟨standing.id, standing.tenant, held, running⟩
        refine ⟨underway.valid.step true call, ⟨row, afterMember, ?_, lost⟩, ?_⟩
        · rw [appended_quiet quiet]
          exact standing
        · rw [appended_quiet quiet]
          rcases status with current | appended | taken
          · exact absurd current lost
          · exact .inl appended
          · exact .inr (.inl (taken.step true call))
    | failed selected =>
        simp only [failing, decide_eq_true_eq] at selected
        obtain ⟨-, -, held, running⟩ := selected
        have unfinished : row.state ≠ .succeeded := by simp [running]
        refine ⟨underway.valid.step true call,
          ⟨_, afterMember, ?_, by simp [Current, JobRow.failed]⟩, .inr (.inr ?_)⟩
        · rw [appended_quiet quiet]
          exact standing.stopped unfinished rfl rfl rfl rfl rfl
            (by simp [JobRow.failed])
        · exact ⟨_, List.mem_append_right _ (List.mem_singleton_self _), rfl,
            ⟨row, member, standing.id, running, held⟩, _, afterMember, standing.id, rfl, rfl,
            standing.held held⟩

theorem Underway.fail (underway : Underway claim scene) {errorCode : String} {reply : Reply}
    {next : Scene} (foreign : ∀ call ∈ access.others, call.operation.Foreign claim.token)
    (ran : access.run store (.failJob claim errorCode) scene = (.ok reply, next)) :
    Resolved claim errorCode next := by
  have reached := underway.others foreign
  rcases access.run_cases store (.failJob claim errorCode) scene with
    ⟨_, other⟩ | ⟨_, other⟩ | ⟨_, other, replied⟩ <;> rw [other] at ran <;> cases ran
  exact reached.failStep rfl replied

theorem Underway.resolved (underway : Underway claim scene) (appended : Appended scene.history)
    (errorCode : String) : Resolved claim errorCode scene := by
  obtain ⟨row, member, standing, -⟩ := underway.row
  refine ⟨underway.valid, ⟨row, member, standing, ?_⟩, .inl appended⟩
  rintro ⟨running, -⟩
  have done := (standing.succeeded.mpr appended).1
  simp [running] at done

end Accesses

/-! ## The attempt -/

/-- The program works on the attempt, and only returns once its snapshot is stored. -/
def Attempts (claim : DocumentJobClaim) (program : Scene → Except Raised Unit × Scene) : Prop :=
  ∀ scene, Underway claim scene → Underway claim (program scene).2 ∧
    ((program scene).1 = .ok () → Appended (program scene).2.history)

section Attempt

variable {store : SQLiteDocumentStore} {surroundings : Surroundings} {claim : DocumentJobClaim}

theorem Underway.raises {scene : Scene} (underway : Underway claim scene) (raised : Raised) :
    Underway claim ((.error raised, scene) : Except Raised Unit × Scene).2 ∧
      ((.error raised : Except Raised Unit) = .ok () →
        Appended ((.error raised, scene) : Except Raised Unit × Scene).2.history) :=
  ⟨underway, fun returned => by cases returned⟩

theorem Attempts.execute {program : Scene → Except Raised Unit × Scene}
    (attempts : Attempts claim program) (policy : Except Raised PolicyEffect)
    (logged : Except Raised Unit) : Attempts claim (execute policy logged program) := by
  intro scene underway
  unfold Documents.execute
  split
  case h_6 => exact attempts scene underway
  all_goals exact underway.raises _

theorem Attempts.recordLifecycle {program : Scene → Except Raised Unit × Scene}
    (attempts : Attempts claim program) (started finished : Except Raised Unit) :
    Attempts claim (recordLifecycle started finished program) := by
  intro scene underway
  obtain ⟨after, appends⟩ := attempts scene underway
  unfold Documents.recordLifecycle
  cases started with
  | error raised => exact underway.raises raised
  | ok =>
      dsimp only
      generalize program scene = out at after appends
      obtain ⟨answer, next⟩ := out
      cases answer with
      | ok saved =>
          cases finished with
          | ok => exact ⟨after, fun _ => appends rfl⟩
          | error raised => exact after.raises raised
      | error raised => cases raised <;> cases finished <;> exact after.raises _

theorem Attempts.createClaimed
    (foreign : ∀ call ∈ surroundings.committing.others, call.operation.Foreign claim.token)
    (record : Except DocumentError StoredDocumentVersion) :
    Attempts claim (createClaimed store surroundings claim record) := by
  intro scene underway
  cases record with
  | error error => exact underway.raises _
  | ok record =>
      obtain ⟨after, appends⟩ := @Underway.commit store _ _ _ underway record foreign
      unfold Documents.createClaimed
      dsimp only
      split
      · rename_i ran
        rw [ran] at after appends
        exact ⟨after, fun _ => appends _ rfl⟩
      · rename_i ran
        rw [ran] at after
        exact after.raises _

theorem Attempts.processClaimed (tenantId : String)
    (foreign : ∀ call ∈ surroundings.committing.others, call.operation.Foreign claim.token) :
    Attempts claim (processClaimed store surroundings tenantId claim) := by
  intro scene underway
  unfold Documents.processClaimed
  split
  · exact underway.raises _
  · exact Attempts.createClaimed foreign _ scene underway

theorem Attempts.updateClaimed (tenantId : String) (request : DocumentUpdateRequest)
    (reading : ∀ call ∈ surroundings.reading.others, call.operation.Foreign claim.token)
    (foreign : ∀ call ∈ surroundings.committing.others, call.operation.Foreign claim.token) :
    Attempts claim (updateClaimed store surroundings tenantId claim request) := by
  intro scene underway
  have read : Underway claim (surroundings.reading.run store
      (.get tenantId request.documentId none) scene).2 := underway.read trivial reading
  unfold Documents.updateClaimed
  split
  · rename_i ran
    rw [ran] at read
    exact read.raises _
  · rename_i ran
    rw [ran] at read
    split
    · exact read.raises _
    · split
      · exact read.raises _
      · exact Attempts.createClaimed foreign _ _ read
  · rename_i ran
    rw [ran] at read
    exact read.raises _

theorem Attempts.ingestOrUpdate (tenantId : String)
    (foreign : ∀ call ∈ surroundings.concurrent, call.operation.Foreign claim.token) :
    Attempts claim (ingestOrUpdate store surroundings tenantId claim) := by
  simp only [Surroundings.concurrent, List.mem_append, or_imp, forall_and] at foreign
  obtain ⟨⟨⟨reading, committing⟩, -⟩, -⟩ := foreign
  refine Attempts.execute (Attempts.recordLifecycle ?_ _ _) _ _
  intro scene underway
  dsimp only
  split
  · exact Attempts.processClaimed tenantId committing scene underway
  · exact Attempts.updateClaimed tenantId _ reading committing scene underway
  · exact underway.raises _

end Attempt

/-! ## The run -/

section Run

variable {store : SQLiteDocumentStore} {surroundings : Surroundings} {claim : DocumentJobClaim}
  {jobId tenantId : String}

theorem claimJob_started {token : String} {clock : Clock} {db next : DocumentDb}
    (ok : store.claimJob jobId tenantId token clock db = .ok (some claim, next)) :
    claim.token = token ∧ next.versions = db.versions ∧ ∃ row ∈ next.jobs,
      claim.job = job next row (clock 3) ∧ row.id.text = jobId ∧ row.state = .running ∧
        row.token = some token := by
  obtain ⟨row, member, id, -, ⟨none_, -⟩ | ⟨-, -, none_, -⟩ | ⟨-, -, started, same, start⟩⟩ :=
    claimJob_ok ok
  · cases none_
  · cases none_
  · cases same
    obtain ⟨_, _, read, -, readMember, sameText, rfl, rfl⟩ := startAttempt_ok start
    refine ⟨rfl, rfl, read, readMember, rfl, sameText.trans id, ?_⟩
    obtain ⟨old, -, rfl⟩ := Table.mem_update.mp readMember
    split
    · exact ⟨rfl, rfl⟩
    · rename_i other
      rw [if_neg other] at sameText
      simp only [decide_eq_true_eq] at other
      exact absurd (Uuid4.ext_text sameText) other

theorem takeJob_underway {db : DocumentDb} (ids : db.WellFormed) {next : Scene}
    (took : takeJob store surroundings jobId tenantId db = (.ok (.claim (some claim)), next)) :
    claim.token = surroundings.token ∧ claim.job.jobId.text = jobId ∧ Underway claim next := by
  have valid : ({ db, history := [] } : Scene).Valid := ⟨ids, by simp⟩
  have reached := valid.others surroundings.claiming.others
  have unappended : ¬Appended (({ db, history := [] } : Scene).others
      surroundings.claiming.others).history := by
    rw [appended_others]
    simp [Appended]
  unfold takeJob at took
  rcases Access.run_cases surroundings.claiming store
      (.claimJob jobId tenantId surroundings.token) { db, history := [] } with
    ⟨_, ran⟩ | ⟨_, ran⟩ | ⟨_, ran, replied⟩ <;> rw [ran] at took <;> cases took
  generalize ({ db, history := [] } : Scene).others surroundings.claiming.others = scene
    at reached unappended replied ⊢
  have performed : (Operation.claimJob jobId tenantId surroundings.token).perform store
      surroundings.claiming.clock scene.db = (.ok (.claim (some claim)),
        (Transition.of scene.db (surroundings.claiming.call store
          (.claimJob jobId tenantId surroundings.token))).after) := Prod.ext replied rfl
  generalize call_eq : surroundings.claiming.call store
    (.claimJob jobId tenantId surroundings.token) = call at performed ⊢
  have returned := perform_ok performed
  simp only [Operation.body, Outcome.map_eq_ok, Prod.exists, Prod.mk.injEq] at returned
  obtain ⟨_, _, ok, answered, same⟩ := returned
  cases answered
  rw [same] at ok
  obtain ⟨token, versions, row, member, receipt, id, running, held⟩ := claimJob_started ok
  refine ⟨token, by rw [receipt]; exact id, reached.step true call, row, member, ?_, ?_⟩
  · rw [appended_quiet versions]
    exact
      { id := by rw [receipt]; rfl
        tenant := by rw [receipt]; rfl
        document := by rw [receipt]; rfl
        attempts := by rw [receipt]; exact le_refl _
        held := fun _ => by rw [receipt]; rfl
        free := fun _ => .inr (token ▸ held)
        succeeded := ⟨fun done => by simp [running] at done, fun done => absurd done unappended⟩ }
  · exact .inl ⟨running, token ▸ held⟩

theorem FailureRecorded.step {errorCode : String} {scene : Scene}
    (recorded : FailureRecorded claim errorCode scene.history) (own : Bool) (call : Call) :
    FailureRecorded claim errorCode (scene.step own call).history := by
  obtain ⟨entry, member, rest⟩ := recorded
  exact ⟨entry, List.mem_append_left _ member, rest⟩

section Resolved

variable {errorCode : String} {scene : Scene}

theorem Resolved.foreign (resolved : Resolved claim errorCode scene) {call : Call}
    (foreign : call.operation.Foreign claim.token) :
    Resolved claim errorCode (scene.step false call) := by
  obtain ⟨row, member, standing, lost⟩ := resolved.row
  refine ⟨resolved.valid.step false call, ?_, ?_⟩
  · rw [appended_foreign]
    rcases Transition.of_effect resolved.valid.ids call with ⟨_, _, same⟩ | ⟨_, _, effect⟩
    · refine ⟨row, ?_, standing, lost⟩
      rw [Scene.step, same]
      exact member
    · obtain ⟨after, afterMember, change⟩ := effect.row_after member
      exact ⟨after, afterMember, standing.foreign change foreign,
        fun current => lost (change.current foreign.1 current).1⟩
  · rw [appended_foreign]
    exact resolved.outcome.imp_right
      (Or.imp (fun taken => taken.step false call) fun recorded => recorded.step false call)

theorem Resolved.others (resolved : Resolved claim errorCode scene) {calls : List Call}
    (foreign : ∀ call ∈ calls, call.operation.Foreign claim.token) :
    Resolved claim errorCode (scene.others calls) := by
  induction calls generalizing scene with
  | nil => exact resolved
  | cons call calls induction =>
      exact induction (resolved.foreign (foreign call List.mem_cons_self))
        fun other member => foreign other (List.mem_cons_of_mem _ member)

theorem Resolved.unchanged (resolved : Resolved claim errorCode scene) {call : Call}
    (same : (Transition.of scene.db call).after = scene.db) :
    Resolved claim errorCode (scene.step true call) := by
  obtain ⟨row, member, standing, lost⟩ := resolved.row
  refine ⟨resolved.valid.step true call, ⟨row, ?_, ?_, lost⟩, ?_⟩
  · rw [Scene.step, same]
    exact member
  · rw [appended_quiet (by rw [same])]
    exact standing
  · rw [appended_quiet (by rw [same])]
    exact resolved.outcome.imp_right
      (Or.imp (fun taken => taken.step true call) fun recorded => recorded.step true call)

/-- The receipt of a resolved attempt: it succeeded in this attempt exactly when
its snapshot was appended. -/
theorem Resolved.report (resolved : Resolved claim errorCode scene)
    (foreign : ∀ call ∈ surroundings.reporting.others, call.operation.Foreign claim.token)
    (asked : claim.job.jobId.text = jobId) {answer : DocumentJob} {last : Scene}
    (reported : reportJob store surroundings jobId tenantId scene = (.ok answer, last)) :
    Resolved claim errorCode last ∧
      (answer.state = .succeeded ∧ answer.attempts = claim.job.attempts ↔
        Appended last.history) ∧
      (Appended last.history ↔ Appended scene.history) := by
  have kept := @appended_others scene surroundings.reporting.others
  have reached := resolved.others foreign
  unfold reportJob at reported
  rcases Access.run_cases surroundings.reporting store (.getJob jobId tenantId) scene with
    ⟨_, ran⟩ | ⟨_, ran⟩ | ⟨reply, ran, replied⟩ <;> rw [ran] at reported
  · cases reported
  · cases reported
  · generalize scene.others surroundings.reporting.others = before at kept reached replied reported
    have reads : (Operation.getJob jobId tenantId).Reads := trivial
    have same : (Transition.of before.db (surroundings.reporting.call store
      (.getJob jobId tenantId))).after = before.db := reads.unchanged _ _
    have stays := reached.unchanged same
    have performed : (Operation.getJob jobId tenantId).perform store surroundings.reporting.clock
        before.db = (.ok reply, before.db) := Prod.ext replied (reads.unchanged _ _)
    have returned := perform_ok performed
    simp only [Operation.body, SQLiteDocumentStore.getJob, Outcome.map_eq_ok,
      Outcome.bind_eq_ok, Outcome.pure_eq_ok, Prod.exists, Prod.mk.injEq] at returned
    obtain ⟨_, _, ⟨read, found, rfl, -⟩, rfl, -⟩ := returned
    cases reported
    have quiet := appended_quiet (congrArg DocumentDb.versions same)
    refine ⟨stays, ?_, quiet.trans kept⟩
    obtain ⟨row, member, standing, -⟩ := reached.row
    obtain ⟨readMember, readId, -⟩ := jobRow_ok found
    have equal : read = row := DocumentDb.eq_of_id reached.valid.ids readMember member
      (Uuid4.ext_text (readId.trans (asked.symm.trans (congrArg Uuid4.text standing.id.symm))))
    rw [equal, quiet]
    exact standing.succeeded

end Resolved

/-- When the run returns, the attempt it claimed is over: the job does not run
under its token, the receipt says that this attempt succeeded exactly when its
snapshot was appended, an exception before that is recorded as its failure unless
somebody else took the job over, and no success was undone. -/
theorem process_document_job_resolves (store : SQLiteDocumentStore) (surroundings : Surroundings)
    (jobId tenantId : String) {db : DocumentDb} (ids : db.WellFormed)
    (foreign : ∀ call ∈ surroundings.concurrent, call.operation.Foreign surroundings.token)
    {answer : DocumentJob} {last : Scene}
    (returned : processDocumentJob store surroundings jobId tenantId db = (.ok answer, last))
    {claim : DocumentJobClaim}
    (claimed : (takeJob store surroundings jobId tenantId db).1 = .ok (.claim (some claim))) :
    (∀ row ∈ last.db.jobs, row.id = claim.job.jobId → ¬Current claim row) ∧
    (answer.state = .succeeded ∧ answer.attempts = claim.job.attempts ↔ Appended last.history) ∧
    (¬Appended last.history → ∃ raised,
      (ingestOrUpdate store surroundings tenantId claim
        (takeJob store surroundings jobId tenantId db).2).1 = .error raised ∧
      (FailureRecorded claim raised.code last.history ∨ TakenOver claim last.history)) ∧
    ∀ entry ∈ last.history, entry.Lasting := by
  unfold processDocumentJob at returned
  generalize took_eq : takeJob store surroundings jobId tenantId db = took at returned claimed ⊢
  obtain ⟨reply, started⟩ := took
  dsimp only at claimed
  subst claimed
  obtain ⟨token, asked, underway⟩ := takeJob_underway ids took_eq
  rw [← token] at foreign
  obtain ⟨after, appends⟩ := @Attempts.ingestOrUpdate store _ _ tenantId foreign started underway
  simp only [Surroundings.concurrent, List.mem_append, or_imp, forall_and] at foreign
  obtain ⟨⟨-, failing⟩, reporting⟩ := foreign
  -- Once the attempt is resolved, reading the job is all that is left.
  have resolves {errorCode : String} {scene : Scene} (resolved : Resolved claim errorCode scene)
      (reported : reportJob store surroundings jobId tenantId scene = (.ok answer, last)) :
      (∀ row ∈ last.db.jobs, row.id = claim.job.jobId → ¬Current claim row) ∧
      (answer.state = .succeeded ∧ answer.attempts = claim.job.attempts ↔
        Appended last.history) ∧
      (¬Appended last.history →
        FailureRecorded claim errorCode last.history ∨ TakenOver claim last.history) ∧
      (Appended scene.history → Appended last.history) ∧
      ∀ entry ∈ last.history, entry.Lasting := by
    obtain ⟨stays, receipt, kept⟩ := resolved.report reporting asked reported
    refine ⟨?_, receipt, fun missing => ?_, kept.mpr, stays.valid.lasting⟩
    · intro row member id
      obtain ⟨other, otherMember, standing, lost⟩ := stays.row
      rw [DocumentDb.eq_of_id stays.valid.ids member otherMember (id.trans standing.id.symm)]
      exact lost
    · exact (stays.outcome.resolve_left missing).symm
  dsimp only at returned ⊢
  cases building : surroundings.building with
  | error raised =>
      rw [building] at returned
      cases returned
  | ok =>
      rw [building] at returned
      dsimp only at returned
      generalize ran_eq : ingestOrUpdate store surroundings tenantId claim started = ran
        at returned after appends ⊢
      obtain ⟨outcome, scene⟩ := ran
      cases outcome with
      | ok =>
          have appended := appends rfl
          obtain ⟨free, receipt, -, kept, lasting⟩ :=
            resolves (after.resolved appended "") returned
          exact ⟨free, receipt, fun missing => absurd (kept appended) missing, lasting⟩
      | error raised =>
          dsimp only at returned ⊢
          split at returned
          · split at returned
            · rename_i failed
              obtain ⟨free, receipt, outcome, -, lasting⟩ :=
                resolves (after.fail failing failed) returned
              exact ⟨free, receipt, fun missing => ⟨raised, rfl, outcome missing⟩, lasting⟩
            · cases returned
          · cases returned

end Run

namespace Sample

def access (now : Time) : Access := { others := [], clock := fun _ => now, fault := .nothing }

/-- The answer to the commit is lost, and another client looks at the job. -/
def disturbed : Surroundings :=
  { token := "token", documentId := document, claiming := access 1, building := .ok ()
    policy := .ok .allow, evaluated := .ok (), started := .ok (), reading := access 1
    prepared := .ok { document := record.document, chunking := record.chunking, createdAt := 0 }
    committing := { access 2 with fault := .after .exception }
    finished := .ok ()
    failing := { access 3 with others := [.instant store 3 (.getJob job.text "acme")] }
    reporting := access 4 }

theorem disturbed_foreign :
    ∀ call ∈ disturbed.concurrent, call.operation.Foreign disturbed.token := by
  intro call member
  have same : call = .instant store 3 (.getJob job.text "acme") := List.mem_singleton.mp member
  rw [same]
  refine ⟨?_, ?_⟩
  · simp [Call.instant, Operation.token]
  · simp [Call.instant, Operation.presented]

def completed : DocumentJob :=
  { jobId := job, tenantId := "acme", documentId := document, operation := .create,
    state := .succeeded, version := some 1, attempts := 1, errorCode := none,
    publicationConfirmed := false, leaseActive := false, resultAvailable := true }

end Sample

/-- An exception after the commit does not undo it. -/
theorem process_document_job_resolves_disturbed :
    let last := (processDocumentJob Sample.store Sample.disturbed Sample.job.text "acme"
      Sample.submitted.db).2
    (Sample.completed.state = .succeeded ∧
        Sample.completed.attempts = Sample.held.job.attempts ↔ Appended last.history) ∧
      ∀ entry ∈ last.history, entry.Lasting := by
  have ids : (Sample.submitted.db.jobs.map JobRow.id).Nodup := by decide +kernel
  have answered : (processDocumentJob Sample.store Sample.disturbed Sample.job.text "acme"
      Sample.submitted.db).1 = .ok Sample.completed := by decide +kernel
  have claimed : (takeJob Sample.store Sample.disturbed Sample.job.text "acme"
      Sample.submitted.db).1 = .ok (.claim (some Sample.held)) := by decide +kernel
  obtain ⟨-, receipt, -, lasting⟩ := process_document_job_resolves Sample.store Sample.disturbed
    Sample.job.text "acme" ids Sample.disturbed_foreign (Prod.ext answered rfl) claimed
  exact ⟨receipt, lasting⟩

end Crewos.Documents

import Crewos.Api.Authorization
import Crewos.Documents.RoundTrip
import Crewos.Documents.Preparation

/-! # The document service

The document routes, the facades behind them and the task of the workers, as
programs: each log line, store transaction and publication is a request to the
surroundings, and each of them may raise. -/

namespace Crewos.DocumentService

open Foundation Documents Api

/-! ## Exceptions -/

inductive ServerError where
  | raised (raised : Raised)
  | permissionError
  | policyEvaluationError
  | sqliteError
  | httpException (exception : HttpException)
  | ignore
  deriving DecidableEq, Repr

namespace ServerError

/-- Whether `except Exception` catches it. -/
def isException : ServerError → Bool
  | .raised error => error.isException
  | _ => true

/-- The error code a failed attempt is recorded with. -/
def code : ServerError → String
  | .raised error => error.code
  | _ => "ProcessingFailed"

def validationError : ServerError := .raised (.document .validationError)

end ServerError

/-! ## The surroundings -/

structure Drawing where
  documentId : Uuid4
  jobId : Uuid4
  token : String

inductive StoreMethod where
  | submitJob (tenantId : String) (request : DocumentRequest) (operation : JobOperation)
      (options : ChunkingOptions) (idempotencyKey : String)
  | getJob (jobId tenantId : String)
  | claimJob (jobId tenantId : String)
  | commitJob (claim : DocumentJobClaim) (record : StoredDocumentVersion)
  | failJob (claim : DocumentJobClaim) (errorCode : String)
  | retryJob (jobId tenantId : String)
  | markJobPublished (jobId tenantId : String)
  | get (tenantId : String) (documentId : Uuid4) (version : Option Nat)
  | delete (tenantId : String) (documentId : Uuid4)

namespace StoreMethod

def operation (drawing : Drawing) : StoreMethod → Operation
  | .submitJob tenantId request operation options key =>
      .submitJob tenantId request.raw operation options key drawing.documentId drawing.jobId
  | .getJob jobId tenantId => .getJob jobId tenantId
  | .claimJob jobId tenantId => .claimJob jobId tenantId drawing.token
  | .commitJob claim record => .commitJob claim record
  | .failJob claim errorCode => .failJob claim errorCode
  | .retryJob jobId tenantId => .retryJob jobId tenantId
  | .markJobPublished jobId tenantId => .markJobPublished jobId tenantId
  | .get tenantId documentId version => .get tenantId documentId version
  | .delete tenantId documentId => .delete tenantId documentId

def tenant : StoreMethod → String
  | .submitJob tenantId _ _ _ _ | .getJob _ tenantId | .claimJob _ tenantId
  | .retryJob _ tenantId | .markJobPublished _ tenantId | .get tenantId _ _
  | .delete tenantId _ => tenantId
  | .commitJob claim _ | .failJob claim _ => claim.job.tenantId

end StoreMethod

inductive Ask where
  | log
  | getDocumentStore
  | call (method : StoreMethod)
  | uuid4
  | now
  | applyAsync (jobId : Uuid4) (tenantId queue : String)

def Answer : Ask → Type
  | .log | .getDocumentStore | .applyAsync _ _ _ => Except ServerError Unit
  | .call _ => Except ServerError Documents.Reply
  | .uuid4 => Uuid4
  | .now => Except ServerError Int

abbrev Server := Exec Answer ServerError Unit

def ask (request : Ask) : Server (Answer request) := Exec.ask request

def log : Server Unit := do
  let logged : Except ServerError Unit ← ask .log
  Exec.ofExcept logged

def call (method : StoreMethod) : Server Documents.Reply := do
  let reply : Except ServerError Documents.Reply ← ask (.call method)
  Exec.ofExcept reply

def openStore : Server Unit := do
  let opened : Except ServerError Unit ← ask .getDocumentStore
  Exec.ofExcept opened

def now : Server Int := do
  let instant : Except ServerError Int ← ask .now
  Exec.ofExcept instant

def applyAsync (jobId : Uuid4) (tenantId queue : String) : Server Unit := do
  let sent : Except ServerError Unit ← ask (.applyAsync jobId tenantId queue)
  Exec.ofExcept sent

/-- `except Exception` -/
def catchException (computation : Server α) (handler : ServerError → Server α) : Server α :=
  tryCatch computation fun error =>
    if error.isException then handler error else throw error

/-! ## The store -/

namespace SQLiteStore

/-- What the methods return; none returns anything else. -/
def submissionOf : Documents.Reply → Except ServerError (DocumentJob × Bool)
  | .submission job replayed => .ok (job, replayed)
  | _ => .error (.raised .exception)

def jobOf : Documents.Reply → Except ServerError DocumentJob
  | .job job => .ok job
  | _ => .error (.raised .exception)

def claimOf : Documents.Reply → Except ServerError (Option DocumentJobClaim)
  | .claim claim => .ok claim
  | _ => .error (.raised .exception)

def recordOf : Documents.Reply → Except ServerError StoredDocumentVersion
  | .record record => .ok record
  | _ => .error (.raised .exception)

def submitJob (tenantId : String) (request : DocumentRequest) (operation : JobOperation)
    (options : ChunkingOptions) (idempotencyKey : String) : Server (DocumentJob × Bool) := do
  Exec.ofExcept (submissionOf
    (← call (.submitJob tenantId request operation options idempotencyKey)))

def getJob (jobId tenantId : String) : Server DocumentJob := do
  Exec.ofExcept (jobOf (← call (.getJob jobId tenantId)))

def claimJob (jobId tenantId : String) : Server (Option DocumentJobClaim) := do
  Exec.ofExcept (claimOf (← call (.claimJob jobId tenantId)))

def commitJob (claim : DocumentJobClaim) (record : StoredDocumentVersion) :
    Server StoredDocumentVersion := do
  Exec.ofExcept (recordOf (← call (.commitJob claim record)))

def failJob (claim : DocumentJobClaim) (errorCode : String) : Server Unit := do
  let _ ← call (.failJob claim errorCode)

def retryJob (jobId tenantId : String) : Server DocumentJob := do
  Exec.ofExcept (jobOf (← call (.retryJob jobId tenantId)))

def markJobPublished (jobId tenantId : String) : Server Unit := do
  let _ ← call (.markJobPublished jobId tenantId)

def get (tenantId : String) (documentId : Uuid4) (version : Option Nat) :
    Server StoredDocumentVersion := do
  Exec.ofExcept (recordOf (← call (.get tenantId documentId version)))

def delete (tenantId : String) (documentId : Uuid4) : Server Unit := do
  let _ ← call (.delete tenantId documentId)

end SQLiteStore

/-- `DocumentReadRequest`; an identifier that is an object is of the random variant. -/
def readRequest (documentId : Uuid4) (version : Option Int) :
    Except ServerError (Option Nat) := do
  raiseWhen (documentId.rfcVariant = false) .validationError
  raiseWhen (∃ exact ∈ version, exact < 1 ∨ 2 ^ 63 - 1 < exact) .validationError
  return version.map Int.toNat

/-- `DocumentDeleteRequest` -/
def deleteRequest (documentId : Uuid4) : Except ServerError Unit :=
  raiseWhen (documentId.rfcVariant = false) .validationError

/-! ## Facades -/

/-- `get_document_executor` -/
def executor : PolicyEnforcedExecutor Answer ServerError where
  evaluate context action := pure (permissionPolicy context action)
  log := log
  isException := ServerError.isException
  policyDenied _ := .raised .policyDenied
  policyEvaluation := .policyEvaluationError

namespace DocumentSubmissionFacade

def options : ChunkingOptions := default

def submit (request : DocumentRequest) (context : ToolExecutionContext) (key : String)
    (operation : JobOperation) : Server (DocumentJob × Bool) :=
  executor.execute context ("document." ++ operation.text) do
    let submission ← SQLiteStore.submitJob context.tenantId request operation options key
    log
    return submission

def status (jobId : String) (context : ToolExecutionContext) : Server DocumentJob :=
  executor.execute context "document.job.read" (SQLiteStore.getJob jobId context.tenantId)

def retry (jobId : String) (context : ToolExecutionContext) : Server DocumentJob :=
  executor.execute context "document.job.retry" do
    let job ← SQLiteStore.getJob jobId context.tenantId
    executor.execute context ("document." ++ job.operation.text)
      (SQLiteStore.retryJob jobId context.tenantId)

end DocumentSubmissionFacade

/-- `_record_lifecycle` -/
def recordLifecycle (operation : Server α) : Server α := do
  log
  let saved ← catchException operation fun error => do
    log
    throw error
  log
  return saved

/-! The plain-text facade over `_ClaimedDocumentStore`, as `process_document_job`
wires them. -/

namespace ClaimedFacade

/-- `_prepare_and_store` -/
def prepareAndStore (claim : DocumentJobClaim) (request : DocumentIngestionRequest)
    (tenantId : String) (documentId : Uuid4) (version : Nat) : Server StoredDocumentVersion := do
  let createdAt ← now
  let prepared ← Exec.ofExcept ((prepareSource request claim.options createdAt).mapError .raised)
  let record ← Exec.ofExcept
    ((DocumentProcessingCoordinator.prepareAndStore prepared tenantId documentId
      version).mapError fun error => .raised (.document error))
  SQLiteStore.commitJob claim record

/-- `DocumentProcessingCoordinator.process` -/
def process (claim : DocumentJobClaim) (tenantId : String) : Server StoredDocumentVersion :=
  match claim.request with
  | .ingestion request => do
      let documentId : Uuid4 ← ask .uuid4
      prepareAndStore claim request tenantId documentId 1
  -- The fields of the other request are forbidden.
  | .update _ => throw .validationError

/-- `DocumentProcessingCoordinator.update` -/
def update (claim : DocumentJobClaim) (tenantId : String) : Server StoredDocumentVersion :=
  match claim.request with
  | .update request => do
      Exec.raiseIf (request.documentId.rfcVariant = false) .validationError
      let latest ← SQLiteStore.get tenantId request.documentId none
      Exec.raiseIf (latest.version ≠ request.expectedVersion)
        (.raised (.document (.documentVersionConflict
          "Document has changed since the expected revision")))
      prepareAndStore claim request.toDocumentIngestionRequest tenantId request.documentId
        (request.expectedVersion + 1)
  | .ingestion _ => throw .validationError

/-- `ingest` and `update` of the facade. -/
def ingestOrUpdate (claim : DocumentJobClaim) (context : ToolExecutionContext) :
    Server StoredDocumentVersion :=
  match claim.job.operation with
  | .create => executor.execute context "document.create"
      (recordLifecycle (process claim context.tenantId))
  | .update => executor.execute context "document.update"
      (recordLifecycle (update claim context.tenantId))

end ClaimedFacade

/-! ## Processing -/

def processDocumentJob (jobId : String) (context : ToolExecutionContext) :
    Server DocumentJob := do
  match ← SQLiteStore.claimJob jobId context.tenantId with
  | none => SQLiteStore.getJob jobId context.tenantId
  | some claim =>
      catchException (do let _ ← ClaimedFacade.ingestOrUpdate claim context) fun error =>
        SQLiteStore.failJob claim error.code
      SQLiteStore.getJob jobId context.tenantId

def executeDocumentJob (settings : TenantSettings) (jobId tenantId : String) :
    Server DocumentJob := do
  if pattern : tenantPattern tenantId = true then
    openStore
    let result ← processDocumentJob jobId
      { tenantId, permissions := settings.serverGrants tenantId, pattern }
    log
    return result
  else
    throw .validationError

/-! ## Routes -/

/-- What a route answers for an exception it knows. -/
def knownAnswer : ServerError → Option HttpException
  | .raised .policyDenied | .permissionError => some ⟨403, "Document operation denied"⟩
  | .policyEvaluationError => some ⟨503, "Document authorization unavailable"⟩
  | .raised (.document (.documentNotFound _)) | .raised (.document (.documentJobNotFound _)) =>
      some ⟨404, "Document or job unavailable"⟩
  | .raised (.document (.documentVersionConflict _))
  | .raised (.document (.documentJobConflict _)) =>
      some ⟨409, "Document operation conflicts with existing state"⟩
  | .raised .documentParse | .raised .chunkingLimitExceeded
  | .raised (.document .validationError) =>
      some ⟨422, "Invalid document input or resource limits"⟩
  | .sqliteError | .raised (.document .integrityError) | .raised (.document .operationalError)
  | .raised (.document (.documentStorageCorruption _)) =>
      some ⟨503, "Document storage unavailable"⟩
  | .httpException exception => some exception
  | _ => none

def documentCall (operation : Server α) : Server α :=
  catchException operation fun error =>
    match knownAnswer error with
    | some exception => throw (.httpException exception)
    | none => do
        log
        throw (.httpException ⟨500, "Document operation failed"⟩)

def getDocumentStore : Server Unit :=
  documentCall openStore

def publishJob (settings : TenantSettings) (job : DocumentJob) : Server Unit := do
  if job.state = .queued ∨ job.state = .running then
    catchException
      (do
        let queue ← Exec.ofExcept ((settings.tenantQueue job.tenantId).elim
          (.error (.raised .exception)) .ok)
        applyAsync job.jobId job.tenantId queue
        SQLiteStore.markJobPublished job.jobId.text job.tenantId
        log)
      fun _ => do
        log
        throw (.httpException
          ⟨503, "Publication unconfirmed; retry with the same idempotency key"⟩)
  else
    return ()

inductive Response where
  | submission (status : Nat) (job : DocumentJob) (replayed : Bool)
  | job (status : Nat) (job : DocumentJob)
  | version (record : StoredDocumentVersion)
  | deleted
  /-- What a worker's task returns. -/
  | observed (jobId : Uuid4) (state : JobState)
  deriving DecidableEq, Repr

/-- The status of a failed synchronous submission. -/
def failureStatuses : List (String × Nat) :=
  [("PermissionDenied", 403), ("NotFound", 404), ("VersionConflict", 409),
   ("InvalidDocument", 422), ("ResourceLimit", 422), ("AttemptLimit", 409),
   ("DocumentDeleted", 409)]

def statusOf (job : DocumentJob) (background : Bool) : Nat :=
  if job.state = .failed ∧ background = false then
    ((failureStatuses.find? fun entry => job.errorCode = some entry.1).map Prod.snd).getD 500
  else if job.state = .queued ∨ job.state = .running then 202
  else 200

def performSubmission (settings : TenantSettings) (submission : DocumentJob × Bool)
    (background : Bool) : Server Response := do
  let job ←
    if background then do
      publishJob settings submission.1
      SQLiteStore.getJob submission.1.jobId.text submission.1.tenantId
    else
      executeDocumentJob settings submission.1.jobId.text submission.1.tenantId
  return .submission (statusOf job background) job submission.2

inductive Route where
  | createDocument (body : DocumentInput) (background : Bool) (idempotencyKey : String)
  | updateDocument (documentId : String) (body : DocumentInput) (expectedVersion : Int)
      (background : Bool) (idempotencyKey : String)
  | documentJob (jobId : String)
  | retryDocumentJob (jobId : String)
  | readDocument (documentId : String) (version : Option Int)
  | deleteDocument (documentId : String)

/-- What `DocumentRoute` makes of parameters that are not valid. -/
def invalidRequest : ServerError := .httpException ⟨422, "Invalid document request"⟩

def validated (parameter : Option α) : Server α :=
  Exec.ofExcept (parameter.elim (.error invalidRequest) .ok)

def submissionBody (body : DocumentInput) (idempotencyKey : String) : Option DocumentInput :=
  if Text.fullmatch SQLiteDocumentStore.keyChar 1 128 idempotencyKey then
    body.validate.toOption
  else none

def route (settings : TenantSettings) (context : ToolExecutionContext) : Route → Server Response
  | .createDocument body background key => do
      let payload ← validated (submissionBody body key)
      documentCall do
        let request ← Exec.ofExcept ((createRequest payload).mapError (.raised ∘ .document))
        let submission ← DocumentSubmissionFacade.submit request context key .create
        performSubmission settings submission background
  | .updateDocument documentId body expectedVersion background key => do
      let documentId ← validated (Uuid4.parse documentId)
      let payload ← validated (submissionBody body key)
      Exec.raiseIf (expectedVersion < 1) invalidRequest
      documentCall do
        Exec.raiseIf (documentId.rfcVariant = false) .validationError
        let request ← Exec.ofExcept
          ((updateRequest payload documentId expectedVersion.toNat).mapError
            (.raised ∘ .document))
        let submission ← DocumentSubmissionFacade.submit request context key .update
        performSubmission settings submission background
  | .documentJob jobId => do
      let jobId ← validated (Uuid4.parse jobId)
      documentCall do
        return .job 200 (← DocumentSubmissionFacade.status jobId.text context)
  | .retryDocumentJob jobId => do
      let jobId ← validated (Uuid4.parse jobId)
      documentCall do
        let job ← DocumentSubmissionFacade.retry jobId.text context
        publishJob settings job
        return .job 202 (← SQLiteStore.getJob jobId.text context.tenantId)
  | .readDocument documentId version => do
      let documentId ← validated (Uuid4.parse documentId)
      documentCall do
        let version ← Exec.ofExcept (readRequest documentId version)
        return .version (← executor.execute context "document.read"
          (recordLifecycle (SQLiteStore.get context.tenantId documentId version)))
  | .deleteDocument documentId => do
      let documentId ← validated (Uuid4.parse documentId)
      documentCall do
        Exec.ofExcept (deleteRequest documentId)
        executor.execute context "document.delete"
          (recordLifecycle (SQLiteStore.delete context.tenantId documentId))
        return .deleted

structure HttpRequest where
  tenantHeader : String
  credentials : Option String
  route : Route

/-- Dependencies are resolved in the order the routes name them. -/
def serve (settings : TenantSettings) (request : HttpRequest) : Server Response := do
  let context ← Exec.ofExcept
    ((settings.getToolExecutionContext request.tenantHeader request.credentials).mapError
      .httpException)
  getDocumentStore
  route settings context request.route

/-! ## The worker -/

/-- A message of the broker, as a worker gets it. -/
structure Delivery where
  payload : Json
  requestId : String
  routingKey : Option String

structure DocumentJobDelivery where
  jobId : Uuid4
  tenantId : String
  pattern : tenantPattern tenantId = true

def DocumentJobDelivery.validate (payload : Json) :
    Except DocumentError DocumentJobDelivery :=
  match payload with
  | .obj data => do
      extraForbidden ["job_id", "tenant_id"] data
      let jobId ← uuidText data "job_id"
      let tenantId ← strictText data "tenant_id"
      if pattern : tenantPattern tenantId = true then
        return { jobId, tenantId, pattern }
      else
        throw .validationError
  | _ => .error .validationError

/-- A lost claim ends the delivery quietly. -/
def ignoringConflict (computation : Server α) : Server α :=
  tryCatch computation fun error =>
    match error with
    | .raised (.document (.documentJobConflict _)) => throw .ignore
    | error => throw error

def runDocumentJob (settings : TenantSettings) (message : Delivery) : Server Response := do
  let delivery ← Exec.ofExcept ((DocumentJobDelivery.validate message.payload).mapError
    (.raised ∘ .document))
  Exec.raiseIf (message.requestId ≠ delivery.jobId.text) (.raised .exception)
  Exec.raiseIf (message.routingKey ≠ settings.tenantQueue delivery.tenantId) (.raised .exception)
  let result ← ignoringConflict
    (executeDocumentJob settings delivery.jobId.text delivery.tenantId)
  return .observed result.jobId result.state

inductive Origin where
  | http (request : HttpRequest)
  | worker (message : Delivery)

def handle (settings : TenantSettings) :
    Origin → Program Answer (Except ServerError Response × Unit)
  | .http request => (serve settings request).run ()
  | .worker message => (runDocumentJob settings message).run ()

end Crewos.DocumentService

import Crewos.Api.DocumentService
import Crewos.Foundation.Service

/-! # Sessions of the document service

Requests and deliveries that run side by side over one document database. A
transaction may fail before it begins or after it was committed, whatever is
logged or published may fail, and a session may stop anywhere. -/

namespace Crewos.DocumentService

open Foundation Documents Api

structure Entry where
  origin : Origin
  transition : Transition

structure ServerState where
  documents : DocumentState
  history : List Entry

namespace ServerState

def empty : ServerState := { documents := { db := .empty, issued := [] }, history := [] }

def trace (state : ServerState) : List Transition := state.history.map Entry.transition

def perform (state : ServerState) (origin : Origin) (call : Call) : ServerState :=
  { documents := state.documents.next call
    history := state.history ++ [⟨origin, .of state.documents.db call⟩] }

theorem trace_perform (state : ServerState) (origin : Origin) (call : Call) :
    (state.perform origin call).trace = state.trace ++ [.of state.documents.db call] := by
  simp [trace, perform]

end ServerState

/-- What a random identifier is taken for: nobody drew it before. -/
structure Drawing.Fresh (drawing : Drawing) (state : ServerState) : Prop where
  documentId : drawing.documentId ∉ drawnIds state.trace
  jobId : ∀ row ∈ state.documents.db.jobs, row.id ≠ drawing.jobId
  token : ∀ claim ∈ state.documents.issued, claim.token ≠ drawing.token

/-- What the libraries under the service raise. -/
def ServerError.Outside (error : ServerError) : Prop :=
  error = .sqliteError ∨ error = .permissionError ∨ error = .raised .exception ∨
    error = .raised .baseException

def StoreMethod.call (method : StoreMethod) (store : SQLiteDocumentStore) (drawing : Drawing)
    (clock : Clock) : Call :=
  { store, operation := method.operation drawing, clock }

inductive Transacts (store : SQLiteDocumentStore) (origin : Origin) (state : ServerState)
    (method : StoreMethod) : Except ServerError Documents.Reply → ServerState → Prop
  | before {error} (outside : error.Outside) :
      Transacts store origin state method (.error error) state
  | done {drawing clock} (fresh : drawing.Fresh state) :
      Transacts store origin state method
        ((Transition.of state.documents.db (method.call store drawing clock)).reply.mapError
          (.raised ∘ .document))
        (state.perform origin (method.call store drawing clock))
  | after {drawing clock error} (fresh : drawing.Fresh state) (outside : error.Outside) :
      Transacts store origin state method (.error error)
        (state.perform origin (method.call store drawing clock))

def Attempted (reply : Except ServerError α) : Prop :=
  ∀ error, reply = .error error → error.Outside

def answers (store : SQLiteDocumentStore) (origin : Origin) (state : ServerState) :
    (request : Ask) → Answer request → ServerState → Prop
  | .log, reply, next | .getDocumentStore, reply, next | .applyAsync _ _ _, reply, next =>
      next = state ∧ Attempted (α := Unit) reply
  | .now, reply, next => next = state ∧ Attempted (α := Int) reply
  | .uuid4, _, next => next = state
  | .call method, reply, next => Transacts store origin state method reply next

def service (settings : TenantSettings) (store : SQLiteDocumentStore) :
    Service Answer Origin ServerState (Except ServerError Response × Unit) where
  handle := handle settings
  answers := answers store

/-! ## Who may ask for what -/

/-- The session is the tenant's: its token was checked, or the message came through
the queue of the tenant under the identifier of its job. -/
inductive Origin.Admitted (settings : TenantSettings) (tenantId : String) : Origin → Prop
  | http {request} (authenticated : settings.Authenticated request.tenantHeader
      request.credentials tenantId) : Admitted settings tenantId (.http request)
  | worker {message} {delivery : DocumentJobDelivery}
      (valid : DocumentJobDelivery.validate message.payload = .ok delivery)
      (tenant : delivery.tenantId = tenantId) (named : message.requestId = delivery.jobId.text)
      (queued : message.routingKey = settings.tenantQueue tenantId) :
      Admitted settings tenantId (.worker message)

def Route.background : Route → Bool
  | .createDocument _ background _ | .updateDocument _ _ _ background _ => background
  | _ => false

def Origin.route : Origin → Option Route
  | .http request => some request.route
  | .worker _ => none

/-- The submission a route makes of its parameters. -/
inductive Submission (payload : DocumentInput) : Route → JobOperation → DocumentRequest →
    String → Prop
  | create {body background key request} (admitted : submissionBody body key = some payload)
      (made : createRequest payload = .ok request) :
      Submission payload (.createDocument body background key) .create request key
  | update {documentId id body expectedVersion background key request}
      (admitted : submissionBody body key = some payload)
      (parsed : Uuid4.parse documentId = some id)
      (made : updateRequest payload id expectedVersion.toNat = .ok request) :
      Submission payload (.updateDocument documentId body expectedVersion background key) .update
        request key

def receiptsOf : Documents.Reply → List DocumentJob
  | .submission job _ | .job job => [job]
  | _ => []

def claimsOf : Documents.Reply → List DocumentJobClaim
  | .claim claim => claim.toList
  | _ => []

/-- The receipts and claims a session was handed, and all it was answered. -/
structure Known where
  jobs : List DocumentJob
  claims : List DocumentJobClaim
  answered : List (StoreMethod × Documents.Reply)

namespace Known

def nothing : Known := { jobs := [], claims := [], answered := [] }

instance : Preorder Known where
  le known later := known.jobs ⊆ later.jobs ∧ known.claims ⊆ later.claims ∧
    known.answered ⊆ later.answered
  le_refl known := ⟨List.Subset.refl _, List.Subset.refl _, List.Subset.refl _⟩
  le_trans _ _ _ first second :=
    ⟨List.Subset.trans first.1 second.1, List.Subset.trans first.2.1 second.2.1,
      List.Subset.trans first.2.2 second.2.2⟩

def learn (known : Known) (method : StoreMethod) : Except ServerError Documents.Reply → Known
  | .ok reply =>
      { jobs := known.jobs ++ receiptsOf reply
        claims := known.claims ++ claimsOf reply
        answered := known.answered ++ [(method, reply)] }
  | .error _ => known

theorem le_learn (known : Known) (method : StoreMethod)
    (reply : Except ServerError Documents.Reply) : known ≤ known.learn method reply := by
  cases reply with
  | error => exact le_refl _
  | ok reply => exact ⟨List.subset_append_left _ _, List.subset_append_left _ _,
      List.subset_append_left _ _⟩

theorem le_claims {known later : Known} (grown : known ≤ later) {claim : DocumentJobClaim}
    (held : claim ∈ known.claims) : claim ∈ later.claims := grown.2.1 held

theorem le_answered {known later : Known} (grown : known ≤ later)
    {answer : StoreMethod × Documents.Reply} (told : answer ∈ known.answered) :
    answer ∈ later.answered := grown.2.2 told

end Known

/-- A receipt that a session got of a job of its tenant. -/
structure Receipt (known : Known) (method : StoreMethod) (tenantId jobId : String)
    (job : DocumentJob) : Prop where
  received : job ∈ known.jobs
  tenant : job.tenantId = tenantId
  about : job.jobId.text = jobId
  told : (method, .job job) ∈ known.answered

structure Registered (known : Known) (tenantId : String) (request : DocumentRequest)
    (operation : JobOperation) (key : String) (submission : DocumentJob × Bool) : Prop where
  received : submission.1 ∈ known.jobs
  tenant : submission.1.tenantId = tenantId
  told : (.submitJob tenantId request operation DocumentSubmissionFacade.options key,
    .submission submission.1 submission.2) ∈ known.answered

/-- The jobs a session may process: the one it was sent, or one it submitted. -/
inductive Due (known : Known) : Origin → String → Prop
  | delivered {message delivery} (valid : DocumentJobDelivery.validate message.payload =
      .ok delivery) : Due known (.worker message) delivery.jobId.text
  | submitted {request job} (receipt : job ∈ known.jobs) :
      Due known (.http request) job.jobId.text

/-- The transactions of a session of the tenant, with the grants each needs. -/
inductive Authorised (settings : TenantSettings) (tenantId : String) (origin : Origin)
    (known : Known) : StoreMethod → Prop
  | submit {payload route operation request key} (routed : origin.route = some route)
      (submission : Submission payload route operation request key)
      (granted : settings.Grants tenantId ("document." ++ operation.text)) :
      Authorised settings tenantId origin known
        (.submitJob tenantId request operation DocumentSubmissionFacade.options key)
  | status {jobId id} (routed : origin.route = some (.documentJob jobId))
      (parsed : Uuid4.parse jobId = some id)
      (granted : settings.Grants tenantId "document.job.read") :
      Authorised settings tenantId origin known (.getJob id.text tenantId)
  | retrying {jobId id} (routed : origin.route = some (.retryDocumentJob jobId))
      (parsed : Uuid4.parse jobId = some id)
      (granted : settings.Grants tenantId "document.job.retry") :
      Authorised settings tenantId origin known (.getJob id.text tenantId)
  | retry {job} {jobId} (routed : origin.route = some (.retryDocumentJob jobId))
      (parsed : Uuid4.parse jobId = some job.jobId)
      (granted : settings.Grants tenantId "document.job.retry") (receipt : job ∈ known.jobs)
      (allowed : settings.Grants tenantId ("document." ++ job.operation.text)) :
      Authorised settings tenantId origin known (.retryJob job.jobId.text tenantId)
  | published {job} (receipt : job ∈ known.jobs) :
      Authorised settings tenantId origin known (.markJobPublished job.jobId.text tenantId)
  | report {job} (receipt : job ∈ known.jobs) :
      Authorised settings tenantId origin known (.getJob job.jobId.text tenantId)
  | claim {jobId} (due : Due known origin jobId) :
      Authorised settings tenantId origin known (.claimJob jobId tenantId)
  | observe {jobId} (due : Due known origin jobId) :
      Authorised settings tenantId origin known (.getJob jobId tenantId)
  | latest {claim request} (held : claim ∈ known.claims) (update : claim.request = .update request)
      (granted : settings.Grants tenantId "document.update") :
      Authorised settings tenantId origin known (.get tenantId request.documentId none)
  | commit {claim record} (held : claim ∈ known.claims) (tenant : claim.job.tenantId = tenantId)
      (granted : settings.Grants tenantId ("document." ++ claim.job.operation.text))
      (processes : Processes claim record) :
      Authorised settings tenantId origin known (.commitJob claim record)
  | fail {claim errorCode} (held : claim ∈ known.claims) (tenant : claim.job.tenantId = tenantId) :
      Authorised settings tenantId origin known (.failJob claim errorCode)
  | read {documentId id exact version}
      (routed : origin.route = some (.readDocument documentId exact))
      (parsed : Uuid4.parse documentId = some id)
      (granted : settings.Grants tenantId "document.read") :
      Authorised settings tenantId origin known (.get tenantId id version)
  | delete {documentId id} (routed : origin.route = some (.deleteDocument documentId))
      (parsed : Uuid4.parse documentId = some id)
      (granted : settings.Grants tenantId "document.delete") :
      Authorised settings tenantId origin known (.delete tenantId id)

def Permits (settings : TenantSettings) (tenantId : String) (origin : Origin) (known : Known) :
    Ask → Prop
  | .log | .getDocumentStore | .uuid4 | .now => True
  | .applyAsync jobId tenant queue => tenant = tenantId ∧
      settings.tenantQueue tenantId = some queue ∧ ∃ job ∈ known.jobs, job.jobId = jobId
  | .call method => Authorised settings tenantId origin known method

/-! ## What a reply is about -/

def StoreMethod.jobId : StoreMethod → Option String
  | .getJob jobId _ | .claimJob jobId _ | .retryJob jobId _ => some jobId
  | _ => none

/-- A reply shows data of the tenant, and of the job it was asked about. -/
def Describes (method : StoreMethod) : Documents.Reply → Prop
  | .submission job _ => job.tenantId = method.tenant
  | .job job => job.tenantId = method.tenant ∧ method.jobId = some job.jobId.text
  | .claim (some claim) => claim.job.tenantId = method.tenant
  | .claim none => True
  | .record record => record.tenantId = method.tenant
  | .nothing => True

def Admits : (request : Ask) → Answer request → Prop
  | .log, reply | .getDocumentStore, reply | .applyAsync _ _ _, reply =>
      Attempted (α := Unit) reply
  | .now, reply => Attempted (α := Int) reply
  | .uuid4, _ => True
  | .call method, reply =>
      (∀ answer, reply = .ok answer → Describes method answer) ∧
        ∀ error, reply = .error error →
          error.Outside ∨ ∃ raised, error = .raised (.document raised)

def advance (known : Known) : (request : Ask) → Answer request → Known
  | .call method, reply => known.learn method reply
  | .log, _ | .getDocumentStore, _ | .applyAsync _ _ _, _ | .now, _ | .uuid4, _ => known

def monitor (settings : TenantSettings) (origin : Origin) : Monitor Answer Known where
  permits known request := ∃ tenantId, origin.Admitted settings tenantId ∧
    Permits settings tenantId origin known request
  admits _ := Admits
  advance := advance

/-! ## What a client is told -/

/-- The answers of the routes, beside their results. -/
def publicAnswers : List HttpException :=
  [⟨401, "Bearer token required"⟩, ⟨403, "Tenant access denied"⟩,
   ⟨422, "Invalid document request"⟩, ⟨403, "Document operation denied"⟩,
   ⟨503, "Document authorization unavailable"⟩, ⟨404, "Document or job unavailable"⟩,
   ⟨409, "Document operation conflicts with existing state"⟩,
   ⟨422, "Invalid document input or resource limits"⟩, ⟨503, "Document storage unavailable"⟩,
   ⟨503, "Publication unconfirmed; retry with the same idempotency key"⟩,
   ⟨500, "Document operation failed"⟩]

/-- Inside a route, only the route itself has made an answer of an exception. -/
def Contained (error : ServerError) : Prop :=
  ∀ exception, error = .httpException exception → exception ∈ publicAnswers

/-- An exception that leaves a route: one of its answers, or a failure of the
libraries that nothing caught. -/
def Public (error : ServerError) : Prop :=
  error.Outside ∨ ∃ exception ∈ publicAnswers, error = .httpException exception

def Response.Of (tenantId : String) (known : Known) (route : Route) : Response → Prop
  | .submission status receipt replayed => receipt.tenantId = tenantId ∧
      ∃ payload operation request key registered, Submission payload route operation request key ∧
        (.submitJob tenantId request operation DocumentSubmissionFacade.options key,
          .submission registered replayed) ∈ known.answered ∧
        (.getJob registered.jobId.text tenantId, .job receipt) ∈ known.answered ∧
        status = statusOf receipt route.background
  | .job _ receipt => receipt.tenantId = tenantId ∧
      ∃ jobId id, (route = .documentJob jobId ∨ route = .retryDocumentJob jobId) ∧
        Uuid4.parse jobId = some id ∧ (.getJob id.text tenantId, .job receipt) ∈ known.answered
  | .version record => record.tenantId = tenantId ∧
      ∃ documentId id exact, route = .readDocument documentId exact ∧
        Uuid4.parse documentId = some id ∧
        (.get tenantId id (exact.map Int.toNat), .record record) ∈ known.answered
  | .deleted => ∃ documentId id reply, route = .deleteDocument documentId ∧
      Uuid4.parse documentId = some id ∧ (.delete tenantId id, reply) ∈ known.answered
  | .observed _ _ => False

/-- How a session ends. What a worker raises reaches the broker only. -/
def Ends (settings : TenantSettings) (known : Known) : Origin →
    Except ServerError Response → Prop
  | .http request, .ok response => ∃ tenantId,
      settings.Authenticated request.tenantHeader request.credentials tenantId ∧
        response.Of tenantId known request.route
  | .http _, .error error => Public error
  | .worker message, .ok response => ∃ delivery job,
      DocumentJobDelivery.validate message.payload = .ok delivery ∧
        (Origin.worker message).Admitted settings delivery.tenantId ∧
        job.tenantId = delivery.tenantId ∧
        (.getJob delivery.jobId.text delivery.tenantId, .job job) ∈ known.answered ∧
        response = .observed delivery.jobId job.state
  | .worker _, .error _ => True

/-! ## The discipline -/

/-- A session of the tenant was authorised to make the transaction. -/
def Entry.Vouched (settings : TenantSettings) (store : SQLiteDocumentStore) (entry : Entry) :
    Prop :=
  ∃ tenantId known drawing method clock, entry.origin.Admitted settings tenantId ∧
    Authorised settings tenantId entry.origin known method ∧
    entry.transition.call = method.call store drawing clock

structure Shared (settings : TenantSettings) (store : SQLiteDocumentStore)
    (state : ServerState) : Prop where
  run : ∃ first, Initial first ∧ Run Documents.Step first state.trace state.documents
  disciplined : Disciplined state.trace
  vouched : ∀ entry ∈ state.history, entry.Vouched settings store

structure Recalls (state : ServerState) (origin : Origin) (known : Known) : Prop where
  claims : ∀ claim ∈ known.claims, claim ∈ state.documents.issued
  answered : ∀ answer ∈ known.answered, ∃ entry ∈ state.history, entry.origin = origin ∧
    (∃ drawing, entry.transition.call.operation = answer.1.operation drawing) ∧
    entry.transition.reply = .ok answer.2

def discipline (settings : TenantSettings) (store : SQLiteDocumentStore) :
    Service.Discipline Answer Origin ServerState (Except ServerError Response × Unit) Known where
  monitor := monitor settings
  start := .nothing
  post origin value known := Ends settings known origin value.1
  Shared := Shared settings store
  Knows := Recalls

end Crewos.DocumentService

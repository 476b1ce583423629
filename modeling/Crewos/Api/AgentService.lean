import Crewos.Agent.Deliveries
import Crewos.Api.Authorization
import Crewos.Api.PublicRecord
import Crewos.Foundation.Interpretation

/-! # The agent service

The agent and task routes, the ownership entries behind them and the task of the
workers, as programs: every store call, entry, publication and look at the result
backend is a request to the surroundings, and each may fail. A worker runs its
attempt with the status tool answered by the program of its handler. -/

namespace Crewos.AgentService

open Foundation RunStore Api
open Agent (AgentRunJob AgentAnswer AnswerMode Exc Lease ToolResult validated)

/-! ## Exceptions -/

inductive ServerError where
  | raised (error : Exc)
  | policyDenied
  | policyEvaluationError
  | httpException (exception : HttpException)
  | requestValidationError
  | ignore
  deriving DecidableEq

/-- A `RunConflict` or one of its subclasses. -/
def isRunConflict : RunStoreError → Bool
  | .runConflict _ | .runLeaseLost _ | .unsafeReplay _ => true
  | _ => false

/-- A `sqlite3.Error` -/
def isSqliteError : RunStoreError → Bool
  | .integrityError | .operationalError => true
  | _ => false

def ServerError.exc : ServerError → Exc
  | .raised error => error
  | .policyDenied => .other "PolicyDeniedError"
  | .policyEvaluationError => .other "PolicyEvaluationError"
  | .httpException _ => .other "HTTPException"
  | .requestValidationError => .other "RequestValidationError"
  | .ignore => .other "Ignore"

/-! ## The surroundings -/

structure ServiceSettings where
  tenants : TenantSettings
  store : SQLiteRunStore
  agentMaxDecisions : Nat
  agentMaxDuration : Time

inductive Ask where
  | log
  | getTaskStore
  | getRunStore
  | uuid4
  | now
  | call (operation : Operation)
  /-- `SET key tenant EX ttl NX` -/
  | setOwner (key tenantId : String)
  | getOwner (key : String)
  | applyAsync (payload : Dict) (taskId queue : String)
  | runCrew (tenantId : String) (payload : Dict) (taskId queue : String)
  | state (taskId : String)
  | result (taskId : String)
  | resultType (taskId : String)
  /-- A request of a worker's attempt. -/
  | attempt (request : Agent.Request)

def Answer : Ask → Type
  | .log | .getTaskStore | .getRunStore | .applyAsync _ _ _ | .runCrew _ _ _ _ => Except Exc Unit
  | .uuid4 => Uuid4
  | .now => Time
  | .call _ => Except RunStoreError RunStore.Reply
  | .setOwner _ _ => Except Exc Bool
  | .getOwner _ => Except Exc (Option String)
  | .state _ | .resultType _ => Except Exc String
  | .result _ => Except Exc Json
  | .attempt request => Agent.Reply request

abbrev Server := Exec Answer ServerError Unit

def ask (request : Ask) : Server (Answer request) := Exec.ask request

def raising (reply : Except Exc α) : Server α := Exec.ofExcept (reply.mapError .raised)

def log : Server Unit := do
  let logged : Except Exc Unit ← ask .log
  raising logged

def getTaskStore : Server Unit := do
  let opened : Except Exc Unit ← ask .getTaskStore
  raising opened

def getRunStore : Server Unit := do
  let opened : Except Exc Unit ← ask .getRunStore
  raising opened

def applyAsync (payload : Dict) (taskId queue : String) : Server Unit := do
  let sent : Except Exc Unit ← ask (.applyAsync payload taskId queue)
  raising sent

def runCrew (tenantId : String) (payload : Dict) (taskId queue : String) : Server Unit := do
  let sent : Except Exc Unit ← ask (.runCrew tenantId payload taskId queue)
  raising sent

/-- `time.time()` -/
def time : Server Time := ask .now

/-- `AsyncResult(task_id).state` -/
def taskState (taskId : String) : Server String := do
  let state : Except Exc String ← ask (.state taskId)
  raising state

/-! ## The run store -/

namespace RunStoreInterface

/-- What the methods return; none returns anything else. -/
def recordOf : RunStore.Reply → Except ServerError RunRow
  | .record row => .ok row
  | _ => .error (.raised .typeError)

def historyOf : RunStore.Reply → Except ServerError (RunRow × List AttemptSummary)
  | .history row attempts => .ok (row, attempts)
  | _ => .error (.raised .typeError)

def call (operation : Operation) : Server RunStore.Reply := do
  let reply : Except RunStoreError RunStore.Reply ← ask (.call operation)
  raising (reply.mapError .store)

def create (job : Dict) (duration : Time) (idempotencyKey : Option String) : Server RunRow := do
  Exec.ofExcept (recordOf (← call (.create job duration idempotencyKey)))

def get (runId tenantId : String) : Server (RunRow × List AttemptSummary) := do
  Exec.ofExcept (historyOf (← call (.get runId tenantId)))

def cancel (runId tenantId : String) : Server RunRow := do
  Exec.ofExcept (recordOf (← call (.cancel runId tenantId)))

def resume (runId tenantId : String) : Server RunRow := do
  Exec.ofExcept (recordOf (← call (.resume runId tenantId)))

def markPublished (runId tenantId : String) : Server Unit := do
  let _ ← call (.markPublished runId tenantId)

end RunStoreInterface

/-! ## Ownership entries -/

namespace TaskOwnershipStore

variable (settings : ServiceSettings)

def key (taskId : String) : String := "crewos:task-owner:" ++ settings.store.sha256 taskId

def register (taskId tenantId : String) : Server Unit := do
  let reply : Except Exc Bool ← ask (.setOwner (key settings taskId) tenantId)
  let created ← raising reply
  Exec.raiseIf (created = false) (.raised (.other "RuntimeError"))

def taskNotFound : HttpException := ⟨404, "Task not found"⟩

def requireOwner (taskId tenantId : String) : Server Unit := do
  let reply : Except Exc (Option String) ← ask (.getOwner (key settings taskId))
  let owner ← raising reply
  Exec.raiseIf (owner ≠ some tenantId) (.httpException taskNotFound)

/-- `except HTTPException`, where only a 404 is handled. -/
def unlessNotFound (computation : Server α) (missing : Server α) : Server α :=
  tryCatch computation fun error =>
    match error with
    | .httpException exception => if exception.status ≠ 404 then throw error else missing
    | error => throw error

def ensureOwner (taskId tenantId : String) : Server Unit :=
  unlessNotFound (requireOwner settings taskId tenantId) (register settings taskId tenantId)

end TaskOwnershipStore

/-! ## Bodies and responses -/

structure AgentRunRequest where
  message : Stripped (some 32768)
  maxDecisions : Nat
  positive : 1 ≤ maxDecisions
  answerMode : AnswerMode

theorem AgentRunRequest.default_positive : 1 ≤ 5 := by decide

theorem AgentRunRequest.read_positive (budget : { count : Nat // 1 ≤ count }) :
    1 ≤ budget.1 :=
  budget.2

def AgentRunRequest.validate (body : Json) : Option AgentRunRequest := do
  let data ← Fields.object ["message", "max_decisions", "answer_mode"] body
  let message ← Fields.required data "message" (Stripped.read (some 32768))
  let budget ← Fields.optional data "max_decisions" ⟨5, default_positive⟩ AgentRunJob.readBudget
  let answerMode ← Fields.optional data "answer_mode" .general AnswerMode.read
  return { message, maxDecisions := budget.1, positive := read_positive budget, answerMode }

def AgentRunRequest.job (payload : AgentRunRequest) (context : ToolExecutionContext)
    (agentRunId : Uuid4) : AgentRunJob :=
  { agentRunId, tenantId := context.tenantId, tenant := context.pattern,
    message := payload.message, maxDecisions := payload.maxDecisions,
    positive := payload.positive, answerMode := payload.answerMode }

/-- The input of a crew may have any other fields. -/
structure CrewRunRequest where
  agentType : String
  message : String
  nonblank : Text.strip Text.isspace message ≠ ""
  extra : Dict

namespace CrewRunRequest

def readType : Json → Option String
  | .str text => some text
  | _ => none

def readInput (agentType : String) : Json → Option CrewRunRequest
  | .obj input =>
      match Dict.get? input "message" with
      | some (.str message) =>
          if nonblank : Text.strip Text.isspace message ≠ "" then
            some { agentType, message, nonblank,
                   extra := input.filter fun field => field.1 ≠ "message" }
          else none
      | _ => none
  | _ => none

def validate : Json → Option CrewRunRequest
  | .obj body =>
      match readType (Dict.getD body "agent_type" (.str "research")), Dict.get? body "input" with
      | some agentType, some input => readInput agentType input
      | _, _ => none
  | _ => none

def dump (payload : CrewRunRequest) : Dict :=
  [("agent_type", .str payload.agentType),
    ("input", .obj (("message", .str payload.message) :: payload.extra))]

end CrewRunRequest

deriving instance DecidableEq for PublicRecord

inductive Response where
  | accepted (agentRunId : Uuid4) (status : RunState) (replayed : Bool)
  | record (record : PublicRecord)
  | queued (runId : String)
  | enqueued (taskId : String)
  | status (taskId state : String) (result : Option Json)
  /-- What a worker's task returns. -/
  | answered (answer : Json)
  | beaten
  deriving DecidableEq

/-! ## Routes -/

def executor : PolicyEnforcedExecutor Answer ServerError where
  evaluate context action := pure (permissionPolicy context action)
  log := log
  isException _ := true
  policyDenied _ := .policyDenied
  policyEvaluation := .policyEvaluationError

def tenantQueue (settings : ServiceSettings) (tenantId : String) : Server String :=
  Exec.ofExcept ((settings.tenants.tenantQueue tenantId).elim
    (.error (.raised (.valueError "Invalid tenant identifier"))) .ok)

/-- The `except` clauses of a route: an answer for the exceptions it names, and one
for all others, which are logged. -/
def answering (named : ServerError → Option HttpException) (failed : HttpException)
    (operation : Server α) : Server α :=
  tryCatch operation fun error =>
    match named error with
    | some exception => throw (.httpException exception)
    | none => do
        log
        throw (.httpException failed)

/-- What `submit_agent_run` answers for an exception it names. -/
def submissionAnswer : ServerError → Option HttpException
  | .policyDenied => some ⟨403, "Agent run creation denied"⟩
  | .policyEvaluationError => some ⟨503, "Agent authorization unavailable"⟩
  | .httpException exception => some exception
  | .raised (.store error) =>
      if isRunConflict error then some ⟨409, "Agent submission conflicts with existing run"⟩
      else if isSqliteError error then some ⟨503, "Task storage unavailable"⟩
      else none
  | .raised (.redisError _) => some ⟨503, "Task storage unavailable"⟩
  | _ => none

def decisionBudget : HttpException := ⟨422, "Decision budget exceeds server policy"⟩

/-- `enqueue`, from the answer of `create` on. -/
def publishRun (settings : ServiceSettings) (tenantId : String) (job : AgentRunJob)
    (record : RunRow) : Server Response := do
  let replayed : Bool := record.id ≠ job.agentRunId.text
  if replayed = true ∧ (record.published = true ∨ record.state ≠ .queued) then
    let agentRunId ← raising (validated (Uuid4.parse record.id))
    return .accepted agentRunId record.state true
  else
    let registered ← raising (validated (AgentRunJob.validate (.obj record.job)))
    let runId := registered.agentRunId.text
    let queue ← tenantQueue settings tenantId
    TaskOwnershipStore.ensureOwner settings runId tenantId
    applyAsync registered.dump runId queue
    RunStoreInterface.markPublished runId tenantId
    log
    return .accepted registered.agentRunId .queued replayed

/-- `enqueue` -/
def enqueue (settings : ServiceSettings) (context : ToolExecutionContext)
    (payload : AgentRunRequest) (idempotencyKey : Option String) : Server Response := do
  Exec.raiseIf (settings.agentMaxDecisions < payload.maxDecisions) (.httpException decisionBudget)
  let agentRunId : Uuid4 ← ask .uuid4
  let job := payload.job context agentRunId
  let record ← RunStoreInterface.create job.dump settings.agentMaxDuration idempotencyKey
  publishRun settings context.tenantId job record

def submitAgentRun (settings : ServiceSettings) (context : ToolExecutionContext)
    (payload : AgentRunRequest) (idempotencyKey : Option String) : Server Response :=
  answering submissionAnswer ⟨500, "Failed to submit agent run"⟩
    (executor.execute context "agent_run.create"
      (enqueue settings context payload idempotencyKey))

/-- What `run_operation` answers for an exception it names. -/
def operationAnswer : ServerError → Option HttpException
  | .policyDenied => some ⟨403, "Agent operation denied"⟩
  | .policyEvaluationError => some ⟨503, "Agent authorization unavailable"⟩
  | .raised (.store (.runNotFound _)) => some ⟨404, "Agent run unavailable"⟩
  | .raised (.store error) =>
      if isRunConflict error then some ⟨409, "Agent run cannot perform this transition"⟩
      else if isSqliteError error then some ⟨503, "Agent storage unavailable"⟩
      else none
  | .raised (.redisError _) => some ⟨503, "Agent storage unavailable"⟩
  | .httpException exception => some exception
  | _ => none

def runOperation (context : ToolExecutionContext) (action : String) (operation : Server α) :
    Server α :=
  answering operationAnswer ⟨500, "Agent operation failed"⟩
    (executor.execute context action operation)

/-- The clock is read for a running run only. -/
def shownTime (record : RunRow) : Server Time :=
  if record.state = .running then time else pure 0

/-- `public_record` -/
def shownRecord (record : RunRow) (attemptHistory : Option (List AttemptSummary)) :
    Server Response := do
  let now ← shownTime record
  let shown ← raising ((publicRecord record attemptHistory now).mapError .store)
  return .record shown

def readAgentRun (context : ToolExecutionContext) (runId : String) : Server Response :=
  runOperation context "agent_run.read" do
    let record ← RunStoreInterface.get runId context.tenantId
    shownRecord record.1 (some record.2)

def cancelAgentRun (context : ToolExecutionContext) (runId : String) : Server Response :=
  runOperation context "agent_run.cancel" do
    let record ← RunStoreInterface.cancel runId context.tenantId
    shownRecord record none

def resumeAgentRun (settings : ServiceSettings) (context : ToolExecutionContext)
    (runId : String) : Server Response :=
  runOperation context "agent_run.resume" do
    let record ← RunStoreInterface.resume runId context.tenantId
    TaskOwnershipStore.ensureOwner settings runId context.tenantId
    let queue ← tenantQueue settings context.tenantId
    applyAsync record.job runId queue
    RunStoreInterface.markPublished runId context.tenantId
    return .queued runId

/-- What `run_crew_api` answers for an exception it names. -/
def crewAnswer : ServerError → Option HttpException
  | .raised (.redisError _) => some ⟨503, "Task storage unavailable"⟩
  | _ => none

def runCrewApi (settings : ServiceSettings) (tenantId : String) (payload : CrewRunRequest) :
    Server Response := do
  let queue ← tenantQueue settings tenantId
  log
  answering crewAnswer ⟨500, "Failed to enqueue task"⟩ do
    let taskId : Uuid4 ← ask .uuid4
    TaskOwnershipStore.register settings taskId.text tenantId
    runCrew tenantId payload.dump taskId.text queue
    log
    return .enqueued taskId.text

def shownResult (taskId state : String) : Server (Option Json) := do
  if state = "SUCCESS" then
    let reply : Except Exc Json ← ask (.result taskId)
    return some (← raising reply)
  else if state = "FAILURE" then
    let reply : Except Exc String ← ask (.resultType taskId)
    let errorType ← raising reply
    return some (.obj [("error_type", .str errorType),
      ("error_message", .str "Task execution failed")])
  else
    return none

def getTaskStatus (settings : ServiceSettings) (taskId tenantId : String) : Server Response := do
  let state ← tryCatch
    (do
      TaskOwnershipStore.requireOwner settings taskId tenantId
      taskState taskId)
    fun error =>
      match error with
      | .raised (.redisError _) => throw (.httpException ⟨503, "Task storage unavailable"⟩)
      | error => throw error
  log
  let result ← answering (fun _ => none) ⟨500, "Task result unavailable"⟩
    (shownResult taskId state)
  return .status taskId state result

/-- A route with its parameters, as a client sends them. -/
inductive Route where
  | submitAgentRun (body : Json) (idempotencyKey : Option String)
  | readAgentRun (runId : String)
  | cancelAgentRun (runId : String)
  | resumeAgentRun (runId : String)
  | runCrewApi (body : Json)
  | getTaskStatus (taskId : String)

structure HttpRequest where
  tenantHeader : String
  credentials : Option String
  route : Route

def parameter (value : Option α) : Server α :=
  Exec.ofExcept (value.elim (.error .requestValidationError) .ok)

/-- `Header(min_length=1, max_length=128)` -/
def headerBounds (idempotencyKey : Option String) : Option Unit :=
  if ∃ text ∈ idempotencyKey, text.length < 1 ∨ 128 < text.length then none else some ()

def authenticated (outcome : Except HttpException α) : Server α :=
  Exec.ofExcept (outcome.mapError .httpException)

/-- Dependencies are resolved in the order the routes name them. -/
def serve (settings : ServiceSettings) (request : HttpRequest) : Server Response :=
  let context := authenticated
    (settings.tenants.getToolExecutionContext request.tenantHeader request.credentials)
  match request.route with
  | .submitAgentRun body idempotencyKey => do
      let context ← context
      getTaskStore
      getRunStore
      let payload ← parameter (AgentRunRequest.validate body)
      parameter (headerBounds idempotencyKey)
      submitAgentRun settings context payload idempotencyKey
  | .readAgentRun runId => do
      let context ← context
      getRunStore
      readAgentRun context runId
  | .cancelAgentRun runId => do
      let context ← context
      getRunStore
      cancelAgentRun context runId
  | .resumeAgentRun runId => do
      let context ← context
      getRunStore
      getTaskStore
      resumeAgentRun settings context runId
  | .runCrewApi body => do
      let context ← context
      getTaskStore
      let payload ← parameter (CrewRunRequest.validate body)
      runCrewApi settings context.tenantId payload
  | .getTaskStatus taskId => do
      let tenantId ← authenticated
        (settings.tenants.getTenantId request.tenantHeader request.credentials)
      getTaskStore
      getTaskStatus settings taskId tenantId

/-! ## The status tool -/

inductive AgentTaskStatus where
  | queued
  | pending
  | running
  | retrying
  | succeeded
  | failed
  | revoked
  | unknown
  deriving DecidableEq, Repr

def AgentTaskStatus.value : AgentTaskStatus → String
  | .queued => "queued"
  | .pending => "pending"
  | .running => "running"
  | .retrying => "retrying"
  | .succeeded => "succeeded"
  | .failed => "failed"
  | .revoked => "revoked"
  | .unknown => "unknown"

def mapCeleryState : String → AgentTaskStatus
  | "PENDING" => .pending
  | "STARTED" => .running
  | "RETRY" => .retrying
  | "SUCCESS" => .succeeded
  | "FAILURE" => .failed
  | "REVOKED" => .revoked
  | _ => .unknown

inductive GetAgentTaskStatusResult where
  | found (agentTaskId : String) (status : AgentTaskStatus)
  | unavailable (agentTaskId : String)
  deriving DecidableEq, Repr

def GetAgentTaskStatusResult.dump : GetAgentTaskStatusResult → Json
  | .found agentTaskId status =>
      .obj [("outcome", .str "found"), ("agent_task_id", .str agentTaskId),
        ("status", .str status.value)]
  | .unavailable agentTaskId =>
      .obj [("outcome", .str "unavailable"), ("agent_task_id", .str agentTaskId)]

/-- `CeleryTaskStatusReader.read` -/
def readTaskStatus (settings : ServiceSettings) (agentTaskId tenantId : String) :
    Server GetAgentTaskStatusResult :=
  tryCatch
    (do
      let accessible ← TaskOwnershipStore.unlessNotFound
        (do
          TaskOwnershipStore.requireOwner settings agentTaskId tenantId
          return true)
        (return false)
      log
      if accessible = true then
        let state ← taskState agentTaskId
        log
        return .found agentTaskId (mapCeleryState state)
      else
        return .unavailable agentTaskId)
    fun error => do
      log
      throw error

/-- `GetAgentTaskStatusInput` -/
def readTaskId (arguments : Dict) : Option (Stripped none) := do
  let data ← Fields.object ["agent_task_id"] (.obj arguments)
  Fields.required data "agent_task_id" (Stripped.read none)

def getAgentTaskStatus (settings : ServiceSettings) (context : ToolExecutionContext)
    (arguments : Dict) : Server ToolResult := do
  let agentTaskId ← raising (validated (readTaskId arguments))
  let found ← executor.execute context "agent_task.read"
    (readTaskStatus settings agentTaskId.value context.tenantId)
  return .other found.dump

/-! ## The worker -/

/-- A message of the broker, as a worker gets it. -/
structure Message where
  payload : Json
  requestId : String
  routingKey : Option String

/-- `get_tool_execution_context(tenant_id=job.tenant_id)` -/
def workerContext (settings : ServiceSettings) (job : AgentRunJob) : ToolExecutionContext :=
  { tenantId := job.tenantId
    permissions := (settings.tenants.tenantPermissions job.tenantId).getD []
    pattern := job.tenant }

/-- The status tool is answered by its handler. Everything else is passed on. -/
def answerRequest (settings : ServiceSettings) (context : ToolExecutionContext) :
    (request : Agent.Request) → Program Answer (Agent.Reply request)
  | .handle tool arguments remaining =>
      if tool = "get_agent_task_status" then
        ((getAgentTaskStatus settings context arguments).run ()).bind fun out =>
          .done (out.1.mapError ServerError.exc : Except Exc ToolResult)
      else
        .ask (.attempt (.handle tool arguments remaining)) .done
  | request => .ask (.attempt request) .done

/-- `execute_agent_job` among the other programs. -/
def executeAgentJob (settings : ServiceSettings) (worker : Agent.Settings) (job : AgentRunJob) :
    Server AgentAnswer :=
  ExceptT.mk fun state =>
    ((Agent.delivery worker (.obj job.dump)).interpret
      (answerRequest settings (workerContext settings job))).bind fun out =>
        .done (out.1.mapError .raised, state)

/-- `except (RunConflict, RunCancelled)` -/
def notExecuted : ServerError → Bool
  | .raised (.store (.runCancelled _)) => true
  | .raised (.store error) => isRunConflict error
  | _ => false

def runRegistered (settings : ServiceSettings) (worker : Agent.Settings) (job : AgentRunJob) :
    Server Response := do
  log
  tryCatch
    (do
      let answer ← executeAgentJob settings worker job
      log
      return .answered answer.dump)
    fun error => do
      log
      throw (if notExecuted error then .ignore else error)

def runAgent (settings : ServiceSettings) (worker : Agent.Settings) (message : Message) :
    Server Response := do
  let job ← raising (validated (AgentRunJob.validate message.payload))
  Exec.raiseIf (message.requestId ≠ job.agentRunId.text)
    (.raised (.valueError "Celery delivery ID does not match agent run ID"))
  let queue ← tenantQueue settings job.tenantId
  Exec.raiseIf (message.routingKey ≠ some queue)
    (.raised (.valueError "Agent job was delivered with an unexpected tenant routing key"))
  runRegistered settings worker job

/-- The thread that renews a lease, for at most so many beats. -/
def renew (lease : Lease) : Nat → Server Response
  | 0 => return .beaten
  | beats + 1 => do
      match ← RunStoreInterface.call (.guard lease.runId lease.tenant lease.token) with
      | .remaining remaining => if remaining ≤ 0 then return .beaten else renew lease beats
      | _ => return .beaten

inductive Origin where
  | http (request : HttpRequest)
  | worker (worker : Agent.Settings) (message : Message)
  | heartbeat (store : SQLiteRunStore) (lease : Lease) (beats : Nat)

def handle (settings : ServiceSettings) :
    Origin → Program Answer (Except ServerError Response × Unit)
  | .http request => (serve settings request).run ()
  | .worker worker message => (runAgent settings worker message).run ()
  | .heartbeat _ lease beats => (renew lease beats).run ()

end Crewos.AgentService

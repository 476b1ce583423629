import Crewos.Api.AgentService
import Crewos.Api.Publication
import Crewos.Agent.Tenancy
import Crewos.Foundation.Service

/-! # Sessions of the agent service

Requests, deliveries and heartbeats that run side by side over one run database
and one set of ownership entries. An entry may expire at any time, a call may fail
before it begins or after it took effect, and a session may stop anywhere. -/

namespace Crewos.AgentService

open Foundation RunStore Api
open Agent (AgentRunJob Exc Lease)

/-! ## The shared state -/

structure Entry where
  origin : Origin
  call : Call

/-- `registered` remembers the entries that ever were, with the tenant of each. -/
structure ServerState where
  store : StoreState
  owners : List (String × String)
  drawn : List (Origin × Uuid4)
  history : List Entry
  registered : List (String × String)

namespace ServerState

def empty (now : Time) : ServerState :=
  { store := { db := .empty, now }, owners := [], drawn := [], history := [], registered := [] }

def calls (state : ServerState) : List Call := state.history.map Entry.call

def owner (state : ServerState) (key : String) : Option String :=
  (state.owners.find? fun entry => entry.1 = key).map Prod.snd

def perform (state : ServerState) (origin : Origin) (call : Call) (store : StoreState) :
    ServerState :=
  { state with store, history := state.history ++ [⟨origin, call⟩] }

def register (state : ServerState) (key tenantId : String) : ServerState :=
  { state with
      owners := (key, tenantId) :: state.owners
      registered := state.registered ++ [(key, tenantId)] }

/-- Nothing but entries is lost. -/
def fade (state : ServerState) (owners : List (String × String)) : ServerState :=
  { state with owners }

@[simp] theorem calls_perform (state : ServerState) (origin : Origin) (call : Call)
    (store : StoreState) : (state.perform origin call store).calls = state.calls ++ [call] := by
  simp [calls, perform]

end ServerState

def Origin.store (settings : ServiceSettings) : Origin → SQLiteRunStore
  | .http _ => settings.store
  | .worker configured _ => configured.store
  | .heartbeat store _ _ => store

inductive Transacts (settings : ServiceSettings) (origin : Origin) (state : ServerState)
    (operation : Operation) : Except RunStoreError RunStore.Reply → ServerState → Prop
  | before : Transacts settings origin state operation (.error .operationalError) state
  | done {call : Call} {store : StoreState} (configured : call.store = origin.store settings)
      (calls : call.operation = operation) (step : RunStore.Step state.store call store) :
      Transacts settings origin state operation
        (call.operation.perform call.store call.clock state.store.db).1
        (state.perform origin call store)
  | after {call : Call} {store : StoreState} (configured : call.store = origin.store settings)
      (calls : call.operation = operation) (step : RunStore.Step state.store call store) :
      Transacts settings origin state operation (.error .operationalError)
        (state.perform origin call store)

/-- How `SET NX` goes, after some entries expired. -/
inductive Sets (state : ServerState) (key tenantId : String) :
    Except Exc Bool → ServerState → Prop
  | before {owners error} (kept : owners ⊆ state.owners) :
      Sets state key tenantId (.error error) (state.fade owners)
  | taken {owners} (kept : owners ⊆ state.owners)
      (held : (state.fade owners).owner key ≠ none) :
      Sets state key tenantId (.ok false) (state.fade owners)
  | done {owners} (kept : owners ⊆ state.owners) (free : (state.fade owners).owner key = none) :
      Sets state key tenantId (.ok true) ((state.fade owners).register key tenantId)
  | after {owners error} (kept : owners ⊆ state.owners)
      (free : (state.fade owners).owner key = none) :
      Sets state key tenantId (.error error) ((state.fade owners).register key tenantId)

inductive Gets (state : ServerState) (key : String) :
    Except Exc (Option String) → ServerState → Prop
  | failed {owners error} (kept : owners ⊆ state.owners) :
      Gets state key (.error error) (state.fade owners)
  | done {owners} (kept : owners ⊆ state.owners) :
      Gets state key (.ok ((state.fade owners).owner key)) (state.fade owners)

inductive Attempts (store : SQLiteRunStore) (origin : Origin) (state : ServerState)
    (event : Event Agent.Reply) : ServerState → Prop
  | performed {call : Call} {token : String} {next : StoreState} (configured : call.store = store)
      (operation : event.request.operation token = some call.operation)
      (step : RunStore.Step state.store call next)
      (replied : event.request.Replied event.reply
        (call.operation.perform call.store call.clock state.store.db).1) :
      Attempts store origin state event (state.perform origin call next)
  | refused {next : StoreState} (refused : event.request.Refused event.reply)
      (waits : Agent.Waits state.store next) :
      Attempts store origin state event { state with store := next }
  | other {next : StoreState} (elsewhere : ∀ token, event.request.operation token = none)
      (waits : Agent.Waits state.store next) :
      Attempts store origin state event { state with store := next }

theorem Attempts.answers {store : SQLiteRunStore} {origin : Origin} {state next : ServerState}
    {event : Event Agent.Reply} (attempts : Attempts store origin state event next) :
    Agent.Answers store state.store event next.store := by
  cases attempts with
  | performed configured operation step replied =>
      exact .performed _ _ configured operation step replied
  | refused refused waits => exact .refused refused waits
  | other elsewhere waits => exact .other elsewhere waits

/-- A random identifier was not drawn before. -/
def Draws (origin : Origin) (state : ServerState) (id : Uuid4) (next : ServerState) : Prop :=
  (∀ drawn ∈ state.drawn, drawn.2 ≠ id) ∧
    next = { state with drawn := state.drawn ++ [(origin, id)] }

def answers (settings : ServiceSettings) (origin : Origin) (state : ServerState) :
    (request : Ask) → Answer request → ServerState → Prop
  | .log, _, next | .getTaskStore, _, next | .getRunStore, _, next | .now, _, next
  | .applyAsync _ _ _, _, next | .runCrew _ _ _ _, _, next | .state _, _, next
  | .result _, _, next | .resultType _, _, next => next = state
  | .uuid4, id, next => Draws origin state id next
  | .call operation, reply, next => Transacts settings origin state operation reply next
  | .setOwner key tenantId, reply, next => Sets state key tenantId reply next
  | .getOwner key, reply, next => Gets state key reply next
  | .attempt request, reply, next =>
      Attempts (origin.store settings) origin state ⟨request, reply⟩ next

def service (settings : ServiceSettings) :
    Service Answer Origin ServerState (Except ServerError Response × Unit) where
  handle := handle settings
  answers := answers settings

/-! ## What a session knows

A session knows what it asked and was answered. -/

structure Past where
  events : List (Event Answer)

namespace Past

def nothing : Past := { events := [] }

instance : Preorder Past where
  le past later := past.events ⊆ later.events
  le_refl past := List.Subset.refl _
  le_trans _ _ _ := List.Subset.trans

def learn (past : Past) (request : Ask) (reply : Answer request) : Past :=
  { events := past.events ++ [⟨request, reply⟩] }

theorem le_learn (past : Past) (request : Ask) (reply : Answer request) :
    past ≤ past.learn request reply := List.subset_append_left _ _

def Drew (past : Past) (id : Uuid4) : Prop := (⟨.uuid4, id⟩ : Event Answer) ∈ past.events

def Returned (past : Past) (operation : Operation) (reply : RunStore.Reply) : Prop :=
  (⟨.call operation, (.ok reply : Except RunStoreError RunStore.Reply)⟩ : Event Answer) ∈
    past.events

/-- The entry was read, or made. -/
def Owns (past : Past) (key tenantId : String) : Prop :=
  (⟨.getOwner key, (.ok (some tenantId) : Except Exc (Option String))⟩ : Event Answer) ∈
      past.events ∨
    (⟨.setOwner key tenantId, (.ok true : Except Exc Bool)⟩ : Event Answer) ∈ past.events

def Sent (past : Past) (payload : Dict) (taskId : String) : Prop :=
  ∃ queue, (⟨.applyAsync payload taskId queue, (.ok () : Except Exc Unit)⟩ : Event Answer) ∈
    past.events

def Observed (past : Past) (taskId state : String) : Prop :=
  (⟨.state taskId, (.ok state : Except Exc String)⟩ : Event Answer) ∈ past.events

/-- What a response shows beside a task's state: what the backend returned for the
result of one that succeeded, the type of the error of one that failed, or nothing. -/
inductive Shown (past : Past) (taskId : String) : String → Option Json → Prop
  | success {result : Json} (returned : (⟨.result taskId, (.ok result : Except Exc Json)⟩ :
      Event Answer) ∈ past.events) : Shown past taskId "SUCCESS" (some result)
  | failure {errorType : String} (returned : (⟨.resultType taskId,
      (.ok errorType : Except Exc String)⟩ : Event Answer) ∈ past.events) :
      Shown past taskId "FAILURE" (some (.obj [("error_type", .str errorType),
        ("error_message", .str "Task execution failed")]))
  | other {state : String} (success : state ≠ "SUCCESS") (failure : state ≠ "FAILURE") :
      Shown past taskId state none

variable {past later : Past} (grown : past ≤ later)

include grown

theorem Drew.mono {id : Uuid4} (drew : past.Drew id) : later.Drew id := grown drew

theorem Returned.mono {operation : Operation} {reply : RunStore.Reply}
    (returned : past.Returned operation reply) : later.Returned operation reply := grown returned

theorem Owns.mono {key tenantId : String} (owns : past.Owns key tenantId) :
    later.Owns key tenantId := owns.imp (fun read => grown read) fun made => grown made

theorem Sent.mono {payload : Dict} {taskId : String} (sent : past.Sent payload taskId) :
    later.Sent payload taskId :=
  sent.imp fun _ published => grown published

theorem Observed.mono {taskId state : String} (observed : past.Observed taskId state) :
    later.Observed taskId state := grown observed

end Past

/-! ## Who may ask for what -/

/-- The session is the tenant's: its token was checked, or the message came through
the queue of the tenant under the identifier of its run. -/
inductive Origin.Admitted (settings : ServiceSettings) (tenantId : String) : Origin → Prop
  | http {request : HttpRequest} (authenticated : settings.tenants.Authenticated
      request.tenantHeader request.credentials tenantId) :
      Admitted settings tenantId (.http request)
  | worker {worker : Agent.Settings} {message : Message} {job : AgentRunJob}
      (valid : AgentRunJob.validate message.payload = some job) (tenant : job.tenantId = tenantId)
      (named : message.requestId = job.agentRunId.text)
      (queued : message.routingKey = settings.tenants.tenantQueue tenantId) :
      Admitted settings tenantId (.worker worker message)
  | heartbeat {store : SQLiteRunStore} {lease : Lease} {beats : Nat}
      (tenant : lease.tenant = tenantId) :
      Admitted settings tenantId (.heartbeat store lease beats)

def Origin.route : Origin → Option Route
  | .http request => some request.route
  | .worker _ _ | .heartbeat _ _ _ => none

/-- The job is what the request asks for. -/
structure AgentRunRequest.Asks (payload : AgentRunRequest) (job : AgentRunJob) : Prop where
  message : job.message = payload.message
  maxDecisions : job.maxDecisions = payload.maxDecisions
  answerMode : job.answerMode = payload.answerMode

/-- The session submits the job for its tenant, and may. -/
structure Submits (settings : ServiceSettings) (tenantId : String) (origin : Origin)
    (idempotencyKey : Option String) (job : AgentRunJob) : Prop where
  routed : ∃ body payload, origin.route = some (.submitAgentRun body idempotencyKey) ∧
    AgentRunRequest.validate body = some payload ∧ payload.Asks job
  budget : job.maxDecisions ≤ settings.agentMaxDecisions
  tenant : job.tenantId = tenantId
  granted : settings.tenants.Grants tenantId "agent_run.create"

/-- The operations of a session of the tenant, with the grants each needs. -/
inductive Authorised (settings : ServiceSettings) (tenantId : String) (origin : Origin)
    (past : Past) : Operation → Prop
  | create {idempotencyKey : Option String} {job : AgentRunJob}
      (submits : Submits settings tenantId origin idempotencyKey job)
      (drew : past.Drew job.agentRunId) :
      Authorised settings tenantId origin past
        (.create job.dump settings.agentMaxDuration idempotencyKey)
  | read {runId : String} (routed : origin.route = some (.readAgentRun runId))
      (granted : settings.tenants.Grants tenantId "agent_run.read") :
      Authorised settings tenantId origin past (.get runId tenantId)
  | cancel {runId : String} (routed : origin.route = some (.cancelAgentRun runId))
      (granted : settings.tenants.Grants tenantId "agent_run.cancel") :
      Authorised settings tenantId origin past (.cancel runId tenantId)
  | resume {runId : String} (routed : origin.route = some (.resumeAgentRun runId))
      (granted : settings.tenants.Grants tenantId "agent_run.resume") :
      Authorised settings tenantId origin past (.resume runId tenantId)
  | published {runId : String} {payload : Dict} (sent : past.Sent payload runId) :
      Authorised settings tenantId origin past (.markPublished runId tenantId)
  | beat {store : SQLiteRunStore} {lease : Lease} {beats : Nat}
      (own : origin = .heartbeat store lease beats) :
      Authorised settings tenantId origin past
        (.guard lease.runId lease.tenant lease.token)

/-- A record that the store returned to the session, of a run that was registered
for the job. -/
structure Received (past : Past) (tenantId : String) (row : RunRow) (job : AgentRunJob) :
    Prop where
  returned : ∃ operation, past.Returned operation (.record row)
  tenant : row.tenant = tenantId
  runs : RunsJob job row

/-- The task is a run of the tenant, or one the session has just named. -/
def MayRegister (past : Past) (tenantId : String) (origin : Origin) (taskId : String) : Prop :=
  (∃ row job, Received past tenantId row job ∧ row.id = taskId) ∨
    ∃ body id, origin.route = some (.runCrewApi body) ∧ past.Drew id ∧ id.text = taskId

/-- The server lists the action among the permissions of a worker's tenant. -/
def WorkerGrants (settings : ServiceSettings) (tenantId action : String) : Prop :=
  ∃ permission ∈ (settings.tenants.tenantPermissions tenantId).getD [], permission.value = action

/-- The session may look a task up: its route says so, or its attempt uses the tool. -/
inductive MayLook (settings : ServiceSettings) (tenantId : String) :
    Origin → String → Prop
  | route {request : HttpRequest} {taskId : String}
      (routed : request.route = .getTaskStatus taskId) :
      MayLook settings tenantId (.http request) taskId
  | tool {worker : Agent.Settings} {message : Message} {taskId : String}
      (granted : WorkerGrants settings tenantId "agent_task.read") :
      MayLook settings tenantId (.worker worker message) taskId

/-- Every request of the tenant's session. The result backend is asked about a task
of the tenant only. -/
def Permits (settings : ServiceSettings) (tenantId : String) (origin : Origin) (past : Past) :
    Ask → Prop
  | .log | .getTaskStore | .getRunStore | .uuid4 | .now => True
  | .call operation => Authorised settings tenantId origin past operation
  | .setOwner key owner => owner = tenantId ∧ ∃ taskId,
      key = TaskOwnershipStore.key settings taskId ∧ MayRegister past tenantId origin taskId
  | .getOwner key => ∃ taskId, key = TaskOwnershipStore.key settings taskId ∧
      ((∃ row job, Received past tenantId row job ∧ row.id = taskId) ∨
        MayLook settings tenantId origin taskId)
  | .applyAsync payload taskId queue => settings.tenants.tenantQueue tenantId = some queue ∧
      past.Owns (TaskOwnershipStore.key settings taskId) tenantId ∧
      ∃ row job, Received past tenantId row job ∧ row.id = taskId ∧
        AgentRunJob.validate (.obj payload) = some job
  | .runCrew owner payload taskId queue => owner = tenantId ∧
      settings.tenants.tenantQueue tenantId = some queue ∧
      past.Owns (TaskOwnershipStore.key settings taskId) tenantId ∧
      ∃ body request, origin.route = some (.runCrewApi body) ∧
        CrewRunRequest.validate body = some request ∧ payload = request.dump
  | .state taskId | .result taskId | .resultType taskId =>
      past.Owns (TaskOwnershipStore.key settings taskId) tenantId ∧
        MayLook settings tenantId origin taskId
  | .attempt request =>
      (∃ worker message, origin = .worker worker message) ∧ request.OwnedBy tenantId

def named : Operation → Option String
  | .get runId _ | .cancel runId _ | .resume runId _ => some runId
  | _ => none

/-- A record shows a run of the tenant of the operation, the one that was named, and
it was registered for a job. -/
def Describes (operation : Operation) (reply : RunStore.Reply) : Prop :=
  ∀ row, reply.row? = some row →
    operation.tenant = .ok row.tenant ∧ (∀ runId, named operation = some runId → row.id = runId) ∧
      ∃ job, RunsJob job row

/-- What may be relied on: records are rows of the tenant that asked, for a call and for
the claim of an attempt. -/
def Admits : (request : Ask) → Answer request → Prop
  | .call operation, reply => ∀ answer : RunStore.Reply, reply = .ok answer →
      Describes operation answer
  | .attempt request, reply => Agent.HandsOut ⟨request, reply⟩
  | _, _ => True

def monitor (settings : ServiceSettings) (origin : Origin) : Monitor Answer Past where
  permits past request := ∃ tenantId, origin.Admitted settings tenantId ∧
    Permits settings tenantId origin past request
  admits _ := Admits
  advance := Past.learn

/-! ## What a client is told -/

/-- The answers of the routes, beside their results. -/
def publicAnswers : List HttpException :=
  [⟨401, "Bearer token required"⟩, ⟨403, "Tenant access denied"⟩,
   ⟨403, "Agent run creation denied"⟩, ⟨503, "Agent authorization unavailable"⟩,
   ⟨422, "Decision budget exceeds server policy"⟩,
   ⟨409, "Agent submission conflicts with existing run"⟩, ⟨503, "Task storage unavailable"⟩,
   ⟨500, "Failed to submit agent run"⟩, ⟨404, "Task not found"⟩,
   ⟨403, "Agent operation denied"⟩, ⟨404, "Agent run unavailable"⟩,
   ⟨409, "Agent run cannot perform this transition"⟩, ⟨503, "Agent storage unavailable"⟩,
   ⟨500, "Agent operation failed"⟩, ⟨500, "Failed to enqueue task"⟩,
   ⟨500, "Task result unavailable"⟩]

/-- Inside a route, only the route itself has made an answer of an exception. -/
def Contained (error : ServerError) : Prop :=
  ∀ exception, error = .httpException exception → exception ∈ publicAnswers

/-- An exception that leaves a route: one of its answers, parameters that are not
valid, or a failure of the libraries outside the clauses that answer for it. -/
def Public (error : ServerError) : Prop :=
  (∃ exception ∈ publicAnswers, error = .httpException exception) ∨
    error = .requestValidationError ∨ ∃ raised, error = .raised raised

/-- The response shows what this session was answered about the tenant. -/
inductive Response.Of (settings : ServiceSettings) (tenantId : String) (past : Past) :
    Route → Response → Prop
  | published {body : Json} {idempotencyKey : Option String} {payload : AgentRunRequest}
      {job registered : AgentRunJob} {row : RunRow} {replayed : Bool}
      (valid : AgentRunRequest.validate body = some payload) (asks : payload.Asks job)
      (returned : past.Returned (.create job.dump settings.agentMaxDuration idempotencyKey)
        (.record row))
      (tenant : row.tenant = tenantId) (runs : RunsJob registered row)
      (sent : past.Sent registered.dump row.id)
      (fresh : replayed = false ↔ row.id = job.agentRunId.text) :
      Of settings tenantId past (.submitAgentRun body idempotencyKey)
        (.accepted registered.agentRunId .queued replayed)
  | replayed {body : Json} {idempotencyKey : Option String} {payload : AgentRunRequest}
      {job : AgentRunJob} {row : RunRow} {agentRunId : Uuid4}
      (valid : AgentRunRequest.validate body = some payload) (asks : payload.Asks job)
      (returned : past.Returned (.create job.dump settings.agentMaxDuration idempotencyKey)
        (.record row))
      (tenant : row.tenant = tenantId) (other : row.id ≠ job.agentRunId.text)
      (id : Uuid4.parse row.id = some agentRunId)
      (under : row.published = true ∨ row.state ≠ .queued) :
      Of settings tenantId past (.submitAgentRun body idempotencyKey)
        (.accepted agentRunId row.state true)
  | read {runId : String} {row : RunRow} {attempts : List AttemptSummary} {now : Time}
      {shown : PublicRecord} (returned : past.Returned (.get runId tenantId)
        (.history row attempts)) (tenant : row.tenant = tenantId)
      (shows : publicRecord row (some attempts) now = .ok shown) :
      Of settings tenantId past (.readAgentRun runId) (.record shown)
  | cancelled {runId : String} {row : RunRow} {now : Time} {shown : PublicRecord}
      (returned : past.Returned (.cancel runId tenantId) (.record row))
      (tenant : row.tenant = tenantId) (shows : publicRecord row none now = .ok shown) :
      Of settings tenantId past (.cancelAgentRun runId) (.record shown)
  | resumed {runId : String} {row : RunRow}
      (returned : past.Returned (.resume runId tenantId) (.record row))
      (tenant : row.tenant = tenantId) (sent : past.Sent row.job runId) :
      Of settings tenantId past (.resumeAgentRun runId) (.queued runId)
  | enqueued {body : Json} {id : Uuid4} (drew : past.Drew id)
      (owns : past.Owns (TaskOwnershipStore.key settings id.text) tenantId) :
      Of settings tenantId past (.runCrewApi body) (.enqueued id.text)
  | status {taskId state : String} {result : Option Json}
      (owns : past.Owns (TaskOwnershipStore.key settings taskId) tenantId)
      (observed : past.Observed taskId state) (shown : past.Shown taskId state result) :
      Of settings tenantId past (.getTaskStatus taskId) (.status taskId state result)

def Ends (settings : ServiceSettings) (past : Past) : Origin →
    Except ServerError Response → Prop
  | .http request, .ok response => ∃ tenantId,
      settings.tenants.Authenticated request.tenantHeader request.credentials tenantId ∧
        response.Of settings tenantId past request.route
  | .http _, .error error => Public error
  | .worker _ _, _ | .heartbeat _ _ _, _ => True

/-! ## The discipline -/

/-- The row was created by a session that had drawn its identifier and submitted its
job for its tenant. -/
structure Submitted (settings : ServiceSettings) (state : ServerState) (row : RunRow)
    (job : AgentRunJob) (entry : Entry) : Prop where
  runs : RunsJob job row
  member : entry ∈ state.history
  admitted : entry.origin.Admitted settings row.tenant
  drawn : (entry.origin, job.agentRunId) ∈ state.drawn
  creates : ∃ idempotencyKey, Submits settings row.tenant entry.origin idempotencyKey job ∧
    entry.call.operation = .create job.dump settings.agentMaxDuration idempotencyKey

/-- The session named the task for its tenant's crew. -/
structure Named (settings : ServiceSettings) (state : ServerState) (tenantId taskId : String)
    (origin : Origin) (id : Uuid4) : Prop where
  drawn : (origin, id) ∈ state.drawn
  admitted : origin.Admitted settings tenantId
  routed : ∃ body, origin.route = some (.runCrewApi body)
  text : id.text = taskId

/-- The task is a run of the tenant, or one of its sessions named it for a crew. -/
def HasTask (settings : ServiceSettings) (state : ServerState) (tenantId taskId : String) :
    Prop :=
  state.store.db.Owns tenantId taskId ∨ ∃ origin id, Named settings state tenantId taskId origin id

def Belongs (settings : ServiceSettings) (state : ServerState) (key tenantId : String) : Prop :=
  ∃ taskId, key = TaskOwnershipStore.key settings taskId ∧
    HasTask settings state tenantId taskId

structure Shared (settings : ServiceSettings) (state : ServerState) : Prop where
  db : state.store.db = RunDb.empty.replay state.calls
  distinct : (state.drawn.map Prod.snd).Nodup
  rows : ∀ row ∈ state.store.db.runs, ∃ job entry, Submitted settings state row job entry
  owners : state.owners ⊆ state.registered
  registered : ∀ entry ∈ state.registered, Belongs settings state entry.1 entry.2

structure Recalls (state : ServerState) (origin : Origin) (past : Past) : Prop where
  drew : ∀ id, past.Drew id → (origin, id) ∈ state.drawn
  rows : ∀ operation reply row, past.Returned operation reply → reply.row? = some row →
    state.store.db.Owns row.tenant row.id
  owns : ∀ key tenantId, past.Owns key tenantId → (key, tenantId) ∈ state.registered

def discipline (settings : ServiceSettings) :
    Service.Discipline Answer Origin ServerState (Except ServerError Response × Unit) Past where
  monitor := monitor settings
  start := .nothing
  post origin value past := Ends settings past origin value.1
  Shared := Shared settings
  Knows := Recalls

end Crewos.AgentService

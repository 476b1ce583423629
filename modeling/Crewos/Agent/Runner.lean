import Crewos.Agent.Loop

/-! # The job runner

One delivery of a job: claim the run, continue it from its checkpoint and write
what came of it. -/

namespace Crewos.Agent

open Foundation RunStore

/-- Computations of a delivery. Its variable is the dictionary of `control`, which
is unset until the execution control is built. -/
abbrev RunnerExec := Exec Reply Exc (Option Dict)

namespace Runner

/-! ## Limits -/

def initialLimits (settings : Settings) : Json :=
  .obj [("max_tokens", .int settings.agentMaxTokens),
    ("max_cost_usd", match settings.agentMaxCostUsd with
      | some cost => .str cost.text
      | none => .null),
    ("max_recoveries", .int settings.agentMaxRecoveries)]

def limitsOf (settings : Settings) (checkpoint : Dict) : Json :=
  let limits := checkpoint.getD "limits" .null
  if limits.truthy then limits else initialLimits settings

/-- `limits[key]` -/
def limit (limits : Json) (key : String) : Except Exc Json :=
  match limits with
  | .obj fields =>
      match Dict.get? fields key with
      | some value => .ok value
      | none => .error (.keyError key)
  | _ => .error .typeError

/-- The ceiling on the cost: the smaller of the run's and the worker's. -/
def costLimit (settings : Settings) (limits : Json) : Except Exc (Option String) := do
  let original ← limit limits "max_cost_usd"
  match original, settings.agentMaxCostUsd with
  | .null, some current => return some current.text
  | .null, none => return none
  | .str original, none => return some original
  | original, some current => do
      let original ← readDecimal original
      return some (original.min current).text
  | _, none => throw .typeError

def buildControl (settings : Settings) (lease : Lease) (limits : Json) (cost : Option String) :
    Except Exc Control := do
  let maxTokens ← readInt (← limit limits "max_tokens")
  let maxRecoveries ← readInt (← limit limits "max_recoveries")
  Control.create lease (min maxTokens settings.agentMaxTokens) cost
    settings.inputUsdPerMillion settings.outputUsdPerMillion
    (min maxRecoveries settings.agentMaxRecoveries)

/-! ## Answers -/

def receiptOf (checkpoint : Dict) : Except Exc Dict :=
  match checkpoint.getD "document_review" (.obj []) with
  | .obj receipt => .ok receipt
  | _ => .error (.other "AttributeError")

def checkDocument (settings : Settings) (job : AgentRunJob) (checkpoint : Dict)
    (observed : List SourceReference) (answer : DocumentFinalAnswerDecision) :
    Except Exc Unit := do
  raiseWhen (checkpoint.get? "answer_mode" ≠ some (.str "document"))
    (.valueError "Document checkpoint requires document mode")
  validateDocumentAnswer answer observed
    (checkpoint.getD "document_search_completed" (.bool false)).truthy
  let question ← validated
    (Fields.text (checkpoint.getD "document_question" (.str job.message.value)))
  let passages ← AgentLoop.listOf checkpoint "observed_passages" RetrievedPassage.validate
  let request ← validated (DocumentReviewRequest.validate question answer.result passages)
  let receipt ← receiptOf checkpoint
  validateReviewReceipt settings.library request receipt

/-- The answer a checkpoint already holds. -/
def finalResult (settings : Settings) (job : AgentRunJob) (checkpoint : Dict) :
    Except Exc AgentAnswer := do
  let answer ← validated
    (AgentAnswer.validate job.answerMode (checkpoint.getD "final_result" .null))
  let observed ← AgentLoop.listOf checkpoint "observed_sources" SourceReference.validate
  match answer with
  | .document document => checkDocument settings job checkpoint observed document
  | .general general => validateAnswerCitations general.citations.references observed
  return answer

/-! ## The attempt -/

def userMessage (job : AgentRunJob) : DecisionMessage :=
  { role := .user, content := job.message.value,
    nonempty := by
      intro empty
      have nonempty := job.message.nonempty
      rw [empty] at nonempty
      exact absurd nonempty (by decide) }

/-- `build_agent_loop` -/
def buildAgentLoop (settings : Settings) (control : Control) (job : AgentRunJob)
    (remaining : Time) : AgentLoop :=
  { control, provider := JsonDecisionAdapter.decide settings job.answerMode,
    reviewer := JsonDocumentAnswerReviewer.review settings,
    tools := settings.tools, library := settings.library, maxDecisions := job.maxDecisions,
    answerMode := job.answerMode, maxDuration := remaining, runId := job.agentRunId,
    messages := [userMessage job] }

def ask (request : Request) : Exec Reply Exc State (Reply request) := Exec.ask request

def stored (out : Except RunStoreError α) : Exec Reply Exc State α :=
  Exec.ofExcept (out.mapError Exc.store)

def liveAnswer (settings : Settings) (control : Control) (job : AgentRunJob) :
    Exec Reply Exc Dict AgentAnswer := do
  let remaining ← liftControl control.guard
  Exec.raiseIf (remaining ≤ 0) (.agentDeadlineExceeded "Original run deadline expired")
  let built ← ask .build
  Exec.ofExcept built
  (buildAgentLoop settings control job remaining).run

def jobLease (job : AgentRunJob) (token : String) : Lease :=
  { runId := job.agentRunId.text, tenant := job.tenantId, token }

def attempt (settings : Settings) (control : Control) (job : AgentRunJob) (record : RunRow)
    (limits : Json) (token : String) : Exec Reply Exc Dict AgentAnswer := do
  ask (.startHeartbeat control.lease)
  liftControl (control.persist .limits [("limits", limits)])
  let answer ←
    if (record.checkpoint.getD "final_result" .null).truthy then
      Exec.ofExcept (finalResult settings job record.checkpoint)
    else liveAnswer settings control job
  stored (← ask (.finish (jobLease job token) .succeeded (some answer.dump) none))
  let row ← stored (← ask (.get job.agentRunId.text job.tenantId))
  Exec.raiseIf (row.state = .cancelled) (.store (.runCancelled "Run cancelled"))
  return answer

/-- The state a failed attempt reports. -/
def failureState (state : Option Dict) (error : Exc) : RunState :=
  match error with
  | .store (.runCancelled _) => .cancelled
  | .agentDeadlineExceeded _ | .decisionLimitExceeded _ | .resourceBudgetExceeded _ => .exhausted
  | _ => if state.any unsafePending then .needsReview else .failed

/-- A lost lease and a failing database are logged; anything else is raised. -/
def ignored : RunStoreError → Bool
  | .runLeaseLost _ | .operationalError | .integrityError => true
  | _ => false

def report (job : AgentRunJob) (token : String) (error : Exc) : RunnerExec AgentAnswer := do
  let state ← get
  let out ← ask (.finish (jobLease job token) (failureState state error) none (some error.name))
  Exec.ofExcept (match out with
    | .error failure => raiseWhen (ignored failure = false) (.store failure)
    | .ok _ => .ok ())
  throw error

def close : RunnerExec Unit := do
  let state ← get
  if state.isSome then ask .closeHeartbeat

/-- The claim has set the token. -/
def tokenOf (record : RunRow) : Except Exc String :=
  match record.leaseToken with
  | some token => .ok token
  | none => .error .typeError

/-- Build the control and run the attempt; whatever happens then, the control is
known to the handler of failures. -/
def controlled (settings : Settings) (job : AgentRunJob) (record : RunRow) (limits : Json)
    (cost : Option String) (token : String) : RunnerExec AgentAnswer := do
  let control ← Exec.ofExcept (buildControl settings
    { runId := record.id, tenant := record.tenant, token } limits cost)
  Exec.zoom (fun _ => record.checkpoint) (fun state _ => some state)
    (attempt settings control job record limits token)

def execute (settings : Settings) (job : AgentRunJob) (record : RunRow) :
    RunnerExec AgentAnswer := do
  let token ← Exec.ofExcept (tokenOf record)
  let limits := limitsOf settings record.checkpoint
  let cost ← Exec.ofExcept (costLimit settings limits)
  Exec.andFinally
    (tryCatch (controlled settings job record limits cost token) (report job token)) close

end Runner

/-- `execute_agent_job` -/
def executeAgentJob (settings : Settings) (payload : Json) : RunnerExec AgentAnswer := do
  let job ← Exec.ofExcept (validated (AgentRunJob.validate payload))
  Exec.raiseIf (settings.agentMaxDecisions < job.maxDecisions)
    (.valueError "Decision budget exceeds worker policy")
  let record ← Runner.stored (← Runner.ask (.claim job.dump))
  if record.state = .succeeded then
    Exec.ofExcept (validated
      (AgentAnswer.validate job.answerMode (record.result.getD .null)))
  else Runner.execute settings job record

/-- The program one delivery runs, with its result. -/
def delivery (settings : Settings) (payload : Json) :
    Program Reply (Except Exc AgentAnswer × Option Dict) :=
  (executeAgentJob settings payload).run none

end Crewos.Agent

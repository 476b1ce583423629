import Mathlib.Data.List.Sort
import Crewos.Agent.Adapters

/-! # The agent loop

The sequential decision and tool loop under a durable execution control. The
local variables of `_run` are the fields of a frame; one definition for each
stretch of its body. Log records are left out, the metrics are kept. -/

namespace Crewos.Agent

open Foundation

/-! ## Collaborators -/

/-- A configured `AgentLoop` and the arguments of one run. -/
structure AgentLoop where
  control : Control
  provider : Provider
  reviewer : Reviewer
  tools : List ToolDefinition
  library : TextLibrary
  maxDecisions : Nat
  answerMode : AnswerMode
  maxDuration : Time
  runId : Uuid4
  messages : List DecisionMessage

namespace Tools

/-- `ToolRegistry.get` -/
def find (tools : List ToolDefinition) (name : String) : Except Exc ToolDefinition :=
  match tools.find? fun tool => tool.name = name with
  | some tool => .ok tool
  | none => .error (.unknownToolError ("Unknown tool: " ++ name))

def toolSchemas (tools : List ToolDefinition) : List ToolSchema :=
  tools.map fun tool =>
    { name := tool.name, description := tool.description, parameters := tool.parameters }

def replaySafe (tools : List ToolDefinition) (name : String) : Except Exc Bool :=
  (fun tool => tool.replaySafe) <$> find tools name

/-- A name the model made up may hold sensitive text. -/
def safeName (tools : List ToolDefinition) (name : String) : String :=
  if tools.any fun tool => tool.name == name then name else "[unregistered]"

end Tools

/-! ## Local variables -/

inductive Phase where
  | setup
  | deadline
  | model
  | recovery
  | citationValidation
  | documentReview
  | tool
  | observation
  | decisionLimit
  deriving DecidableEq, Repr

structure Frame where
  state : Dict
  started : Time
  step : Int
  toolCalls : Int
  toolsCompleted : Int
  observedSources : List SourceReference
  documentSearchCompleted : Bool
  observedPassages : List (SourceReference × RetrievedPassage)
  documentQuestion : String
  phase : Phase := .setup
  phaseStarted : Time
  history : List DecisionMessage := []
  /-- `safe_replay` of the current tool call. -/
  safeReplay : Bool := false

abbrev LoopExec := Exec Reply Exc Frame

namespace AgentLoop

/-! ## Requests of the loop -/

def ask (request : Request) : LoopExec (Reply request) := Exec.ask request

def perfCounter : LoopExec Time := ask .perfCounter

/-- Run a computation of the control on the dictionary the loop shares with it. -/
def inControl (computation : ControlExec α) : LoopExec α :=
  Exec.zoom Frame.state (fun state frame => { frame with state }) (liftControl computation)

def setPhase (phase : Phase) : LoopExec Unit := modify fun frame => { frame with phase }

def startPhase (phase : Phase) : LoopExec Unit := do
  let now ← perfCounter
  modify fun frame => { frame with phase, phaseStarted := now }

/-- Record one measurement; a failure to record it is dropped. -/
def measure (operation : MetricOperation) (outcome : MetricOutcome) (since : Time) :
    LoopExec Unit := do
  let now ← perfCounter
  let _ ← ask (.observe operation outcome (max 0 (now - since)))
  return ()

def remainingSeconds (loop : AgentLoop) : LoopExec Time := do
  let now ← perfCounter
  let left ← inControl loop.control.guard
  let frame ← get
  let remaining := min (loop.maxDuration - (now - frame.started)) left
  if remaining ≤ 0 then
    setPhase .deadline
    throw (.agentDeadlineExceeded "Agent run deadline exceeded")
  else
    return remaining

def checkDeadline (loop : AgentLoop) : LoopExec Unit := do
  let _ ← loop.remainingSeconds
  return ()

/-! ## Checkpoints -/

/-- What `checkpoint` persists. -/
def progress (mode : AnswerMode) (frame : Frame) (pending : Json) (replaySafe : Bool) : Dict :=
  [("history", .arr (frame.history.map DecisionMessage.dump)),
    ("decisions", .int frame.step),
    ("tool_calls", .int frame.toolCalls),
    ("tools_completed", .int frame.toolsCompleted),
    ("pending", pending),
    ("replay_safe", .bool replaySafe),
    ("answer_mode", .str mode.text),
    ("document_search_completed", .bool frame.documentSearchCompleted),
    ("document_question", .str frame.documentQuestion),
    ("observed_passages", .arr (frame.observedPassages.map fun entry => entry.2.dump)),
    ("observed_sources", .arr ((frame.observedSources.insertionSort fun left right =>
      SourceReference.before left right = true).map SourceReference.dump))]

def checkpoint (loop : AgentLoop) (pending : Json) (replaySafe : Bool) : LoopExec Unit := do
  let frame ← get
  inControl (loop.control.persist .progress (progress loop.answerMode frame pending replaySafe))

def remember (messages : List DecisionMessage) : LoopExec Unit :=
  modify fun frame => { frame with history := frame.history ++ messages }

/-! ## The model step -/

/-- `TypeAdapter(…).validate_python(…)` of a decision. -/
def validateDecision (loop : AgentLoop) (proposal : Json) : LoopExec ModelDecision :=
  Exec.ofExcept (validated (ModelDecision.validate loop.answerMode proposal))

def askModel (loop : AgentLoop) : LoopExec (Option ModelDecision) := do
  let timeout ← loop.remainingSeconds
  let frame ← get
  ask (.decide loop.runId.text frame.step frame.history timeout)
  let proposal ← inControl
    (loop.provider loop.control frame.history (Tools.toolSchemas loop.tools) timeout)
  let decision ← loop.validateDecision proposal
  ask (.decided loop.runId.text frame.step decision)
  return some decision

def modelRecoverable : Exc → Bool
  | .validationError | .decisionResponseError _ => true
  | error => error.isRetryable && !error.asksToWait

def retryMessage : DecisionMessage :=
  { role := .user,
    content := "The previous decision could not be used. Return one valid decision using the " ++
      "provided schema. Do not invent tool results.",
    nonempty := by decide }

def recoverModel (loop : AgentLoop) (error : Exc) : LoopExec (Option ModelDecision) := do
  Exec.raiseIf (modelRecoverable error = false) error
  let admitted ← inControl loop.control.recover
  Exec.raiseIf (admitted = false) error
  let frame ← get
  measure .model .error frame.phaseStarted
  setPhase .recovery
  remember [retryMessage]
  loop.checkpoint .null false
  return none

def modelStep (loop : AgentLoop) : LoopExec (Option ModelDecision) := do
  startPhase .model
  loop.checkpoint .null false
  let decision ← tryCatch loop.askModel loop.recoverModel
  if decision.isSome then
    let frame ← get
    measure .model .success frame.phaseStarted
  return decision

/-! ## The final answer -/

def askReviewer (loop : AgentLoop) (request : DocumentReviewRequest) : LoopExec Unit := do
  let timeout ← loop.remainingSeconds
  let frame ← get
  ask (.review loop.runId.text frame.step request timeout)
  let proposal ← inControl (loop.reviewer loop.control request timeout)
  let review ← Exec.ofExcept (validated (DocumentReview.validate proposal))
  loop.checkDeadline
  let receipt ← Exec.ofExcept (reviewReceipt loop.library request review)
  inControl (loop.control.persist .review [("document_review", receipt)])

def reviewAnswer (loop : AgentLoop) (answer : DocumentFinalAnswerDecision) : LoopExec Unit := do
  let frame ← get
  Exec.ofExcept
    (validateDocumentAnswer answer frame.observedSources frame.documentSearchCompleted)
  setPhase .documentReview
  let reviewStarted ← perfCounter
  let request ← Exec.ofExcept (validated (DocumentReviewRequest.validate frame.documentQuestion
    answer.result (frame.observedPassages.map Prod.snd)))
  tryCatch (loop.askReviewer request) fun error => do
    measure .model .error reviewStarted
    throw error
  measure .model .success reviewStarted

def checkAnswer (loop : AgentLoop) : AgentAnswer → LoopExec Unit
  | .document answer => loop.reviewAnswer answer
  | .general answer => do
      let frame ← get
      Exec.ofExcept
        (validateAnswerCitations answer.citations.references frame.observedSources)

def finalAnswer (loop : AgentLoop) (answer : AgentAnswer) : LoopExec AgentAnswer := do
  setPhase .citationValidation
  loop.checkAnswer answer
  inControl (loop.control.persist .answer [("final_result", answer.dump)])
  let frame ← get
  measure .run .success frame.started
  return answer

/-! ## The tool step -/

/-- `ToolDispatcher.dispatch` -/
def dispatch (loop : AgentLoop) (decision : ToolCallDecision) (remaining : Time) :
    LoopExec ToolResult := do
  let tool ← Exec.ofExcept (Tools.find loop.tools decision.name.value)
  Exec.raiseIf (tool.accepts decision.arguments = false) .validationError
  let out ← ask (.handle tool.name decision.arguments remaining)
  Exec.ofExcept out

def callTool (loop : AgentLoop) (decision : ToolCallDecision) : LoopExec (Option ToolResult) := do
  let safeReplay ← Exec.ofExcept (Tools.replaySafe loop.tools decision.name.value)
  modify fun frame => { frame with safeReplay }
  loop.checkpoint decision.dump safeReplay
  let remaining ← loop.remainingSeconds
  let frame ← get
  ask (.dispatch loop.runId.text frame.step decision)
  let result ← loop.dispatch decision remaining
  return some result

def toolRecoverable (safeReplay : Bool) : Exc → Bool
  | .unknownToolError _ | .validationError => true
  | .redisError _ | .timeoutError _ => safeReplay
  | _ => false

def toolMessages (decision : ToolCallDecision) (observation : Dict) : List DecisionMessage :=
  [.ofObject .assistant Json.compact decision.fields, .ofObject .tool Json.spaced observation]

def recoverTool (loop : AgentLoop) (decision : ToolCallDecision) (error : Exc) :
    LoopExec (Option ToolResult) := do
  let frame ← get
  Exec.raiseIf (toolRecoverable frame.safeReplay error = false) error
  let admitted ← inControl loop.control.recover
  Exec.raiseIf (admitted = false) error
  measure .tool .error frame.phaseStarted
  setPhase .recovery
  remember (toolMessages decision
    [("name", .str (Tools.safeName loop.tools decision.name.value)),
      ("error", .str "tool_unavailable_or_invalid_arguments")])
  loop.checkpoint .null false
  return none

/-- Add one passage; a source that is already there must be the same passage. -/
def addPassage (passages : List (SourceReference × RetrievedPassage))
    (passage : RetrievedPassage) : Except Exc (List (SourceReference × RetrievedPassage)) :=
  match passages.lookup (sourceKey passage) with
  | some known => do
      raiseWhen (known ≠ passage)
        (.documentReviewError "Conflicting payloads for one source identity")
      return passages
  | none => .ok (passages ++ [(sourceKey passage, passage)])

def addPassages (passages : List (SourceReference × RetrievedPassage))
    (found : List RetrievedPassage) :
    Except Exc (List (SourceReference × RetrievedPassage)) := do
  let passages ← found.foldlM addPassage passages
  raiseWhen (100 < passages.length ∨
      128000 < (passages.map fun entry =>
        (Json.render Json.compact entry.2.dump).utf8ByteSize).sum)
    (.documentReviewError "Accumulated document evidence exceeds review admission")
  return passages

def observe (loop : AgentLoop) (decision : ToolCallDecision) (result : ToolResult) :
    LoopExec Unit :=
  match result with
  | .retrieval found =>
      if decision.name.value = "search_documents" then do
        let frame ← get
        let passages ← Exec.ofExcept (match loop.answerMode with
          | .document => addPassages frame.observedPassages found.passages
          | .general => .ok frame.observedPassages)
        modify fun frame =>
          { frame with
              documentSearchCompleted := true, observedPassages := passages,
              observedSources := (frame.observedSources ++ found.passages.map sourceKey).dedup }
      else return ()
  | .other _ => return ()

def recordResult (loop : AgentLoop) (decision : ToolCallDecision) (result : ToolResult) :
    LoopExec Unit := do
  loop.observe decision result
  modify fun frame => { frame with toolsCompleted := frame.toolsCompleted + 1 }
  let frame ← get
  measure .tool .success frame.phaseStarted
  loop.checkDeadline
  startPhase .observation
  remember (toolMessages decision
    [("name", .str decision.name.value), ("result", result.dump)])
  loop.checkpoint .null false

def toolStep (loop : AgentLoop) (decision : ToolCallDecision) : LoopExec Unit := do
  startPhase .tool
  modify fun frame => { frame with toolCalls := frame.toolCalls + 1 }
  loop.checkDeadline
  modify fun frame => { frame with safeReplay := false }
  let result ← tryCatch (loop.callTool decision) (loop.recoverTool decision)
  match result with
  | some result => loop.recordResult decision result
  | none => return ()

/-! ## The loop -/

def nextDecision (loop : AgentLoop) : Option Json → LoopExec (Option ModelDecision)
  | some pending => do
      let decision ← loop.validateDecision pending
      return some decision
  | none => loop.modelStep

def act (loop : AgentLoop) : ModelDecision → LoopExec (Option AgentAnswer)
  | .answer answer => do
      let answer ← loop.finalAnswer answer
      return some answer
  | .toolCall decision => do
      loop.toolStep decision
      return none

/-- One turn of the `for` loop: an answer, or none to go on. -/
def turn (loop : AgentLoop) (step : Int) (pending : Option Json) :
    LoopExec (Option AgentAnswer) := do
  loop.checkDeadline
  modify fun frame => { frame with step }
  let decision ← loop.nextDecision pending
  match decision with
  | none => return none
  | some decision =>
      loop.checkDeadline
      loop.act decision

/-- The turns from a step on; only the first one can have a pending decision. -/
def turns (loop : AgentLoop) : List Int → Option Json → LoopExec AgentAnswer
  | [], _ => do
      loop.checkDeadline
      setPhase .decisionLimit
      throw (.decisionLimitExceeded "Decision limit reached before a final answer")
  | step :: steps, pending => do
      let answer ← loop.turn step pending
      match answer with
      | some answer => return answer
      | none => loop.turns steps none

/-- `range(max(1, first), last + 1)` -/
def stepRange (first : Int) (last : Nat) : List Int :=
  (List.range' (max 1 first).toNat (last + 1 - (max 1 first).toNat)).map Int.ofNat

def pendingOf (state : Dict) : Option Json :=
  let pending := state.getD "pending" .null
  if pending.truthy then some pending else none

def listOf (state : Dict) (key : String) (read : Json → Option α) : Except Exc (List α) :=
  validated (Fields.items read (state.getD key (.arr [])))

def body (loop : AgentLoop) : LoopExec AgentAnswer := do
  let frame ← get
  let state := frame.state
  Exec.raiseIf ((state.contains "answer_mode" = true ∨ state.contains "history" = true) ∧
      state.getD "answer_mode" (.str "general") ≠ .str loop.answerMode.text)
    (.valueError "Checkpoint answer mode differs from configured mode")
  let history ← Exec.ofExcept (if state.contains "history" then
    listOf state "history" DecisionMessage.validate else .ok loop.messages)
  modify fun frame => { frame with history }
  let pending := pendingOf state
  let first := if pending.isSome then frame.step else frame.step + 1
  loop.turns (stepRange first loop.maxDecisions) pending

def stopReason : Exc → MetricOutcome
  | .store (.runCancelled _) => .cancelled
  | .resourceBudgetExceeded _ => .budget
  | .agentDeadlineExceeded _ => .deadline
  | .decisionLimitExceeded _ => .decisionLimit
  | _ => .error

def failed (error : Exc) : LoopExec AgentAnswer := do
  let frame ← get
  if frame.phase = .model then
    measure .model .error frame.phaseStarted
  if frame.phase = .tool then
    measure .tool .error frame.phaseStarted
  measure .run (stopReason error) frame.started
  throw error

/-! ## Restoring a checkpoint -/

/-- The last message of the user, which is the question of a document run. -/
def lastQuestion (messages : List DecisionMessage) : String :=
  match messages.reverse.find? fun message => message.role = .user with
  | some message => message.content
  | none => ""

def questionOf (loop : AgentLoop) (state : Dict) : String :=
  match state.get? "document_question" with
  | some (.str question) => if question = "" then lastQuestion loop.messages else question
  | _ => lastQuestion loop.messages

/-- Keep a passage under its source; a later one replaces an earlier one. -/
def keepPassage (passages : List (SourceReference × RetrievedPassage))
    (passage : RetrievedPassage) : List (SourceReference × RetrievedPassage) :=
  if passages.any fun entry => entry.1 = sourceKey passage then
    passages.map fun entry => if entry.1 = sourceKey passage then (entry.1, passage) else entry
  else passages ++ [(sourceKey passage, passage)]

/-- The local variables an attempt starts with. -/
def restore (loop : AgentLoop) (state : Dict) (started : Time) : Except Exc Frame := do
  let step ← counter state "decisions"
  let toolCalls ← counter state "tool_calls"
  let toolsCompleted ← counter state "tools_completed"
  let observedSources ← listOf state "observed_sources" SourceReference.validate
  let passages ← listOf state "observed_passages" RetrievedPassage.validate
  return { state, started, step, toolCalls, toolsCompleted,
           observedSources := observedSources.dedup,
           documentSearchCompleted :=
             (state.getD "document_search_completed" (.bool false)).truthy,
           observedPassages := passages.foldl keepPassage [],
           documentQuestion := loop.questionOf state, phaseStarted := started }

/-- `run(messages, context, agent_run_id, control)` on the control of a claimed
run. -/
def run (loop : AgentLoop) : Exec Reply Exc Dict AgentAnswer := do
  let started ← (Exec.ask Request.perfCounter : Exec Reply Exc Dict Time)
  let state ← get
  let frame ← Exec.ofExcept (loop.restore state started)
  Exec.zoom (fun state => { frame with state }) (fun frame _ => frame.state)
    (tryCatch loop.body failed)

end AgentLoop

end Crewos.Agent

import Crewos.Agent.Review
import Crewos.Foundation.Clock
import Crewos.Foundation.Decimal
import Crewos.Foundation.Program
import Crewos.RunStore.Operations

/-! # What an attempt asks for

An attempt runs against a run store, a model, the handlers of its tools and its
clocks. Each of these is a request; the code between two requests is pure. Three
more requests mark where the loop calls its collaborators, so that a history
shows when a decision is asked for, returned, dispatched or reviewed. -/

namespace Crewos.Agent

open Foundation RunStore

/-! ## Configuration -/

/-- A registered tool. The argument schema is known by the object it describes
itself with and by what it accepts. -/
structure ToolDefinition where
  name : String
  description : String
  parameters : Json
  accepts : Dict → Bool
  replaySafe : Bool := false

/-- The settings one worker process runs with. -/
structure Settings where
  store : SQLiteRunStore
  agentMaxDecisions : Nat
  agentMaxTokens : Int
  agentMaxOutputTokens : Nat
  agentMaxRecoveries : Int
  agentMaxCostUsd : Option Decimal
  inputUsdPerMillion : Option Decimal
  outputUsdPerMillion : Option Decimal
  llmTimeout : Time
  /-- What the decision and review models print as their JSON schemas. -/
  decisionSchema : AnswerMode → Json
  reviewSchema : Json
  library : TextLibrary
  tools : List ToolDefinition

/-! ## The parts of a request -/

/-- The run, its tenant and the token an attempt presents to the store. -/
structure Lease where
  runId : String
  tenant : String
  token : String
  deriving DecidableEq

/-- Which call writes a checkpoint. -/
inductive Site where
  | limits
  | reserve (inputTokens outputTokens : Int)
  | reconcile (inputTokens outputTokens reservedInput reservedOutput : Int)
  | recovery
  | progress
  | review
  | answer
  deriving DecidableEq

/-- One `model.invoke`. -/
structure ModelCall where
  instructions : String
  payload : String
  timeout : Time
  maxTokens : Nat

/-- The text of a response is kept as what it parses to. -/
inductive ResponseContent where
  | notText
  | text (parsed : Option Json)

structure ModelResponse where
  content : ResponseContent
  tokenUsage : Json
  refusal : Bool
  nativeToolCalls : Bool

inductive ToolResult where
  | retrieval (result : RetrievalResult)
  | other (dump : Json)

def ToolResult.dump : ToolResult → Json
  | .retrieval result => result.dump
  | .other dump => dump

/-- The operations and outcomes the metrics count. -/
inductive MetricOperation where
  | run
  | model
  | tool
  deriving DecidableEq, Repr

inductive MetricOutcome where
  | success
  | error
  | decisionLimit
  | deadline
  | cancelled
  | budget
  deriving DecidableEq, Repr

/-! ## Requests and replies -/

/-- What the execution control and the model adapters ask for. -/
inductive ControlRequest where
  | heartbeatError
  | guard (lease : Lease)
  | checkpoint (lease : Lease) (site : Site) (saved : Dict)
  | invoke (call : ModelCall)

def ControlReply : ControlRequest → Type
  | .heartbeatError => Option RunStoreError
  | .guard _ => Except RunStoreError Time
  | .checkpoint _ _ _ => Except RunStoreError Unit
  | .invoke _ => Except Exc ModelResponse

/-- Everything an attempt asks for. -/
inductive Request where
  | control (request : ControlRequest)
  | perfCounter
  | observe (operation : MetricOperation) (outcome : MetricOutcome) (duration : Time)
  /-- `provider.decide` is called. -/
  | decide (runId : String) (step : Int) (messages : List DecisionMessage) (timeout : Time)
  /-- It returned a decision. -/
  | decided (runId : String) (step : Int) (decision : ModelDecision)
  /-- `dispatcher.dispatch` is called. -/
  | dispatch (runId : String) (step : Int) (decision : ToolCallDecision)
  /-- The handler of a tool runs. -/
  | handle (tool : String) (arguments : Dict) (remaining : Time)
  /-- `document_reviewer.review` is called. -/
  | review (runId : String) (step : Int) (request : DocumentReviewRequest) (timeout : Time)
  | claim (job : Dict)
  | startHeartbeat (lease : Lease)
  | closeHeartbeat
  /-- The model client and the loop's collaborators are built. -/
  | build
  | finish (lease : Lease) (state : RunState) (result : Option Json) (error : Option String)
  | get (runId tenant : String)

def Reply : Request → Type
  | .control request => ControlReply request
  | .perfCounter => Time
  | .observe _ _ _ => Except Exc Unit
  | .decide _ _ _ _ | .decided _ _ _ | .dispatch _ _ _ | .review _ _ _ _ => Unit
  | .handle _ _ _ => Except Exc ToolResult
  | .claim _ => Except RunStoreError RunRow
  | .startHeartbeat _ | .closeHeartbeat => Unit
  | .build => Except Exc Unit
  | .finish _ _ _ _ => Except RunStoreError Unit
  | .get _ _ => Except RunStoreError RunRow

def narrowReply (request : ControlRequest) (reply : Reply (.control request)) :
    ControlReply request := reply

def wideReply (request : ControlRequest) (reply : ControlReply request) :
    Reply (.control request) := reply

def liftControl {State α : Type} (computation : Exec ControlReply Exc State α) :
    Exec Reply Exc State α := Exec.embed Request.control narrowReply computation

abbrev controlled {Ghost : Type} (monitor : Monitor Reply Ghost) : Monitor ControlReply Ghost :=
  monitor.restrict Request.control wideReply

theorem wp_liftControl {State Ghost α : Type} {monitor : Monitor Reply Ghost}
    {computation : Exec ControlReply Exc State α} {returned : α → State → Ghost → Prop}
    {raised : Exc → State → Ghost → Prop} {state : State} {ghost : Ghost}
    (holds : Exec.wp (controlled monitor) computation returned raised state ghost) :
    Exec.wp monitor (liftControl computation) returned raised state ghost :=
  Exec.wp_embed (fun _ _ => rfl) holds

/-- A request that calls one of the loop's collaborators. -/
def Request.external : Request → Bool
  | .decide _ _ _ _ | .dispatch _ _ _ | .review _ _ _ _ => true
  | _ => false

end Crewos.Agent

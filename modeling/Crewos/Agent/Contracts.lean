import Crewos.Documents.Contracts
import Crewos.Foundation.Fields
import Crewos.RunStore.Types

/-! # Agent contracts

The jobs, messages, decisions and passages an attempt handles, how they are
dumped into a checkpoint and read back, and the exceptions an attempt meets. -/

namespace Crewos.Agent

open Foundation RunStore

/-! ## Exceptions -/

/-- What can be raised while a job is executed. Exceptions of libraries carry
the name of their class. -/
inductive Exc where
  | store (error : RunStoreError)
  | agentDeadlineExceeded (message : String)
  | resourceBudgetExceeded (message : String)
  | decisionLimitExceeded (message : String)
  | validationError
  | decisionResponseError (message : String)
  | decisionRefusedError (message : String)
  | unknownToolError (message : String)
  | unobservedCitationError (message : String)
  | documentAnswerError (message : String)
  | documentReviewError (message : String)
  | redisError (name : String)
  | timeoutError (name : String)
  | apiConnectionError (name : String)
  | apiStatusError (name : String) (statusCode : Nat) (retryAfter : Option String)
  | valueError (message : String)
  | typeError
  | keyError (key : String)
  | invalidOperation
  | other (name : String)
  deriving DecidableEq

namespace Exc

/-- `type(error).__name__` -/
def name : Exc → String
  | .store error => error.name
  | .agentDeadlineExceeded _ => "AgentDeadlineExceeded"
  | .resourceBudgetExceeded _ => "ResourceBudgetExceeded"
  | .decisionLimitExceeded _ => "DecisionLimitExceeded"
  | .validationError => "ValidationError"
  | .decisionResponseError _ => "DecisionResponseError"
  | .decisionRefusedError _ => "DecisionRefusedError"
  | .unknownToolError _ => "UnknownToolError"
  | .unobservedCitationError _ => "UnobservedCitationError"
  | .documentAnswerError _ => "DocumentAnswerError"
  | .documentReviewError _ => "DocumentReviewError"
  | .redisError name | .timeoutError name | .apiConnectionError name | .other name
  | .apiStatusError name _ _ => name
  | .valueError _ => "ValueError"
  | .typeError => "TypeError"
  | .keyError _ => "KeyError"
  | .invalidOperation => "InvalidOperation"

/-- `is_retryable` -/
def isRetryable : Exc → Bool
  | .apiConnectionError _ => true
  | .apiStatusError _ statusCode _ => statusCode == 429 || (500 ≤ statusCode && statusCode < 600)
  | _ => false

/-- A response with a nonempty `retry-after` header. -/
def asksToWait : Exc → Bool
  | .apiStatusError _ _ (some retryAfter) => retryAfter != ""
  | _ => false

end Exc

/-- What a model's validation raises. -/
def validated (result : Option α) : Except Exc α :=
  match result with
  | some value => .ok value
  | none => .error .validationError

theorem validated_eq_ok {α : Type} {result : Option α} {value : α} :
    validated result = .ok value ↔ result = some value := by
  cases result <;> simp [validated]

/-! ## Answer modes -/

/-- `AgentAnswerMode` -/
inductive AnswerMode where
  | general
  | document
  deriving DecidableEq, Repr

def AnswerMode.text : AnswerMode → String
  | .general => "general"
  | .document => "document"

def AnswerMode.read : Json → Option AnswerMode :=
  Fields.choice [("general", .general), ("document", .document)]

theorem AnswerMode.read_text (mode : AnswerMode) :
    AnswerMode.read (.str mode.text) = some mode := by
  cases mode <;> rfl

/-! ## Jobs -/

@[ext]
structure AgentRunJob where
  agentRunId : Uuid4
  tenantId : String
  tenant : Documents.tenantPattern tenantId = true
  message : Stripped (some 32768)
  maxDecisions : Nat
  positive : 1 ≤ maxDecisions
  answerMode : AnswerMode

instance : DecidableEq AgentRunJob := fun left right =>
  decidable_of_iff (left.agentRunId = right.agentRunId ∧ left.tenantId = right.tenantId ∧
    left.message = right.message ∧ left.maxDecisions = right.maxDecisions ∧
    left.answerMode = right.answerMode) AgentRunJob.ext_iff.symm

def Sample.task : AgentRunJob :=
  { agentRunId := .first
    tenantId := "acme"
    tenant := by decide +kernel
    message := ⟨"hi", by decide +kernel, by decide, by rintro limit ⟨⟩; decide⟩
    maxDecisions := 5
    positive := by decide
    answerMode := .general }

namespace AgentRunJob

/-- `model_dump(mode="json")`. `serialize_job` leaves the general mode out. -/
def dump (job : AgentRunJob) : Dict :=
  [("agent_run_id", .str job.agentRunId.text), ("tenant_id", .str job.tenantId),
    ("message", .str job.message.value), ("max_decisions", .int job.maxDecisions)] ++
    (match job.answerMode with
      | .general => []
      | .document => [("answer_mode", .str "document")])

def readTenant : Json → Option {tenantId : String // Documents.tenantPattern tenantId = true}
  | .str text => if tenant : Documents.tenantPattern text = true then some ⟨text, tenant⟩ else none
  | _ => none

def readBudget : Json → Option {decisions : Nat // 1 ≤ decisions}
  | .int (.ofNat value) => if positive : 1 ≤ value then some ⟨value, positive⟩ else none
  | _ => none

/-- `model_validate` -/
def validate (payload : Json) : Option AgentRunJob := do
  let data ← Fields.object
    ["agent_run_id", "tenant_id", "message", "max_decisions", "answer_mode"] payload
  let agentRunId ← Fields.required data "agent_run_id" Fields.uuid
  let tenant ← Fields.required data "tenant_id" readTenant
  let message ← Fields.required data "message" (Stripped.read (some 32768))
  let budget ← Fields.optional data "max_decisions" ⟨5, by decide⟩ readBudget
  let answerMode ← Fields.optional data "answer_mode" .general AnswerMode.read
  return { agentRunId, tenantId := tenant.1, tenant := tenant.2, message,
           maxDecisions := budget.1, positive := budget.2, answerMode }

theorem validate_dump (job : AgentRunJob) : validate (.obj job.dump) = some job := by
  rcases job with ⟨agentRunId, tenantId, tenant, message, maxDecisions, positive, answerMode⟩
  have readTenant : readTenant (.str tenantId) = some ⟨tenantId, tenant⟩ := dif_pos tenant
  have readBudget : readBudget (.int maxDecisions) = some ⟨maxDecisions, positive⟩ :=
    dif_pos positive
  cases answerMode with
  | general =>
      simp [validate, dump, Fields.object, Fields.required, Fields.optional, Dict.get?_cons,
        Dict.get?_nil, readTenant, readBudget]
  | document =>
      have readMode := AnswerMode.read_text .document
      simp only [AnswerMode.text] at readMode
      simp [validate, dump, Fields.object, Fields.required, Fields.optional, Dict.get?_cons,
        readTenant, readBudget, readMode]

theorem sorted_dump (job : AgentRunJob) :
    Dict.sorted job.dump =
      [("agent_run_id", .str job.agentRunId.text)] ++
      (match job.answerMode with
        | .general => []
        | .document => [("answer_mode", .str "document")]) ++
      [("max_decisions", .int job.maxDecisions), ("message", .str job.message.value),
        ("tenant_id", .str job.tenantId)] := by
  cases mode : job.answerMode <;>
    simp +decide [dump, mode, Dict.sorted, Json.sortFields, Json.sortKeys, List.insertionSort,
      List.orderedInsert]

theorem sorted_dump_inj {left right : AgentRunJob}
    (same : Dict.sorted left.dump = Dict.sorted right.dump) : left = right := by
  have dumps : left.dump = right.dump := by
    rw [sorted_dump, sorted_dump] at same
    unfold dump
    cases leftMode : left.answerMode <;> cases rightMode : right.answerMode <;>
      simp_all
  have read := validate_dump left
  rw [dumps, validate_dump] at read
  exact (Option.some.inj read).symm

end AgentRunJob

/-! ## Messages -/

inductive Role where
  | system
  | user
  | assistant
  | tool
  deriving DecidableEq, Repr

def Role.text : Role → String
  | .system => "system"
  | .user => "user"
  | .assistant => "assistant"
  | .tool => "tool"

def Role.read : Json → Option Role :=
  Fields.choice [("system", .system), ("user", .user), ("assistant", .assistant), ("tool", .tool)]

structure DecisionMessage where
  role : Role
  content : String
  nonempty : content ≠ ""
  deriving DecidableEq

namespace DecisionMessage

def dump (message : DecisionMessage) : Json :=
  .obj [("role", .str message.role.text), ("content", .str message.content)]

def readContent : Json → Option {content : String // content ≠ ""}
  | .str text => if nonempty : text ≠ "" then some ⟨text, nonempty⟩ else none
  | _ => none

def validate (json : Json) : Option DecisionMessage := do
  let data ← Fields.object ["role", "content"] json
  let role ← Fields.required data "role" Role.read
  let content ← Fields.required data "content" readContent
  return { role, content := content.1, nonempty := content.2 }

@[simp] theorem validate_dump (message : DecisionMessage) :
    validate message.dump = some message := by
  rcases message with ⟨role, content, nonempty⟩
  have readContent : readContent (.str content) = some ⟨content, nonempty⟩ := dif_pos nonempty
  have readRole : Role.read (.str role.text) = some role := by cases role <;> rfl
  simp [validate, dump, Fields.object, Fields.required, Dict.get?_cons, readContent,
    readRole]

theorem render_ne_empty (layout : Json.Layout) (fields : Dict) :
    Json.render layout (.obj fields) ≠ "" := by
  intro empty
  have length := congrArg String.length empty
  simp [Json.render] at length

def ofObject (role : Role) (layout : Json.Layout) (fields : Dict) : DecisionMessage :=
  { role, content := Json.render layout (.obj fields),
    nonempty := render_ne_empty layout fields }

end DecisionMessage

end Crewos.Agent

import Crewos.Foundation.Simulation
import Crewos.Agent.Progress
import Crewos.Agent.Rules

/-! # The protocol of a delivery

What one delivery of a job may ask for, as a state machine: how far its attempt
has come, the dictionary it last saved and what that says. A saved dictionary
differs from the one before it in the keys of one call of `persist`, and every
external call needs the checkpoint that goes before it. -/

namespace Crewos.Agent

open Foundation RunStore

/-! ## States -/

/-- How far an attempt has come. -/
inductive Stage where
  /-- Claimed; its limits are not saved yet. -/
  | opening
  /-- Between two decisions. -/
  | idle
  /-- The number of the next decision is saved, the provider not called yet. -/
  | raised
  | asked
  /-- There is a decision to act on, from the provider or from a checkpoint. -/
  | chosen (decision : ModelDecision)
  /-- The tool call is saved as pending. -/
  | pended (decision : ToolCallDecision)
  | dispatched (decision : ToolCallDecision)
  | returned (decision : ToolCallDecision) (result : ToolResult)
  /-- A recovery from a failed decision is counted. -/
  | repairing
  /-- A recovery from a failed tool call is counted. -/
  | excusing (decision : ToolCallDecision)
  /-- The receipt of the answer's review is saved. -/
  | reviewed (answer : DocumentFinalAnswerDecision)
  /-- The answer is saved. -/
  | answered (answer : AgentAnswer)

/-- The reservation an attempt works with, and the usage its call reported. -/
inductive Charge where
  | none
  | reserved (input output : Int)
  | replied (input output : Int) (usage : Option (Int × Int))

structure Attempt where
  control : Control
  /-- The number of the attempt among those of its run. -/
  number : Nat
  /-- The dictionary that was loaded or last saved. -/
  dict : Dict
  progress : Progress
  stage : Stage
  charge : Charge

inductive Standing where
  | waiting
  | working (attempt : Attempt)
  /-- Only the failure is left to report. -/
  | failing (lease : Lease)
  | finished (lease : Lease) (answer : AgentAnswer)
  | delivered (answer : AgentAnswer)
  | cached (answer : AgentAnswer)
  | closed
  /-- The store returned what no store returns. -/
  | unreal

/-! ## Dictionaries -/

/-- The control an attempt builds from a claimed checkpoint. -/
def controlFor (settings : Settings) (lease : Lease) (dict : Dict) : Except Exc Control := do
  let cost ← Runner.costLimit settings (Runner.limitsOf settings dict)
  Runner.buildControl settings lease (Runner.limitsOf settings dict) cost

/-- `reserve`, as a step from one dictionary to the next. -/
def Control.Reserves (control : Control) (dict : Dict) (input output : Int) (after : Dict) :
    Prop :=
  0 ≤ input ∧ 0 ≤ output ∧ ∃ reserved before,
    counter dict "reserved_tokens" = .ok reserved ∧ reservedCost dict = .ok before ∧
    ¬control.exceeds (reserved + input + output) (control.charged before input output) ∧
    after = dict.update
      [("reserved_tokens", .int (reserved + input + output)),
        ("reserved_cost", .str (control.charged before input output).text),
        ("pricing_configured", .bool (control.inputRate.isSome && control.outputRate.isSome))]

/-- `reconcile`, as a step from one dictionary to the next. -/
def Control.Reconciles (control : Control) (dict : Dict)
    (inputTokens outputTokens reservedInput reservedOutput : Int) (after : Dict) : Prop :=
  ∃ reserved before reportedInput reportedOutput,
    counter dict "reserved_tokens" = .ok reserved ∧ reservedCost dict = .ok before ∧
    counter dict "reported_input_tokens" = .ok reportedInput ∧
    counter dict "reported_output_tokens" = .ok reportedOutput ∧
    after = dict.update
      [("reserved_tokens", .int (reserved + max 0 (inputTokens - reservedInput) +
          max 0 (outputTokens - reservedOutput))),
        ("reserved_cost", .str (control.charged before (max 0 (inputTokens - reservedInput))
          (max 0 (outputTokens - reservedOutput))).text),
        ("reported_input_tokens", .int (reportedInput + inputTokens)),
        ("reported_output_tokens", .int (reportedOutput + outputTokens))]

def Control.Admitted (control : Control) (dict : Dict) : Prop :=
  ∃ used cost, counter dict "reserved_tokens" = .ok used ∧ reservedCost dict = .ok cost ∧
    ¬control.exceeds used cost

/-- The usage of a response, when it is two token counts. -/
def ModelResponse.usage (response : ModelResponse) : Option (Int × Int) :=
  match response.tokenUsage with
  | .obj usage =>
      match Dict.get? usage "prompt_tokens", Dict.get? usage "completion_tokens" with
      | some promptTokens, some completionTokens =>
          match tokenCount promptTokens, tokenCount completionTokens with
          | some input, some output => some (input, output)
          | _, _ => none
      | _, _ => none
  | _ => none

def usageOf : Except Exc ModelResponse → Option (Int × Int)
  | .ok response => response.usage
  | .error _ => none

/-! ## Evidence -/

def foundBy (decision : ToolCallDecision) : ToolResult → List RetrievedPassage
  | .retrieval found => if decision.name.value = "search_documents" then found.passages else []
  | .other _ => []

def isSearch (decision : ToolCallDecision) : ToolResult → Bool
  | .retrieval _ => decision.name.value = "search_documents"
  | .other _ => false

/-- What recording a result does to the evidence. -/
structure Progress.Observes (decision : ToolCallDecision) (result : ToolResult)
    (before after : Progress) : Prop where
  searched : after.searched = (before.searched || isSearch decision result)
  passages : ∀ passage ∈ after.passages,
    passage ∈ before.passages ∨ passage ∈ foundBy decision result
  sources : ∀ source, source ∈ after.sources ↔
    source ∈ before.sources ∨ source ∈ (foundBy decision result).map sourceKey

/-! ## Steps -/

def excuse (tools : List ToolDefinition) (decision : ToolCallDecision) : List DecisionMessage :=
  AgentLoop.toolMessages decision
    [("name", .str (Tools.safeName tools decision.name.value)),
      ("error", .str "tool_unavailable_or_invalid_arguments")]

def record (decision : ToolCallDecision) (result : ToolResult) : List DecisionMessage :=
  AgentLoop.toolMessages decision
    [("name", .str decision.name.value), ("result", result.dump)]

/-- What a progress checkpoint may change, by the stage it is made in. -/
inductive Progress.Moves (settings : Settings) (job : AgentRunJob) :
    Stage → Progress → Progress → Stage → Prop
  | raise {before after : Progress} (settled : before.pending = none)
      (pending : after.pending = none) (next : after.decisions = before.decisions + 1)
      (within : after.decisions ≤ job.maxDecisions) (history : after.history = before.history)
      (evidence : SameEvidence before after) :
      Progress.Moves settings job .idle before after .raised
  | repair {before after : Progress} (pending : after.pending = none)
      (same : after.decisions = before.decisions)
      (history : after.history = before.history ++ [AgentLoop.retryMessage])
      (evidence : SameEvidence before after) :
      Progress.Moves settings job .repairing before after .idle
  | pend {before after : Progress} {decision : ToolCallDecision}
      (pending : after.pending = some decision)
      (registered : Tools.replaySafe settings.tools decision.name.value = .ok after.replaySafe)
      (same : after.decisions = before.decisions) (history : after.history = before.history)
      (evidence : SameEvidence before after) :
      Progress.Moves settings job (.chosen (.toolCall decision)) before after (.pended decision)
  | excuse {before after : Progress} {decision : ToolCallDecision}
      (pending : after.pending = none) (same : after.decisions = before.decisions)
      (history : after.history = before.history ++ excuse settings.tools decision)
      (evidence : SameEvidence before after) :
      Progress.Moves settings job (.excusing decision) before after .idle
  | record {before after : Progress} {decision : ToolCallDecision} {result : ToolResult}
      (pending : after.pending = none) (same : after.decisions = before.decisions)
      (history : after.history = before.history ++ record decision result)
      (evidence : Observes decision result before after)
      (complete : job.answerMode = .document → ∀ passage,
        passage ∈ before.passages ∨ passage ∈ foundBy decision result →
        passage ∈ after.passages) :
      Progress.Moves settings job (.returned decision result) before after .idle

/-- Where a recovery is counted. -/
inductive Stage.Recovers (tools : List ToolDefinition) : Stage → Stage → Prop
  | unasked : Stage.Recovers tools .raised .repairing
  | asked : Stage.Recovers tools .asked .repairing
  | unknown {decision : ToolCallDecision} {error : Exc}
      (unregistered : Tools.find tools decision.name.value = .error error) :
      Stage.Recovers tools (.chosen (.toolCall decision)) (.excusing decision)
  | failed {decision : ToolCallDecision} :
      Stage.Recovers tools (.dispatched decision) (.excusing decision)

/-- The stages in which a model is called. -/
inductive Stage.Calls : Stage → Prop
  | asked : Stage.Calls .asked
  | reviewing {answer : DocumentFinalAnswerDecision} :
      Stage.Calls (.chosen (.answer (.document answer)))

/-- How an attempt goes on from a checkpoint, once its limits are saved. -/
inductive Entry (settings : Settings) (job : AgentRunJob) (dict : Dict) (progress : Progress) :
    Stage → Prop
  | final {answer : AgentAnswer} (present : (dict.getD "final_result" .null).truthy = true)
      (valid : Runner.finalResult settings job dict = .ok answer) :
      Entry settings job dict progress (.answered answer)
  | pending {decision : ToolCallDecision}
      (absent : (dict.getD "final_result" .null).truthy = false)
      (marked : progress.pending = some decision) :
      Entry settings job dict progress (.chosen (.toolCall decision))
  | fresh (absent : (dict.getD "final_result" .null).truthy = false)
      (settled : progress.pending = none) : Entry settings job dict progress .idle

/-- An answer to save, and the stage it is saved in. -/
inductive Stage.Proposes : Stage → AgentAnswer → Prop
  | general {answer : FinalAnswerDecision} :
      Stage.Proposes (.chosen (.answer (.general answer))) (.general answer)
  | document {answer : DocumentFinalAnswerDecision} :
      Stage.Proposes (.reviewed answer) (.document answer)

/-- Requests the protocol does not mind. -/
def Request.plain : Request → Bool
  | .build | .startHeartbeat _ | .closeHeartbeat | .review _ _ _ _ => true
  | request => request.neutral

abbrev checkpointed (lease : Lease) (site : Site) (saved : Dict)
    (reply : Except RunStoreError Unit) : Event Reply :=
  ⟨.control (.checkpoint lease site saved), reply⟩

/-- The steps of an attempt at work. -/
inductive Attempt.Step (settings : Settings) (job : AgentRunJob) :
    Attempt → Event Reply → Attempt → Prop
  | opened {attempt : Attempt} {stage : Stage} (opening : attempt.stage = .opening)
      (entry : Entry settings job attempt.dict attempt.progress stage) :
      Attempt.Step settings job attempt
        (checkpointed attempt.control.lease .limits
          (attempt.dict.update [("limits", Runner.limitsOf settings attempt.dict)]) (.ok ()))
        { attempt with
            dict := attempt.dict.update [("limits", Runner.limitsOf settings attempt.dict)]
            stage }
  | progressed {attempt : Attempt} {progress : Progress} {stage : Stage}
      (moves : Progress.Moves settings job attempt.stage attempt.progress progress stage) :
      Attempt.Step settings job attempt
        (checkpointed attempt.control.lease .progress (attempt.dict.update (progress.fields job))
          (.ok ()))
        { attempt with dict := attempt.dict.update (progress.fields job), progress, stage }
  | decide {attempt : Attempt} {timeout : Time} (raised : attempt.stage = .raised) :
      Attempt.Step settings job attempt
        ⟨.decide job.agentRunId.text attempt.progress.decisions attempt.progress.history timeout,
          ()⟩ { attempt with stage := .asked }
  | decided {attempt : Attempt} {decision : ModelDecision} (asked : attempt.stage = .asked) :
      Attempt.Step settings job attempt
        ⟨.decided job.agentRunId.text attempt.progress.decisions decision, ()⟩
        { attempt with stage := .chosen decision }
  | reserved {attempt : Attempt} {input output : Int} {after : Dict}
      (calls : attempt.stage.Calls)
      (reserves : attempt.control.Reserves attempt.dict input output after) :
      Attempt.Step settings job attempt
        (checkpointed attempt.control.lease (.reserve input output) after (.ok ()))
        { attempt with dict := after, charge := .reserved input output }
  | invoked {attempt : Attempt} {input output : Int} {call : ModelCall}
      {reply : Except Exc ModelResponse} (reserved : attempt.charge = .reserved input output)
      (admitted : attempt.control.Admitted attempt.dict) :
      Attempt.Step settings job attempt ⟨.control (.invoke call), reply⟩
        { attempt with charge := .replied input output (usageOf reply) }
  | reconciled {attempt : Attempt} {input output inputTokens outputTokens : Int} {after : Dict}
      (replied : attempt.charge = .replied input output (some (inputTokens, outputTokens)))
      (calls : attempt.stage.Calls)
      (reconciles : attempt.control.Reconciles attempt.dict inputTokens outputTokens input output
        after) :
      Attempt.Step settings job attempt
        (checkpointed attempt.control.lease (.reconcile inputTokens outputTokens input output)
          after (.ok ()))
        { attempt with dict := after, charge := .none }
  | recovered {attempt : Attempt} {stage : Stage} {used : Int}
      (recovers : attempt.stage.Recovers settings.tools stage)
      (counted : counter attempt.dict "recoveries" = .ok used)
      (left_ : used < attempt.control.maxRecoveries) :
      Attempt.Step settings job attempt
        (checkpointed attempt.control.lease .recovery
          (attempt.dict.update [("recoveries", .int (used + 1))]) (.ok ()))
        { attempt with dict := attempt.dict.update [("recoveries", .int (used + 1))], stage }
  | dispatch {attempt : Attempt} {decision : ToolCallDecision}
      (pended : attempt.stage = .pended decision) :
      Attempt.Step settings job attempt
        ⟨.dispatch job.agentRunId.text attempt.progress.decisions decision, ()⟩
        { attempt with stage := .dispatched decision }
  | returned {attempt : Attempt} {decision : ToolCallDecision} {remaining : Time}
      {result : ToolResult} (dispatched : attempt.stage = .dispatched decision) :
      Attempt.Step settings job attempt
        ⟨.handle decision.name.value decision.arguments remaining,
          (Except.ok result : Except Exc ToolResult)⟩
        { attempt with stage := .returned decision result }
  | raised {attempt : Attempt} {decision : ToolCallDecision} {remaining : Time} {error : Exc}
      (dispatched : attempt.stage = .dispatched decision) :
      Attempt.Step settings job attempt
        ⟨.handle decision.name.value decision.arguments remaining,
          (Except.error error : Except Exc ToolResult)⟩ attempt
  | reviewed {attempt : Attempt} {answer : DocumentFinalAnswerDecision}
      {request : DocumentReviewRequest} {review : DocumentReview} {receipt : Json}
      (chosen : attempt.stage = .chosen (.answer (.document answer)))
      (asked : DocumentReviewRequest.validate job.message.value answer.result
        attempt.progress.passages = some request)
      (valid : reviewReceipt settings.library request review = .ok receipt) :
      Attempt.Step settings job attempt
        (checkpointed attempt.control.lease .review
          (attempt.dict.update [("document_review", receipt)]) (.ok ()))
        { attempt with
            dict := attempt.dict.update [("document_review", receipt)]
            stage := .reviewed answer }
  | answered {attempt : Attempt} {answer : AgentAnswer} (proposes : attempt.stage.Proposes answer)
      (final : Runner.finalResult settings job
        (attempt.dict.update [("final_result", answer.dump)]) = .ok answer) :
      Attempt.Step settings job attempt
        (checkpointed attempt.control.lease .answer
          (attempt.dict.update [("final_result", answer.dump)]) (.ok ()))
        { attempt with
            dict := attempt.dict.update [("final_result", answer.dump)]
            stage := .answered answer }

/-- The lease of an attempt that can still report a failure. -/
inductive Standing.Reports : Standing → Lease → Prop
  | working {attempt : Attempt} :
      Standing.Reports (.working attempt) attempt.control.lease
  | failing {lease : Lease} : Standing.Reports (.failing lease) lease
  | finished {lease : Lease} {answer : AgentAnswer} :
      Standing.Reports (.finished lease answer) lease

/-- A claimed record as the store returns it. -/
structure Claimed (job : AgentRunJob) (row : RunRow) (token : String) (progress : Progress) :
    Prop where
  open_ : row.state ≠ .succeeded
  held : row.leaseToken = some token
  id : row.id = job.agentRunId.text
  tenant : row.tenant = job.tenantId
  tells : Tells job row.checkpoint progress

/-- The steps of a delivery. -/
inductive Standing.Step (settings : Settings) (job : AgentRunJob) :
    Standing → Event Reply → Standing → Prop
  | plain {standing : Standing} {event : Event Reply} (plain : event.request.plain = true) :
      Standing.Step settings job standing event standing
  | unreal {event : Event Reply} : Standing.Step settings job .unreal event .unreal
  | claimRefused {error : RunStoreError} :
      Standing.Step settings job .waiting
        ⟨.claim job.dump, (Except.error error : Except RunStoreError RunRow)⟩ .closed
  | claimCached {row : RunRow} {answer : AgentAnswer} (done : row.state = .succeeded)
      (valid : AgentAnswer.validate job.answerMode (row.result.getD .null) = some answer) :
      Standing.Step settings job .waiting
        ⟨.claim job.dump, (Except.ok row : Except RunStoreError RunRow)⟩ (.cached answer)
  | claimUnread {row : RunRow} (done : row.state = .succeeded) :
      Standing.Step settings job .waiting
        ⟨.claim job.dump, (Except.ok row : Except RunStoreError RunRow)⟩ .closed
  | claimed {row : RunRow} {token : String} {progress : Progress} {control : Control}
      (claimed : Claimed job row token progress)
      (built : controlFor settings (Runner.jobLease job token) row.checkpoint = .ok control) :
      Standing.Step settings job .waiting
        ⟨.claim job.dump, (Except.ok row : Except RunStoreError RunRow)⟩
        (.working
          { control, number := row.attempts, dict := row.checkpoint, progress,
            stage := .opening, charge := .none })
  | claimFailed {row : RunRow} {token : String} {progress : Progress}
      (claimed : Claimed job row token progress) :
      Standing.Step settings job .waiting
        ⟨.claim job.dump, (Except.ok row : Except RunStoreError RunRow)⟩
        (.failing (Runner.jobLease job token))
  | claimUnreal {row : RunRow} (open_ : row.state ≠ .succeeded)
      (impossible : ∀ token progress, ¬Claimed job row token progress) :
      Standing.Step settings job .waiting
        ⟨.claim job.dump, (Except.ok row : Except RunStoreError RunRow)⟩ .unreal
  | works {attempt after : Attempt} {event : Event Reply}
      (step : attempt.Step settings job event after) :
      Standing.Step settings job (.working attempt) event (.working after)
  /-- The limits are saved, and the checkpoint cannot be gone on from. -/
  | stuck {attempt : Attempt} (opening : attempt.stage = .opening) :
      Standing.Step settings job (.working attempt)
        (checkpointed attempt.control.lease .limits
          (attempt.dict.update [("limits", Runner.limitsOf settings attempt.dict)]) (.ok ()))
        (.failing attempt.control.lease)
  /-- A checkpoint that is refused is the last one. -/
  | refused {attempt : Attempt} {site : Site} {saved : Dict} {error : RunStoreError} :
      Standing.Step settings job (.working attempt)
        (checkpointed attempt.control.lease site saved (.error error))
        (.failing attempt.control.lease)
  | finishes {attempt : Attempt} {answer : AgentAnswer}
      (answered : attempt.stage = .answered answer) :
      Standing.Step settings job (.working attempt)
        ⟨.finish attempt.control.lease .succeeded (some answer.dump) none,
          (Except.ok () : Except RunStoreError Unit)⟩
        (.finished attempt.control.lease answer)
  | finishRefused {attempt : Attempt} {answer : AgentAnswer} {error : RunStoreError}
      (answered : attempt.stage = .answered answer) :
      Standing.Step settings job (.working attempt)
        ⟨.finish attempt.control.lease .succeeded (some answer.dump) none,
          (Except.error error : Except RunStoreError Unit)⟩
        (.failing attempt.control.lease)
  | got {lease : Lease} {answer : AgentAnswer} {row : RunRow} (kept : row.state ≠ .cancelled) :
      Standing.Step settings job (.finished lease answer)
        ⟨.get job.agentRunId.text job.tenantId, (Except.ok row : Except RunStoreError RunRow)⟩
        (.delivered answer)
  | gotOther {lease : Lease} {answer : AgentAnswer} {reply : Except RunStoreError RunRow} :
      Standing.Step settings job (.finished lease answer)
        ⟨.get job.agentRunId.text job.tenantId, reply⟩ (.failing lease)
  | reports {standing : Standing} {lease : Lease} {state : RunState} {name : String}
      {reply : Except RunStoreError Unit} (reports : standing.Reports lease)
      (failure : state ≠ .succeeded) :
      Standing.Step settings job standing ⟨.finish lease state none (some name), reply⟩
        (.failing lease)

def Standing.Ends (out : Except Exc AgentAnswer) (standing : Standing) : Prop :=
  ∀ answer, out = .ok answer →
    standing = .delivered answer ∨ standing = .cached answer ∨ standing = .unreal

end Crewos.Agent

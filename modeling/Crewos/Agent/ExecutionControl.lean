import Crewos.Agent.Requests

/-! # Execution control

Cancellation, durable checkpoints and the admission of estimated resources for
one attempt of a durable run. The variable of its computations is the checkpoint
dictionary, `control.state`, which the loop and the model adapters share. -/

namespace Crewos.Agent

open Foundation RunStore

/-- An `ExecutionControl` with a store and a claimed record. -/
structure Control where
  lease : Lease
  maxTokens : Int
  maxCost : Option Decimal
  inputRate : Option Decimal
  outputRate : Option Decimal
  maxRecoveries : Int

abbrev ControlExec := Exec ControlReply Exc Dict

/-! ## Reading the checkpoint dictionary -/

/-- A number in the dictionary. Every number in it was written as an integer. -/
def readInt : Json → Except Exc Int
  | .int value => .ok value
  | .bool value => .ok (if value then 1 else 0)
  | _ => .error .typeError

def counter (state : Dict) (key : String) : Except Exc Int := readInt (state.getD key (.int 0))

/-- `Decimal(…)` of a dictionary entry. -/
def readDecimal : Json → Except Exc Decimal
  | .str text =>
      match Decimal.parse text with
      | some decimal => .ok decimal
      | none => .error .invalidOperation
  | .int value => .ok (Decimal.ofInt value)
  | _ => .error .typeError

/-- `Decimal(self.state.get("reserved_cost", "0"))` -/
def reservedCost (state : Dict) : Except Exc Decimal :=
  readDecimal (state.getD "reserved_cost" (.str "0"))

/-- A token count as the adapters accept it: an integer and not a negative one. -/
def tokenCount : Json → Option Int
  | .int value => if value < 0 then none else some value
  | _ => none

namespace Control

/-- `Decimal(str(max_cost_usd)) if max_cost_usd is not None else None` -/
def readCost : Option String → Except Exc (Option Decimal)
  | some text =>
      match Decimal.parse text with
      | some decimal => .ok (some decimal)
      | none => .error .invalidOperation
  | none => .ok none

/-- `ExecutionControl.__init__` with a store and a record. -/
def create (lease : Lease) (maxTokens : Int) (maxCostUsd : Option String)
    (inputRate outputRate : Option Decimal) (maxRecoveries : Int) : Except Exc Control := do
  let maxCost ← readCost maxCostUsd
  raiseWhen (maxCost.isSome ∧ (inputRate = none ∨ outputRate = none))
    (.valueError "Cost admission requires configured input and output rates")
  raiseWhen (maxTokens < 1 ∨ maxRecoveries < 0) (.valueError "Invalid execution budget")
  raiseWhen (∃ amount ∈ [maxCost, inputRate, outputRate].reduceOption, amount.coefficient < 0)
    (.valueError "Cost values must be finite and nonnegative")
  raiseWhen (inputRate.isNone ≠ outputRate.isNone)
    (.valueError "Both token price rates must be configured together")
  return { lease, maxTokens, maxCost, inputRate, outputRate, maxRecoveries }

/-- The cost of tokens at the configured rates; nothing without rates. -/
def price (control : Control) (inputTokens outputTokens : Int) : Option Decimal :=
  match control.inputRate, control.outputRate with
  | some inputRate, some outputRate =>
      some ((((Decimal.ofInt inputTokens).mul inputRate).add
        ((Decimal.ofInt outputTokens).mul outputRate)).shift 6)
  | _, _ => none

def charged (control : Control) (cost : Decimal) (inputTokens outputTokens : Int) : Decimal :=
  match control.price inputTokens outputTokens with
  | some price => cost.add price
  | none => cost

/-- The admitted budget does not cover these totals. -/
def exceeds (control : Control) (used : Int) (cost : Decimal) : Prop :=
  control.maxTokens < used ∨ ∃ limit ∈ control.maxCost, cost.le limit = false

instance (control : Control) (used : Int) (cost : Decimal) :
    Decidable (control.exceeds used cost) :=
  inferInstanceAs (Decidable (_ ∨ ∃ limit ∈ control.maxCost, _))

/-! ## Methods -/

def ask (request : ControlRequest) : ControlExec (ControlReply request) := Exec.ask request

def stored (out : Except RunStoreError α) : ControlExec α := Exec.ofExcept (out.mapError Exc.store)

def raiseHeartbeatError : Option RunStoreError → ControlExec Unit
  | some error => throw (.store error)
  | none => return ()

def guard (control : Control) : ControlExec Time := do
  raiseHeartbeatError (← ask .heartbeatError)
  let remaining ← stored (← ask (.guard control.lease))
  Exec.raiseIf (remaining ≤ 0) (.agentDeadlineExceeded "Original run deadline exceeded")
  return remaining

/-- `persist(**updates)`. The dictionary is updated before it is written. -/
def persist (control : Control) (site : Site) (updates : Dict) : ControlExec Unit := do
  modify fun state => state.update updates
  let state ← get
  stored (← ask (.checkpoint control.lease site state))

def reserve (control : Control) (inputTokens outputTokens : Int) : ControlExec Unit := do
  Exec.raiseIf (inputTokens < 0 ∨ outputTokens < 0)
    (.valueError "Token reservation must be nonnegative integers")
  let _ ← control.guard
  let state ← get
  let reserved ← Exec.ofExcept (counter state "reserved_tokens")
  let used := reserved + inputTokens + outputTokens
  let before ← Exec.ofExcept (reservedCost state)
  let cost := control.charged before inputTokens outputTokens
  Exec.raiseIf (control.exceeds used cost)
    (.resourceBudgetExceeded "Estimated token or cost admission budget exceeded")
  control.persist (.reserve inputTokens outputTokens)
    [("reserved_tokens", .int used), ("reserved_cost", .str cost.text),
      ("pricing_configured", .bool (control.inputRate.isSome && control.outputRate.isSome))]

/-- Usage that is not two token counts is ignored. -/
def reconcile (control : Control) (inputTokens outputTokens : Json)
    (reservedInput reservedOutput : Int) : ControlExec Unit :=
  match tokenCount inputTokens, tokenCount outputTokens with
  | some inputTokens, some outputTokens => do
      let state ← get
      let extraInput := max 0 (inputTokens - reservedInput)
      let extraOutput := max 0 (outputTokens - reservedOutput)
      let reserved ← Exec.ofExcept (counter state "reserved_tokens")
      let used := reserved + extraInput + extraOutput
      let before ← Exec.ofExcept (reservedCost state)
      let cost := control.charged before extraInput extraOutput
      let reportedInput ← Exec.ofExcept (counter state "reported_input_tokens")
      let reportedOutput ← Exec.ofExcept (counter state "reported_output_tokens")
      control.persist (.reconcile inputTokens outputTokens reservedInput reservedOutput)
        [("reserved_tokens", .int used), ("reserved_cost", .str cost.text),
          ("reported_input_tokens", .int (reportedInput + inputTokens)),
          ("reported_output_tokens", .int (reportedOutput + outputTokens))]
      Exec.raiseIf (control.exceeds used cost)
        (.resourceBudgetExceeded "Reported usage exceeded admitted budget")
  | _, _ => return ()

def recover (control : Control) : ControlExec Bool := do
  let state ← get
  let used ← Exec.ofExcept (counter state "recoveries")
  if control.maxRecoveries ≤ used then
    return false
  else
    control.persist .recovery [("recoveries", .int (used + 1))]
    return true

/-! ## Rules

What a monitor has to allow for the two store calls, and where they lead. -/

section Rules

variable {Ghost : Type} {monitor : Monitor ControlReply Ghost} {state : Dict} {ghost : Ghost}
  {raised : Exc → Dict → Ghost → Prop}

theorem wp_stored {out : Except RunStoreError α} {returned : α → Dict → Ghost → Prop} :
    Exec.wp monitor (stored out) returned raised state ghost ↔
      (∀ value, out = .ok value → returned value state ghost) ∧
        ∀ error, out = .error error → raised (.store error) state ghost := by
  cases out <;> simp [stored, Exec.ofExcept, Except.mapError]

theorem wp_guard {control : Control} {returned : Time → Dict → Ghost → Prop}
    (reads : monitor.permits ghost .heartbeatError)
    (failed : ∀ error, monitor.admits ghost .heartbeatError (some error) →
      raised (.store error) state (monitor.advance ghost .heartbeatError (some error)))
    (asks : monitor.permits (monitor.advance ghost .heartbeatError none)
      (.guard control.lease))
    (answered : ∀ reply : Except RunStoreError Time,
      monitor.admits (monitor.advance ghost .heartbeatError none) (.guard control.lease) reply →
      (∀ error, reply = .error error → raised (.store error) state
        (monitor.advance (monitor.advance ghost .heartbeatError none) (.guard control.lease)
          reply)) ∧
      (∀ remaining, reply = .ok remaining → remaining ≤ 0 →
        raised (.agentDeadlineExceeded "Original run deadline exceeded") state
          (monitor.advance (monitor.advance ghost .heartbeatError none) (.guard control.lease)
            reply)) ∧
      (∀ remaining, reply = .ok remaining → 0 < remaining → returned remaining state
        (monitor.advance (monitor.advance ghost .heartbeatError none) (.guard control.lease)
          reply))) :
    Exec.wp monitor control.guard returned raised state ghost := by
  rw [guard, Exec.wp_bind, ask, Exec.wp_ask]
  refine ⟨reads, fun found admitted => ?_⟩
  rw [Exec.wp_bind]
  cases found with
  | some error => exact failed error admitted
  | none =>
      rw [raiseHeartbeatError, Exec.wp_pure, Exec.wp_bind, ask, Exec.wp_ask]
      refine ⟨asks, fun (reply : Except RunStoreError Time) admitted => ?_⟩
      obtain ⟨refused, late, cleared⟩ := answered reply admitted
      refine Exec.wp_bind.mpr (wp_stored.mpr ⟨fun remaining same => ?_, refused⟩)
      rw [Exec.wp_bind, Exec.wp_raiseIf, Exec.wp_pure]
      exact ⟨fun positive => cleared remaining same (not_le.mp positive), late remaining same⟩

theorem wp_persist {control : Control} {site : Site} {updates : Dict}
    {returned : Unit → Dict → Ghost → Prop}
    (asks : monitor.permits ghost (.checkpoint control.lease site (state.update updates)))
    (answered : ∀ reply : Except RunStoreError Unit,
      monitor.admits ghost (.checkpoint control.lease site (state.update updates)) reply →
      (∀ error, reply = .error error → raised (.store error) (state.update updates)
        (monitor.advance ghost (.checkpoint control.lease site (state.update updates)) reply)) ∧
      (reply = .ok () → returned () (state.update updates)
        (monitor.advance ghost (.checkpoint control.lease site (state.update updates)) reply))) :
    Exec.wp monitor (control.persist site updates) returned raised state ghost := by
  rw [persist, Exec.wp_bind, Exec.wp_modify, Exec.wp_bind, Exec.wp_get, Exec.wp_bind, ask,
    Exec.wp_ask]
  refine ⟨asks, fun (reply : Except RunStoreError Unit) admitted => ?_⟩
  obtain ⟨refused, accepted⟩ := answered reply admitted
  exact wp_stored.mpr ⟨fun _ same => accepted same, refused⟩

end Rules

end Control

end Crewos.Agent

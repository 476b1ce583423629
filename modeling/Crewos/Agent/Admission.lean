import Mathlib.Data.List.ReduceOption
import Crewos.Agent.Reservations

/-! # Admission over a run

The ceilings of a run and of its workers, the totals of its checkpoints and the
reservations of its attempts: the durable totals are those of the ledger, and the
latest reservation of an attempt is the one it works with. -/

namespace Crewos.Agent

open Foundation RunStore

/-! ## Ceilings -/

/-- The ceiling the limits of a run set for its tokens. -/
def tokenCeiling (limits : Json) : Except Exc Int := do
  readInt (← Runner.limit limits "max_tokens")

def costCeiling (limits : Json) : Option Decimal :=
  match Runner.limit limits "max_cost_usd" with
  | .ok .null => none
  | .ok value => (readDecimal value).toOption
  | .error _ => none

structure WithinCeilings (settings : Settings) (limits : Json) (tokens : Int) (cost : ℚ) :
    Prop where
  tokens : ∃ most, tokenCeiling limits = .ok most ∧ tokens ≤ min most settings.agentMaxTokens
  cost : ∀ limit, costCeiling limits = some limit ∨ settings.agentMaxCostUsd = some limit →
    cost ≤ limit.value

structure Control.Capped (settings : Settings) (limits : Json) (control : Control) : Prop where
  tokens : ∃ most, tokenCeiling limits = .ok most ∧
    control.maxTokens = min most settings.agentMaxTokens
  cost : ∀ limit, costCeiling limits = some limit ∨ settings.agentMaxCostUsd = some limit →
    ∃ ceiling ∈ control.maxCost, ceiling.value ≤ limit.value
  inputRate : control.inputRate = settings.inputUsdPerMillion
  outputRate : control.outputRate = settings.outputUsdPerMillion
  both : control.inputRate.isNone = control.outputRate.isNone
  positive : 0 ≤ rateOf control.inputRate ∧ 0 ≤ rateOf control.outputRate

section Ceilings

variable {settings : Settings} {limits : Json} {control : Control} {used : Int} {cost : Decimal}

theorem Control.not_exceeds : ¬control.exceeds used cost ↔
    used ≤ control.maxTokens ∧ ∀ limit ∈ control.maxCost, cost.value ≤ limit.value := by
  simp only [Control.exceeds, not_or, not_lt, not_exists, not_and, Bool.not_eq_false,
    Decimal.le_iff]

theorem Control.Capped.within (capped : control.Capped settings limits)
    (admitted : ¬control.exceeds used cost) : WithinCeilings settings limits used cost.value := by
  obtain ⟨tokens, dear⟩ := Control.not_exceeds.mp admitted
  obtain ⟨most, allowed, same⟩ := capped.tokens
  refine ⟨⟨most, allowed, same ▸ tokens⟩, fun limit limited => ?_⟩
  obtain ⟨ceiling, here, below⟩ := capped.cost limit limited
  exact (dear ceiling here).trans below

/-- The ceiling on the cost is the smaller one of those there are. -/
theorem readCost_capped {text : Option String} {maxCost : Option Decimal}
    (allowed : Runner.costLimit settings limits = .ok text)
    (read : Control.readCost text = .ok maxCost) {limit : Decimal}
    (limited : costCeiling limits = some limit ∨ settings.agentMaxCostUsd = some limit) :
    ∃ ceiling ∈ maxCost, ceiling.value ≤ limit.value := by
  have reads (cost : Decimal) : Control.readCost (some cost.text) = .ok (some cost) := by
    rw [Control.readCost, Decimal.parse_text]
  obtain ⟨original, found, allowed⟩ := Outcome.bind_eq_ok.mp allowed
  rw [costCeiling, found] at limited
  generalize settings.agentMaxCostUsd = configured at allowed limited
  split at allowed
  · rename_i current
    cases allowed
    cases (reads current).symm.trans read
    rcases limited with none | same
    · cases none
    · cases same
      exact ⟨_, rfl, le_refl _⟩
  · rcases limited with none | none <;> cases none
  · rename_i spelled
    cases allowed
    rcases limited with known | none
    · simp only [Control.readCost] at read
      simp only [readDecimal] at known
      cases parsed : Decimal.parse spelled with
      | none =>
          rw [parsed] at read
          cases read
      | some decimal =>
          rw [parsed] at read known
          cases read
          cases known
          exact ⟨_, rfl, le_refl _⟩
    · cases none
  · rename_i current notNull
    obtain ⟨first, known, allowed⟩ := Outcome.bind_eq_ok.mp allowed
    cases allowed
    cases (reads (first.min current)).symm.trans read
    refine ⟨_, rfl, ?_⟩
    rw [Decimal.value_min]
    rcases limited with here | same
    · have equal : first = limit := by
        split at here
        · cases here
        · rename_i same
          cases same
          rw [known] at here
          exact Option.some.inj here
        · cases here
      exact equal ▸ min_le_left _ _
    · cases same
      exact min_le_right _ _
  · cases allowed

theorem controlFor_capped {lease : Lease} {dict : Dict}
    (built : controlFor settings lease dict = .ok control) :
    control.Capped settings (Runner.limitsOf settings dict) := by
  obtain ⟨cost, allowed, built⟩ := Outcome.bind_eq_ok.mp built
  simp only [Runner.buildControl, Outcome.bind_eq_ok] at built
  obtain ⟨_, found, most, read, _, _, _, _, created⟩ := built
  simp only [Control.create, Outcome.bind_eq_ok, Outcome.pure_eq_ok] at created
  obtain ⟨maxCost, readCost, _, _, _, _, _, amounts, _, both, rfl⟩ := created
  have positive := raiseWhen_eq_ok.mp amounts
  have same := raiseWhen_eq_ok.mp both
  simp only [not_exists, not_and, not_lt, List.reduceOption_mem_iff] at positive
  refine ⟨⟨most, ?_, rfl⟩, fun limit => readCost_capped allowed readCost, rfl, rfl, not_not.mp same,
    rateOf_nonneg fun amount here => positive amount ?_,
    rateOf_nonneg fun amount here => positive amount ?_⟩
  · rw [tokenCeiling, found]
    exact read
  · rw [← Option.mem_def.mp here]
    exact List.mem_cons_of_mem _ List.mem_cons_self
  · rw [← Option.mem_def.mp here]
    exact List.mem_cons_of_mem _ (List.mem_cons_of_mem _ List.mem_cons_self)

theorem Control.charged_value (both : control.inputRate.isNone = control.outputRate.isNone)
    (input output : Int) : (control.charged cost input output).value = cost.value +
      (input * rateOf control.inputRate + output * rateOf control.outputRate) / 10 ^ 6 := by
  unfold Control.charged Control.price
  cases first : control.inputRate with
  | none =>
      cases second : control.outputRate with
      | none => simp [rateOf]
      | some => rw [first, second] at both; cases both
  | some inputRate =>
      cases second : control.outputRate with
      | none => rw [first, second] at both; cases both
      | some outputRate =>
          simp [rateOf, Decimal.value_add, Decimal.value_shift, Decimal.value_mul]

end Ceilings

/-! ## Totals of a checkpoint -/

/-- The usage that has been reported so far can be added to. -/
def Readable (dict : Dict) : Prop :=
  ∃ input output, counter dict "reported_input_tokens" = .ok input ∧
    counter dict "reported_output_tokens" = .ok output

/-- The totals of a checkpoint are what the entries are charged with. -/
structure Tallies (inputRate outputRate : Option Decimal) (entries : List Reservation)
    (dict : Dict) : Prop where
  tokens : counter dict "reserved_tokens" = .ok (tokensCharged entries)
  cost : ∃ cost, reservedCost dict = .ok cost ∧
    cost.value = costCharged inputRate outputRate entries
  readable : Readable dict

/-- What `reserve` and `reconcile` read. -/
def meterKeys : List String :=
  ["reserved_tokens", "reserved_cost", "reported_input_tokens", "reported_output_tokens"]

/-- Nothing the entries are charged with is less later. -/
structure Dearer (inputRate outputRate : Option Decimal) (entries later : List Reservation) :
    Prop where
  input : inputCharged entries ≤ inputCharged later
  output : outputCharged entries ≤ outputCharged later
  cost : costCharged inputRate outputRate entries ≤ costCharged inputRate outputRate later

section Totals

variable {settings : Settings} {job : AgentRunJob} {control : Control} {dict after : Dict}
  {inputRate outputRate : Option Decimal} {entries later last : List Reservation}

theorem Dearer.refl (entries : List Reservation) : Dearer inputRate outputRate entries entries :=
  ⟨le_refl _, le_refl _, le_refl _⟩

theorem Dearer.trans (first : Dearer inputRate outputRate entries later)
    (second : Dearer inputRate outputRate later last) : Dearer inputRate outputRate entries last :=
  ⟨first.input.trans second.input, first.output.trans second.output, first.cost.trans second.cost⟩

theorem Dearer.tokens (dearer : Dearer inputRate outputRate entries later) :
    tokensCharged entries ≤ tokensCharged later := add_le_add dearer.input dearer.output

theorem Dearer.of_more {input output : Int}
    (positive : 0 ≤ rateOf inputRate ∧ 0 ≤ rateOf outputRate)
    (more : 0 ≤ input ∧ 0 ≤ output)
    (charged : inputCharged later = inputCharged entries + input ∧
      outputCharged later = outputCharged entries + output) :
    Dearer inputRate outputRate entries later := by
  have inputs : inputCharged entries ≤ inputCharged later := by omega
  have outputs : outputCharged entries ≤ outputCharged later := by omega
  exact ⟨inputs, outputs, costCharged_mono positive inputs outputs⟩

theorem Dearer.of_same (charged : inputCharged later = inputCharged entries ∧
    outputCharged later = outputCharged entries) : Dearer inputRate outputRate entries later := by
  refine ⟨charged.1.ge, charged.2.ge, ?_⟩
  rw [costCharged, costCharged, charged.1, charged.2]

theorem Tallies.blank : Tallies inputRate outputRate [] [] :=
  ⟨rfl, ⟨.ofInt 0, by decide, by simp [costCharged, inputCharged, outputCharged]⟩, 0, 0, rfl, rfl⟩

theorem Tallies.congr (tallies : Tallies inputRate outputRate entries dict)
    (same : ∀ key ∈ meterKeys, after.get? key = dict.get? key)
    (charged : inputCharged later = inputCharged entries ∧
      outputCharged later = outputCharged entries) : Tallies inputRate outputRate later after := by
  obtain ⟨tokens, ⟨cost, read, priced⟩, input, output, readInput, readOutput⟩ := tallies
  have equal {key : String} (member : key ∈ meterKeys) : counter after key = counter dict key :=
    counter_congr (same key member)
  refine ⟨?_, ⟨cost, ?_, ?_⟩, input, output, ?_, ?_⟩
  · rw [equal (by decide), tokens, tokensCharged, tokensCharged, charged.1, charged.2]
  · rw [← read, reservedCost, reservedCost, Dict.getD, Dict.getD, same _ (by decide)]
  · rw [priced, costCharged, costCharged, charged.1, charged.2]
  · rw [equal (by decide), readInput]
  · rw [equal (by decide), readOutput]

theorem Tallies.charged {before : Decimal} {input output : Int}
    (both : control.inputRate.isNone = control.outputRate.isNone)
    (priced : before.value = costCharged control.inputRate control.outputRate entries)
    (charged : inputCharged later = inputCharged entries + input ∧
      outputCharged later = outputCharged entries + output) :
    (control.charged before input output).value =
      costCharged control.inputRate control.outputRate later := by
  rw [Control.charged_value both, priced, costCharged, costCharged, charged.1, charged.2]
  push_cast
  ring

theorem Tallies.reserve {input output : Int}
    (tallies : Tallies control.inputRate control.outputRate entries dict)
    (both : control.inputRate.isNone = control.outputRate.isNone)
    (reserves : control.Reserves dict input output after)
    (charged : inputCharged later = inputCharged entries + input ∧
      outputCharged later = outputCharged entries + output) :
    Tallies control.inputRate control.outputRate later after := by
  obtain ⟨_, _, reserved, before, counted, read, _, rfl⟩ := reserves
  obtain ⟨tokens, ⟨cost, found, priced⟩, reportedInput, reportedOutput, readInput, readOutput⟩ :=
    tallies
  cases counted.symm.trans tokens
  cases read.symm.trans found
  have other {key : String} (absent : key ∉ ["reserved_tokens", "reserved_cost",
      "pricing_configured"]) (updates : Dict) (keys : updates.map Prod.fst = ["reserved_tokens",
      "reserved_cost", "pricing_configured"]) :
      counter (dict.update updates) key = counter dict key :=
    counter_congr (Dict.get?_update_of_not_mem _ _ (keys ▸ absent))
  have total : tokensCharged later = tokensCharged entries + input + output := by
    rw [tokensCharged, tokensCharged]
    omega
  refine ⟨?_, ⟨_, ?_, Tallies.charged both priced charged⟩, reportedInput, reportedOutput, ?_, ?_⟩
  · rw [total]
    simp [counter, Dict.getD, readInt]
  · simp [reservedCost, Dict.getD, readDecimal, Decimal.parse_text]
  · rw [other (by decide) _ rfl, readInput]
  · rw [other (by decide) _ rfl, readOutput]

theorem Tallies.reconcile {inputTokens outputTokens input output : Int}
    (tallies : Tallies control.inputRate control.outputRate entries dict)
    (both : control.inputRate.isNone = control.outputRate.isNone)
    (reconciles : control.Reconciles dict inputTokens outputTokens input output after)
    (charged : inputCharged later = inputCharged entries + max 0 (inputTokens - input) ∧
      outputCharged later = outputCharged entries + max 0 (outputTokens - output)) :
    Tallies control.inputRate control.outputRate later after := by
  obtain ⟨reserved, before, reportedInput, reportedOutput, counted, read, _, _, rfl⟩ := reconciles
  obtain ⟨tokens, ⟨cost, found, priced⟩, _⟩ := tallies
  cases counted.symm.trans tokens
  cases read.symm.trans found
  have total : tokensCharged later = tokensCharged entries + max 0 (inputTokens - input) +
      max 0 (outputTokens - output) := by
    rw [tokensCharged, tokensCharged]
    omega
  refine ⟨?_, ⟨_, ?_, Tallies.charged both priced charged⟩, reportedInput + inputTokens,
    reportedOutput + outputTokens, ?_, ?_⟩
  · rw [total]
    simp [counter, Dict.getD, readInt]
  · simp [reservedCost, Dict.getD, readDecimal, Decimal.parse_text]
  · simp [counter, Dict.getD, readInt]
  · simp [counter, Dict.getD, readInt]

end Totals

/-! ## What a step enters -/

section Steps

variable {settings : Settings} {job : AgentRunJob} {attempt after : Attempt} {taken : Event Reply}

/-- A step reserves, calls or reconciles, or the totals do not change. -/
inductive Attempt.Spends (runId : String) (attempt : Attempt) :
    Event Reply → Attempt → Prop
  | nothing {taken : Event Reply} {after : Attempt} (charge : after.charge = attempt.charge)
      (posts : posting runId taken = none)
      (same : ∀ key ∈ meterKeys, after.dict.get? key = attempt.dict.get? key)
      (calm : (∀ token, taken.request.operation token = none) → after.dict = attempt.dict) :
      Attempt.Spends runId attempt taken after
  | reserves {input output : Int} {dict : Dict} (calls : attempt.stage.Calls)
      (reserves : attempt.control.Reserves attempt.dict input output dict) :
      Attempt.Spends runId attempt
        (checkpointed attempt.control.lease (.reserve input output) dict (.ok ()))
        { attempt with dict, charge := .reserved input output }
  | calls {input output : Int} {call : ModelCall} {reply : Except Exc ModelResponse}
      (reserved : attempt.charge = .reserved input output)
      (admitted : attempt.control.Admitted attempt.dict) :
      Attempt.Spends runId attempt ⟨.control (.invoke call), reply⟩
        { attempt with charge := .replied input output (usageOf reply) }
  | reconciles {input output inputTokens outputTokens : Int} {dict : Dict}
      (replied : attempt.charge = .replied input output (some (inputTokens, outputTokens)))
      (reconciles : attempt.control.Reconciles attempt.dict inputTokens outputTokens input output
        dict) :
      Attempt.Spends runId attempt
        (checkpointed attempt.control.lease (.reconcile inputTokens outputTokens input output) dict
          (.ok ()))
        { attempt with dict, charge := .none }

theorem Attempt.Step.spends (step : attempt.Step settings job taken after) (runId : String) :
    attempt.Spends runId taken after := by
  have posts (site : Site) (saved : Dict) (none : site.posting attempt.control.lease = none) :
      posting runId (checkpointed attempt.control.lease site saved (.ok ())) = Option.none := by
    rw [posting]
    split
    · exact none
    · rfl
  have saves {site : Site} {updates : Dict} {after : Attempt}
      (dict : after.dict = attempt.dict.update updates) (charge : after.charge = attempt.charge)
      (other : (updates.map Prod.fst).all (fun key => !meterKeys.contains key) = true)
      (none : site.posting attempt.control.lease = Option.none) :
      attempt.Spends runId (checkpointed attempt.control.lease site (attempt.dict.update updates)
        (.ok ())) after := by
    refine .nothing charge (posts site _ none) (fun key member => ?_) fun calm => by cases calm ""
    rw [dict]
    refine Dict.get?_update_of_not_mem _ _ fun updated => ?_
    have absent := List.all_eq_true.mp other key updated
    simp [member] at absent
  cases step with
  | opened | recovered | reviewed | answered => exact saves rfl rfl rfl rfl
  | progressed => exact saves rfl rfl (by rw [Progress.keys_fields]; decide) rfl
  | decide | decided | dispatch | returned | raised =>
      exact .nothing rfl rfl (fun _ _ => rfl) fun _ => rfl
  | reserved calls reserves => exact .reserves calls reserves
  | invoked reserved admitted => exact .calls reserved admitted
  | reconciled replied _ reconciles => exact .reconciles replied reconciles

theorem Attempt.Step.opening (step : attempt.Step settings job taken after)
    (opening : after.stage = .opening) :
    attempt.stage = .opening ∧ (attempt.charge = .none → after.charge = .none) := by
  cases step with
  | opened _ entry => cases entry <;> cases opening
  | progressed moves =>
      generalize attempt.stage = stage at moves
      cases moves <;> cases opening
  | decide | decided | dispatch | returned | reviewed | answered => cases opening
  | recovered recovers =>
      generalize attempt.stage = stage at recovers
      cases recovers <;> cases opening
  | reserved calls =>
      have here : attempt.stage = .opening := opening
      rw [here] at calls
      cases calls
  | invoked reserved => exact ⟨opening, fun none => by cases none.symm.trans reserved⟩
  | reconciled | raised => exact ⟨opening, fun same => by first | rfl | exact same⟩

end Steps

/-! ## Attempts and their reservations -/

def Attempt.entry (attempt : Attempt) (index : Nat) (input output : Int) (usage : Usage) :
    Reservation :=
  { holder := index, lease := attempt.control.lease, input, output, usage }

theorem Attempt.Step.entry {settings : Settings} {job : AgentRunJob} {attempt after : Attempt}
    {taken : Event Reply} (step : attempt.Step settings job taken after) (index : Nat)
    (input output : Int) (usage : Usage) :
    after.entry index input output usage = attempt.entry index input output usage := by
  rw [Attempt.entry, Attempt.entry, step.control]

/-- The limits an attempt keeps to are those that were saved first for the run. -/
structure Governed (job : AgentRunJob) (inputRate outputRate : Option Decimal)
    (past : List World.Label) (settings : Settings) (attempt : Attempt) : Prop where
  capped : attempt.control.Capped settings (Runner.limitsOf settings attempt.dict)
  inputRate : attempt.control.inputRate = inputRate
  outputRate : attempt.control.outputRate = outputRate
  started : attempt.charge ≠ .none → attempt.stage ≠ .opening
  present : attempt.stage ≠ .opening → ∃ limits,
    firstLimits job.agentRunId.text past = some limits ∧ limits.truthy = true ∧
    attempt.dict.get? "limits" = some limits

/-- When this was last saved for the run, the totals included the entry. -/
def Covers (job : AgentRunJob) (inputRate outputRate : Option Decimal) (past : List World.Label)
    (index : Nat) (saved : Dict) (entry : Reservation) : Prop :=
  ∃ first rest, past = first ++ rest ∧
    (saves job.agentRunId.text first).getLast? = some saved ∧
    Tallies inputRate outputRate (ledger job.agentRunId.text first) saved ∧
    latest index (ledger job.agentRunId.text first) = some entry

/-- The latest reservation of an attempt is the one it works with. -/
structure Metered (job : AgentRunJob) (inputRate outputRate : Option Decimal)
    (past : List World.Label) (index : Nat) (settings : Settings) (attempt : Attempt) : Prop where
  governed : Governed job inputRate outputRate past settings attempt
  reserved : ∀ input output, attempt.charge = .reserved input output → (0 ≤ input ∧ 0 ≤ output) ∧
    latest index (ledger job.agentRunId.text past) =
      some (attempt.entry index input output .pending) ∧
    Covers job inputRate outputRate past index attempt.dict
      (attempt.entry index input output .pending)
  replied : ∀ input output usage, attempt.charge = .replied input output usage →
    (0 ≤ input ∧ 0 ≤ output) ∧ latest index (ledger job.agentRunId.text past) =
      some (attempt.entry index input output (.reported usage))

/-- The durable totals are those of the ledger, and no total was ever greater. -/
structure Tallied (job : AgentRunJob) (inputRate outputRate : Option Decimal)
    (past : List World.Label) (dict : Dict) : Prop where
  tallies : Tallies inputRate outputRate (ledger job.agentRunId.text past) dict
  limited : saves job.agentRunId.text past = [] ∨ ∃ limits,
    firstLimits job.agentRunId.text past = some limits ∧ limits.truthy = true ∧
    dict.get? "limits" = some limits
  readable : ∀ saved ∈ saves job.agentRunId.text past, Readable saved
  grows : ∀ first rest, past = first ++ rest → Dearer inputRate outputRate
    (ledger job.agentRunId.text first) (ledger job.agentRunId.text past)

section Metered

variable {job : AgentRunJob} {inputRate outputRate : Option Decimal} {past : List World.Label}
  {label : World.Label} {index : Nat} {settings : Settings} {attempt after : Attempt}
  {taken : Event Reply} {dict next : Dict} {entry : Reservation}

theorem Covers.later (covers : Covers job inputRate outputRate past index dict entry)
    (label : World.Label) : Covers job inputRate outputRate (past ++ [label]) index dict entry := by
  obtain ⟨first, rest, rfl, saved, tallies, found⟩ := covers
  exact ⟨first, rest ++ [label], by rw [List.append_assoc], saved, tallies, found⟩

theorem Covers.now (saved : label.saved job.agentRunId.text = some dict)
    (tallies : Tallies inputRate outputRate (ledger job.agentRunId.text (past ++ [label])) dict)
    (found : latest index (ledger job.agentRunId.text (past ++ [label])) = some entry) :
    Covers job inputRate outputRate (past ++ [label]) index dict entry := by
  refine ⟨past ++ [label], [], by rw [List.append_nil], ?_, tallies, found⟩
  rw [saves_snoc, saved]
  exact List.getLast?_concat

theorem Governed.step (governed : Governed job inputRate outputRate past settings attempt)
    (step : attempt.Step settings job taken after)
    (written : after.dict.get? "limits" = some (Runner.limitsOf settings attempt.dict) →
      attempt.stage = .opening → after.stage ≠ .opening →
      firstLimits job.agentRunId.text (past ++ [label]) =
        some (Runner.limitsOf settings attempt.dict)) :
    Governed job inputRate outputRate (past ++ [label]) settings after := by
  have control := step.control
  have truthy := limitsOf_truthy settings attempt.dict
  have kept : Runner.limitsOf settings after.dict = Runner.limitsOf settings attempt.dict := by
    rcases step.limits with here | ⟨same, _⟩
    · exact limitsOf_present here truthy
    · rw [Runner.limitsOf, Runner.limitsOf, Dict.getD, Dict.getD, same]
  refine ⟨?_, control ▸ governed.inputRate, control ▸ governed.outputRate,
    fun charged opening => ?_, fun started => ?_⟩
  · rw [kept, control]
    exact governed.capped
  · obtain ⟨before, uncharged⟩ := step.opening opening
    exact charged (uncharged (not_not.mp fun busy => governed.started busy before))
  · by_cases opening : attempt.stage = .opening
    · rcases step.limits with here | ⟨_, still⟩
      · exact ⟨_, written here opening started, truthy, here⟩
      · exact absurd (still opening).1 started
    · obtain ⟨limits, first, holds, present⟩ := governed.present opening
      refine ⟨limits, firstLimits_snoc first label, holds, ?_⟩
      rcases step.limits with here | ⟨same, _⟩
      · rw [here, limitsOf_present present holds]
      · rw [same, present]

theorem Tallied.dearer (tallied : Tallied job inputRate outputRate past dict)
    (dearer : Dearer inputRate outputRate (ledger job.agentRunId.text past)
      (ledger job.agentRunId.text (past ++ [label]))) {first rest : List World.Label}
    (same : past ++ [label] = first ++ rest) :
    Dearer inputRate outputRate (ledger job.agentRunId.text first)
      (ledger job.agentRunId.text (past ++ [label])) := by
  rcases List.eq_nil_or_concat rest with rfl | ⟨before, last, rfl⟩
  · rw [List.append_nil] at same
    rw [same]
    exact .refl _
  · rw [List.concat_eq_append, ← List.append_assoc] at same
    exact (tallied.grows first before (List.append_inj' same rfl).1).trans dearer

theorem Tallied.snoc (tallied : Tallied job inputRate outputRate past dict)
    (saved : label.saved job.agentRunId.text = some next)
    (limits : next.get? "limits" = some (Runner.limitsOf settings dict))
    (tallies : Tallies inputRate outputRate (ledger job.agentRunId.text (past ++ [label])) next)
    (dearer : Dearer inputRate outputRate (ledger job.agentRunId.text past)
      (ledger job.agentRunId.text (past ++ [label]))) :
    Tallied job inputRate outputRate (past ++ [label]) next := by
  refine ⟨tallies, .inr ⟨_, firstLimits_saved tallied.limited saved limits,
    limitsOf_truthy settings dict, limits⟩, fun other member => ?_, fun first rest same => ?_⟩
  · rw [saves_snoc, saved] at member
    rcases List.mem_append.mp member with earlier | last
    · exact tallied.readable other earlier
    · rw [List.mem_singleton.mp last]
      exact tallies.readable
  · exact tallied.dearer dearer same

theorem Metered.unposted
    (metered : Metered job inputRate outputRate past index settings attempt)
    (step : attempt.Step settings job taken after)
    (posts : posting job.agentRunId.text taken = none) (charge : after.charge = attempt.charge) :
    (∀ input output, after.charge = .reserved input output → (0 ≤ input ∧ 0 ≤ output) ∧
      latest index (ledger job.agentRunId.text (past ++ [.event index taken])) =
        some (after.entry index input output .pending) ∧
      Covers job inputRate outputRate past index attempt.dict
        (after.entry index input output .pending)) ∧
    ∀ input output usage, after.charge = .replied input output usage →
      (0 ≤ input ∧ 0 ≤ output) ∧
      latest index (ledger job.agentRunId.text (past ++ [.event index taken])) =
        some (after.entry index input output (.reported usage)) := by
  rw [charge, ledger_unposted posts]
  refine ⟨fun input output now => ?_, fun input output usage now => ?_⟩
  · rw [step.entry]
    exact metered.reserved input output now
  · rw [step.entry]
    exact metered.replied input output usage now

theorem Metered.saves {site : Site}
    (metered : Metered job inputRate outputRate past index settings attempt)
    (tallied : Tallied job inputRate outputRate past attempt.dict)
    (lease : attempt.control.lease.runId = job.agentRunId.text)
    (step : attempt.Step settings job
      (checkpointed attempt.control.lease site after.dict (.ok ())) after)
    (same : label = .event index (checkpointed attempt.control.lease site after.dict (.ok ()))) :
    Tallies inputRate outputRate (ledger job.agentRunId.text (past ++ [label])) after.dict ∧
      Dearer inputRate outputRate (ledger job.agentRunId.text past)
        (ledger job.agentRunId.text (past ++ [label])) ∧
      Metered job inputRate outputRate (past ++ [label]) index settings after := by
  have saved : label.saved job.agentRunId.text = some after.dict :=
    same ▸ saved_checkpointed _ _ lease
  have governed : Governed job inputRate outputRate (past ++ [label]) settings after :=
    metered.governed.step step fun limits _ _ => firstLimits_saved tallied.limited saved limits
  have both := metered.governed.capped.both
  have positive := metered.governed.capped.positive
  have tallies := tallied.tallies
  rw [← metered.governed.inputRate, ← metered.governed.outputRate] at tallies ⊢ governed
  generalize entered :
    checkpointed attempt.control.lease site after.dict (.ok ()) = taken at same step
  subst same
  cases step.spends job.agentRunId.text with
  | nothing charge posts unchanged _ =>
      have still := @ledger_unposted job.agentRunId.text index past taken posts
      have totals : Tallies attempt.control.inputRate attempt.control.outputRate
          (ledger job.agentRunId.text (past ++ [.event index taken])) after.dict :=
        tallies.congr unchanged (by rw [still]; exact ⟨rfl, rfl⟩)
      obtain ⟨reserved, replied⟩ := metered.unposted step posts charge
      refine ⟨totals, by rw [still]; exact .refl _, governed, fun input output now => ?_, replied⟩
      obtain ⟨nonneg, found, _⟩ := reserved input output now
      exact ⟨nonneg, found, .now saved totals found⟩
  | @reserves input output dict _ reserves =>
      have posts := @posting_checkpointed job.agentRunId.text attempt.control.lease
        (.reserve input output) dict lease
      have entries := @ledger_event _ index past _ _ posts
      have nonneg : 0 ≤ input ∧ 0 ≤ output := ⟨reserves.1, reserves.2.1⟩
      have charged := @charged_reserve index (ledger job.agentRunId.text past)
        attempt.control.lease input output nonneg
      rw [← entries] at charged
      have totals := tallies.reserve both reserves charged
      refine ⟨totals, .of_more positive nonneg charged, governed, fun input output now => ?_,
        fun input output usage now => by cases now⟩
      cases now
      have here : latest index (ledger job.agentRunId.text (past ++ [.event index (checkpointed
          attempt.control.lease (.reserve input output) dict (.ok ()))])) =
          some (attempt.entry index input output .pending) := by
        rw [entries]
        exact latest_cons_self
      exact ⟨nonneg, here, .now saved totals here⟩
  | calls => cases entered
  | @reconciles input output inputTokens outputTokens dict replied reconciles =>
      have posts := @posting_checkpointed job.agentRunId.text attempt.control.lease
        (.reconcile inputTokens outputTokens input output) dict lease
      have entries := @ledger_event _ index past _ _ posts
      obtain ⟨nonneg, found⟩ := metered.replied _ _ _ replied
      have charged := charged_reconcile nonneg found rfl
      rw [← entries] at charged
      exact ⟨tallies.reconcile both reconciles charged,
        .of_more positive ⟨le_max_left _ _, le_max_left _ _⟩ charged, governed,
        fun _ _ now => (by cases now), fun _ _ _ now => by cases now⟩

end Metered

def HasRates (inputRate outputRate : Option Decimal) (settings : Settings) : Prop :=
  settings.inputUsdPerMillion = inputRate ∧ settings.outputUsdPerMillion = outputRate

theorem metered_keeps (job : AgentRunJob) (inputRate outputRate : Option Decimal) :
    Course.Keeps job (HasRates inputRate outputRate) (Metered job inputRate outputRate)
      (Tallied job inputRate outputRate) where
  blank := ⟨.blank, .inl rfl, fun saved member => (by cases member), fun first rest same => by
    obtain ⟨rfl, rfl⟩ := List.append_eq_nil_iff.mp same.symm
    exact .refl _⟩
  waits {past label index settings attempt} metered plain := by
    have still : latest index (ledger job.agentRunId.text (past ++ [label])) =
        latest index (ledger job.agentRunId.text past) := by
      rw [ledger_snoc]
      exact latest_other fun taken same => posting_plain (plain taken same)
    obtain ⟨governed, reserved, replied⟩ := metered
    refine ⟨{ governed with present := fun started => ?_ }, fun input output now => ?_,
      fun input output usage now => ?_⟩
    · obtain ⟨limits, first, rest⟩ := governed.present started
      exact ⟨limits, firstLimits_snoc first label, rest⟩
    · obtain ⟨nonneg, found, covers⟩ := reserved input output now
      exact ⟨nonneg, still.trans found, covers.later label⟩
    · obtain ⟨nonneg, found⟩ := replied input output usage now
      exact ⟨nonneg, still.trans found⟩
  rests {past label dict} tallied nothing := by
    have charged := @charged_unsaved job.agentRunId.text (ledger job.agentRunId.text past) label
      nothing
    rw [← ledger_snoc] at charged
    refine ⟨tallied.tallies.congr (fun _ _ => rfl) charged, ?_, fun saved member => ?_,
      fun first rest => tallied.dearer (.of_same charged)⟩
    · refine tallied.limited.imp (fun none => ?_) fun ⟨limits, first, rest⟩ =>
        ⟨limits, firstLimits_snoc first label, rest⟩
      rw [saves_snoc, nothing, none]
      rfl
    · rw [saves_snoc, nothing] at member
      exact tallied.readable saved (by simpa using member)
  opens {past index settings row token progress control} rates _ _ _ built := by
    have capped := controlFor_capped built
    refine ⟨⟨capped, capped.inputRate.trans rates.1, capped.outputRate.trans rates.2,
      fun charged => absurd rfl charged, fun started => absurd rfl started⟩,
      fun _ _ now => ?_, fun _ _ _ now => ?_⟩ <;> cases now
  works {past index settings attempt after taken} metered step calm := by
    have governed :
        Governed job inputRate outputRate (past ++ [.event index taken]) settings after :=
      metered.governed.step step fun _ opening started => by
        cases step with
        | opened | progressed | reserved | reconciled | recovered | reviewed | answered =>
            cases calm ""
        | decide busy | decided busy | dispatch busy | returned busy =>
            cases opening.symm.trans busy
        | invoked | raised => exact absurd opening started
    cases step.spends job.agentRunId.text with
    | nothing charge posts _ same =>
        obtain ⟨reserved, replied⟩ := metered.unposted step posts charge
        refine ⟨governed, fun input output now => ?_, replied⟩
        obtain ⟨nonneg, found, covers⟩ := reserved input output now
        rw [same calm]
        exact ⟨nonneg, found, covers.later _⟩
    | reserves | reconciles => cases calm ""
    | @calls input output call reply reserved =>
        obtain ⟨nonneg, found, _⟩ := metered.reserved _ _ reserved
        refine ⟨governed, fun _ _ now => (by cases now), fun _ _ _ now => ?_⟩
        cases now
        refine ⟨nonneg, ?_⟩
        have entries := @ledger_event job.agentRunId.text index past
          ⟨.control (.invoke call), reply⟩ (.reply (usageOf reply)) rfl
        rw [entries]
        exact (latest_amend (Reservation.reply_holder _)).trans (by rw [found]; rfl)
  saves {past index site settings attempt after} metered tallied lease step := by
    obtain ⟨tallies, dearer, kept⟩ := metered.saves tallied lease step rfl
    have limits : after.dict.get? "limits" = some (Runner.limitsOf settings attempt.dict) := by
      rcases step.limits with written | ⟨same, opening⟩
      · exact written
      · obtain ⟨limits, _, truthy, present⟩ := metered.governed.present fun before => by
          cases (opening before).2 ""
        rw [same, present, limitsOf_present present truthy]
    exact ⟨kept, tallied.snoc (saved_checkpointed _ _ lease) limits tallies dearer⟩
  stuck {past index settings attempt} metered tallied lease opening := by
    have still := @ledger_unposted job.agentRunId.text index past (checkpointed
      attempt.control.lease .limits
        (attempt.dict.update [("limits", Runner.limitsOf settings attempt.dict)]) (.ok ()))
      (posting_checkpointed _ _ lease)
    refine tallied.snoc (saved_checkpointed _ _ lease)
      (get?_update_of_mem (by simp) (List.mem_singleton_self _)) ?_ ?_
    · rw [still]
      exact tallied.tallies.congr
        (fun key member => Dict.get?_update_of_not_mem _ _ fun limits => by
        have absent : "limits" ∉ meterKeys := by decide
        have same : key = "limits" := List.mem_singleton.mp limits
        exact absurd (same ▸ member) absent) ⟨rfl, rfl⟩
    · rw [still]
      exact .refl _

end Crewos.Agent

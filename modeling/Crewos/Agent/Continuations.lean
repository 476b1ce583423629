import Crewos.Agent.Numbers
import Crewos.Foundation.Printing

/-! # Recoveries of a run

A recovery is counted in the checkpoint before an attempt goes on from a failure,
and the limits that were saved first bound the count. What the model is told of
failures, it is told by checkpoints behind a recovery of their own. -/

namespace Crewos.Agent

open Foundation RunStore

variable {job : AgentRunJob} {configured : Settings → Prop}

/-! ## Recoveries -/

def World.Label.recovers (runId : String) : World.Label → Bool
  | .event _ ⟨.control (.checkpoint lease .recovery _), reply⟩ =>
      match (reply : Except RunStoreError Unit) with
      | .ok _ => lease.runId = runId
      | .error _ => false
  | _ => false

def recoveries (runId : String) (labels : List World.Label) : Nat :=
  labels.countP (World.Label.recovers runId)

theorem recoveries_snoc (runId : String) (past : List World.Label) (label : World.Label) :
    recoveries runId (past ++ [label]) =
      recoveries runId past + if label.recovers runId then 1 else 0 := by
  simp [recoveries, List.countP_append, List.countP_cons]

theorem saved_of_recovers {runId : String} {label : World.Label}
    (recovers : label.recovers runId = true) : label.saved runId ≠ none := by
  unfold World.Label.recovers at recovers
  split at recovers
  · split at recovers
    · have same := of_decide_eq_true recovers
      simp [World.Label.saved, same]
    · cases recovers
  · cases recovers

theorem recovers_checkpointed {runId : String} {index : Nat} {lease : Lease} (site : Site)
    (saved : Dict) (same : lease.runId = runId) :
    World.Label.recovers runId (.event index (checkpointed lease site saved (.ok ()))) =
      decide (site = .recovery) := by
  cases site <;> simp [World.Label.recovers, same]

def mostRecoveries (limits : Json) : Except Exc Int := do
  readInt (← Runner.limit limits "max_recoveries")

theorem limitsOf_truthy (settings : Settings) (dict : Dict) :
    (Runner.limitsOf settings dict).truthy = true := by
  unfold Runner.limitsOf
  simp only
  split
  · assumption
  · rfl

theorem limitsOf_present {settings : Settings} {dict : Dict} {limits : Json}
    (present : dict.get? "limits" = some limits) (truthy : limits.truthy = true) :
    Runner.limitsOf settings dict = limits := by
  simp [Runner.limitsOf, Dict.getD, present, truthy]

theorem controlFor_recoveries {settings : Settings} {lease : Lease} {dict : Dict}
    {control : Control} (built : controlFor settings lease dict = .ok control) :
    ∃ most, mostRecoveries (Runner.limitsOf settings dict) = .ok most ∧
      0 ≤ control.maxRecoveries ∧ control.maxRecoveries ≤ most := by
  obtain ⟨cost, _, built⟩ := Outcome.bind_eq_ok.mp built
  simp only [Runner.buildControl, Outcome.bind_eq_ok] at built
  obtain ⟨_, _, _, _, limit, limited, most, read, created⟩ := built
  refine ⟨most, ?_, ?_⟩
  · rw [mostRecoveries, limited]
    exact read
  · simp only [Control.create, Outcome.bind_eq_ok, Outcome.pure_eq_ok] at created
    obtain ⟨_, _, _, _, _, valid, _, _, _, _, rfl⟩ := created
    have positive := raiseWhen_eq_ok.mp valid
    simp only [not_or, not_lt] at positive
    exact ⟨positive.2, min_le_left _ _⟩

theorem counter_congr {left right : Dict} {key : String}
    (same : left.get? key = right.get? key) : counter left key = counter right key := by
  rw [counter, counter, Dict.getD, Dict.getD, same]

section Steps

variable {settings : Settings} {attempt after : Attempt} {taken : Event Reply}

/-- Only the checkpoint an attempt opens with writes the limits. -/
theorem Attempt.Step.limits (step : attempt.Step settings job taken after) :
    after.dict.get? "limits" = some (Runner.limitsOf settings attempt.dict) ∨
      (after.dict.get? "limits" = attempt.dict.get? "limits" ∧
        (attempt.stage = .opening → after.stage = .opening ∧
          ∀ token, taken.request.operation token = none)) := by
  have other {updates : Dict} (absent : "limits" ∉ updates.map Prod.fst) :
      (attempt.dict.update updates).get? "limits" = attempt.dict.get? "limits" :=
    Dict.get?_update_of_not_mem _ _ absent
  cases step with
  | opened => exact .inl (get?_update_of_mem (by simp) (List.mem_singleton_self _))
  | progressed moves =>
      refine .inr ⟨other (by rw [Progress.keys_fields]; decide), fun opening => ?_⟩
      rw [opening] at moves
      cases moves
  | decide raised => exact .inr ⟨rfl, fun opening => by cases opening.symm.trans raised⟩
  | decided asked => exact .inr ⟨rfl, fun opening => by cases opening.symm.trans asked⟩
  | reserved calls reserves =>
      obtain ⟨_, _, _, _, _, _, _, rfl⟩ := reserves
      refine .inr ⟨other (by simp), fun opening => ?_⟩
      rw [opening] at calls
      cases calls
  | invoked => exact .inr ⟨rfl, fun opening => ⟨opening, fun _ => rfl⟩⟩
  | reconciled _ calls reconciles =>
      obtain ⟨_, _, _, _, _, _, _, _, rfl⟩ := reconciles
      refine .inr ⟨other (by simp), fun opening => ?_⟩
      rw [opening] at calls
      cases calls
  | recovered recovers =>
      refine .inr ⟨other (by simp), fun opening => ?_⟩
      rw [opening] at recovers
      cases recovers
  | dispatch pended => exact .inr ⟨rfl, fun opening => by cases opening.symm.trans pended⟩
  | returned dispatched => exact .inr ⟨rfl, fun opening => by cases opening.symm.trans dispatched⟩
  | raised => exact .inr ⟨rfl, fun opening => ⟨opening, fun _ => rfl⟩⟩
  | reviewed chosen =>
      exact .inr ⟨other (by simp), fun opening => by cases opening.symm.trans chosen⟩
  | answered proposes =>
      refine .inr ⟨other (by simp), fun opening => ?_⟩
      rw [opening] at proposes
      cases proposes

theorem Attempt.Step.recoveries (step : attempt.Step settings job taken after) :
    (counter after.dict "recoveries" = counter attempt.dict "recoveries" ∧
        ∀ saved reply, taken ≠ checkpointed attempt.control.lease .recovery saved reply) ∨
      ∃ used, counter attempt.dict "recoveries" = .ok used ∧
        used < attempt.control.maxRecoveries ∧ counter after.dict "recoveries" = .ok (used + 1) ∧
        taken = checkpointed attempt.control.lease .recovery after.dict (.ok ()) := by
  have other {updates : Dict} (absent : "recoveries" ∉ updates.map Prod.fst) :
      counter (attempt.dict.update updates) "recoveries" = counter attempt.dict "recoveries" :=
    counter_congr (Dict.get?_update_of_not_mem _ _ absent)
  cases step with
  | recovered recovers counted left_ =>
      refine .inr ⟨_, counted, left_, ?_, rfl⟩
      simp [counter, Dict.getD, readInt]
  | opened => exact .inl ⟨other (by simp), fun _ _ same => by cases same⟩
  | progressed =>
      exact .inl ⟨other (by rw [Progress.keys_fields]; decide), fun _ _ same => by cases same⟩
  | reserved _ reserves =>
      obtain ⟨_, _, _, _, _, _, _, rfl⟩ := reserves
      exact .inl ⟨other (by simp), fun _ _ same => by cases same⟩
  | reconciled _ _ reconciles =>
      obtain ⟨_, _, _, _, _, _, _, _, rfl⟩ := reconciles
      exact .inl ⟨other (by simp), fun _ _ same => by cases same⟩
  | reviewed | answered => exact .inl ⟨other (by simp), fun _ _ same => by cases same⟩
  | _ => exact .inl ⟨rfl, fun _ _ same => by cases same⟩

end Steps

/-- The limits that were saved first for the run. -/
def firstLimits (runId : String) (labels : List World.Label) : Option Json :=
  (saves runId labels).head?.bind fun saved => Dict.get? saved "limits"

theorem firstLimits_snoc {runId : String} {past : List World.Label} {limits : Json}
    (first : firstLimits runId past = some limits) (label : World.Label) :
    firstLimits runId (past ++ [label]) = some limits := by
  rw [← first, firstLimits, firstLimits, saves_snoc]
  cases earlier : saves runId past with
  | nil =>
      rw [firstLimits, earlier] at first
      cases first
  | cons => rfl

theorem firstLimits_saved {runId : String} {past : List World.Label} {label : World.Label}
    {settings : Settings} {dict next : Dict}
    (limited : saves runId past = [] ∨ ∃ limits, firstLimits runId past = some limits ∧
      limits.truthy = true ∧ dict.get? "limits" = some limits)
    (saved : label.saved runId = some next)
    (limits : next.get? "limits" = some (Runner.limitsOf settings dict)) :
    firstLimits runId (past ++ [label]) = some (Runner.limitsOf settings dict) := by
  rcases limited with none | ⟨first, kept, truthy, present⟩
  · rw [firstLimits, saves_snoc, saved, none]
    exact limits
  · rw [limitsOf_present present truthy]
    exact firstLimits_snoc kept label

/-- The control of an attempt keeps to the limits of its dictionary. -/
structure Limited (_ : List World.Label) (_ : Nat) (settings : Settings) (attempt : Attempt) :
    Prop where
  allowed : ∃ most, mostRecoveries (Runner.limitsOf settings attempt.dict) = .ok most ∧
    0 ≤ attempt.control.maxRecoveries ∧ attempt.control.maxRecoveries ≤ most
  present : attempt.stage ≠ .opening → ∃ limits, attempt.dict.get? "limits" = some limits ∧
    limits.truthy = true

/-- The durable counter is the number of recoveries, and the first limits stay. -/
structure Recovered (job : AgentRunJob) (past : List World.Label) (dict : Dict) : Prop where
  counted : counter dict "recoveries" = .ok (recoveries job.agentRunId.text past)
  limited : (saves job.agentRunId.text past = [] ∧ dict = []) ∨
    ∃ limits most, firstLimits job.agentRunId.text past = some limits ∧ limits.truthy = true ∧
      dict.get? "limits" = some limits ∧ mostRecoveries limits = .ok most ∧
      (recoveries job.agentRunId.text past : Int) ≤ most

section Recovered

variable {past : List World.Label} {label : World.Label} {index : Nat} {settings : Settings}
  {attempt after : Attempt} {taken : Event Reply} {dict next : Dict}

theorem Limited.step (limited : Limited past index settings attempt)
    (step : attempt.Step settings job taken after) (labels : List World.Label) :
    Limited labels index settings after := by
  rcases step.limits with written | ⟨same, opening⟩
  · have truthy := limitsOf_truthy settings attempt.dict
    refine ⟨?_, fun _ => ⟨_, written, truthy⟩⟩
    rw [limitsOf_present written truthy, step.control]
    exact limited.allowed
  · have kept : Runner.limitsOf settings after.dict = Runner.limitsOf settings attempt.dict := by
      rw [Runner.limitsOf, Runner.limitsOf, Dict.getD, Dict.getD, same]
    refine ⟨?_, fun started => ?_⟩
    · rw [kept, step.control]
      exact limited.allowed
    · rw [same]
      exact limited.present fun before => started (opening before).1

theorem Limited.saved (limited : Limited past index settings attempt)
    (step : attempt.Step settings job taken after)
    (saves : ∃ token, taken.request.operation token ≠ none) :
    after.dict.get? "limits" = some (Runner.limitsOf settings attempt.dict) := by
  rcases step.limits with written | ⟨same, opening⟩
  · exact written
  · obtain ⟨token, saves⟩ := saves
    obtain ⟨limits, present, truthy⟩ :=
      limited.present fun before => saves ((opening before).2 token)
    rw [same, present, limitsOf_present present truthy]

theorem Recovered.within (recovered : Recovered job past dict) {most : Int}
    (allowed : mostRecoveries (Runner.limitsOf settings dict) = .ok most) (positive : 0 ≤ most) :
    (recoveries job.agentRunId.text past : Int) ≤ most := by
  rcases recovered.limited with ⟨_, rfl⟩ | ⟨limits, allows, _, truthy, present, read, within⟩
  · have none : (0 : Int) = recoveries job.agentRunId.text past :=
      Except.ok.inj recovered.counted
    omega
  · rw [limitsOf_present present truthy, read] at allowed
    exact Except.ok.inj allowed ▸ within

theorem Recovered.snoc (recovered : Recovered job past dict)
    (saved : label.saved job.agentRunId.text = some next)
    (limits : next.get? "limits" = some (Runner.limitsOf settings dict)) {most : Int}
    (allowed : mostRecoveries (Runner.limitsOf settings dict) = .ok most)
    (counted : counter next "recoveries" =
      .ok (recoveries job.agentRunId.text (past ++ [label])))
    (within : (recoveries job.agentRunId.text (past ++ [label]) : Int) ≤ most) :
    Recovered job (past ++ [label]) next := by
  refine ⟨counted, .inr ⟨_, most, ?_, limitsOf_truthy settings dict, limits, allowed, within⟩⟩
  refine firstLimits_saved (recovered.limited.imp And.left ?_) saved limits
  rintro ⟨first, _, kept, truthy, present, _⟩
  exact ⟨first, kept, truthy, present⟩

end Recovered

theorem limited_keeps (job : AgentRunJob) (configured : Settings → Prop) :
    Course.Keeps job configured Limited (Recovered job) where
  blank := ⟨rfl, .inl ⟨rfl, rfl⟩⟩
  waits limited _ := ⟨limited.allowed, limited.present⟩
  rests {past label dict} recovered nothing := by
    have same : saves job.agentRunId.text (past ++ [label]) = saves job.agentRunId.text past := by
      rw [saves_snoc, nothing]
      simp
    have still : recoveries job.agentRunId.text (past ++ [label]) =
        recoveries job.agentRunId.text past := by
      rw [recoveries_snoc, if_neg fun recovers => saved_of_recovers recovers nothing, Nat.add_zero]
    exact ⟨still ▸ recovered.counted, by rw [firstLimits, same, still]; exact recovered.limited⟩
  opens _ _ _ _ built := ⟨controlFor_recoveries built, fun started => absurd rfl started⟩
  works limited step _ := limited.step step _
  saves {past index site settings attempt after} limited recovered lease step := by
    obtain ⟨most, allowed, positive, bounded⟩ := limited.allowed
    have saved := @saved_checkpointed _ index _ site after.dict lease
    have recovers := @recovers_checkpointed _ index _ site after.dict lease
    have limits := limited.saved step ⟨"", fun same => by cases same⟩
    have within := recovered.within allowed (positive.trans bounded)
    refine ⟨limited.step step _, recovered.snoc saved limits allowed ?_ ?_⟩
    · rcases step.recoveries with ⟨same, other⟩ | ⟨used, counted, _, next, equal⟩
      · have different : site ≠ .recovery := fun same => other _ _ (by rw [same])
        rw [recoveries_snoc, recovers, same, recovered.counted]
        simp [different]
      · cases equal
        cases counted.symm.trans recovered.counted
        rw [recoveries_snoc, recovers, next]
        simp
    · rcases step.recoveries with ⟨_, other⟩ | ⟨used, counted, left_, _, equal⟩
      · have different : site ≠ .recovery := fun same => other _ _ (by rw [same])
        rw [recoveries_snoc, recovers]
        simpa [different] using within
      · cases equal
        cases counted.symm.trans recovered.counted
        rw [recoveries_snoc, recovers]
        simp only [decide_true, if_true, Nat.cast_add, Nat.cast_one]
        omega
  stuck {past index settings attempt} limited recovered lease _ := by
    obtain ⟨most, allowed, positive, bounded⟩ := limited.allowed
    have within := recovered.within allowed (positive.trans bounded)
    have recovers := @recovers_checkpointed _ index _ .limits
      (attempt.dict.update [("limits", Runner.limitsOf settings attempt.dict)]) lease
    have still : recoveries job.agentRunId.text (past ++ [.event index
        (checkpointed attempt.control.lease .limits (attempt.dict.update
          [("limits", Runner.limitsOf settings attempt.dict)]) (.ok ()))]) =
        recoveries job.agentRunId.text past := by
      rw [recoveries_snoc, recovers]
      simp
    refine recovered.snoc (saved_checkpointed _ _ lease)
      (get?_update_of_mem (by simp) (List.mem_singleton_self _)) allowed ?_ ?_
    · rw [still, ← recovered.counted]
      exact counter_congr (Dict.get?_update_of_not_mem _ _ (by simp))
    · rw [still]
      exact within

/-! ## Continuations -/

/-- The observation of a tool call that failed. -/
def DecisionMessage.tellsFailedCall (message : DecisionMessage) : Bool :=
  message.role = .tool &&
    Json.skipLiteral false (message.content.toList.drop 10) ==
      some ", \"error\": \"tool_unavailable_or_invalid_arguments\"\x7d".toList

def DecisionMessage.tellsFailure (message : DecisionMessage) : Bool :=
  message = AgentLoop.retryMessage || message.tellsFailedCall

example : AgentLoop.retryMessage.tellsFailure = true := by decide +kernel

/-- The failures a history tells the model of, after the message of the job. -/
def failuresIn (history : List DecisionMessage) : Nat :=
  (history.drop 1).countP DecisionMessage.tellsFailure

def failuresTold (saved : Dict) : Nat :=
  match AgentLoop.listOf saved "history" DecisionMessage.validate with
  | .ok history => failuresIn history
  | .error _ => 0

/-- The failures told last, and how many saves told more than the one before. -/
def goOn (saves : List Dict) : Nat × Nat :=
  saves.foldl (fun past saved =>
    (failuresTold saved, if past.1 < failuresTold saved then past.2 + 1 else past.2)) (0, 0)

/-- How often an attempt of the run went on from a failure. -/
def continuations (runId : String) (labels : List World.Label) : Nat :=
  (goOn (saves runId labels)).2

theorem goOn_snoc (saves : List Dict) (saved : Dict) :
    goOn (saves ++ [saved]) = (failuresTold saved,
      if (goOn saves).1 < failuresTold saved then (goOn saves).2 + 1 else (goOn saves).2) := by
  rw [goOn, List.foldl_append]
  rfl

theorem failuresIn_le_append (history more : List DecisionMessage) :
    failuresIn history ≤ failuresIn (history ++ more) := by
  cases history with
  | nil => exact Nat.zero_le _
  | cons first history => simp [failuresIn, List.countP_append]

theorem failuresIn_append_le (history more : List DecisionMessage) :
    failuresIn (history ++ more) ≤
      failuresIn history + more.countP DecisionMessage.tellsFailure := by
  cases history with
  | nil =>
      rw [failuresIn, List.nil_append]
      exact ((List.drop_sublist 1 more).countP_le).trans (Nat.le_add_left _ _)
  | cons first history => simp [failuresIn, List.countP_append]

theorem Tells.failuresTold_eq {dict : Dict} {progress : Progress}
    (tells : Tells job dict progress) : failuresTold dict = failuresIn progress.history := by
  have here := tells.get? ("history", .arr (progress.history.map DecisionMessage.dump))
    (by simp [Progress.fields])
  have read := Fields.items_map DecisionMessage.validate_dump progress.history
  rcases here with here | ⟨here, rfl⟩
  · simp [failuresTold, AgentLoop.listOf, Dict.getD, here, read, validated]
  · simp [failuresTold, AgentLoop.listOf, Dict.getD, here, validated, Fields.items, Fields.all,
      Progress.initial, failuresIn]

theorem observation_toList (name key : String) (value : Json) :
    (Json.render Json.spaced (.obj [("name", .str name), (key, value)])).toList.drop 10 =
      name.toList.flatMap (Json.escapeChar true) ++ '"' ::
        (Json.laterFields Json.spaced [(key, value)]) := by
  have quoted : (Json.render Json.spaced (.str name)).toList = (Json.quote true name).toList := rfl
  have start : (Json.quote true "name").toList = ['"', 'n', 'a', 'm', 'e', '"'] := by
    decide +kernel
  have colon : Json.spaced.field.toList = [':', ' '] := by decide +kernel
  have ascii : Json.spaced.ascii = true := rfl
  rw [Json.render_obj_cons, quoted, ascii, start, colon, Json.quote_toList]
  rfl

theorem tellsFailure_assistant {message : DecisionMessage} (assistant : message.role = .assistant) :
    message.tellsFailure = false := by
  have other : message ≠ AgentLoop.retryMessage := by
    rintro rfl
    cases assistant
  simp [DecisionMessage.tellsFailure, DecisionMessage.tellsFailedCall, assistant, other]

theorem tellsFailure_tool {message : DecisionMessage} (tool : message.role = .tool) :
    message.tellsFailure = message.tellsFailedCall := by
  have other : message ≠ AgentLoop.retryMessage := by
    rintro rfl
    cases tool
  simp [DecisionMessage.tellsFailure, other]

theorem record_tells_no_failure (decision : ToolCallDecision) (result : ToolResult) :
    (record decision result).countP DecisionMessage.tellsFailure = 0 := by
  have separator : Json.spaced.item.toList = [',', ' '] := by decide +kernel
  have ascii : Json.spaced.ascii = true := rfl
  have quoted : (Json.quote true "result").toList = '"' :: 'r' :: "esult\"".toList := by
    decide +kernel
  have fourth :
      ", \"error\": \"tool_unavailable_or_invalid_arguments\"\x7d".toList[3]? = some 'e' := by
    decide +kernel
  have differs : Json.laterFields Json.spaced [("result", result.dump)] ≠
      ", \"error\": \"tool_unavailable_or_invalid_arguments\"\x7d".toList := by
    intro same
    rw [← same, Json.laterFields, separator, ascii, quoted] at fourth
    cases fourth
  refine List.countP_eq_zero.mpr fun message member => ?_
  rcases List.mem_cons.mp member with rfl | last
  · rw [tellsFailure_assistant rfl]
    decide
  · rw [List.mem_singleton.mp last, tellsFailure_tool rfl]
    simp only [DecisionMessage.tellsFailedCall, DecisionMessage.ofObject, observation_toList,
      Json.skipLiteral_literal]
    simpa using differs

theorem excuse_tells_one_failure (tools : List ToolDefinition) (decision : ToolCallDecision) :
    (excuse tools decision).countP DecisionMessage.tellsFailure ≤ 1 := by
  rw [excuse, AgentLoop.toolMessages, List.countP_cons, tellsFailure_assistant rfl]
  simp only [List.countP_cons, List.countP_nil]
  split <;> simp

/-- The attempt has counted a recovery and not yet gone on from it. -/
def Stage.credit : Stage → Nat
  | .repairing | .excusing _ => 1
  | _ => 0

def Attempt.recovering (attempt : Attempt) : Nat :=
  failuresIn attempt.progress.history + attempt.stage.credit

section Steps

variable {settings : Settings} {attempt after : Attempt} {taken : Event Reply}

theorem Progress.Moves.failures {stage next : Stage} {before after : Progress}
    (moves : Progress.Moves settings job stage before after next) :
    failuresIn before.history ≤ failuresIn after.history ∧
      failuresIn after.history + next.credit ≤ failuresIn before.history + stage.credit := by
  have appends {more : List DecisionMessage} (history : after.history = before.history ++ more)
      (few : more.countP DecisionMessage.tellsFailure + next.credit ≤ stage.credit) :
      failuresIn before.history ≤ failuresIn after.history ∧
        failuresIn after.history + next.credit ≤ failuresIn before.history + stage.credit := by
    have least := failuresIn_le_append before.history more
    have most := failuresIn_append_le before.history more
    rw [history]
    omega
  cases moves with
  | raise _ _ _ _ history => exact appends (history.trans (List.append_nil _).symm) (Nat.zero_le _)
  | pend _ _ _ history => exact appends (history.trans (List.append_nil _).symm) (Nat.zero_le _)
  | repair _ _ history =>
      refine appends history ?_
      simp only [List.countP_cons, List.countP_nil, Stage.credit]
      split <;> omega
  | excuse _ _ history =>
      have few := excuse_tells_one_failure settings.tools
      exact appends history (by simpa only [Stage.credit, Nat.add_zero] using few _)
  | record _ _ history =>
      have none := record_tells_no_failure
      exact appends history (by simp only [Stage.credit, none, le_refl])

theorem Stage.Recovers.credit {tools : List ToolDefinition} {stage next : Stage}
    (recovers : stage.Recovers tools next) : next.credit = 1 := by
  cases recovers <;> rfl

theorem Attempt.Step.failures (step : attempt.Step settings job taken after) :
    failuresIn attempt.progress.history ≤ failuresIn after.progress.history ∧
      (after.recovering ≤ attempt.recovering ∨ (after.recovering ≤ attempt.recovering + 1 ∧
        ∃ saved reply, taken = checkpointed attempt.control.lease .recovery saved reply)) := by
  cases step with
  | progressed moves => exact ⟨moves.failures.1, .inl moves.failures.2⟩
  | recovered recovers =>
      refine ⟨le_refl _, .inr ⟨?_, _, _, rfl⟩⟩
      simp only [Attempt.recovering, recovers.credit]
      omega
  | opened _ entry => exact ⟨le_refl _, .inl (by cases entry <;> exact Nat.le_add_right _ _)⟩
  | decide | decided | dispatch | returned | reviewed | answered =>
      exact ⟨le_refl _, .inl (Nat.le_add_right _ _)⟩
  | reserved | invoked | reconciled | raised => exact ⟨le_refl _, .inl (le_refl _)⟩

end Steps

/-- An attempt has counted the recoveries it makes use of. -/
structure Credited (job : AgentRunJob) (_ : List World.Label) (_ : Nat) (_ : Settings)
    (attempt : Attempt) : Prop where
  tells : Tells job attempt.dict attempt.progress
  counted : ∃ used : Int, counter attempt.dict "recoveries" = .ok used ∧
    (attempt.recovering : Int) ≤ used

/-- The durable history tells of every continuation, each behind a recovery. -/
structure Continued (job : AgentRunJob) (past : List World.Label) (dict : Dict) : Prop where
  tells : ∃ progress, Tells job dict progress
  counted : ∃ used : Int, counter dict "recoveries" = .ok used ∧ (failuresTold dict : Int) ≤ used
  told : (goOn (saves job.agentRunId.text past)).1 = failuresTold dict
  bounded : continuations job.agentRunId.text past ≤ failuresTold dict

theorem Credited.step {past labels : List World.Label} {index : Nat} {settings : Settings}
    {attempt after : Attempt} {taken : Event Reply}
    (credited : Credited job past index settings attempt)
    (step : attempt.Step settings job taken after) : Credited job labels index settings after := by
  obtain ⟨used, counted, within⟩ := credited.counted
  refine ⟨step.tells credited.tells, ?_⟩
  rcases step.recoveries with ⟨same, other⟩ | ⟨before, read, _, next, _⟩
  · rcases step.failures.2 with kept | ⟨_, saved, reply, recovers⟩
    · exact ⟨used, same.trans counted, by omega⟩
    · exact absurd recovers (other saved reply)
  · cases read.symm.trans counted
    refine ⟨_, next, ?_⟩
    rcases step.failures.2 with kept | ⟨more, _⟩ <;> omega

theorem Continued.snoc {past : List World.Label} {label : World.Label} {before dict : Dict}
    {progress : Progress} (continued : Continued job past before)
    (saved : label.saved job.agentRunId.text = some dict) (tells : Tells job dict progress)
    (counted : ∃ used : Int, counter dict "recoveries" = .ok used ∧
      (failuresTold dict : Int) ≤ used)
    (grows : failuresTold before ≤ failuresTold dict) : Continued job (past ++ [label]) dict := by
  have saves : saves job.agentRunId.text (past ++ [label]) =
      saves job.agentRunId.text past ++ [dict] := by
    rw [saves_snoc, saved]
    rfl
  have bounded := continued.bounded
  refine ⟨⟨_, tells⟩, counted, by rw [saves, goOn_snoc], ?_⟩
  rw [continuations, saves, goOn_snoc, continued.told]
  rw [continuations] at bounded
  dsimp only
  split <;> omega

theorem credited_keeps (job : AgentRunJob) (configured : Settings → Prop) :
    Course.Keeps job configured (Credited job) (Continued job) where
  blank := ⟨⟨_, .of_empty job⟩, ⟨0, rfl, le_refl _⟩, rfl, le_refl _⟩
  waits credited _ := ⟨credited.tells, credited.counted⟩
  rests {past label dict} continued nothing := by
    have same : saves job.agentRunId.text (past ++ [label]) = saves job.agentRunId.text past := by
      rw [saves_snoc, nothing]
      simp
    exact ⟨continued.tells, continued.counted, by rw [same]; exact continued.told,
      by rw [continuations, same]; exact continued.bounded⟩
  opens _ continued _ claimed _ := by
    obtain ⟨used, counted, within⟩ := continued.counted
    rw [claimed.tells.failuresTold_eq] at within
    exact ⟨claimed.tells, used, counted, within⟩
  works credited step _ := credited.step step
  saves {past index site settings attempt after} credited continued lease step := by
    have next := @Credited.step job past
      (past ++ [.event index (checkpointed attempt.control.lease site after.dict (.ok ()))]) index
      settings attempt after _ credited step
    refine ⟨next, continued.snoc (saved_checkpointed site after.dict lease) next.tells ?_ ?_⟩
    · obtain ⟨used, counted, within⟩ := next.counted
      refine ⟨used, counted, le_trans ?_ within⟩
      rw [next.tells.failuresTold_eq, Attempt.recovering]
      omega
    · rw [credited.tells.failuresTold_eq, next.tells.failuresTold_eq]
      exact step.failures.1
  stuck {past index settings attempt} credited continued lease _ := by
    have tells : Tells job (attempt.dict.update
        [("limits", Runner.limitsOf settings attempt.dict)]) attempt.progress :=
      tells_other credited.tells rfl
    obtain ⟨used, counted, within⟩ := continued.counted
    have same : failuresTold (attempt.dict.update
        [("limits", Runner.limitsOf settings attempt.dict)]) = failuresTold attempt.dict := by
      rw [tells.failuresTold_eq, credited.tells.failuresTold_eq]
    refine continued.snoc (saved_checkpointed _ _ lease) tells ⟨used, ?_, same ▸ within⟩ same.ge
    rw [← counted]
    exact counter_congr (Dict.get?_update_of_not_mem _ _ (by simp))

end Crewos.Agent

import Crewos.Agent.Runner

/-! # What a checkpoint dictionary says

A dictionary has the keys of a progress checkpoint, all of them and from one
checkpoint, or it has none of them and the run is at its beginning. Every other
key belongs to another call of `persist`. -/

namespace Crewos.Agent

open Foundation

/-- What `checkpoint` persists. -/
structure Progress where
  history : List DecisionMessage
  decisions : Nat
  toolCalls : Int
  toolsCompleted : Int
  pending : Option ToolCallDecision
  replaySafe : Bool
  searched : Bool
  passages : List RetrievedPassage
  sources : List SourceReference
  begun : pending ≠ none → 1 ≤ decisions
  distinct : (passages.map sourceKey).Nodup

namespace Progress

def pendingJson : Option ToolCallDecision → Json
  | some decision => decision.dump
  | none => .null

def fields (job : AgentRunJob) (progress : Progress) : Dict :=
  [("history", .arr (progress.history.map DecisionMessage.dump)),
    ("decisions", .int progress.decisions),
    ("tool_calls", .int progress.toolCalls),
    ("tools_completed", .int progress.toolsCompleted),
    ("pending", pendingJson progress.pending),
    ("replay_safe", .bool progress.replaySafe),
    ("answer_mode", .str job.answerMode.text),
    ("document_search_completed", .bool progress.searched),
    ("document_question", .str job.message.value),
    ("observed_passages", .arr (progress.passages.map RetrievedPassage.dump)),
    ("observed_sources", .arr (progress.sources.map SourceReference.dump))]

def keys : List String :=
  ["history", "decisions", "tool_calls", "tools_completed", "pending", "replay_safe",
    "answer_mode", "document_search_completed", "document_question", "observed_passages",
    "observed_sources"]

theorem keys_fields (job : AgentRunJob) (progress : Progress) :
    (progress.fields job).map Prod.fst = keys := rfl

def initial (job : AgentRunJob) : Progress :=
  { history := [Runner.userMessage job], decisions := 0, toolCalls := 0, toolsCompleted := 0,
    pending := none, replaySafe := false, searched := false, passages := [], sources := [],
    begun := nofun, distinct := List.nodup_nil }

/-- The same evidence, the sources perhaps in another order. -/
structure SameEvidence (before after : Progress) : Prop where
  searched : after.searched = before.searched
  passages : after.passages = before.passages
  sources : ∀ source, source ∈ after.sources ↔ source ∈ before.sources

theorem SameEvidence.refl (progress : Progress) : SameEvidence progress progress :=
  ⟨rfl, rfl, fun _ => Iff.rfl⟩

end Progress

/-- What the dictionary says of the progress of the job's run. -/
inductive Tells (job : AgentRunJob) (dict : Dict) : Progress → Prop
  | blank (absent : ∀ key ∈ Progress.keys, dict.get? key = none) :
      Tells job dict (Progress.initial job)
  | recorded {progress : Progress}
      (entries : ∀ entry ∈ progress.fields job, dict.get? entry.1 = some entry.2) :
      Tells job dict progress

theorem get?_update_of_mem {dict updates : Dict} (distinct : (updates.map Prod.fst).Nodup)
    {entry : String × Json} (member : entry ∈ updates) :
    (dict.update updates).get? entry.1 = some entry.2 := by
  induction updates generalizing dict with
  | nil => cases member
  | cons head rest induction =>
      rcases head with ⟨name, value⟩
      obtain ⟨fresh, distinct⟩ := List.nodup_cons.mp distinct
      rw [Dict.update_cons]
      rcases List.mem_cons.mp member with rfl | member
      · rw [Dict.get?_update_of_not_mem _ _ fresh, Dict.get?_set_same]
      · exact induction distinct member

namespace Tells

variable {job : AgentRunJob} {dict : Dict} {progress : Progress}

theorem of_empty (job : AgentRunJob) : Tells job [] (Progress.initial job) :=
  .blank fun _ _ => rfl

theorem update (job : AgentRunJob) (dict : Dict) (progress : Progress) :
    Tells job (dict.update (progress.fields job)) progress :=
  .recorded fun _ member => get?_update_of_mem (by rw [Progress.keys_fields]; decide) member

theorem update_other (tells : Tells job dict progress) {updates : Dict}
    (other : ∀ key ∈ Progress.keys, key ∉ updates.map Prod.fst) :
    Tells job (dict.update updates) progress := by
  cases tells with
  | blank absent =>
      refine .blank fun key member => ?_
      rw [Dict.get?_update_of_not_mem _ _ (other key member)]
      exact absent key member
  | recorded entries =>
      refine .recorded fun entry member => ?_
      have key : entry.1 ∈ Progress.keys := by
        rw [← progress.keys_fields job]
        exact List.mem_map_of_mem member
      rw [Dict.get?_update_of_not_mem _ _ (other _ key)]
      exact entries entry member

/-! ### How the source reads it -/

theorem get? (tells : Tells job dict progress) (entry : String × Json)
    (member : entry ∈ progress.fields job) :
    dict.get? entry.1 = some entry.2 ∨ (dict.get? entry.1 = none ∧ progress = .initial job) := by
  cases tells with
  | blank absent =>
      refine .inr ⟨absent _ ?_, rfl⟩
      rw [← (Progress.initial job).keys_fields job]
      exact List.mem_map_of_mem member
  | recorded entries => exact .inl (entries entry member)

theorem decisions (tells : Tells job dict progress) :
    counter dict "decisions" = .ok progress.decisions := by
  have here := tells.get? ("decisions", .int progress.decisions)
    (by simp [Progress.fields])
  rcases here with here | ⟨here, rfl⟩ <;> simp [counter, Dict.getD, here, readInt]
  rfl

theorem toolCalls (tells : Tells job dict progress) :
    counter dict "tool_calls" = .ok progress.toolCalls := by
  have here := tells.get? ("tool_calls", .int progress.toolCalls)
    (by simp [Progress.fields])
  rcases here with here | ⟨here, rfl⟩ <;> simp [counter, Dict.getD, here, readInt]
  rfl

theorem toolsCompleted (tells : Tells job dict progress) :
    counter dict "tools_completed" = .ok progress.toolsCompleted := by
  have here := tells.get? ("tools_completed", .int progress.toolsCompleted)
    (by simp [Progress.fields])
  rcases here with here | ⟨here, rfl⟩ <;> simp [counter, Dict.getD, here, readInt]
  rfl

theorem sources (tells : Tells job dict progress) :
    AgentLoop.listOf dict "observed_sources" SourceReference.validate = .ok progress.sources := by
  have here := tells.get?
    ("observed_sources", .arr (progress.sources.map SourceReference.dump))
    (by simp [Progress.fields])
  have read := Fields.items_map SourceReference.validate_dump progress.sources
  rcases here with here | ⟨here, rfl⟩
  · simp [AgentLoop.listOf, Dict.getD, here, read, validated]
  · simp [AgentLoop.listOf, Dict.getD, here, validated, Fields.items, Fields.all,
      Progress.initial]

theorem passages (tells : Tells job dict progress) :
    AgentLoop.listOf dict "observed_passages" RetrievedPassage.validate =
      .ok progress.passages := by
  have here := tells.get?
    ("observed_passages", .arr (progress.passages.map RetrievedPassage.dump))
    (by simp [Progress.fields])
  have read := Fields.items_map RetrievedPassage.validate_dump progress.passages
  rcases here with here | ⟨here, rfl⟩
  · simp [AgentLoop.listOf, Dict.getD, here, read, validated]
  · simp [AgentLoop.listOf, Dict.getD, here, validated, Fields.items, Fields.all,
      Progress.initial]

theorem searched (tells : Tells job dict progress) :
    (dict.getD "document_search_completed" (.bool false)).truthy = progress.searched := by
  have here := tells.get? ("document_search_completed", .bool progress.searched)
    (by simp [Progress.fields])
  rcases here with here | ⟨here, rfl⟩ <;> simp [Dict.getD, here, Json.truthy]
  rfl

theorem history (tells : Tells job dict progress) :
    (if dict.contains "history" then
      AgentLoop.listOf dict "history" DecisionMessage.validate
      else .ok [Runner.userMessage job]) = .ok progress.history := by
  have here := tells.get?
    ("history", .arr (progress.history.map DecisionMessage.dump))
    (by simp [Progress.fields])
  have read := Fields.items_map DecisionMessage.validate_dump progress.history
  rcases here with here | ⟨here, rfl⟩
  · simp [AgentLoop.listOf, Dict.getD, Dict.contains, here, read, validated]
  · simp [Dict.contains, here, Progress.initial]

theorem pending (tells : Tells job dict progress) :
    AgentLoop.pendingOf dict = progress.pending.map ToolCallDecision.dump := by
  have here := tells.get? ("pending", Progress.pendingJson progress.pending)
    (by simp [Progress.fields])
  rcases here with here | ⟨here, rfl⟩
  · simp only at here
    unfold AgentLoop.pendingOf Dict.getD
    rw [here]
    cases progress.pending <;> rfl
  · simp [AgentLoop.pendingOf, Dict.getD, here, Json.truthy, Progress.initial]

theorem unsafePending (tells : Tells job dict progress) :
    RunStore.unsafePending dict = (progress.pending.isSome && !progress.replaySafe) := by
  have marker := tells.get? ("pending", Progress.pendingJson progress.pending)
    (by simp [Progress.fields])
  have flag := tells.get? ("replay_safe", .bool progress.replaySafe)
    (by simp [Progress.fields])
  have truthy : (Progress.pendingJson progress.pending).truthy = progress.pending.isSome := by
    cases progress.pending <;> rfl
  rcases marker with marker | ⟨marker, rfl⟩
  · rcases flag with flag | ⟨flag, rfl⟩
    · simp only at marker flag
      have same : (Json.bool progress.replaySafe).truthy = progress.replaySafe := rfl
      simp [RunStore.unsafePending, Dict.getD, marker, flag, truthy, same]
    · simp only at marker
      simp [RunStore.unsafePending, Dict.getD, marker, Progress.initial, Progress.pendingJson,
        Json.truthy]
  · simp [RunStore.unsafePending, Dict.getD, marker, Progress.initial, Json.truthy]

theorem question (tells : Tells job dict progress) :
    (dict.getD "document_question" (.str job.message.value)) = .str job.message.value := by
  have here := tells.get? ("document_question", .str job.message.value)
    (by simp [Progress.fields])
  rcases here with here | ⟨here, _⟩ <;> simp [Dict.getD, here]

end Tells

end Crewos.Agent

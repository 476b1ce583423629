import Crewos.Agent.Soundness

/-! # Saved answers

An attempt whose answer is saved works on a dictionary that the final-result
branch accepts, whichever way the answer came about. -/

namespace Crewos.Agent

open Foundation RunStore

/-! ## Invariants of attempts -/

/-- A property of attempts that their opening establishes and their steps keep. -/
structure Lasting (Holds : Settings → AgentRunJob → Attempt → Prop) : Prop where
  opens : ∀ settings job (row : RunRow) token progress control, Claimed job row token progress →
    controlFor settings (Runner.jobLease job token) row.checkpoint = .ok control →
    Holds settings job
      { control, number := row.attempts, dict := row.checkpoint, progress, stage := .opening,
        charge := .none }
  steps : ∀ settings job attempt event after, Holds settings job attempt →
    Attempt.Step settings job attempt event after → Holds settings job after

def Floor.Works (Holds : Settings → AgentRunJob → Attempt → Prop) (floor : Floor) : Prop :=
  ∀ (index : Nat) (party : Party) attempt, floor.parties[index]? = some party →
    party.standing = .working attempt → Holds party.settings party.job attempt

theorem Lasting.step {Holds : Settings → AgentRunJob → Attempt → Prop} (lasting : Lasting Holds)
    {floor next : Floor} {label : World.Label} (step : Floor.Step floor label next)
    (works : floor.Works Holds) : next.Works Holds := by
  intro other found attempt there working
  cases step with
  | client => exact works other found attempt there working
  | deliver =>
      rcases Floor.parties_append there with there | ⟨_, rfl⟩
      · exact works other found attempt there working
      · cases working
  | event here moves =>
      rcases Floor.parties_set there with ⟨rfl, rfl⟩ | ⟨_, there⟩
      · have before := fun attempt => works _ _ attempt here
        simp only at working
        subst working
        generalize was : Party.standing _ = standing at moves before
        cases moves with
        | plain => exact before attempt rfl
        | works step => exact lasting.steps _ _ _ _ _ (before _ rfl) step
        | claimed claimed built => exact lasting.opens _ _ _ _ _ _ claimed built
      · exact works other found attempt there working

/-! ## What the branch reads -/

/-- The keys the final-result branch reads. -/
def finalKeys : List String :=
  ["final_result", "observed_sources", "answer_mode", "document_search_completed",
    "document_question", "observed_passages", "document_review"]

theorem finalResult_congr {settings : Settings} {job : AgentRunJob} {left right : Dict}
    (same : ∀ key ∈ finalKeys, left.get? key = right.get? key) :
    Runner.finalResult settings job left = Runner.finalResult settings job right := by
  have final := same "final_result" (by decide)
  have sources := same "observed_sources" (by decide)
  have mode := same "answer_mode" (by decide)
  have searched := same "document_search_completed" (by decide)
  have question := same "document_question" (by decide)
  have passages := same "observed_passages" (by decide)
  have review := same "document_review" (by decide)
  unfold Runner.finalResult Runner.checkDocument Runner.receiptOf AgentLoop.listOf Dict.getD
  rw [final, sources, mode, searched, question, passages, review]

theorem finalResult_update {settings : Settings} {job : AgentRunJob} {dict updates : Dict}
    (other : (updates.map Prod.fst).all (fun key => !finalKeys.contains key) = true) :
    Runner.finalResult settings job (dict.update updates) =
      Runner.finalResult settings job dict := by
  refine finalResult_congr fun key member => Dict.get?_update_of_not_mem _ _ fun updated => ?_
  have absent := List.all_eq_true.mp other key updated
  simp [member] at absent

theorem mode_of_finalResult {settings : Settings} {job : AgentRunJob} {dict : Dict}
    {answer : AgentAnswer} (final : Runner.finalResult settings job dict = .ok answer) :
    answer.mode = job.answerMode := by
  obtain ⟨read, valid, final⟩ := Outcome.bind_eq_ok.mp final
  have mode := AgentAnswer.mode_of_validate (validated_eq_ok.mp valid)
  obtain ⟨_, _, final⟩ := Outcome.bind_eq_ok.mp final
  cases read with
  | general =>
      obtain ⟨_, _, same⟩ := Outcome.bind_eq_ok.mp final
      cases same
      exact mode
  | document =>
      obtain ⟨_, _, same⟩ := Outcome.bind_eq_ok.mp final
      cases same
      exact mode

/-! ## Saved answers -/

/-- The dictionary of an answered attempt passes the final-result branch. -/
def Attempt.Final (settings : Settings) (job : AgentRunJob) (attempt : Attempt) : Prop :=
  ∀ answer, attempt.stage = .answered answer →
    Runner.finalResult settings job attempt.dict = .ok answer

theorem Progress.Moves.not_answered {settings : Settings} {job : AgentRunJob}
    {stage next : Stage} {before after : Progress}
    (moves : Progress.Moves settings job stage before after next) (answer : AgentAnswer) :
    next ≠ .answered answer := by
  cases moves <;> simp

theorem Stage.Recovers.not_answered {tools : List ToolDefinition} {stage next : Stage}
    (recovers : stage.Recovers tools next) (answer : AgentAnswer) : next ≠ .answered answer := by
  cases recovers <;> simp

theorem final_lasting : Lasting Attempt.Final where
  opens _ _ _ _ _ _ _ _ _ answered := by cases answered
  steps settings job attempt event after final step := by
    intro answer answered
    cases step with
    | opened _ entry =>
        cases entry with
        | final _ valid =>
            cases answered
            rw [finalResult_update rfl]
            exact valid
        | pending => cases answered
        | fresh => cases answered
    | progressed moves => exact absurd answered (moves.not_answered answer)
    | decide => cases answered
    | decided => cases answered
    | reserved calls =>
        have stage : attempt.stage = .answered answer := answered
        rw [stage] at calls
        cases calls
    | invoked => exact final answer answered
    | reconciled _ calls =>
        have stage : attempt.stage = .answered answer := answered
        rw [stage] at calls
        cases calls
    | recovered recovers => exact absurd answered (recovers.not_answered answer)
    | dispatch => cases answered
    | returned => cases answered
    | raised => exact final answer answered
    | reviewed => cases answered
    | answered _ valid =>
        cases answered
        exact valid

end Crewos.Agent

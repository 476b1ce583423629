import Crewos.Agent.Numbers
import Crewos.Agent.Receipts

/-! # The evidence gate

What a run cites, it has found: every passage and every source of its progress
comes from a document search of the same run whose result a checkpoint has
recorded, and an answer is accepted on the progress of the durable checkpoint
only. -/

namespace Crewos.Agent

open Foundation RunStore

/-! ## Recorded searches -/

/-- How far a delivery has come is marked by its claims and dispatches, by the
results of its tools and by the checkpoints that were accepted. -/
def milestone : Event Reply → Bool
  | ⟨.claim _, _⟩ | ⟨.dispatch _ _ _, _⟩ => true
  | ⟨.handle _ _ _, reply⟩ =>
      match (reply : Except Exc ToolResult) with
      | .ok _ => true
      | .error _ => false
  | ⟨.control (.checkpoint _ _ _), reply⟩ =>
      match (reply : Except RunStoreError Unit) with
      | .ok _ => true
      | .error _ => false
  | _ => false

def World.Label.milestone (index : Nat) : World.Label → Option (Event Reply)
  | .event other taken => if other = index ∧ Agent.milestone taken = true then some taken else none
  | _ => none

def milestones (index : Nat) (labels : List World.Label) : List (Event Reply) :=
  labels.filterMap (World.Label.milestone index)

/-- A tool is dispatched for the run, and this is its result. -/
def called (runId : String) (step : Int) (decision : ToolCallDecision) (remaining : Time)
    (result : ToolResult) : List (Event Reply) :=
  [⟨.dispatch runId step decision, ()⟩,
    ⟨.handle decision.name.value decision.arguments remaining,
      (Except.ok result : Except Exc ToolResult)⟩]

def ListedIn (saved : Dict) (found : RetrievalResult) : Prop :=
  ∃ sources, AgentLoop.listOf saved "observed_sources" SourceReference.validate = .ok sources ∧
    ∀ passage ∈ found.passages, sourceKey passage ∈ sources

/-- A dispatch of `search_documents` for the run has found this, and the next
checkpoint of the same attempt has recorded it. -/
def Recorded (runId : String) (labels : List World.Label) (found : RetrievalResult) : Prop :=
  ∃ index step decision remaining lease saved,
    decision.name.value = "search_documents" ∧ lease.runId = runId ∧ ListedIn saved found ∧
      called runId step decision remaining (.retrieval found) ++
        [checkpointed lease .progress saved (.ok ())] <:+: milestones index labels

theorem milestones_append (index : Nat) (before after : List World.Label) :
    milestones index (before ++ after) = milestones index before ++ milestones index after :=
  List.filterMap_append

theorem milestones_snoc (index : Nat) (past : List World.Label) (label : World.Label) :
    milestones index (past ++ [label]) =
      milestones index past ++ (label.milestone index).toList := by
  simp only [milestones, List.filterMap_append, List.filterMap_cons, List.filterMap_nil]
  cases label.milestone index <;> rfl

theorem milestones_of_none {index : Nat} {past : List World.Label} {label : World.Label}
    (none : label.milestone index = none) :
    milestones index (past ++ [label]) = milestones index past := by
  rw [milestones_snoc, none]
  exact List.append_nil _

theorem milestones_of_some {index : Nat} {past : List World.Label} {taken : Event Reply}
    (marks : milestone taken = true) :
    milestones index (past ++ [.event index taken]) = milestones index past ++ [taken] := by
  rw [milestones_snoc, World.Label.milestone, if_pos ⟨rfl, marks⟩]
  rfl

theorem recorded_snoc {runId : String} {past : List World.Label} {label : World.Label}
    {found : RetrievalResult} : Recorded runId (past ++ [label]) found ↔
      Recorded runId past found ∨ ∃ index step decision remaining lease saved,
        decision.name.value = "search_documents" ∧ lease.runId = runId ∧ ListedIn saved found ∧
        label = .event index (checkpointed lease .progress saved (.ok ())) ∧
        called runId step decision remaining (.retrieval found) <:+ milestones index past := by
  constructor
  · rintro ⟨index, step, decision, remaining, lease, saved, search, run, listed, within⟩
    cases mark : label.milestone index with
    | none =>
        rw [milestones_of_none mark] at within
        exact .inl ⟨index, step, decision, remaining, lease, saved, search, run, listed, within⟩
    | some taken =>
        rw [milestones_snoc, mark] at within
        rcases List.infix_concat_iff.mp within with last | before
        · right
          obtain ⟨tail, same⟩ := last
          rw [← List.append_assoc] at same
          obtain ⟨before, single⟩ := List.append_inj' same rfl
          cases single
          refine ⟨index, step, decision, remaining, lease, saved, search, run, listed, ?_, tail,
            before⟩
          cases label with
          | event other event =>
              rw [World.Label.milestone] at mark
              split at mark
              · rename_i same
                cases mark
                rw [same.1]
              · cases mark
          | _ => cases mark
        · exact .inl ⟨index, step, decision, remaining, lease, saved, search, run, listed, before⟩
  · rintro (⟨index, step, decision, remaining, lease, saved, search, run, listed, within⟩ |
      ⟨index, step, decision, remaining, lease, saved, search, run, listed, rfl, last⟩)
    · refine ⟨index, step, decision, remaining, lease, saved, search, run, listed, within.trans ?_⟩
      rw [milestones_snoc]
      exact (List.prefix_append _ _).isInfix
    · refine ⟨index, step, decision, remaining, lease, saved, search, run, listed, ?_⟩
      rw [milestones_of_some rfl]
      obtain ⟨tail, same⟩ := last
      rw [← same, List.append_assoc]
      exact (List.suffix_append _ _).isInfix

theorem recorded_of_unsaved {runId : String} {past : List World.Label} {label : World.Label}
    {found : RetrievalResult} (unsaved : label.saved runId = none) :
    Recorded runId (past ++ [label]) found ↔ Recorded runId past found := by
  refine recorded_snoc.trans ⟨?_, .inl⟩
  rintro (before | ⟨index, step, decision, remaining, lease, saved, _, run, _, rfl, _⟩)
  · exact before
  · rw [saved_checkpointed .progress saved run] at unsaved
    cases unsaved

/-! ## Evidence that rests on searches -/

/-- The evidence is what the recorded searches of the run have found. -/
structure Grounded (job : AgentRunJob) (past : List World.Label) (progress : Progress) : Prop where
  searched : progress.searched = true ↔ ∃ found, Recorded job.agentRunId.text past found
  sources : ∀ source, source ∈ progress.sources ↔
    ∃ found, Recorded job.agentRunId.text past found ∧ source ∈ found.passages.map sourceKey
  passages : job.answerMode = .document → ∀ passage, passage ∈ progress.passages ↔
    ∃ found, Recorded job.agentRunId.text past found ∧ passage ∈ found.passages

def Attempt.Finds (attempt : Attempt) (found : RetrievalResult) : Prop :=
  ∃ decision, attempt.stage = .returned decision (.retrieval found) ∧
    decision.name.value = "search_documents"

theorem isSearch_iff {decision : ToolCallDecision} {result : ToolResult} :
    isSearch decision result = true ↔
      ∃ found, result = .retrieval found ∧ decision.name.value = "search_documents" := by
  cases result <;> simp [isSearch]

theorem mem_foundBy {decision : ToolCallDecision} {result : ToolResult}
    {passage : RetrievedPassage} : passage ∈ foundBy decision result ↔
      ∃ found, (result = .retrieval found ∧ decision.name.value = "search_documents") ∧
        passage ∈ found.passages := by
  cases result with
  | retrieval found =>
      by_cases search : decision.name.value = "search_documents" <;> simp [foundBy, search]
  | other => simp [foundBy]

section Steps

variable {settings : Settings} {job : AgentRunJob} {attempt after : Attempt} {taken : Event Reply}
  {past : List World.Label} {label : World.Label} {progress other : Progress}

theorem Grounded.same (grounded : Grounded job past progress)
    (evidence : Progress.SameEvidence progress other)
    (nothing : ∀ found, Recorded job.agentRunId.text (past ++ [label]) found ↔
      Recorded job.agentRunId.text past found) : Grounded job (past ++ [label]) other := by
  refine ⟨?_, fun source => ?_, fun document passage => ?_⟩
  · simp only [evidence.searched, nothing]
    exact grounded.searched
  · simp only [evidence.sources, nothing]
    exact grounded.sources source
  · simp only [evidence.passages, nothing]
    exact grounded.passages document passage

theorem Grounded.observes (grounded : Grounded job past progress) {decision : ToolCallDecision}
    {result : ToolResult} (evidence : Progress.Observes decision result progress other)
    (complete : job.answerMode = .document → ∀ passage,
      passage ∈ progress.passages ∨ passage ∈ foundBy decision result → passage ∈ other.passages)
    (records : ∀ found, Recorded job.agentRunId.text (past ++ [label]) found ↔
      Recorded job.agentRunId.text past found ∨
        result = .retrieval found ∧ decision.name.value = "search_documents") :
    Grounded job (past ++ [label]) other := by
  refine ⟨?_, fun source => ?_, fun document passage => ?_⟩
  · simp only [records, evidence.searched, Bool.or_eq_true, grounded.searched, isSearch_iff,
      exists_or]
  · simp only [records, evidence.sources, grounded.sources, or_and_right, exists_or]
    refine or_congr Iff.rfl ⟨?_, ?_⟩
    · intro member
      obtain ⟨passage, here, rfl⟩ := List.mem_map.mp member
      obtain ⟨found, search, within⟩ := mem_foundBy.mp here
      exact ⟨found, search, List.mem_map_of_mem within⟩
    · rintro ⟨found, search, member⟩
      obtain ⟨passage, here, rfl⟩ := List.mem_map.mp member
      exact List.mem_map_of_mem (mem_foundBy.mpr ⟨found, search, here⟩)
  · have all : passage ∈ other.passages ↔
        passage ∈ progress.passages ∨ passage ∈ foundBy decision result :=
      ⟨evidence.passages passage, complete document passage⟩
    simp only [all, records, grounded.passages document, mem_foundBy, or_and_right, exists_or]

theorem Attempt.Step.evidence {lease : Lease} {site : Site} {saved : Dict}
    (step : attempt.Step settings job (checkpointed lease site saved (.ok ())) after) :
    (Progress.SameEvidence attempt.progress after.progress ∧ ∀ found, ¬attempt.Finds found) ∨
      ∃ decision result, attempt.stage = .returned decision result ∧ site = .progress ∧
        Progress.Observes decision result attempt.progress after.progress ∧
        (job.answerMode = .document → ∀ passage,
          passage ∈ attempt.progress.passages ∨ passage ∈ foundBy decision result →
          passage ∈ after.progress.passages) := by
  have elsewhere {stage : Stage} (here : attempt.stage = stage)
      (other : ∀ decision result, stage ≠ .returned decision result) :
      ∀ found, ¬attempt.Finds found := by
    rintro found ⟨decision, there, _⟩
    exact other _ _ (here.symm.trans there)
  cases step with
  | opened opening => exact .inl ⟨.refl _, elsewhere opening (by simp)⟩
  | progressed moves =>
      generalize was : attempt.stage = stage at moves
      cases moves with
      | raise _ _ _ _ _ evidence | repair _ _ _ evidence | pend _ _ _ _ evidence
      | excuse _ _ _ evidence => exact .inl ⟨evidence, elsewhere was (by simp)⟩
      | record _ _ _ evidence complete => exact .inr ⟨_, _, rfl, rfl, evidence, complete⟩
  | reserved calls | reconciled _ calls =>
      generalize was : attempt.stage = stage at calls
      cases calls <;> exact .inl ⟨.refl _, elsewhere was (by simp)⟩
  | recovered recovers =>
      generalize was : attempt.stage = stage at recovers
      cases recovers <;> exact .inl ⟨.refl _, elsewhere was (by simp)⟩
  | reviewed chosen => exact .inl ⟨.refl _, elsewhere chosen (by simp)⟩
  | answered proposes =>
      generalize was : attempt.stage = stage at proposes
      cases proposes <;> exact .inl ⟨.refl _, elsewhere was (by simp)⟩

end Steps

/-! ## Attempts and their searches -/

def Stage.calling : Stage → Bool
  | .dispatched _ | .returned _ _ => true
  | _ => false

/-- The milestones of an attempt tell which result it has still to record. -/
structure Searching (job : AgentRunJob) (configured : Settings → Prop) (past : List World.Label)
    (index : Nat) (settings : Settings) (attempt : Attempt) : Prop where
  allowed : configured settings
  tells : Tells job attempt.dict attempt.progress
  final : attempt.Final settings job
  dispatched : ∀ decision, attempt.stage = .dispatched decision →
    [(⟨.dispatch job.agentRunId.text attempt.progress.decisions decision, ()⟩ : Event Reply)] <:+
      milestones index past
  returned : ∀ decision result, attempt.stage = .returned decision result → ∃ remaining,
    called job.agentRunId.text attempt.progress.decisions decision remaining result <:+
      milestones index past
  result : ∀ tool arguments remaining result,
    [(⟨.handle tool arguments remaining, (Except.ok result : Except Exc ToolResult)⟩ :
      Event Reply)] <:+ milestones index past →
    ∃ decision, attempt.stage = .returned decision result ∧ decision.name.value = tool

/-- The progress of the durable checkpoint rests on searches of the run. -/
def Gated (job : AgentRunJob) (past : List World.Label) (dict : Dict) : Prop :=
  ∃ progress, Tells job dict progress ∧ Grounded job past progress

theorem Gated.grounded {job : AgentRunJob} {past : List World.Label} {dict : Dict}
    {progress : Progress} (gated : Gated job past dict) (tells : Tells job dict progress) :
    Grounded job past progress := by
  obtain ⟨other, also, grounded⟩ := gated
  have searched := also.searched.symm.trans tells.searched
  have sources := Except.ok.inj (also.sources.symm.trans tells.sources)
  have passages := Except.ok.inj (also.passages.symm.trans tells.passages)
  refine ⟨?_, ?_, ?_⟩
  · rw [← searched]
    exact grounded.searched
  · rw [← sources]
    exact grounded.sources
  · rw [← passages]
    exact grounded.passages

section Searching

variable {settings : Settings} {job : AgentRunJob} {configured : Settings → Prop}
  {attempt after : Attempt} {taken : Event Reply} {past : List World.Label} {index : Nat}
  {site : Site} {saved : Dict}

theorem milestone_plain (plain : taken.request.plain = true) : milestone taken = false := by
  rcases taken with ⟨request, reply⟩
  cases request with
  | control request =>
      cases request with
      | checkpoint => cases plain
      | _ => rfl
  | decide | decided | dispatch | handle | claim => cases plain
  | _ => rfl

theorem milestone_waits {label : World.Label}
    (plain : ∀ taken, label = .event index taken → taken.request.plain = true) :
    label.milestone index = none := by
  cases label with
  | event other taken =>
      rw [World.Label.milestone]
      refine if_neg ?_
      rintro ⟨rfl, marks⟩
      rw [milestone_plain (plain taken rfl)] at marks
      cases marks
  | _ => rfl

theorem milestones_unmarked (unmarked : milestone taken = false) :
    milestones index (past ++ [.event index taken]) = milestones index past := by
  refine milestones_of_none ?_
  rw [World.Label.milestone, unmarked]
  simp

theorem Searching.unmarked (searching : Searching job configured past index settings attempt)
    {label : World.Label} (nothing : label.milestone index = none)
    (tells : Tells job after.dict after.progress) (final : after.Final settings job)
    (same : after.progress = attempt.progress) (stages : after.stage = attempt.stage ∨
      attempt.stage.calling = false ∧ after.stage.calling = false) :
    Searching job configured (past ++ [label]) index settings after := by
  have idle {stage : Stage} (calling : stage.calling = true)
      (here : after.stage = stage) : attempt.stage = stage := by
    rcases stages with same | ⟨_, calm⟩
    · exact same.symm.trans here
    · rw [here, calling] at calm
      cases calm
  refine ⟨searching.allowed, tells, final, fun decision here => ?_, fun decision result here => ?_,
    fun tool arguments remaining result last => ?_⟩
  · rw [milestones_of_none nothing, same]
    exact searching.dispatched decision (idle rfl here)
  · rw [milestones_of_none nothing, same]
    exact searching.returned decision result (idle rfl here)
  · rw [milestones_of_none nothing] at last
    obtain ⟨decision, here, named⟩ := searching.result tool arguments remaining result last
    rcases stages with same | ⟨calm, _⟩
    · exact ⟨decision, same.trans here, named⟩
    · rw [here] at calm
      cases calm

theorem Searching.settled (allowed : configured settings)
    (tells : Tells job after.dict after.progress) (final : after.Final settings job)
    (idle : after.stage.calling = false) (marks : milestone taken = true)
    (other : ∀ tool arguments remaining, taken.request ≠ .handle tool arguments remaining) :
    Searching job configured (past ++ [.event index taken]) index settings after := by
  refine ⟨allowed, tells, final, fun decision here => ?_, fun decision result here => ?_,
    fun tool arguments remaining result last => ?_⟩
  · rw [here] at idle
    cases idle
  · rw [here] at idle
    cases idle
  · rw [milestones_of_some marks] at last
    obtain ⟨tail, same⟩ := last
    obtain ⟨_, single⟩ := List.append_inj' same rfl
    cases single
    exact absurd rfl (other tool arguments remaining)

theorem Attempt.Step.idle
    (step : attempt.Step settings job
      (checkpointed attempt.control.lease site saved (.ok ())) after) :
    after.stage.calling = false := by
  cases step with
  | opened _ entry => cases entry <;> rfl
  | progressed moves =>
      generalize attempt.stage = stage at moves
      cases moves <;> rfl
  | reserved calls | reconciled _ calls =>
      generalize attempt.stage = stage at calls
      cases calls <;> rfl
  | recovered recovers =>
      generalize attempt.stage = stage at recovers
      cases recovers <;> rfl
  | reviewed | answered => rfl

theorem Searching.step (searching : Searching job configured past index settings attempt)
    (step : attempt.Step settings job taken after)
    (calm : ∀ token, taken.request.operation token = none) :
    Searching job configured (past ++ [.event index taken]) index settings after := by
  have tells := step.tells searching.tells
  have final := final_lasting.steps settings job attempt taken after searching.final step
  have unmarked (nothing : milestone taken = false) (stages : after.stage = attempt.stage ∨
      attempt.stage.calling = false ∧ after.stage.calling = false) :
      Searching job configured (past ++ [.event index taken]) index settings after := by
    refine searching.unmarked ?_ tells final (step.still calm) stages
    rw [World.Label.milestone, nothing]
    simp
  cases step with
  | opened | progressed | reserved | reconciled | recovered | reviewed | answered => cases calm ""
  | decide raised => exact unmarked rfl (.inr ⟨by rw [raised]; rfl, rfl⟩)
  | decided asked => exact unmarked rfl (.inr ⟨by rw [asked]; rfl, rfl⟩)
  | invoked | raised => exact unmarked rfl (.inl rfl)
  | @dispatch decision pended =>
      refine ⟨searching.allowed, tells, final, fun other here => ?_, (fun _ _ here => by cases here),
        fun tool arguments remaining result last => ?_⟩
      · cases here
        rw [milestones_of_some rfl]
        exact List.suffix_append _ _
      · rw [milestones_of_some rfl] at last
        obtain ⟨tail, same⟩ := last
        obtain ⟨_, single⟩ := List.append_inj' same rfl
        cases single
  | @returned decision remaining result dispatched =>
      refine ⟨searching.allowed, tells, final, (fun _ here => by cases here),
        fun other found here => ?_, fun tool arguments remaining result last => ?_⟩
      · cases here
        obtain ⟨tail, same⟩ := searching.dispatched decision dispatched
        refine ⟨remaining, tail, ?_⟩
        rw [milestones_of_some rfl, ← same]
        simp [called]
      · rw [milestones_of_some rfl] at last
        obtain ⟨tail, same⟩ := last
        obtain ⟨_, single⟩ := List.append_inj' same rfl
        cases single
        exact ⟨decision, rfl, rfl⟩

theorem Searching.records (searching : Searching job configured past index settings attempt)
    {lease : Lease} (run : lease.runId = job.agentRunId.text) {found : RetrievalResult}
    (listed : site = .progress → attempt.Finds found → ListedIn saved found) :
    Recorded job.agentRunId.text
        (past ++ [.event index (checkpointed lease site saved (.ok ()))]) found ↔
      Recorded job.agentRunId.text past found ∨ site = .progress ∧ attempt.Finds found := by
  refine recorded_snoc.trans (or_congr Iff.rfl ⟨?_, ?_⟩)
  · rintro ⟨other, step, decision, remaining, other', saved', search, _, _, same, last⟩
    cases same
    have result : [(⟨.handle decision.name.value decision.arguments remaining,
        (Except.ok (.retrieval found) : Except Exc ToolResult)⟩ : Event Reply)] <:+
        milestones index past := (List.suffix_cons _ _).trans last
    obtain ⟨decision', here, named⟩ := searching.result _ _ _ _ result
    exact ⟨rfl, decision', here, named.trans search⟩
  · rintro ⟨rfl, finds⟩
    obtain ⟨decision, here, search⟩ := id finds
    obtain ⟨remaining, last⟩ := searching.returned decision _ here
    exact ⟨index, _, decision, remaining, lease, saved, search, run, listed rfl finds, rfl, last⟩

theorem Searching.save (searching : Searching job configured past index settings attempt)
    (gated : Gated job past attempt.dict) (run : attempt.control.lease.runId = job.agentRunId.text)
    (step : attempt.Step settings job
      (checkpointed attempt.control.lease site after.dict (.ok ())) after) :
    Gated job (past ++ [.event index (checkpointed attempt.control.lease site after.dict (.ok ()))])
      after.dict := by
  have grounded := gated.grounded searching.tells
  have tells := step.tells searching.tells
  refine ⟨after.progress, tells, ?_⟩
  rcases step.evidence with ⟨evidence, nothing⟩ | ⟨decision, result, here, rfl, evidence, complete⟩
  · refine grounded.same evidence fun found => ?_
    rw [searching.records run fun _ finds => absurd finds (nothing found)]
    exact or_iff_left fun finds => nothing found finds.2
  · refine grounded.observes evidence complete fun found => ?_
    have listed : attempt.Finds found → ListedIn after.dict found := by
      rintro ⟨other, there, search⟩
      cases here.symm.trans there
      refine ⟨_, tells.sources, fun passage member => (evidence.sources _).mpr (.inr ?_)⟩
      exact List.mem_map_of_mem (mem_foundBy.mpr ⟨found, ⟨rfl, search⟩, member⟩)
    rw [searching.records run fun _ => listed]
    refine or_congr Iff.rfl ⟨?_, ?_⟩
    · rintro ⟨_, other, there, search⟩
      cases here.symm.trans there
      exact ⟨rfl, search⟩
    · rintro ⟨rfl, search⟩
      exact ⟨rfl, decision, here, search⟩

end Searching

theorem searching_keeps (job : AgentRunJob) (configured : Settings → Prop) :
    Course.Keeps job configured (Searching job configured) (Gated job) where
  blank := by
    have none {found : RetrievalResult} : ¬Recorded job.agentRunId.text [] found := by
      rintro ⟨_, _, _, _, _, _, _, _, _, within⟩
      cases List.eq_nil_of_infix_nil within
    exact ⟨_, .of_empty job, by simp [Progress.initial, none], by simp [Progress.initial, none],
      by simp [Progress.initial, none]⟩
  waits searching plain :=
    searching.unmarked (milestone_waits plain) searching.tells searching.final rfl (.inl rfl)
  rests := by
    rintro past label dict ⟨progress, tells, grounded⟩ unsaved
    exact ⟨progress, tells, grounded.same (.refl _) fun _ => recorded_of_unsaved unsaved⟩
  opens allowed _ _ claimed _ :=
    .settled allowed claimed.tells (fun _ answered => by cases answered) rfl rfl (by simp)
  works searching step calm := searching.step step calm
  saves searching gated run step :=
    ⟨.settled searching.allowed (step.tells searching.tells)
      (final_lasting.steps _ _ _ _ _ searching.final step) step.idle rfl (by simp),
      searching.save gated run step⟩
  stuck searching gated run opening := by
    refine ⟨_, tells_other searching.tells rfl,
      (gated.grounded searching.tells).same (.refl _) fun found => ?_⟩
    rw [searching.records run fun impossible => by cases impossible]
    refine or_iff_left ?_
    rintro ⟨impossible, _⟩
    cases impossible

/-! ## Answers of runs that have succeeded -/

def AgentAnswer.cited : AgentAnswer → List SourceReference
  | .general answer => answer.citations.references
  | .document answer =>
      match answer.result with
      | .answered answer => answer.citations.references
      | .insufficientEvidence _ => []

section Accepted

variable {settings : Settings} {job : AgentRunJob} {configured : Settings → Prop}
  {course next : Course} {label : World.Label} {past : List World.Label} {progress : Progress}

theorem cited_of_validateAnswerCitations {citations observed : List SourceReference}
    (valid : validateAnswerCitations citations observed = .ok ()) :
    ∀ source ∈ citations, source ∈ observed := by
  rw [validateAnswerCitations, raiseWhen_eq_ok] at valid
  intro source cited
  by_contra absent
  exact valid ⟨source, cited, absent⟩

theorem Progress.Supports.cited {answer : AgentAnswer}
    (supports : progress.Supports settings job answer) :
    ∀ source ∈ answer.cited, source ∈ progress.sources := by
  cases answer with
  | general answer => exact cited_of_validateAnswerCitations supports
  | document answer =>
      obtain ⟨valid, _⟩ := supports
      obtain ⟨_, _, valid⟩ := Outcome.bind_eq_ok.mp valid
      rcases answer with ⟨answered | insufficient⟩
      · exact cited_of_validateAnswerCitations valid
      · intro source cited
        cases cited

theorem searched_of_validateDocumentAnswer {answer : DocumentFinalAnswerDecision}
    {observed : List SourceReference} {searched : Bool}
    (valid : validateDocumentAnswer answer observed searched = .ok ()) : searched = true := by
  obtain ⟨_, completed, _⟩ := Outcome.bind_eq_ok.mp valid
  simpa using completed

/-- The result of a run comes from the final-result branch on its checkpoint. -/
def Course.Accepted (job : AgentRunJob) (configured : Settings → Prop) (course : Course) : Prop :=
  ∀ result, course.settled = some result → ∃ settings answer, configured settings ∧
    result = some answer.dump ∧ Runner.finalResult settings job course.durable = .ok answer

theorem Course.Step.durable_of_settled (step : Course.Step job configured course label next)
    {result : Option Json} (settled : course.settled = some result) :
    next.durable = course.durable := by
  cases step with
  | save _ _ _ unsettled | stuck _ _ _ unsettled => cases unsettled.symm.trans settled
  | away becomes | plain _ _ becomes | work _ _ _ becomes | leave _ _ becomes =>
      exact becomes.durable
  | claim _ _ _ _ _ _ durable | claimFailed _ _ _ durable => exact durable

theorem Course.Move.accepted (move : Course.Move job configured course label next)
    (kept : course.Kept (Searching job configured) (Gated job) past)
    (accepted : course.Accepted job configured) : next.Accepted job configured := by
  intro result now
  rcases move.settles result now with before |
    ⟨index, settings, attempt, answer, working, same, durable, answered, rfl⟩
  · obtain ⟨settings, answer, allowed, rfl, final⟩ := accepted result before
    refine ⟨settings, answer, allowed, rfl, ?_⟩
    rw [move.step.durable_of_settled before]
    exact final
  · have searching := kept.attempts index settings attempt working
    refine ⟨settings, answer, searching.allowed, rfl, ?_⟩
    rw [durable, same]
    exact searching.final answer answered

theorem Course.accepted_run {labels : List World.Label}
    (run : Run (Course.Move job configured) .blank labels course) :
    course.Accepted job configured ∧ Gated job labels course.durable := by
  have keeps := searching_keeps job configured
  have traced := @Run.traced _ _ _
    (fun past course => Course.Kept (Searching job configured) (Gated job) past course ∧
      Course.Accepted job configured course)
    (fun _ _ _ _ holds move => ⟨keeps.step holds.1 move.step, move.accepted holds.1 holds.2⟩)
    _ _ _ run [] ⟨keeps.start, fun _ none => by cases none⟩
  exact ⟨traced.2, traced.1.durable⟩

end Accepted

def Floor.Worked (floor : Floor) : Prop :=
  ∀ runId view, floor.store.db.view runId = some view → view.row.state = .succeeded →
    ∃ job : AgentRunJob, job.agentRunId.text = runId ∧ view.row.job = Dict.sorted job.dump

theorem Floor.Step.worked {floor next : Floor} {label : World.Label}
    (step : Floor.Step floor label next) (sound : floor.Sound) (worked : floor.Worked) :
    next.Worked := by
  intro runId after here succeeded
  rcases step.succeeds sound here succeeded with ⟨view, before, registered, already, _⟩ |
    ⟨_, party, _, _, _, run, reported⟩
  · rw [registered]
    exact worked runId view before already
  · exact ⟨party.job, run, reported.registered.trans reported.sameJob⟩

theorem World.worked {world : World} (reachable : Reachable World.Step World.Initial world)
    {runId : String} {view : RunView} (found : world.store.db.view runId = some view)
    (succeeded : view.row.state = .succeeded) :
    ∃ job : AgentRunJob, job.agentRunId.text = runId ∧ view.row.job = Dict.sorted job.dump := by
  obtain ⟨first, labels, initial, run⟩ := reachable
  obtain ⟨begun, start, shown⟩ := initial.floor
  obtain ⟨floor, lifted, shown⟩ := World.floor run shown
  have blank : begun.Worked := by
    intro runId view found
    have empty : begun.store.db = RunDb.empty := start.1
    rw [empty] at found
    cases found
  have kept := lifted.preserves
    (fun _ _ _ (holds : _ ∧ _) step => ⟨step.sound holds.1, step.worked holds.1 holds.2⟩)
    ⟨start.sound, blank⟩
  exact kept.2 runId view (by rw [shown.store]; exact found) succeeded

/-- However often a run was resumed, what it has succeeded with cites passages that
its own recorded searches have found. In document mode there is such a search, and
a review of the answer against all that they have found is accepted. -/
theorem answers_rest_on_searches {first last : World} (initial : first.Initial)
    {labels : List World.Label} (run : Run World.Step first labels last) {runId : String}
    {view : RunView} (found : last.store.db.view runId = some view)
    (succeeded : view.row.state = .succeeded) :
    ∃ (job : AgentRunJob) (answer : AgentAnswer), job.agentRunId.text = runId ∧
      view.row.job = Dict.sorted job.dump ∧ answer.mode = job.answerMode ∧
      view.row.result = some answer.dump ∧
      (∀ source ∈ answer.cited, ∃ search, Recorded runId labels search ∧
        source ∈ search.passages.map sourceKey) ∧
      ∀ document, answer = .document document →
        (∃ search, Recorded runId labels search) ∧
        ∃ settings passages request review, World.Label.deliver settings job ∈ labels ∧
          AgentLoop.listOf view.row.checkpoint "observed_passages" RetrievedPassage.validate =
            .ok passages ∧
          (∀ passage, passage ∈ passages ↔ ∃ search, Recorded runId labels search ∧
            passage ∈ search.passages) ∧
          DocumentReviewRequest.validate job.message.value document.result passages =
            some request ∧
          validateDocumentReview settings.library request review = .ok () := by
  obtain ⟨job, rfl, registered⟩ := World.worked ⟨first, labels, initial, run⟩ found succeeded
  obtain ⟨course, moves, durable, settled⟩ :=
    @World.course job (World.Label.deliver · job ∈ labels) _ _ _ initial run
      (fun label member settings same => by subst same; exact member) fun other here => by
        cases found.symm.trans here
        exact registered
  obtain ⟨accepted, progress, tells, grounded⟩ := Course.accepted_run moves
  rw [found] at durable settled
  obtain ⟨settings, answer, delivered, result, final⟩ :=
    accepted view.row.result (by rw [settled, settledOf, if_pos succeeded])
  have supports := tells.supports final
  have mode := mode_of_finalResult final
  rw [show course.durable = view.row.checkpoint from durable] at tells
  refine ⟨job, answer, rfl, registered, mode, result, fun source cited =>
    (grounded.sources source).mp (supports.cited source cited), ?_⟩
  rintro document rfl
  obtain ⟨valid, request, review, asked, reviewed⟩ := supports
  exact ⟨grounded.searched.mp (searched_of_validateDocumentAnswer valid), settings,
    progress.passages, request, review, delivered, tells.passages, grounded.passages mode.symm,
    asked, reviewed⟩

/-! A document run that searches once and quotes what it has found. -/

namespace Sample

def searcher : ToolDefinition :=
  { name := "search_documents", description := "", parameters := .obj [], accepts := fun _ => true }

def searchCall : ToolCallDecision :=
  { name := ⟨"search_documents", by decide +kernel, by decide, by rintro limit ⟨⟩⟩, arguments := [] }

def runbooks : RetrievalResult :=
  { strategy := "exact", passages := [runbook], bound := by decide
    distinct := runbook_distinct }

def finding (content : Json) : (request : Request) → Reply request
  | .handle _ _ _ => (Except.ok (.retrieval runbooks) : Except Exc ToolResult)
  | request => replying content request

def documentTask : AgentRunJob := { task with answerMode := .document }

def librarian : Settings := { worker with tools := [searcher], library }

/-- The decisions of the run are a search and the quotation, which is then reviewed. -/
def quoted : List World.Move :=
  [.client RunStore.Sample.store 0 (.create documentTask.dump 300 none),
    .deliver librarian (.obj documentTask.dump)] ++
  List.replicate 45 (.event 0 0 "first" (finding searchCall.dump)) ++
  List.replicate 20 (.event 0 0 "first" (finding quoting.dump)) ++
  List.replicate 22 (.event 0 0 "first" (finding supported.dump))

end Sample

open Sample in
/-- The run quotes the runbook, which a search of its own has found, and a review
of the quotation was accepted. -/
theorem answers_rest_on_searches_quoted :
    ∃ view, (World.play quoted empty).2.store.db.view documentTask.agentRunId.text = some view ∧
      view.row.result = some quoting.dump ∧
      (∃ search, Recorded documentTask.agentRunId.text (World.play quoted empty).1 search ∧
        sourceKey runbook ∈ search.passages.map sourceKey) ∧
      ∃ settings passages request review,
        World.Label.deliver settings documentTask ∈ (World.play quoted empty).1 ∧
        DocumentReviewRequest.validate documentTask.message.value quoting.result passages =
          some request ∧
        validateDocumentReview settings.library request review = .ok () := by
  have facts : ((World.play quoted empty).2.store.db.view documentTask.agentRunId.text).any
      (fun view => view.row.state = .succeeded ∧ view.row.result = some quoting.dump ∧
        view.row.job = Dict.sorted documentTask.dump) = true := by
    decide +kernel
  obtain ⟨view, found, holds⟩ := (Option.any_eq_true _ _).mp facts
  obtain ⟨succeeded, result, sameJob⟩ := of_decide_eq_true holds
  have start : empty.Initial := ⟨rfl, rfl⟩
  obtain ⟨job, answer, _, registered, mode, dumped, searched, reviewed⟩ :=
    answers_rest_on_searches start (World.play_run quoted empty) found succeeded
  cases AgentRunJob.sorted_dump_inj (registered.symm.trans sameJob)
  have read := answer.validate_dump
  rw [mode, ← Option.some.inj (result.symm.trans dumped)] at read
  cases read.symm.trans (AgentAnswer.document quoting).validate_dump
  obtain ⟨_, settings, passages, request, review, delivered, _, _, asked, accepted⟩ :=
    reviewed quoting rfl
  exact ⟨view, found, result, searched (sourceKey runbook) (List.mem_singleton_self _), settings,
    passages, request, review, delivered, asked, accepted⟩

end Crewos.Agent

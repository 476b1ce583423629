import Crewos.Agent.Progress

/-! # Evidence

The passages a loop keeps under their sources, and what the final-result branch
of the runner finds in the dictionary of a checkpoint. -/

namespace Crewos.Agent

open Foundation

/-! ## Passages under their sources -/

def underSources (passages : List RetrievedPassage) :
    List (SourceReference × RetrievedPassage) :=
  passages.map fun passage => (sourceKey passage, passage)

@[simp] theorem underSources_snd (passages : List RetrievedPassage) :
    (underSources passages).map Prod.snd = passages := by
  rw [underSources, List.map_map]
  exact List.map_id passages

theorem underSources_snoc (passages : List RetrievedPassage) (passage : RetrievedPassage) :
    underSources (passages ++ [passage]) =
      underSources passages ++ [(sourceKey passage, passage)] := by
  simp [underSources]

theorem foldl_keepPassage {kept passages : List RetrievedPassage}
    (distinct : ((kept ++ passages).map sourceKey).Nodup) :
    passages.foldl AgentLoop.keepPassage (underSources kept) = underSources (kept ++ passages) := by
  induction passages generalizing kept with
  | nil => rw [List.append_nil, List.foldl_nil]
  | cons passage rest induction =>
      have absent : (underSources kept).any (fun entry => entry.1 = sourceKey passage) = false := by
        rw [List.any_eq_false]
        intro entry member
        obtain ⟨other, known, rfl⟩ := List.mem_map.mp member
        rw [List.map_append, List.map_cons] at distinct
        have apart := (List.nodup_append.mp distinct).2.2 (sourceKey other)
          (List.mem_map_of_mem known) (sourceKey passage) List.mem_cons_self
        simpa using apart
      have step : AgentLoop.keepPassage (underSources kept) passage =
          underSources (kept ++ [passage]) := by
        rw [AgentLoop.keepPassage, absent, underSources_snoc]
        rfl
      rw [List.foldl_cons, step, induction (by simpa using distinct)]
      simp

theorem keepPassages {passages : List RetrievedPassage}
    (distinct : (passages.map sourceKey).Nodup) :
    passages.foldl AgentLoop.keepPassage [] = underSources passages :=
  @foldl_keepPassage [] passages distinct

theorem addPassage_underSources {kept : List RetrievedPassage} {passage : RetrievedPassage}
    {found : List (SourceReference × RetrievedPassage)}
    (distinct : (kept.map sourceKey).Nodup)
    (added : AgentLoop.addPassage (underSources kept) passage = .ok found) :
    ∃ after, found = underSources after ∧ (after.map sourceKey).Nodup ∧
      ∀ other, other ∈ after ↔ other ∈ kept ∨ other = passage := by
  unfold AgentLoop.addPassage at added
  split at added
  · rename_i known present
    by_cases conflict : known ≠ passage
    · simp [raiseWhen, conflict] at added
    · simp [raiseWhen, conflict] at added
      subst added
      have same : known = passage := not_not.mp conflict
      refine ⟨kept, rfl, distinct, fun other => ⟨.inl, ?_⟩⟩
      rintro (member | rfl)
      · exact member
      · obtain ⟨before, later, split, _⟩ := List.lookup_eq_some_iff.mp present
        have here := congrArg (List.map Prod.snd) split
        rw [underSources_snd, List.map_append, List.map_cons] at here
        rw [here, ← same]
        exact List.mem_append_right _ List.mem_cons_self
  · rename_i absent
    cases added
    refine ⟨kept ++ [passage], (underSources_snoc _ _).symm, ?_, fun other => ?_⟩
    · have fresh : sourceKey passage ∉ kept.map sourceKey := by
        intro member
        rw [List.lookup_eq_none_iff] at absent
        obtain ⟨other, known, same⟩ := List.mem_map.mp member
        have apart := absent _ (List.mem_map_of_mem
          (f := fun passage => (sourceKey passage, passage)) known)
        simp [same] at apart
      rw [List.map_append]
      refine List.nodup_append.mpr ⟨distinct, by simp, ?_⟩
      rintro key known _ here rfl
      rw [List.map_singleton, List.mem_singleton] at here
      exact fresh (here ▸ known)
    · rw [List.mem_append, List.mem_singleton]

theorem foldlM_addPassage {kept passages : List RetrievedPassage}
    {found : List (SourceReference × RetrievedPassage)}
    (distinct : (kept.map sourceKey).Nodup)
    (added : passages.foldlM AgentLoop.addPassage (underSources kept) = .ok found) :
    ∃ after, found = underSources after ∧ (after.map sourceKey).Nodup ∧
      ∀ other, other ∈ after ↔ other ∈ kept ∨ other ∈ passages := by
  induction passages generalizing kept with
  | nil =>
      cases added
      exact ⟨kept, rfl, distinct, fun _ => by simp⟩
  | cons passage rest induction =>
      rw [List.foldlM_cons] at added
      obtain ⟨middle, first, added⟩ := Outcome.bind_eq_ok.mp added
      obtain ⟨between, rfl, apart, known⟩ := addPassage_underSources distinct first
      obtain ⟨after, rfl, apartAfter, knownAfter⟩ := induction apart added
      refine ⟨after, rfl, apartAfter, fun other => ?_⟩
      rw [knownAfter, known, List.mem_cons, or_assoc]

theorem addPassages_underSources {kept passages : List RetrievedPassage}
    {found : List (SourceReference × RetrievedPassage)}
    (distinct : (kept.map sourceKey).Nodup)
    (added : AgentLoop.addPassages (underSources kept) passages = .ok found) :
    ∃ after, found = underSources after ∧ (after.map sourceKey).Nodup ∧
      ∀ other, other ∈ after ↔ other ∈ kept ∨ other ∈ passages := by
  obtain ⟨middle, folded, checked⟩ := Outcome.bind_eq_ok.mp added
  obtain ⟨_, _, same⟩ := Outcome.bind_eq_ok.mp checked
  cases same
  exact foldlM_addPassage distinct folded

/-! ## Citations -/

/-- Only which sources were observed matters, not their order. -/
theorem validateAnswerCitations_of {citations observed kept : List SourceReference}
    (same : ∀ source, source ∈ observed ↔ source ∈ kept)
    (valid : validateAnswerCitations citations observed = .ok ()) :
    validateAnswerCitations citations kept = .ok () := by
  rw [validateAnswerCitations, raiseWhen_eq_ok] at valid ⊢
  rintro ⟨reference, cited, absent⟩
  exact valid ⟨reference, cited, fun member => absent ((same reference).mp member)⟩

theorem validateDocumentAnswer_of {answer : DocumentFinalAnswerDecision}
    {observed kept : List SourceReference} {searched : Bool}
    (same : ∀ source, source ∈ observed ↔ source ∈ kept)
    (valid : validateDocumentAnswer answer observed searched = .ok ()) :
    validateDocumentAnswer answer kept searched = .ok () := by
  rcases answer with ⟨answered | insufficient⟩
  · obtain ⟨_, completed, cited⟩ := Outcome.bind_eq_ok.mp valid
    exact Outcome.bind_eq_ok.mpr ⟨_, completed, validateAnswerCitations_of same cited⟩
  · exact valid

/-! ## Reviews and receipts -/

theorem validateReviewReceipt_of {library : TextLibrary} {request : DocumentReviewRequest}
    {review : DocumentReview} {receipt : Json}
    (made : reviewReceipt library request review = .ok receipt) :
    ∃ fields, receipt = .obj fields ∧ validateReviewReceipt library request fields = .ok () := by
  obtain ⟨_, accepted, same⟩ := Outcome.bind_eq_ok.mp made
  cases same
  refine ⟨_, rfl, ?_⟩
  have read := review.validate_dump
  simp [validateReviewReceipt, Dict.get?_cons, Dict.getD, read, validated, raiseWhen]
  exact accepted

theorem review_of_validateReviewReceipt {library : TextLibrary}
    {request : DocumentReviewRequest} {receipt : Dict}
    (valid : validateReviewReceipt library request receipt = .ok ()) :
    ∃ review, validateDocumentReview library request review = .ok () := by
  obtain ⟨_, _, valid⟩ := Outcome.bind_eq_ok.mp valid
  obtain ⟨review, _, accepted⟩ := Outcome.bind_eq_ok.mp valid
  exact ⟨review, accepted⟩

/-! ## The final-result branch -/

/-- What the progress has to hold for an answer to be accepted. -/
def Progress.Supports (settings : Settings) (job : AgentRunJob) (progress : Progress) :
    AgentAnswer → Prop
  | .general answer =>
      validateAnswerCitations answer.citations.references progress.sources = .ok ()
  | .document answer =>
      validateDocumentAnswer answer progress.sources progress.searched = .ok () ∧
        ∃ request review,
          DocumentReviewRequest.validate job.message.value answer.result progress.passages =
            some request ∧
          validateDocumentReview settings.library request review = .ok ()

theorem get?_final (dict : Dict) (answer : Json) :
    (dict.update [("final_result", answer)]).get? "final_result" = some answer := by
  simp

section Final

variable {settings : Settings} {job : AgentRunJob} {dict : Dict} {progress : Progress}

theorem Tells.final (tells : Tells job dict progress) (answer : Json) :
    Tells job (dict.update [("final_result", answer)]) progress :=
  tells.update_other (by simp [Progress.keys])

/-- The branch accepts only what the progress supports. -/
theorem Tells.supports (tells : Tells job dict progress) {answer : AgentAnswer}
    (final : Runner.finalResult settings job dict = .ok answer) :
    progress.Supports settings job answer := by
  obtain ⟨read, _, final⟩ := Outcome.bind_eq_ok.mp final
  rw [tells.sources, Outcome.ok_bind] at final
  cases read with
  | general general =>
      obtain ⟨_, cited, same⟩ := Outcome.bind_eq_ok.mp final
      cases same
      exact cited
  | document document =>
      obtain ⟨_, checked, same⟩ := Outcome.bind_eq_ok.mp final
      cases same
      obtain ⟨_, _, checked⟩ := Outcome.bind_eq_ok.mp checked
      obtain ⟨_, answered, checked⟩ := Outcome.bind_eq_ok.mp checked
      rw [tells.question, tells.passages] at checked
      obtain ⟨question, isQuestion, checked⟩ := Outcome.bind_eq_ok.mp checked
      cases isQuestion
      rw [Outcome.ok_bind] at checked
      obtain ⟨request, asked, checked⟩ := Outcome.bind_eq_ok.mp checked
      obtain ⟨receipt, _, valid⟩ := Outcome.bind_eq_ok.mp checked
      obtain ⟨review, accepted⟩ := review_of_validateReviewReceipt valid
      rw [tells.searched] at answered
      exact ⟨answered, request, review, validated_eq_ok.mp asked, accepted⟩

theorem Tells.finalResult_general (tells : Tells job dict progress) {answer : FinalAnswerDecision}
    (mode : (AgentAnswer.general answer).mode = job.answerMode)
    (present : dict.get? "final_result" = some (AgentAnswer.general answer).dump)
    (cited : validateAnswerCitations answer.citations.references progress.sources = .ok ()) :
    Runner.finalResult settings job dict = .ok (.general answer) := by
  have read := (AgentAnswer.general answer).validate_dump
  rw [mode] at read
  simp only [Runner.finalResult, Dict.getD, present, Option.getD_some, read, validated,
    Outcome.ok_bind, tells.sources, cited]
  rfl

theorem Tells.finalResult_document (tells : Tells job dict progress)
    {answer : DocumentFinalAnswerDecision} {request : DocumentReviewRequest} {receipt : Dict}
    (mode : (AgentAnswer.document answer).mode = job.answerMode)
    (present : dict.get? "final_result" = some (AgentAnswer.document answer).dump)
    (answered : validateDocumentAnswer answer progress.sources progress.searched = .ok ())
    (asked : DocumentReviewRequest.validate job.message.value answer.result progress.passages =
      some request)
    (reviewed : dict.get? "document_review" = some (.obj receipt))
    (valid : validateReviewReceipt settings.library request receipt = .ok ()) :
    Runner.finalResult settings job dict = .ok (.document answer) := by
  have read := (AgentAnswer.document answer).validate_dump
  rw [mode] at read
  have searched : progress.searched = true := by
    obtain ⟨_, completed, _⟩ := Outcome.bind_eq_ok.mp answered
    simpa using completed
  have inMode : dict.get? "answer_mode" = some (.str "document") := by
    rcases tells.get? ("answer_mode", .str job.answerMode.text) (by simp [Progress.fields]) with
      here | ⟨_, rfl⟩
    · rw [← mode] at here
      exact here
    · cases searched
  have receipts : Runner.receiptOf dict = .ok receipt := by
    simp only [Runner.receiptOf, Dict.getD, reviewed, Option.getD_some]
  have checked : Runner.checkDocument settings job dict progress.sources answer = .ok () := by
    simp only [Runner.checkDocument, inMode, tells.searched, answered, tells.question,
      Fields.text, validated, tells.passages, asked, receipts, Outcome.ok_bind, valid]
    rfl
  simp only [Runner.finalResult, Dict.getD, present, Option.getD_some, read, validated,
    Outcome.ok_bind, tells.sources, checked]
  rfl

end Final

end Crewos.Agent

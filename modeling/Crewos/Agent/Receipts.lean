import Crewos.Agent.Evidence
import Crewos.Foundation.Printing
import Crewos.Foundation.Unordered

/-! # Review receipts

A receipt carries the digest of the request it was made for. The digested text
determines the request, so the receipt is worth nothing for any other one, also
after it was stored in a checkpoint and read back. -/

namespace Crewos.Agent

open Foundation

/-! ## Requests read back -/

/-- `model_validate` -/
def DocumentReviewRequest.read (json : Json) : Option DocumentReviewRequest := do
  let data ← Fields.object ["question", "answer", "passages"] json
  let question ← Fields.required data "question" Fields.text
  let answer ← Fields.required data "answer" DocumentAnswer.validate
  let passages ← Fields.optional data "passages" [] (Fields.items RetrievedPassage.validate)
  DocumentReviewRequest.validate question answer passages

theorem DocumentReviewRequest.read_dump (request : DocumentReviewRequest) :
    read request.dump = some request := by
  have passages := Fields.items_map RetrievedPassage.validate_dump request.passages
  simp [read, dump, Fields.object, Fields.required, Fields.optional, Fields.text,
    Dict.get?_cons, passages, validate, request.questionBounds, request.passagesBound]

/-! ## Readers that ignore the order of keys -/

section Unordered

open Fields

theorem unordered_readVersion : Unordered SourceReference.readVersion :=
  .of_scalar (fun _ => rfl) fun _ => rfl

theorem unordered_sourceReference : Unordered SourceReference.validate := by
  intro json
  unfold SourceReference.validate
  simp only [object_sortKeys, Option.bind_eq_bind, Option.bind_map, Function.comp_def,
    required_sorted unordered_uuid, required_sorted unordered_readVersion,
    required_sorted (unordered_natural 0)]

theorem unordered_citations (least : Nat) : Unordered (Citations.read least) := by
  intro json
  unfold Citations.read
  rw [unordered_sourceReference.items]

theorem readAnswered_sorted (data : Dict) :
    DocumentAnswer.readAnswered data.sorted = DocumentAnswer.readAnswered data := by
  have object := object_sortKeys ["outcome", "answer", "citations"] (.obj data)
  rw [show (Json.obj data).sortKeys = .obj data.sorted from rfl] at object
  unfold DocumentAnswer.readAnswered
  simp only [object, Option.bind_eq_bind, Option.bind_map, Function.comp_def,
    required_sorted (unordered_stripped (some 8192)), required_sorted (unordered_citations 1)]

theorem readInsufficient_sorted (data : Dict) :
    DocumentAnswer.readInsufficient data.sorted = DocumentAnswer.readInsufficient data := by
  have object := object_sortKeys ["outcome", "explanation"] (.obj data)
  rw [show (Json.obj data).sortKeys = .obj data.sorted from rfl] at object
  unfold DocumentAnswer.readInsufficient
  simp only [object, Option.bind_eq_bind, Option.bind_map, Function.comp_def,
    required_sorted (unordered_stripped (some 2048))]

theorem unordered_documentAnswer : Unordered DocumentAnswer.validate := by
  intro json
  cases json with
  | obj data =>
      rw [show (Json.obj data).sortKeys = .obj (Dict.sorted data) from rfl]
      unfold DocumentAnswer.validate
      simp only [Dict.get?_sorted, readAnswered_sorted, readInsufficient_sorted]
      cases Dict.get? data "outcome" with
      | none => rfl
      | some outcome => cases outcome <;> rfl
  | _ => rfl

theorem unordered_readSourceRef : Unordered RetrievedPassage.readSourceRef :=
  .of_scalar (fun _ => rfl) fun _ => rfl

theorem unordered_readChunk : Unordered RetrievedPassage.readChunk := by
  intro json
  unfold RetrievedPassage.readChunk
  simp only [object_sortKeys, Option.bind_eq_bind, Option.bind_map, Function.comp_def,
    required_sorted (unordered_natural 0), required_sorted unordered_text]

theorem unordered_retrievedPassage : Unordered RetrievedPassage.validate := by
  intro json
  unfold RetrievedPassage.validate
  simp only [object_sortKeys, Option.bind_eq_bind, Option.bind_map, Function.comp_def,
    required_sorted unordered_uuid, required_sorted unordered_readVersion,
    required_sorted (unordered_stripped (some 256)), optional_sorted unordered_readSourceRef,
    required_sorted unordered_readChunk]

theorem unordered_request : Unordered DocumentReviewRequest.read := by
  intro json
  unfold DocumentReviewRequest.read
  simp only [object_sortKeys, Option.bind_eq_bind, Option.bind_map, Function.comp_def,
    required_sorted unordered_text, required_sorted unordered_documentAnswer,
    optional_sorted unordered_retrievedPassage.items]

theorem unordered_bounded {reader : Json → Option α} (unordered : Unordered reader) (most : Nat) :
    Unordered (Bounded.read most reader) := by
  intro json
  unfold Bounded.read
  rw [unordered.items]

theorem unordered_claimVerdict : Unordered ClaimVerdict.read := unordered_choice _

theorem unordered_reviewVerdict : Unordered ReviewVerdict.read := unordered_choice _

theorem unordered_answerability : Unordered Answerability.read := unordered_choice _

theorem unordered_evidenceExcerpt : Unordered EvidenceExcerpt.validate := by
  intro json
  unfold EvidenceExcerpt.validate
  simp only [object_sortKeys, Option.bind_eq_bind, Option.bind_map, Function.comp_def,
    required_sorted unordered_sourceReference,
    required_sorted (unordered_stripped (some 2048))]

theorem unordered_claimReview : Unordered ClaimReview.validate := by
  intro json
  unfold ClaimReview.validate
  simp only [object_sortKeys, Option.bind_eq_bind, Option.bind_map, Function.comp_def,
    required_sorted (unordered_stripped (some 2048)),
    required_sorted unordered_claimVerdict,
    optional_sorted (unordered_bounded unordered_evidenceExcerpt 10)]

theorem unordered_documentReview : Unordered DocumentReview.validate := by
  intro json
  unfold DocumentReview.validate
  simp only [object_sortKeys, Option.bind_eq_bind, Option.bind_map, Function.comp_def,
    required_sorted (unordered_stripped (some 2048)), required_sorted unordered_boolean,
    required_sorted unordered_reviewVerdict,
    required_sorted unordered_answerability,
    optional_sorted (unordered_bounded unordered_claimReview 20)]

end Unordered

/-! ## Digests -/

theorem SourceReference.plain_dump (reference : SourceReference) :
    reference.dump.plain = true := rfl

theorem DocumentAnswer.plain_dump (answer : DocumentAnswer) : answer.dump.plain = true := by
  cases answer with
  | answered answer =>
      have citations : Json.plainItems (answer.citations.references.map SourceReference.dump) =
          true := by
        rw [Json.plainItems_iff]
        simp [SourceReference.plain_dump]
      simp [dump, Citations.dump, Json.plain, Json.plainFields, citations]
  | insufficientEvidence answer => rfl

theorem RetrievedPassage.plain_dump (passage : RetrievedPassage) : passage.dump.plain = true := by
  unfold dump
  cases passage.sourceRef <;> rfl

theorem DocumentReviewRequest.plain_dump (request : DocumentReviewRequest) :
    request.dump.plain = true := by
  have passages : Json.plainItems (request.passages.map RetrievedPassage.dump) = true := by
    rw [Json.plainItems_iff]
    simp [RetrievedPassage.plain_dump]
  simp [dump, Json.plain, Json.plainFields, DocumentAnswer.plain_dump, passages]

theorem requestDigest_inj {library : TextLibrary} (injective : Function.Injective library.sha256)
    {left right : DocumentReviewRequest}
    (same : requestDigest library left = requestDigest library right) : left = right := by
  have plain (request : DocumentReviewRequest) : request.dump.sortKeys.plain = true := by
    rw [Json.plain_sortKeys, request.plain_dump]
  have dumps := Json.render_inj Json.dense_separated (plain left) (plain right) (injective same)
  have read := unordered_request left.dump
  rw [dumps, unordered_request, right.read_dump, left.read_dump] at read
  exact (Option.some.inj read).symm

/-! ## Receipts -/

/-- What a dictionary is after it was stored with its keys sorted, or kept. -/
def Reloaded (fields stored : Dict) : Prop := stored = fields ∨ stored = fields.sorted

theorem Reloaded.text {fields stored : Dict} (reloaded : Reloaded fields stored) (key value : String)
    (holds : fields.get? key = some (.str value)) : stored.get? key = some (.str value) := by
  rcases reloaded with rfl | rfl
  · exact holds
  · rw [Dict.get?_sorted, holds]
    rfl

theorem Reloaded.review {fields stored : Dict} (reloaded : Reloaded fields stored)
    {review : DocumentReview} (holds : fields.get? "review" = some review.dump) :
    DocumentReview.validate (stored.getD "review" .null) = some review := by
  rcases reloaded with rfl | rfl
  · rw [Dict.getD, holds]
    exact review.validate_dump
  · rw [Dict.getD, Dict.get?_sorted, holds]
    exact (unordered_documentReview _).trans review.validate_dump

/-- A receipt, as it was made or as it is read back from a checkpoint, is accepted
for the request it was made for and for no other one; requests and reviews are
read back from their dumps as they were. -/
theorem receipt_binds_request {library : TextLibrary}
    (injective : Function.Injective library.sha256) {request : DocumentReviewRequest}
    {review : DocumentReview} {receipt : Json}
    (made : reviewReceipt library request review = .ok receipt) :
    (∃ fields, receipt = .obj fields ∧ ∀ stored, Reloaded fields stored →
      ∀ other, validateReviewReceipt library other stored = .ok () ↔ other = request) ∧
    (∀ dumped ∈ [request.dump, request.dump.sortKeys],
      DocumentReviewRequest.read dumped = some request) ∧
    ∀ dumped ∈ [review.dump, review.dump.sortKeys],
      DocumentReview.validate dumped = some review := by
  refine ⟨?receipt, ?request, ?review⟩
  case receipt =>
    obtain ⟨_, accepted, same⟩ := Outcome.bind_eq_ok.mp made
    cases same
    refine ⟨_, rfl, fun stored reloaded other => ?_⟩
    have policy := reloaded.text "validation_policy_version" validationPolicyVersion rfl
    have digest := reloaded.text "request_sha256" (requestDigest library request) rfl
    have read := @Reloaded.review _ _ reloaded review rfl
    constructor
    · intro valid
      simp only [validateReviewReceipt, policy, digest, Outcome.bind_eq_ok, raiseWhen_eq_ok]
        at valid
      obtain ⟨_, matching, _⟩ := valid
      simp only [ne_eq, not_true_eq_false, false_or, not_not, Option.some.injEq,
        Json.str.injEq] at matching
      exact (requestDigest_inj injective matching).symm
    · rintro rfl
      have matching : ¬(some (Json.str validationPolicyVersion) ≠
          some (.str validationPolicyVersion) ∨
          some (Json.str (requestDigest library other)) ≠
            some (.str (requestDigest library other))) := by simp
      simp only [validateReviewReceipt, policy, digest, raiseWhen_of_not _ matching,
        Outcome.ok_bind, read, validated]
      exact accepted
  case request =>
    intro dumped member
    rcases List.mem_cons.mp member with rfl | member
    · exact request.read_dump
    · rw [List.mem_singleton.mp member, unordered_request, request.read_dump]
  case review =>
    intro dumped member
    rcases List.mem_cons.mp member with rfl | member
    · exact review.validate_dump
    · rw [List.mem_singleton.mp member, unordered_documentReview, review.validate_dump]

/-! An answer that quotes the one passage of its request. -/

namespace Sample

def runbook : RetrievedPassage :=
  { documentId := .first, documentVersion := 1
    title := ⟨"CRM", by decide +kernel, by decide, by
      rintro limit ⟨⟩
      decide⟩
    sourceRef := none
    chunk := { index := 0, text := "Replay", startChar := 0, endChar := 6 }
    positive := le_refl 1, valid := by decide +kernel }

theorem runbook_distinct : [sourceKey runbook].Nodup := List.nodup_singleton _

def quoting : DocumentFinalAnswerDecision :=
  { result := .answered
      { answer := ⟨"Replay", by decide +kernel, by decide, by
          rintro limit ⟨⟩
          decide⟩
        citations :=
          { references := [sourceKey runbook], bounds := by decide
            distinct := runbook_distinct } } }

def request : DocumentReviewRequest :=
  { question := task.message.value, answer := quoting.result, passages := [runbook]
    questionBounds := by decide, passagesBound := by decide }

def supported : DocumentReview :=
  { verdict := .supported
    reason := ⟨"Quoted.", by decide +kernel, by decide, by
      rintro limit ⟨⟩
      decide⟩
    evidenceAnswerability := .answerable, coversAllClaims := true, addressesQuestion := true
    evidenceConflict := false
    claims :=
      { values := [{
          claim := ⟨"Replay", by decide +kernel, by decide, by
            rintro limit ⟨⟩
            decide⟩
          verdict := .supported
          excerpts :=
            { values := [{
                source := sourceKey runbook
                quote := ⟨"Replay", by decide +kernel, by decide, by
                  rintro limit ⟨⟩
                  decide⟩ }]
              bound := by decide } }]
        bound := by decide } }

def another : DocumentReviewRequest :=
  { request with question := "Why?", questionBounds := by decide }

/-- SHA-256 on the two requests. -/
def digest (text : String) : String :=
  if text = Json.render Json.dense request.dump.sortKeys then
    "6b8b17e2708624a150b35622f30afc5a53b51e1921a5e03de72ac63f87efd993"
  else if text = Json.render Json.dense another.dump.sortKeys then
    "07c3d497c9292bd092c20787ee16734a9c60e58690a46ae4a25871f13af9a9d6"
  else "digest of " ++ text

theorem digest_injective : Function.Injective digest := by
  have apart {known text : String} (first : known.toList.head? ≠ some 'd') :
      known ≠ "digest of " ++ text := by
    rintro rfl
    simp at first
  intro left right same
  unfold digest at same
  split at same
  · rename_i leftSame
    split at same
    · rename_i rightSame
      exact leftSame.trans rightSame.symm
    · split at same
      · exact absurd same (by decide)
      · exact absurd same (apart (by decide))
  · split at same
    · rename_i leftSame
      split at same
      · exact absurd same (by decide)
      · split at same
        · rename_i rightSame
          exact leftSame.trans rightSame.symm
        · exact absurd same (apart (by decide))
    · split at same
      · exact absurd same.symm (apart (by decide))
      · split at same
        · exact absurd same.symm (apart (by decide))
        · exact (String.append_right_inj _).mp same

def library : TextLibrary := { sha256 := digest, isalnum := Char.isAlphanum }

def receipt : Dict :=
  [("validation_policy_version", .str validationPolicyVersion),
    ("request_sha256", .str (requestDigest library request)), ("review", supported.dump)]

end Sample

open Sample in
/-- The receipt as it is stored is accepted for the request of the sample, and for
the same answer to another question it is not. -/
theorem receipt_binds_request_quoting :
    validateReviewReceipt library request receipt.sorted = .ok () ∧
      validateReviewReceipt library another receipt.sorted ≠ .ok () := by
  have accepted : validateDocumentReview library request supported = .ok () := by decide +kernel
  have made : reviewReceipt library request supported = .ok (.obj receipt) := by
    unfold reviewReceipt
    rw [accepted]
    rfl
  obtain ⟨⟨fields, same, binds⟩, _⟩ := receipt_binds_request digest_injective made
  cases same
  rw [ne_eq, binds receipt.sorted (.inr rfl), binds receipt.sorted (.inr rfl)]
  refine ⟨rfl, fun equal => ?_⟩
  exact absurd (congrArg DocumentReviewRequest.question equal) (by decide)

end Crewos.Agent

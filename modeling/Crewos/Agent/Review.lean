import Crewos.Agent.Decisions

/-! # Document reviews

The review of a proposed document answer, the deterministic checks around it
and the receipt that ties a review to the request it was made for. -/

namespace Crewos.Agent

open Foundation

/-! ## Contracts -/

inductive ReviewVerdict where
  | supported
  | unsupported
  | conflicting
  | uncertain
  | appropriateAbstention
  | unnecessaryAbstention
  deriving DecidableEq, Repr

namespace ReviewVerdict

def text : ReviewVerdict → String
  | .supported => "supported"
  | .unsupported => "unsupported"
  | .conflicting => "conflicting"
  | .uncertain => "uncertain"
  | .appropriateAbstention => "appropriate_abstention"
  | .unnecessaryAbstention => "unnecessary_abstention"

def read : Json → Option ReviewVerdict :=
  Fields.choice
    [("supported", .supported), ("unsupported", .unsupported), ("conflicting", .conflicting),
      ("uncertain", .uncertain), ("appropriate_abstention", .appropriateAbstention),
      ("unnecessary_abstention", .unnecessaryAbstention)]

@[simp] theorem read_text (verdict : ReviewVerdict) : read (.str verdict.text) = some verdict := by
  cases verdict <;> rfl

end ReviewVerdict

inductive Answerability where
  | answerable
  | insufficient
  | conflicting
  | uncertain
  deriving DecidableEq, Repr

namespace Answerability

def text : Answerability → String
  | .answerable => "answerable"
  | .insufficient => "insufficient"
  | .conflicting => "conflicting"
  | .uncertain => "uncertain"

def read : Json → Option Answerability :=
  Fields.choice
    [("answerable", .answerable), ("insufficient", .insufficient), ("conflicting", .conflicting),
      ("uncertain", .uncertain)]

@[simp] theorem read_text (value : Answerability) : read (.str value.text) = some value := by
  cases value <;> rfl

end Answerability

inductive ClaimVerdict where
  | supported
  | unsupported
  | contradicted
  | uncertain
  deriving DecidableEq, Repr

namespace ClaimVerdict

def text : ClaimVerdict → String
  | .supported => "supported"
  | .unsupported => "unsupported"
  | .contradicted => "contradicted"
  | .uncertain => "uncertain"

def read : Json → Option ClaimVerdict :=
  Fields.choice
    [("supported", .supported), ("unsupported", .unsupported), ("contradicted", .contradicted),
      ("uncertain", .uncertain)]

@[simp] theorem read_text (verdict : ClaimVerdict) : read (.str verdict.text) = some verdict := by
  cases verdict <;> rfl

end ClaimVerdict

/-- `ReviewText` -/
abbrev ReviewText := Stripped (some 2048)

/-- A list with a bound on its length. -/
structure Bounded (α : Type) (most : Nat) where
  values : List α
  bound : values.length ≤ most
  deriving DecidableEq

namespace Bounded

variable {α : Type} {most : Nat}

def empty (α : Type) (most : Nat) : Bounded α most := { values := [], bound := Nat.zero_le _ }

def ofList (most : Nat) (values : List α) : Option (Bounded α most) :=
  if bound : values.length ≤ most then some { values, bound } else none

def read (most : Nat) (read : Json → Option α) (json : Json) : Option (Bounded α most) :=
  match Fields.items read json with
  | some values => ofList most values
  | none => none

theorem ofList_values (list : Bounded α most) : ofList most list.values = some list :=
  dif_pos list.bound

theorem read_dump {reader : Json → Option α} {dump : α → Json}
    (reads : ∀ value, reader (dump value) = some value) (list : Bounded α most) :
    read most reader (.arr (list.values.map dump)) = some list := by
  unfold read
  rw [Fields.items_map reads]
  exact list.ofList_values

end Bounded

structure EvidenceExcerpt where
  source : SourceReference
  quote : ReviewText
  deriving DecidableEq

structure ClaimReview where
  claim : ReviewText
  verdict : ClaimVerdict
  excerpts : Bounded EvidenceExcerpt 10
  deriving DecidableEq

structure DocumentReviewRequest where
  question : String
  answer : DocumentAnswer
  passages : List RetrievedPassage
  questionBounds : 1 ≤ question.length ∧ question.length ≤ 32768
  passagesBound : passages.length ≤ 100
  deriving DecidableEq

structure DocumentReview where
  verdict : ReviewVerdict
  reason : ReviewText
  evidenceAnswerability : Answerability
  coversAllClaims : Bool
  addressesQuestion : Bool
  evidenceConflict : Bool
  claims : Bounded ClaimReview 20
  deriving DecidableEq

namespace EvidenceExcerpt

def dump (excerpt : EvidenceExcerpt) : Json :=
  .obj [("source", excerpt.source.dump), ("quote", .str excerpt.quote.value)]

def validate (json : Json) : Option EvidenceExcerpt := do
  let data ← Fields.object ["source", "quote"] json
  let source ← Fields.required data "source" SourceReference.validate
  let quote ← Fields.required data "quote" (Stripped.read (some 2048))
  return { source, quote }

@[simp] theorem validate_dump (excerpt : EvidenceExcerpt) :
    validate excerpt.dump = some excerpt := by
  simp [validate, dump, Fields.object, Fields.required, Dict.get?_cons]

end EvidenceExcerpt

namespace ClaimReview

def dump (review : ClaimReview) : Json :=
  .obj [("claim", .str review.claim.value), ("verdict", .str review.verdict.text),
    ("excerpts", .arr (review.excerpts.values.map EvidenceExcerpt.dump))]

def validate (json : Json) : Option ClaimReview := do
  let data ← Fields.object ["claim", "verdict", "excerpts"] json
  let claim ← Fields.required data "claim" (Stripped.read (some 2048))
  let verdict ← Fields.required data "verdict" ClaimVerdict.read
  let excerpts ← Fields.optional data "excerpts" (.empty _ 10)
    (Bounded.read 10 EvidenceExcerpt.validate)
  return { claim, verdict, excerpts }

@[simp] theorem validate_dump (review : ClaimReview) : validate review.dump = some review := by
  simp [validate, dump, Fields.object, Fields.required, Fields.optional, Dict.get?_cons,
    Bounded.read_dump EvidenceExcerpt.validate_dump]

end ClaimReview

namespace DocumentReviewRequest

def validate (question : String) (answer : DocumentAnswer)
    (passages : List RetrievedPassage) : Option DocumentReviewRequest :=
  if bounds : (1 ≤ question.length ∧ question.length ≤ 32768) ∧ passages.length ≤ 100 then
    some { question, answer, passages, questionBounds := bounds.1, passagesBound := bounds.2 }
  else none

def dump (request : DocumentReviewRequest) : Json :=
  .obj [("question", .str request.question), ("answer", request.answer.dump),
    ("passages", .arr (request.passages.map RetrievedPassage.dump))]

end DocumentReviewRequest

namespace DocumentReview

def dump (review : DocumentReview) : Json :=
  .obj [("verdict", .str review.verdict.text), ("reason", .str review.reason.value),
    ("evidence_answerability", .str review.evidenceAnswerability.text),
    ("covers_all_claims", .bool review.coversAllClaims),
    ("addresses_question", .bool review.addressesQuestion),
    ("evidence_conflict", .bool review.evidenceConflict),
    ("claims", .arr (review.claims.values.map ClaimReview.dump))]

def validate (json : Json) : Option DocumentReview := do
  let data ← Fields.object
    ["verdict", "reason", "evidence_answerability", "covers_all_claims", "addresses_question",
      "evidence_conflict", "claims"] json
  let verdict ← Fields.required data "verdict" ReviewVerdict.read
  let reason ← Fields.required data "reason" (Stripped.read (some 2048))
  let evidenceAnswerability ←
    Fields.required data "evidence_answerability" Answerability.read
  let coversAllClaims ← Fields.required data "covers_all_claims" Fields.boolean
  let addressesQuestion ← Fields.required data "addresses_question" Fields.boolean
  let evidenceConflict ← Fields.required data "evidence_conflict" Fields.boolean
  let claims ← Fields.optional data "claims" (.empty _ 20)
    (Bounded.read 20 ClaimReview.validate)
  return { verdict, reason, evidenceAnswerability, coversAllClaims, addressesQuestion,
           evidenceConflict, claims }

theorem validate_dump (review : DocumentReview) : validate review.dump = some review := by
  simp [validate, dump, Fields.object, Fields.required, Fields.optional, Fields.boolean,
    Dict.get?_cons, Bounded.read_dump ClaimReview.validate_dump]

end DocumentReview

/-! ## The deterministic checks -/

/-- The two functions of the language's library the checks rest on: the digest
of a text and the characters `str.isalnum` accepts. -/
structure TextLibrary where
  sha256 : String → String
  isalnum : Char → Bool

def validationPolicyVersion : String := "document_support_gate_v3"

/-- `str.find`: the first place at or after `start` where the text occurs. -/
def findFrom (text within : List Char) (start : Nat) : Option Nat :=
  (List.range' start (within.length + 1 - start)).find? fun place =>
    text.isPrefixOf (within.drop place)

/-- The loop over the occurrences of a claim. Each turn starts later in the
answer, so the length of the answer bounds the number of turns. -/
def coveredBy (claim answer : List Char) : Nat → Option Nat → List Nat
  | _, none | 0, some _ => []
  | turns + 1, some start =>
      List.range' start claim.length ++
        coveredBy claim answer turns (findFrom claim answer (start + 1))

/-- The passage under a source identity; a later one replaces an earlier one. -/
def passageAt (passages : List RetrievedPassage) (source : SourceReference) :
    Option RetrievedPassage :=
  passages.reverse.find? fun passage => sourceKey passage = source

def excerptHolds (request : DocumentReviewRequest) (citations : List SourceReference)
    (excerpt : EvidenceExcerpt) : Bool :=
  citations.contains excerpt.source &&
    match passageAt request.passages excerpt.source with
    | some passage =>
        (findFrom excerpt.quote.value.toList passage.chunk.text.toList 0).isSome
    | none => false

/-- One claim of an accepted review: the positions of the answer it covers. -/
def claimPositions (request : DocumentReviewRequest) (answer : AnsweredDocumentAnswer)
    (claim : ClaimReview) : Except Exc (List Nat) := do
  let text := answer.answer.value.toList
  let start := findFrom claim.claim.value.toList text 0
  raiseWhen (start = none)
    (.documentReviewError "Review claim must be an exact span of the answer")
  raiseWhen (claim.verdict ≠ .supported ∨ claim.excerpts.values = [])
    (.documentReviewError "A claim lacks supported evidence")
  raiseWhen (∃ excerpt ∈ claim.excerpts.values,
      excerptHolds request answer.citations.references excerpt = false)
    (.documentReviewError "Review excerpt is not exact cited evidence")
  return coveredBy claim.claim.value.toList text (text.length + 1) start

def allPositions (request : DocumentReviewRequest) (answer : AnsweredDocumentAnswer) :
    List ClaimReview → Except Exc (List Nat)
  | [] => .ok []
  | claim :: claims => do
      let positions ← claimPositions request answer claim
      let others ← allPositions request answer claims
      return positions ++ others

/-- `validate_document_review` -/
def validateDocumentReview (library : TextLibrary) (request : DocumentReviewRequest)
    (review : DocumentReview) : Except Exc Unit :=
  match request.answer with
  | .answered answer => do
      raiseWhen (review.verdict ≠ .supported ∨ review.evidenceAnswerability ≠ .answerable ∨
          review.coversAllClaims = false ∨ review.addressesQuestion = false ∨
          review.evidenceConflict = true ∨ review.claims.values = [])
        (.documentReviewError "Document answer did not pass evidence review")
      let covered ← allPositions request answer review.claims.values
      raiseWhen (∃ place ∈ answer.answer.value.toList.zipIdx,
          library.isalnum place.1 = true ∧ place.2 ∉ covered)
        (.documentReviewError "Review does not cover the complete answer text")
  | .insufficientEvidence _ =>
      raiseWhen (review.verdict ≠ .appropriateAbstention ∨
          ¬(review.evidenceAnswerability = .insufficient ∨
            review.evidenceAnswerability = .conflicting) ∨
          review.claims.values ≠ [] ∨ review.addressesQuestion = false)
        (.documentReviewError "Insufficient-evidence explanation did not pass review")

/-! ## Receipts -/

/-- `request_digest` -/
def requestDigest (library : TextLibrary) (request : DocumentReviewRequest) : String :=
  library.sha256 (Json.render Json.dense request.dump.sortKeys)

/-- `review_receipt` -/
def reviewReceipt (library : TextLibrary) (request : DocumentReviewRequest)
    (review : DocumentReview) : Except Exc Json := do
  validateDocumentReview library request review
  return .obj
    [("validation_policy_version", .str validationPolicyVersion),
      ("request_sha256", .str (requestDigest library request)), ("review", review.dump)]

/-- `validate_review_receipt` -/
def validateReviewReceipt (library : TextLibrary) (request : DocumentReviewRequest)
    (receipt : Dict) : Except Exc Unit := do
  raiseWhen (receipt.get? "validation_policy_version" ≠ some (.str validationPolicyVersion) ∨
      receipt.get? "request_sha256" ≠ some (.str (requestDigest library request)))
    (.documentReviewError "Document review receipt does not match final answer and evidence")
  let review ← validated (DocumentReview.validate (receipt.getD "review" .null))
  validateDocumentReview library request review

end Crewos.Agent

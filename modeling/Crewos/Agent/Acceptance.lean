import Crewos.Agent.Review

/-! # Accepted reviews

What `validate_document_review` accepts, said without its loops: a claim covers
the positions of all its occurrences in the answer, overlapping ones included. -/

namespace Crewos.Agent

open Foundation

/-! ## Occurrences -/

def OccursAt (text within : List Char) (place : Nat) : Prop := text <+: within.drop place

/-- The `while` loop over the occurrences of a claim, from one that was found or
not: what it adds to the covered positions when it ends. -/
inductive Loop (claim answer : List Char) : Option Nat → List Nat → Prop
  | done : Loop claim answer none []
  | turn {start : Nat} {covered : List Nat}
      (rest : Loop claim answer (findFrom claim answer (start + 1)) covered) :
      Loop claim answer (some start) (List.range' start claim.length ++ covered)

section Occurrences

variable {text within : List Char}

theorem OccursAt.place_lt (nonempty : text ≠ []) {place : Nat}
    (occurs : OccursAt text within place) :
    place < within.length := by
  by_contra beyond
  rw [OccursAt, List.drop_eq_nil_of_le (not_lt.mp beyond), List.prefix_nil] at occurs
  exact nonempty occurs

theorem findFrom_eq_some {start place : Nat} (found : findFrom text within start = some place) :
    start ≤ place ∧ OccursAt text within place ∧
      ∀ earlier, start ≤ earlier → earlier < place → ¬OccursAt text within earlier := by
  rw [findFrom, List.find?_range'_eq_some] at found
  obtain ⟨occurs, member, first⟩ := found
  rw [List.mem_range'_1] at member
  refine ⟨member.1, List.isPrefixOf_iff_prefix.mp occurs, fun earlier after before occurs => ?_⟩
  have absent := first earlier after before
  rw [List.isPrefixOf_iff_prefix.mpr occurs] at absent
  cases absent

theorem findFrom_eq_none (nonempty : text ≠ []) {start : Nat} :
    findFrom text within start = none ↔ ∀ place, start ≤ place → ¬OccursAt text within place := by
  rw [findFrom, List.find?_eq_none]
  constructor
  · intro absent place after occurs
    have before := occurs.place_lt nonempty
    refine absent place (List.mem_range'_1.mpr ⟨after, ?_⟩) (List.isPrefixOf_iff_prefix.mpr occurs)
    omega
  · intro absent place member
    rw [List.mem_range'_1] at member
    intro occurs
    exact absent place member.1 (List.isPrefixOf_iff_prefix.mp occurs)

theorem findFrom_isSome (nonempty : text ≠ []) :
    (findFrom text within 0).isSome = true ↔ ∃ place, OccursAt text within place := by
  rw [← Option.ne_none_iff_isSome, ne_eq, findFrom_eq_none nonempty]
  push Not
  constructor
  · rintro ⟨place, _, occurs⟩
    exact ⟨place, occurs⟩
  · rintro ⟨place, occurs⟩
    exact ⟨place, Nat.zero_le _, occurs⟩

/-- As many turns as there are places left enumerate every occurrence. -/
theorem mem_coveredBy (nonempty : text ≠ []) (turns : Nat) {start position : Nat}
    (enough : within.length < turns + start) :
    position ∈ coveredBy text within turns (findFrom text within start) ↔
      ∃ place, start ≤ place ∧ OccursAt text within place ∧ place ≤ position ∧
        position < place + text.length := by
  induction turns generalizing start with
  | zero =>
      have absent : findFrom text within start = none :=
        (findFrom_eq_none nonempty).mpr fun place after occurs => by
          have before := occurs.place_lt nonempty
          omega
      rw [absent]
      constructor
      · intro member
        cases member
      · rintro ⟨place, after, occurs, _⟩
        exact absurd occurs ((findFrom_eq_none nonempty).mp absent place after)
  | succ turns induction =>
      cases found : findFrom text within start with
      | none =>
          constructor
          · intro member
            cases member
          · rintro ⟨place, after, occurs, _⟩
            exact absurd occurs ((findFrom_eq_none nonempty).mp found place after)
      | some first =>
          obtain ⟨after, occurs, before⟩ := findFrom_eq_some found
          rw [coveredBy, List.mem_append, List.mem_range'_1,
            @induction (first + 1) (by omega)]
          constructor
          · rintro (⟨least, most⟩ | ⟨place, later, rest⟩)
            · exact ⟨first, after, occurs, least, most⟩
            · exact ⟨place, by omega, rest⟩
          · rintro ⟨place, least, here, span⟩
            rcases Nat.lt_trichotomy place first with earlier | rfl | later
            · exact absurd here (before place least earlier)
            · exact .inl span
            · exact .inr ⟨place, later, here, span⟩

/-- The loop ends, and the bound on its turns is not what ends it. -/
theorem loop_coveredBy (nonempty : text ≠ []) (turns : Nat) {start : Nat}
    (enough : within.length < turns + start) :
    Loop text within (findFrom text within start)
      (coveredBy text within turns (findFrom text within start)) := by
  induction turns generalizing start with
  | zero =>
      have absent : findFrom text within start = none :=
        (findFrom_eq_none nonempty).mpr fun place after occurs => by
          have before := occurs.place_lt nonempty
          omega
      rw [absent]
      exact .done
  | succ turns induction =>
      cases found : findFrom text within start with
      | none => exact .done
      | some first =>
          have after := (findFrom_eq_some found).1
          exact .turn (induction (by omega))

end Occurrences

/-! ## Claims -/

/-- An excerpt quotes a cited passage. Of several passages with one source the
last counts. -/
structure Cited (request : DocumentReviewRequest) (answer : AnsweredDocumentAnswer)
    (excerpt : EvidenceExcerpt) : Prop where
  cited : excerpt.source ∈ answer.citations.references
  quoted : ∃ before passage after, request.passages = before ++ passage :: after ∧
    sourceKey passage = excerpt.source ∧ (∀ later ∈ after, sourceKey later ≠ excerpt.source) ∧
    ∃ place, OccursAt excerpt.quote.value.toList passage.chunk.text.toList place

/-- A claim is an exact span of the answer with supporting excerpts. -/
structure Supported (request : DocumentReviewRequest) (answer : AnsweredDocumentAnswer)
    (claim : ClaimReview) : Prop where
  occurs : ∃ place, OccursAt claim.claim.value.toList answer.answer.value.toList place
  verdict : claim.verdict = .supported
  evidence : claim.excerpts.values ≠ []
  cited : ∀ excerpt ∈ claim.excerpts.values, Cited request answer excerpt

section Claims

variable {request : DocumentReviewRequest} {answer : AnsweredDocumentAnswer}

theorem passageAt_eq_some {passages : List RetrievedPassage} {source : SourceReference}
    {passage : RetrievedPassage} : passageAt passages source = some passage ↔
      ∃ before after, passages = before ++ passage :: after ∧ sourceKey passage = source ∧
        ∀ later ∈ after, sourceKey later ≠ source := by
  rw [passageAt, List.find?_eq_some_iff_append]
  simp only [decide_eq_true_eq, Bool.not_eq_eq_eq_not, Bool.not_true, decide_eq_false_iff_not]
  constructor
  · rintro ⟨same, after, before, split, others⟩
    refine ⟨before.reverse, after.reverse, ?_, same, fun later member =>
      others later (List.mem_reverse.mp member)⟩
    rw [← List.reverse_reverse passages, split]
    simp
  · rintro ⟨before, after, rfl, same, others⟩
    refine ⟨same, after.reverse, before.reverse, by simp, fun later member =>
      others later (List.mem_reverse.mp member)⟩

theorem excerptHolds_iff {excerpt : EvidenceExcerpt} :
    excerptHolds request answer.citations.references excerpt = true ↔
      Cited request answer excerpt := by
  have quotes := @findFrom_isSome excerpt.quote.value.toList
  simp only [excerptHolds, Bool.and_eq_true, List.contains_iff_mem]
  constructor
  · rintro ⟨cited, quoted⟩
    split at quoted
    · rename_i passage found
      obtain ⟨before, after, split, same, others⟩ := passageAt_eq_some.mp found
      exact ⟨cited, before, passage, after, split, same, others,
        (quotes excerpt.quote.toList_ne_nil).mp quoted⟩
    · cases quoted
  · rintro ⟨cited, before, passage, after, split, same, others, occurs⟩
    refine ⟨cited, ?_⟩
    rw [passageAt_eq_some.mpr ⟨before, after, split, same, others⟩]
    exact (quotes excerpt.quote.toList_ne_nil).mpr occurs

def coveredPositions (answer : AnsweredDocumentAnswer) (claim : ClaimReview) : List Nat :=
  coveredBy claim.claim.value.toList answer.answer.value.toList
    (answer.answer.value.toList.length + 1)
    (findFrom claim.claim.value.toList answer.answer.value.toList 0)

theorem mem_coveredPositions {claim : ClaimReview} {position : Nat} :
    position ∈ coveredPositions answer claim ↔ ∃ place,
      OccursAt claim.claim.value.toList answer.answer.value.toList place ∧ place ≤ position ∧
        position < place + claim.claim.value.toList.length := by
  rw [coveredPositions, mem_coveredBy claim.claim.toList_ne_nil _ (Nat.lt_succ_self _)]
  simp only [Nat.zero_le, true_and]

theorem claimPositions_ok {claim : ClaimReview} {positions : List Nat} :
    claimPositions request answer claim = .ok positions ↔
      Supported request answer claim ∧ positions = coveredPositions answer claim := by
  have occurs := @findFrom_isSome _ answer.answer.value.toList claim.claim.toList_ne_nil
  rw [← Option.ne_none_iff_isSome] at occurs
  simp only [claimPositions, Outcome.bind_eq_ok, raiseWhen_eq_ok, Outcome.pure_eq_ok]
  constructor
  · rintro ⟨_, found, _, supported, _, cited, rfl⟩
    push Not at supported cited
    refine ⟨⟨occurs.mp found, supported.1, supported.2, fun excerpt member => ?_⟩, rfl⟩
    have holds := cited excerpt member
    rw [ne_eq, Bool.not_eq_false] at holds
    exact excerptHolds_iff.mp holds
  · rintro ⟨holds, rfl⟩
    refine ⟨(), occurs.mpr holds.occurs, (), ?_, (), ?_, rfl⟩
    · push Not
      exact ⟨holds.verdict, holds.evidence⟩
    · rintro ⟨excerpt, member, fails⟩
      rw [excerptHolds_iff.mpr (holds.cited excerpt member)] at fails
      cases fails

theorem allPositions_ok {claims : List ClaimReview} {covered : List Nat} :
    allPositions request answer claims = .ok covered ↔
      (∀ claim ∈ claims, Supported request answer claim) ∧
        covered = claims.flatMap (coveredPositions answer) := by
  induction claims generalizing covered with
  | nil =>
      constructor
      · rintro ⟨⟩
        exact ⟨by simp, rfl⟩
      · rintro ⟨_, rfl⟩
        rfl
  | cons claim claims induction =>
      simp only [allPositions, Outcome.bind_eq_ok, Outcome.pure_eq_ok, claimPositions_ok, induction,
        List.forall_mem_cons, List.flatMap_cons]
      constructor
      · rintro ⟨_, ⟨first, rfl⟩, _, ⟨others, rfl⟩, rfl⟩
        exact ⟨⟨first, others⟩, rfl⟩
      · rintro ⟨⟨first, others⟩, rfl⟩
        exact ⟨_, ⟨first, rfl⟩, _, ⟨others, rfl⟩, rfl⟩

end Claims

/-! ## Acceptance -/

/-- The envelope of a review of an answer is positive. -/
structure Positive (review : DocumentReview) : Prop where
  verdict : review.verdict = .supported
  answerability : review.evidenceAnswerability = .answerable
  coversAllClaims : review.coversAllClaims = true
  addressesQuestion : review.addressesQuestion = true
  evidenceConflict : review.evidenceConflict = false
  claims : review.claims.values ≠ []

/-- Every alphanumeric character of the answer is inside some occurrence of some
claim. -/
def Complete (library : TextLibrary) (answer : AnsweredDocumentAnswer) (review : DocumentReview) :
    Prop :=
  ∀ (position : Nat) (char : Char), answer.answer.value.toList[position]? = some char →
    library.isalnum char = true → ∃ claim ∈ review.claims.values, ∃ place,
      OccursAt claim.claim.value.toList answer.answer.value.toList place ∧ place ≤ position ∧
        position < place + claim.claim.value.toList.length

theorem uncovered_iff {library : TextLibrary} {answer : AnsweredDocumentAnswer}
    {review : DocumentReview} :
    (¬∃ place ∈ answer.answer.value.toList.zipIdx, library.isalnum place.1 = true ∧
        place.2 ∉ review.claims.values.flatMap (coveredPositions answer)) ↔
      Complete library answer review := by
  have covered (position : Nat) :
      position ∈ review.claims.values.flatMap (coveredPositions answer) ↔
        ∃ claim ∈ review.claims.values, ∃ place,
          OccursAt claim.claim.value.toList answer.answer.value.toList place ∧ place ≤ position ∧
            position < place + claim.claim.value.toList.length := by
    simp only [List.mem_flatMap, mem_coveredPositions]
  push Not
  constructor
  · intro all position char here alphanumeric
    exact (covered position).mp
      (all (char, position) (List.mem_zipIdx_iff_getElem?.mpr here) alphanumeric)
  · rintro complete ⟨char, position⟩ member alphanumeric
    exact (covered position).mpr
      (complete position char (List.mem_zipIdx_iff_getElem?.mp member) alphanumeric)

/-- What is accepted, for both kinds of answers; and every loop over the
occurrences of a claim ends. -/
theorem review_acceptance (library : TextLibrary) (request : DocumentReviewRequest)
    (review : DocumentReview) :
    (∀ answer, request.answer = .answered answer →
      (validateDocumentReview library request review = .ok () ↔
        Positive review ∧ (∀ claim ∈ review.claims.values, Supported request answer claim) ∧
          Complete library answer review)) ∧
    (∀ answer, request.answer = .insufficientEvidence answer →
      (validateDocumentReview library request review = .ok () ↔
        review.verdict = .appropriateAbstention ∧
          (review.evidenceAnswerability = .insufficient ∨
            review.evidenceAnswerability = .conflicting) ∧
          review.claims.values = [] ∧ review.addressesQuestion = true)) ∧
    ∀ (claim : ClaimReview) (answer : List Char),
      Loop claim.claim.value.toList answer (findFrom claim.claim.value.toList answer 0)
        (coveredBy claim.claim.value.toList answer (answer.length + 1)
          (findFrom claim.claim.value.toList answer 0)) := by
  refine ⟨fun answer answered => ?_, fun answer insufficient => ?_, fun claim answer =>
    loop_coveredBy claim.claim.toList_ne_nil _ (Nat.lt_succ_self _)⟩
  · simp only [validateDocumentReview, answered, Outcome.bind_eq_ok, raiseWhen_eq_ok,
      allPositions_ok]
    constructor
    · rintro ⟨_, envelope, _, ⟨supported, rfl⟩, complete⟩
      push Not at envelope
      obtain ⟨verdict, answerable, covers, addresses, conflict, claims⟩ := envelope
      rw [ne_eq, Bool.not_eq_false] at covers addresses
      rw [ne_eq, Bool.not_eq_true] at conflict
      exact ⟨⟨verdict, answerable, covers, addresses, conflict, claims⟩, supported,
        uncovered_iff.mp complete⟩
    · rintro ⟨envelope, supported, complete⟩
      refine ⟨(), ?_, _, ⟨supported, rfl⟩, uncovered_iff.mpr complete⟩
      simp [envelope.verdict, envelope.answerability, envelope.coversAllClaims,
        envelope.addressesQuestion, envelope.evidenceConflict, envelope.claims]
  · simp only [validateDocumentReview, insufficient, raiseWhen_eq_ok]
    push Not
    simp only [ne_eq, Bool.not_eq_false]

end Crewos.Agent

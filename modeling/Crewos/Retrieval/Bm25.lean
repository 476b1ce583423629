import Crewos.Retrieval.KeywordOverlap
import Mathlib.Algebra.Order.Field.Basic
import Mathlib.Tactic.Linarith

/-! # BM25

Term frequencies weighted by how rare a term is in the corpus, in exact
arithmetic: the numbers are those of an ordered field, and `log1p` is whatever the
mathematics library computes. -/

namespace Crewos.Retrieval

open Foundation Documents

/-! ## Arithmetic -/

section

variable {K : Type} [Field K] [LinearOrder K]

/-- `dividend / divisor` -/
def divide (dividend divisor : K) : Except RetrievalError K :=
  if divisor = 0 then .error .zeroDivisionError else .ok (dividend / divisor)

/-- `math.log1p`, with its domain. -/
def log1pOf (log1p : K → K) (value : K) : Except RetrievalError K :=
  if value ≤ -1 then .error (.valueError "math domain error") else .ok (log1p value)

end

/-! ## The strategy -/

structure Counted where
  document : StoredDocumentVersion
  chunk : TextChunk
  words : List String

namespace Counted

/-- `counts[term]` -/
def count (passage : Counted) (term : String) : Nat := passage.words.count term

/-- `sum(counts.values())` -/
def length (passage : Counted) : Nat :=
  (passage.words.dedup.map fun word => passage.words.count word).sum

end Counted

structure Bm25Retriever (K : Type) [Field K] [LinearOrder K] where
  k1 : K
  b : K
  limits : RetrievalLimits := {}
  k1_bounds : 0 < k1 ∧ k1 ≤ 100
  b_bounds : 0 ≤ b ∧ b ≤ 1

namespace Bm25Retriever

def strategy : String := "bm25_v1"

/-- `sorted(set(…))` -/
def queryTerms (alphabet : Alphabet) (text : String) : List String :=
  rank CodePoints.mk (alphabet.findall text).dedup

def counted (alphabet : Alphabet) (passage : StoredDocumentVersion × TextChunk) : Counted :=
  { document := passage.1, chunk := passage.2, words := alphabet.findall passage.2.text }

def frequency (passages : List Counted) (term : String) : Nat :=
  passages.countP fun passage => term ∈ passage.words

variable {K : Type} [Field K] [LinearOrder K]

def averageLength (passages : List Counted) : Except RetrievalError K :=
  if passages.length = 0 then .ok 0
  else divide (((passages.map Counted.length).sum : Nat) : K) (passages.length : K)

/-- What a term adds to the score of a passage that holds it. -/
def termScore (k1 : K) (log1p : K → K) (total : Nat) (normalization : K) (frequency tf : Nat) :
    Except RetrievalError K := do
  let rarity ← divide ((total : K) - frequency + 1 / 2) ((frequency : K) + 1 / 2)
  let idf ← log1pOf log1p rarity
  divide (idf * tf * (k1 + 1)) (tf + normalization)

/-- The loops over the passage's document and over the terms. -/
def passageScore (retriever : Bm25Retriever K) (log1p : K → K) (passages : List Counted)
    (averageLength : K) (terms : List String) (passage : Counted) : Except RetrievalError K := do
  let ratio ← divide (retriever.b * passage.length) averageLength
  let normalization := retriever.k1 * (1 - retriever.b + ratio)
  terms.foldlM (fun score term =>
    let tf := passage.count term
    if tf ≠ 0 then do
      let added ←
        termScore retriever.k1 log1p passages.length normalization (frequency passages term) tf
      return score + added
    else
      return score) 0

/-- The loop over the passages. -/
def candidates (retriever : Bm25Retriever K) (log1p : K → K) (averageLength : K)
    (terms : List String) (passages : List Counted) :
    List Counted → Except RetrievalError (List (Candidate K))
  | [] => .ok []
  | passage :: rest => do
      let score ← passageScore retriever log1p passages averageLength terms passage
      let later ← candidates retriever log1p averageLength terms passages rest
      return if 0 < score then
          { score, document := passage.document, chunk := passage.chunk } :: later
        else later

def search (retriever : Bm25Retriever K) (log1p : K → K) (alphabet : Alphabet)
    (reader : DocumentCorpusReader) (request : RetrievalRequest) (tenantId : String) :
    Except RetrievalError RetrievalResult := do
  let terms := queryTerms alphabet request.query.value
  if terms = [] then
    RetrievalResult.create strategy []
  else
    let documents ← retriever.limits.read reader tenantId
    let gathered ← gather tenantId documents
    let passages := gathered.map (counted alphabet)
    let average : K ← averageLength passages
    if average = 0 then
      RetrievalResult.create strategy []
    else
      let found ← candidates retriever log1p average terms passages passages
      answer strategy request.topK retriever.limits.maxOutputChars found

/-! ## Exact scores -/

def average (K : Type) [Field K] (passages : List Counted) : K :=
  ((passages.map Counted.length).sum : Nat) / (passages.length : K)

def normalization (retriever : Bm25Retriever K) (passages : List Counted)
    (passage : Counted) : K :=
  retriever.k1 *
    (1 - retriever.b + retriever.b * passage.length / average K passages)

def exactTerm (retriever : Bm25Retriever K) (log1p : K → K) (passages : List Counted)
    (passage : Counted) (term : String) : K :=
  if passage.count term = 0 then 0
  else
    log1p (((passages.length : K) - frequency passages term + 1 / 2) /
        ((frequency passages term : K) + 1 / 2)) *
      passage.count term * (retriever.k1 + 1) /
        (passage.count term + retriever.normalization passages passage)

/-- The score of a passage, summed over the terms of the query. -/
def exactScore (retriever : Bm25Retriever K) (log1p : K → K) (terms : List String)
    (passages : List Counted) (passage : Counted) : K :=
  (terms.map (retriever.exactTerm log1p passages passage)).sum

theorem exactScore_cons (retriever : Bm25Retriever K) (log1p : K → K) (term : String)
    (terms : List String) (passages : List Counted) (passage : Counted) :
    retriever.exactScore log1p (term :: terms) passages passage =
      retriever.exactTerm log1p passages passage term +
        retriever.exactScore log1p terms passages passage := List.sum_cons

theorem divide_ok {dividend divisor : K} (nonzero : divisor ≠ 0) :
    divide dividend divisor = .ok (dividend / divisor) := if_neg nonzero

theorem frequency_le (passages : List Counted) (term : String) :
    frequency passages term ≤ passages.length := List.countP_le_length

section

variable [IsStrictOrderedRing K]

theorem rarity_pos (passages : List Counted) (term : String) :
    0 < ((passages.length : K) - frequency passages term + 1 / 2) /
      ((frequency passages term : K) + 1 / 2) := by
  have below : (frequency passages term : K) ≤ passages.length :=
    Nat.cast_le.mpr (frequency_le passages term)
  have half : (0 : K) < 1 / 2 := half_pos one_pos
  have counted : (0 : K) ≤ frequency passages term := Nat.cast_nonneg _
  exact div_pos (by linarith) (by linarith)

theorem average_nonneg (passages : List Counted) : 0 ≤ average K passages :=
  div_nonneg (Nat.cast_nonneg _) (Nat.cast_nonneg _)

theorem normalization_nonneg (retriever : Bm25Retriever K) (passages : List Counted)
    (passage : Counted) : 0 ≤ retriever.normalization passages passage := by
  have share : 0 ≤ retriever.b * passage.length / average K passages :=
    div_nonneg (mul_nonneg retriever.b_bounds.1 (Nat.cast_nonneg _)) (average_nonneg passages)
  have upper := retriever.b_bounds.2
  exact mul_nonneg retriever.k1_bounds.1.le (by linarith)

theorem averageLength_eq (passages : List Counted) :
    averageLength (K := K) passages = .ok (average K passages) := by
  unfold averageLength average
  split
  · rename_i empty
    rw [empty, Nat.cast_zero, div_zero]
  · rename_i some
    exact divide_ok (Nat.cast_ne_zero.mpr some)

theorem termScore_eq (retriever : Bm25Retriever K) (log1p : K → K) (passages : List Counted)
    (passage : Counted) {term : String} (occurs : passage.count term ≠ 0) :
    termScore retriever.k1 log1p passages.length (retriever.normalization passages passage)
        (frequency passages term) (passage.count term) =
      .ok (retriever.exactTerm log1p passages passage term) := by
  have counted : (0 : K) ≤ frequency passages term := Nat.cast_nonneg _
  have positive : (0 : K) < passage.count term := Nat.cast_pos.mpr (Nat.pos_of_ne_zero occurs)
  have rarity := rarity_pos (K := K) passages term
  have norm := retriever.normalization_nonneg passages passage
  have half : (0 : K) < 1 / 2 := half_pos one_pos
  rw [termScore, divide_ok (by linarith), Outcome.ok_bind, log1pOf, if_neg (by linarith),
    Outcome.ok_bind, divide_ok (by linarith), exactTerm, if_neg occurs]

theorem passageScore_eq (retriever : Bm25Retriever K) (log1p : K → K) (terms : List String)
    {passages : List Counted} (worded : average K passages ≠ 0) (passage : Counted) :
    retriever.passageScore log1p passages (average K passages) terms passage =
      .ok (retriever.exactScore log1p terms passages passage) := by
  have sums (score : K) : terms.foldlM (fun score term =>
      let tf := passage.count term
      if tf ≠ 0 then do
        let added ← termScore retriever.k1 log1p passages.length
          (retriever.normalization passages passage) (frequency passages term) tf
        return score + added
      else
        return score) score =
      .ok (score + retriever.exactScore log1p terms passages passage) := by
    induction terms generalizing score with
    | nil => simp [exactScore, pure, Except.pure]
    | cons term terms induction =>
        rw [List.foldlM_cons]
        by_cases occurs : passage.count term = 0
        · have first : retriever.exactTerm log1p passages passage term = 0 := if_pos occurs
          simp only [occurs, ne_eq, not_true, if_false, pure_bind]
          rw [induction, exactScore_cons, first, zero_add]
        · simp only [ne_eq, occurs, not_false_iff, if_true,
            termScore_eq retriever log1p passages passage occurs, Outcome.ok_bind, pure_bind]
          rw [induction, exactScore_cons, add_assoc]
  rw [passageScore, divide_ok worded, Outcome.ok_bind]
  have total := sums 0
  rw [zero_add] at total
  exact total

end

end Bm25Retriever

end Crewos.Retrieval

import Crewos.Retrieval.Contracts
import Mathlib.Data.Finset.Card

/-! # Keyword overlap

The baseline strategy: a passage scores the number of distinct terms it shares
with the query. -/

namespace Crewos.Retrieval

open Foundation Documents

/-- `_terms` -/
def terms (alphabet : Alphabet) (text : String) : Finset String :=
  (alphabet.findall text).toFinset

structure KeywordOverlapRetriever where
  limits : RetrievalLimits := {}
  deriving DecidableEq, Repr

namespace KeywordOverlapRetriever

def strategy : String := "keyword_overlap_v1"

/-- `len(terms & _terms(chunk.text))` -/
def score (alphabet : Alphabet) (query : Finset String) (chunk : TextChunk) : Nat :=
  (query ∩ terms alphabet chunk.text).card

/-- The passages with a score. Scoring raises nothing, so it can follow the loop. -/
def candidates (alphabet : Alphabet) (query : Finset String)
    (passages : List (StoredDocumentVersion × TextChunk)) : List (Candidate Nat) :=
  (passages.map fun passage =>
    { score := score alphabet query passage.2, document := passage.1, chunk := passage.2 :
      Candidate Nat }).filter fun candidate => candidate.score ≠ 0

def search (retriever : KeywordOverlapRetriever) (alphabet : Alphabet)
    (reader : DocumentCorpusReader) (request : RetrievalRequest) (tenantId : String) :
    Except RetrievalError RetrievalResult := do
  let query := terms alphabet request.query.value
  if query = ∅ then
    RetrievalResult.create strategy []
  else
    let documents ← retriever.limits.read reader tenantId
    let passages ← gather tenantId documents
    answer strategy request.topK retriever.limits.maxOutputChars
      (candidates alphabet query passages)

end KeywordOverlapRetriever

end Crewos.Retrieval

import Crewos.Documents.Contracts
import Crewos.Foundation.Ranking
import Mathlib.Algebra.GroupWithZero.Nat
import Mathlib.Data.Prod.Lex

/-! # Search contracts

Requests, passages and results of a search, and what both strategies do with the
passages they scored: sort them, cut them off, admit them and build the result. -/

namespace Crewos.Retrieval

open Foundation Documents

/-- What a search can raise, with the message of the source. -/
inductive RetrievalError where
  | retrievalCapacityExceeded (message : String)
  | retrievalResultError (message : String)
  | validationError
  | valueError (message : String)
  | zeroDivisionError
  /-- What the corpus reader raised. -/
  | reader (error : DocumentError)
  deriving DecidableEq, Repr

structure RetrievalRequest where
  query : TextField 2048
  topK : Nat := 5
  bounds : 1 ≤ topK ∧ topK ≤ 20 := by decide
  deriving DecidableEq, Repr

structure RetrievedPassage where
  documentId : Uuid4
  documentVersion : Nat
  title : String
  sourceRef : Option String
  chunk : TextChunk
  deriving DecidableEq, Repr

structure RetrievalResult where
  strategy : String
  passages : List RetrievedPassage
  deriving DecidableEq, Repr

def checked : Except DocumentError α → Except RetrievalError α :=
  Except.mapError fun _ => .validationError

/-- `RetrievedPassage(…)`: an identifier object must be of the random variant. -/
def RetrievedPassage.create (document : StoredDocumentVersion) (chunk : TextChunk) :
    Except RetrievalError RetrievedPassage := do
  raiseWhen (document.documentId.rfcVariant = false) .validationError
  raiseWhen (document.version < 1) .validationError
  let title ← checked (TextField.validate 256 document.document.title)
  let sourceRef ← checked (TextField.validateOptional 2048 document.document.sourceRef)
  return {
    documentId := document.documentId
    documentVersion := document.version
    title := title.value
    sourceRef := sourceRef.map TextField.value
    chunk }

/-- `^[a-z][a-z0-9_]{0,63}$` -/
def strategyPattern (strategy : String) : Bool :=
  match strategy.toList with
  | [] => false
  | first :: rest => first.isLower && rest.length ≤ 63 &&
      rest.all fun char => char.isLower || char.isDigit || char == '_'

/-- What `unique_source_passages` tells passages apart by. -/
def RetrievedPassage.identity (passage : RetrievedPassage) : Uuid4 × Nat × Nat :=
  (passage.documentId, passage.documentVersion, passage.chunk.index)

/-- `RetrievalResult(…)` -/
def RetrievalResult.create (strategy : String) (passages : List RetrievedPassage) :
    Except RetrievalError RetrievalResult := do
  raiseWhen (strategyPattern strategy = false) .validationError
  raiseWhen (20 < passages.length) .validationError
  raiseWhen (¬(passages.map RetrievedPassage.identity).Nodup) .validationError
  return { strategy, passages }

/-! ## The corpus -/

/-- Limits that both constructors ask to be positive. -/
structure RetrievalLimits where
  maxDocuments : Nat := 20
  maxSnapshotBytes : Nat := 8000000
  maxOutputChars : Nat := 100000
  positive : 1 ≤ maxDocuments ∧ 1 ≤ maxSnapshotBytes ∧ 1 ≤ maxOutputChars := by decide
  deriving DecidableEq, Repr

/-- A reader of a tenant's latest documents, under limits of their number and bytes. -/
structure DocumentCorpusReader where
  readLatestDocuments : (tenantId : String) → (maxDocuments maxSnapshotBytes : Nat) →
    Except DocumentError (List StoredDocumentVersion)

def RetrievalLimits.read (limits : RetrievalLimits) (reader : DocumentCorpusReader)
    (tenantId : String) : Except RetrievalError (List StoredDocumentVersion) :=
  (reader.readLatestDocuments tenantId limits.maxDocuments limits.maxSnapshotBytes).mapError
    .reader

/-- The loop over the documents: every chunk with its document. -/
def gather (tenantId : String) :
    List StoredDocumentVersion → Except RetrievalError (List (StoredDocumentVersion × TextChunk))
  | [] => .ok []
  | document :: documents => do
      raiseWhen (document.tenantId ≠ tenantId)
        (.retrievalResultError "Corpus reader returned another tenant's document")
      let passages ← gather tenantId documents
      return document.chunking.chunks.map (fun chunk => (document, chunk)) ++ passages

/-! ## Candidates -/

structure Candidate (Score : Type) where
  score : Score
  document : StoredDocumentVersion
  chunk : TextChunk

/-- `(-score, str(document_id), version, index)` -/
def Candidate.key {Score : Type} (candidate : Candidate Score) :
    Scoreᵒᵈ ×ₗ CodePoints ×ₗ Nat ×ₗ Nat :=
  toLex (OrderDual.toDual candidate.score, toLex (⟨candidate.document.documentId.text⟩,
    toLex (candidate.document.version, candidate.chunk.index)))

/-- How both searches end: sort, cut off, admit, build the result. -/
def answer {Score : Type} [LinearOrder Score] (strategy : String) (topK maxOutputChars : Nat)
    (candidates : List (Candidate Score)) : Except RetrievalError RetrievalResult := do
  let selected := (rank Candidate.key candidates).take topK
  raiseWhen (maxOutputChars < (selected.map fun candidate => candidate.chunk.text.length).sum)
    (.retrievalCapacityExceeded "Selected passages exceed output character limit")
  let passages ← selected.mapM fun candidate =>
    RetrievedPassage.create candidate.document candidate.chunk
  RetrievalResult.create strategy passages

/-! ## Words -/

/-- The tables of the string library: what a character folds to, and which ones
`\w` matches. -/
structure Alphabet where
  casefold : Char → List Char
  word : Char → Bool

/-- `re.findall(r"\w+", text.casefold())`: the longest runs of word characters. -/
def Alphabet.findall (alphabet : Alphabet) (text : String) : List String :=
  ((((text.toList.flatMap alphabet.casefold).splitOnP fun char => !alphabet.word char).filter
    fun run => !run.isEmpty).map String.ofList)

end Crewos.Retrieval

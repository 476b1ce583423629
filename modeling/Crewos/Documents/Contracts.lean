import Crewos.Foundation.Base64
import Crewos.Foundation.Json
import Crewos.Foundation.Outcome
import Crewos.Foundation.Text
import Crewos.Foundation.Uuid

/-! # Document contracts

Requests, chunks and snapshots with the checks their models make. A validated
request carries its bounds; a snapshot is checked again wherever it is stored. -/

namespace Crewos.Documents

open Foundation

/-- What a document operation can raise, with the message of the source. -/
inductive DocumentError where
  | documentNotFound (message : String)
  | documentVersionConflict (message : String)
  | documentStorageCorruption (message : String)
  | documentCorpusLimitExceeded (message : String)
  | documentJobConflict (message : String)
  | documentJobNotFound (message : String)
  | validationError
  | valueError (message : String)
  | typeError
  | integrityError
  | overflowError
  | operationalError
  deriving DecidableEq, Repr

/-! ## Text fields -/

/-- A strict string, stripped, of at least one and at most `most` characters. -/
structure TextField (most : Nat) where
  value : String
  stripped : Text.strip Text.whiteSpace value = value
  bounds : 1 ≤ value.length ∧ value.length ≤ most
  deriving DecidableEq, Repr

abbrev DocumentTitle := TextField 256

abbrev DocumentSourceReference := TextField 2048

namespace TextField

variable {most : Nat}

def validate (most : Nat) (text : String) : Except DocumentError (TextField most) :=
  if bounds : 1 ≤ (Text.strip Text.whiteSpace text).length ∧
      (Text.strip Text.whiteSpace text).length ≤ most then
    .ok ⟨Text.strip Text.whiteSpace text, Text.strip_idem _ _, bounds⟩
  else
    .error .validationError

def validateOptional (most : Nat) :
    Option String → Except DocumentError (Option (TextField most))
  | some text => some <$> validate most text
  | none => .ok none

theorem validate_value (field : TextField most) : validate most field.value = .ok field := by
  have bounds := field.bounds
  rw [← field.stripped] at bounds
  unfold validate
  rw [dif_pos bounds]
  rcases field with ⟨value, stripped, _⟩
  simp only [stripped]

theorem validateOptional_value (field : Option (TextField most)) :
    validateOptional most (field.map TextField.value) = .ok field := by
  cases field with
  | none => rfl
  | some field => simp [validateOptional, validate_value, Functor.map, Except.map]

end TextField

/-! ## Chunking -/

structure ChunkingOptions where
  chunkSize : Nat := 1000
  overlap : Nat := 100
  size : 1 ≤ chunkSize ∧ chunkSize ≤ 16384 := by decide
  smaller : overlap < chunkSize := by decide
  deriving DecidableEq, Repr

instance : Inhabited ChunkingOptions := ⟨{}⟩

structure TextChunk where
  index : Nat
  text : String
  startChar : Nat
  endChar : Nat
  deriving DecidableEq, Repr

/-- The bounds of a chunk and `validate_span`. -/
def TextChunk.valid (chunk : TextChunk) : Bool :=
  1 ≤ chunk.text.length && chunk.text.length ≤ 1000000 && chunk.startChar < 1000000 &&
    0 < chunk.endChar && chunk.endChar ≤ 1000000 &&
    chunk.endChar == chunk.startChar + chunk.text.length

structure ChunkingResult where
  strategy : String
  options : ChunkingOptions
  chunks : List TextChunk
  deriving DecidableEq, Repr

def ChunkingResult.valid (result : ChunkingResult) : Bool :=
  1 ≤ result.strategy.length && result.strategy.length ≤ 128 &&
    result.chunks.all TextChunk.valid

/-! ## Requests -/

structure DocumentIngestionRequest where
  content : List UInt8
  title : DocumentTitle
  sourceRef : Option DocumentSourceReference
  size : 1 ≤ content.length ∧ content.length ≤ 4000000
  deriving DecidableEq, Repr

structure DocumentUpdateRequest extends DocumentIngestionRequest where
  documentId : Uuid4
  expectedVersion : Nat
  positive : 1 ≤ expectedVersion
  deriving DecidableEq, Repr

inductive JobOperation where
  | create
  | update
  deriving DecidableEq, Repr

def JobOperation.text : JobOperation → String
  | .create => "create"
  | .update => "update"

inductive DocumentRequest where
  | ingestion (request : DocumentIngestionRequest)
  | update (request : DocumentUpdateRequest)
  deriving DecidableEq, Repr

/-- The fields a caller's request object holds before they are checked. -/
structure RawRequest where
  content : List UInt8
  title : String
  sourceRef : Option String
  target : Option (Uuid4 × Nat)
  deriving DecidableEq, Repr

def DocumentIngestionRequest.validate (content : List UInt8) (title : String)
    (sourceRef : Option String) : Except DocumentError DocumentIngestionRequest := do
  let title ← TextField.validate 256 title
  let sourceRef ← TextField.validateOptional 2048 sourceRef
  if size : 1 ≤ content.length ∧ content.length ≤ 4000000 then
    return { content, title, sourceRef, size }
  else
    throw .validationError

def DocumentUpdateRequest.validate (content : List UInt8) (title : String)
    (sourceRef : Option String) (documentId : Uuid4) (expectedVersion : Nat) :
    Except DocumentError DocumentUpdateRequest := do
  let source ← DocumentIngestionRequest.validate content title sourceRef
  if positive : 1 ≤ expectedVersion then
    return { source with documentId, expectedVersion, positive }
  else
    throw .validationError

/-- Check a request object again. Each model forbids the other's fields, and an
identifier that is already an object must be of the random variant. -/
def RawRequest.validate (raw : RawRequest) :
    JobOperation → Except DocumentError DocumentRequest
  | .create => do
      raiseWhen (raw.target ≠ none) .validationError
      return .ingestion
        (← DocumentIngestionRequest.validate raw.content raw.title raw.sourceRef)
  | .update =>
      match raw.target with
      | some (documentId, expectedVersion) => do
          raiseWhen (documentId.rfcVariant = false) .validationError
          return .update (← DocumentUpdateRequest.validate raw.content raw.title
            raw.sourceRef documentId expectedVersion)
      | none => .error .validationError

/-! ## Snapshots -/

structure DocumentInput where
  title : String
  text : String
  sourceRef : Option String
  deriving DecidableEq, Repr

def DocumentInput.validate (input : DocumentInput) : Except DocumentError DocumentInput := do
  let title ← TextField.validate 256 input.title
  let sourceRef ← TextField.validateOptional 2048 input.sourceRef
  raiseWhen (input.text.length < 1 ∨ 1000000 < input.text.length) .validationError
  -- `require_nonblank_text`
  raiseWhen (input.text.toList.all Text.isspace) .validationError
  return { input with title := title.value, sourceRef := sourceRef.map TextField.value }

/-- A stored version. `createdAt` counts microseconds since the epoch. -/
structure StoredDocumentVersion where
  documentId : Uuid4
  tenantId : String
  version : Nat
  createdAt : Int
  document : DocumentInput
  chunking : ChunkingResult
  deriving DecidableEq, Repr

/-- The loop of `validate_saved_chunks`: the end of the last chunk, when every
chunk continues the text from where the one before it ended. -/
def savedChunks (text : List Char) : List TextChunk → Nat → Nat →
    Except DocumentError Nat
  | [], _, previousEnd => .ok previousEnd
  | chunk :: rest, index, previousEnd => do
      raiseWhen (chunk.index ≠ index ∨ (index = 0 ∧ chunk.startChar ≠ 0) ∨
          previousEnd < chunk.startChar ∨ chunk.endChar ≤ previousEnd ∨
          chunk.text.toList ≠
            (text.drop chunk.startChar).take (chunk.endChar - chunk.startChar))
        .validationError
      savedChunks text rest (index + 1) chunk.endChar

def tenantPattern (tenantId : String) : Bool := Text.fullmatch Text.identifierChar 1 64 tenantId

def StoredDocumentVersion.validate (record : StoredDocumentVersion) :
    Except DocumentError StoredDocumentVersion := do
  raiseWhen (tenantPattern record.tenantId = false) .validationError
  raiseWhen (record.version < 1) .validationError
  let document ← record.document.validate
  raiseWhen (record.chunking.valid = false) .validationError
  raiseWhen (record.chunking.chunks = []) .validationError
  let covered ← savedChunks document.text.toList record.chunking.chunks 0 0
  raiseWhen (covered ≠ document.text.length) .validationError
  return { record with document }

end Crewos.Documents

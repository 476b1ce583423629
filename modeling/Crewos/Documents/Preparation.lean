import Crewos.Chunking.Spans
import Crewos.Documents.Processor
import Crewos.Foundation.Utf8

/-! # Document preparation

What the routes make of a body, and what processing makes of the bytes of a job:
parsing, validation and chunking, as the plain-text facade wires them. -/

namespace Crewos.Documents

open Foundation Chunking

/-! ## Bodies -/

/-- The request that `create_document` makes of an admitted body. -/
def createRequest (payload : DocumentInput) : Except DocumentError DocumentRequest :=
  .ingestion <$> DocumentIngestionRequest.validate (Utf8.encode payload.text) payload.title
    payload.sourceRef

/-- The request that `update_document` makes of an admitted body. -/
def updateRequest (payload : DocumentInput) (documentId : Uuid4) (expectedVersion : Nat) :
    Except DocumentError DocumentRequest :=
  .update <$> DocumentUpdateRequest.validate (Utf8.encode payload.text) payload.title
    payload.sourceRef documentId expectedVersion

/-! ## Preparation -/

/-- `PlainTextDocumentParser.parse` -/
def parsePlainText (maxSourceBytes : Nat) (content : List UInt8) : Except Raised String := do
  raiseWhen (maxSourceBytes < content.length) .documentParse
  match Utf8.decodeSig content with
  | some text => return text
  | none => throw .documentParse

/-- `DocumentPreparationService.prepare`, with the limit of `build_plain_text_preparation`. -/
def prepareDocument (request : DocumentIngestionRequest) : Except Raised DocumentInput := do
  let text ← parsePlainText 4000000 request.content
  (DocumentInput.validate
    { title := request.title.value, text
      sourceRef := request.sourceRef.map TextField.value }).mapError .document

/-- `ChunkingRequest(…)` -/
def chunkingRequest (text : String) (options : ChunkingOptions) :
    Except Raised ChunkingRequest :=
  if size : 1 ≤ text.length ∧ text.length ≤ 1000000 then
    if content : text.toList.all Text.isspace = false then
      .ok { text, options, size, content }
    else
      .error (.document .validationError)
  else
    .error (.document .validationError)

def raisedByChunking : ChunkingError → Raised
  | .chunkingLimitExceeded _ => .chunkingLimitExceeded
  | .valueError message => .document (.valueError message)
  | .validationError => .document .validationError

/-- `build_character_chunking` -/
def characterChunking : ChunkingService := .standard characterWindowChunker

/-- `_prepare_and_store` before the record is assembled. -/
def prepareSource (request : DocumentIngestionRequest) (options : ChunkingOptions)
    (createdAt : Int) : Except Raised Prepared := do
  let document ← prepareDocument request
  let source ← chunkingRequest document.text options
  let chunking ← (characterChunking.chunk source).mapError raisedByChunking
  return { document, chunking, createdAt }

/-- The record that processing a claim hands to the store: the claim's source,
prepared, under a drawn identifier or as the next version of the target. -/
def Processes (claim : DocumentJobClaim) (record : StoredDocumentVersion) : Prop :=
  ∃ createdAt prepared, prepareSource claim.request.source claim.options createdAt = .ok prepared ∧
    match claim.request with
    | .ingestion _ => ∃ documentId,
        DocumentProcessingCoordinator.process prepared claim.job.tenantId documentId = .ok record
    | .update request =>
        DocumentProcessingCoordinator.prepareAndStore prepared claim.job.tenantId
          request.documentId (request.expectedVersion + 1) = .ok record

/-! ## What preparation keeps -/

theorem parsePlainText_encode {maxSourceBytes : Nat} {text parsed : String}
    (ok : parsePlainText maxSourceBytes (Utf8.encode text) = .ok parsed) :
    parsed = Utf8.unmarked text := by
  simp only [parsePlainText, Outcome.bind_eq_ok, Utf8.decodeSig_encode] at ok
  obtain ⟨_, _, ok⟩ := ok
  cases ok
  rfl

theorem prepareSource_text {request : DocumentIngestionRequest} {options : ChunkingOptions}
    {createdAt : Int} {prepared : Prepared} {text : String}
    (encoded : request.content = Utf8.encode text)
    (ok : prepareSource request options createdAt = .ok prepared) :
    prepared.document.text = Utf8.unmarked text := by
  simp only [prepareSource, Outcome.bind_eq_ok, Outcome.pure_eq_ok] at ok
  obtain ⟨document, prepares, _, _, _, _, rfl⟩ := ok
  rw [prepareDocument, encoded] at prepares
  obtain ⟨parsed, parses, valid⟩ := Outcome.bind_eq_ok.mp prepares
  rw [← parsePlainText_encode parses]
  generalize checked : DocumentInput.validate _ = outcome at valid
  cases outcome <;> cases valid
  exact Chunking.DocumentInput.text_of_validate checked

theorem createRequest_content {payload : DocumentInput} {request : DocumentRequest}
    (routed : createRequest payload = .ok request) :
    request.source.content = Utf8.encode payload.text := by
  obtain ⟨ingestion, valid, rfl⟩ := Outcome.map_eq_ok.mp routed
  simp only [DocumentIngestionRequest.validate, Outcome.bind_eq_ok] at valid
  obtain ⟨_, _, _, _, valid⟩ := valid
  split at valid <;> cases valid
  rfl

theorem updateRequest_content {payload : DocumentInput} {request : DocumentRequest}
    {documentId : Uuid4} {expectedVersion : Nat}
    (routed : updateRequest payload documentId expectedVersion = .ok request) :
    request.source.content = Utf8.encode payload.text := by
  obtain ⟨update, valid, rfl⟩ := Outcome.map_eq_ok.mp routed
  simp only [DocumentUpdateRequest.validate, DocumentIngestionRequest.validate,
    Outcome.bind_eq_ok] at valid
  obtain ⟨_, ⟨_, _, _, _, source⟩, valid⟩ := valid
  split at source <;> cases source
  split at valid <;> cases valid
  rfl

end Crewos.Documents

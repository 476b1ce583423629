import Crewos.Documents.Contracts

/-! # Job payloads

What a job keeps of its request and options while it waits, and how an attempt
reads them back. Columns that hold a JSON dump are kept as the value that was
dumped. -/

namespace Crewos.Documents

open Foundation

/-! ## Writing -/

def sourceFields (request : DocumentIngestionRequest) : Dict :=
  [("title", .str request.title.value),
    ("source_ref", (request.sourceRef.map fun source => Json.str source.value).getD .null)]

def DocumentRequest.source : DocumentRequest → DocumentIngestionRequest
  | .ingestion request => request
  | .update request => request.toDocumentIngestionRequest

def DocumentRequest.targetFields : DocumentRequest → Dict
  | .ingestion _ => []
  | .update request =>
      [("document_id", .str request.documentId.text),
        ("expected_version", .int request.expectedVersion)]

def DocumentRequest.payload (request : DocumentRequest) : Dict :=
  Dict.sorted (sourceFields request.source ++ request.targetFields ++
    [("content_b64", .str (Base64.encode request.source.content))])

/-- The text whose digest identifies a submission. -/
def fingerprintText (operation : JobOperation) (payload : Dict) : String :=
  operation.text ++ ":" ++ Json.render Json.dense (.obj payload)

def ChunkingOptions.dump (options : ChunkingOptions) : Dict :=
  [("chunk_size", .int options.chunkSize), ("overlap", .int options.overlap)]

/-! ## Reading -/

def extraForbidden (allowed : List String) (data : Dict) : Except DocumentError Unit :=
  raiseWhen (∃ field ∈ data, field.1 ∉ allowed) .validationError

def strictText (data : Dict) (key : String) : Except DocumentError String :=
  match data.get? key with
  | some (.str text) => .ok text
  | _ => .error .validationError

def optionalText (data : Dict) (key : String) : Except DocumentError (Option String) :=
  match data.get? key with
  | some (.str text) => .ok (some text)
  | some .null | none => .ok none
  | _ => .error .validationError

/-- A strict integer; negative ones are below every bound. -/
def strictNat (data : Dict) (key : String) : Except DocumentError Nat :=
  match data.get? key with
  | some (.int (.ofNat value)) => .ok value
  | _ => .error .validationError

def defaultNat (data : Dict) (key : String) (default : Nat) : Except DocumentError Nat :=
  match data.get? key with
  | none => .ok default
  | some _ => strictNat data key

def uuidText (data : Dict) (key : String) : Except DocumentError Uuid4 :=
  match data.get? key with
  | some (.str text) =>
      match Uuid4.parse text with
      | some id => .ok id
      | none => .error .validationError
  | _ => .error .validationError

def readRequest (operation : JobOperation) (data : Dict) (content : List UInt8) :
    Except DocumentError DocumentRequest := do
  match operation with
  | .create =>
      extraForbidden ["title", "source_ref"] data
      let title ← strictText data "title"
      let sourceRef ← optionalText data "source_ref"
      return .ingestion (← DocumentIngestionRequest.validate content title sourceRef)
  | .update =>
      extraForbidden ["title", "source_ref", "document_id", "expected_version"] data
      let title ← strictText data "title"
      let sourceRef ← optionalText data "source_ref"
      let documentId ← uuidText data "document_id"
      let expectedVersion ← strictNat data "expected_version"
      return .update
        (← DocumentUpdateRequest.validate content title sourceRef documentId expectedVersion)

def ChunkingOptions.validate (data : Dict) : Except DocumentError ChunkingOptions := do
  extraForbidden ["chunk_size", "overlap"] data
  let chunkSize ← defaultNat data "chunk_size" 1000
  let overlap ← defaultNat data "overlap" 100
  if size : 1 ≤ chunkSize ∧ chunkSize ≤ 16384 then
    if smaller : overlap < chunkSize then
      return { chunkSize, overlap, size, smaller }
    else
      throw .validationError
  else
    throw .validationError

def readContent (payload : Dict) : Except DocumentError (List UInt8) :=
  match payload.get? "content_b64" with
  | some (.str text) =>
      match Base64.decode text with
      | some content => .ok content
      | none => .error .validationError
  | _ => .error .validationError

def corrupt (result : Except DocumentError α) (message : String) : Except DocumentError α :=
  match result with
  | .ok value => .ok value
  | .error _ => .error (.documentStorageCorruption message)

/-- The request and options of a stored job, `None` payloads included. -/
def readJob (operation : JobOperation) (payload : Option Dict) (options : Dict) :
    Except DocumentError (DocumentRequest × ChunkingOptions) :=
  corrupt (do
    let payload ← match payload with
      | some payload => pure payload
      | none => throw .typeError
    let content ← readContent payload
    let data := payload.filter fun field => field.1 ≠ "content_b64"
    let request ← readRequest operation data content
    let options ← ChunkingOptions.validate options
    return (request, options)) "Stored document job is invalid"

/-! ## Round trips -/

theorem DocumentIngestionRequest.validate_self (request : DocumentIngestionRequest) :
    DocumentIngestionRequest.validate request.content request.title.value
      (request.sourceRef.map TextField.value) = .ok request := by
  simp [DocumentIngestionRequest.validate, TextField.validate_value,
    TextField.validateOptional_value, request.size, pure, Except.pure]

theorem DocumentUpdateRequest.validate_self (request : DocumentUpdateRequest) :
    DocumentUpdateRequest.validate request.content request.title.value
      (request.sourceRef.map TextField.value) request.documentId request.expectedVersion =
        .ok request := by
  simp [DocumentUpdateRequest.validate, DocumentIngestionRequest.validate_self,
    request.positive, pure, Except.pure]

theorem ChunkingOptions.validate_dump (options : ChunkingOptions) :
    ChunkingOptions.validate options.dump = .ok options := by
  simp [ChunkingOptions.validate, ChunkingOptions.dump, extraForbidden, raiseWhen, defaultNat,
    strictNat, Dict.get?_cons, options.size, options.smaller, pure, Except.pure]

def DocumentRequest.operation : DocumentRequest → JobOperation
  | .ingestion _ => .create
  | .update _ => .update

def sourceRefField (request : DocumentIngestionRequest) : Json :=
  (request.sourceRef.map fun source => Json.str source.value).getD .null

theorem payload_ingestion (request : DocumentIngestionRequest) :
    DocumentRequest.payload (.ingestion request) =
      [("content_b64", .str (Base64.encode request.content)),
        ("source_ref", sourceRefField request), ("title", .str request.title.value)] := by
  cases source : request.sourceRef <;>
    simp +decide [DocumentRequest.payload, Dict.sorted, Json.sortFields, Json.sortKeys,
      sourceFields, DocumentRequest.source, DocumentRequest.targetFields, sourceRefField, source,
      List.insertionSort, List.orderedInsert]

theorem payload_update (request : DocumentUpdateRequest) :
    DocumentRequest.payload (.update request) =
      [("content_b64", .str (Base64.encode request.content)),
        ("document_id", .str request.documentId.text),
        ("expected_version", .int request.expectedVersion),
        ("source_ref", sourceRefField request.toDocumentIngestionRequest),
        ("title", .str request.title.value)] := by
  cases source : request.sourceRef <;>
    simp +decide [DocumentRequest.payload, Dict.sorted, Json.sortFields, Json.sortKeys,
      sourceFields, DocumentRequest.source, DocumentRequest.targetFields, sourceRefField, source,
      List.insertionSort, List.orderedInsert]

theorem optionalText_sourceRef (request : DocumentIngestionRequest) (data : Dict)
    (field : data.get? "source_ref" = some (sourceRefField request)) :
    optionalText data "source_ref" = .ok (request.sourceRef.map TextField.value) := by
  rw [optionalText, field, sourceRefField]
  cases request.sourceRef <;> rfl

theorem readRequest_ingestion (request : DocumentIngestionRequest) :
    readRequest .create
        [("source_ref", sourceRefField request), ("title", .str request.title.value)]
        request.content = .ok (.ingestion request) := by
  have sourceRef := optionalText_sourceRef request
    [("source_ref", sourceRefField request), ("title", .str request.title.value)] rfl
  simp [readRequest, extraForbidden, raiseWhen, strictText, Dict.get?_cons, sourceRef,
    DocumentIngestionRequest.validate_self, pure, Except.pure]

theorem readRequest_update (request : DocumentUpdateRequest) :
    readRequest .update
        [("document_id", .str request.documentId.text),
          ("expected_version", .int request.expectedVersion),
          ("source_ref", sourceRefField request.toDocumentIngestionRequest),
          ("title", .str request.title.value)]
        request.content = .ok (.update request) := by
  have sourceRef := optionalText_sourceRef request.toDocumentIngestionRequest
    [("document_id", .str request.documentId.text),
      ("expected_version", .int request.expectedVersion),
      ("source_ref", sourceRefField request.toDocumentIngestionRequest),
      ("title", .str request.title.value)] rfl
  simp [readRequest, extraForbidden, raiseWhen, strictText, strictNat, uuidText, Dict.get?_cons,
    sourceRef, Uuid4.parse_text, DocumentUpdateRequest.validate_self, pure,
    Except.pure]

theorem readJob_none (operation : JobOperation) (options : Dict) :
    readJob operation none options =
      .error (.documentStorageCorruption "Stored document job is invalid") := rfl

/-- An attempt reads back the request and the options that were submitted. -/
theorem readJob_payload (request : DocumentRequest) (options : ChunkingOptions) :
    readJob request.operation (some request.payload) options.dump = .ok (request, options) := by
  have read := ChunkingOptions.validate_dump options
  cases request with
  | ingestion request =>
      have content : readContent (DocumentRequest.payload (.ingestion request)) =
          .ok request.content := by
        simp [payload_ingestion, readContent, Dict.get?, Base64.decode_encode]
      rw [payload_ingestion] at content
      simp [readJob, content, payload_ingestion, DocumentRequest.operation,
        readRequest_ingestion, read, corrupt, pure, Except.pure]
  | update request =>
      have content : readContent (DocumentRequest.payload (.update request)) =
          .ok request.content := by
        simp [payload_update, readContent, Dict.get?, Base64.decode_encode]
      rw [payload_update] at content
      simp [readJob, content, payload_update, DocumentRequest.operation, readRequest_update, read,
        corrupt, pure, Except.pure]

end Crewos.Documents

import Crewos.Documents.Payload

/-! # Stored snapshots

The dump a version is stored under and how it is read back. An aware datetime is
kept as its number of microseconds since the epoch. -/

namespace Crewos.Documents

open Foundation

/-! ## Writing -/

def TextChunk.dump (chunk : TextChunk) : Dict :=
  [("index", .int chunk.index), ("text", .str chunk.text),
    ("start_char", .int chunk.startChar), ("end_char", .int chunk.endChar)]

def ChunkingResult.dump (result : ChunkingResult) : Dict :=
  [("schema_version", .int 1), ("strategy", .str result.strategy),
    ("options", .obj result.options.dump),
    ("chunks", .arr (result.chunks.map fun chunk => .obj chunk.dump))]

def DocumentInput.dump (input : DocumentInput) : Dict :=
  [("title", .str input.title), ("text", .str input.text),
    ("source_ref", (input.sourceRef.map Json.str).getD .null)]

/-- `model_dump_json` -/
def StoredDocumentVersion.dump (record : StoredDocumentVersion) : Dict :=
  [("document_id", .str record.documentId.text), ("tenant_id", .str record.tenantId),
    ("version", .int record.version), ("created_at", .int record.createdAt),
    ("document", .obj record.document.dump), ("chunking", .obj record.chunking.dump)]

/-! ## Reading -/

def nested (data : Dict) (key : String) : Except DocumentError Dict :=
  match data.get? key with
  | some (.obj fields) => .ok fields
  | _ => .error .validationError

def nestedItems (data : Dict) (key : String) : Except DocumentError (List Json) :=
  match data.get? key with
  | some (.arr items) => .ok items
  | _ => .error .validationError

/-- Every dump has the field, so its default is not taken. -/
def instant (data : Dict) (key : String) : Except DocumentError Int :=
  match data.get? key with
  | some (.int microseconds) => .ok microseconds
  | _ => .error .validationError

def TextChunk.read : Json → Except DocumentError TextChunk
  | .obj data => do
      extraForbidden ["index", "text", "start_char", "end_char"] data
      let index ← strictNat data "index"
      let text ← strictText data "text"
      let startChar ← strictNat data "start_char"
      let endChar ← strictNat data "end_char"
      return { index, text, startChar, endChar }
  | _ => .error .validationError

def ChunkingResult.read (data : Dict) : Except DocumentError ChunkingResult := do
  extraForbidden ["schema_version", "strategy", "options", "chunks"] data
  raiseWhen (data.getD "schema_version" (.int 1) ≠ .int 1) .validationError
  let strategy ← strictText data "strategy"
  let options ← ChunkingOptions.validate (← nested data "options")
  let chunks ← (← nestedItems data "chunks").mapM TextChunk.read
  return { strategy, options, chunks }

def DocumentInput.read (data : Dict) : Except DocumentError DocumentInput := do
  extraForbidden ["title", "text", "source_ref"] data
  let title ← strictText data "title"
  let text ← strictText data "text"
  let sourceRef ← optionalText data "source_ref"
  return { title, text, sourceRef }

/-- The types of the fields, without the checks of `validate`. -/
def StoredDocumentVersion.read (data : Dict) : Except DocumentError StoredDocumentVersion := do
  extraForbidden ["document_id", "tenant_id", "version", "created_at", "document", "chunking"]
    data
  let documentId ← uuidText data "document_id"
  let tenantId ← strictText data "tenant_id"
  let version ← strictNat data "version"
  let createdAt ← instant data "created_at"
  let document ← DocumentInput.read (← nested data "document")
  let chunking ← ChunkingResult.read (← nested data "chunking")
  return { documentId, tenantId, version, createdAt, document, chunking }

/-- `model_validate_json` -/
def StoredDocumentVersion.validateJson (data : Dict) :
    Except DocumentError StoredDocumentVersion := do
  let record ← StoredDocumentVersion.read data
  record.validate

/-! ## Round trips -/

theorem TextChunk.read_dump (chunk : TextChunk) : TextChunk.read (.obj chunk.dump) = .ok chunk := by
  simp [TextChunk.read, TextChunk.dump, extraForbidden, raiseWhen, strictNat, strictText,
    Dict.get?_cons, pure, Except.pure]

theorem TextChunk.mapM_read_dump (chunks : List TextChunk) :
    (chunks.map fun chunk => Json.obj chunk.dump).mapM TextChunk.read = .ok chunks := by
  induction chunks with
  | nil => rfl
  | cons chunk rest induction =>
      simp [List.mapM_cons, TextChunk.read_dump, induction, pure, Except.pure]

theorem ChunkingResult.read_dump (result : ChunkingResult) :
    ChunkingResult.read result.dump = .ok result := by
  have chunks := TextChunk.mapM_read_dump result.chunks
  have options := ChunkingOptions.validate_dump result.options
  simp [ChunkingResult.read, ChunkingResult.dump, extraForbidden, raiseWhen, strictText, nested,
    nestedItems, Dict.get?_cons, Dict.getD, chunks, options, pure, Except.pure]

theorem DocumentInput.read_dump (input : DocumentInput) :
    DocumentInput.read input.dump = .ok input := by
  rcases input with ⟨title, text, _ | sourceRef⟩ <;>
    simp [DocumentInput.read, DocumentInput.dump, extraForbidden, raiseWhen, strictText,
      optionalText, Dict.get?_cons, pure, Except.pure]

theorem StoredDocumentVersion.read_dump (record : StoredDocumentVersion) :
    StoredDocumentVersion.read record.dump = .ok record := by
  simp [StoredDocumentVersion.read, StoredDocumentVersion.dump, extraForbidden, raiseWhen,
    uuidText, strictText, strictNat, instant, nested, Dict.get?_cons, Uuid4.parse_text,
    DocumentInput.read_dump, ChunkingResult.read_dump, pure, Except.pure]

theorem StoredDocumentVersion.validateJson_dump (record : StoredDocumentVersion) :
    StoredDocumentVersion.validateJson record.dump = record.validate := by
  simp [StoredDocumentVersion.validateJson, StoredDocumentVersion.read_dump]

/-! ## Checked records -/

theorem DocumentInput.validate_idem {input checked : DocumentInput}
    (ok : input.validate = .ok checked) : checked.validate = .ok checked := by
  simp only [DocumentInput.validate, Outcome.bind_eq_ok, raiseWhen_eq_ok, Outcome.pure_eq_ok] at ok
  obtain ⟨title, _, sourceRef, _, _, size, _, blank, rfl⟩ := ok
  simp only [DocumentInput.validate, TextField.validate_value, TextField.validateOptional_value,
    raiseWhen_of_not _ size, raiseWhen_of_not _ blank]
  rfl

theorem StoredDocumentVersion.validate_idem {record checked : StoredDocumentVersion}
    (ok : record.validate = .ok checked) : checked.validate = .ok checked := by
  simp only [StoredDocumentVersion.validate, Outcome.bind_eq_ok, raiseWhen_eq_ok,
    Outcome.pure_eq_ok] at ok
  obtain ⟨_, tenant, _, version, document, input, _, chunking, _, chunks, covered, saved, _, whole,
    rfl⟩ := ok
  simp only [StoredDocumentVersion.validate, raiseWhen_of_not _ tenant,
    raiseWhen_of_not _ version, DocumentInput.validate_idem input, raiseWhen_of_not _ chunking,
    raiseWhen_of_not _ chunks, saved, raiseWhen_of_not _ whole, Outcome.ok_bind]
  rfl

end Crewos.Documents

import Crewos.Agent.Contracts
import Crewos.Foundation.Outcome

/-! # Decisions and evidence

What a model may propose, the passages a search returns, and the checks that
tie an answer to the passages a run has observed. Everything a checkpoint keeps
is read back as it was. -/

namespace Crewos.Agent

open Foundation

/-! ## Source references -/

@[ext]
structure SourceReference where
  documentId : Uuid4
  documentVersion : Nat
  chunkIndex : Nat
  positive : 1 ≤ documentVersion

namespace SourceReference

instance : DecidableEq SourceReference := fun left right =>
  decidable_of_iff (left.documentId = right.documentId ∧
    left.documentVersion = right.documentVersion ∧ left.chunkIndex = right.chunkIndex)
    SourceReference.ext_iff.symm

def dump (reference : SourceReference) : Json :=
  .obj [("document_id", .str reference.documentId.text),
    ("document_version", .int reference.documentVersion),
    ("chunk_index", .int reference.chunkIndex)]

def readVersion : Json → Option {version : Nat // 1 ≤ version}
  | .int (.ofNat value) => if positive : 1 ≤ value then some ⟨value, positive⟩ else none
  | _ => none

theorem positive_of (version : {version : Nat // 1 ≤ version}) : 1 ≤ version.1 := version.2

theorem readVersion_of {version : Nat} (positive : 1 ≤ version) :
    readVersion (.int version) = some ⟨version, positive⟩ := dif_pos positive

def validate (json : Json) : Option SourceReference := do
  let data ← Fields.object ["document_id", "document_version", "chunk_index"] json
  let documentId ← Fields.required data "document_id" Fields.uuid
  let version ← Fields.required data "document_version" readVersion
  let chunkIndex ← Fields.required data "chunk_index" (Fields.natural 0)
  return { documentId, documentVersion := version.1, chunkIndex,
           positive := positive_of version }

@[simp] theorem validate_dump (reference : SourceReference) :
    validate reference.dump = some reference := by
  rcases reference with ⟨documentId, documentVersion, chunkIndex, positive⟩
  simp [validate, dump, Fields.object, Fields.required, Dict.get?_cons,
    readVersion_of positive, Fields.natural_ofNat]

/-- The order in which a checkpoint lists references. -/
def before (left right : SourceReference) : Bool :=
  left.documentId.text < right.documentId.text ||
    (left.documentId.text == right.documentId.text &&
      (left.documentVersion < right.documentVersion ||
        (left.documentVersion == right.documentVersion && left.chunkIndex ≤ right.chunkIndex)))

end SourceReference

/-- Citations that passed `unique_citations`. -/
structure Citations (least : Nat) where
  references : List SourceReference
  bounds : least ≤ references.length ∧ references.length ≤ 20
  distinct : references.Nodup
  deriving DecidableEq

namespace Citations

variable {least : Nat}

def dump (citations : Citations least) : Json :=
  .arr (citations.references.map SourceReference.dump)

def read (least : Nat) (json : Json) : Option (Citations least) :=
  match Fields.items SourceReference.validate json with
  | some references =>
      if valid : (least ≤ references.length ∧ references.length ≤ 20) ∧ references.Nodup then
        some ⟨references, valid.1, valid.2⟩
      else none
  | none => none

@[simp] theorem read_dump (citations : Citations least) :
    read least citations.dump = some citations := by
  unfold read dump
  rw [Fields.items_map SourceReference.validate_dump]
  exact dif_pos ⟨citations.bounds, citations.distinct⟩

end Citations

/-! ## Answers -/

structure FinalAnswerDecision where
  answer : Stripped none
  citations : Citations 0
  deriving DecidableEq

structure AnsweredDocumentAnswer where
  answer : Stripped (some 8192)
  citations : Citations 1
  deriving DecidableEq

structure InsufficientEvidenceAnswer where
  explanation : Stripped (some 2048)
  deriving DecidableEq

inductive DocumentAnswer where
  | answered (answer : AnsweredDocumentAnswer)
  | insufficientEvidence (answer : InsufficientEvidenceAnswer)
  deriving DecidableEq

structure DocumentFinalAnswerDecision where
  result : DocumentAnswer
  deriving DecidableEq

/-- `AgentAnswer` -/
inductive AgentAnswer where
  | general (answer : FinalAnswerDecision)
  | document (answer : DocumentFinalAnswerDecision)
  deriving DecidableEq

def noCitations : Citations 0 := { references := [], bounds := by decide, distinct := by simp }

namespace FinalAnswerDecision

def dump (answer : FinalAnswerDecision) : Json :=
  .obj [("type", .str "final_answer"), ("answer", .str answer.answer.value),
    ("citations", answer.citations.dump)]

def read (data : Dict) : Option FinalAnswerDecision := do
  let _ ← Fields.object ["type", "answer", "citations"] (.obj data)
  let answer ← Fields.required data "answer" (Stripped.read none)
  let citations ← Fields.optional data "citations" noCitations (Citations.read 0)
  return { answer, citations }

end FinalAnswerDecision

namespace DocumentAnswer

def dump : DocumentAnswer → Json
  | .answered answer =>
      .obj [("outcome", .str "answered"), ("answer", .str answer.answer.value),
        ("citations", answer.citations.dump)]
  | .insufficientEvidence answer =>
      .obj [("outcome", .str "insufficient_evidence"),
        ("explanation", .str answer.explanation.value)]

def readAnswered (data : Dict) : Option DocumentAnswer := do
  let _ ← Fields.object ["outcome", "answer", "citations"] (.obj data)
  let answer ← Fields.required data "answer" (Stripped.read (some 8192))
  let citations ← Fields.required data "citations" (Citations.read 1)
  return .answered { answer, citations }

def readInsufficient (data : Dict) : Option DocumentAnswer := do
  let _ ← Fields.object ["outcome", "explanation"] (.obj data)
  let explanation ← Fields.required data "explanation" (Stripped.read (some 2048))
  return .insufficientEvidence { explanation }

/-- The outcome tells which of the two shapes is meant. -/
def validate : Json → Option DocumentAnswer
  | .obj data =>
      match Dict.get? data "outcome" with
      | some (.str "answered") => readAnswered data
      | some (.str "insufficient_evidence") => readInsufficient data
      | _ => none
  | _ => none

@[simp] theorem validate_dump (answer : DocumentAnswer) : validate answer.dump = some answer := by
  cases answer <;>
    simp [validate, dump, readAnswered, readInsufficient, Fields.object, Fields.required,
      Dict.get?_cons]

end DocumentAnswer

namespace DocumentFinalAnswerDecision

def dump (answer : DocumentFinalAnswerDecision) : Json :=
  .obj [("type", .str "document_answer"), ("result", answer.result.dump)]

def read (data : Dict) : Option DocumentFinalAnswerDecision := do
  let _ ← Fields.object ["type", "result"] (.obj data)
  let result ← Fields.required data "result" DocumentAnswer.validate
  return { result }

end DocumentFinalAnswerDecision

namespace AgentAnswer

def mode : AgentAnswer → AnswerMode
  | .general _ => .general
  | .document _ => .document

/-- `model_dump(mode="json")` -/
def dump : AgentAnswer → Json
  | .general answer => answer.dump
  | .document answer => answer.dump

def read : AnswerMode → Dict → Option AgentAnswer
  | .general, data =>
      match data.get? "type" with
      | some (.str "final_answer") => .general <$> FinalAnswerDecision.read data
      | _ => none
  | .document, data =>
      match data.get? "type" with
      | some (.str "document_answer") => .document <$> DocumentFinalAnswerDecision.read data
      | _ => none

/-- The answer adapter of a mode: only its own type of answer is accepted. -/
def validate (mode : AnswerMode) : Json → Option AgentAnswer
  | .obj data => read mode data
  | _ => none

theorem validate_dump (answer : AgentAnswer) : validate answer.mode answer.dump = some answer := by
  rcases answer with answer | answer <;>
    simp [validate, read, AgentAnswer.mode, AgentAnswer.dump, FinalAnswerDecision.dump,
      DocumentFinalAnswerDecision.dump, FinalAnswerDecision.read, DocumentFinalAnswerDecision.read,
      Fields.object, Fields.required, Fields.optional, Dict.get?_cons]

theorem mode_of_read {mode : AnswerMode} {data : Dict} {answer : AgentAnswer}
    (read : read mode data = some answer) : answer.mode = mode := by
  cases mode <;>
  · simp only [AgentAnswer.read] at read
    split at read
    · obtain ⟨value, _, rfl⟩ := Option.map_eq_some_iff.mp read
      rfl
    · cases read

theorem mode_of_validate {mode : AnswerMode} {json : Json} {answer : AgentAnswer}
    (valid : validate mode json = some answer) : answer.mode = mode := by
  cases json with
  | obj data => exact mode_of_read valid
  | _ => cases valid

end AgentAnswer

/-! ## Decisions -/

structure ToolCallDecision where
  name : Stripped none
  arguments : Dict
  deriving DecidableEq

namespace ToolCallDecision

def fields (decision : ToolCallDecision) : Dict :=
  [("type", .str "tool_call"), ("name", .str decision.name.value),
    ("arguments", .obj decision.arguments)]

def dump (decision : ToolCallDecision) : Json := .obj decision.fields

def read (data : Dict) : Option ToolCallDecision := do
  let _ ← Fields.object ["type", "name", "arguments"] (.obj data)
  let name ← Fields.required data "name" (Stripped.read none)
  let arguments ← Fields.required data "arguments" Fields.dictionary
  return { name, arguments }

end ToolCallDecision

/-- `ModelDecision`, or in document mode `DocumentModelDecision`. -/
inductive ModelDecision where
  | toolCall (decision : ToolCallDecision)
  | answer (proposal : AgentAnswer)
  deriving DecidableEq

namespace ModelDecision

def dump : ModelDecision → Json
  | .toolCall decision => decision.dump
  | .answer proposal => proposal.dump

/-- The decision adapter of a mode. The type tells which shape is meant. -/
def validate (mode : AnswerMode) : Json → Option ModelDecision
  | .obj data =>
      match Dict.get? data "type" with
      | some (.str "tool_call") => .toolCall <$> ToolCallDecision.read data
      | _ => .answer <$> AgentAnswer.read mode data
  | _ => none

theorem validate_toolCall (mode : AnswerMode) (decision : ToolCallDecision) :
    validate mode decision.dump = some (.toolCall decision) := by
  simp [validate, ToolCallDecision.dump, ToolCallDecision.fields, ToolCallDecision.read,
    Fields.object, Fields.required, Fields.dictionary, Dict.get?_cons]

theorem mode_of_validate {mode : AnswerMode} {json : Json} {answer : AgentAnswer}
    (valid : validate mode json = some (.answer answer)) : answer.mode = mode := by
  unfold validate at valid
  split at valid
  · split at valid
    · obtain ⟨_, _, impossible⟩ := Option.map_eq_some_iff.mp valid
      cases impossible
    · obtain ⟨value, read, same⟩ := Option.map_eq_some_iff.mp valid
      cases same
      exact AgentAnswer.mode_of_read read
  · cases valid

end ModelDecision

/-! ## Passages -/

@[ext]
structure RetrievedPassage where
  documentId : Uuid4
  documentVersion : Nat
  title : Stripped (some 256)
  sourceRef : Option (Stripped (some 2048))
  chunk : Documents.TextChunk
  positive : 1 ≤ documentVersion
  valid : chunk.valid = true

instance : DecidableEq RetrievedPassage := fun left right =>
  decidable_of_iff (left.documentId = right.documentId ∧
    left.documentVersion = right.documentVersion ∧ left.title = right.title ∧
    left.sourceRef = right.sourceRef ∧ left.chunk = right.chunk) RetrievedPassage.ext_iff.symm

/-- `source_key` -/
def sourceKey (passage : RetrievedPassage) : SourceReference :=
  { documentId := passage.documentId, documentVersion := passage.documentVersion,
    chunkIndex := passage.chunk.index, positive := passage.positive }

namespace RetrievedPassage

def dumpChunk (chunk : Documents.TextChunk) : Json :=
  .obj [("index", .int chunk.index), ("text", .str chunk.text),
    ("start_char", .int chunk.startChar), ("end_char", .int chunk.endChar)]

def dump (passage : RetrievedPassage) : Json :=
  .obj [("document_id", .str passage.documentId.text),
    ("document_version", .int passage.documentVersion), ("title", .str passage.title.value),
    ("source_ref", (passage.sourceRef.map fun source => Json.str source.value).getD .null),
    ("chunk", dumpChunk passage.chunk)]

def readSourceRef : Json → Option (Option (Stripped (some 2048)))
  | .null => some none
  | json => some <$> Stripped.read (some 2048) json

def readChunk (json : Json) : Option {chunk : Documents.TextChunk // chunk.valid = true} := do
  let data ← Fields.object ["index", "text", "start_char", "end_char"] json
  let index ← Fields.required data "index" (Fields.natural 0)
  let text ← Fields.required data "text" Fields.text
  let startChar ← Fields.required data "start_char" (Fields.natural 0)
  let endChar ← Fields.required data "end_char" (Fields.natural 0)
  let chunk : Documents.TextChunk := { index, text, startChar, endChar }
  if valid : chunk.valid = true then some ⟨chunk, valid⟩ else none

def validate (json : Json) : Option RetrievedPassage := do
  let data ← Fields.object
    ["document_id", "document_version", "title", "source_ref", "chunk"] json
  let documentId ← Fields.required data "document_id" Fields.uuid
  let version ← Fields.required data "document_version" SourceReference.readVersion
  let title ← Fields.required data "title" (Stripped.read (some 256))
  let sourceRef ← Fields.optional data "source_ref" none readSourceRef
  let chunk ← Fields.required data "chunk" readChunk
  return { documentId, documentVersion := version.1, title, sourceRef, chunk := chunk.1,
           positive := SourceReference.positive_of version, valid := chunk.2 }

theorem readChunk_dump {chunk : Documents.TextChunk} (valid : chunk.valid = true) :
    readChunk (dumpChunk chunk) = some ⟨chunk, valid⟩ := by
  simp [readChunk, dumpChunk, Fields.object, Fields.required, Fields.text,
    Dict.get?_cons, Fields.natural_ofNat, valid]

theorem readSourceRef_dump (sourceRef : Option (Stripped (some 2048))) :
    readSourceRef ((sourceRef.map fun source => Json.str source.value).getD .null) =
      some sourceRef := by
  cases sourceRef <;> simp [readSourceRef]

@[simp] theorem validate_dump (passage : RetrievedPassage) :
    validate passage.dump = some passage := by
  rcases passage with ⟨documentId, documentVersion, title, sourceRef, chunk, positive, valid⟩
  simp [validate, dump, Fields.object, Fields.required, Fields.optional, Dict.get?_cons,
    SourceReference.readVersion_of positive, readSourceRef_dump, readChunk_dump valid]

end RetrievedPassage

/-- `RetrievalResult`; its passages have distinct source identities. -/
structure RetrievalResult where
  strategy : String
  passages : List RetrievedPassage
  bound : passages.length ≤ 20
  distinct : (passages.map sourceKey).Nodup
  deriving DecidableEq

def RetrievalResult.dump (result : RetrievalResult) : Json :=
  .obj [("strategy", .str result.strategy),
    ("passages", .arr (result.passages.map RetrievedPassage.dump))]

/-! ## Checks -/

/-- `validate_answer_citations` -/
def validateAnswerCitations (citations observed : List SourceReference) : Except Exc Unit :=
  raiseWhen (∃ reference ∈ citations, reference ∉ observed)
    (.unobservedCitationError "Answer cites a source not observed by this run")

/-- `validate_document_answer` -/
def validateDocumentAnswer (answer : DocumentFinalAnswerDecision)
    (observed : List SourceReference) (searchCompleted : Bool) : Except Exc Unit := do
  raiseWhen (searchCompleted = false)
    (.documentAnswerError "A successful document search is required before answering")
  match answer.result with
  | .answered answer => validateAnswerCitations answer.citations.references observed
  | .insufficientEvidence _ => return ()

end Crewos.Agent

import Crewos.Documents.Histories

/-! # The document processing coordinator

The records the coordinator assembles around the store, and the histories in
which every direct write to a document goes through it. Preparation and chunking
happen outside the store; whatever they return is allowed here. -/

namespace Crewos.Documents

open Foundation

structure Prepared where
  document : DocumentInput
  chunking : ChunkingResult
  createdAt : Int

namespace DocumentProcessingCoordinator

/-- The record `_prepare_and_store` hands to the store. -/
def prepareAndStore (prepared : Prepared) (tenantId : String) (documentId : Uuid4)
    (version : Nat) : Except DocumentError StoredDocumentVersion :=
  StoredDocumentVersion.validate
    { documentId, tenantId, version, createdAt := prepared.createdAt
      document := prepared.document, chunking := prepared.chunking }

def process (prepared : Prepared) (tenantId : String) (documentId : Uuid4) :
    Except DocumentError StoredDocumentVersion :=
  prepareAndStore prepared tenantId documentId 1

def update (request : DocumentUpdateRequest) (latest : StoredDocumentVersion)
    (prepared : Prepared) (tenantId : String) :
    Except DocumentError StoredDocumentVersion := do
  raiseWhen (latest.version ≠ request.expectedVersion)
    (.documentVersionConflict "Document has changed since the expected revision")
  prepareAndStore prepared tenantId request.documentId (request.expectedVersion + 1)

variable {prepared : Prepared} {tenantId : String} {record : StoredDocumentVersion}

theorem process_ok {documentId : Uuid4} (ok : process prepared tenantId documentId = .ok record) :
    record.tenantId = tenantId ∧ record.documentId = documentId ∧ record.version = 1 :=
  SQLiteDocumentStore.validate_identity ok

theorem update_ok {request : DocumentUpdateRequest} {latest : StoredDocumentVersion}
    (ok : update request latest prepared tenantId = .ok record) :
    record.documentId = request.documentId ∧ record.version = request.expectedVersion + 1 := by
  simp only [update, Outcome.bind_eq_ok, raiseWhen_eq_ok] at ok
  obtain ⟨_, _, stored⟩ := ok
  exact (SQLiteDocumentStore.validate_identity stored).2

end DocumentProcessingCoordinator

/-! ## Histories through the coordinator -/

/-- The document identifier a call draws: a create job's, or the one of a first
version that is stored directly. -/
def Operation.drawn : Operation → Option Uuid4
  | .submitJob _ _ .create _ _ documentId _ => some documentId
  | .createVersion record => if record.version = 1 then some record.documentId else none
  | _ => none

def drawnIds (past : List Transition) : List Uuid4 :=
  past.filterMap fun transition => transition.call.operation.drawn

/-- A call a client makes after `past`: drawn identifiers are fresh, and direct
writes come from the coordinator. -/
inductive Permitted (past : List Transition) : Operation → Prop
  | submitCreate {tenantId raw options key documentId jobId}
      (fresh : documentId ∉ drawnIds past) :
      Permitted past (.submitJob tenantId raw .create options key documentId jobId)
  | submitUpdate {tenantId raw options key documentId jobId} :
      Permitted past (.submitJob tenantId raw .update options key documentId jobId)
  | process {prepared tenantId documentId record} (fresh : documentId ∉ drawnIds past)
      (assembled : DocumentProcessingCoordinator.process prepared tenantId documentId =
        .ok record) :
      Permitted past (.createVersion record)
  | update {request latest prepared tenantId record}
      (read : ∃ transition ∈ past,
        transition.call.operation = .get tenantId request.documentId none ∧
          transition.reply = .ok (.record latest))
      (assembled : DocumentProcessingCoordinator.update request latest prepared tenantId =
        .ok record) :
      Permitted past (.createVersion record)
  | getJob {jobId tenantId} : Permitted past (.getJob jobId tenantId)
  | claimJob {jobId tenantId token} : Permitted past (.claimJob jobId tenantId token)
  | commitJob {claim record} : Permitted past (.commitJob claim record)
  | failJob {claim errorCode} : Permitted past (.failJob claim errorCode)
  | retryJob {jobId tenantId} : Permitted past (.retryJob jobId tenantId)
  | markJobPublished {jobId tenantId} : Permitted past (.markJobPublished jobId tenantId)
  | get {tenantId documentId version} : Permitted past (.get tenantId documentId version)
  | delete {tenantId documentId} : Permitted past (.delete tenantId documentId)

/-- Every call of the trace was permitted when it was made. -/
def Disciplined (trace : List Transition) : Prop :=
  ∀ past transition rest, trace = past ++ transition :: rest →
    Permitted past transition.call.operation

theorem Disciplined.snoc {trace : List Transition} {transition : Transition}
    (disciplined : Disciplined (trace ++ [transition])) :
    Disciplined trace ∧ Permitted trace transition.call.operation := by
  refine ⟨?_, disciplined trace transition [] rfl⟩
  rintro past earlier rest rfl
  exact disciplined past earlier (rest ++ [transition]) (by simp)

theorem Disciplined.nil : Disciplined [] := by
  intro past transition rest empty
  simp at empty

theorem Disciplined.append {trace : List Transition} {transition : Transition}
    (disciplined : Disciplined trace) (permitted : Permitted trace transition.call.operation) :
    Disciplined (trace ++ [transition]) := by
  intro past other rest split
  rcases snoc_split split with ⟨rfl, rfl, rfl⟩ | ⟨front, rfl, rfl⟩
  · exact permitted
  · exact disciplined past other front rfl

theorem drawnIds_snoc {trace : List Transition} {transition : Transition} {documentId : Uuid4} :
    documentId ∈ drawnIds (trace ++ [transition]) ↔
      documentId ∈ drawnIds trace ∨ transition.call.operation.drawn = some documentId := by
  simp [drawnIds, List.filterMap_append]

end Crewos.Documents

import Crewos.Documents.Chain
import Crewos.Documents.Preparation
import Crewos.Documents.RoundTrip

/-! # Stored texts

From the body of a route to the version that is read: the text is the submitted
one, except that the parser takes a marker in front of it for an encoding. -/

namespace Crewos.Documents

open Foundation SQLiteDocumentStore

/-! ## What a commit stores -/

/-- The routes make this request of an admitted body. -/
inductive Routed (payload : DocumentInput) (request : DocumentRequest) : Prop where
  | create (routed : createRequest payload = .ok request)
  | update {documentId : Uuid4} {expectedVersion : Nat}
      (routed : updateRequest payload documentId expectedVersion = .ok request)

theorem Routed.content {payload : DocumentInput} {request : DocumentRequest}
    (routed : Routed payload request) : request.source.content = Utf8.encode payload.text := by
  cases routed with
  | create routed => exact createRequest_content routed
  | update routed => exact updateRequest_content routed

theorem validate_text {record checked : StoredDocumentVersion}
    (valid : record.validate = .ok checked) : checked.document.text = record.document.text := by
  simp only [StoredDocumentVersion.validate, Outcome.bind_eq_ok, Outcome.pure_eq_ok] at valid
  obtain ⟨_, _, _, _, document, input, _, _, _, _, _, _, _, _, rfl⟩ := valid
  exact Chunking.DocumentInput.text_of_validate input

theorem validate_chunking {record checked : StoredDocumentVersion}
    (valid : record.validate = .ok checked) : checked.chunking = record.chunking := by
  simp only [StoredDocumentVersion.validate, Outcome.bind_eq_ok, Outcome.pure_eq_ok] at valid
  obtain ⟨_, _, _, _, document, input, _, _, _, _, _, _, _, _, rfl⟩ := valid
  rfl

theorem claimedRecord_text {claim : DocumentJobClaim} {record saved : StoredDocumentVersion}
    (ok : claimedRecord claim record = .ok saved) :
    saved.document.text = record.document.text := by
  simp only [claimedRecord, Outcome.bind_eq_ok] at ok
  obtain ⟨_, _, ok⟩ := ok
  split at ok
  · obtain ⟨_, _, valid⟩ := Outcome.bind_eq_ok.mp ok
    rw [validate_text valid]
  · obtain ⟨_, _, same⟩ := Outcome.bind_eq_ok.mp ok
    cases same
    rfl

theorem claimedRecord_chunking {claim : DocumentJobClaim} {record saved : StoredDocumentVersion}
    (ok : claimedRecord claim record = .ok saved) : saved.chunking = record.chunking := by
  simp only [claimedRecord, Outcome.bind_eq_ok] at ok
  obtain ⟨_, _, ok⟩ := ok
  split at ok
  · obtain ⟨_, _, valid⟩ := Outcome.bind_eq_ok.mp ok
    rw [validate_chunking valid]
  · obtain ⟨_, _, same⟩ := Outcome.bind_eq_ok.mp ok
    cases same
    rfl

theorem Processes.text {claim : DocumentJobClaim} {record : StoredDocumentVersion} {text : String}
    (processes : Processes claim record)
    (encoded : claim.request.source.content = Utf8.encode text) :
    record.document.text = Utf8.unmarked text := by
  obtain ⟨createdAt, prepared, prepares, assembled⟩ := processes
  rw [← prepareSource_text encoded prepares]
  split at assembled
  · obtain ⟨_, valid⟩ := assembled
    exact validate_text valid
  · exact validate_text assembled

/-- What `build_character_chunking` makes of the text. -/
def Chunked (text : String) (options : ChunkingOptions) (chunking : ChunkingResult) : Prop :=
  ∃ source, chunkingRequest text options = .ok source ∧
    characterChunking.chunk source = .ok chunking

theorem Processes.chunked {claim : DocumentJobClaim} {record : StoredDocumentVersion}
    (processes : Processes claim record) :
    Chunked record.document.text claim.options record.chunking := by
  obtain ⟨createdAt, prepared, prepares, assembled⟩ := processes
  have valid : record.document.text = prepared.document.text ∧
      record.chunking = prepared.chunking := by
    split at assembled
    · obtain ⟨_, valid⟩ := assembled
      exact ⟨validate_text valid, validate_chunking valid⟩
    · exact ⟨validate_text assembled, validate_chunking assembled⟩
  rw [valid.1, valid.2]
  simp only [prepareSource, Outcome.bind_eq_ok, Outcome.pure_eq_ok] at prepares
  obtain ⟨document, _, source, request, chunking, chunks, rfl⟩ := prepares
  refine ⟨source, request, ?_⟩
  cases made : characterChunking.chunk source with
  | error error =>
      rw [made] at chunks
      cases chunks
  | ok result =>
      rw [made] at chunks
      cases chunks
      rfl

/-- Chunks are the text between their offsets. -/
def ChunkedText (text : String) (chunks : List TextChunk) : Prop := ∀ chunk ∈ chunks,
  chunk.text.toList = Chunking.slice text.toList chunk.startChar chunk.endChar

theorem chunkedText_of_valid {saved : StoredDocumentVersion} (valid : saved.validate = .ok saved) :
    ChunkedText saved.document.text saved.chunking.chunks := by
  have checks := valid
  simp only [StoredDocumentVersion.validate, Outcome.bind_eq_ok] at checks
  obtain ⟨_, _, _, _, document, input, _, _, _, _, covered, covers, _⟩ := checks
  have chained := Chunking.savedChunks_ok.mp covers
  rw [Chunking.DocumentInput.text_of_validate input] at chained
  exact chained.source_of_mem

/-! ## From the body to the version -/

/-- An attempt at a job that a route submitted commits the submitted text without
a marker in front of it; that is the submitted text exactly when it does not begin
with one. Until the document is deleted the version reads back with it, and the
offsets of its chunks refer to it. -/
theorem stored_text_of_submission {first last : DocumentState}
    {past between rest : List Transition} {submission claiming committing : Transition}
    {payload : DocumentInput} {request : DocumentRequest} {form : SubmissionForm}
    {claim : DocumentJobClaim} {record saved : StoredDocumentVersion}
    (initial : Initial first)
    (run : Run Step first (past ++ claiming :: (between ++ committing :: rest)) last)
    (routed : Routed payload request)
    (earlier : submission ∈ past) (submits : submission.Submits claim.job.jobId form)
    (fields : form.raw = request.raw) (claimed : claiming.reply = .ok (.claim (some claim)))
    (processes : Processes claim record)
    (commits : committing.call.operation = .commitJob claim record)
    (succeeds : committing.reply = .ok (.record saved)) :
    saved.document.text = Utf8.unmarked payload.text ∧
      (saved.document.text = payload.text ↔ ¬Utf8.Marked payload.text) ∧
      ChunkedText (Utf8.unmarked payload.text) saved.chunking.chunks ∧
      ((∀ deletion ∈ rest, ¬deletion.Deletes saved.tenantId saved.documentId) →
        SQLiteDocumentStore.get saved.tenantId saved.documentId (some saved.version) last.db =
          .ok (saved, last.db)) := by
  obtain ⟨_, handed⟩ := (claim_returns_submission initial run).1 claim claimed
  have same := (handed submission earlier form submits).2.1 request fields
  have appends : committing.Appends saved := ⟨.inl ⟨claim, record, commits⟩, succeeds⟩
  have split : past ++ claiming :: (between ++ committing :: rest) =
      (past ++ claiming :: between) ++ committing :: rest := by simp
  have reached := run
  rw [split] at reached
  obtain ⟨state, _, after⟩ := reached.split
  cases after with
  | cons step _ =>
      have reaches := step.reaches_of_appends appends
      have valid := reaches.valid
      rw [Transition.Reaches, commits] at reaches
      obtain ⟨checked, checks, target, _⟩ := reaches
      have text : saved.document.text = Utf8.unmarked payload.text := by
        rw [claimedRecord_text target, validate_text checks]
        exact processes.text (same ▸ routed.content)
      refine ⟨text, ?_, ?_, ?_⟩
      · rw [text]
        exact Utf8.unmarked_eq_iff payload.text
      · rw [← text]
        exact chunkedText_of_valid valid
      · intro spared
        refine (Chained.of_run initial run).get_exact ?_
        exact ⟨past ++ claiming :: between, committing, rest, split, appends, spared⟩

/-! A body whose text begins with the marker's character goes all the way. -/

namespace Sample

def payload : DocumentInput := { title := "Runbook", text := "\uFEFFhi", sourceRef := none }

def ingestion : DocumentIngestionRequest where
  content := Utf8.encode payload.text
  title := title
  sourceRef := none
  size := by decide +kernel

def body : DocumentRequest := .ingestion ingestion

def send : Call := .instant store 0 (.submitJob "acme" body.raw .create default "key" document job)

def sent : DocumentState := start.next send

def take : Call := .instant store 1 (.claimJob job.text "acme" "token")

def taken : DocumentState := sent.next take

def handed : DocumentJobClaim := taken.issued.head (by decide +kernel)

def preparation : Prepared where
  document := { title := "Runbook", text := "hi", sourceRef := none }
  chunking := { strategy := "character_window_v1", options := default
                chunks := [{ index := 0, text := "hi", startChar := 0, endChar := 2 }] }
  createdAt := 0

def version : StoredDocumentVersion :=
  { documentId := document, tenantId := "acme", version := 1, createdAt := 0
    document := preparation.document, chunking := preparation.chunking }

def save : Call := .instant store 2 (.commitJob handed version)

def saved : DocumentState := taken.next save

theorem saved_run :
    Run Step start ([.of start.db send] ++ .of sent.db take :: ([] ++ [.of taken.db save]))
      saved := by
  have sends : Step start (.of start.db send) sent :=
    .of_call start send (by simp [send, Call.instant, Operation.presented])
  have takes : Step sent (.of sent.db take) taken :=
    .of_call sent take (by simp [take, Call.instant, Operation.presented])
  have saves : Step taken (.of taken.db save) saved := by
    refine .of_call taken save ?_
    simp [save, Call.instant, Operation.presented, handed]
  exact .cons sends (.cons takes (.single saves))

theorem routed : Routed payload body := .create (by decide +kernel)

theorem taken_claim : (Transition.of sent.db take).reply = .ok (.claim (some handed)) := by
  decide +kernel

theorem saved_version : (Transition.of taken.db save).reply = .ok (.record version) := by
  decide +kernel

theorem processes : Processes handed version := by
  have request : handed.request = body := by decide +kernel
  have parsed : parsePlainText 4000000 (Utf8.encode payload.text) = .ok "hi" := by
    rw [parsePlainText, Utf8.decodeSig_encode]
    decide +kernel
  refine ⟨0, preparation, ?_, ?_⟩
  · rw [request, show body.source = ingestion from rfl, prepareSource, prepareDocument,
      show ingestion.content = Utf8.encode payload.text from rfl, parsed,
      show handed.options = {} by decide +kernel]
    rfl
  · rw [request]
    exact ⟨document, by decide +kernel⟩

end Sample

open Sample in
/-- The stored text lacks the first character of the submitted one. -/
theorem stored_text_of_submission_marked : version.document.text = "hi" ∧
    version.document.text ≠ payload.text := by
  have submits : (Transition.of start.db send).Submits handed.job.jobId
      ⟨"acme", body.raw, .create, {}⟩ :=
    ⟨⟨"key", document, by
      rw [show handed.job.jobId = Sample.job by decide +kernel]
      rfl⟩, receipt, by decide +kernel⟩
  obtain ⟨text, same, _⟩ := stored_text_of_submission ⟨rfl, rfl⟩ saved_run routed
    List.mem_cons_self submits rfl taken_claim processes rfl saved_version
  exact ⟨text.trans (by decide +kernel), fun equal => same.mp equal (by decide +kernel)⟩

open Sample in
/-- A body was admitted and routed, its job succeeded, and the version that is
read has another text. -/
theorem marked_text_is_not_stored : payload.validate = .ok payload ∧ Routed payload body ∧
    Run Step start
      ([.of start.db send] ++ .of sent.db take :: ([] ++ [.of taken.db save])) saved ∧
    (Transition.of sent.db take).reply = .ok (.claim (some handed)) ∧ handed.request = body ∧
    Processes handed version ∧ (Transition.of taken.db save).reply = .ok (.record version) ∧
    SQLiteDocumentStore.get "acme" document (some 1) saved.db = .ok (version, saved.db) ∧
    version.document.text ≠ payload.text :=
  ⟨by decide +kernel, routed, saved_run, taken_claim, by decide +kernel, processes, saved_version,
    by decide +kernel, by decide +kernel⟩

end Crewos.Documents

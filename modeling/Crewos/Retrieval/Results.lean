import Crewos.Documents.Snapshot
import Crewos.Retrieval.Search

/-! # Search results

What the passages of a result are drawn from, and a result written as JSON and
read back. -/

namespace Crewos.Retrieval

open Foundation Documents

/-! ## Writing and reading -/

def RetrievedPassage.dump (passage : RetrievedPassage) : Dict :=
  [("document_id", .str passage.documentId.text),
    ("document_version", .int passage.documentVersion), ("title", .str passage.title),
    ("source_ref", (passage.sourceRef.map Json.str).getD .null),
    ("chunk", .obj passage.chunk.dump)]

/-- `model_dump_json` -/
def RetrievalResult.dump (result : RetrievalResult) : Dict :=
  [("strategy", .str result.strategy),
    ("passages", .arr (result.passages.map fun passage => .obj passage.dump))]

/-- An identifier that is read from a text may be of any variant. -/
def RetrievedPassage.read : Json → Except DocumentError RetrievedPassage
  | .obj data => do
      extraForbidden ["document_id", "document_version", "title", "source_ref", "chunk"] data
      let documentId ← uuidText data "document_id"
      let documentVersion ← strictNat data "document_version"
      raiseWhen (documentVersion < 1) .validationError
      let title ← TextField.validate 256 (← strictText data "title")
      let sourceRef ← TextField.validateOptional 2048 (← optionalText data "source_ref")
      let chunk ← TextChunk.read (.obj (← nested data "chunk"))
      raiseWhen (chunk.valid = false) .validationError
      return {
        documentId
        documentVersion
        title := title.value
        sourceRef := sourceRef.map TextField.value
        chunk }
  | _ => .error .validationError

/-- `model_validate_json` -/
def RetrievalResult.validateJson (data : Dict) : Except RetrievalError RetrievalResult := do
  checked (extraForbidden ["strategy", "passages"] data)
  let strategy ← checked (strictText data "strategy")
  let items ← checked (nestedItems data "passages")
  let passages ← checked (items.mapM RetrievedPassage.read)
  RetrievalResult.create strategy passages

/-! ## Created passages -/

variable {document : StoredDocumentVersion} {chunk : TextChunk} {passage : RetrievedPassage}

/-- What a passage is created of, and the checks that its fields passed. -/
structure RetrievedPassage.Created (document : StoredDocumentVersion) (chunk : TextChunk)
    (passage : RetrievedPassage) : Prop where
  random : document.documentId.rfcVariant = true
  version : 1 ≤ passage.documentVersion
  title : ∃ title : TextField 256, passage.title = title.value
  sourceRef : ∃ sourceRef : Option (TextField 2048),
    passage.sourceRef = sourceRef.map TextField.value
  chunk : passage.chunk = chunk

theorem RetrievedPassage.create_ok
    (created : RetrievedPassage.create document chunk = .ok passage) :
    passage.Created document chunk := by
  simp only [RetrievedPassage.create, Outcome.bind_eq_ok, raiseWhen_eq_ok,
    Outcome.pure_eq_ok] at created
  obtain ⟨_, random, _, version, title, _, sourceRef, _, rfl⟩ := created
  exact ⟨by simpa using random, not_lt.mp version, ⟨title, rfl⟩, ⟨sourceRef, rfl⟩, rfl⟩

theorem RetrievedPassage.create_of (checks : document.validate = .ok document)
    (created : RetrievedPassage.create document chunk = .ok passage) :
    passage = .of (document, chunk) := by
  have valid : Valid document := ⟨checks, (RetrievedPassage.create_ok created).random⟩
  rw [valid.create] at created
  exact (Except.ok.inj created).symm

theorem RetrievedPassage.Created.read_dump (created : passage.Created document chunk)
    (valid : chunk.valid = true) : RetrievedPassage.read (.obj passage.dump) = .ok passage := by
  obtain ⟨_, version, ⟨title, titled⟩, ⟨sourceRef, referred⟩, same⟩ := created
  rcases passage with ⟨documentId, documentVersion, _, _, _⟩
  cases titled
  cases referred
  cases same
  have positive : ¬documentVersion < 1 := not_lt.mpr version
  have reference : TextField.validateOptional 2048 (sourceRef.map TextField.value) =
      .ok sourceRef := TextField.validateOptional_value sourceRef
  cases sourceRef <;>
    simp_all [RetrievedPassage.read, RetrievedPassage.dump, extraForbidden, raiseWhen, uuidText,
      strictText, strictNat, optionalText, nested, Dict.get?_cons, Uuid4.parse_text,
      TextField.validate_value, TextChunk.read_dump, pure, Except.pure]

theorem chunk_valid (checks : document.validate = .ok document)
    (member : chunk ∈ document.chunking.chunks) : chunk.valid = true := by
  simp only [StoredDocumentVersion.validate, Outcome.bind_eq_ok, raiseWhen_eq_ok] at checks
  obtain ⟨_, _, _, _, _, _, _, valid, _⟩ := checks
  simp only [ChunkingResult.valid, Bool.not_eq_false, Bool.and_eq_true, List.all_eq_true]
    at valid
  exact valid.2 chunk member

/-! ## Drawn results -/

theorem forall₂_of_mapM {ε α β : Type} {transform : α → Except ε β} {items : List α}
    {values : List β} (mapped : items.mapM transform = .ok values) :
    List.Forall₂ (fun item value => transform item = .ok value) items values := by
  induction items generalizing values with
  | nil =>
      cases mapped
      exact .nil
  | cons item items induction =>
      simp only [List.mapM_cons, Outcome.bind_eq_ok, Outcome.pure_eq_ok] at mapped
      obtain ⟨value, first, rest, later, rfl⟩ := mapped
      exact .cons first (induction later)

theorem exists_of_forall₂ {α β : Type} {relation : α → β → Prop} {items : List α}
    {values : List β} (pairs : List.Forall₂ relation items values) {value : β}
    (member : value ∈ values) : ∃ item ∈ items, relation item value := by
  induction pairs with
  | nil => cases member
  | cons related _ induction =>
      rcases List.mem_cons.mp member with rfl | member
      · exact ⟨_, List.mem_cons_self, related⟩
      · obtain ⟨item, inside, related⟩ := induction member
        exact ⟨item, List.mem_cons_of_mem _ inside, related⟩

theorem RetrievalResult.create_fields {strategy : String} {passages : List RetrievedPassage}
    {result : RetrievalResult} (created : RetrievalResult.create strategy passages = .ok result) :
    result = { strategy, passages } ∧ (passages.map RetrievedPassage.identity).Nodup := by
  simp only [RetrievalResult.create, Outcome.bind_eq_ok, raiseWhen_eq_ok,
    Outcome.pure_eq_ok, not_not] at created
  obtain ⟨_, _, _, _, _, distinct, rfl⟩ := created
  exact ⟨rfl, distinct⟩

section

variable {Score : Type} [LinearOrder Score]

theorem answer_ok {strategy : String} {topK maxOutputChars : Nat}
    {candidates : List (Candidate Score)} {result : RetrievalResult}
    (answered : answer strategy topK maxOutputChars candidates = .ok result) :
    RetrievalResult.create result.strategy result.passages = .ok result ∧
      ∃ selected : List (Candidate Score), selected ⊆ candidates ∧ selected.length ≤ topK ∧
        outputChars selected ≤ maxOutputChars ∧
        List.Forall₂ (fun candidate passage =>
          RetrievedPassage.create candidate.document candidate.chunk = .ok passage)
          selected result.passages := by
  simp only [answer, Outcome.bind_eq_ok, raiseWhen_eq_ok, not_lt] at answered
  obtain ⟨_, fits, passages, made, created⟩ := answered
  obtain ⟨rfl, _⟩ := RetrievalResult.create_fields created
  exact ⟨created, _, fun _ member => (rank_perm _ _).subset (List.mem_of_mem_take member),
    List.length_take_le _ _, fits, forall₂_of_mapM made⟩

end

/-- A result of passages that the reader listed for the tenant. -/
structure Drawn (limits : RetrievalLimits) (reader : DocumentCorpusReader)
    (request : RetrievalRequest) (tenantId : String) (result : RetrievalResult) : Prop where
  created : RetrievalResult.create result.strategy result.passages = .ok result
  few : result.passages.length ≤ request.topK
  short : (result.passages.map fun passage => passage.chunk.text.length).sum ≤
    limits.maxOutputChars
  passages : ∀ passage ∈ result.passages, ∃ documents, Reads limits reader tenantId documents ∧
    ∃ document ∈ documents, document.tenantId = tenantId ∧
      ∃ chunk ∈ document.chunking.chunks, RetrievedPassage.create document chunk = .ok passage

theorem RetrievalLimits.reads_of_read {limits : RetrievalLimits} {reader : DocumentCorpusReader}
    {tenantId : String} {documents : List StoredDocumentVersion}
    (read : limits.read reader tenantId = .ok documents) :
    Reads limits reader tenantId documents := by
  unfold RetrievalLimits.read at read
  unfold Reads
  cases listed : reader.readLatestDocuments tenantId limits.maxDocuments
      limits.maxSnapshotBytes with
  | error error =>
      rw [listed] at read
      cases read
  | ok listing =>
      rw [listed] at read
      cases read
      rfl

theorem gather_ok {tenantId : String} {documents : List StoredDocumentVersion}
    {passages : List Passage} (gathered : gather tenantId documents = .ok passages) :
    (∀ document ∈ documents, document.tenantId = tenantId) ∧
      passages = passagesOf documents := by
  by_cases own : ∀ document ∈ documents, document.tenantId = tenantId
  · rw [gather_eq own] at gathered
    exact ⟨own, (Except.ok.inj gathered).symm⟩
  · push Not at own
    rw [gather_foreign own] at gathered
    cases gathered

section

variable {Score : Type} [LinearOrder Score] [Zero Score] {scoring : Scoring Score}
  {search : Search} {reader : DocumentCorpusReader} {request : RetrievalRequest}
  {tenantId : String} {result : RetrievalResult}

theorem Scoring.Runs.drawn (runs : scoring.Runs search)
    (found : search reader request tenantId = .ok result) :
    Drawn scoring.limits reader request tenantId result := by
  by_cases asks : scoring.asks request.query.value
  · rw [runs.reads asks] at found
    simp only [Outcome.bind_eq_ok] at found
    obtain ⟨documents, read, passages, gathered, answered⟩ := found
    obtain ⟨own, rfl⟩ := gather_ok gathered
    obtain ⟨created, selected, inside, few, short, made⟩ := answer_ok answered
    refine ⟨created, made.length_eq ▸ few, ?_, fun passage member => ?_⟩
    · have lengths : List.Forall₂ (fun candidate passage =>
          (Candidate.chunk candidate).text.length =
            (RetrievedPassage.chunk passage).text.length) selected result.passages :=
        made.imp fun _ _ create => by rw [(RetrievedPassage.create_ok create).chunk]
      have same : (selected.map fun candidate => candidate.chunk.text.length) =
          result.passages.map fun passage => passage.chunk.text.length := by
        rw [← List.forall₂_eq_eq_eq]
        exact List.forall₂_map_left_iff.mpr (List.forall₂_map_right_iff.mpr lengths)
      rw [← same]
      exact short
    · obtain ⟨candidate, chosen, create⟩ := exists_of_forall₂ made member
      obtain ⟨listed, _⟩ := mem_positives.mp (inside chosen)
      obtain ⟨document, documentMember, listed⟩ := List.mem_flatMap.mp listed
      obtain ⟨chunk, chunkMember, same⟩ := List.mem_map.mp listed
      cases same
      exact ⟨documents, RetrievalLimits.reads_of_read read, candidate.document, documentMember,
        own _ documentMember, candidate.chunk, chunkMember, create⟩
  · rw [runs.silent asks] at found
    cases found
    exact ⟨by simp [RetrievalResult.create, raiseWhen, scoring.named, pure, Except.pure],
      by simp, by simp, by simp⟩

/-- A result of checked documents is read back as it was written. -/
theorem Drawn.validateJson_dump {limits : RetrievalLimits}
    (drawn : Drawn limits reader request tenantId result)
    (checks : ∀ documents, Reads limits reader tenantId documents →
      ∀ document ∈ documents, document.validate = .ok document) :
    RetrievalResult.validateJson result.dump = .ok result := by
  have each : ∀ passage ∈ result.passages,
      RetrievedPassage.read (.obj passage.dump) = .ok passage := by
    intro passage member
    obtain ⟨documents, reads, document, inside, _, chunk, listed, create⟩ :=
      drawn.passages passage member
    exact (RetrievedPassage.create_ok create).read_dump
      (chunk_valid (checks documents reads document inside) listed)
  have items : (result.passages.map fun passage => Json.obj passage.dump).mapM
      RetrievedPassage.read = .ok result.passages := by
    have read : result.passages.mapM (RetrievedPassage.read ∘ fun passage => .obj passage.dump) =
        .ok (result.passages.map id) := Outcome.mapM_of_ok each
    rw [List.mapM_map, read, List.map_id]
  have passed := drawn.created
  simp [RetrievalResult.validateJson, RetrievalResult.dump, extraForbidden, raiseWhen, strictText,
    nestedItems, Dict.get?_cons, checked, Except.mapError, items, passed]

end

end Crewos.Retrieval

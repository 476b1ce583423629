import Crewos.Api.Provenance
import Crewos.Documents.Corpus
import Crewos.Foundation.Interpretation
import Crewos.Retrieval.Results

/-! # Document search

The facade in front of a search strategy, and the tool that an agent searches with.
What the tool returns goes back to submitted documents of the tenant. -/

namespace Crewos.DocumentSearch

open Foundation Documents Api Retrieval DocumentService

/-! ## The tool -/

inductive SearchError where
  | retrieval (error : RetrievalError)
  | policyDenied (decision : PolicyDecision)
  | policyEvaluationError
  | exception
  | baseException

def SearchError.isException : SearchError → Bool
  | .baseException => false
  | _ => true

/-- What a facade asks for: a log line, and the answer of its strategy. -/
inductive Inquiry where
  | log
  | search (request : RetrievalRequest) (tenantId : String)

abbrev Findings : Inquiry → Type
  | .log => Except SearchError Unit
  | .search .. => Except SearchError RetrievalResult

abbrev Searching := Exec Findings SearchError Unit

def log : Searching Unit := do
  Exec.ofExcept (← Exec.ask .log)

def executor : PolicyEnforcedExecutor Findings SearchError where
  evaluate context action := pure (permissionPolicy context action)
  log := log
  isException := SearchError.isException
  policyDenied := .policyDenied
  policyEvaluation := .policyEvaluationError

namespace RetrievalFacade

def answered (request : RetrievalRequest) (tenantId : String) : Searching RetrievalResult := do
  let result ← Exec.ofExcept (← Exec.ask (.search request tenantId))
  let result ← Exec.ofExcept ((RetrievalResult.validateJson result.dump).mapError .retrieval)
  Exec.raiseIf (request.topK < result.passages.length)
    (.retrieval (.retrievalResultError "Retriever exceeded the requested passage limit"))
  return result

/-- `_search`. A request carries its checks, so that it passes them again. -/
def searchTenant (request : RetrievalRequest) (tenantId : String) : Searching RetrievalResult := do
  log
  let result ← tryCatch (answered request tenantId) fun error =>
    if error.isException then do
      log
      throw error
    else throw error
  log
  return result

def search (request : RetrievalRequest) (context : ToolExecutionContext) :
    Searching RetrievalResult :=
  executor.execute context "document.search"
    (executor.execute context "document.read" (searchTenant request context.tenantId))

end RetrievalFacade

/-- `SearchDocumentsHandler.execute`; `encodedBytes` is the length of the encoded
result. -/
def searchDocuments (encodedBytes : Dict → Nat) (request : RetrievalRequest)
    (context : ToolExecutionContext) : Searching RetrievalResult := do
  let result ← RetrievalFacade.search request context
  Exec.raiseIf (32000 < encodedBytes result.dump)
    (.retrieval (.retrievalCapacityExceeded "Search observation exceeds serialized byte limit"))
  return result

/-- `ConfiguredDocumentCorpusReader`, over what the database holds when it is read. -/
def configuredDocumentCorpusReader (snapshotBytes : Dict → Nat) (db : DocumentDb) :
    DocumentCorpusReader where
  readLatestDocuments tenantId maxDocuments maxSnapshotBytes :=
    SQLiteDocumentStore.readLatestDocuments snapshotBytes tenantId maxDocuments maxSnapshotBytes db

/-! ## Its surroundings -/

def Allows (context : ToolExecutionContext) (action : String) : Prop :=
  ∃ permission ∈ context.permissions, permission.value = action

instance (context : ToolExecutionContext) (action : String) : Decidable (Allows context action) :=
  inferInstanceAs (Decidable (∃ permission ∈ context.permissions, permission.value = action))

/-- A strategy is asked only for this request, with both grants, and what it answers
it computed of this reader; reliable surroundings fail in no other way. -/
def searching (reliable : Prop) (strategy : Search) (reader : DocumentCorpusReader)
    (request : RetrievalRequest) (context : ToolExecutionContext) : Monitor Findings Blank where
  permits _ inquiry :=
    match inquiry with
    | .log => True
    | .search asked tenantId => asked = request ∧ tenantId = context.tenantId ∧
        Allows context "document.search" ∧ Allows context "document.read"
  admits _ inquiry reply :=
    match inquiry, reply with
    | .log, reply => reliable → reply = .ok ()
    | .search asked tenantId, reply =>
        (∀ result, reply = .ok result → strategy reader asked tenantId = .ok result) ∧
          (reliable → reply = (strategy reader asked tenantId).mapError .retrieval)
  advance _ _ _ := {}

/-- What the tool answers in reliable surroundings. -/
def delivered (encodedBytes : Dict → Nat) (strategy : Search) (reader : DocumentCorpusReader)
    (request : RetrievalRequest) (context : ToolExecutionContext) :
    Except SearchError RetrievalResult :=
  if Allows context "document.search" ∧ Allows context "document.read" then do
    let result ← (strategy reader request context.tenantId).mapError .retrieval
    raiseWhen (32000 < encodedBytes result.dump)
      (.retrieval (.retrievalCapacityExceeded "Search observation exceeds serialized byte limit"))
    return result
  else
    .error (.policyDenied
      { effect := .deny, reasonCode := "permission_missing", policyVersion := "1" })

section Tool

variable {reliable : Prop} {strategy : Search} {reader : DocumentCorpusReader}
  {request : RetrievalRequest} {context : ToolExecutionContext} {raises : SearchError → Prop}
  {known : Blank}

def Accepts (strategy : Search) (reader : DocumentCorpusReader) (request : RetrievalRequest)
    (tenantId : String) : Prop :=
  ∀ result, strategy reader request tenantId = .ok result →
    RetrievalResult.validateJson result.dump = .ok result ∧
      result.passages.length ≤ request.topK

theorem learns_log (outside : ∀ error, ¬reliable → raises error) :
    Exec.Learns (searching reliable strategy reader request context) raises known log
      fun _ _ => True := by
  have asks : Exec.Learns (searching reliable strategy reader request context) raises known
      (Exec.ask Inquiry.log : Searching (Findings Inquiry.log))
      fun reply _ => reliable → reply = .ok () :=
    .ask trivial (fun _ => trivial) fun _ admitted => admitted
  refine asks.bind fun reply later _ calm => .ofExcept (fun _ _ => trivial) fun error failed => ?_
  refine outside error fun reliably => ?_
  rw [calm reliably] at failed
  cases failed

section Answers

variable (accepts : Accepts strategy reader request context.tenantId)
  (granted : Allows context "document.search" ∧ Allows context "document.read")
  (outside : ∀ error, ¬reliable → raises error)
  (fails : ∀ error, strategy reader request context.tenantId = .error error →
    raises (.retrieval error))

include accepts granted outside fails

theorem learns_answered :
    Exec.Learns (searching reliable strategy reader request context) raises known
      (RetrievalFacade.answered request context.tenantId)
      fun result _ => strategy reader request context.tenantId = .ok result := by
  have asks : Exec.Learns (searching reliable strategy reader request context) raises known
      (Exec.ask (Inquiry.search request context.tenantId) :
        Searching (Findings (Inquiry.search request context.tenantId)))
      fun reply _ =>
        (∀ result, reply = .ok result → strategy reader request context.tenantId = .ok result) ∧
          (reliable → reply =
            (strategy reader request context.tenantId).mapError .retrieval) :=
    .ask ⟨rfl, rfl, granted⟩ (fun _ => trivial) fun _ admitted => admitted
  refine asks.bind ?_
  rintro reply later - ⟨sound, calm⟩
  have answers : Exec.Learns (searching reliable strategy reader request context) raises later
      (Exec.ofExcept reply : Searching RetrievalResult)
      fun result _ => strategy reader request context.tenantId = .ok result := by
    refine .ofExcept sound fun error failed => ?_
    by_cases reliably : reliable
    · rw [calm reliably] at failed
      cases answer : strategy reader request context.tenantId with
      | ok result =>
          rw [answer] at failed
          cases failed
      | error raised =>
          rw [answer] at failed
          cases failed
          exact fails raised answer
    · exact outside error reliably
  refine answers.bind fun result later _ found => ?_
  obtain ⟨same, few⟩ := accepts result found
  have rereads : Exec.Learns (searching reliable strategy reader request context) raises later
      (Exec.ofExcept ((RetrievalResult.validateJson result.dump).mapError .retrieval) :
        Searching RetrievalResult)
      fun read _ => read = result := by
    rw [same]
    exact .pure rfl
  refine rereads.bind ?_
  rintro _ later - rfl
  exact (Exec.Learns.raiseIf (fun _ => trivial) fun exceeded =>
    absurd few (not_le.mpr exceeded)).bind fun _ _ _ (_ : True) => .pure found

theorem learns_searchTenant :
    Exec.Learns (searching reliable strategy reader request context) raises known
      (RetrievalFacade.searchTenant request context.tenantId)
      fun result _ => strategy reader request context.tenantId = .ok result := by
  refine (learns_log outside).bind fun _ known _ _ => ?_
  have handles (error : SearchError) (later : Blank) (raised : raises error) :
      Exec.Learns (searching reliable strategy reader request context) raises later
        (if error.isException then do
          log
          throw error
        else throw error : Searching RetrievalResult)
        fun result _ => strategy reader request context.tenantId = .ok result :=
    .ite (fun _ => (learns_log outside).bind fun _ _ _ _ => .throw raised) fun _ => .throw raised
  have tries := (learns_answered accepts granted outside fails).tryCatch
    fun error later (_ : known ≤ later) raised => handles error later raised
  exact tries.bind fun result later _ found =>
    (learns_log outside).bind fun _ _ _ _ => .pure found

end Answers

theorem obeys_searchDocuments (encodedBytes : Dict → Nat)
    (accepts : Accepts strategy reader request context.tenantId) :
    (searching reliable strategy reader request context).Obeys
      (fun outcome _ =>
        (∀ result, outcome.1 = .ok result →
          strategy reader request context.tenantId = .ok result ∧
            encodedBytes result.dump ≤ 32000) ∧
        (reliable → outcome.1 = delivered encodedBytes strategy reader request context))
      ((searchDocuments encodedBytes request context).run ()) {} := by
  let answer := delivered encodedBytes strategy reader request context
  have outside : ∀ error, ¬reliable → reliable → answer = .error error :=
    fun _ unreliable reliably => absurd reliably unreliable
  have denied (action : String) (missing : ¬Allows context action)
      (needed : action = "document.search" ∨ action = "document.read") :
      answer = .error (.policyDenied (permissionPolicy context action)) := by
    have refused : ¬(Allows context "document.search" ∧ Allows context "document.read") := by
      rintro ⟨search, read⟩
      rcases needed with rfl | rfl
      · exact missing search
      · exact missing read
    have refusal : permissionPolicy context action =
        { effect := .deny, reasonCode := "permission_missing", policyVersion := "1" } :=
      if_neg missing
    rw [refusal]
    exact if_neg refused
  have searches : Exec.Learns (searching reliable strategy reader request context)
      (fun error => reliable → answer = .error error) {} (RetrievalFacade.search request context)
      fun result _ => strategy reader request context.tenantId = .ok result ∧
        Allows context "document.search" ∧ Allows context "document.read" := by
    refine PolicyEnforcedExecutor.learns_execute (fun _ _ => rfl) (learns_log outside)
      (fun missing _ => denied _ (permissionPolicy_allow.not.mp missing) (.inl rfl))
      fun search _ _ => ?_
    refine PolicyEnforcedExecutor.learns_execute (fun _ _ => rfl) (learns_log outside)
      (fun missing _ => denied _ (permissionPolicy_allow.not.mp missing) (.inr rfl))
      fun read _ _ => ?_
    refine (learns_searchTenant accepts ⟨search, read⟩ outside fun error failed _ => ?_).mono
      fun _ _ _ found => ⟨found, search, read⟩
    show delivered encodedBytes strategy reader request context = _
    rw [delivered, if_pos ⟨search, read⟩, failed]
    rfl
  have whole : Exec.Learns (searching reliable strategy reader request context)
      (fun error => reliable → answer = .error error) {}
      (searchDocuments encodedBytes request context)
      fun result _ => strategy reader request context.tenantId = .ok result ∧
        encodedBytes result.dump ≤ 32000 ∧ answer = .ok result := by
    refine searches.bind ?_
    rintro result later - ⟨found, granted⟩
    have opened : answer = do
        raiseWhen (32000 < encodedBytes result.dump) (.retrieval
          (.retrievalCapacityExceeded "Search observation exceeds serialized byte limit"))
        return result := by
      show delivered encodedBytes strategy reader request context = _
      rw [delivered, if_pos granted, found]
      rfl
    have limits : Exec.Learns (searching reliable strategy reader request context)
        (fun error => reliable → answer = .error error) later
        (Exec.raiseIf (32000 < encodedBytes result.dump) (.retrieval
          (.retrievalCapacityExceeded "Search observation exceeds serialized byte limit")) :
          Searching Unit)
        fun _ _ => ¬32000 < encodedBytes result.dump :=
      .raiseIf id fun exceeded _ => by
        rw [opened, raiseWhen_of _ exceeded]
        rfl
    refine limits.bind fun _ _ _ fits => .pure ⟨found, not_lt.mp fits, ?_⟩
    rw [opened, raiseWhen_of_not _ fits]
    rfl
  refine whole.obeys () (fun value _ _ ends => ⟨?_, fun _ => ends.2.2.symm⟩)
    fun error _ _ failed => ⟨?_, fun reliably => (failed reliably).symm⟩
  · intro result returned
    cases returned
    exact ⟨ends.1, ends.2.1⟩
  · intro result returned
    cases returned

end Tool

/-! ## Over the document service -/

/-- A passage of a stored version, of the text that an authenticated request of the
tenant submitted. -/
structure Evidenced (settings : TenantSettings) (history : List DocumentService.Entry)
    (db : DocumentDb) (tenantId : String) (passage : RetrievedPassage)
    (saved : StoredDocumentVersion) : Prop where
  tenant : saved.tenantId = tenantId
  latest : SQLiteDocumentStore.get tenantId saved.documentId none db = .ok (saved, db)
  passage : ∃ chunk ∈ saved.chunking.chunks, passage = .of (saved, chunk)
  traced : ∃ jobId payload submission commit,
    Traced settings history jobId saved payload submission commit

/-- What a search of a tenant returned. -/
structure Supported (settings : TenantSettings) (history : List DocumentService.Entry)
    (db : DocumentDb) (limits : RetrievalLimits) (encodedBytes : Dict → Nat)
    (request : RetrievalRequest) (tenantId : String) (result : RetrievalResult) : Prop where
  few : result.passages.length ≤ request.topK
  short : (result.passages.map fun passage => passage.chunk.text.length).sum ≤
    limits.maxOutputChars
  bytes : encodedBytes result.dump ≤ 32000
  distinct : (result.passages.map RetrievedPassage.identity).Nodup
  evidenced : ∀ passage ∈ result.passages, ∃ saved,
    Evidenced settings history db tenantId passage saved

section Runs

variable {settings : TenantSettings} {store : SQLiteDocumentStore}
  {labels : List (Service.Label Answer Origin)}
  {world : Service.World Answer Origin ServerState (Except ServerError Response × Unit)}

theorem corpus_of_run (run : Run (Service.Step (service settings store)) (.start .empty) labels
      world) (snapshotBytes : Dict → Nat) (limits : RetrievalLimits) {tenantId : String}
    (tenant : tenantPattern tenantId = true) {documents : List StoredDocumentVersion}
    (reads : Reads limits (configuredDocumentCorpusReader snapshotBytes world.state.documents.db)
      tenantId documents) :
    Corpus tenantId world.state.documents.db documents ∧
      ∀ document ∈ documents, document.validate = .ok document := by
  obtain ⟨first, initial, stored⟩ := ((sound settings store).run Shared.empty run).shared.run
  have chained := Chained.of_run initial stored
  obtain ⟨records, corpus, listed⟩ := chained.readLatestDocuments tenant snapshotBytes
  have answered := listed limits.maxDocuments limits.maxSnapshotBytes
    (by exact_mod_cast limits.positive.1) (by exact_mod_cast limits.positive.2.1)
  have same : documents = records := by
    have read := answered.symm.trans reads
    split at read
    · exact (Except.ok.inj read).symm
    · cases read
  subst same
  refine ⟨corpus, fun document member => ?_⟩
  obtain ⟨saved, storable, equal, _⟩ := chained.rows _ (corpus.stored document member)
  obtain rfl := VersionRow.of_injective equal
  exact storable.1

variable {Score : Type} [LinearOrder Score] [Zero Score] {scoring : Scoring Score}
  {strategy : Search} {request : RetrievalRequest} {context : ToolExecutionContext}

theorem accepts_of_run (runs : scoring.Runs strategy)
    (run : Run (Service.Step (service settings store)) (.start .empty) labels world)
    (snapshotBytes : Dict → Nat) :
    Accepts strategy (configuredDocumentCorpusReader snapshotBytes world.state.documents.db)
      request context.tenantId := by
  intro result found
  have drawn := runs.drawn found
  exact ⟨drawn.validateJson_dump fun documents reads =>
    (corpus_of_run run snapshotBytes scoring.limits context.pattern reads).2, drawn.few⟩

theorem supported_of_run (runs : scoring.Runs strategy)
    (run : Run (Service.Step (service settings store)) (.start .empty) labels world)
    {snapshotBytes encodedBytes : Dict → Nat} {result : RetrievalResult}
    (found : strategy (configuredDocumentCorpusReader snapshotBytes world.state.documents.db)
      request context.tenantId = .ok result) (bytes : encodedBytes result.dump ≤ 32000) :
    Supported settings world.state.history world.state.documents.db scoring.limits encodedBytes
      request context.tenantId result := by
  have drawn := runs.drawn found
  have distinct := (RetrievalResult.create_fields drawn.created).2
  refine ⟨drawn.few, drawn.short, bytes, distinct, fun passage member => ?_⟩
  obtain ⟨documents, reads, saved, inside, tenant, chunk, listed, create⟩ :=
    drawn.passages passage member
  obtain ⟨corpus, checks⟩ :=
    corpus_of_run run snapshotBytes scoring.limits context.pattern reads
  have traced := traced_of_run run (corpus.stored saved inside)
  exact ⟨saved, tenant, corpus.latest saved inside,
    ⟨chunk, listed, RetrievedPassage.create_of (checks saved inside) create⟩, traced⟩

end Runs

/-! ## Both strategies -/

/-- The tool asks its strategy with both grants only, and returns what is supported. -/
def Supports (settings : TenantSettings) (history : List DocumentService.Entry) (db : DocumentDb)
    (snapshotBytes encodedBytes : Dict → Nat) (limits : RetrievalLimits) (strategy : Search)
    (request : RetrievalRequest) (context : ToolExecutionContext) : Prop :=
  (searching False strategy (configuredDocumentCorpusReader snapshotBytes db) request
      context).Obeys
    (fun outcome _ => ∀ result, outcome.1 = .ok result →
      Supported settings history db limits encodedBytes request context.tenantId result)
    ((searchDocuments encodedBytes request context).run ()) {}

/-- In reliable surroundings the tool delivers what its strategy answers. -/
def Delivers (db : DocumentDb) (snapshotBytes encodedBytes : Dict → Nat) (strategy : Search)
    (request : RetrievalRequest) (context : ToolExecutionContext) : Prop :=
  (searching True strategy (configuredDocumentCorpusReader snapshotBytes db) request
      context).Obeys
    (fun outcome _ => outcome.1 = delivered encodedBytes strategy
      (configuredDocumentCorpusReader snapshotBytes db) request context)
    ((searchDocuments encodedBytes request context).run ()) {}

namespace Sample

theorem search_stripped : Text.strip Text.whiteSpace "document.search" = "document.search" := by
  decide +kernel

theorem read_stripped : Text.strip Text.whiteSpace "document.read" = "document.read" := by
  decide +kernel

theorem acme_pattern : tenantPattern "acme" = true := by decide +kernel

theorem search_nonempty : "document.search" ≠ "" := by simp

theorem read_nonempty : "document.read" ≠ "" := by simp

def context : ToolExecutionContext where
  tenantId := "acme"
  permissions :=
    [DocumentService.Sample.permission "document.search" search_stripped search_nonempty,
      DocumentService.Sample.permission "document.read" read_stripped read_nonempty]
  pattern := acme_pattern

theorem hi_stripped : Text.strip Text.whiteSpace "hi" = "hi" := by decide +kernel

theorem hi_bounds : 1 ≤ "hi".length ∧ "hi".length ≤ 2048 := by decide +kernel

theorem topK_bounds : 1 ≤ 3 ∧ 3 ≤ 20 := by decide

def request : RetrievalRequest where
  query := ⟨"hi", hi_stripped, hi_bounds⟩
  topK := 3
  bounds := topK_bounds

def snapshotBytes (_ : Dict) : Nat := 100

/-- A stand-in for the length of the encoded result. -/
def encodedBytes (data : Dict) : Nat := 100 * data.length

abbrev world := DocumentService.Sample.world

end Sample

section Searches

variable {settings : TenantSettings} {store : SQLiteDocumentStore}
  {labels : List (Service.Label Answer Origin)}
  {world : Service.World Answer Origin ServerState (Except ServerError Response × Unit)}

theorem supports_of_run {Score : Type} [LinearOrder Score] [Zero Score] {scoring : Scoring Score}
    {strategy : Search} (runs : scoring.Runs strategy)
    (run : Run (Service.Step (service settings store)) (.start .empty) labels world)
    (snapshotBytes encodedBytes : Dict → Nat) (request : RetrievalRequest)
    (context : ToolExecutionContext) :
    Supports settings world.state.history world.state.documents.db snapshotBytes encodedBytes
      scoring.limits strategy request context :=
  (obeys_searchDocuments encodedBytes (accepts_of_run runs run snapshotBytes)).mono
    fun _ _ ends result returned =>
      supported_of_run runs run (ends.1 result returned).1 (ends.1 result returned).2

/-- Whatever the surroundings do, the search tool asks its strategy with both grants
only, and every passage that it returns is a chunk of the latest version of one of the
tenant's documents, cut from a text that an authenticated request of the tenant
submitted with its grant. -/
theorem search_documents_provenance
    (run : Run (Service.Step (service settings store)) (.start .empty) labels world)
    (snapshotBytes encodedBytes : Dict → Nat) (alphabet : Alphabet) (request : RetrievalRequest)
    (context : ToolExecutionContext) :
    (∀ retriever : KeywordOverlapRetriever,
      Supports settings world.state.history world.state.documents.db snapshotBytes encodedBytes
        retriever.limits (retriever.search alphabet) request context) ∧
    ∀ (K : Type) [Field K] [LinearOrder K] [IsStrictOrderedRing K] (log1p : K → K)
      (retriever : Bm25Retriever K),
      Supports settings world.state.history world.state.documents.db snapshotBytes encodedBytes
        retriever.limits (retriever.search log1p alphabet) request context :=
  ⟨fun retriever => supports_of_run (retriever.runs alphabet) run snapshotBytes encodedBytes
      request context,
    fun _ _ _ _ log1p retriever => supports_of_run (retriever.runs log1p alphabet) run
      snapshotBytes encodedBytes request context⟩

/-- The stored text is found by its word. -/
theorem search_documents_provenance_served :
    (KeywordOverlapRetriever.search {} Retrieval.Sample.alphabet
        (configuredDocumentCorpusReader Sample.snapshotBytes Sample.world.state.documents.db)
        Sample.request "acme").map
      (fun result => result.passages.map fun passage => passage.chunk.text) = .ok ["hi"] ∧
    Supports DocumentService.Sample.settings Sample.world.state.history
      Sample.world.state.documents.db Sample.snapshotBytes Sample.encodedBytes {}
      (KeywordOverlapRetriever.search {} Retrieval.Sample.alphabet) Sample.request
      Sample.context :=
  ⟨by decide +kernel,
    (search_documents_provenance DocumentService.Sample.served_run Sample.snapshotBytes
      Sample.encodedBytes Retrieval.Sample.alphabet Sample.request Sample.context).1 {}⟩

theorem delivers_of_run {Score : Type} [LinearOrder Score] [Zero Score] {scoring : Scoring Score}
    {strategy : Search} (runs : scoring.Runs strategy)
    (run : Run (Service.Step (service settings store)) (.start .empty) labels world)
    (snapshotBytes encodedBytes : Dict → Nat) (request : RetrievalRequest)
    (context : ToolExecutionContext) :
    Delivers world.state.documents.db snapshotBytes encodedBytes strategy request context :=
  (obeys_searchDocuments encodedBytes (accepts_of_run runs run snapshotBytes)).mono
    fun _ _ ends => ends.2 trivial

/-- Over the document service the facade rejects nothing that a strategy returns:
reading the result back as JSON changes nothing, and the number of passages keeps
within the request. Unless a grant is missing or the result is too large, the tool
delivers it. -/
theorem search_documents_delivers
    (run : Run (Service.Step (service settings store)) (.start .empty) labels world)
    (snapshotBytes encodedBytes : Dict → Nat) (alphabet : Alphabet) (request : RetrievalRequest)
    (context : ToolExecutionContext) :
    (∀ retriever : KeywordOverlapRetriever,
      Delivers world.state.documents.db snapshotBytes encodedBytes (retriever.search alphabet)
        request context) ∧
    ∀ (K : Type) [Field K] [LinearOrder K] [IsStrictOrderedRing K] (log1p : K → K)
      (retriever : Bm25Retriever K),
      Delivers world.state.documents.db snapshotBytes encodedBytes
        (retriever.search log1p alphabet) request context :=
  ⟨fun retriever => delivers_of_run (retriever.runs alphabet) run snapshotBytes encodedBytes
      request context,
    fun _ _ _ _ log1p retriever => delivers_of_run (retriever.runs log1p alphabet) run
      snapshotBytes encodedBytes request context⟩

theorem search_documents_delivers_served :
    (delivered Sample.encodedBytes (KeywordOverlapRetriever.search {} Retrieval.Sample.alphabet)
        (configuredDocumentCorpusReader Sample.snapshotBytes Sample.world.state.documents.db)
        Sample.request Sample.context).toOption.map
      (fun result => result.passages.map fun passage => passage.chunk.text) = some ["hi"] ∧
    Delivers Sample.world.state.documents.db Sample.snapshotBytes Sample.encodedBytes
      (KeywordOverlapRetriever.search {} Retrieval.Sample.alphabet) Sample.request
      Sample.context :=
  ⟨by decide +kernel,
    (search_documents_delivers DocumentService.Sample.served_run Sample.snapshotBytes
      Sample.encodedBytes Retrieval.Sample.alphabet Sample.request Sample.context).1 {}⟩

end Searches

end Crewos.DocumentSearch

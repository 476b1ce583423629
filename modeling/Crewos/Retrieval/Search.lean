import Crewos.Retrieval.Bm25
import Crewos.Retrieval.Selection
import Mathlib.Algebra.BigOperators.Group.List.Lemmas
import Mathlib.Algebra.Field.Rat
import Mathlib.Algebra.Order.Ring.Rat

/-! # Search

Both strategies are a scoring of the passages, followed by the selection of the
best. What holds of every such search holds of both. -/

namespace Crewos.Retrieval

open Foundation Documents

abbrev Passage := StoredDocumentVersion × TextChunk

abbrev Search := DocumentCorpusReader → RetrievalRequest → String →
  Except RetrievalError RetrievalResult

/-- What a strategy computes of a query and the passages of a corpus. -/
structure Scoring (Score : Type) [LinearOrder Score] [Zero Score] where
  name : String
  limits : RetrievalLimits
  /-- The query makes the search read the corpus. -/
  asks : String → Prop
  score : String → List Passage → Passage → Score
  named : strategyPattern name = true
  unordered : ∀ query passages others, passages.Perm others →
    score query passages = score query others
  silent : ∀ query passages passage, ¬asks query → score query passages passage = 0

def Reads (limits : RetrievalLimits) (reader : DocumentCorpusReader) (tenantId : String)
    (documents : List StoredDocumentVersion) : Prop :=
  reader.readLatestDocuments tenantId limits.maxDocuments limits.maxSnapshotBytes = .ok documents

theorem Reads.read {limits : RetrievalLimits} {reader : DocumentCorpusReader} {tenantId : String}
    {documents : List StoredDocumentVersion} (reads : Reads limits reader tenantId documents) :
    limits.read reader tenantId = .ok documents := by
  rw [RetrievalLimits.read, reads]
  rfl

section

variable {Score : Type} [LinearOrder Score] [Zero Score]

def Scoring.found (scoring : Scoring Score) (query : String) (passages : List Passage) :
    List (Candidate Score) := positives (scoring.score query passages) passages

/-- A search that selects by the scores. -/
structure Scoring.Runs (scoring : Scoring Score) (search : Search) : Prop where
  reads : ∀ {reader request tenantId}, scoring.asks request.query.value →
    search reader request tenantId = do
      let documents ← scoring.limits.read reader tenantId
      let passages ← gather tenantId documents
      answer scoring.name request.topK scoring.limits.maxOutputChars
        (scoring.found request.query.value passages)
  silent : ∀ {reader request tenantId}, ¬scoring.asks request.query.value →
    search reader request tenantId = .ok { strategy := scoring.name, passages := [] }

/-- What a search promises. -/
structure Scoring.TopK (scoring : Scoring Score) (search : Search) : Prop where
  answers : ∀ reader request tenantId documents, CorpusOf tenantId documents →
    Reads scoring.limits reader tenantId documents →
      Answers scoring.name request.topK scoring.limits.maxOutputChars
        (scoring.found request.query.value (passagesOf documents))
        (search reader request tenantId)
  unordered : ∀ reader other request tenantId documents others, CorpusOf tenantId documents →
    documents.Perm others → Reads scoring.limits reader tenantId documents →
      Reads scoring.limits other tenantId others →
        search reader request tenantId = search other request tenantId
  prefixes : ∀ reader (request longer : RetrievalRequest) tenantId documents shortest longest,
    CorpusOf tenantId documents → Reads scoring.limits reader tenantId documents →
      longer.query = request.query → longer.topK = request.topK + 1 →
        search reader request tenantId = .ok shortest →
          search reader longer tenantId = .ok longest → shortest.passages <+: longest.passages
  foreign : ∀ reader request tenantId documents, scoring.asks request.query.value →
    Reads scoring.limits reader tenantId documents →
      (∃ document ∈ documents, document.tenantId ≠ tenantId) →
        search reader request tenantId =
          .error (.retrievalResultError "Corpus reader returned another tenant's document")

theorem passagesOf_perm {documents others : List StoredDocumentVersion}
    (perm : documents.Perm others) : (passagesOf documents).Perm (passagesOf others) :=
  perm.flatMap_right _

namespace Scoring

variable {scoring : Scoring Score} {search : Search}

theorem found_silent {query : String} (silent : ¬scoring.asks query) (passages : List Passage) :
    scoring.found query passages = [] := by
  rw [List.eq_nil_iff_forall_not_mem]
  intro candidate member
  obtain ⟨_, same, positive⟩ := mem_positives.mp member
  rw [same, scoring.silent _ _ _ silent] at positive
  exact lt_irrefl _ positive

theorem found_perm (query : String) {passages others : List Passage}
    (perm : passages.Perm others) :
    (scoring.found query passages).Perm (scoring.found query others) := by
  rw [found, found, scoring.unordered query passages others perm]
  exact (perm.map _).filter _

theorem Runs.answer_of {reader : DocumentCorpusReader} {request : RetrievalRequest}
    {tenantId : String} {documents : List StoredDocumentVersion} (runs : scoring.Runs search)
    (corpus : CorpusOf tenantId documents)
    (read : Reads scoring.limits reader tenantId documents) :
    search reader request tenantId =
      answer scoring.name request.topK scoring.limits.maxOutputChars
        (scoring.found request.query.value (passagesOf documents)) := by
  by_cases asks : scoring.asks request.query.value
  · rw [runs.reads asks, read.read, Outcome.ok_bind, gather_eq corpus.tenant]
    rfl
  · rw [runs.silent asks, found_silent asks, answer_nil scoring.named]

theorem Runs.topK (runs : scoring.Runs search) : scoring.TopK search where
  answers := by
    intro reader request tenantId documents corpus read
    rw [runs.answer_of corpus read]
    exact answer_answers scoring.named request.bounds.2 _ (corpus.distinct_positives _)
  unordered := by
    intro reader other request tenantId documents others corpus perm read otherRead
    rw [runs.answer_of corpus read, runs.answer_of (corpus.perm perm) otherRead]
    exact answer_perm (corpus.distinct_positives _) (found_perm _ (passagesOf_perm perm)) _ _ _
  prefixes := by
    intro reader request longer tenantId documents shortest longest corpus read query topK short long
    rw [runs.answer_of corpus read] at short long
    rw [query, topK] at long
    exact answer_prefix scoring.named (topK ▸ longer.bounds.2) _ (corpus.distinct_positives _)
      short long
  foreign := by
    intro reader request tenantId documents asks read foreign
    rw [runs.reads asks, read.read, Outcome.ok_bind, gather_foreign foreign]
    rfl

end Scoring

end

/-! ## Keyword overlap -/

namespace KeywordOverlapRetriever

def scoring (retriever : KeywordOverlapRetriever) (alphabet : Alphabet) : Scoring Nat where
  name := strategy
  limits := retriever.limits
  asks query := terms alphabet query ≠ ∅
  score query _ passage := score alphabet (terms alphabet query) passage.2
  named := by decide
  unordered _ _ _ _ := rfl
  silent query _ _ silent := by
    rw [score, not_not.mp silent, Finset.empty_inter, Finset.card_empty]

theorem candidates_eq (alphabet : Alphabet) (query : Finset String) (passages : List Passage) :
    candidates alphabet query passages =
      positives (fun passage => score alphabet query passage.2) passages := by
  simp only [candidates, positives, Nat.pos_iff_ne_zero]

theorem runs (retriever : KeywordOverlapRetriever) (alphabet : Alphabet) :
    (retriever.scoring alphabet).Runs (retriever.search alphabet) where
  reads := by
    intro reader request tenantId asks
    rw [search, if_neg asks]
    simp only [candidates_eq]
    rfl
  silent := by
    intro reader request tenantId silent
    rw [search, if_pos (not_not.mp silent)]
    rfl

end KeywordOverlapRetriever

/-! ## BM25 -/

namespace Bm25Retriever

variable {K : Type} [Field K] [LinearOrder K]

theorem length_eq (passage : Counted) : passage.length = passage.words.length :=
  List.sum_map_count_dedup_eq_length passage.words

theorem exactScore_perm (retriever : Bm25Retriever K) (log1p : K → K) (terms : List String)
    {passages others : List Counted} (perm : passages.Perm others) (passage : Counted) :
    retriever.exactScore log1p terms passages passage =
      retriever.exactScore log1p terms others passage := by
  have frequencies (term : String) : frequency passages term = frequency others term :=
    perm.countP_eq _
  have averages : average K passages = average K others := by
    rw [average, average, (perm.map _).sum_nat, perm.length_eq]
  unfold exactScore exactTerm normalization
  simp only [frequencies, averages, perm.length_eq]

def scoring (retriever : Bm25Retriever K) (log1p : K → K) (alphabet : Alphabet) : Scoring K where
  name := strategy
  limits := retriever.limits
  asks query := queryTerms alphabet query ≠ []
  score query passages passage := retriever.exactScore log1p (queryTerms alphabet query)
    (passages.map (counted alphabet)) (counted alphabet passage)
  named := by decide
  unordered query passages others perm := by
    funext passage
    exact retriever.exactScore_perm log1p _ (perm.map _) _
  silent query _ _ silent := by
    rw [not_not.mp silent]
    rfl

variable [IsStrictOrderedRing K]

theorem exactScore_wordless (retriever : Bm25Retriever K) (log1p : K → K) (terms : List String)
    {passages : List Counted} (wordless : average K passages = 0) {passage : Counted}
    (member : passage ∈ passages) : retriever.exactScore log1p terms passages passage = 0 := by
  have counts (term : String) : passage.count term = 0 := by
    have some : (passages.length : K) ≠ 0 :=
      Nat.cast_ne_zero.mpr (List.length_pos_of_mem member).ne'
    have total : (passages.map Counted.length).sum = 0 := by
      have zero := (div_eq_zero_iff.mp wordless).resolve_right some
      exact_mod_cast zero
    have short : passage.length = 0 :=
      List.sum_eq_zero_iff_forall_eq_nat.mp total _ (List.mem_map_of_mem member)
    rw [length_eq] at short
    rw [Counted.count, List.eq_nil_of_length_eq_zero short, List.count_nil]
  unfold exactScore exactTerm
  simp [counts, List.sum_replicate]

theorem candidates_eq (retriever : Bm25Retriever K) (log1p : K → K) (alphabet : Alphabet)
    (terms : List String) {all : List Counted} (worded : average K all ≠ 0)
    (passages : List Passage) :
    retriever.candidates log1p (average K all) terms all (passages.map (counted alphabet)) =
      .ok (positives (fun passage =>
        retriever.exactScore log1p terms all (counted alphabet passage)) passages) := by
  induction passages with
  | nil => rfl
  | cons passage passages induction =>
      rw [List.map_cons, candidates, retriever.passageScore_eq log1p terms worded,
        Outcome.ok_bind, induction, Outcome.ok_bind, positives, positives, List.map_cons,
        List.filter_cons]
      simp only [decide_eq_true_eq]
      split <;> rfl

theorem runs (retriever : Bm25Retriever K) (log1p : K → K) (alphabet : Alphabet) :
    (retriever.scoring log1p alphabet).Runs (retriever.search log1p alphabet) where
  reads := by
    intro reader request tenantId asks
    rw [search, if_neg asks]
    refine bind_congr fun documents => bind_congr fun passages => ?_
    dsimp only
    rw [averageLength_eq, Outcome.ok_bind]
    split
    · rename_i wordless
      have nothing : (retriever.scoring log1p alphabet).found request.query.value passages =
          [] := by
        rw [List.eq_nil_iff_forall_not_mem]
        intro candidate member
        obtain ⟨inside, same, positive⟩ := mem_positives.mp member
        have zero := retriever.exactScore_wordless log1p
          (queryTerms alphabet request.query.value) wordless
          (List.mem_map_of_mem (f := counted alphabet) inside)
        rw [same] at positive
        exact absurd positive (not_lt.mpr zero.le)
      rw [nothing, answer_nil (retriever.scoring log1p alphabet).named]
      rfl
    · rename_i worded
      rw [retriever.candidates_eq log1p alphabet _ worded, Outcome.ok_bind]
      rfl
  silent := by
    intro reader request tenantId silent
    rw [search, if_pos (not_not.mp silent)]
    rfl

end Bm25Retriever

/-! ## Both strategies -/

/-- Both searches keep the promise, whatever the logarithm computes. -/
theorem searches_select_topK (alphabet : Alphabet) :
    (∀ retriever : KeywordOverlapRetriever,
      (retriever.scoring alphabet).TopK (retriever.search alphabet)) ∧
    ∀ (K : Type) [Field K] [LinearOrder K] [IsStrictOrderedRing K] (log1p : K → K)
      (retriever : Bm25Retriever K),
      (retriever.scoring log1p alphabet).TopK (retriever.search log1p alphabet) :=
  ⟨fun retriever => (retriever.runs alphabet).topK,
    fun _ _ _ _ log1p retriever => (retriever.runs log1p alphabet).topK⟩

namespace Sample

def alphabet : Alphabet where
  casefold char := [char.toLower]
  word char := char.isAlphanum || char == '_'

def document (documentId : Uuid4) (text : String) : StoredDocumentVersion where
  documentId := documentId
  tenantId := "acme"
  version := 1
  createdAt := 0
  document := { title := "CRM runbook", text, sourceRef := none }
  chunking := {
    strategy := "character_window_v1"
    options := default
    chunks := [{ index := 0, text, startChar := 0, endChar := text.length }] }

def documents : List StoredDocumentVersion :=
  [document .first "webhook recovery",
    document .second "Webhook timeout"]

def reader : DocumentCorpusReader where
  readLatestDocuments _ _ _ := .ok documents

def request : RetrievalRequest where
  query := ⟨"webhook timeout timeout", by decide +kernel, by decide +kernel⟩
  topK := 2

def ranking : Bm25Retriever Rat where
  k1 := 6 / 5
  b := 3 / 4
  k1_bounds := by decide +kernel
  b_bounds := by decide +kernel

theorem corpus : CorpusOf "acme" documents where
  valid := by
    intro document member
    rcases List.mem_cons.mp member with rfl | member
    · exact ⟨by decide +kernel, by decide +kernel⟩
    · rw [List.mem_singleton.mp member]
      exact ⟨by decide +kernel, by decide +kernel⟩
  tenant := by decide +kernel
  distinct := by decide +kernel

/-- A logarithm's stand-in between zero and its argument. -/
def log1p (value : Rat) : Rat := value / (1 + value)

end Sample

open Sample in
theorem searches_select_topK_runbook :
    Answers "keyword_overlap_v1" 2 100000
        ((KeywordOverlapRetriever.scoring {} alphabet).found request.query.value
          (passagesOf documents))
        (KeywordOverlapRetriever.search {} alphabet reader request "acme") ∧
      Answers "bm25_v1" 2 100000
        ((ranking.scoring log1p alphabet).found request.query.value (passagesOf documents))
        (ranking.search log1p alphabet reader request "acme") :=
  ⟨((searches_select_topK alphabet).1 {}).answers reader request "acme" documents corpus rfl,
    ((searches_select_topK alphabet).2 Rat log1p ranking).answers reader request "acme" documents
      corpus rfl⟩

open Sample in
/-- The passage with both terms comes before the smaller document id. -/
example : (ranking.search log1p alphabet reader request "acme").map
    (fun result => result.passages.map fun passage => passage.chunk.text) =
      .ok ["Webhook timeout", "webhook recovery"] := by
  decide +kernel

end Crewos.Retrieval

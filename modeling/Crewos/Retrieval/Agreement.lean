import Crewos.Retrieval.Search
import Mathlib.Algebra.Order.BigOperators.Group.List

/-! # Agreement of the strategies

In exact arithmetic a passage scores with one strategy exactly when it scores
with the other, and no corpus makes the arithmetic fail. -/

namespace Crewos.Retrieval

open Foundation Documents

/-! ## Positive scores -/

/-- The passage holds a term of the query. -/
def Shares (alphabet : Alphabet) (query : String) (passage : Passage) : Prop :=
  ∃ term ∈ alphabet.findall query, term ∈ alphabet.findall passage.2.text

instance (alphabet : Alphabet) (query : String) (passage : Passage) :
    Decidable (Shares alphabet query passage) :=
  inferInstanceAs (Decidable (∃ term ∈ alphabet.findall query, _))

theorem KeywordOverlapRetriever.score_pos_iff {alphabet : Alphabet} {query : String}
    {passage : Passage} :
    0 < score alphabet (terms alphabet query) passage.2 ↔ Shares alphabet query passage := by
  rw [score, Finset.card_pos]
  simp only [Finset.Nonempty, Finset.mem_inter, terms, List.mem_toFinset, Shares]

namespace Bm25Retriever

variable {K : Type} [Field K] [LinearOrder K]

theorem mem_queryTerms {alphabet : Alphabet} {query term : String} :
    term ∈ queryTerms alphabet query ↔ term ∈ alphabet.findall query := by
  rw [queryTerms, (rank_perm CodePoints.mk _).mem_iff, List.mem_dedup]

theorem count_counted {alphabet : Alphabet} {passage : Passage} {term : String} :
    (counted alphabet passage).count term ≠ 0 ↔ term ∈ alphabet.findall passage.2.text := by
  rw [Counted.count, Ne, List.count_eq_zero, not_not]
  rfl

variable [IsStrictOrderedRing K]

/-- `log1p` is positive on positive numbers. -/
def Positive (log1p : K → K) : Prop := ∀ value, 0 < value → 0 < log1p value

theorem exactTerm_pos (retriever : Bm25Retriever K) {log1p : K → K} (positive : Positive log1p)
    (passages : List Counted) {passage : Counted} {term : String}
    (occurs : passage.count term ≠ 0) :
    0 < retriever.exactTerm log1p passages passage term := by
  have idf := positive _ (rarity_pos (K := K) passages term)
  have tf : (0 : K) < passage.count term := Nat.cast_pos.mpr (Nat.pos_of_ne_zero occurs)
  have norm := retriever.normalization_nonneg passages passage
  have k1 := retriever.k1_bounds.1
  rw [exactTerm, if_neg occurs]
  exact div_pos (mul_pos (mul_pos idf tf) (by linarith)) (by linarith)

theorem exactScore_pos_iff (retriever : Bm25Retriever K) {log1p : K → K}
    (positive : Positive log1p) (terms : List String) (passages : List Counted)
    (passage : Counted) : 0 < retriever.exactScore log1p terms passages passage ↔
      ∃ term ∈ terms, passage.count term ≠ 0 := by
  have nonneg (term : String) : 0 ≤ retriever.exactTerm log1p passages passage term := by
    by_cases occurs : passage.count term = 0
    · rw [exactTerm, if_pos occurs]
    · exact (retriever.exactTerm_pos positive passages occurs).le
  have scores (terms : List String) : 0 ≤ retriever.exactScore log1p terms passages passage :=
    List.sum_nonneg fun value member => by
      obtain ⟨term, _, rfl⟩ := List.mem_map.mp member
      exact nonneg term
  induction terms with
  | nil => simp [exactScore]
  | cons term terms induction =>
      refine Iff.trans ?_ (List.exists_mem_cons_iff _ _ _).symm
      refine Iff.trans ?_ (or_congr_right induction)
      rw [exactScore_cons]
      by_cases occurs : passage.count term = 0
      · have zero : retriever.exactTerm log1p passages passage term = 0 := if_pos occurs
        simp [zero, occurs]
      · have first := retriever.exactTerm_pos positive passages occurs
        have rest := scores terms
        simp only [ne_eq, occurs, not_false_iff, true_or, iff_true]
        linarith

theorem score_pos_iff (retriever : Bm25Retriever K) {log1p : K → K} (positive : Positive log1p)
    {alphabet : Alphabet} {query : String} (passages : List Passage) {passage : Passage} :
    0 < (retriever.scoring log1p alphabet).score query passages passage ↔
      Shares alphabet query passage := by
  refine (retriever.exactScore_pos_iff positive _ _ _).trans ?_
  simp only [mem_queryTerms, count_counted, Shares]

end Bm25Retriever

/-! ## The same passages -/

def sharing (alphabet : Alphabet) (query : String) (documents : List StoredDocumentVersion) :
    List Passage := (passagesOf documents).filter fun passage => Shares alphabet query passage

section

variable {Score : Type} [LinearOrder Score] [Zero Score] {scoring : Scoring Score}
variable {search : Search} {alphabet : Alphabet} {request : RetrievalRequest}

theorem passages_positives (score : Passage → Score) (passages : List Passage) :
    (positives score passages).map Candidate.passage =
      passages.filter fun passage => 0 < score passage := by
  rw [positives, List.filter_map, List.map_map]
  exact List.map_id _

theorem Scoring.Runs.returns_all (runs : scoring.Runs search) {reader : DocumentCorpusReader}
    {tenantId : String} {documents : List StoredDocumentVersion}
    (corpus : CorpusOf tenantId documents) (read : Reads scoring.limits reader tenantId documents)
    (shares : ∀ passage, 0 < scoring.score request.query.value (passagesOf documents) passage ↔
      Shares alphabet request.query.value passage)
    (few : (sharing alphabet request.query.value documents).length ≤ request.topK)
    (short : ((sharing alphabet request.query.value documents).map fun passage =>
      passage.2.text.length).sum ≤ scoring.limits.maxOutputChars) :
    ∃ result, search reader request tenantId = .ok result ∧
      result.passages.Perm ((sharing alphabet request.query.value documents).map .of) := by
  have passages : (scoring.found request.query.value (passagesOf documents)).map
      Candidate.passage = sharing alphabet request.query.value documents := by
    rw [found, passages_positives, sharing]
    congr 1
    funext passage
    exact decide_eq_decide.mpr (shares passage)
  obtain ⟨ranked, perm, _, outcome⟩ :=
    runs.topK.answers reader request tenantId documents corpus read
  have listed : (ranked.map Candidate.passage).Perm
      (sharing alphabet request.query.value documents) := passages ▸ perm.map _
  have whole : ranked.take (min request.topK
      (scoring.found request.query.value (passagesOf documents)).length) = ranked := by
    rw [← passages, List.length_map] at few
    rw [min_eq_right few, ← perm.length_eq, List.take_length]
  have fits : ¬scoring.limits.maxOutputChars < outputChars ranked := by
    have chars : outputChars ranked = ((ranked.map Candidate.passage).map fun passage =>
        passage.2.text.length).sum := by
      rw [List.map_map]
      rfl
    rw [chars, (listed.map _).sum_nat]
    exact not_lt.mpr short
  rw [whole, admitted, if_neg fits] at outcome
  refine ⟨_, outcome, ?_⟩
  have same := listed.map RetrievedPassage.of
  rw [List.map_map] at same
  exact same

end

/-! ## Errors -/

def RetrievalError.Admissible : RetrievalError → Prop
  | .zeroDivisionError | .valueError _ => False
  | _ => True

theorem checked_error {value : Except DocumentError α} {error : RetrievalError}
    (raised : checked value = .error error) : error = .validationError := by
  cases value <;> cases raised
  rfl

theorem create_admissible {document : StoredDocumentVersion} {chunk : TextChunk}
    {error : RetrievalError} (raised : RetrievedPassage.create document chunk = .error error) :
    error = .validationError := by
  simp only [RetrievedPassage.create, Outcome.bind_eq_error, raiseWhen_eq_error] at raised
  rcases raised with ⟨_, rfl⟩ | ⟨_, _, ⟨_, rfl⟩ | ⟨_, _, title | ⟨_, _, sourceRef | ⟨_, _, raised⟩⟩⟩⟩
  · rfl
  · rfl
  · exact checked_error title
  · exact checked_error sourceRef
  · cases raised

theorem mapM_eq_error {ε α β : Type} {transform : α → Except ε β} {items : List α} {error : ε}
    (raised : items.mapM transform = .error error) :
    ∃ item ∈ items, transform item = .error error := by
  induction items with
  | nil => cases raised
  | cons item items induction =>
      rw [List.mapM_cons] at raised
      rcases Outcome.bind_eq_error.mp raised with first | ⟨_, _, later⟩
      · exact ⟨item, List.mem_cons_self, first⟩
      · rcases Outcome.bind_eq_error.mp later with later | ⟨_, _, done⟩
        · obtain ⟨other, member, failed⟩ := induction later
          exact ⟨other, List.mem_cons_of_mem _ member, failed⟩
        · cases done

theorem answer_admissible {Score : Type} [LinearOrder Score] {strategy : String}
    {topK maxOutputChars : Nat} {candidates : List (Candidate Score)} {error : RetrievalError}
    (raised : answer strategy topK maxOutputChars candidates = .error error) :
    error.Admissible := by
  simp only [answer, Outcome.bind_eq_error, raiseWhen_eq_error] at raised
  rcases raised with ⟨_, rfl⟩ | ⟨_, _, passage | ⟨_, _, result⟩⟩
  · trivial
  · obtain ⟨_, _, failed⟩ := mapM_eq_error passage
    rw [create_admissible failed]
    trivial
  · simp only [RetrievalResult.create, Outcome.bind_eq_error, raiseWhen_eq_error] at result
    rcases result with ⟨_, rfl⟩ | ⟨_, _, ⟨_, rfl⟩ | ⟨_, _, ⟨_, rfl⟩ | ⟨_, _, done⟩⟩⟩
    · trivial
    · trivial
    · trivial
    · cases done

/-- Whatever a reader lists or raises, the arithmetic of a search does not fail. -/
theorem Scoring.Runs.admissible {Score : Type} [LinearOrder Score] [Zero Score]
    {scoring : Scoring Score} {search : Search} (runs : scoring.Runs search)
    {reader : DocumentCorpusReader} {request : RetrievalRequest} {tenantId : String}
    {error : RetrievalError} (raised : search reader request tenantId = .error error) :
    error.Admissible := by
  by_cases asks : scoring.asks request.query.value
  · rw [runs.reads asks] at raised
    rcases Outcome.bind_eq_error.mp raised with read | ⟨documents, _, raised⟩
    · rw [RetrievalLimits.read] at read
      generalize reader.readLatestDocuments _ _ _ = outcome at read
      cases outcome <;> cases read
      trivial
    · rcases Outcome.bind_eq_error.mp raised with foreign | ⟨_, _, raised⟩
      · by_cases tenant : ∀ document ∈ documents, document.tenantId = tenantId
        · rw [gather_eq tenant] at foreign
          cases foreign
        · push Not at tenant
          rw [gather_foreign tenant] at foreign
          cases foreign
          trivial
      · exact answer_admissible raised
  · rw [runs.silent asks] at raised
    cases raised

/-! ## Repeated terms -/

/-- The queries hold the same terms, some of them perhaps more often. -/
def SameTerms (alphabet : Alphabet) (query other : String) : Prop :=
  ∀ term, term ∈ alphabet.findall query ↔ term ∈ alphabet.findall other

theorem KeywordOverlapRetriever.search_sameTerms (retriever : KeywordOverlapRetriever)
    {alphabet : Alphabet} {request other : RetrievalRequest}
    (same : SameTerms alphabet request.query.value other.query.value)
    (topK : request.topK = other.topK) (reader : DocumentCorpusReader) (tenantId : String) :
    retriever.search alphabet reader request tenantId =
      retriever.search alphabet reader other tenantId := by
  have query : terms alphabet request.query.value = terms alphabet other.query.value :=
    List.toFinset.ext_iff.mpr same
  unfold search
  rw [query, topK]

theorem Bm25Retriever.search_sameTerms {K : Type} [Field K] [LinearOrder K]
    (retriever : Bm25Retriever K) (log1p : K → K) {alphabet : Alphabet}
    {request other : RetrievalRequest}
    (same : SameTerms alphabet request.query.value other.query.value)
    (topK : request.topK = other.topK) (reader : DocumentCorpusReader) (tenantId : String) :
    retriever.search log1p alphabet reader request tenantId =
      retriever.search log1p alphabet reader other tenantId := by
  have query : queryTerms alphabet request.query.value =
      queryTerms alphabet other.query.value := by
    have perm : (alphabet.findall request.query.value).dedup.Perm
        (alphabet.findall other.query.value).dedup :=
      (List.perm_ext_iff_of_nodup (List.nodup_dedup _) (List.nodup_dedup _)).mpr
        fun term => by rw [List.mem_dedup, List.mem_dedup, same]
    exact rank_eq_of_perm ((List.nodup_dedup _).map fun _ _ same => congrArg CodePoints.text same)
      perm
  unfold search
  rw [query, topK]

/-! ## Agreement -/

/-- In exact arithmetic, with a logarithm that is positive on positive numbers, a
passage of a corpus scores exactly when it shares a term with the query; with
limits that do not bind both searches return the same passages; the arithmetic
never fails; and repeating terms changes nothing. -/
theorem strategies_agree {K : Type} [Field K] [LinearOrder K] [IsStrictOrderedRing K]
    {log1p : K → K} (positive : Bm25Retriever.Positive log1p) (alphabet : Alphabet)
    (keyword : KeywordOverlapRetriever) (bm25 : Bm25Retriever K) :
    (∀ query (passages : List Passage), ∀ passage ∈ passages,
      let all := passages.map (Bm25Retriever.counted alphabet)
      ∃ average : K, Bm25Retriever.averageLength all = .ok average ∧
        if average = 0 then ¬Shares alphabet query passage
        else ∃ score, bm25.passageScore log1p all average (Bm25Retriever.queryTerms alphabet query)
            (Bm25Retriever.counted alphabet passage) = .ok score ∧
          (0 < score ↔ Shares alphabet query passage)) ∧
    (∀ keywordReader bm25Reader (request : RetrievalRequest) tenantId documents,
      CorpusOf tenantId documents → Reads keyword.limits keywordReader tenantId documents →
      Reads bm25.limits bm25Reader tenantId documents →
      (sharing alphabet request.query.value documents).length ≤ request.topK →
      ((sharing alphabet request.query.value documents).map fun passage =>
        passage.2.text.length).sum ≤ min keyword.limits.maxOutputChars bm25.limits.maxOutputChars →
      ∃ overlap ranked, keyword.search alphabet keywordReader request tenantId = .ok overlap ∧
        bm25.search log1p alphabet bm25Reader request tenantId = .ok ranked ∧
        ∀ passage, passage ∈ overlap.passages ↔ passage ∈ ranked.passages) ∧
    (∀ reader request tenantId,
      bm25.search log1p alphabet reader request tenantId ≠ .error .zeroDivisionError) ∧
    ∀ reader (request other : RetrievalRequest) tenantId,
      SameTerms alphabet request.query.value other.query.value → request.topK = other.topK →
      keyword.search alphabet reader request tenantId =
          keyword.search alphabet reader other tenantId ∧
        bm25.search log1p alphabet reader request tenantId =
          bm25.search log1p alphabet reader other tenantId := by
  refine ⟨?_, ?_, ?_, ?_⟩
  · intro query passages passage member
    refine ⟨Bm25Retriever.average K (passages.map (Bm25Retriever.counted alphabet)),
      Bm25Retriever.averageLength_eq _, ?_⟩
    have scores : 0 < (bm25.scoring log1p alphabet).score query passages passage ↔
        Shares alphabet query passage := bm25.score_pos_iff positive passages
    split
    · rename_i wordless
      rw [← scores]
      have zero := bm25.exactScore_wordless log1p (Bm25Retriever.queryTerms alphabet query) wordless
        (List.mem_map_of_mem (f := Bm25Retriever.counted alphabet) member)
      exact not_lt.mpr zero.le
    · rename_i worded
      exact ⟨_, bm25.passageScore_eq log1p _ worded _, scores⟩
  · intro keywordReader bm25Reader request tenantId documents corpus keywordRead bm25Read few short
    obtain ⟨overlap, overlapFound, overlapAll⟩ := (keyword.runs alphabet).returns_all corpus
      keywordRead (fun passage => KeywordOverlapRetriever.score_pos_iff) few
      (short.trans (min_le_left _ _))
    obtain ⟨ranked, rankedFound, rankedAll⟩ := (bm25.runs log1p alphabet).returns_all corpus
      bm25Read (fun passage => bm25.score_pos_iff positive _) few (short.trans (min_le_right _ _))
    exact ⟨overlap, ranked, overlapFound, rankedFound, fun passage =>
      overlapAll.mem_iff.trans rankedAll.mem_iff.symm⟩
  · intro reader request tenantId failed
    exact (bm25.runs log1p alphabet).admissible failed
  · intro reader request other tenantId same topK
    exact ⟨keyword.search_sameTerms same topK reader tenantId,
      bm25.search_sameTerms log1p same topK reader tenantId⟩

open Sample in
theorem strategies_agree_runbook : ∃ overlap ranked,
    KeywordOverlapRetriever.search {} alphabet reader request "acme" = .ok overlap ∧
      ranking.search log1p alphabet reader request "acme" = .ok ranked ∧
      ∀ passage, passage ∈ overlap.passages ↔ passage ∈ ranked.passages := by
  have positive : Bm25Retriever.Positive log1p := fun value above =>
    div_pos above (add_pos one_pos above)
  exact (strategies_agree positive alphabet {} ranking).2.1 reader reader request "acme" documents
    corpus rfl rfl (by decide +kernel) (by decide +kernel)

end Crewos.Retrieval

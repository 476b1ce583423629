import Crewos.Chunking.Spans
import Crewos.Retrieval.Contracts

/-! # Selecting passages

What the end of a search answers for any scores: the first passages of a strict
order, whatever order the corpus was read in. -/

namespace Crewos.Retrieval

open Foundation Documents

/-! ## The corpus of a tenant -/

/-- A document passes its own checks. `UUID4` asks an identifier object for the
random variant. -/
structure Valid (document : StoredDocumentVersion) : Prop where
  checks : document.validate = .ok document
  random : document.documentId.rfcVariant = true

structure CorpusOf (tenantId : String) (documents : List StoredDocumentVersion) : Prop where
  valid : ∀ document ∈ documents, Valid document
  tenant : ∀ document ∈ documents, document.tenantId = tenantId
  distinct : (documents.map StoredDocumentVersion.documentId).Nodup

theorem CorpusOf.perm {tenantId : String} {documents others : List StoredDocumentVersion}
    (corpus : CorpusOf tenantId documents) (perm : documents.Perm others) :
    CorpusOf tenantId others where
  valid document member := corpus.valid document (perm.mem_iff.mpr member)
  tenant document member := corpus.tenant document (perm.mem_iff.mpr member)
  distinct := (perm.map _).nodup_iff.mp corpus.distinct

def passagesOf (documents : List StoredDocumentVersion) :
    List (StoredDocumentVersion × TextChunk) :=
  documents.flatMap fun document => document.chunking.chunks.map fun chunk => (document, chunk)

theorem gather_eq {tenantId : String} {documents : List StoredDocumentVersion}
    (tenant : ∀ document ∈ documents, document.tenantId = tenantId) :
    gather tenantId documents = .ok (passagesOf documents) := by
  induction documents with
  | nil => rfl
  | cons document documents induction =>
      have own : ¬document.tenantId ≠ tenantId := not_not.mpr (tenant _ List.mem_cons_self)
      have later := induction fun other member => tenant other (List.mem_cons_of_mem _ member)
      rw [gather, raiseWhen_of_not _ own, Outcome.ok_bind, later]
      rfl

theorem gather_foreign {tenantId : String} {documents : List StoredDocumentVersion}
    (foreign : ∃ document ∈ documents, document.tenantId ≠ tenantId) :
    gather tenantId documents =
      .error (.retrievalResultError "Corpus reader returned another tenant's document") := by
  induction documents with
  | nil =>
      obtain ⟨_, member, _⟩ := foreign
      cases member
  | cons document documents induction =>
      by_cases own : document.tenantId = tenantId
      · have later : ∃ document ∈ documents, document.tenantId ≠ tenantId := by
          obtain ⟨other, member, different⟩ := foreign
          rcases List.mem_cons.mp member with rfl | member
          · exact absurd own different
          · exact ⟨other, member, different⟩
        rw [gather, raiseWhen_of_not _ (not_not.mpr own), Outcome.ok_bind, induction later]
        rfl
      · rw [gather, raiseWhen_of _ own]
        rfl

/-! ## Passages and their places -/

/-- What tells two passages of a corpus apart. -/
def place (passage : StoredDocumentVersion × TextChunk) : String × Nat :=
  (passage.1.documentId.text, passage.2.index)

theorem index_chained {text : List Char} {index previousEnd last : Nat} {chunks : List TextChunk}
    (chained : Chunking.Chained text index previousEnd chunks last) :
    chunks.map TextChunk.index = List.range' index chunks.length := by
  induction chained with
  | nil => rfl
  | cons number _ _ _ _ _ induction =>
      rw [List.map_cons, List.length_cons, List.range'_succ, induction, number]

theorem Valid.indices {document : StoredDocumentVersion} (valid : Valid document) :
    (document.chunking.chunks.map TextChunk.index).Nodup := by
  have checks := valid.checks
  simp only [StoredDocumentVersion.validate, Outcome.bind_eq_ok] at checks
  obtain ⟨_, _, _, _, _, _, _, _, _, _, covered, saved, _⟩ := checks
  rw [index_chained (Chunking.savedChunks_ok.mp saved)]
  exact List.nodup_range'

theorem CorpusOf.places {tenantId : String} {documents : List StoredDocumentVersion}
    (corpus : CorpusOf tenantId documents) : ((passagesOf documents).map place).Nodup := by
  have valid := corpus.valid
  have distinct := corpus.distinct
  clear corpus
  induction documents with
  | nil => exact List.nodup_nil
  | cons document documents induction =>
      rw [List.map_cons, List.nodup_cons] at distinct
      have later := induction (fun other member => valid other (List.mem_cons_of_mem _ member))
        distinct.2
      have first : ((document.chunking.chunks.map fun chunk => (document, chunk)).map
          place).Nodup := by
        have indices := (valid document List.mem_cons_self).indices
        refine List.Nodup.of_map Prod.snd ?_
        simpa [Function.comp_def, place] using indices
      rw [passagesOf, List.flatMap_cons, List.map_append]
      refine first.append later ?_
      intro spot here there
      simp only [List.mem_map, List.mem_flatMap] at here there
      obtain ⟨_, ⟨chunk, _, rfl⟩, rfl⟩ := here
      obtain ⟨_, ⟨other, member, theirs, _, rfl⟩, same⟩ := there
      have same : other.documentId = document.documentId :=
        Uuid4.ext_text (Prod.mk.inj same).1
      exact distinct.1 (same ▸ List.mem_map_of_mem member)

/-! ## Passages of the answer -/

/-- A passage with its document's fields unchanged. -/
def RetrievedPassage.of (passage : StoredDocumentVersion × TextChunk) : RetrievedPassage where
  documentId := passage.1.documentId
  documentVersion := passage.1.version
  title := passage.1.document.title
  sourceRef := passage.1.document.sourceRef
  chunk := passage.2

theorem Valid.create {document : StoredDocumentVersion} (valid : Valid document)
    (chunk : TextChunk) :
    RetrievedPassage.create document chunk = .ok (.of (document, chunk)) := by
  have checks := valid.checks
  simp only [StoredDocumentVersion.validate, DocumentInput.validate, Outcome.bind_eq_ok,
    raiseWhen_eq_ok, Outcome.pure_eq_ok] at checks
  obtain ⟨_, _, _, positive, input, ⟨title, titled, sourceRef, referred, _, _, _, _, rfl⟩,
    _, _, _, _, _, _, _, _, same⟩ := checks
  have fields := congrArg StoredDocumentVersion.document same
  have titleSame : title.value = document.document.title := congrArg DocumentInput.title fields
  have refSame : sourceRef.map TextField.value = document.document.sourceRef :=
    congrArg DocumentInput.sourceRef fields
  have random : ¬document.documentId.rfcVariant = false := by simp [valid.random]
  rw [RetrievedPassage.create, raiseWhen_of_not _ random, raiseWhen_of_not _ positive, titled,
    referred]
  simp only [checked, Except.mapError, Outcome.ok_bind, titleSame, refSame]
  rfl

/-! ## Distinct candidates -/

section

variable {Score : Type} {candidates others : List (Candidate Score)}

def Candidate.passage (candidate : Candidate Score) : StoredDocumentVersion × TextChunk :=
  (candidate.document, candidate.chunk)

def retrieved (candidates : List (Candidate Score)) : List RetrievedPassage :=
  candidates.map fun candidate => .of candidate.passage

def outputChars (candidates : List (Candidate Score)) : Nat :=
  (candidates.map fun candidate => candidate.chunk.text.length).sum

/-- Candidates of valid documents, at most one for each passage. -/
structure Distinct (candidates : List (Candidate Score)) : Prop where
  valid : ∀ candidate ∈ candidates, Valid candidate.document
  places : (candidates.map fun candidate => place candidate.passage).Nodup

theorem Distinct.keys (distinct : Distinct candidates) :
    (candidates.map Candidate.key).Nodup := by
  have places := distinct.places
  refine List.Nodup.of_map (fun key =>
    ((ofLex (ofLex key).2).1.text, (ofLex (ofLex (ofLex key).2).2).2)) ?_
  simpa [Function.comp_def, Candidate.key, place, Candidate.passage] using places

theorem Distinct.perm (distinct : Distinct candidates) (perm : candidates.Perm others) :
    Distinct others where
  valid candidate member := distinct.valid candidate (perm.mem_iff.mpr member)
  places := (perm.map _).nodup_iff.mp distinct.places

theorem Distinct.sublist (distinct : Distinct candidates) (sublist : others.Sublist candidates) :
    Distinct others where
  valid candidate member := distinct.valid candidate (sublist.subset member)
  places := distinct.places.sublist (sublist.map _)

theorem Distinct.identities (distinct : Distinct candidates) :
    ((retrieved candidates).map RetrievedPassage.identity).Nodup := by
  refine List.Nodup.of_map (fun identity => (identity.1.text, identity.2.2)) ?_
  simp only [retrieved, List.map_map, Function.comp_def]
  exact distinct.places

theorem Distinct.create (distinct : Distinct candidates) :
    (candidates.mapM fun candidate =>
        RetrievedPassage.create candidate.document candidate.chunk) =
      .ok (retrieved candidates) := by
  have valid := distinct.valid
  clear distinct
  induction candidates with
  | nil => rfl
  | cons candidate candidates induction =>
      have first := (valid candidate List.mem_cons_self).create candidate.chunk
      have later := induction fun other member => valid other (List.mem_cons_of_mem _ member)
      rw [List.mapM_cons, first, Outcome.ok_bind, later]
      rfl

end

/-! ## The first candidates -/

section

variable {Score : Type} [LinearOrder Score] {candidates others : List (Candidate Score)}
variable {strategy : String} {topK : Nat}

/-- A candidate comes before another: a higher score, then the smaller document
id, version and chunk. -/
def Candidate.Before (left right : Candidate Score) : Prop :=
  right.score < left.score ∨ left.score = right.score ∧
    (left.document.documentId.text < right.document.documentId.text ∨
      left.document.documentId.text = right.document.documentId.text ∧
        (left.document.version < right.document.version ∨
          left.document.version = right.document.version ∧ left.chunk.index < right.chunk.index))

theorem Candidate.before_iff {left right : Candidate Score} :
    left.Before right ↔ RankLt Candidate.key left right := by
  simp only [RankLt, Candidate.key, Prod.Lex.toLex_lt_toLex, OrderDual.toDual_lt_toDual,
    OrderDual.toDual_inj, CodePoints.mk_lt, CodePoints.mk.injEq, Candidate.Before]

def admitted (strategy : String) (maxOutputChars : Nat) (selected : List (Candidate Score)) :
    Except RetrievalError RetrievalResult :=
  if maxOutputChars < outputChars selected then
    .error (.retrievalCapacityExceeded "Selected passages exceed output character limit")
  else
    .ok { strategy, passages := retrieved selected }

/-- The answer of a search with these candidates: the first of them in order. -/
def Answers (strategy : String) (topK maxOutputChars : Nat) (candidates : List (Candidate Score))
    (outcome : Except RetrievalError RetrievalResult) : Prop :=
  ∃ ranked : List (Candidate Score), ranked.Perm candidates ∧
    ranked.Pairwise Candidate.Before ∧
    outcome = admitted strategy maxOutputChars (ranked.take (min topK candidates.length))

/-- The checks of the result never fail. -/
theorem answer_eq (named : strategyPattern strategy = true) (few : topK ≤ 20)
    (maxOutputChars : Nat) (distinct : Distinct candidates) :
    answer strategy topK maxOutputChars candidates =
      admitted strategy maxOutputChars ((rank Candidate.key candidates).take topK) := by
  have selected : Distinct ((rank Candidate.key candidates).take topK) :=
    (distinct.perm (rank_perm _ _).symm).sublist (List.take_sublist _ _)
  have length : ¬20 < (retrieved ((rank Candidate.key candidates).take topK)).length := by
    rw [retrieved, List.length_map, List.length_take]
    omega
  have pattern : ¬strategyPattern strategy = false := by simp [named]
  unfold answer admitted outputChars
  dsimp only
  split
  · rename_i exceeded
    rw [raiseWhen_of _ exceeded]
    rfl
  · rename_i fits
    rw [raiseWhen_of_not _ fits, Outcome.ok_bind, selected.create, Outcome.ok_bind,
      RetrievalResult.create, raiseWhen_of_not _ pattern, raiseWhen_of_not _ length,
      raiseWhen_of_not _ (not_not.mpr selected.identities)]
    rfl

theorem answer_nil (named : strategyPattern strategy = true) (topK maxOutputChars : Nat) :
    answer strategy topK maxOutputChars ([] : List (Candidate Score)) =
      .ok { strategy, passages := [] } := by
  simp [answer, rank, RetrievalResult.create, named, raiseWhen, pure, Except.pure]

theorem answer_answers (named : strategyPattern strategy = true) (few : topK ≤ 20)
    (maxOutputChars : Nat) (distinct : Distinct candidates) :
    Answers strategy topK maxOutputChars candidates
      (answer strategy topK maxOutputChars candidates) := by
  refine ⟨rank Candidate.key candidates, rank_perm _ _,
    (rank_strict distinct.keys).imp fun before => Candidate.before_iff.mpr before, ?_⟩
  rw [answer_eq named few maxOutputChars distinct,
    ← (rank_perm Candidate.key candidates).length_eq, ← List.take_eq_take_min]

theorem answer_perm (distinct : Distinct candidates) (perm : candidates.Perm others)
    (strategy : String) (topK maxOutputChars : Nat) :
    answer strategy topK maxOutputChars candidates =
      answer strategy topK maxOutputChars others := by
  unfold answer
  rw [rank_eq_of_perm distinct.keys perm]

theorem answer_prefix (named : strategyPattern strategy = true) (few : topK + 1 ≤ 20)
    (maxOutputChars : Nat) (distinct : Distinct candidates) {shorter longer : RetrievalResult}
    (short : answer strategy topK maxOutputChars candidates = .ok shorter)
    (long : answer strategy (topK + 1) maxOutputChars candidates = .ok longer) :
    shorter.passages <+: longer.passages := by
  rw [answer_eq named (by omega) maxOutputChars distinct, admitted] at short
  rw [answer_eq named few maxOutputChars distinct, admitted] at long
  split at short <;> cases short
  split at long <;> cases long
  exact (List.take_prefix_take_left (Nat.le_succ _)).map _

end

/-! ## Scored passages -/

section

variable {Score : Type} [LinearOrder Score] [Zero Score]

def positives (score : StoredDocumentVersion × TextChunk → Score)
    (passages : List (StoredDocumentVersion × TextChunk)) : List (Candidate Score) :=
  (passages.map fun passage =>
    { score := score passage, document := passage.1, chunk := passage.2 :
      Candidate Score }).filter fun candidate => 0 < candidate.score

theorem mem_positives {score : StoredDocumentVersion × TextChunk → Score}
    {passages : List (StoredDocumentVersion × TextChunk)} {candidate : Candidate Score} :
    candidate ∈ positives score passages ↔ candidate.passage ∈ passages ∧
      candidate.score = score candidate.passage ∧ 0 < candidate.score := by
  simp only [positives, List.mem_filter, List.mem_map, decide_eq_true_eq]
  constructor
  · rintro ⟨⟨passage, member, rfl⟩, positive⟩
    exact ⟨member, rfl, positive⟩
  · rintro ⟨member, same, positive⟩
    refine ⟨⟨candidate.passage, member, ?_⟩, positive⟩
    rw [← same]
    rfl

theorem CorpusOf.distinct_positives {tenantId : String} {documents : List StoredDocumentVersion}
    (corpus : CorpusOf tenantId documents)
    (score : StoredDocumentVersion × TextChunk → Score) :
    Distinct (positives score (passagesOf documents)) := by
  have all : Distinct ((passagesOf documents).map fun passage =>
      { score := score passage, document := passage.1, chunk := passage.2 : Candidate Score }) := by
    constructor
    · intro candidate member
      obtain ⟨passage, inside, rfl⟩ := List.mem_map.mp member
      obtain ⟨document, listed, inside⟩ := List.mem_flatMap.mp inside
      obtain ⟨chunk, _, rfl⟩ := List.mem_map.mp inside
      exact corpus.valid document listed
    · rw [List.map_map]
      exact corpus.places
  exact all.sublist List.filter_sublist

end

end Crewos.Retrieval

import Crewos.Chunking.Service
import Crewos.Documents.Snapshot

/-! # Spans that cover a text

What the loops over chunks accept, as one relation: each chunk continues the text
from where the one before it ended. Such chunks reach every position and can be
glued together again. The loop of the service and the loop of a stored snapshot
accept the same chunks. -/

namespace Crewos.Chunking

open Foundation Documents

/-! ## Slices -/

section Slices

variable {text : List α} {start stop : Nat}

theorem slice_zero (within : text.length ≤ stop) : slice text 0 stop = text := by
  simp [slice, List.take_of_length_le within]

theorem length_slice (within : stop ≤ text.length) :
    (slice text start stop).length = stop - start := by
  rw [slice, List.length_take, List.length_drop]
  omega

theorem within_of_length_slice (span : start < stop)
    (length : (slice text start stop).length = stop - start) : stop ≤ text.length := by
  rw [slice, List.length_take, List.length_drop] at length
  omega

theorem drop_slice {from_ : Nat} (after : start ≤ from_) :
    (slice text start stop).drop (from_ - start) = slice text from_ stop := by
  rw [slice, List.drop_take, List.drop_drop]
  have place : start + (from_ - start) = from_ := by omega
  have size : stop - start - (from_ - start) = stop - from_ := by omega
  rw [place, size, slice]

theorem slice_append {middle : Nat} (first : start ≤ middle) (second : middle ≤ stop) :
    slice text start middle ++ slice text middle stop = slice text start stop := by
  have place : text.drop middle = (text.drop start).drop (middle - start) := by
    rw [List.drop_drop]
    congr 1
    omega
  have size : stop - start = (middle - start) + (stop - middle) := by omega
  rw [slice, slice, slice, place, size, List.take_add]

end Slices

/-! ## Chained chunks -/

/-- Chunks numbered from `index` on that continue a text covered up to
`previousEnd` and end at `last`. -/
inductive Chained (text : List Char) : Nat → Nat → List TextChunk → Nat → Prop
  | nil (index previousEnd : Nat) : Chained text index previousEnd [] previousEnd
  | cons {index previousEnd last : Nat} {chunk : TextChunk} {rest : List TextChunk}
      (number : chunk.index = index) (first : index = 0 → chunk.startChar = 0)
      (joins : chunk.startChar ≤ previousEnd) (advances : previousEnd < chunk.endChar)
      (source : chunk.text.toList = slice text chunk.startChar chunk.endChar)
      (rest_ : Chained text (index + 1) chunk.endChar rest last) :
      Chained text index previousEnd (chunk :: rest) last

section Chained

variable {text : List Char} {index previousEnd last : Nat} {chunks : List TextChunk}

/-- A loop that raises its error where the chain breaks accepts the chained chunks. -/
theorem chained_iff {ε : Type} {error : ε}
    {loop : List TextChunk → Nat → Nat → Except ε Nat}
    (done : ∀ index previousEnd, loop [] index previousEnd = .ok previousEnd)
    (turn : ∀ (chunk : TextChunk) rest index previousEnd, loop (chunk :: rest) index previousEnd =
      (raiseWhen (chunk.index ≠ index ∨ (index = 0 ∧ chunk.startChar ≠ 0) ∨
          previousEnd < chunk.startChar ∨ chunk.endChar ≤ previousEnd ∨
          chunk.text.toList ≠ slice text chunk.startChar chunk.endChar) error >>=
        fun _ => loop rest (index + 1) chunk.endChar)) :
    loop chunks index previousEnd = .ok last ↔ Chained text index previousEnd chunks last := by
  induction chunks generalizing index previousEnd with
  | nil =>
      rw [done]
      constructor
      · rintro ⟨⟩
        exact .nil _ _
      · rintro ⟨⟩
        rfl
  | cons chunk rest induction =>
      rw [turn, Outcome.bind_eq_ok]
      constructor
      · rintro ⟨_, admitted, rest⟩
        rw [raiseWhen_eq_ok] at admitted
        push Not at admitted
        obtain ⟨number, first, joins, advances, source⟩ := admitted
        exact .cons number first joins advances source (induction.mp rest)
      · intro chained
        cases chained with
        | cons number first joins advances source rest =>
            refine ⟨(), raiseWhen_of_not _ ?_, induction.mpr rest⟩
            push Not
            exact ⟨number, first, joins, advances, source⟩

theorem coverage_ok : ChunkingService.coverage text chunks index previousEnd = .ok last ↔
    Chained text index previousEnd chunks last :=
  chained_iff (fun _ _ => rfl) fun _ _ _ _ => rfl

theorem savedChunks_ok : savedChunks text chunks index previousEnd = .ok last ↔
    Chained text index previousEnd chunks last :=
  chained_iff (fun _ _ => rfl) fun _ _ _ _ => rfl

namespace Chained

/-- What is left of each chunk beyond the end of the one before it. -/
def glue : Nat → List TextChunk → List Char
  | _, [] => []
  | previousEnd, chunk :: rest =>
      chunk.text.toList.drop (previousEnd - chunk.startChar) ++ glue chunk.endChar rest

theorem source_of_mem (chained : Chained text index previousEnd chunks last) :
    ∀ chunk ∈ chunks, chunk.text.toList = slice text chunk.startChar chunk.endChar := by
  induction chained with
  | nil => simp
  | cons _ _ _ _ source _ induction =>
      intro chunk member
      rcases List.mem_cons.mp member with rfl | later
      · exact source
      · exact induction chunk later

theorem le_last (chained : Chained text index previousEnd chunks last) : previousEnd ≤ last := by
  induction chained with
  | nil => exact le_refl _
  | cons _ _ _ advances _ _ induction => exact advances.le.trans induction

theorem covers (chained : Chained text index previousEnd chunks last) {position : Nat}
    (after : previousEnd ≤ position) (before : position < last) :
    ∃ chunk ∈ chunks, chunk.startChar ≤ position ∧ position < chunk.endChar := by
  induction chained with
  | nil => omega
  | @cons _ _ _ chunk _ _ _ joins _ _ _ induction =>
      by_cases within : position < chunk.endChar
      · exact ⟨chunk, List.mem_cons_self, joins.trans after, within⟩
      · obtain ⟨other, member, span⟩ := induction (not_lt.mp within) before
        exact ⟨other, List.mem_cons_of_mem _ member, span⟩

/-- The chunks glued together are the text they span. -/
theorem glued (chained : Chained text index previousEnd chunks last) :
    glue previousEnd chunks = slice text previousEnd last := by
  induction chained with
  | nil => simp [glue, slice]
  | cons _ _ joins advances source rest induction =>
      rw [glue, source, drop_slice joins, induction, slice_append advances.le rest.le_last]

end Chained

end Chained

/-! ## The two validators -/

/-- The structural check of the service and of the snapshot: a chain over the
whole text. -/
def Covers (text : String) (chunks : List TextChunk) : Prop :=
  chunks ≠ [] ∧ Chained text.toList 0 0 chunks text.length

/-- The chunks reach every position, each is its source, and they rebuild the
text. -/
structure Rebuilds (text : String) (chunks : List TextChunk) : Prop where
  covered : ∀ position < text.length, ∃ chunk ∈ chunks,
    chunk.startChar ≤ position ∧ position < chunk.endChar
  source : ∀ chunk ∈ chunks,
    chunk.text.toList = slice text.toList chunk.startChar chunk.endChar ∧
      chunk.endChar ≤ text.length
  glued : ∃ first rest, chunks = first :: rest ∧
    first.text.toList ++ Chained.glue first.endChar rest = text.toList

theorem TextChunk.span_of_valid {chunk : TextChunk} (valid : chunk.valid = true) :
    1 ≤ chunk.text.length ∧ chunk.endChar = chunk.startChar + chunk.text.length := by
  simp only [TextChunk.valid, Bool.and_eq_true, decide_eq_true_eq, beq_iff_eq] at valid
  exact ⟨valid.1.1.1.1.1, valid.2⟩

theorem Covers.rebuilds {text : String} {chunks : List TextChunk} (covers : Covers text chunks)
    (valid : chunks.all TextChunk.valid = true) : Rebuilds text chunks := by
  obtain ⟨nonempty, chained⟩ := covers
  refine ⟨fun position before => chained.covers (Nat.zero_le _) before, fun chunk member => ?_, ?_⟩
  · have source := chained.source_of_mem chunk member
    obtain ⟨long, span⟩ := TextChunk.span_of_valid (List.all_eq_true.mp valid chunk member)
    have length : (slice text.toList chunk.startChar chunk.endChar).length =
        chunk.endChar - chunk.startChar := by
      rw [← source, String.length_toList]
      omega
    have within := within_of_length_slice (by omega) length
    rw [String.length_toList] at within
    exact ⟨source, within⟩
  · have glued := chained.glued
    have whole : slice text.toList 0 text.length = text.toList :=
      slice_zero String.length_toList.le
    cases chunks with
    | nil => exact absurd rfl nonempty
    | cons first rest =>
        refine ⟨first, rest, rfl, ?_⟩
        rw [Chained.glue, Nat.zero_sub, List.drop_zero, whole] at glued
        exact glued

theorem ChunkingService.chunk_ok {service : ChunkingService} {request : ChunkingRequest}
    {chunks : List TextChunk} {result : ChunkingResult}
    (splits : service.chunker.split request service.maxChunks service.maxOutputChars =
      .ok chunks) :
    service.chunk request = .ok result ↔
      result = { strategy := service.chunker.name, options := request.options, chunks } ∧
      result.valid = true ∧ chunks.length ≤ service.maxChunks ∧
      ChunkingService.outputChars chunks ≤ service.maxOutputChars ∧
      Covers request.text chunks := by
  simp only [ChunkingService.chunk, splits, Outcome.ok_bind, Outcome.bind_eq_ok, raiseWhen_eq_ok,
    Outcome.pure_eq_ok, coverage_ok, Bool.not_eq_false, not_or, not_lt, ne_eq, not_not, Covers]
  constructor
  · rintro ⟨_, valid, _, ⟨few, short⟩, _, nonempty, covered, chained, _, rfl, rfl⟩
    exact ⟨rfl, valid, few, short, nonempty, chained⟩
  · rintro ⟨rfl, valid, few, short, nonempty, chained⟩
    exact ⟨(), valid, (), ⟨few, short⟩, (), nonempty, _, chained, (), rfl, rfl⟩

theorem StoredDocumentVersion.validate_ok {record : StoredDocumentVersion} {document : DocumentInput}
    (tenant : tenantPattern record.tenantId = true) (version : 1 ≤ record.version)
    (checked : record.document.validate = .ok document) {accepted : StoredDocumentVersion} :
    record.validate = .ok accepted ↔
      accepted = { record with document } ∧ record.chunking.valid = true ∧
        Covers document.text record.chunking.chunks := by
  have early : ¬record.version < 1 := not_lt.mpr version
  simp only [StoredDocumentVersion.validate, tenant, early, checked, Outcome.bind_eq_ok,
    raiseWhen_eq_ok, Outcome.pure_eq_ok, savedChunks_ok, Covers, Bool.not_eq_false, ne_eq, not_not,
    Except.ok.injEq]
  constructor
  · rintro ⟨_, _, _, _, _, rfl, _, valid, _, nonempty, covered, chained, _, rfl, rfl⟩
    exact ⟨rfl, valid, nonempty, chained⟩
  · rintro ⟨rfl, valid, nonempty, chained⟩
    exact ⟨(), by simp, (), by simp, _, rfl, (), valid, (), nonempty, _, chained, (), rfl, rfl⟩

theorem DocumentInput.text_of_validate {input checked : DocumentInput}
    (ok : input.validate = .ok checked) : checked.text = input.text := by
  simp only [DocumentInput.validate, Outcome.bind_eq_ok, Outcome.pure_eq_ok] at ok
  obtain ⟨_, _, _, _, _, _, _, _, rfl⟩ := ok
  rfl

/-- Whatever chunks a strategy returns: the service accepts only those that
rebuild the text, and apart from its limits it accepts exactly those that a
snapshot of the text accepts when it is assembled and when it is read back. -/
theorem span_validation (service : ChunkingService) (request : ChunkingRequest)
    {chunks : List TextChunk}
    (splits : service.chunker.split request service.maxChunks service.maxOutputChars =
      .ok chunks) :
    (∀ result, service.chunk request = .ok result →
      result.chunks = chunks ∧ Rebuilds request.text chunks) ∧
    ∀ record : StoredDocumentVersion, tenantPattern record.tenantId = true → 1 ≤ record.version →
      (∃ document, record.document.validate = .ok document) →
      record.document.text = request.text →
      record.chunking =
        { strategy := service.chunker.name, options := request.options, chunks } →
      ((∃ accepted, record.validate = .ok accepted) ↔
        record.chunking.valid = true ∧ Covers request.text chunks) ∧
      (chunks.length ≤ service.maxChunks →
        ChunkingService.outputChars chunks ≤ service.maxOutputChars →
        ((∃ accepted, record.validate = .ok accepted) ↔
          ∃ result, service.chunk request = .ok result)) ∧
      ∀ result, service.chunk request = .ok result →
        ∃ accepted, record.validate = .ok accepted ∧ accepted.chunking = result ∧
          StoredDocumentVersion.validateJson accepted.dump = .ok accepted := by
  constructor
  · intro result accepted
    obtain ⟨rfl, valid, _, _, covers⟩ := (ChunkingService.chunk_ok splits).mp accepted
    simp only [ChunkingResult.valid, Bool.and_eq_true] at valid
    exact ⟨rfl, covers.rebuilds valid.2⟩
  · rintro record tenant version ⟨document, checked⟩ text chunking
    have sameText : document.text = request.text :=
      (DocumentInput.text_of_validate checked).trans text
    have stored : ∀ accepted, record.validate = .ok accepted ↔
        accepted = { record with document } ∧ record.chunking.valid = true ∧
          Covers request.text chunks := by
      intro accepted
      rw [StoredDocumentVersion.validate_ok tenant version checked, sameText, chunking]
    refine ⟨?_, fun few short => ?_, fun result accepted => ?_⟩
    · constructor
      · rintro ⟨accepted, ok⟩
        exact ((stored accepted).mp ok).2
      · intro holds
        exact ⟨_, (stored _).mpr ⟨rfl, holds⟩⟩
    · simp only [stored, ChunkingService.chunk_ok splits]
      constructor
      · rintro ⟨_, rfl, valid, covers⟩
        rw [chunking] at valid
        exact ⟨_, rfl, valid, few, short, covers⟩
      · rintro ⟨_, rfl, valid, _, _, covers⟩
        rw [← chunking] at valid
        exact ⟨_, rfl, valid, covers⟩
    · obtain ⟨rfl, valid, _, _, covers⟩ := (ChunkingService.chunk_ok splits).mp accepted
      rw [← chunking] at valid
      have saved := (stored { record with document }).mpr ⟨rfl, valid, covers⟩
      refine ⟨_, saved, chunking, ?_⟩
      rw [StoredDocumentVersion.validateJson_dump]
      exact StoredDocumentVersion.validate_idem saved

namespace Sample

def request : ChunkingRequest :=
  { text := "abc", options := default, size := by decide +kernel, content := by decide +kernel }

def chunks : List TextChunk :=
  [{ index := 0, text := "ab", startChar := 0, endChar := 2 },
    { index := 1, text := "bc", startChar := 1, endChar := 3 }]

def service : ChunkingService :=
  .standard { name := "fixture_v1", split := fun _ _ _ => .ok chunks }

def record : StoredDocumentVersion :=
  { documentId := .first
    tenantId := "acme"
    version := 1
    createdAt := 0
    document := { title := "t", text := "abc", sourceRef := none }
    chunking := { strategy := "fixture_v1", options := default, chunks } }

end Sample

/-- The overlapping chunks are accepted by the service and in a snapshot. -/
theorem span_validation_overlapping :
    (∃ result, Sample.service.chunk Sample.request = .ok result) ∧
      ∃ accepted, Sample.record.validate = .ok accepted := by
  obtain ⟨result, accepted⟩ : ∃ result, Sample.service.chunk Sample.request = .ok result :=
    ⟨Sample.record.chunking, by decide +kernel⟩
  have agrees := (span_validation Sample.service Sample.request rfl).2 Sample.record
    (by decide +kernel) (by decide) ⟨Sample.record.document, by decide +kernel⟩ rfl rfl
  exact ⟨⟨result, accepted⟩, (agrees.2.1 (by decide) (by decide +kernel)).mpr ⟨result, accepted⟩⟩

end Crewos.Chunking

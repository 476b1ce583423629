import Crewos.Documents.Chain

/-! # Reading a tenant's corpus

The rows without a newer row are the rows that a read of each document's latest
version finds, one for each document. -/

namespace Crewos.Documents

open Foundation SQLiteDocumentStore

/-- The order of `ORDER BY document_id`. -/
abbrev RowLe (left right : VersionRow) : Prop := left.documentId.text ≤ right.documentId.text

instance : Std.Total RowLe :=
  ⟨fun left right => String.le_total left.documentId.text right.documentId.text⟩

instance : IsTrans VersionRow RowLe := ⟨fun _ _ _ => String.le_trans⟩

/-- The order of `ORDER BY document_id`, without ties. -/
def RecordLt (left right : StoredDocumentVersion) : Prop :=
  left.documentId.text < right.documentId.text

/-! ## The latest rows -/

namespace DocumentDb

variable {db : DocumentDb} {tenantId : String}

theorem mem_latestRows {row : VersionRow} : row ∈ latestRows tenantId db ↔
    row ∈ db.versions ∧ row.tenantId = tenantId ∧
      row.version = db.latest tenantId row.documentId := by
  simp only [latestRows, List.mem_filter, decide_eq_true_eq, not_exists, not_and, not_lt]
  refine and_congr_right fun member => and_congr_right fun tenant => ?_
  constructor
  · intro newest
    apply le_antisymm
    · exact latest_le.mp (le_refl _) row member tenant rfl
    · exact latest_le.mpr fun other otherMember sameTenant document =>
        newest other otherMember (sameTenant.trans tenant.symm) document
  · rintro newest other otherMember sameTenant document
    rw [newest]
    exact latest_le.mp (le_refl _) other otherMember (sameTenant.trans tenant) document

/-- A document that has versions has a latest one. -/
theorem Numbered.latest_mem (numbered : db.Numbered) {row : VersionRow}
    (member : row ∈ db.versions) : ∃ newest ∈ latestRows row.tenantId db,
      newest.documentId = row.documentId := by
  have chain := numbered row.tenantId row.documentId
  have some : row.version ∈ (db.versionsOf row.tenantId row.documentId).map VersionRow.version :=
    List.mem_map_of_mem (mem_versionsOf.mpr ⟨member, rfl, rfl⟩)
  have last : db.latest row.tenantId row.documentId ∈
      (db.versionsOf row.tenantId row.documentId).map VersionRow.version := by
    rw [chain, List.mem_range'_1] at some ⊢
    omega
  obtain ⟨newest, newestMember, version⟩ := List.mem_map.mp last
  obtain ⟨stored, tenant, document⟩ := mem_versionsOf.mp newestMember
  exact ⟨newest, mem_latestRows.mpr ⟨stored, tenant, document ▸ version⟩, document⟩

theorem Numbered.latest_distinct (numbered : db.Numbered) (tenantId : String) :
    (latestRows tenantId db).Pairwise fun left right => left.documentId ≠ right.documentId := by
  rw [List.pairwise_iff_forall_sublist]
  intro left right both same
  have leftMember := mem_latestRows.mp (both.subset (List.mem_cons_self))
  have rightMember := mem_latestRows.mp
    (both.subset (List.mem_cons_of_mem _ (List.mem_singleton_self _)))
  have chain := numbered tenantId left.documentId
  -- Both rows would stand in the document's chain under one number.
  have inside : [left, right].Sublist (db.versionsOf tenantId left.documentId) := by
    have chosen := (both.trans List.filter_sublist).filter fun row =>
      decide (row.tenantId = tenantId ∧ row.documentId = left.documentId)
    rwa [List.filter_eq_self.mpr] at chosen
    intro row member
    simp only [List.mem_cons, List.not_mem_nil, or_false] at member
    rcases member with rfl | rfl
    · simp [leftMember.2.1]
    · simp [rightMember.2.1, same]
  have twice := inside.map VersionRow.version
  rw [chain] at twice
  have distinct := twice.nodup List.nodup_range'
  simp [leftMember.2.2, rightMember.2.2, same] at distinct

end DocumentDb

/-! ## The records -/

/-- The latest records of a tenant: one for each of its documents, in order. -/
structure Corpus (tenantId : String) (db : DocumentDb) (records : List StoredDocumentVersion) :
    Prop where
  ordered : records.Pairwise RecordLt
  documents : ∀ documentId, (∃ record ∈ records, record.documentId = documentId) ↔
    ∃ row ∈ db.versions, row.tenantId = tenantId ∧ row.documentId = documentId
  latest : ∀ record ∈ records,
    SQLiteDocumentStore.get tenantId record.documentId none db = .ok (record, db)
  stored : ∀ record ∈ records, VersionRow.of record ∈ db.versions

theorem Storable.get_latest {db : DocumentDb} (numbered : db.Numbered)
    {saved : StoredDocumentVersion} (storable : Storable saved)
    (newest : VersionRow.of saved ∈ latestRows saved.tenantId db) :
    SQLiteDocumentStore.get saved.tenantId saved.documentId none db = .ok (saved, db) := by
  obtain ⟨member, _, version⟩ := DocumentDb.mem_latestRows.mp newest
  have identified := (identity_of_valid storable.1).2
  have found := numbered.find (DocumentDb.mem_versionsOf.mpr ⟨member, rfl, rfl⟩)
  rw [version] at found
  have found : (db.versionsOf saved.tenantId saved.documentId).find? (fun row =>
      row.version = none.getD (db.latest saved.tenantId saved.documentId)) =
        some (.of saved) := found
  have inside : ¬∃ exact ∈ (none : Option Nat), exact < 1 ∨ 2 ^ 63 ≤ exact := by simp
  simp only [SQLiteDocumentStore.get, identified, Outcome.ok_bind, raiseWhen_of_not _ inside,
    found, storable.decode]
  rfl

theorem mapM_decode {records : List StoredDocumentVersion}
    (storable : ∀ record ∈ records, Storable record) :
    (records.map VersionRow.of).mapM decode = .ok records := by
  induction records with
  | nil => rfl
  | cons record records induction =>
      have first := (storable record List.mem_cons_self).decode
      have others := induction fun other member => storable other (List.mem_cons_of_mem _ member)
      simp [List.mapM_cons, first, others, pure, Except.pure]

theorem Chained.corpus {trace : List Transition} {state : DocumentState}
    (chained : Chained trace state) (tenantId : String) :
    ∃ records, Corpus tenantId state.db records ∧
      ((latestRows tenantId state.db).insertionSort RowLe) = records.map VersionRow.of ∧
      ((latestRows tenantId state.db).insertionSort RowLe).mapM decode = .ok records := by
  have same := List.perm_insertionSort RowLe (latestRows tenantId state.db)
  have sorted := List.pairwise_insertionSort RowLe (latestRows tenantId state.db)
  have distinct : ((latestRows tenantId state.db).insertionSort RowLe).Pairwise
      fun left right => left.documentId ≠ right.documentId :=
    (chained.numbered.latest_distinct tenantId).perm same.symm fun different => different.symm
  have latest : ∀ row ∈ (latestRows tenantId state.db).insertionSort RowLe,
      row ∈ latestRows tenantId state.db := fun row member => same.subset member
  have every : ∀ row ∈ latestRows tenantId state.db,
      row ∈ (latestRows tenantId state.db).insertionSort RowLe :=
    fun row member => same.symm.subset member
  generalize (latestRows tenantId state.db).insertionSort RowLe = rows at *
  obtain ⟨records, rfl, storable⟩ : ∃ records : List StoredDocumentVersion,
      rows = records.map VersionRow.of ∧
      ∀ record ∈ records, Storable record := by
    have backed : ∀ row ∈ rows, ∃ saved, Storable saved ∧ row = .of saved := by
      intro row member
      obtain ⟨saved, storable, equal, _⟩ :=
        chained.rows row (DocumentDb.mem_latestRows.mp (latest row member)).1
      exact ⟨saved, storable, equal⟩
    clear same sorted distinct latest every
    induction rows with
    | nil => exact ⟨[], rfl, by simp⟩
    | cons row rows induction =>
        obtain ⟨records, rfl, storable⟩ :=
          induction fun row member => backed row (List.mem_cons_of_mem _ member)
        obtain ⟨saved, fits, rfl⟩ := backed row List.mem_cons_self
        refine ⟨saved :: records, rfl, ?_⟩
        simpa [fits] using storable
  have newest : ∀ record ∈ records, VersionRow.of record ∈ latestRows tenantId state.db :=
    fun record member => latest _ (List.mem_map_of_mem member)
  refine ⟨records, ⟨?ordered, ?documents, ?latest, ?stored⟩, rfl, mapM_decode storable⟩
  case ordered =>
    rw [List.pairwise_map] at sorted distinct
    refine (sorted.and distinct).imp ?_
    rintro left right ⟨before, different⟩
    refine String.not_le.mp fun after => different ?_
    exact Uuid4.ext_text (String.le_antisymm before after)
  case documents =>
    intro documentId
    constructor
    · rintro ⟨record, member, rfl⟩
      obtain ⟨stored, tenant, _⟩ := DocumentDb.mem_latestRows.mp (newest record member)
      exact ⟨_, stored, tenant, rfl⟩
    · rintro ⟨row, stored, rfl, rfl⟩
      obtain ⟨last, lastMember, document⟩ := chained.numbered.latest_mem stored
      obtain ⟨record, member, rfl⟩ := List.mem_map.mp (every last lastMember)
      exact ⟨record, member, document⟩
  case latest =>
    intro record member
    have tenant := (DocumentDb.mem_latestRows.mp (newest record member)).2.1
    have read := (storable record member).get_latest chained.numbered
      (by rw [show record.tenantId = tenantId from tenant]; exact newest record member)
    rwa [show record.tenantId = tenantId from tenant] at read
  case stored =>
    exact fun record member => (DocumentDb.mem_latestRows.mp (newest record member)).1

theorem get_latest_mem {tenantId : String} {documentId : Uuid4} {db next : DocumentDb}
    {record : StoredDocumentVersion}
    (read : SQLiteDocumentStore.get tenantId documentId none db = .ok (record, next)) :
    ∃ row ∈ db.versions, row.tenantId = tenantId ∧ row.documentId = documentId := by
  simp only [SQLiteDocumentStore.get, Outcome.bind_eq_ok] at read
  obtain ⟨_, _, _, _, read⟩ := read
  split at read
  · rename_i row found
    exact ⟨row, DocumentDb.mem_versionsOf.mp (List.mem_of_find?_eq_some found)⟩
  · cases read

theorem Corpus.mem_iff {tenantId : String} {db : DocumentDb}
    {records : List StoredDocumentVersion} (corpus : Corpus tenantId db records)
    (record : StoredDocumentVersion) : record ∈ records ↔
      (SQLiteDocumentStore.get tenantId record.documentId none db).map Prod.fst = .ok record := by
  constructor
  · intro member
    rw [corpus.latest record member]
    rfl
  · intro read
    cases found : SQLiteDocumentStore.get tenantId record.documentId none db with
    | error error =>
        rw [found] at read
        cases read
    | ok out =>
        rw [found] at read
        cases read
        obtain ⟨same, sameMember, document⟩ :=
          (corpus.documents _).mpr (get_latest_mem found)
        have again := corpus.latest same sameMember
        rw [document, found] at again
        cases again
        exact sameMember

instance : Std.Irrefl RecordLt := ⟨fun record => String.lt_irrefl record.documentId.text⟩

instance : Std.Asymm RecordLt := ⟨fun _ _ => String.lt_asymm⟩

theorem Corpus.unique {tenantId : String} {db other : DocumentDb}
    {records others : List StoredDocumentVersion} (corpus : Corpus tenantId db records)
    (otherCorpus : Corpus tenantId other others)
    (same : ∀ documentId, (SQLiteDocumentStore.get tenantId documentId none db).map Prod.fst =
      (SQLiteDocumentStore.get tenantId documentId none other).map Prod.fst) :
    records = others := by
  refine corpus.ordered.eq_of_mem_iff otherCorpus.ordered fun record => ?_
  rw [corpus.mem_iff, otherCorpus.mem_iff, same]

/-! ## The read -/

theorem Chained.readLatestDocuments {trace : List Transition} {state : DocumentState}
    (chained : Chained trace state) {tenantId : String} (tenant : tenantPattern tenantId = true)
    (snapshotBytes : Dict → Nat) :
    ∃ records, Corpus tenantId state.db records ∧ ∀ maxDocuments maxSnapshotBytes : Int,
      1 ≤ maxDocuments → 1 ≤ maxSnapshotBytes →
      SQLiteDocumentStore.readLatestDocuments snapshotBytes tenantId maxDocuments
          maxSnapshotBytes state.db =
        if records.length ≤ maxDocuments ∧
            (records.map fun record => snapshotBytes record.dump).sum ≤ maxSnapshotBytes then
          .ok records
        else
          .error (.documentCorpusLimitExceeded "Tenant corpus exceeds scan limits") := by
  obtain ⟨records, corpus, sorted, decoded⟩ := chained.corpus tenantId
  refine ⟨records, corpus, fun maxDocuments maxSnapshotBytes oneDocument oneByte => ?_⟩
  have rows := (List.perm_insertionSort RowLe (latestRows tenantId state.db)).symm
  rw [sorted] at rows
  have count : (latestRows tenantId state.db).length = records.length := by
    rw [rows.length_eq, List.length_map]
  have size : ((latestRows tenantId state.db).map fun row => snapshotBytes row.snapshot).sum =
      (records.map fun record => snapshotBytes record.dump).sum := by
    rw [(rows.map _).sum_nat, List.map_map]
    rfl
  have positive : ¬(maxDocuments < 1 ∨ maxSnapshotBytes < 1) := by omega
  have known : identity tenantId = .ok () := raiseWhen_of_not _ (by simp [tenant])
  simp only [SQLiteDocumentStore.readLatestDocuments, raiseWhen_of_not _ positive, known,
    Outcome.ok_bind, count, size]
  by_cases within : records.length ≤ maxDocuments ∧
      (records.map fun record => snapshotBytes record.dump).sum ≤ maxSnapshotBytes
  · have admitted : ¬(maxDocuments < records.length ∨
        maxSnapshotBytes < (records.map fun record => snapshotBytes record.dump).sum) := by omega
    rw [if_pos within, raiseWhen_of_not _ admitted]
    exact decoded
  · have exceeded : maxDocuments < records.length ∨
        maxSnapshotBytes < (records.map fun record => snapshotBytes record.dump).sum := by omega
    rw [if_neg within, raiseWhen_of _ exceeded]
    rfl

/-- In every reachable state a corpus read returns, in the order of their ids, the
records that a read of each document's latest version returns, or raises when
there are too many of them or too large ones; two reachable states in which those
reads agree have one corpus. -/
theorem corpus_reads_latest {state : DocumentState} (reachable : Reachable Step Initial state)
    (snapshotBytes : Dict → Nat) (tenantId : String) (tenant : tenantPattern tenantId = true) :
    (∃ records, Corpus tenantId state.db records ∧ ∀ maxDocuments maxSnapshotBytes : Int,
      1 ≤ maxDocuments → 1 ≤ maxSnapshotBytes →
      readLatestDocuments snapshotBytes tenantId maxDocuments maxSnapshotBytes state.db =
        if records.length ≤ maxDocuments ∧
            (records.map fun record => snapshotBytes record.dump).sum ≤ maxSnapshotBytes then
          .ok records
        else
          .error (.documentCorpusLimitExceeded "Tenant corpus exceeds scan limits")) ∧
    ∀ other, Reachable Step Initial other →
      (∀ documentId, (SQLiteDocumentStore.get tenantId documentId none state.db).map Prod.fst =
        (SQLiteDocumentStore.get tenantId documentId none other.db).map Prod.fst) →
      ∀ maxDocuments maxSnapshotBytes : Int, 1 ≤ maxDocuments → 1 ≤ maxSnapshotBytes →
        readLatestDocuments snapshotBytes tenantId maxDocuments maxSnapshotBytes state.db =
          readLatestDocuments snapshotBytes tenantId maxDocuments maxSnapshotBytes other.db := by
  obtain ⟨first, trace, initial, run⟩ := reachable
  obtain ⟨records, corpus, reads⟩ :=
    (Chained.of_run initial run).readLatestDocuments tenant snapshotBytes
  refine ⟨⟨records, corpus, reads⟩, ?_⟩
  rintro other ⟨otherFirst, otherTrace, otherInitial, otherRun⟩ same
  obtain ⟨others, otherCorpus, otherReads⟩ :=
    (Chained.of_run otherInitial otherRun).readLatestDocuments tenant snapshotBytes
  obtain rfl := corpus.unique otherCorpus same
  intro maxDocuments maxSnapshotBytes oneDocument oneByte
  rw [reads _ _ oneDocument oneByte, otherReads _ _ oneDocument oneByte]

/-- The sample corpus is the one record. -/
theorem corpus_reads_latest_committed : Corpus "acme" Sample.committed.db [Sample.record] := by
  have reachable : Reachable Step Initial Sample.committed :=
    ⟨Sample.start, Sample.trace, ⟨rfl, rfl⟩, Sample.committed_run⟩
  obtain ⟨⟨records, corpus, reads⟩, _⟩ :=
    corpus_reads_latest reachable (fun _ => 100) "acme" (by decide +kernel)
  have answered := reads 1 100 (by decide) (by decide)
  rw [show readLatestDocuments (fun _ => 100) "acme" 1 100 Sample.committed.db =
    .ok [Sample.record] by decide +kernel] at answered
  split at answered <;> cases answered
  exact corpus

end Crewos.Documents

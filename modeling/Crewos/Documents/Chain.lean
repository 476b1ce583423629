import Crewos.Documents.Histories

/-! # Version chains

The versions of a document are appended one after the other and read back as
they were appended, until the document is deleted. -/

namespace Crewos.Documents

open Foundation SQLiteDocumentStore

/-! ## Appends -/

/-- The call stored the record as a new version. -/
def Transition.Appends (transition : Transition) (saved : StoredDocumentVersion) : Prop :=
  ((∃ claim record, transition.call.operation = .commitJob claim record) ∨
    ∃ record, transition.call.operation = .createVersion record) ∧
  transition.reply = .ok (.record saved)

/-- The trace appended the record and has not deleted its document since. -/
def Stored (trace : List Transition) (saved : StoredDocumentVersion) : Prop :=
  ∃ before append after, trace = before ++ append :: after ∧ append.Appends saved ∧
    ∀ deletion ∈ after, ¬deletion.Deletes saved.tenantId saved.documentId

theorem not_stored_nil {saved : StoredDocumentVersion} : ¬Stored [] saved := by
  rintro ⟨before, append, after, split, _⟩
  simp at split

theorem stored_snoc {trace : List Transition} {transition : Transition}
    {saved : StoredDocumentVersion} :
    Stored (trace ++ [transition]) saved ↔ transition.Appends saved ∨
      Stored trace saved ∧ ¬transition.Deletes saved.tenantId saved.documentId := by
  constructor
  · rintro ⟨before, append, after, split, appends, spared⟩
    rcases snoc_split split with ⟨rfl, rfl, rfl⟩ | ⟨init, rfl, rfl⟩
    · exact .inl appends
    · refine .inr ⟨⟨before, append, init, rfl, appends, fun deletion member => ?_⟩, ?_⟩
      · exact spared deletion (by simp [member])
      · exact spared transition (by simp)
  · rintro (appends | ⟨⟨before, append, after, rfl, appends, spared⟩, spares⟩)
    · exact ⟨trace, transition, [], rfl, appends, by simp⟩
    · refine ⟨before, append, after ++ [transition], by simp, appends, ?_⟩
      intro deletion member
      rw [List.mem_append, List.mem_singleton] at member
      rcases member with earlier | rfl
      · exact spared deletion earlier
      · exact spares

/-- What a call does to the versions, and what it therefore is. -/
inductive VersionStep (before after : DocumentDb) (transition : Transition) : Prop where
  | kept (same : after.versions = before.versions) (appends : ∀ saved, ¬transition.Appends saved)
      (deletes : ∀ tenantId documentId, ¬transition.Deletes tenantId documentId)
  | appended {saved : StoredDocumentVersion} (appends : transition.Appends saved)
      (storable : Storable saved)
      (following : saved.version = before.latest saved.tenantId saved.documentId + 1)
      (versions : after.versions = before.versions ++ [.of saved])
  | deleted {tenantId : String} {documentId : Uuid4}
      (deletes : transition.Deletes tenantId documentId)
      (versions : after.versions = before.versions.filter fun row =>
        ¬(row.tenantId = tenantId ∧ row.documentId = documentId))

theorem Transition.Appends.not_deletes {transition : Transition} {saved : StoredDocumentVersion}
    (appends : transition.Appends saved) (tenantId : String) (documentId : Uuid4) :
    ¬transition.Deletes tenantId documentId := by
  rintro ⟨deletes, _⟩
  rcases appends.1 with ⟨_, _, performed⟩ | ⟨_, performed⟩ <;>
    · rw [deletes] at performed
      cases performed

theorem Transition.Appends.unique {transition : Transition} {saved other : StoredDocumentVersion}
    (appends : transition.Appends saved) (again : transition.Appends other) : other = saved := by
  have same := again.2.symm.trans appends.2
  cases same
  rfl

theorem Step.versionStep {state next : DocumentState} {transition : Transition}
    (step : Step state transition next) (ids : state.db.WellFormed) :
    VersionStep state.db next.db transition := by
  rw [step.db, ← step.before]
  rcases step.effect ids with ⟨reply, answered, effect⟩ | ⟨error, answered, same⟩
  · have versions := effect.versions
    rcases transition with ⟨⟨store, operation, clock⟩, before, answer, after⟩
    dsimp only at versions answered ⊢
    generalize reached : after.versions = rows at versions
    cases versions with
    | kept quiet =>
        refine .kept reached ?_ ?_
        · rintro saved ⟨⟨_, _, performed⟩ | ⟨_, performed⟩, _⟩
          · exact quiet (by rw [show operation = _ from performed]; trivial)
          · exact quiet (by rw [show operation = _ from performed]; trivial)
        · rintro tenantId documentId ⟨performed, _⟩
          exact quiet (by rw [show operation = _ from performed]; trivial)
    | committed _ _ _ following _ storable =>
        exact .appended ⟨.inl ⟨_, _, rfl⟩, answered⟩ storable following reached
    | created _ following storable =>
        exact .appended ⟨.inr ⟨_, rfl⟩, answered⟩ storable following reached
    | deleted => exact .deleted ⟨rfl, _, answered⟩ reached
  · refine .kept (by rw [same]) ?_ ?_
    · rintro saved ⟨_, returned⟩
      rw [answered] at returned
      cases returned
    · rintro tenantId documentId ⟨_, _, returned⟩
      rw [answered] at returned
      cases returned

/-! ## One chain -/

namespace DocumentDb

variable {db next : DocumentDb} {tenantId : String} {documentId : Uuid4}
  {saved : StoredDocumentVersion}

theorem mem_versionsOf {row : VersionRow} : row ∈ db.versionsOf tenantId documentId ↔
    row ∈ db.versions ∧ row.tenantId = tenantId ∧ row.documentId = documentId := by
  simp [versionsOf]

theorem latest_congr (same : next.versionsOf tenantId documentId =
    db.versionsOf tenantId documentId) :
    next.latest tenantId documentId = db.latest tenantId documentId := by
  rw [latest, same, latest]

theorem versionsOf_append (versions : next.versions = db.versions ++ [.of saved])
    (about : saved.tenantId = tenantId ∧ saved.documentId = documentId) :
    next.versionsOf tenantId documentId = db.versionsOf tenantId documentId ++ [.of saved] := by
  simp [versionsOf, versions, VersionRow.of, about]

theorem versionsOf_append_other (versions : next.versions = db.versions ++ [.of saved])
    (other : ¬(saved.tenantId = tenantId ∧ saved.documentId = documentId)) :
    next.versionsOf tenantId documentId = db.versionsOf tenantId documentId := by
  simp [versionsOf, versions, VersionRow.of, other]

theorem versionsOf_delete (versions : next.versions = db.versions.filter fun row =>
    ¬(row.tenantId = tenantId ∧ row.documentId = documentId)) :
    next.versionsOf tenantId documentId = [] := by
  rw [versionsOf, versions, List.filter_filter, List.filter_eq_nil_iff]
  simp

theorem versionsOf_delete_other {deletedTenant : String} {deleted : Uuid4}
    (versions : next.versions = db.versions.filter fun row =>
      ¬(row.tenantId = deletedTenant ∧ row.documentId = deleted))
    (other : ¬(deletedTenant = tenantId ∧ deleted = documentId)) :
    next.versionsOf tenantId documentId = db.versionsOf tenantId documentId := by
  rw [versionsOf, versions, List.filter_filter, versionsOf]
  apply List.filter_congr
  rintro row _
  rw [Bool.and_eq_left_iff_imp]
  intro about
  rw [decide_eq_true_eq] at about ⊢
  rintro ⟨rfl, rfl⟩
  exact other about

/-- The versions of every document are numbered from one on. -/
def Numbered (db : DocumentDb) : Prop := ∀ tenantId documentId,
  (db.versionsOf tenantId documentId).map VersionRow.version =
    List.range' 1 (db.latest tenantId documentId)

theorem Numbered.step {transition : Transition} (numbered : db.Numbered)
    (step : VersionStep db next transition) : next.Numbered := by
  intro tenantId documentId
  have before := numbered tenantId documentId
  cases step with
  | kept same =>
      have same : next.versionsOf tenantId documentId = db.versionsOf tenantId documentId := by
        rw [versionsOf, same, versionsOf]
      rw [latest_congr same, same, before]
  | @appended saved _ _ following versions =>
      by_cases about : saved.tenantId = tenantId ∧ saved.documentId = documentId
      · have latest := latest_append versions following
        obtain ⟨rfl, rfl⟩ := about
        rw [versionsOf_append versions ⟨rfl, rfl⟩, latest, List.map_append, before, following,
          List.range'_1_concat, Nat.add_comm 1]
        simp [VersionRow.of, following]
      · have same := versionsOf_append_other versions about
        rw [latest_congr same, same, before]
  | @deleted deletedTenant deleted _ versions =>
      by_cases about : deletedTenant = tenantId ∧ deleted = documentId
      · obtain ⟨rfl, rfl⟩ := about
        have none := versionsOf_delete versions
        simp [latest, none]
      · have same := versionsOf_delete_other versions about
        rw [latest_congr same, same, before]

theorem Numbered.eq_of_version (numbered : db.Numbered) {row other : VersionRow}
    (member : row ∈ db.versionsOf tenantId documentId)
    (otherMember : other ∈ db.versionsOf tenantId documentId)
    (same : row.version = other.version) : row = other := by
  refine List.inj_on_of_nodup_map ?_ member otherMember same
  rw [numbered tenantId documentId]
  exact List.nodup_range'

theorem Numbered.find (numbered : db.Numbered) {row : VersionRow}
    (member : row ∈ db.versionsOf tenantId documentId) :
    (db.versionsOf tenantId documentId).find? (fun other => other.version = row.version) =
      some row := by
  cases found : (db.versionsOf tenantId documentId).find?
      (fun other => other.version = row.version) with
  | none => simpa using List.find?_eq_none.mp found row member
  | some other =>
      have version := List.find?_some found
      rw [decide_eq_true_eq] at version
      rw [numbered.eq_of_version (List.mem_of_find?_eq_some found) member version]

end DocumentDb

/-! ## What is read back -/

theorem VersionRow.of_injective {saved other : StoredDocumentVersion}
    (same : VersionRow.of saved = .of other) : saved = other := by
  have read := StoredDocumentVersion.read_dump saved
  rw [show saved.dump = other.dump from congrArg VersionRow.snapshot same,
    StoredDocumentVersion.read_dump] at read
  exact (Except.ok.inj read).symm

theorem Storable.decode {saved : StoredDocumentVersion} (storable : Storable saved) :
    SQLiteDocumentStore.decode (.of saved) = .ok saved := by
  simp [SQLiteDocumentStore.decode, VersionRow.of, StoredDocumentVersion.validateJson_dump,
    storable.1, raiseWhen, pure, Except.pure]

theorem identity_of_valid {saved : StoredDocumentVersion} (valid : saved.validate = .ok saved) :
    tenantPattern saved.tenantId = true ∧ identity saved.tenantId = .ok () := by
  simp only [StoredDocumentVersion.validate, Outcome.bind_eq_ok, raiseWhen_eq_ok] at valid
  obtain ⟨_, tenant, _⟩ := valid
  exact ⟨by simpa using tenant, raiseWhen_of_not _ tenant⟩

theorem Storable.positive {saved : StoredDocumentVersion} (storable : Storable saved) :
    1 ≤ saved.version := by
  have valid := storable.1
  simp only [StoredDocumentVersion.validate, Outcome.bind_eq_ok, raiseWhen_eq_ok] at valid
  obtain ⟨_, _, _, positive, _⟩ := valid
  omega

/-- The rows are the records appended and not deleted since, under their numbers. -/
structure Chained (trace : List Transition) (state : DocumentState) : Prop where
  valid : state.Valid
  numbered : state.db.Numbered
  rows : ∀ row ∈ state.db.versions, ∃ saved, Storable saved ∧ row = .of saved ∧
    Stored trace saved
  stored : ∀ saved, Stored trace saved → VersionRow.of saved ∈ state.db.versions

namespace Chained

variable {trace : List Transition} {state next : DocumentState} {tenantId : String}
  {documentId : Uuid4}

theorem initial (initial : Initial state) : Chained [] state := by
  refine ⟨.initial initial, ?_, ?_, ?_⟩
  · intro tenantId documentId
    simp [initial.1, DocumentDb.latest, DocumentDb.versionsOf, DocumentDb.empty]
  · simp [initial.1, DocumentDb.empty]
  · exact fun saved stored => absurd stored not_stored_nil

theorem step {transition : Transition} (chained : Chained trace state)
    (step : Step state transition next) : Chained (trace ++ [transition]) next := by
  have versions := step.versionStep chained.valid.ids
  refine ⟨chained.valid.step step, chained.numbered.step versions, ?rows, ?stored⟩
  case rows =>
    intro row member
    cases versions with
    | kept same _ deletes =>
        rw [same] at member
        obtain ⟨saved, storable, rfl, stored⟩ := chained.rows row member
        exact ⟨saved, storable, rfl, stored_snoc.mpr (.inr ⟨stored, deletes _ _⟩)⟩
    | appended appends storable _ versions =>
        rw [versions, List.mem_append, List.mem_singleton] at member
        rcases member with old | rfl
        · obtain ⟨saved, storable, rfl, stored⟩ := chained.rows row old
          exact ⟨saved, storable, rfl,
            stored_snoc.mpr (.inr ⟨stored, appends.not_deletes _ _⟩)⟩
        · exact ⟨_, storable, rfl, stored_snoc.mpr (.inl appends)⟩
    | deleted deletes versions =>
        rw [versions, List.mem_filter, decide_eq_true_eq] at member
        obtain ⟨saved, storable, rfl, stored⟩ := chained.rows row member.1
        refine ⟨saved, storable, rfl, stored_snoc.mpr (.inr ⟨stored, fun again => ?_⟩)⟩
        have same := again.1.symm.trans deletes.1
        cases same
        exact member.2 ⟨rfl, rfl⟩
  case stored =>
    intro saved stored
    rw [stored_snoc] at stored
    cases versions with
    | kept same appends =>
        rw [same]
        exact chained.stored saved (stored.resolve_left (appends saved)).1
    | appended appends _ _ versions =>
        rw [versions, List.mem_append, List.mem_singleton]
        rcases stored with again | ⟨stored, _⟩
        · exact .inr (by rw [appends.unique again])
        · exact .inl (chained.stored saved stored)
    | deleted deletes versions =>
        rw [versions, List.mem_filter, decide_eq_true_eq]
        obtain ⟨stored, spared⟩ := stored.resolve_left
          fun appends => appends.not_deletes _ _ deletes
        refine ⟨chained.stored saved stored, ?_⟩
        rintro ⟨rfl, rfl⟩
        exact spared deletes

theorem of_run {first : DocumentState} (initial : Initial first)
    (run : Run Step first trace state) : Chained trace state :=
  @Run.traced _ _ _ Chained (fun _ _ _ _ chained taken => chained.step taken) _ _ _ run []
    (.initial initial)

theorem storable (chained : Chained trace state) {saved : StoredDocumentVersion}
    (stored : Stored trace saved) : Storable saved := by
  obtain ⟨other, storable, same, _⟩ := chained.rows _ (chained.stored saved stored)
  rw [VersionRow.of_injective same]
  exact storable

theorem get_cases (chained : Chained trace state) (tenantId : String) (documentId : Uuid4)
    (version : Option Nat) :
    (∃ saved, Stored trace saved ∧ saved.tenantId = tenantId ∧ saved.documentId = documentId ∧
      saved.version = version.getD (state.db.latest tenantId documentId) ∧
      SQLiteDocumentStore.get tenantId documentId version state.db = .ok (saved, state.db)) ∨
    ((tenantPattern tenantId = false ∨ ∃ exact ∈ version, exact < 1 ∨ 2 ^ 63 ≤ exact) ∧
      ∃ message, SQLiteDocumentStore.get tenantId documentId version state.db =
        .error (.valueError message)) ∨
    (SQLiteDocumentStore.get tenantId documentId version state.db =
        .error (.documentNotFound "Document unavailable") ∧
      ∀ saved, Stored trace saved → saved.tenantId = tenantId → saved.documentId = documentId →
        saved.version ≠ version.getD (state.db.latest tenantId documentId)) := by
  by_cases tenant : tenantPattern tenantId = false
  · refine .inr (.inl ⟨.inl tenant, "Invalid tenant identity", ?_⟩)
    simp [SQLiteDocumentStore.get, identity, raiseWhen, tenant]
  have known : identity tenantId = .ok () := raiseWhen_of_not _ tenant
  by_cases outside : ∃ exact ∈ version, exact < 1 ∨ 2 ^ 63 ≤ exact
  · refine .inr (.inl ⟨.inr outside, "Version must be a positive SQLite integer", ?_⟩)
    simp only [SQLiteDocumentStore.get, known, Outcome.ok_bind, raiseWhen_of _ outside,
      Outcome.error_bind]
  cases found : (state.db.versionsOf tenantId documentId).find? (fun row =>
      row.version = version.getD (state.db.latest tenantId documentId)) with
  | none =>
      refine .inr (.inr ⟨?_, ?_⟩)
      · simp only [SQLiteDocumentStore.get, known, Outcome.ok_bind, raiseWhen_of_not _ outside,
          found]
        rfl
      · rintro saved stored rfl rfl same
        have missed := List.find?_eq_none.mp found (.of saved)
          (DocumentDb.mem_versionsOf.mpr ⟨chained.stored saved stored, rfl, rfl⟩)
        exact missed (decide_eq_true same)
  | some row =>
      have selected := List.find?_some found
      rw [decide_eq_true_eq] at selected
      obtain ⟨member, rfl, rfl⟩ :=
        DocumentDb.mem_versionsOf.mp (List.mem_of_find?_eq_some found)
      obtain ⟨saved, storable, rfl, stored⟩ := chained.rows row member
      refine .inl ⟨saved, stored, rfl, rfl, selected, ?_⟩
      simp only [SQLiteDocumentStore.get, known, Outcome.ok_bind, raiseWhen_of_not _ outside,
        found, storable.decode]
      rfl

theorem get_exact (chained : Chained trace state) {saved : StoredDocumentVersion}
    (stored : Stored trace saved) :
    SQLiteDocumentStore.get saved.tenantId saved.documentId (some saved.version) state.db =
      .ok (saved, state.db) := by
  have storable := chained.storable stored
  rcases chained.get_cases saved.tenantId saved.documentId (some saved.version) with
    ⟨other, found, tenant, document, version, read⟩ |
    ⟨outside | ⟨_, ⟨⟩, outside⟩, _⟩ | ⟨_, missing⟩
  · have otherMember : VersionRow.of other ∈
        state.db.versionsOf saved.tenantId saved.documentId :=
      DocumentDb.mem_versionsOf.mpr ⟨chained.stored other found, tenant, document⟩
    have member : VersionRow.of saved ∈ state.db.versionsOf saved.tenantId saved.documentId :=
      DocumentDb.mem_versionsOf.mpr ⟨chained.stored saved stored, rfl, rfl⟩
    have same := chained.numbered.eq_of_version otherMember member version
    rw [read, VersionRow.of_injective same]
  · rw [(identity_of_valid storable.1).1] at outside
    cases outside
  · have positive := storable.positive
    have bounded := storable.2
    omega
  · exact absurd rfl (missing saved stored rfl rfl)

theorem get_latest (chained : Chained trace state) {saved : StoredDocumentVersion}
    (stored : Stored trace saved) :
    ∃ newest, SQLiteDocumentStore.get saved.tenantId saved.documentId none state.db =
      .ok (newest, state.db) := by
  have storable := chained.storable stored
  rcases chained.get_cases saved.tenantId saved.documentId none with ⟨newest, _, _, _, _, read⟩ |
    ⟨outside | ⟨_, none, _⟩, _⟩ | ⟨_, missing⟩
  · exact ⟨newest, read⟩
  · rw [(identity_of_valid storable.1).1] at outside
    cases outside
  · cases none
  · have member := DocumentDb.mem_versionsOf.mpr ⟨chained.stored saved stored, rfl, rfl⟩
    have numbered := chained.numbered saved.tenantId saved.documentId
    have positive := storable.positive
    have bounded := DocumentDb.latest_le.mp (le_refl _) _ (chained.stored saved stored) rfl rfl
    have last : state.db.latest saved.tenantId saved.documentId ∈
        (state.db.versionsOf saved.tenantId saved.documentId).map VersionRow.version := by
      rw [numbered, List.mem_range'_1]
      exact ⟨positive.trans bounded, by omega⟩
    obtain ⟨row, rowMember, version⟩ := List.mem_map.mp last
    obtain ⟨rowIn, tenant, document⟩ := DocumentDb.mem_versionsOf.mp rowMember
    obtain ⟨newest, _, rfl, found⟩ := chained.rows row rowIn
    exact absurd version (missing newest found tenant document)

end Chained

/-! ## Concurrent appends -/

def Transition.Reaches (transition : Transition) (saved : StoredDocumentVersion) : Prop :=
  match transition.call.operation with
  | .createVersion record => record.validate = .ok saved
  | .commitJob claim record => ∃ checked, record.validate = .ok checked ∧
      claimedRecord claim checked = .ok saved ∧ expectedRevision claim = .ok saved.version ∧
      ∃ row, ownedJob transition.before claim (transition.call.clock 0) = .ok row
  | _ => False

def Transition.Attempts (transition : Transition) (tenantId : String) (documentId : Uuid4)
    (version : Nat) : Prop :=
  ∃ saved, transition.Reaches saved ∧ saved.tenantId = tenantId ∧
    saved.documentId = documentId ∧ saved.version = version

theorem Transition.Reaches.valid {transition : Transition} {saved : StoredDocumentVersion}
    (reaches : transition.Reaches saved) : saved.validate = .ok saved := by
  unfold Transition.Reaches at reaches
  split at reaches
  · exact StoredDocumentVersion.validate_idem reaches
  · obtain ⟨checked, valid, target, _⟩ := reaches
    exact (claimedRecord_ok target (StoredDocumentVersion.validate_idem valid)).2.2
  · cases reaches

theorem Transition.Reaches.operation {transition : Transition} {saved : StoredDocumentVersion}
    (reaches : transition.Reaches saved) :
    (∃ claim record, transition.call.operation = .commitJob claim record) ∨
      ∃ record, transition.call.operation = .createVersion record := by
  unfold Transition.Reaches at reaches
  split at reaches
  · exact .inr ⟨_, by assumption⟩
  · exact .inl ⟨_, _, by assumption⟩
  · cases reaches

theorem Step.reply_of_reaches {state next : DocumentState} {transition : Transition}
    (step : Step state transition next) {saved : StoredDocumentVersion}
    (reaches : transition.Reaches saved) :
    transition.reply = (fun _ => .record saved) <$> append state.db saved := by
  have performed := step.performed
  rw [step.before] at performed
  unfold Transition.Reaches at reaches
  rw [step.before] at reaches
  split at reaches
  · rename_i record operation
    rw [operation] at performed
    cases appended : append state.db saved with
    | error error =>
        simp [Operation.perform, Operation.body, createVersion, reaches, appended,
          Functor.map, Except.map] at performed
        simp [performed.1, Functor.map, Except.map]
    | ok after =>
        simp [Operation.perform, Operation.body, createVersion, reaches, appended,
          Functor.map, Except.map, pure, Except.pure] at performed
        simp [performed.1, Functor.map, Except.map]
  · rename_i claim record operation
    obtain ⟨checked, valid, target, revision, row, owned⟩ := reaches
    rw [operation] at performed
    cases appended : append state.db saved with
    | error error =>
        simp [Operation.perform, Operation.body, commitJob, valid, target, revision, owned,
          raiseWhen, appended, Functor.map, Except.map] at performed
        simp [performed.1, Functor.map, Except.map]
    | ok after =>
        simp [Operation.perform, Operation.body, commitJob, valid, target, revision, owned,
          raiseWhen, appended, Functor.map, Except.map, pure, Except.pure] at performed
        simp [performed.1, Functor.map, Except.map]
  · cases reaches

theorem Step.reaches_of_appends {state next : DocumentState} {transition : Transition}
    (step : Step state transition next) {saved : StoredDocumentVersion}
    (appends : transition.Appends saved) : transition.Reaches saved := by
  obtain ⟨performed, answered⟩ := appends
  have ran := step.performed
  rw [answered] at ran
  have returned := perform_ok ran
  unfold Transition.Reaches
  rcases performed with ⟨claim, record, operation⟩ | ⟨record, operation⟩
  · rw [operation] at returned ⊢
    simp only [Operation.body, Outcome.map_eq_ok, Prod.exists, Prod.mk.injEq,
      Reply.record.injEq, commitJob, Outcome.bind_eq_ok, raiseWhen_eq_ok,
      Outcome.pure_eq_ok] at returned
    obtain ⟨_, _, ⟨checked, valid, stored, target, expected, revision, _, version, row, owned, _,
      _, rfl, _⟩, rfl, _⟩ := returned
    exact ⟨checked, valid, target, by rw [revision, not_not.mp version], row, owned⟩
  · rw [operation] at returned ⊢
    simp only [Operation.body, Outcome.map_eq_ok, Prod.exists, Prod.mk.injEq,
      Reply.record.injEq, createVersion, Outcome.bind_eq_ok, Outcome.pure_eq_ok] at returned
    obtain ⟨_, _, ⟨_, valid, _, _, rfl, _⟩, rfl, _⟩ := returned
    exact valid

theorem append_next {db : DocumentDb} {saved : StoredDocumentVersion}
    (valid : saved.validate = .ok saved)
    (following : saved.version = db.latest saved.tenantId saved.documentId + 1)
    (bounded : saved.version < 2 ^ 63) :
    append db saved = .ok { db with versions := db.versions ++ [.of saved] } := by
  simp only [append, (identity_of_valid valid).2, raiseWhen_of_not _ (not_not.mpr following),
    raiseWhen_of_not _ (not_le.mpr bounded), Outcome.ok_bind]
  rfl

theorem append_conflict {db : DocumentDb} {saved : StoredDocumentVersion}
    (valid : saved.validate = .ok saved)
    (other : saved.version ≠ db.latest saved.tenantId saved.documentId + 1) :
    append db saved =
      .error (.documentVersionConflict "Document version is not the next revision") := by
  simp only [append, (identity_of_valid valid).2, raiseWhen_of _ other, Outcome.ok_bind,
    Outcome.error_bind]

section Rivals

variable {first last : DocumentState} {trace : List Transition} {tenantId : String}
  {documentId : Uuid4} {version : Nat}

theorem Step.next_version {state next : DocumentState} {transition : Transition}
    (step : Step state transition next) (valid : state.Valid)
    (spared : ¬transition.Deletes tenantId documentId)
    (quiet : ¬transition.Attempts tenantId documentId (state.db.latest tenantId documentId + 1)) :
    next.db.latest tenantId documentId = state.db.latest tenantId documentId := by
  apply DocumentDb.latest_congr
  cases step.versionStep valid.ids with
  | kept same => rw [DocumentDb.versionsOf, same, DocumentDb.versionsOf]
  | @appended saved appends _ following versions =>
      refine DocumentDb.versionsOf_append_other versions ?_
      rintro ⟨rfl, rfl⟩
      exact quiet ⟨saved, step.reaches_of_appends appends, rfl, rfl, following⟩
  | deleted deletes versions =>
      refine DocumentDb.versionsOf_delete_other versions ?_
      rintro ⟨rfl, rfl⟩
      exact spared deletes

theorem Run.next_version (run : Run Step first trace last) (valid : first.Valid)
    (spared : ∀ transition ∈ trace, ¬transition.Deletes tenantId documentId)
    (quiet : ∀ transition ∈ trace,
      ¬transition.Attempts tenantId documentId (first.db.latest tenantId documentId + 1)) :
    last.db.latest tenantId documentId = first.db.latest tenantId documentId := by
  induction run with
  | nil => rfl
  | cons step rest induction =>
      have here := step.next_version valid (spared _ List.mem_cons_self)
        (quiet _ List.mem_cons_self)
      rw [induction (valid.step step) (fun later member => spared later (by simp [member]))
        (fun later member => here ▸ quiet later (by simp [member])), here]

/-- An attempt at a version leaves a latest version that is not below it, unless
it came too early. -/
theorem Step.attempted {state next : DocumentState} {transition : Transition}
    (step : Step state transition next) (valid : state.Valid)
    (attempts : transition.Attempts tenantId documentId version)
    (reached : version ≤ state.db.latest tenantId documentId + 1) (bounded : version < 2 ^ 63)
    (spared : ¬transition.Deletes tenantId documentId) :
    version ≤ next.db.latest tenantId documentId := by
  obtain ⟨saved, reaches, rfl, rfl, rfl⟩ := attempts
  by_cases following : saved.version = state.db.latest saved.tenantId saved.documentId + 1
  · have answered := step.reply_of_reaches reaches
    rw [append_next reaches.valid following bounded] at answered
    have appended : transition.Appends saved := ⟨reaches.operation, answered⟩
    cases step.versionStep valid.ids with
    | kept _ appends => exact absurd appended (appends saved)
    | appended appends _ also versions =>
        rw [appends.unique appended, DocumentDb.latest_append versions also]
    | deleted deletes => exact absurd deletes (appended.not_deletes _ _)
  · have monotone := step.latest_mono valid.ids spared
    omega

end Rivals

/-- The versions of a document are numbered from one on and never change until
all of them are deleted; they read back as they were appended; and of several
attempts to append the next version the first succeeds. -/
theorem document_version_chain {first last : DocumentState} {trace : List Transition}
    (initial : Initial first) (run : Run Step first trace last) :
    (∀ tenantId documentId, (last.db.versionsOf tenantId documentId).map VersionRow.version =
      List.range' 1 (last.db.latest tenantId documentId)) ∧
    (∀ transition next, Step last transition next → ∀ row ∈ last.db.versions,
      row ∈ next.db.versions ∨ transition.Deletes row.tenantId row.documentId ∧
        next.db.versionsOf row.tenantId row.documentId = []) ∧
    (∀ saved, Stored trace saved →
      SQLiteDocumentStore.get saved.tenantId saved.documentId (some saved.version) last.db =
          .ok (saved, last.db) ∧
        ∃ newest, SQLiteDocumentStore.get saved.tenantId saved.documentId none last.db =
          .ok (newest, last.db)) ∧
    (∀ tenantId documentId version record next,
      SQLiteDocumentStore.get tenantId documentId version last.db = .ok (record, next) →
      Stored trace record ∧ record.tenantId = tenantId ∧ record.documentId = documentId ∧
        (∀ exact ∈ version, record.version = exact) ∧
        (version = none → ∀ other, Stored trace other → other.tenantId = tenantId →
          other.documentId = documentId → other.version ≤ record.version)) ∧
    (∀ tenantId documentId version message,
      SQLiteDocumentStore.get tenantId documentId version last.db ≠
        .error (.documentStorageCorruption message)) ∧
    ∀ attempts later, Run Step last attempts later → ∀ tenantId documentId,
      (∀ transition ∈ attempts, ¬transition.Deletes tenantId documentId) →
      ∀ version, version = last.db.latest tenantId documentId + 1 → version < 2 ^ 63 →
      ∀ earlier attempt rest, attempts = earlier ++ attempt :: rest →
        attempt.Attempts tenantId documentId version →
        ((∀ other ∈ earlier, ¬other.Attempts tenantId documentId version) →
          ∃ saved, attempt.Appends saved ∧ saved.tenantId = tenantId ∧
            saved.documentId = documentId ∧ saved.version = version) ∧
        ((∃ other ∈ earlier, other.Attempts tenantId documentId version) → attempt.reply =
          .error (.documentVersionConflict "Document version is not the next revision")) := by
  have chained := Chained.of_run initial run
  refine ⟨chained.numbered, ?immutable, ?read, ?found, ?sound, ?rivals⟩
  case immutable =>
    intro transition next step row member
    cases step.versionStep chained.valid.ids with
    | kept same => exact .inl (same ▸ member)
    | appended _ _ _ versions =>
        rw [versions]
        exact .inl (List.mem_append_left _ member)
    | @deleted tenantId documentId deletes versions =>
        by_cases about : row.tenantId = tenantId ∧ row.documentId = documentId
        · obtain ⟨rfl, rfl⟩ := about
          exact .inr ⟨deletes, DocumentDb.versionsOf_delete versions⟩
        · rw [versions, List.mem_filter, decide_eq_true_eq]
          exact .inl ⟨member, about⟩
  case read => exact fun saved stored => ⟨chained.get_exact stored, chained.get_latest stored⟩
  case found =>
    intro tenantId documentId version record next answered
    rcases chained.get_cases tenantId documentId version with
      ⟨saved, stored, tenant, document, number, read⟩ | ⟨_, _, raised⟩ | ⟨raised, _⟩
    · rw [read] at answered
      cases answered
      refine ⟨stored, tenant, document, ?_, ?_⟩
      · rintro exact ⟨⟩
        exact number
      · rintro rfl other otherStored rfl rfl
        rw [number]
        exact DocumentDb.latest_le.mp (le_refl _) _ (chained.stored other otherStored) rfl rfl
    · rw [raised] at answered
      cases answered
    · rw [raised] at answered
      cases answered
  case sound =>
    intro tenantId documentId version message answered
    rcases chained.get_cases tenantId documentId version with
      ⟨_, _, _, _, _, read⟩ | ⟨_, _, raised⟩ | ⟨raised, _⟩
    · rw [read] at answered
      cases answered
    · rw [raised] at answered
      cases answered
    · rw [raised] at answered
      cases answered
  case rivals =>
    rintro attempts later more tenantId documentId spared version next bounded earlier attempt
      rest rfl attempted
    obtain ⟨state, before, after⟩ := more.split
    have sparedEarlier : ∀ transition ∈ earlier, ¬transition.Deletes tenantId documentId :=
      fun transition member => spared transition (by simp [member])
    cases after with
    | cons step _ =>
        obtain ⟨saved, reaches, rfl, rfl, rfl⟩ := attempted
        have answered := step.reply_of_reaches reaches
        refine ⟨fun quiet => ?_, ?_⟩
        · have unchanged := Run.next_version before chained.valid sparedEarlier (next ▸ quiet)
          rw [append_next reaches.valid (unchanged ▸ next) bounded] at answered
          exact ⟨saved, ⟨reaches.operation, answered⟩, rfl, rfl, rfl⟩
        · rintro ⟨rival, member, attempted⟩
          obtain ⟨past, between, rfl⟩ := List.append_of_mem member
          obtain ⟨middle, reached, onwards⟩ := before.split
          cases onwards with
          | cons rivalStep onwards =>
              have validMiddle := Run.valid reached chained.valid
              have grown := Run.latest_mono reached chained.valid
                fun transition inside => sparedEarlier transition (by simp [inside])
              have taken := rivalStep.attempted validMiddle attempted (by omega) bounded
                (sparedEarlier rival (by simp))
              have kept := Run.latest_mono onwards (validMiddle.step rivalStep)
                fun transition inside => sparedEarlier transition (by simp [inside])
              rw [append_conflict reaches.valid (by omega)] at answered
              exact answered

/-- The sample record reads back as it was committed. -/
theorem document_version_chain_committed :
    SQLiteDocumentStore.get "acme" Sample.document (some 1) Sample.committed.db =
      .ok (Sample.record, Sample.committed.db) := by
  have stored : Stored Sample.trace Sample.record := by
    refine ⟨[.of Sample.start.db Sample.submit, .of Sample.submitted.db Sample.claim],
      .of Sample.claimed.db Sample.commit, [], rfl, ⟨.inl ⟨_, _, rfl⟩, ?_⟩, by simp⟩
    decide +kernel
  have read := (document_version_chain ⟨rfl, rfl⟩ Sample.committed_run).2.2.1
  exact (read Sample.record stored).1

end Crewos.Documents

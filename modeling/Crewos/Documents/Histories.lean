import Crewos.Documents.Changes
import Crewos.Foundation.Transition

/-! # Claims and versions over histories

A history is a list of transitions. Its callers only present claims that an
earlier call handed out; nothing else is asked of them here. -/

namespace Crewos.Documents

open Foundation SQLiteDocumentStore

structure Call where
  store : SQLiteDocumentStore
  operation : Operation
  clock : Clock

/-- A call during which the clock stands still. -/
def Call.instant (store : SQLiteDocumentStore) (now : Time) (operation : Operation) : Call :=
  { store, operation, clock := fun _ => now }

/-- One call with the tables around it. -/
structure Transition where
  call : Call
  before : DocumentDb
  reply : Except DocumentError Reply
  after : DocumentDb

/-- The claim a call works for. -/
def Operation.presented : Operation → Option DocumentJobClaim
  | .commitJob claim _ | .failJob claim _ => some claim
  | _ => none

/-- The claim a call hands out. -/
def Transition.issued (transition : Transition) : List DocumentJobClaim :=
  match transition.reply with
  | .ok (.claim (some claim)) => [claim]
  | _ => []

structure DocumentState where
  db : DocumentDb
  issued : List DocumentJobClaim

structure Step (state : DocumentState) (transition : Transition) (next : DocumentState) :
    Prop where
  before : transition.before = state.db
  performed : transition.call.operation.perform transition.call.store transition.call.clock
    transition.before = (transition.reply, transition.after)
  presented : ∀ claim, transition.call.operation.presented = some claim → claim ∈ state.issued
  db : next.db = transition.after
  issued : next.issued = state.issued ++ transition.issued

def Initial (state : DocumentState) : Prop := state.db = DocumentDb.empty ∧ state.issued = []

def Transition.of (db : DocumentDb) (call : Call) : Transition :=
  { call, before := db
    reply := (call.operation.perform call.store call.clock db).1
    after := (call.operation.perform call.store call.clock db).2 }

def DocumentState.next (state : DocumentState) (call : Call) : DocumentState :=
  { db := (Transition.of state.db call).after
    issued := state.issued ++ (Transition.of state.db call).issued }

theorem Step.of_call (state : DocumentState) (call : Call)
    (presented : ∀ claim, call.operation.presented = some claim → claim ∈ state.issued) :
    Step state (.of state.db call) (state.next call) :=
  { before := rfl, performed := rfl, presented, db := rfl, issued := rfl }

theorem perform_error {store : SQLiteDocumentStore} {clock : Clock} {db next : DocumentDb}
    {operation : Operation} {error : DocumentError}
    (failed : operation.perform store clock db = (.error error, next)) : next = db := by
  unfold Operation.perform at failed
  split at failed
  · cases failed
  · exact (Prod.mk.inj failed).2.symm

theorem perform_ok {store : SQLiteDocumentStore} {clock : Clock} {db next : DocumentDb}
    {operation : Operation} {reply : Reply}
    (ok : operation.perform store clock db = (.ok reply, next)) :
    operation.body store clock db = .ok (reply, next) := by
  unfold Operation.perform at ok
  split at ok
  · rename_i ran
    obtain ⟨same, rfl⟩ := Prod.mk.inj ok
    cases same
    exact ran
  · cases ok

/-! ## One row across a call -/

namespace RowChange

variable {store : SQLiteDocumentStore} {clock : Clock} {operation : Operation} {reply : Reply}
  {row after : JobRow}

theorem columns (change : RowChange store clock operation reply row after) :
    after.id = row.id ∧ after.tenant = row.tenant ∧ after.documentId = row.documentId ∧
      after.operation = row.operation ∧ after.options = row.options := by
  cases change <;> exact ⟨rfl, rfl, rfl, rfl, rfl⟩

theorem payload (change : RowChange store clock operation reply row after) :
    after.payload = none ∨ after.payload = row.payload := by
  cases change with
  | limited => exact .inl rfl
  | committed => exact .inl rfl
  | fenced => exact .inl rfl
  | failed =>
      simp only [JobRow.failed]
      split
      · exact .inl rfl
      · exact .inr rfl
  | _ => exact .inr rfl

end RowChange

/-! ## Invariants -/

structure JobRow.Registered (row : JobRow) : Prop where
  options : ∃ options : ChunkingOptions, row.options = options.dump
  payload : ∀ payload, row.payload = some payload → ∃ request : DocumentRequest,
    payload = request.payload ∧ request.operation = row.operation ∧
      target request row.documentId = row.documentId
  running : row.state = .running → ∃ payload, row.payload = some payload

structure DocumentJobClaim.For (claim : DocumentJobClaim) (row : JobRow) : Prop where
  id : claim.job.jobId = row.id
  tenant : claim.job.tenantId = row.tenant
  document : claim.job.documentId = row.documentId
  operation : claim.job.operation = row.operation
  request : claim.request.operation = row.operation
  target : target claim.request row.documentId = row.documentId
  payload : row.payload = none ∨ row.payload = some claim.request.payload

structure DocumentState.Valid (state : DocumentState) : Prop where
  ids : state.db.WellFormed
  rows : ∀ row ∈ state.db.jobs, row.Registered
  claims : ∀ claim ∈ state.issued, ∃ row ∈ state.db.jobs, claim.For row

namespace JobRow.Registered

variable {row : JobRow}

theorem read (registered : row.Registered) {request : DocumentRequest}
    {options : ChunkingOptions} (ok : readRow row = .ok (request, options)) :
    row.payload = some request.payload ∧ request.operation = row.operation ∧
      SQLiteDocumentStore.target request row.documentId = row.documentId := by
  obtain ⟨again, _⟩ := readRow_ok ok
  obtain ⟨dumped, stored⟩ := registered.options
  cases payload : row.payload with
  | none =>
      rw [payload, readJob_none] at again
      cases again
  | some waiting =>
      obtain ⟨submitted, rfl, operation, target⟩ := registered.payload _ payload
      rw [payload, ← operation, stored, readJob_payload] at again
      cases again
      exact ⟨rfl, operation, target⟩

theorem change {store : SQLiteDocumentStore} {clock : Clock} {operation : Operation}
    {reply : Reply} {after : JobRow} (registered : row.Registered)
    (change : RowChange store clock operation reply row after) : after.Registered := by
  obtain ⟨_, _, document, sameOperation, options⟩ := change.columns
  refine ⟨options ▸ registered.options, ?_, ?_⟩
  · intro payload present
    rw [document, sameOperation]
    rcases change.payload with cleared | same
    · rw [cleared] at present
      cases present
    · exact registered.payload payload (same ▸ present)
  · intro running
    cases change with
    | kept => exact registered.running running
    | limited => cases running
    | claimed _ _ read => exact ⟨_, (registered.read read).1⟩
    | committed => cases running
    | failed => cases running
    | retried => cases running
    | published => exact registered.running running
    | fenced =>
        exfalso
        simp only [JobRow.fenced] at running
        split at running
        · rename_i done
          rw [done] at running
          cases running
        · cases running

theorem newJob (store : SQLiteDocumentStore) (tenantId : String) (request : DocumentRequest)
    (options : ChunkingOptions) (key : String) (documentId jobId : Uuid4) (now : Time) :
    (store.newJob tenantId request options key
      (SQLiteDocumentStore.target request documentId) jobId now).Registered := by
  refine ⟨⟨options, rfl⟩, fun payload present => ?_, fun running => by cases running⟩
  cases present
  refine ⟨request, rfl, rfl, ?_⟩
  cases request <;> rfl

end JobRow.Registered

theorem DocumentJobClaim.For.change {claim : DocumentJobClaim} {row after : JobRow}
    {store : SQLiteDocumentStore} {clock : Clock} {operation : Operation} {reply : Reply}
    (issued : claim.For row) (change : RowChange store clock operation reply row after) :
    claim.For after := by
  obtain ⟨id, tenant, document, sameOperation, _⟩ := change.columns
  exact
    { id := id ▸ issued.id
      tenant := tenant ▸ issued.tenant
      document := document ▸ issued.document
      operation := sameOperation ▸ issued.operation
      request := sameOperation ▸ issued.request
      target := by rw [document]; exact issued.target
      payload := by
        rcases change.payload with cleared | same
        · exact .inl cleared
        · exact same ▸ issued.payload }

/-! ## One step -/

theorem DocumentDb.eq_of_id {db : DocumentDb} (ids : db.WellFormed) {row other : JobRow}
    (member : row ∈ db.jobs) (otherMember : other ∈ db.jobs) (same : row.id = other.id) :
    row = other :=
  List.inj_on_of_nodup_map ids member otherMember same

/-- A call either returned, with an effect, or raised and changed nothing. -/
theorem Step.effect {state next : DocumentState} {transition : Transition}
    (step : Step state transition next) (ids : state.db.WellFormed) :
    (∃ reply, transition.reply = .ok reply ∧
      Effect transition.call.store transition.call.clock transition.before
        transition.call.operation reply transition.after) ∨
    (∃ error, transition.reply = .error error ∧ transition.after = transition.before) := by
  have performed := step.performed
  rw [step.before] at performed ⊢
  cases answered : transition.reply with
  | ok reply =>
      rw [answered] at performed
      exact .inl ⟨reply, rfl, Effect.of_perform ids _ _ performed⟩
  | error error =>
      rw [answered] at performed
      exact .inr ⟨error, rfl, perform_error performed⟩

theorem Effect.wellFormed {store : SQLiteDocumentStore} {clock : Clock} {db next : DocumentDb}
    {operation : Operation} {reply : Reply} (ids : db.WellFormed)
    (effect : Effect store clock db operation reply next) : next.WellFormed := by
  obtain ⟨change, added, jobs, changes, adds⟩ := effect.jobs
  have kept : (db.jobs.map change).map JobRow.id = db.jobs.map JobRow.id := by
    rw [List.map_map]
    exact List.map_congr_left fun row member => (changes row member).columns.1
  rw [DocumentDb.WellFormed, jobs, List.map_append, kept]
  cases adds with
  | nothing =>
      rw [List.map_nil, List.append_nil]
      exact ids
  | registered _ fresh =>
      rw [List.nodup_append]
      refine ⟨ids, by simp, ?_⟩
      intro id member other isNew
      obtain ⟨row, rowMember, rfl⟩ := List.mem_map.mp member
      simp only [List.map_cons, List.map_nil, List.mem_singleton] at isNew
      exact isNew ▸ fresh row rowMember

theorem Effect.registered {store : SQLiteDocumentStore} {clock : Clock} {db next : DocumentDb}
    {operation : Operation} {reply : Reply} (rows : ∀ row ∈ db.jobs, row.Registered)
    (effect : Effect store clock db operation reply next) : ∀ row ∈ next.jobs, row.Registered := by
  obtain ⟨change, added, jobs, changes, adds⟩ := effect.jobs
  intro row member
  rw [jobs, List.mem_append] at member
  rcases member with old | new
  · obtain ⟨before, beforeMember, rfl⟩ := List.mem_map.mp old
    exact (rows before beforeMember).change (changes before beforeMember)
  · cases adds with
    | nothing => cases new
    | registered =>
        rw [List.mem_singleton] at new
        exact new ▸ .newJob _ _ _ _ _ _ _ _

theorem Effect.row_after {store : SQLiteDocumentStore} {clock : Clock} {db next : DocumentDb}
    {operation : Operation} {reply : Reply}
    (effect : Effect store clock db operation reply next) {row : JobRow}
    (member : row ∈ db.jobs) :
    ∃ after ∈ next.jobs, RowChange store clock operation reply row after := by
  obtain ⟨change, added, jobs, changes, _⟩ := effect.jobs
  refine ⟨change row, ?_, changes row member⟩
  rw [jobs]
  exact List.mem_append_left _ (List.mem_map_of_mem member)

theorem Effect.claimed {store : SQLiteDocumentStore} {clock : Clock} {db next : DocumentDb}
    {operation : Operation} {claim : DocumentJobClaim}
    (rows : ∀ row ∈ db.jobs, row.Registered)
    (effect : Effect store clock db operation (.claim (some claim)) next) :
    ∃ row ∈ next.jobs, claim.For row := by
  obtain ⟨⟨row, member, id⟩, _, _, _, rfl⟩ := effect.claims claim rfl
  obtain ⟨after, afterMember, change⟩ := effect.row_after member
  refine ⟨after, afterMember, ?_⟩
  cases change with
  | kept spared => exact absurd id spared
  | claimed idle below read id tenant document operation =>
      obtain ⟨payload, sameOperation, sameTarget⟩ := (rows row member).read read
      exact ⟨id, tenant, document, operation, sameOperation, sameTarget, .inr payload⟩

theorem DocumentState.Valid.step {state next : DocumentState} {transition : Transition}
    (valid : state.Valid) (step : Step state transition next) : next.Valid := by
  rcases step.effect valid.ids with ⟨reply, answered, effect⟩ | ⟨error, answered, same⟩
  · rw [step.before, ← step.db] at effect
    refine ⟨effect.wellFormed valid.ids, effect.registered valid.rows, ?_⟩
    intro claim member
    rw [step.issued, List.mem_append] at member
    rcases member with old | new
    · obtain ⟨row, rowMember, issued⟩ := valid.claims claim old
      obtain ⟨after, afterMember, change⟩ := effect.row_after rowMember
      exact ⟨after, afterMember, issued.change change⟩
    · simp only [Transition.issued, answered] at new
      split at new
      · rename_i started answer
        cases answer
        rw [List.mem_singleton] at new
        subst new
        exact effect.claimed valid.rows
      · cases new
  · have nothing : transition.issued = [] := by simp [Transition.issued, answered]
    have sameDb : next.db = state.db := by rw [step.db, same, step.before]
    have sameIssued : next.issued = state.issued := by rw [step.issued, nothing, List.append_nil]
    refine ⟨sameDb ▸ valid.ids, sameDb ▸ valid.rows, ?_⟩
    rw [sameDb, sameIssued]
    exact valid.claims

theorem DocumentState.Valid.initial {state : DocumentState} (initial : Initial state) :
    state.Valid := by
  obtain ⟨db, issued⟩ := initial
  refine ⟨?_, ?_, ?_⟩ <;> simp [db, issued, DocumentDb.WellFormed, DocumentDb.empty]

theorem Run.valid {first last : DocumentState} {trace : List Transition}
    (run : Run Step first trace last) (valid : first.Valid) : last.Valid :=
  run.preserves (fun _ _ _ valid step => valid.step step) valid

/-! ## The latest version -/

namespace DocumentDb

variable {db : DocumentDb} {tenantId : String} {documentId : Uuid4}

theorem latest_le {bound : Nat} :
    db.latest tenantId documentId ≤ bound ↔
      ∀ row ∈ db.versions, row.tenantId = tenantId → row.documentId = documentId →
        row.version ≤ bound := by
  have folded : ∀ versions : List Nat, versions.foldr max 0 ≤ bound ↔
      ∀ version ∈ versions, version ≤ bound := by
    intro versions
    induction versions with
    | nil => simp
    | cons version versions induction => simp [induction]
  rw [latest, folded]
  simp only [versionsOf, List.forall_mem_map, List.mem_filter, decide_eq_true_eq, and_imp]

theorem latest_mono {next : DocumentDb}
    (kept : ∀ row ∈ db.versions, row.tenantId = tenantId → row.documentId = documentId →
      row ∈ next.versions) :
    db.latest tenantId documentId ≤ next.latest tenantId documentId := by
  rw [latest_le]
  intro row member tenant document
  exact latest_le.mp (le_refl _) row (kept row member tenant document) tenant document

theorem latest_append {next : DocumentDb} {saved : StoredDocumentVersion}
    (versions : next.versions = db.versions ++ [.of saved])
    (following : saved.version = db.latest saved.tenantId saved.documentId + 1) :
    next.latest saved.tenantId saved.documentId = saved.version := by
  apply le_antisymm
  · rw [latest_le]
    intro row member tenant document
    rw [versions, List.mem_append, List.mem_singleton] at member
    rcases member with old | rfl
    · have bounded := latest_le.mp (le_refl _) row old tenant document
      omega
    · exact le_refl _
  · refine latest_le.mp (le_refl _) (.of saved) ?_ rfl rfl
    rw [versions]
    exact List.mem_append_right _ (List.mem_singleton_self _)

end DocumentDb

def Transition.Deletes (transition : Transition) (tenantId : String) (documentId : Uuid4) :
    Prop :=
  transition.call.operation = .delete tenantId documentId ∧ ∃ reply, transition.reply = .ok reply

theorem Step.latest_mono {state next : DocumentState} {transition : Transition}
    (step : Step state transition next) (ids : state.db.WellFormed) {tenantId : String}
    {documentId : Uuid4} (kept : ¬transition.Deletes tenantId documentId) :
    state.db.latest tenantId documentId ≤ next.db.latest tenantId documentId := by
  apply DocumentDb.latest_mono
  intro row member tenant document
  rw [step.db]
  rw [← step.before] at member
  rcases step.effect ids with ⟨reply, answered, effect⟩ | ⟨error, answered, same⟩
  · have versions := effect.versions
    rcases transition with ⟨⟨store, operation, clock⟩, before, answer, after⟩
    dsimp only at versions answered member ⊢
    generalize after.versions = rows at versions ⊢
    cases versions with
    | kept => exact member
    | committed => exact List.mem_append_left _ member
    | created => exact List.mem_append_left _ member
    | @deleted other removed =>
        refine List.mem_filter.mpr ⟨member, ?_⟩
        rw [decide_eq_true_eq]
        rintro ⟨rfl, rfl⟩
        exact kept ⟨tenant ▸ document ▸ rfl, _, answered⟩
  · rw [same]
    exact member

theorem Run.latest_mono {first last : DocumentState} {trace : List Transition}
    (run : Run Step first trace last) (valid : first.Valid) {tenantId : String}
    {documentId : Uuid4}
    (kept : ∀ transition ∈ trace, ¬transition.Deletes tenantId documentId) :
    first.db.latest tenantId documentId ≤ last.db.latest tenantId documentId := by
  induction run with
  | nil => exact le_refl _
  | cons step rest induction =>
      have here := step.latest_mono valid.ids (kept _ List.mem_cons_self)
      exact here.trans (induction (valid.step step)
        fun later member => kept later (List.mem_cons_of_mem _ member))

/-! A document whose job succeeds. -/

namespace Sample

def store : SQLiteDocumentStore :=
  { sha256 := id, leasePositive := by decide +kernel, attemptsPositive := by decide }

def document : Uuid4 := .first

def job : Uuid4 := .second

def source : RawRequest :=
  { content := [104, 105], title := "Runbook", sourceRef := none, target := none }

def record : StoredDocumentVersion :=
  { documentId := document, tenantId := "acme", version := 1, createdAt := 0
    document := { title := "Runbook", text := "hi", sourceRef := none }
    chunking := { strategy := "character-window", options := default
                  chunks := [{ index := 0, text := "hi", startChar := 0, endChar := 2 }] } }

def start : DocumentState := { db := .empty, issued := [] }

def submit : Call := .instant store 0 (.submitJob "acme" source .create default "key" document job)

def submitted : DocumentState := start.next submit

def claim : Call := .instant store 1 (.claimJob job.text "acme" "token")

def claimed : DocumentState := submitted.next claim

theorem claimed_issued : claimed.issued ≠ [] := by decide +kernel

def commit : Call := .instant store 2 (.commitJob (claimed.issued.head claimed_issued) record)

def committed : DocumentState := claimed.next commit

def trace : List Transition :=
  [.of start.db submit, .of submitted.db claim, .of claimed.db commit]

theorem committed_run : Run Step start trace committed := by
  have submits : Step start (.of start.db submit) submitted :=
    .of_call start submit (by simp [submit, Call.instant, Operation.presented])
  have claims : Step submitted (.of submitted.db claim) claimed :=
    .of_call submitted claim (by simp [claim, Call.instant, Operation.presented])
  have commits : Step claimed (.of claimed.db commit) committed := by
    refine .of_call claimed commit ?_
    simp [commit, Call.instant, Operation.presented]
  exact .cons submits (.cons claims (.single commits))

end Sample

end Crewos.Documents

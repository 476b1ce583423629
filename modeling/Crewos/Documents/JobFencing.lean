import Mathlib.Order.Monotone.Basic
import Crewos.Documents.JobRows

/-! # Document job fencing

A claim can be committed while its lease is live. Once it cannot, it never can
again: the tokens of later claims are fresh and the clock does not go back. -/

namespace Crewos.Documents

open Foundation SQLiteDocumentStore

/-! ## Histories with a clock -/

/-- `fail_job` and `mark_job_published` read the clock before their statement
takes the database lock; every other operation reads it inside its transaction. -/
def Operation.readsInside : Operation → Prop
  | .failJob _ _ | .markJobPublished _ _ => False
  | _ => True

/-- The readings of a call that starts at `now` and is over at `later`. -/
structure Call.Timed (call : Call) (now later : Time) : Prop where
  forward : now ≤ later
  monotone : Monotone call.clock
  before : ∀ n, call.clock n ≤ later
  after : call.operation.readsInside → now ≤ call.clock 0

def Operation.token : Operation → Option String
  | .claimJob _ _ token => some token
  | _ => none

/-- A document state with the tokens drawn so far and the latest reading. -/
structure ClockedState where
  state : DocumentState
  tokens : List String
  now : Time

structure ClockedStep (before : ClockedState) (transition : Transition) (after : ClockedState) :
    Prop where
  step : Step before.state transition after.state
  timed : transition.call.Timed before.now after.now
  fresh : ∀ token, transition.call.operation.token = some token → token ∉ before.tokens
  tokens : after.tokens = before.tokens ++ transition.call.operation.token.toList

def ClockedInitial (before : ClockedState) : Prop :=
  Initial before.state ∧ before.tokens = []

/-! ## Claims and rows -/

/-- The claim runs the row. -/
def Current (claim : DocumentJobClaim) (row : JobRow) : Prop :=
  row.state = .running ∧ row.token = some claim.token

/-- The claim runs the row under a lease that is live at `now`. -/
def Live (claim : DocumentJobClaim) (row : JobRow) (now : Time) : Prop :=
  Current claim row ∧ ∃ leaseUntil, row.leaseUntil = some leaseUntil ∧ now < leaseUntil

theorem Live.earlier {claim : DocumentJobClaim} {row : JobRow} {now later : Time}
    (live : Live claim row later) (forward : now ≤ later) : Live claim row now := by
  obtain ⟨current, leaseUntil, set, ahead⟩ := live
  exact ⟨current, leaseUntil, set, lt_of_le_of_lt forward ahead⟩

theorem Live.of_owned {claim : DocumentJobClaim} {row : JobRow} {now : Time}
    (owned : OwnedJob claim row now) : Live claim row now :=
  ⟨⟨owned.running, owned.held⟩, owned.live⟩

/-- A claim that runs the row after a call ran it before, with the same lease,
unless the call drew its token. -/
theorem RowChange.current {store : SQLiteDocumentStore} {clock : Clock} {operation : Operation}
    {reply : Reply} {row after : JobRow}
    (change : RowChange store clock operation reply row after) {claim : DocumentJobClaim}
    (drawn : operation.token ≠ some claim.token) (current : Current claim after) :
    Current claim row ∧ after.leaseUntil = row.leaseUntil := by
  obtain ⟨running, held⟩ := current
  cases change with
  | kept => exact ⟨⟨running, held⟩, rfl⟩
  | limited => cases running
  | claimed =>
      refine absurd ?_ drawn
      exact held
  | committed => cases running
  | failed => cases running
  | retried => cases running
  | published => exact ⟨⟨running, held⟩, rfl⟩
  | fenced => cases held

/-- Every token a row or a claim holds was drawn, and each for one claim. -/
structure ClockedState.Fresh (before : ClockedState) : Prop where
  valid : before.state.Valid
  issued : ∀ claim ∈ before.state.issued, claim.token ∈ before.tokens
  distinct : (before.state.issued.map DocumentJobClaim.token).Nodup

theorem ClockedState.Fresh.initial {before : ClockedState} (initial : ClockedInitial before) :
    before.Fresh := by
  refine ⟨.initial initial.1, ?_, ?_⟩ <;> simp [initial.1.2]

theorem Step.issued_claim {state next : DocumentState} {transition : Transition}
    (valid : state.Valid) (step : Step state transition next) {claim : DocumentJobClaim}
    (issued : claim ∈ transition.issued) :
    transition.issued = [claim] ∧ transition.reply = .ok (.claim (some claim)) ∧
      ∃ tenantId, transition.call.operation =
        .claimJob claim.job.jobId.text tenantId claim.token := by
  unfold Transition.issued at issued ⊢
  split at issued
  · rename_i started answered
    rw [List.mem_singleton] at issued
    subst issued
    refine ⟨rfl, answered, ?_⟩
    rcases step.effect valid.ids with ⟨reply, answer, effect⟩ | ⟨error, answer, _⟩
    · rw [answered] at answer
      cases answer
      obtain ⟨⟨row, member, id⟩, _, _, _, performed⟩ := effect.claims claim rfl
      obtain ⟨after, _, change⟩ := effect.row_after member
      generalize transition.call.operation = operation at change performed
      cases change with
      | kept spared =>
          rw [performed] at spared
          exact absurd id spared
      | claimed _ _ _ same => exact ⟨_, by rw [same]⟩
    · rw [answered] at answer
      cases answer
  · cases issued

theorem Step.issued_token {state next : DocumentState} {transition : Transition}
    (valid : state.Valid) (step : Step state transition next) {claim : DocumentJobClaim}
    (issued : claim ∈ transition.issued) :
    transition.call.operation.token = some claim.token := by
  obtain ⟨_, _, _, performed⟩ := step.issued_claim valid issued
  rw [performed, Operation.token]

theorem ClockedState.Fresh.step {before after : ClockedState} {transition : Transition}
    (fresh : before.Fresh) (step : ClockedStep before transition after) : after.Fresh := by
  have extended := step.tokens
  refine ⟨fresh.valid.step step.step, ?_, ?_⟩
  · intro claim member
    rw [step.step.issued, List.mem_append] at member
    rw [extended, List.mem_append]
    rcases member with old | new
    · exact .inl (fresh.issued claim old)
    · rw [step.step.issued_token fresh.valid new]
      exact .inr (by simp)
  · rw [step.step.issued, List.map_append, List.nodup_append]
    refine ⟨fresh.distinct, ?_, ?_⟩
    · unfold Transition.issued
      split <;> simp
    · intro token old other new
      obtain ⟨claim, claimMember, rfl⟩ := List.mem_map.mp old
      obtain ⟨started, startedMember, rfl⟩ := List.mem_map.mp new
      have drawn := step.step.issued_token fresh.valid startedMember
      intro same
      exact step.fresh _ drawn (same ▸ fresh.issued claim claimMember)

/-! ## Along a history -/

section Histories

variable {before after : ClockedState} {claim : DocumentJobClaim}

theorem ClockedStep.row (step : ClockedStep before transition after) (fresh : before.Fresh)
    (issued : claim ∈ before.state.issued) {row reached : JobRow}
    (member : row ∈ before.state.db.jobs) (reachedMember : reached ∈ after.state.db.jobs)
    (same : reached.id = row.id) (current : Current claim reached) :
    Current claim row ∧ reached.leaseUntil = row.leaseUntil := by
  have drawn : transition.call.operation.token ≠ some claim.token :=
    fun drawn => step.fresh _ drawn (fresh.issued claim issued)
  have ids := fresh.valid.ids
  rcases step.step.row_of_mem fresh.valid reachedMember with ⟨old, oldMember, _, _, change⟩ |
    ⟨old, _⟩ | ⟨new, _⟩
  · have equal := DocumentDb.eq_of_id ids oldMember member (change.columns.1.symm.trans same)
    subst equal
    exact change.current drawn current
  · have equal := DocumentDb.eq_of_id ids old member same
    subst equal
    exact ⟨current, rfl⟩
  · exact absurd same.symm (new row member)

/-- An issued claim that is not the current one, or whose lease has run out. -/
structure Fenced (claim : DocumentJobClaim) (before : ClockedState) : Prop where
  fresh : before.Fresh
  issued : claim ∈ before.state.issued
  lost : ∀ row ∈ before.state.db.jobs, row.id = claim.job.jobId → ¬Live claim row before.now

theorem Fenced.step (fenced : Fenced claim before) (step : ClockedStep before transition after) :
    Fenced claim after := by
  refine ⟨fenced.fresh.step step, ?_, ?_⟩
  · rw [step.step.issued]
    exact List.mem_append_left _ fenced.issued
  · rintro reached reachedMember id ⟨current, leaseUntil, set, ahead⟩
    obtain ⟨row, member, issuedFor⟩ := fenced.fresh.valid.claims claim fenced.issued
    obtain ⟨before, lease⟩ := step.row fenced.fresh fenced.issued member reachedMember
      (id.trans issuedFor.id) current
    refine fenced.lost row member issuedFor.id.symm
      ⟨before, leaseUntil, lease ▸ set, lt_of_le_of_lt step.timed.forward ahead⟩

/-- An issued claim that is not the current one. -/
structure Superseded (claim : DocumentJobClaim) (before : ClockedState) : Prop where
  fresh : before.Fresh
  issued : claim ∈ before.state.issued
  lost : ∀ row ∈ before.state.db.jobs, row.id = claim.job.jobId → ¬Current claim row

theorem Superseded.step (superseded : Superseded claim before)
    (step : ClockedStep before transition after) : Superseded claim after := by
  refine ⟨superseded.fresh.step step, ?_, ?_⟩
  · rw [step.step.issued]
    exact List.mem_append_left _ superseded.issued
  · intro reached reachedMember id current
    obtain ⟨row, member, issuedFor⟩ := superseded.fresh.valid.claims claim superseded.issued
    exact superseded.lost row member issuedFor.id.symm
      (step.row superseded.fresh superseded.issued member reachedMember
        (id.trans issuedFor.id) current).1

end Histories

/-! ## What a fenced claim can do -/

theorem commitJob_owned {claim : DocumentJobClaim} {record : StoredDocumentVersion}
    {store : SQLiteDocumentStore} {clock : Clock} {db : DocumentDb} {reply : Reply}
    (committed : ((Operation.commitJob claim record).perform store clock db).1 = .ok reply) :
    ∃ row ∈ db.jobs, OwnedJob claim row (clock 0) := by
  simp only [Operation.perform, Operation.body] at committed
  cases ran : commitJob claim record clock db with
  | error error => simp [ran, Functor.map, Except.map] at committed
  | ok out =>
      obtain ⟨row, member, owned, _⟩ := commitJob_ok ran
      exact ⟨row, member, owned⟩

theorem Fenced.commit {claim : DocumentJobClaim} {before : ClockedState}
    (fenced : Fenced claim before) (store : SQLiteDocumentStore) {clock : Clock}
    (after : before.now ≤ clock 0) (record : StoredDocumentVersion) :
    ∃ error, (Operation.commitJob claim record).perform store clock before.state.db =
      (.error error, before.state.db) := by
  cases performed : (Operation.commitJob claim record).perform store clock before.state.db with
  | mk answer next =>
      cases answer with
      | error error => exact ⟨error, by rw [perform_error performed]⟩
      | ok reply =>
          obtain ⟨row, member, owned⟩ :=
            commitJob_owned (show ((Operation.commitJob claim record).perform store clock
              before.state.db).1 = .ok reply by rw [performed])
          exact absurd ((Live.of_owned owned).earlier after) (fenced.lost row member owned.id)

theorem Superseded.fail {claim : DocumentJobClaim} {before : ClockedState}
    (superseded : Superseded claim before) (store : SQLiteDocumentStore) (clock : Clock)
    (errorCode : String) :
    ((Operation.failJob claim errorCode).perform store clock before.state.db).2 =
      before.state.db := by
  have unselected : ∀ row ∈ before.state.db.jobs, failing claim row = false := by
    intro row member
    by_contra selected
    simp only [Bool.not_eq_false, failing, decide_eq_true_eq] at selected
    exact superseded.lost row member selected.1 ⟨selected.2.2.2, selected.2.2.1⟩
  have same : before.state.db.updateJobs (failing claim) (fun row =>
      row.failed errorCode store.jobMaxAttempts (clock 0)) = before.state.db := by
    rw [DocumentDb.updateJobs, Table.update_of_none _ _ _ unselected]
  simp only [Operation.perform, Operation.body, failJob]
  by_cases invalid : codePattern errorCode = false
  · simp [raiseWhen_of _ invalid, Functor.map, Except.map]
  · simp [raiseWhen_of_not _ invalid, Functor.map, Except.map, pure, Except.pure, same]

theorem ClockedStep.not_current {before next : ClockedState} {transition : Transition}
    (step : ClockedStep before transition next) (fresh : before.Fresh) {claim : DocumentJobClaim}
    (member : claim ∈ before.state.issued) {row : JobRow} (rowMember : row ∈ next.state.db.jobs)
    (id : row.id = claim.job.jobId)
    (ends : (∃ other ∈ transition.issued, other.job.jobId = claim.job.jobId) ∨
      row.state ≠ .running ∨ transition.Deletes row.tenant row.documentId) :
    ¬Current claim row := by
  intro current
  rcases ends with ⟨other, otherMember, same⟩ | stopped | deleted
  · -- The other claim runs the row, and under another token.
    have drawn := step.step.issued_token fresh.valid otherMember
    have unused := step.fresh other.token drawn
    obtain ⟨_, answered, tenantId, performed⟩ :=
      step.step.issued_claim fresh.valid otherMember
    rcases step.step.row_of_mem fresh.valid rowMember with ⟨old, _, _, replied, change⟩ |
      ⟨_, error, raised⟩ | ⟨new, _⟩
    · rw [answered] at replied
      cases replied
      generalize transition.call.operation = operation at change performed
      cases change with
      | kept spared =>
          rw [performed] at spared
          exact spared (id.trans same.symm)
      | claimed =>
          have token := Option.some.inj current.2
          exact unused (token ▸ fresh.issued claim member)
    · rw [raised] at answered
      cases answered
    · obtain ⟨old, oldMember, issuedFor⟩ := fresh.valid.claims claim member
      exact new old oldMember (issuedFor.id.symm.trans id.symm)
  · exact stopped current.1
  · obtain ⟨performed, reply, answered⟩ := deleted
    rcases step.step.row_of_mem fresh.valid rowMember with ⟨old, _, _, _, change⟩ |
      ⟨_, error, raised⟩ | ⟨new, _⟩
    · generalize transition.call.operation = operation at change performed
      cases change with
      | kept spared =>
          rw [performed] at spared
          exact spared ⟨rfl, rfl⟩
      | fenced => cases current.2
      | limited | claimed | committed | failed | retried | published => cases performed
    · rw [raised] at answered
      cases answered
    · obtain ⟨old, oldMember, issuedFor⟩ := fresh.valid.claims claim member
      exact new old oldMember (issuedFor.id.symm.trans id.symm)

/-- At most one claim of a job can be committed, and a claim is fenced for good
once its lease has run out, another claim of the job was handed out, or the job
was retried, failed, completed or lost its document. A claim that does not run
its job any more cannot fail it either. -/
theorem document_job_fencing {first last : ClockedState} {trace : List Transition}
    (initial : ClockedInitial first) (run : Run ClockedStep first trace last) :
    (∀ claim ∈ last.state.issued, ∀ other ∈ last.state.issued,
      claim.job.jobId = other.job.jobId →
      (∃ store clock record reply,
        ((Operation.commitJob claim record).perform store clock last.state.db).1 =
          .ok reply) →
      (∃ store clock record reply,
        ((Operation.commitJob other record).perform store clock last.state.db).1 =
          .ok reply) → claim = other) ∧
    (∀ claim ∈ last.state.issued, ∀ row ∈ last.state.db.jobs, row.id = claim.job.jobId →
      ¬Live claim row last.now → ∀ rest later, Run ClockedStep last rest later →
      ∀ store clock record, later.now ≤ clock 0 →
        ∃ error, (Operation.commitJob claim record).perform store clock later.state.db =
          (.error error, later.state.db)) ∧
    (∀ transition next, ClockedStep last transition next →
      ∀ claim ∈ last.state.issued, ∀ row ∈ next.state.db.jobs, row.id = claim.job.jobId →
      (∃ other ∈ transition.issued, other.job.jobId = claim.job.jobId) ∨
        row.state ≠ .running ∨ transition.Deletes row.tenant row.documentId →
      ¬Current claim row) ∧
    ∀ claim ∈ last.state.issued, ∀ row ∈ last.state.db.jobs, row.id = claim.job.jobId →
      ¬Current claim row → ∀ rest later, Run ClockedStep last rest later →
      ∀ store clock errorCode,
        ((Operation.failJob claim errorCode).perform store clock later.state.db).2 =
          later.state.db := by
  have fresh : last.Fresh :=
    run.preserves (fun _ _ _ fresh step => fresh.step step) (.initial initial)
  have ids := fresh.valid.ids
  refine ⟨?once, ?fence, ?ends, ?fail⟩
  case once =>
    rintro claim member other otherMember same ⟨_, _, _, _, committed⟩ ⟨_, _, _, _, alsoCommitted⟩
    obtain ⟨row, rowMember, owned⟩ := commitJob_owned committed
    obtain ⟨row', rowMember', owned'⟩ := commitJob_owned alsoCommitted
    have equal := DocumentDb.eq_of_id ids rowMember rowMember'
      (owned.id.trans (same.trans owned'.id.symm))
    subst equal
    exact List.inj_on_of_nodup_map fresh.distinct member otherMember
      (Option.some.inj (owned.held.symm.trans owned'.held))
  case fence =>
    intro claim member row rowMember id lost rest later more store clock record after
    have fenced : Fenced claim last := by
      refine ⟨fresh, member, fun other otherMember otherId => ?_⟩
      rwa [DocumentDb.eq_of_id ids otherMember rowMember (otherId.trans id.symm)]
    have fencedLater : Fenced claim later :=
      more.preserves (fun _ _ _ fenced step => Fenced.step fenced step) fenced
    exact fencedLater.commit store after record
  case ends =>
    intro transition next step claim member row rowMember id ends
    exact step.not_current fresh member rowMember id ends
  case fail =>
    intro claim member row rowMember id lost rest later more store clock errorCode
    have superseded : Superseded claim last := by
      refine ⟨fresh, member, fun other otherMember otherId => ?_⟩
      rwa [DocumentDb.eq_of_id ids otherMember rowMember (otherId.trans id.symm)]
    have supersededLater : Superseded claim later :=
      more.preserves (fun _ _ _ superseded step => Superseded.step superseded step) superseded
    exact supersededLater.fail store clock errorCode

/-! The lease of the sample job's claim runs out, and the job is claimed again. -/

theorem ClockedStep.of_instant (before : ClockedState) (store : SQLiteDocumentStore) {later : Time}
    {operation : Operation} (forward : before.now ≤ later)
    (presented : ∀ claim, operation.presented = some claim → claim ∈ before.state.issued)
    (fresh : ∀ token, operation.token = some token → token ∉ before.tokens) :
    ClockedStep before (.of before.state.db (.instant store later operation))
      { state := before.state.next (.instant store later operation)
        tokens := before.tokens ++ operation.token.toList, now := later } where
  step := .of_call _ _ presented
  timed := ⟨forward, fun _ _ _ => le_refl _, fun _ => le_refl _, fun _ => forward⟩
  fresh := fresh
  tokens := rfl

namespace Sample

def held : DocumentJobClaim := claimed.issued.head claimed_issued

def claimAgain : Call := .instant store 200 (.claimJob job.text "acme" "second")

/-- The lease has run out, and the job is claimed again. -/
def claimedAgain : DocumentState := claimed.next claimAgain

def clockedStart : ClockedState := { state := start, tokens := [], now := 0 }

def clockedAgain : ClockedState :=
  { state := claimedAgain, tokens := ["token", "second"], now := 200 }

theorem clocked_run : Run ClockedStep clockedStart
    [.of start.db submit, .of submitted.db claim, .of claimed.db claimAgain] clockedAgain := by
  have submits : ClockedStep clockedStart (.of start.db submit)
      { state := submitted, tokens := [], now := 0 } :=
    .of_instant clockedStart store (by decide) (by simp [Operation.presented])
      (by simp [Operation.token])
  have claims : ClockedStep { state := submitted, tokens := [], now := 0 }
      (.of submitted.db claim) { state := claimed, tokens := ["token"], now := 1 } :=
    .of_instant { state := submitted, tokens := [], now := 0 } store (by decide)
      (by simp [Operation.presented]) (by simp)
  have reclaims : ClockedStep { state := claimed, tokens := ["token"], now := 1 }
      (.of claimed.db claimAgain) clockedAgain :=
    .of_instant { state := claimed, tokens := ["token"], now := 1 } store (by decide)
      (by simp [Operation.presented]) (by simp [Operation.token])
  exact .cons submits (.cons claims (.single reclaims))

end Sample

/-- The second claim can be committed; the first one, whose lease has run out, can
neither be committed nor fail the job. -/
theorem document_job_fencing_reclaimed : ∃ second ∈ Sample.claimedAgain.issued,
    second.job.jobId = Sample.held.job.jobId ∧
    (∃ reply, ((Operation.commitJob second Sample.record).perform Sample.store (fun _ => 201)
      Sample.claimedAgain.db).1 = .ok reply) ∧
    (∃ error, (Operation.commitJob Sample.held Sample.record).perform Sample.store (fun _ => 201)
      Sample.claimedAgain.db = (.error error, Sample.claimedAgain.db)) ∧
    ((Operation.failJob Sample.held "Parse").perform Sample.store (fun _ => 201)
      Sample.claimedAgain.db).2 = Sample.claimedAgain.db := by
  have again : ∃ second ∈ Sample.claimedAgain.issued,
      second.job.jobId = Sample.held.job.jobId ∧
      ((Operation.commitJob second Sample.record).perform Sample.store (fun _ => 201)
        Sample.claimedAgain.db).1.isOk = true := by
    decide +kernel
  have lost : Sample.held ∈ Sample.claimedAgain.issued ∧ ∃ row ∈ Sample.claimedAgain.db.jobs,
      row.id = Sample.held.job.jobId ∧ row.token ≠ some Sample.held.token := by
    decide +kernel
  obtain ⟨second, member, same, commits⟩ := again
  obtain ⟨issued, row, rowMember, id, other⟩ := lost
  obtain ⟨_, fence, _, fail⟩ := document_job_fencing ⟨⟨rfl, rfl⟩, rfl⟩ Sample.clocked_run
  refine ⟨second, member, same, ?_, ?_, ?_⟩
  · cases answered : ((Operation.commitJob second Sample.record).perform Sample.store
        (fun _ => 201) Sample.claimedAgain.db).1 with
    | ok reply => exact ⟨reply, rfl⟩
    | error error =>
        rw [answered] at commits
        cases commits
  · exact fence Sample.held issued row rowMember id (fun live => other live.1.2) []
      Sample.clockedAgain (.nil _) Sample.store (fun _ => 201) Sample.record (by decide)
  · exact fail Sample.held issued row rowMember id (fun current => other current.2) []
      Sample.clockedAgain (.nil _) Sample.store (fun _ => 201) "Parse"

end Crewos.Documents

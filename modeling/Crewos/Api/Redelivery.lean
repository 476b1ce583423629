import Crewos.Agent.Runner
import Crewos.Api.Publication
import Crewos.Foundation.Printing
import Crewos.RunStore.Submission

/-! # Deliveries and registrations

A delivery passes the lookup and the comparison of a claim exactly when it is the
job that was registered, whichever route published it. -/

namespace Crewos.Api

open Foundation RunStore Agent

/-! ## The way of a payload -/

/-- `tenant_queue`; the tenant of a job always has the form it asks for. -/
def tenantQueue (queueName tenantId : String) : String := queueName ++ "." ++ tenantId

structure DeliveryInfo where
  taskId : String
  routingKey : Option String

/-- `run_agent`, up to the payload it hands to `execute_agent_job`. -/
def handOver (queueName : String) (info : DeliveryInfo) (payload : Json) : Except Exc Json := do
  let job ← validated (AgentRunJob.validate payload)
  raiseWhen (info.taskId ≠ job.agentRunId.text)
    (.valueError "Celery delivery ID does not match agent run ID")
  raiseWhen (info.routingKey ≠ some (tenantQueue queueName job.tenantId))
    (.valueError "Agent job was delivered with an unexpected tenant routing key")
  return .obj job.dump

/-- `execute_agent_job`, up to the job it claims. -/
def claimedJob (maxDecisions : Nat) (payload : Json) : Except Exc Dict := do
  let job ← validated (AgentRunJob.validate payload)
  raiseWhen (maxDecisions < job.maxDecisions)
    (.valueError "Decision budget exceeds worker policy")
  return job.dump

def delivered (queueName : String) (maxDecisions : Nat) (info : DeliveryInfo) (payload : Json) :
    Except Exc Dict := do
  claimedJob maxDecisions (← handOver queueName info payload)

theorem delivered_ok {queueName : String} {maxDecisions : Nat} {info : DeliveryInfo}
    {payload : Json} {job : AgentRunJob} (valid : AgentRunJob.validate payload = some job)
    {claimed : Dict} (arrives : delivered queueName maxDecisions info payload = .ok claimed) :
    claimed = job.dump := by
  simp only [delivered, handOver, claimedJob, valid, validated, Outcome.bind_eq_ok,
    Outcome.pure_eq_ok, Except.ok.injEq] at arrives
  obtain ⟨_, ⟨_, rfl, _, _, _, _, rfl⟩, again, read, _, _, rfl⟩ := arrives
  rw [AgentRunJob.validate_dump] at read
  cases read
  rfl

theorem delivered_of {queueName : String} {maxDecisions : Nat} {info : DeliveryInfo}
    {payload : Json} {job : AgentRunJob} (valid : AgentRunJob.validate payload = some job)
    (taskId : info.taskId = job.agentRunId.text)
    (routingKey : info.routingKey = some (tenantQueue queueName job.tenantId))
    (within : job.maxDecisions ≤ maxDecisions) :
    delivered queueName maxDecisions info payload = .ok job.dump := by
  simp [delivered, handOver, claimedJob, valid, validated, taskId, routingKey, raiseWhen,
    AgentRunJob.validate_dump, not_lt.mpr within, pure, Except.pure]

/-! ## The comparison -/

/-- The claim went past the lookup of the run and the comparison of the job. -/
def Passes (reply : Except RunStoreError RunStore.Reply) : Prop :=
  reply ≠ .error (.runNotFound "Agent run unavailable") ∧
    reply ≠ .error (.runConflict "Job differs from registered submission")

theorem plain_dump (job : AgentRunJob) : (Json.obj (Dict.sorted job.dump)).plain = true := by
  rw [AgentRunJob.sorted_dump]
  cases job.answerMode <;> rfl

theorem dump_text_inj {left right : AgentRunJob} :
    Json.render Json.spaced (.obj (Dict.sorted left.dump)) =
      Json.render Json.spaced (.obj (Dict.sorted right.dump)) ↔ left = right := by
  constructor
  · intro same
    exact AgentRunJob.sorted_dump_inj (Json.obj.inj
      (Json.render_inj Json.spaced_separated (plain_dump left) (plain_dump right) same))
  · rintro rfl
    rfl

section Claim

variable {store : SQLiteRunStore} {clock : Clock} {db : RunDb} {token : String}

theorem claimable_error {row : RunRow} {now : Time} {error : RunStoreError}
    (raised : store.claimable row now = .error error) :
    error ≠ .runNotFound "Agent run unavailable" ∧
      error ≠ .runConflict "Job differs from registered submission" := by
  simp only [SQLiteRunStore.claimable, Outcome.bind_eq_error, raiseWhen_eq_error,
    SQLiteRunStore.leaseExpired] at raised
  rcases raised with ⟨_, rfl⟩ | ⟨_, _, ⟨_, rfl⟩ | ⟨_, _, ⟨_, rfl⟩ | ⟨_, _, lease | ⟨_, _, ⟨_, rfl⟩ |
    ⟨_, _, ⟨_, rfl⟩ | ⟨_, _, _, rfl⟩⟩⟩⟩⟩⟩
  case inr.inr.inr.inl =>
    unfold notAfter at lease
    split at lease
    · split at lease <;> cases lease
      simp
    · cases lease
  all_goals simp

theorem claim_passes (valid : db.WellFormed) {job : AgentRunJob} {row : RunRow}
    (found : db.row job.agentRunId.text job.tenantId = .ok row)
    (same : row.job = Dict.sorted job.dump) :
    Passes ((Operation.claim job.dump token).perform store clock db).1 := by
  obtain ⟨idField, tenantField⟩ := textField_dump job
  have early (error : RunStoreError)
      (raised : store.claim job.dump token clock db = .error error) :
      error ≠ .runNotFound "Agent run unavailable" ∧
        error ≠ .runConflict "Job differs from registered submission" := by
    simp only [SQLiteRunStore.claim, idField, tenantField, found,
      raiseWhen_of_not _ (not_not.mpr same), Outcome.ok_bind] at raised
    split at raised
    · cases raised
    · simp only [Outcome.bind_eq_error] at raised
      rcases raised with refused | ⟨_, _, refused | ⟨next, started, missing | ⟨_, _, raised⟩⟩⟩
      · exact claimable_error refused
      · simp only [SQLiteRunStore.startAttempt, Outcome.bind_eq_error, raiseWhen_eq_error]
          at refused
        rcases refused with ⟨_, rfl⟩ | ⟨_, _, raised⟩
        · simp
        · cases raised
      · obtain ⟨view, here, rfl, _⟩ := (RunDb.row_ok_iff valid).mp found
        obtain ⟨_, rewrites⟩ := RunDb.Rewrites.startAttempt valid here store started
        have id := RunDb.id_of_view here
        have read := (RunDb.row_ok_iff rewrites.valid).mpr
          ⟨_, id ▸ rewrites.here, rfl, rfl⟩
        rw [show (view.claimed store token (clock 0)).row.tenant = view.row.tenant from rfl]
          at read
        rw [id, read] at missing
        cases missing
      · cases raised
  unfold Operation.perform
  simp only [Operation.body]
  cases ran : store.claim job.dump token clock db with
  | ok out => simp [Passes, Functor.map, Except.map]
  | error error =>
      obtain ⟨known, unaltered⟩ := early error ran
      simpa [Passes, Functor.map, Except.map] using ⟨known, unaltered⟩

theorem claim_differs {job : AgentRunJob} {row : RunRow}
    (found : db.row job.agentRunId.text job.tenantId = .ok row)
    (altered : row.job ≠ Dict.sorted job.dump) :
    (Operation.claim job.dump token).perform store clock db =
      (.error (.runConflict "Job differs from registered submission"), db) := by
  obtain ⟨idField, tenantField⟩ := textField_dump job
  unfold Operation.perform
  simp only [Operation.body, SQLiteRunStore.claim, idField, tenantField, found,
    raiseWhen_of _ altered, Outcome.ok_bind, Outcome.error_bind]
  rfl

theorem claim_missing {job : AgentRunJob}
    (missing : db.row job.agentRunId.text job.tenantId =
      .error (.runNotFound "Agent run unavailable")) :
    (Operation.claim job.dump token).perform store clock db =
      (.error (.runNotFound "Agent run unavailable"), db) := by
  obtain ⟨idField, tenantField⟩ := textField_dump job
  unfold Operation.perform
  simp only [Operation.body, SQLiteRunStore.claim, idField, tenantField, missing,
    Outcome.ok_bind, Outcome.error_bind]
  rfl

end Claim

/-! ## Registered jobs -/

/-- A create of this history put the job into its table. -/
def Registers (past : List RunStore.Call) (job : AgentRunJob) : Prop :=
  ∃ before call after duration key row, past = before ++ call :: after ∧
    call.operation = .create job.dump duration key ∧
    (∀ old ∈ (RunDb.empty.replay before).runs, old.id ≠ job.agentRunId.text) ∧
    (call.operation.perform call.store call.clock (RunDb.empty.replay before)).1 =
      .ok (.record row) ∧
    row.id = job.agentRunId.text

theorem Registers.current {past : List RunStore.Call} {job : AgentRunJob}
    (registers : Registers past job) :
    ∃ view, (RunDb.empty.replay past).view job.agentRunId.text = some view ∧
      RunsJob job view.row := by
  obtain ⟨before, call, after, duration, key, row, rfl, creates, fresh, returned, id⟩ := registers
  have valid : (RunDb.empty.replay before).WellFormed := wellFormed_replay before .empty
  have validNext := (Effect.of_perform valid call.store call.clock call.operation).wellFormed valid
  rw [creates] at returned
  obtain ⟨_, _, _, view, found, rfl⟩ := create_received valid returned
  have registered : RunsJob job view.row := by
    have ran := perform_returned returned
    simp only [Operation.body, Outcome.map_eq_ok, Prod.exists, Prod.mk.injEq,
      Reply.record.injEq] at ran
    obtain ⟨_, _, ok, stored, -⟩ := ran
    obtain ⟨tenant, tenantField, -, ⟨used, -, -⟩ | ⟨-, other, idField, -, new, -⟩⟩ :=
      SQLiteRunStore.create_ok ok
    · obtain ⟨member, _⟩ := existing_some used
      exact absurd (stored ▸ id) (fresh _ member)
    · rw [(textField_dump job).2] at tenantField
      cases tenantField
      rw [stored] at new
      exact ⟨id, by rw [new]; rfl, by rw [new]; rfl⟩
  have present : (call.apply (RunDb.empty.replay before)).view view.row.id = some view := by
    rw [Call.apply, creates]
    exact found
  obtain ⟨last, there, same⟩ := registration_replay validNext present after
  refine ⟨last, ?_, same.id.trans registered.id, same.tenant.trans registered.tenant,
    same.job.trans registered.job⟩
  have split : RunDb.empty.replay (before ++ call :: after) =
      (call.apply (RunDb.empty.replay before)).replay after := by
    simp [RunDb.replay, List.foldl_append]
  rw [split, ← id]
  exact there

/-- After every history that registered the job: a delivery of its run passes the
lookup and the comparison exactly when it was read as the job, and is refused as a
foreign or an altered one otherwise. What a submission, a repeated submission and
a resumption publish is read as the job. -/
theorem delivery_matches_registration {past : List RunStore.Call} {job : AgentRunJob}
    (registers : Registers past job) :
    (∀ payload delivery, AgentRunJob.validate payload = some delivery →
      delivery.agentRunId = job.agentRunId →
      ∀ queueName maxDecisions info claimed,
        delivered queueName maxDecisions info payload = .ok claimed →
        ∀ store : SQLiteRunStore, ∀ token clock,
          (Passes ((Operation.claim claimed token).perform store clock
            (RunDb.empty.replay past)).1 ↔ delivery = job) ∧
          (delivery ≠ job → (Operation.claim claimed token).perform store clock
              (RunDb.empty.replay past) =
            (.error (if delivery.tenantId = job.tenantId then
                .runConflict "Job differs from registered submission"
              else .runNotFound "Agent run unavailable"), RunDb.empty.replay past))) ∧
    ∃ view, (RunDb.empty.replay past).view job.agentRunId.text = some view ∧
      (∀ other : AgentRunJob, Json.render Json.spaced (.obj view.row.job) =
        Json.render Json.spaced (.obj (Dict.sorted other.dump)) ↔ other = job) ∧
      ∀ payload ∈ [job.dump, view.row.job],
        AgentRunJob.validate (.obj payload) = some job ∧
        ∀ queueName maxDecisions, job.maxDecisions ≤ maxDecisions →
          delivered queueName maxDecisions
            ⟨job.agentRunId.text, some (tenantQueue queueName job.tenantId)⟩ (.obj payload) =
              .ok job.dump := by
  obtain ⟨view, found, runs⟩ := registers.current
  have valid : (RunDb.empty.replay past).WellFormed := wellFormed_replay past .empty
  refine ⟨?claims, view, found, ?texts, ?published⟩
  case claims =>
    intro payload delivery read sameId queueName maxDecisions info claimed arrives store token
      clock
    obtain rfl := delivered_ok read arrives
    by_cases tenant : delivery.tenantId = job.tenantId
    · have row : (RunDb.empty.replay past).row delivery.agentRunId.text delivery.tenantId =
          .ok view.row := by
        rw [sameId, tenant, RunDb.row_ok_iff valid]
        exact ⟨view, found, rfl, runs.tenant⟩
      by_cases same : delivery = job
      · subst same
        exact ⟨iff_of_true (claim_passes valid row runs.job) rfl, fun different =>
          absurd rfl different⟩
      · have altered : view.row.job ≠ Dict.sorted delivery.dump := by
          rw [runs.job]
          exact fun equal => same (AgentRunJob.sorted_dump_inj equal.symm)
        have refused := @claim_differs store clock _ token _ _ row altered
        rw [refused, if_pos tenant]
        exact ⟨iff_of_false (fun passes => passes.2 rfl) same, fun _ => rfl⟩
    · have row : (RunDb.empty.replay past).row delivery.agentRunId.text delivery.tenantId =
          .error (.runNotFound "Agent run unavailable") := by
        cases read : (RunDb.empty.replay past).row delivery.agentRunId.text
            delivery.tenantId with
        | error error =>
            unfold RunDb.row at read
            split at read <;> cases read
            rfl
        | ok row =>
            obtain ⟨other, there, rfl, otherTenant⟩ := (RunDb.row_ok_iff valid).mp read
            rw [sameId, found] at there
            cases there
            exact absurd (otherTenant.symm.trans runs.tenant) tenant
      have refused := @claim_missing store clock _ token _ row
      have different : delivery ≠ job := fun same => tenant (same ▸ rfl)
      rw [refused, if_neg tenant]
      exact ⟨iff_of_false (fun passes => passes.1 rfl) different, fun _ => rfl⟩
  case texts =>
    intro other
    rw [runs.job, dump_text_inj, eq_comm]
  case published =>
    intro payload member
    have read : AgentRunJob.validate (.obj payload) = some job := by
      rcases List.mem_cons.mp member with rfl | member
      · exact AgentRunJob.validate_dump job
      · rw [List.mem_singleton.mp member, runs.job]
        exact (validate_sorted job).1
    exact ⟨read, fun queueName maxDecisions within => delivered_of read rfl rfl within⟩

namespace Sample

def altered : AgentRunJob := { job with answerMode := .document }

def registration : RunStore.Call :=
  { store := Api.Sample.store, operation := .create job.dump 300 none, clock := instant }

theorem registration_registers : Registers [registration] job :=
  ⟨[], registration, [], 300, none,
    SQLiteRunStore.newRun job.agentRunId.text "acme" job.dump 0 300 none, rfl, rfl,
    by decide +kernel, by decide +kernel, rfl⟩

end Sample

open Sample in
/-- The registered sample job is not taken for the altered one. -/
theorem delivery_matches_registration_altered :
    (Operation.claim altered.dump "token").perform Api.Sample.store instant
        (RunDb.empty.replay [registration]) =
      (.error (.runConflict "Job differs from registered submission"),
        RunDb.empty.replay [registration]) := by
  have arrives : delivered "crew" 5 ⟨altered.agentRunId.text, some "crew.acme"⟩
      (.obj altered.dump) = .ok altered.dump :=
    delivered_of (AgentRunJob.validate_dump altered) rfl (by decide +kernel) (by decide)
  exact ((delivery_matches_registration registration_registers).1 _ altered
    (AgentRunJob.validate_dump altered) rfl _ _ _ _ arrives Api.Sample.store "token" instant).2
    (by decide +kernel)

end Crewos.Api

import Crewos.Agent.Deliveries

/-! # Leases and dictionaries

The invariant that ties the parties of a floor to its store: every lease was
issued to its run, no two parties hold the same, and as long as a run is leased
to an attempt, its checkpoint is the dictionary of that attempt. -/

namespace Crewos.Agent

open Foundation RunStore

/-! ## Changes of a run -/

section Changes

variable {store : SQLiteRunStore} {clock : Clock} {operation : Operation} {view after : RunView}

theorem change_job (change : Change store clock operation view after) :
    after.row.tenant = view.row.tenant ∧ after.row.job = view.row.job := by
  cases change with
  | read reconciled => cases reconciled <;> exact ⟨rfl, rfl⟩
  | _ => exact ⟨rfl, rfl⟩

theorem change_checkpoint (change : Change store clock operation view after) :
    after.row.checkpoint = view.row.checkpoint ∨
      ∃ token saved, operation = .checkpoint view.row.id view.row.tenant token saved ∧
        view.row.leaseToken = some token ∧ after.row.checkpoint = saved := by
  cases change with
  | saved owned => exact .inr ⟨_, _, rfl, owned.held, rfl⟩
  | read reconciled => cases reconciled <;> exact .inl rfl
  | _ => exact .inl rfl

theorem change_leaseToken (change : Change store clock operation view after) {token : String}
    (held : after.row.leaseToken = some token) :
    view.row.leaseToken = some token ∨ ∃ job, operation = .claim job token ∧
      ∀ attempt ∈ view.attempts, attempt.token ≠ token := by
  cases change with
  | claimed _ _ _ _ fresh =>
      cases held
      exact .inr ⟨_, rfl, fresh⟩
  | published => exact .inl held
  | renewed => exact .inl held
  | saved => exact .inl held
  | cancelled => exact .inl held
  | finished => cases held
  | resumed => cases held
  | read reconciled =>
      cases reconciled with
      | untouched => exact .inl held
      | _ => cases held

theorem change_issued (change : Change store clock operation view after) {token : String}
    (issued : Issued view token) : Issued after token := by
  obtain ⟨attempt, member, rfl⟩ := List.mem_map.mp issued
  have numbered := change.issued
    (List.mem_map_of_mem (f := fun attempt : AttemptRow => (attempt.token, attempt.number)) member)
  obtain ⟨other, later, same⟩ := List.mem_map.mp numbered
  exact List.mem_map.mpr ⟨other, later, (Prod.mk.inj same).1⟩

end Changes

/-! ## Steps of an attempt -/

section Steps

variable {settings : Settings} {job : AgentRunJob} {attempt after : Attempt}
  {standing next : Standing} {event : Event Reply}

theorem Attempt.Step.control (step : attempt.Step settings job event after) :
    after.control = attempt.control := by
  cases step <;> rfl

theorem Attempt.Step.tells (step : attempt.Step settings job event after)
    (tells : Tells job attempt.dict attempt.progress) : Tells job after.dict after.progress := by
  cases step with
  | opened => exact tells_other tells rfl
  | progressed => exact .update _ _ _
  | reserved _ reserves =>
      obtain ⟨_, _, _, _, _, _, _, rfl⟩ := reserves
      exact tells_other tells rfl
  | reconciled _ _ reconciles =>
      obtain ⟨_, _, _, _, _, _, _, _, rfl⟩ := reconciles
      exact tells_other tells rfl
  | recovered => exact tells_other tells rfl
  | reviewed => exact tells_other tells rfl
  | answered => exact tells_other tells rfl
  | _ => exact tells

theorem Attempt.Step.saves (step : attempt.Step settings job event after) :
    (∃ site, event = checkpointed attempt.control.lease site after.dict (.ok ())) ∨
      (after.dict = attempt.dict ∧ after.progress = attempt.progress ∧
        ∀ token, event.request.operation token = none) := by
  cases step with
  | opened | progressed | reserved | reconciled | recovered | reviewed | answered =>
      exact .inl ⟨_, rfl⟩
  | _ => exact .inr ⟨rfl, rfl, fun _ => rfl⟩

end Steps

/-! ## Kinds of steps -/

/-- A checkpoint that was accepted. -/
inductive Standing.Saves (settings : Settings) (job : AgentRunJob) :
    Standing → Site → Dict → Standing → Prop
  | step {attempt after : Attempt} {site : Site}
      (step : attempt.Step settings job
        (checkpointed attempt.control.lease site after.dict (.ok ())) after) :
      Standing.Saves settings job (.working attempt) site after.dict (.working after)
  | stuck {attempt : Attempt} (opening : attempt.stage = .opening) :
      Standing.Saves settings job (.working attempt) .limits
        (attempt.dict.update [("limits", Runner.limitsOf settings attempt.dict)])
        (.failing attempt.control.lease)

/-- A claim that gave a lease. -/
inductive Standing.Starts (settings : Settings) (job : AgentRunJob) (row : RunRow)
    (token : String) : Standing → Prop
  | working {progress : Progress} {control : Control} (claimed : Claimed job row token progress)
      (built : controlFor settings (Runner.jobLease job token) row.checkpoint = .ok control) :
      Standing.Starts settings job row token
        (.working
          { control, number := row.attempts, dict := row.checkpoint, progress, stage := .opening,
            charge := .none })
  | failing {progress : Progress} (claimed : Claimed job row token progress) :
      Standing.Starts settings job row token (.failing (Runner.jobLease job token))

/-- An event that neither saves a checkpoint nor gives a lease. -/
structure Standing.Rest (standing : Standing) (event : Event Reply) (next : Standing) : Prop where
  real : next ≠ .unreal
  reports : ∀ lease, next.Reports lease → standing.Reports lease
  works : ∀ after, next = .working after → ∃ attempt, standing = .working attempt ∧
    after.control = attempt.control ∧ after.dict = attempt.dict ∧
    after.progress = attempt.progress
  unsaved : ∀ lease site saved (reply : Except RunStoreError Unit),
    event = checkpointed lease site saved reply → ∃ error, reply = .error error
  unclaimed : ∀ job (row : RunRow),
    event = ⟨.claim job, (Except.ok row : Except RunStoreError RunRow)⟩ → row.state = .succeeded

theorem claim_reply {left right : Dict} {first second : Except RunStoreError RunRow}
    (same : (⟨.claim left, first⟩ : Event Reply) = ⟨.claim right, second⟩) : first = second := by
  injection same

def Request.writes : Request → Bool
  | .control (.checkpoint _ _ _) | .claim _ => true
  | _ => false

namespace Standing.Rest

variable {standing next : Standing} {event : Event Reply}

theorem of_calm (calm : event.request.writes = false) (real : next ≠ .unreal)
    (reports : ∀ lease, next.Reports lease → standing.Reports lease)
    (works : ∀ after, next = .working after → ∃ attempt, standing = .working attempt ∧
      after.control = attempt.control ∧ after.dict = attempt.dict ∧
      after.progress = attempt.progress) : Standing.Rest standing event next := by
  refine ⟨real, reports, works, ?_, ?_⟩
  · rintro lease site saved reply rfl
    cases calm
  · rintro job row rfl
    cases calm

theorem of_over (calm : event.request.writes = false) (real : next ≠ .unreal)
    (idle : ∀ after, next ≠ .working after)
    (reports : ∀ lease, next.Reports lease → standing.Reports lease) :
    Standing.Rest standing event next :=
  of_calm calm real reports fun after same => absurd same (idle after)

theorem of_claim {job : Dict} {reply : Except RunStoreError RunRow} (real : next ≠ .unreal)
    (idle : ∀ after, next ≠ .working after) (done : ∀ lease, ¬next.Reports lease)
    (closed : ∀ row, reply = .ok row → row.state = .succeeded) :
    Standing.Rest standing ⟨.claim job, reply⟩ next := by
  refine ⟨real, fun lease reports => absurd reports (done lease),
    fun after same => absurd same (idle after), ?_, ?_⟩
  · rintro lease site saved reply same
    have requests := congrArg Event.request same
    cases requests
  · rintro other row same
    exact closed row (claim_reply same)

end Standing.Rest

theorem Standing.Step.kinds {settings : Settings} {job : AgentRunJob} {standing next : Standing}
    {event : Event Reply} (step : Standing.Step settings job standing event next)
    (real : standing ≠ .unreal) :
    (∃ attempt site saved, standing = .working attempt ∧
      event = checkpointed attempt.control.lease site saved (.ok ()) ∧
      Standing.Saves settings job standing site saved next) ∨
    (∃ row token, standing = .waiting ∧
      event = ⟨.claim job.dump, (Except.ok row : Except RunStoreError RunRow)⟩ ∧
      row.state ≠ .succeeded ∧ Standing.Starts settings job row token next) ∨
    (∃ row, event = ⟨.claim job.dump, (Except.ok row : Except RunStoreError RunRow)⟩ ∧
      row.state ≠ .succeeded ∧ ∀ token progress, ¬Claimed job row token progress) ∨
    Standing.Rest standing event next := by
  have closed : ∀ lease, ¬Standing.Reports .closed lease := by
    intro lease ended
    cases ended
  cases step with
  | plain plain =>
      refine .inr (.inr (.inr (.of_calm ?_ real (fun _ reports => reports)
        fun after same => ⟨after, same, rfl, rfl, rfl⟩)))
      generalize event.request = request at plain
      cases request with
      | control request => cases request <;> first | rfl | cases plain
      | claim => cases plain
      | _ => rfl
  | unreal => exact absurd rfl real
  | @works attempt after _ step =>
      rcases step.saves with ⟨site, rfl⟩ | ⟨same, kept, nowhere⟩
      · exact .inl ⟨_, site, _, rfl, rfl, .step step⟩
      · have calm : event.request.writes = false := by
          have nothing := nowhere ""
          generalize event.request = request at nothing
          cases request with
          | control request => cases request <;> first | rfl | cases nothing
          | claim => cases nothing
          | _ => rfl
        refine .inr (.inr (.inr (.of_calm calm (by simp) (fun lease reports => ?_) ?_)))
        · cases reports
          rw [step.control]
          exact .working
        · rintro other working
          cases working
          exact ⟨_, rfl, step.control, same, kept⟩
  | stuck opening => exact .inl ⟨_, _, _, rfl, rfl, .stuck opening⟩
  | claimed claimed built =>
      exact .inr (.inl ⟨_, _, rfl, rfl, claimed.open_, .working claimed built⟩)
  | claimFailed claimed => exact .inr (.inl ⟨_, _, rfl, rfl, claimed.open_, .failing claimed⟩)
  | claimUnreal open_ impossible => exact .inr (.inr (.inl ⟨_, rfl, open_, impossible⟩))
  | claimRefused =>
      exact .inr (.inr (.inr (.of_claim (by simp) (by simp) closed fun _ same => by cases same)))
  | claimUnread done =>
      exact .inr (.inr (.inr (.of_claim (by simp) (by simp) closed fun _ same => by
        cases same
        exact done)))
  | claimCached done =>
      refine .inr (.inr (.inr (.of_claim (by simp) (by simp) (fun lease ended => by cases ended)
        fun _ same => ?_)))
      cases same
      exact done
  | @refused attempt site saved error =>
      refine .inr (.inr (.inr ⟨by simp, fun lease reports => ?_, fun _ same => ?_, ?_, ?_⟩))
      · cases reports
        exact .working
      · cases same
      · rintro lease other saved reply same
        cases same
        exact ⟨_, rfl⟩
      · intro other row same
        have requests := congrArg Event.request same
        cases requests
  | finishes | finishRefused =>
      refine .inr (.inr (.inr (.of_over rfl (by simp) (by simp) fun lease reports => ?_)))
      cases reports
      exact .working
  | got =>
      exact .inr (.inr (.inr (.of_over rfl (by simp) (by simp) fun lease ended => by cases ended)))
  | gotOther =>
      refine .inr (.inr (.inr (.of_over rfl (by simp) (by simp) fun lease reports => ?_)))
      cases reports
      exact .finished
  | reports reporting =>
      refine .inr (.inr (.inr (.of_over rfl (by simp) (by simp) fun lease reports => ?_)))
      cases reports
      exact reporting

/-! ## Runs across a step -/

/-- The store operation that a step of the floor may perform. -/
inductive World.Label.Performs : World.Label → Operation → Prop
  | client {call : Call} (able : Public call.operation) :
      World.Label.Performs (.client call) call.operation
  | event {index : Nat} {taken : Event Reply} {token : String} {operation : Operation}
      (asks : taken.request.operation token = some operation) :
      World.Label.Performs (.event index taken) operation

theorem World.Label.Performs.able {call : Call} {operation : Operation}
    (performs : (World.Label.client call).Performs operation) : Public operation := by
  cases performs with
  | client able => exact able

theorem Floor.Step.view {floor next : Floor} {label : World.Label}
    (step : Floor.Step floor label next) (valid : floor.store.db.WellFormed) (runId : String) :
    next.store.db.view runId = floor.store.db.view runId ∨
      ∃ store clock operation, label.Performs operation ∧
        ViewStep store clock operation (floor.store.db.view runId) (next.store.db.view runId) := by
  cases step with
  | client able step => exact .inr ⟨_, _, _, .client able, step.view valid runId⟩
  | deliver => exact .inl rfl
  | event here moves answers =>
      cases answers with
      | performed call token _ operation step _ =>
          exact .inr ⟨_, _, _, .event operation, step.view valid runId⟩
      | refused _ waits => exact .inl (congrArg (·.view runId) waits.db)
      | other _ waits => exact .inl (congrArg (·.view runId) waits.db)

/-! ## Steady steps -/

/-- A change that gives no lease and leaves the checkpoint as it is. -/
structure Steady (view after : RunView) : Prop where
  tenant : after.row.tenant = view.row.tenant
  job : after.row.job = view.row.job
  issued : ∀ token, Issued view token → Issued after token
  checkpoint : after.row.checkpoint = view.row.checkpoint
  leaseToken : ∀ token, after.row.leaseToken = some token → view.row.leaseToken = some token

theorem Steady.refl (view : RunView) : Steady view view :=
  ⟨rfl, rfl, fun _ issued => issued, rfl, fun _ held => held⟩

/-- One run across a step: it is absent, created, or changes. -/
inductive Evolves (Changes : RunView → RunView → Prop) :
    Option RunView → Option RunView → Prop
  | absent : Evolves Changes none none
  | created {after : RunView} (blank : after.row.checkpoint = []) : Evolves Changes none (some after)
  | changed {view after : RunView} (changes : Changes view after) :
      Evolves Changes (some view) (some after)

theorem Evolves.refl (view : Option RunView) : Evolves Steady view view := by
  cases view with
  | none => exact .absent
  | some view => exact .changed (.refl view)

def Mild : Operation → Prop
  | .claim _ _ | .checkpoint _ _ _ _ => False
  | _ => True

theorem Public.mild {operation : Operation} (able : Public operation) : Mild operation := by
  cases operation <;> trivial

theorem evolves_of_viewStep {store : SQLiteRunStore} {clock : Clock} {operation : Operation}
    {before later : Option RunView} (mild : Mild operation)
    (step : ViewStep store clock operation before later) : Evolves Steady before later := by
  cases step with
  | same => exact .refl _
  | created absent =>
      rw [absent]
      exact .created rfl
  | @changed view after present change =>
      rw [present]
      refine .changed ⟨(change_job change).1, (change_job change).2, fun _ => change_issued change,
        ?_, fun token held => ?_⟩
      · rcases change_checkpoint change with same | ⟨_, _, rfl, _⟩
        · exact same
        · cases mild
      · rcases change_leaseToken change held with before | ⟨_, rfl, _⟩
        · exact before
        · cases mild

theorem client_calm {state next : StoreState} {call : Call} (able : Public call.operation)
    (step : RunStore.Step state call next) (valid : state.db.WellFormed) (runId : String) :
    Evolves Steady (state.db.view runId) (next.db.view runId) :=
  evolves_of_viewStep able.mild (step.view valid runId)

theorem mild_calm {store : SQLiteRunStore} {state next : StoreState} {taken : Event Reply}
    (answers : Answers store state taken next) (valid : state.db.WellFormed)
    (mild : ∀ token operation, taken.request.operation token = some operation → Mild operation)
    (runId : String) : Evolves Steady (state.db.view runId) (next.db.view runId) := by
  cases answers with
  | performed call token _ operation step _ =>
      exact evolves_of_viewStep (mild _ _ operation) (step.view valid runId)
  | refused _ waits => exact waits.db ▸ .refl _
  | other _ waits => exact waits.db ▸ .refl _

theorem idle_calm {store : SQLiteRunStore} {state next : StoreState} {taken : Event Reply}
    (answers : Answers store state taken next) (valid : state.db.WellFormed)
    (unsaved : ∀ lease site saved (reply : Except RunStoreError Unit),
      taken = checkpointed lease site saved reply → ∃ error, reply = .error error)
    (unclaimed : ∀ job (row : RunRow),
      taken = ⟨.claim job, (Except.ok row : Except RunStoreError RunRow)⟩ → row.state = .succeeded)
    (runId : String) : Evolves Steady (state.db.view runId) (next.db.view runId) := by
  have still : next.db = state.db → Evolves Steady (state.db.view runId) (next.db.view runId) :=
    fun same => same ▸ .refl _
  rcases taken with ⟨request, reply⟩
  cases request with
  | claim job =>
      rcases answers.claim valid with ⟨_, _, same⟩ | ⟨view, _, _, _, _, done | started⟩
      · exact still same
      · exact still done.2.2
      · obtain ⟨token, now, _, _, rfl, _⟩ := started
        cases unclaimed _ _ rfl
  | control request =>
      cases request with
      | checkpoint lease site saved =>
          rcases answers.checkpoint valid with ⟨_, _, same⟩ | ⟨rfl, _⟩
          · exact still same
          · obtain ⟨error, impossible⟩ := unsaved lease site saved _ rfl
            cases impossible
      | guard lease =>
          exact mild_calm answers valid (fun token operation same => by cases same; trivial) runId
      | _ => exact still (answers.elsewhere fun _ => rfl)
  | finish =>
      exact mild_calm answers valid (fun token operation same => by cases same; trivial) runId
  | get => exact mild_calm answers valid (fun token operation same => by cases same; trivial) runId
  | _ => exact still (answers.elsewhere fun _ => rfl)

theorem rest_calm {store : SQLiteRunStore} {state next : StoreState} {taken : Event Reply}
    {standing later : Standing} (rest : Standing.Rest standing taken later)
    (answers : Answers store state taken next) (valid : state.db.WellFormed) (runId : String) :
    Evolves Steady (state.db.view runId) (next.db.view runId) :=
  idle_calm answers valid rest.unsaved rest.unclaimed runId

/-! ## The invariant -/

/-- The token was drawn by a claim of the job's run. -/
structure Attends (db : RunDb) (job : AgentRunJob) (token : String) (view : RunView) : Prop where
  found : db.view job.agentRunId.text = some view
  tenant : view.row.tenant = job.tenantId
  job : view.row.job = Dict.sorted job.dump
  issued : Issued view token

structure Party.Sound (db : RunDb) (party : Party) : Prop where
  real : party.standing ≠ .unreal
  attends : ∀ lease, party.standing.Reports lease → ∃ token view,
    lease = Runner.jobLease party.job token ∧ Attends db party.job token view
  tells : ∀ attempt, party.standing = .working attempt →
    Tells party.job attempt.dict attempt.progress
  holds : ∀ attempt view, party.standing = .working attempt →
    db.view party.job.agentRunId.text = some view →
    view.row.leaseToken = some attempt.control.lease.token → view.row.checkpoint = attempt.dict

structure Floor.Sound (floor : Floor) : Prop where
  valid : floor.store.db.WellFormed
  /-- Every checkpoint of a job's run tells its progress. -/
  rows : ∀ runId view job, floor.store.db.view runId = some view →
    view.row.job = Dict.sorted job.dump → ∃ progress, Tells job view.row.checkpoint progress
  parties : ∀ (index : Nat) (party : Party), floor.parties[index]? = some party →
    party.Sound floor.store.db
  apart : ∀ (left right : Nat) (first second : Party) (firstLease secondLease : Lease),
    left ≠ right → floor.parties[left]? = some first → floor.parties[right]? = some second →
    first.job.agentRunId = second.job.agentRunId → first.standing.Reports firstLease →
    second.standing.Reports secondLease → firstLease.token ≠ secondLease.token

/-! ## Parties that only look on -/

/-- A change that leaves the holder of the token as it was. -/
structure Spares (token : String) (view after : RunView) : Prop where
  tenant : after.row.tenant = view.row.tenant
  job : after.row.job = view.row.job
  issued : ∀ token, Issued view token → Issued after token
  holds : after.row.leaseToken = some token → view.row.leaseToken = some token ∧
    after.row.checkpoint = view.row.checkpoint

theorem Steady.spares {view after : RunView} (calm : Steady view after) (token : String) :
    Spares token view after :=
  ⟨calm.tenant, calm.job, calm.issued, fun held => ⟨calm.leaseToken _ held, calm.checkpoint⟩⟩

section Spared

variable {db next : RunDb} {party : Party} {job : AgentRunJob} {token : String} {view : RunView}

theorem Attends.spared (attends : Attends db job token view) {after : RunView}
    (here : next.view job.agentRunId.text = some after) (spares : Spares token view after) :
    Attends next job token after :=
  ⟨here, spares.tenant.trans attends.tenant, spares.job.trans attends.job,
    spares.issued _ attends.issued⟩

theorem Party.Sound.spared (sound : party.Sound db)
    (spares : ∀ token view, Attends db party.job token view →
      party.standing.Reports (Runner.jobLease party.job token) →
      ∃ after, next.view party.job.agentRunId.text = some after ∧ Spares token view after) :
    party.Sound next where
  real := sound.real
  attends lease reports := by
    obtain ⟨token, view, rfl, attends⟩ := sound.attends lease reports
    obtain ⟨after, here, spared⟩ := spares token view attends reports
    exact ⟨token, after, rfl, attends.spared here spared⟩
  tells := sound.tells
  holds attempt later working here held := by
    have reports : party.standing.Reports attempt.control.lease := working ▸ .working
    obtain ⟨token, view, same, attends⟩ := sound.attends _ reports
    rw [same] at reports held
    obtain ⟨after, found, spared⟩ := spares token view attends reports
    cases found.symm.trans here
    obtain ⟨before, checkpoint⟩ := spared.holds held
    rw [checkpoint]
    refine sound.holds attempt view working attends.found ?_
    rw [same]
    exact before

theorem Party.Sound.rested {taken : Event Reply} {later : Standing} (sound : party.Sound db)
    (rest : Standing.Rest party.standing taken later)
    (calm : ∀ runId, Evolves Steady (db.view runId) (next.view runId)) :
    Party.Sound next { party with standing := later } := by
  have spared : party.Sound next := by
    refine sound.spared fun token view attends _ => ?_
    have evolves := calm party.job.agentRunId.text
    rw [attends.found] at evolves
    generalize next.view party.job.agentRunId.text = arrived at evolves
    cases evolves with
    | changed calm => exact ⟨_, rfl, calm.spares token⟩
  exact
    { real := rest.real
      attends := fun lease reports => spared.attends lease (rest.reports lease reports)
      tells := fun after working => by
        obtain ⟨attempt, was, _, dict, progress⟩ := rest.works after working
        rw [dict, progress]
        exact spared.tells attempt was
      holds := fun after view working here held => by
        obtain ⟨attempt, was, control, dict, _⟩ := rest.works after working
        rw [dict]
        rw [control] at held
        exact spared.holds attempt view was here held }

end Spared

/-! ## Checkpoints and claims -/

section Writes

variable {store : SQLiteRunStore} {state next : StoreState} {job : AgentRunJob}

/-- What an accepted checkpoint of an attempt did. -/
structure SavedBy (state next : StoreState) (job : AgentRunJob) (attempt : Attempt) (saved : Dict)
    (token : String) (view : RunView) : Prop where
  lease : attempt.control.lease = Runner.jobLease job token
  attends : Attends state.db job token view
  running : view.row.state = .running
  held : view.row.leaseToken = some token
  wanted : view.row.cancelRequested = false
  checkpoint : view.row.checkpoint = attempt.dict
  rewrites : ∃ updated leaseUntil,
    state.db.Rewrites view (view.saved saved updated leaseUntil) next.db

theorem Party.Sound.saved {party : Party} {attempt : Attempt} {site : Site} {saved : Dict}
    (sound : party.Sound state.db) (working : party.standing = .working attempt)
    (answers : Answers store state (checkpointed attempt.control.lease site saved (.ok ())) next)
    (valid : state.db.WellFormed) :
    ∃ token view, SavedBy state next party.job attempt saved token view := by
  have reports : party.standing.Reports attempt.control.lease := working ▸ .working
  obtain ⟨token, view, lease, attends⟩ := sound.attends _ reports
  rcases answers.checkpoint valid with ⟨_, refused, _⟩ | ⟨_, other, updated, leaseUntil, holds,
    wanted, rewrites⟩
  · cases refused
  · have found := holds.view
    rw [lease] at found
    cases attends.found.symm.trans found
    have held : view.row.leaseToken = some attempt.control.lease.token := holds.owned.held
    have checkpoint := sound.holds attempt view working attends.found held
    rw [lease] at held
    exact ⟨token, view, lease, attends, holds.owned.running, held, wanted, checkpoint, updated,
      leaseUntil, rewrites⟩

/-- What a claim that gave a lease did. -/
structure ClaimedBy (store : SQLiteRunStore) (state next : StoreState) (job : AgentRunJob)
    (token : String) (now : Time) (view : RunView) : Prop where
  found : state.db.view job.agentRunId.text = some view
  tenant : view.row.tenant = job.tenantId
  job : view.row.job = Dict.sorted job.dump
  claimable : Claimable store view.row now
  fresh : ¬Issued view token
  rewrites : state.db.Rewrites view (view.claimed store token now) next.db

theorem Answers.claimed {row : RunRow}
    (answers : Answers store state
      ⟨.claim job.dump, (Except.ok row : Except RunStoreError RunRow)⟩ next)
    (valid : state.db.WellFormed) (open_ : row.state ≠ .succeeded) :
    ∃ view token now, row = view.row.claimed store token now ∧
      ClaimedBy store state next job token now view := by
  have isId : textField job.dump "agent_run_id" = .ok job.agentRunId.text := rfl
  have isTenant : textField job.dump "tenant_id" = .ok job.tenantId := rfl
  rcases answers.claim valid with ⟨_, refused, _⟩ |
    ⟨view, found, id, tenant, sameJob, done | started⟩
  · cases refused
  · obtain ⟨succeeded, same, _⟩ := done
    cases same
    exact absurd succeeded open_
  · obtain ⟨token, now, claimable, fresh, same, rewrites⟩ := started
    cases same
    have idSame : job.agentRunId.text = view.row.id := Except.ok.inj (isId.symm.trans id)
    have tenantSame : job.tenantId = view.row.tenant := Except.ok.inj (isTenant.symm.trans tenant)
    refine ⟨view, token, now, rfl, idSame ▸ found, tenantSame.symm, sameJob, claimable,
      fun issued => ?_, rewrites⟩
    obtain ⟨attempt, member, same⟩ := List.mem_map.mp issued
    rw [RunDb.attempts_of_view found] at member
    exact fresh attempt (List.mem_filter.mp member).1 same

theorem ClaimedBy.real {token : String} {now : Time} {view : RunView}
    (claimed : ClaimedBy store state next job token now view) {progress : Progress}
    (tells : Tells job view.row.checkpoint progress) :
    Claimed job (view.row.claimed store token now) token progress :=
  ⟨by simp [RunRow.claimed], rfl, RunDb.id_of_view claimed.found, claimed.tenant, tells⟩

theorem SavedBy.spares {attempt : Attempt} {saved : Dict} {token : String} {view : RunView}
    (savedBy : SavedBy state next job attempt saved token view) {runId other : String}
    {found : RunView} (here : state.db.view runId = some found)
    (apart : runId = job.agentRunId.text → other ≠ token) :
    ∃ after, next.db.view runId = some after ∧ Spares other found after := by
  obtain ⟨updated, leaseUntil, rewrites⟩ := savedBy.rewrites
  have id := RunDb.id_of_view savedBy.attends.found
  by_cases same : runId = job.agentRunId.text
  · subst same
    cases savedBy.attends.found.symm.trans here
    refine ⟨view.saved saved updated leaseUntil, ?_, rfl, rfl, fun _ issued => issued,
      fun held => ?_⟩
    · rw [← id]
      exact rewrites.here
    · cases savedBy.held.symm.trans held
      exact absurd rfl (apart rfl)
  · refine ⟨found, ?_, (Steady.refl found).spares other⟩
    rw [rewrites.elsewhere runId (id ▸ same), here]

theorem SavedBy.after {attempt : Attempt} {saved : Dict} {token : String} {view : RunView}
    (savedBy : SavedBy state next job attempt saved token view) :
    ∃ after, next.db.view job.agentRunId.text = some after ∧ after.row.checkpoint = saved ∧
      after.row.job = view.row.job ∧ Attends next.db job token after := by
  obtain ⟨updated, leaseUntil, rewrites⟩ := savedBy.rewrites
  have here := rewrites.here
  rw [RunDb.id_of_view savedBy.attends.found] at here
  exact ⟨_, here, rfl, rfl, here, savedBy.attends.tenant, savedBy.attends.job,
    savedBy.attends.issued⟩

theorem SavedBy.elsewhere {attempt : Attempt} {saved : Dict} {token : String} {view : RunView}
    (savedBy : SavedBy state next job attempt saved token view) {runId : String}
    (other : runId ≠ job.agentRunId.text) : next.db.view runId = state.db.view runId := by
  obtain ⟨_, _, rewrites⟩ := savedBy.rewrites
  exact rewrites.elsewhere runId (RunDb.id_of_view savedBy.attends.found ▸ other)

theorem ClaimedBy.after {token : String} {now : Time} {view : RunView}
    (claimed : ClaimedBy store state next job token now view) :
    next.db.view job.agentRunId.text = some (view.claimed store token now) ∧
      Attends next.db job token (view.claimed store token now) := by
  have here := claimed.rewrites.here
  rw [RunDb.id_of_view claimed.found] at here
  refine ⟨here, here, claimed.tenant, claimed.job, ?_⟩
  rw [Issued, RunView.claimed, List.map_append]
  exact List.mem_append_right _ (List.mem_singleton_self _)

theorem ClaimedBy.elsewhere {token : String} {now : Time} {view : RunView}
    (claimed : ClaimedBy store state next job token now view) {runId : String}
    (other : runId ≠ job.agentRunId.text) : next.db.view runId = state.db.view runId :=
  claimed.rewrites.elsewhere runId (RunDb.id_of_view claimed.found ▸ other)

theorem ClaimedBy.spares {token : String} {now : Time} {view : RunView}
    (claimed : ClaimedBy store state next job token now view) {runId other : String}
    {found : RunView} (here : state.db.view runId = some found) (issued : Issued found other) :
    ∃ after, next.db.view runId = some after ∧ Spares other found after := by
  have id := RunDb.id_of_view claimed.found
  by_cases same : runId = job.agentRunId.text
  · subst same
    cases claimed.found.symm.trans here
    refine ⟨view.claimed store token now, ?_, rfl, rfl, fun token issued => ?_, fun held => ?_⟩
    · rw [← id]
      exact claimed.rewrites.here
    · rw [Issued, RunView.claimed, List.map_append,
        view.holding_map (fun attempt => attempt.expired now) _ fun _ => rfl]
      exact List.mem_append_left _ issued
    · cases held
      exact absurd issued claimed.fresh
  · refine ⟨found, ?_, (Steady.refl found).spares other⟩
    rw [claimed.rewrites.elsewhere runId (id ▸ same), here]

end Writes

/-! ## Every step keeps the invariant -/

section Kept

variable {floor next : Floor} {label : World.Label}

theorem Floor.parties_set {floor : Floor} {index other : Nat} {party found : Party}
    (here : (floor.parties.set index party)[other]? = some found) :
    (other = index ∧ found = party) ∨ (other ≠ index ∧ floor.parties[other]? = some found) := by
  rw [List.getElem?_set] at here
  split at here
  · rename_i same
    split at here
    · cases here
      exact .inl ⟨same.symm, rfl⟩
    · cases here
  · rename_i different
    exact .inr ⟨fun same => different same.symm, here⟩

theorem rows_of_calm {db next : RunDb}
    (rows : ∀ runId view job, db.view runId = some view → view.row.job = Dict.sorted job.dump →
      ∃ progress, Tells job view.row.checkpoint progress)
    (calm : ∀ runId, Evolves Steady (db.view runId) (next.view runId)) :
    ∀ runId view job, next.view runId = some view → view.row.job = Dict.sorted job.dump →
      ∃ progress, Tells job view.row.checkpoint progress := by
  intro runId view job here sameJob
  have evolves := calm runId
  rw [here] at evolves
  generalize before : db.view runId = was at evolves
  cases evolves with
  | created blank =>
      rw [blank]
      exact ⟨_, .of_empty job⟩
  | @changed first _ calm =>
      rw [calm.checkpoint]
      exact rows runId first job before (calm.job.symm.trans sameJob)

theorem Floor.Sound.client (sound : floor.Sound) {call : Call} {store : StoreState}
    (able : Public call.operation) (step : RunStore.Step floor.store call store) :
    Floor.Sound { floor with store } := by
  have calm := client_calm able step sound.valid
  have valid : store.db.WellFormed := by
    rw [step.db]
    exact (Effect.of_perform sound.valid _ _ _).wellFormed sound.valid
  refine ⟨valid, rows_of_calm sound.rows calm, fun index party here => ?_, sound.apart⟩
  refine (sound.parties index party here).spared fun token view attends _ => ?_
  have evolves := calm party.job.agentRunId.text
  rw [attends.found] at evolves
  generalize store.db.view party.job.agentRunId.text = arrived at evolves
  cases evolves with
  | changed calm => exact ⟨_, rfl, calm.spares token⟩

theorem Floor.parties_append {floor : Floor} {index : Nat} {party found : Party}
    (here : (floor.parties ++ [party])[index]? = some found) :
    floor.parties[index]? = some found ∨ (floor.parties.length ≤ index ∧ found = party) := by
  rw [List.getElem?_append] at here
  split at here
  · exact .inl here
  · rename_i beyond
    rw [List.getElem?_singleton] at here
    split at here
    · cases here
      exact .inr ⟨not_lt.mp beyond, rfl⟩
    · cases here

theorem Floor.Sound.deliver (sound : floor.Sound) (settings : Settings) (job : AgentRunJob) :
    Floor.Sound
      { floor with parties := floor.parties ++ [{ settings, job, standing := .waiting }] } where
  valid := sound.valid
  rows := sound.rows
  parties index party here := by
    rcases Floor.parties_append here with here | ⟨_, rfl⟩
    · exact sound.parties index party here
    · refine ⟨by simp, fun lease reports => ?_, fun _ working => ?_, fun _ _ working => ?_⟩
      · cases reports
      · cases working
      · cases working
  apart left right first second firstLease secondLease different hereFirst hereSecond sameRun
      reportsFirst reportsSecond := by
    rcases Floor.parties_append hereFirst with hereFirst | ⟨_, rfl⟩
    · rcases Floor.parties_append hereSecond with hereSecond | ⟨_, rfl⟩
      · exact sound.apart left right first second _ _ different hereFirst hereSecond sameRun
          reportsFirst reportsSecond
      · cases reportsSecond
    · cases reportsFirst

theorem Floor.Sound.party (sound : floor.Sound) {store : StoreState} {index : Nat}
    {party : Party} {standing : Standing} (here : floor.parties[index]? = some party)
    (valid : store.db.WellFormed)
    (rows : ∀ runId view job, store.db.view runId = some view → view.row.job = Dict.sorted job.dump →
      ∃ progress, Tells job view.row.checkpoint progress)
    (mover : Party.Sound store.db { party with standing })
    (others : ∀ (other : Nat) (found : Party), other ≠ index →
      floor.parties[other]? = some found → found.Sound store.db)
    (leases : ∀ lease, standing.Reports lease → party.standing.Reports lease ∨
      ∀ (other : Nat) (found : Party) foundLease, other ≠ index →
        floor.parties[other]? = some found → found.job.agentRunId = party.job.agentRunId →
        found.standing.Reports foundLease → lease.token ≠ foundLease.token) :
    Floor.Sound { store, parties := floor.parties.set index { party with standing } } where
  valid := valid
  rows := rows
  parties other found there := by
    rcases Floor.parties_set there with ⟨_, rfl⟩ | ⟨different, there⟩
    · exact mover
    · exact others other found different there
  apart left right first second firstLease secondLease different hereFirst hereSecond sameRun
      reportsFirst reportsSecond := by
    rcases Floor.parties_set hereFirst with ⟨rfl, rfl⟩ | ⟨notFirst, keptFirst⟩
    · rcases Floor.parties_set hereSecond with ⟨same, _⟩ | ⟨notSecond, hereSecond⟩
      · exact absurd same.symm different
      · rcases leases _ reportsFirst with before | fresh
        · exact sound.apart left right party second _ _ different here hereSecond sameRun before
            reportsSecond
        · exact fresh right second _ notSecond hereSecond sameRun.symm reportsSecond
    · rcases Floor.parties_set hereSecond with ⟨rfl, rfl⟩ | ⟨_, hereSecond⟩
      · rcases leases _ reportsSecond with before | fresh
        · exact sound.apart left right first party _ _ different keptFirst here sameRun
            reportsFirst before
        · exact fun same => fresh left first _ notFirst keptFirst sameRun reportsFirst same.symm
      · exact sound.apart left right first second _ _ different keptFirst hereSecond sameRun
          reportsFirst reportsSecond

theorem Floor.Sound.rested (sound : floor.Sound) {index : Nat} {party : Party}
    {taken : Event Reply} {standing : Standing} {store : StoreState}
    (here : floor.parties[index]? = some party)
    (answers : Answers party.settings.store floor.store taken store)
    (rest : Standing.Rest party.standing taken standing) :
    Floor.Sound { store, parties := floor.parties.set index { party with standing } } := by
  have calm := rest_calm rest answers sound.valid
  have valid := answers.wellFormed sound.valid
  refine sound.party here valid (rows_of_calm sound.rows calm)
    ((sound.parties index party here).rested rest calm) (fun other found _ there => ?_)
    fun lease reports => .inl (rest.reports lease reports)
  refine (sound.parties other found there).spared fun token view attends _ => ?_
  have evolves := calm found.job.agentRunId.text
  rw [attends.found] at evolves
  generalize store.db.view found.job.agentRunId.text = arrived at evolves
  cases evolves with
  | changed calm => exact ⟨_, rfl, calm.spares token⟩

theorem Floor.Sound.saved (sound : floor.Sound) {index : Nat} {party : Party} {attempt : Attempt}
    {site : Site} {saved : Dict} {standing : Standing} {store : StoreState}
    (here : floor.parties[index]? = some party) (working : party.standing = .working attempt)
    (answers : Answers party.settings.store floor.store
      (checkpointed attempt.control.lease site saved (.ok ())) store)
    (saves : Standing.Saves party.settings party.job party.standing site saved standing) :
    Floor.Sound { store, parties := floor.parties.set index { party with standing } } := by
  have known := sound.parties index party here
  have valid := answers.wellFormed sound.valid
  obtain ⟨token, view, savedBy⟩ := known.saved working answers sound.valid
  have reports : party.standing.Reports attempt.control.lease := working ▸ .working
  have tells := known.tells attempt working
  obtain ⟨after, arrived, checkpoint, sameJob, attends⟩ := savedBy.after
  have told : ∃ progress, Tells party.job saved progress := by
    rw [working] at saves
    cases saves with
    | step step => exact ⟨_, step.tells tells⟩
    | stuck => exact ⟨_, tells_other tells rfl⟩
  refine sound.party here valid ?_ ?_ (fun other found different there => ?_) fun lease now => ?_
  · intro runId later job found jobSame
    by_cases same : runId = party.job.agentRunId.text
    · subst same
      cases arrived.symm.trans found
      rw [sameJob, savedBy.attends.job] at jobSame
      rw [checkpoint, ← AgentRunJob.sorted_dump_inj jobSame]
      exact told
    · rw [savedBy.elsewhere same] at found
      exact sound.rows runId later job found jobSame
  · rw [working] at saves
    cases saves with
    | @step _ last _ step =>
        refine ⟨by simp, fun lease now => ?_, fun other same => ?_,
          fun other later same found _ => ?_⟩
        · cases now
          rw [step.control]
          exact ⟨token, after, savedBy.lease, attends⟩
        · cases same
          exact step.tells tells
        · cases same
          cases arrived.symm.trans found
          exact checkpoint
    | stuck =>
        refine ⟨by simp, fun lease now => ?_, fun _ same => ?_, fun _ _ same => ?_⟩
        · cases now
          exact ⟨token, after, savedBy.lease, attends⟩
        · cases same
        · cases same
  · refine (sound.parties other found there).spared fun otherToken view attends reporting => ?_
    refine savedBy.spares attends.found fun sameRun same => ?_
    have runs : found.job.agentRunId = party.job.agentRunId := Uuid4.ext_text sameRun
    refine sound.apart other index found party _ _ different there here runs reporting reports ?_
    rw [savedBy.lease]
    exact same
  · left
    rw [working] at saves
    cases saves with
    | step step =>
        cases now
        rw [step.control]
        exact reports
    | stuck =>
        cases now
        exact reports

theorem Floor.Sound.claimed (sound : floor.Sound) {index : Nat} {party : Party} {row : RunRow}
    {token : String} {standing : Standing} {store : StoreState}
    (here : floor.parties[index]? = some party)
    (answers : Answers party.settings.store floor.store
      ⟨.claim party.job.dump, (Except.ok row : Except RunStoreError RunRow)⟩ store)
    (open_ : row.state ≠ .succeeded)
    (starts : Standing.Starts party.settings party.job row token standing) :
    Floor.Sound { store, parties := floor.parties.set index { party with standing } } := by
  have valid := answers.wellFormed sound.valid
  obtain ⟨view, drawn, now, rfl, claimed⟩ := answers.claimed sound.valid open_
  obtain ⟨arrived, attends⟩ := claimed.after
  have held : token = drawn := by
    cases starts with
    | working claimed => exact Option.some.inj claimed.held.symm
    | failing claimed => exact Option.some.inj claimed.held.symm
  subst held
  have lease : ∀ lease, standing.Reports lease → lease = Runner.jobLease party.job token := by
    intro lease reports
    cases starts with
    | working _ built =>
        cases reports
        obtain ⟨_, _, built⟩ := Outcome.bind_eq_ok.mp built
        exact control_lease built
    | failing =>
        cases reports
        rfl
  refine sound.party here valid ?_ ?_ (fun other found different there => ?_) fun taken now => ?_
  · intro runId later job found jobSame
    by_cases same : runId = party.job.agentRunId.text
    · subst same
      cases arrived.symm.trans found
      obtain ⟨progress, tells⟩ := sound.rows _ view job claimed.found jobSame
      exact ⟨progress, tells⟩
    · rw [claimed.elsewhere same] at found
      exact sound.rows runId later job found jobSame
  · refine ⟨?_, fun taken reports => ⟨token, _, lease taken reports, attends⟩,
      fun attempt working => ?_, fun attempt later working found _ => ?_⟩
    · cases starts <;> simp
    · cases starts with
      | working claimed =>
          cases working
          exact claimed.tells
      | failing => cases working
    · cases starts with
      | working =>
          cases working
          cases arrived.symm.trans found
          rfl
      | failing => cases working
  · refine (sound.parties other found there).spared fun otherToken view attends _ => ?_
    exact claimed.spares attends.found attends.issued
  · refine .inr fun other found foundLease different there sameRun reports => ?_
    obtain ⟨otherToken, otherView, rfl, otherAttends⟩ :=
      (sound.parties other found there).attends _ reports
    rw [lease taken now]
    have foundView := otherAttends.found
    rw [sameRun] at foundView
    cases claimed.found.symm.trans foundView
    rintro rfl
    exact claimed.fresh otherAttends.issued

theorem Floor.Step.sound (step : Floor.Step floor label next) (sound : floor.Sound) :
    next.Sound := by
  cases step with
  | client able step => exact sound.client able step
  | deliver => exact sound.deliver _ _
  | @event index party taken standing store here moves answers =>
      have known := sound.parties index party here
      rcases moves.kinds known.real with ⟨attempt, site, saved, working, rfl, saves⟩ |
        ⟨row, token, waiting, rfl, open_, starts⟩ | ⟨row, rfl, open_, impossible⟩ | rest
      · exact sound.saved here working answers saves
      · exact sound.claimed here answers open_ starts
      · obtain ⟨view, token, now, rfl, claimed⟩ := answers.claimed sound.valid open_
        obtain ⟨progress, tells⟩ := sound.rows _ _ _ claimed.found claimed.job
        exact absurd (claimed.real tells) (impossible _ _)
      · exact sound.rested here answers rest

theorem Floor.Initial.sound (initial : floor.Initial) : floor.Sound := by
  obtain ⟨store, parties⟩ := initial
  have empty : floor.store.db = RunDb.empty := store
  refine ⟨empty ▸ .empty, fun runId view job found => ?_, fun index party here => ?_,
    fun left right first second _ _ _ here => ?_⟩
  · rw [empty] at found
    cases found
  · rw [parties] at here
    cases here
  · rw [parties] at here
    cases here

end Kept

end Crewos.Agent

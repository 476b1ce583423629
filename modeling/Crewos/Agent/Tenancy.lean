import Crewos.Agent.DeliveryProtocol
import Crewos.Agent.Keeping
import Crewos.Agent.Session
import Crewos.RunStore.Tenants

/-! # The tenant of a delivery

The lease of an attempt names the tenant of the record that was claimed. When the
store hands out records of the tenant that claims them, a delivery asks the store for
nothing but operations of its job's tenant. -/

namespace Crewos.Agent

open Foundation RunStore

theorem textField_dump (job : AgentRunJob) :
    textField job.dump "agent_run_id" = .ok job.agentRunId.text ∧
      textField job.dump "tenant_id" = .ok job.tenantId := by
  constructor <;> simp [textField, AgentRunJob.dump, Dict.get?_cons]

theorem reply_nonempty (request : Request) : Nonempty (Reply request) := by
  cases request with
  | control request =>
      cases request with
      | heartbeatError => exact ⟨(none : Option RunStoreError)⟩
      | guard => exact ⟨(.error .operationalError : Except RunStoreError Time)⟩
      | checkpoint => exact ⟨(.error .operationalError : Except RunStoreError Unit)⟩
      | invoke => exact ⟨(.error .typeError : Except Exc ModelResponse)⟩
  | perfCounter => exact ⟨(0 : Time)⟩
  | observe | build => exact ⟨(.ok () : Except Exc Unit)⟩
  | decide | decided | dispatch | review | startHeartbeat | closeHeartbeat => exact ⟨()⟩
  | handle => exact ⟨(.error .typeError : Except Exc ToolResult)⟩
  | claim | get => exact ⟨(.error .operationalError : Except RunStoreError RunRow)⟩
  | finish => exact ⟨(.ok () : Except RunStoreError Unit)⟩

/-- What the request asks of the store is the tenant's. -/
def Request.OwnedBy (tenantId : String) (request : Request) : Prop :=
  ∀ token operation, request.operation token = some operation → operation.tenant = .ok tenantId

/-- A claim returns a record of the tenant that claims it. -/
def HandsOut : Event Reply → Prop
  | ⟨.claim job, reply⟩ => ∀ row, (reply : Except RunStoreError RunRow) = .ok row →
      textField job "tenant_id" = .ok row.tenant
  | _ => True

def Owning (tenantId : String) : Protocol Reply Prop :=
  fun sound event next => (sound → event.request.OwnedBy tenantId) ∧ next = (sound ∧ HandsOut event)

section Delivery

variable {tenantId tenant : String} {State : Type}

/-- The tenant that leases name is the job's, if the claim is to be relied on. -/
abbrev Leased (tenantId tenant : String) (_ : State) (sound : Prop) : Prop :=
  sound → tenant = tenantId

theorem Request.owned_of_mild {request : Request} (mild : request.mild = true) :
    request.OwnedBy tenantId := by
  intro token operation asked
  cases request with
  | control request =>
      cases request with
      | guard | checkpoint => cases mild
      | _ => cases asked
  | claim | finish | get | handle => cases mild
  | _ => cases asked

theorem Leased.event {state later : State} {sound : Prop} {event : Event Reply}
    (leased : Leased tenantId tenant state sound)
    (owned : tenant = tenantId → event.request.OwnedBy tenantId) :
    ∃ next, Owning tenantId sound event next ∧ Leased tenantId tenant later next :=
  ⟨_, ⟨fun holds => owned (leased holds), rfl⟩, fun ⟨holds, _⟩ => leased holds⟩

theorem owning_lasts (tenantId : String) (lease : Lease) :
    Lasts (Owning tenantId) lease (Leased tenantId lease.tenant) where
  mild _ mild leased := leased.event fun _ => Request.owned_of_mild mild
  guards _ leased := leased.event fun same _ _ asked => by
    cases asked
    exact congrArg _ same
  saves _ _ _ leased := leased.event fun same _ _ asked => by
    cases asked
    exact congrArg _ same

theorem owning_ask {request : Request} (owned : request.OwnedBy tenantId) :
    Exec.Keeps (Owning tenantId) (Leased tenantId tenant)
      (Exec.ask request : Exec Reply Exc State (Reply request)) :=
  .ask fun _ _ _ leased => leased.event fun _ => owned

theorem owning_finish (job : AgentRunJob) (token : String) (state : RunState)
    (result : Option Json) (error : Option String) :
    Exec.Keeps (Owning job.tenantId) (Leased job.tenantId tenant)
      (Exec.ask (Request.finish (Runner.jobLease job token) state result error) :
        Exec Reply Exc State _) :=
  owning_ask fun _ _ asked => by
    cases asked
    rfl

theorem owning_liveAnswer (settings : Settings) (control : Control) (job : AgentRunJob) :
    Exec.Keeps (Owning tenantId) (Leased tenantId control.lease.tenant)
      (Runner.liveAnswer settings control job) := by
  have lasts := owning_lasts tenantId control.lease
  unfold Runner.liveAnswer
  refine .bind (keeps_liftControl (keeps_guard lasts.survives)) fun remaining =>
    .bind (.raiseIf _ _) fun _ => .bind (owning_ask (Request.owned_of_mild rfl)) fun _ =>
    .bind (.ofExcept _) fun _ => ?_
  have lasting : AgentLoop.Lasting (Runner.buildAgentLoop settings control job remaining)
      (Owning tenantId) (Leased tenantId control.lease.tenant) :=
    ⟨lasts, keeps_decide settings job.answerMode lasts, keeps_review settings lasts⟩
  exact keeps_run lasting.carrying fun _ _ _ => owning_ask fun _ _ asked => by cases asked

theorem owning_attempt (settings : Settings) (control : Control) (job : AgentRunJob)
    (record : RunRow) (limits : Json) (token : String) :
    Exec.Keeps (Owning job.tenantId) (Leased job.tenantId control.lease.tenant)
      (Runner.attempt settings control job record limits token) := by
  have lasts := owning_lasts job.tenantId control.lease
  unfold Runner.attempt
  refine .bind (owning_ask (Request.owned_of_mild rfl)) fun _ =>
    .bind (keeps_liftControl (keeps_persist lasts.survives rfl _)) fun _ =>
    .ite (.bind (.ofExcept _) fun answer => ?_)
      (.bind (owning_liveAnswer settings control job) fun answer => ?_)
  all_goals
    refine .bind (owning_finish job _ _ _ _) fun _ => .bind (.ofExcept _) fun _ =>
      .bind (owning_ask fun _ _ asked => ?_) fun _ => .bind (.ofExcept _) fun _ =>
      .bind (.raiseIf _ _) fun _ => .pure _
    cases asked
    rfl

theorem owning_controlled (settings : Settings) (job : AgentRunJob) (record : RunRow)
    (limits : Json) (cost : Option String) (token : String) :
    Exec.Keeps (Owning job.tenantId) (Leased job.tenantId record.tenant)
      (Runner.controlled settings job record limits cost token) := by
  intro state sound leased
  unfold Runner.controlled
  refine Exec.leads_seq (Exec.leads_ofExcept (fun control built => ?_) fun _ _ => leased)
  have keeps := owning_attempt settings control job record limits token
  rw [control_lease built] at keeps
  exact Exec.leads_zoom (keeps record.checkpoint sound leased)

theorem owning_execute (settings : Settings) (job : AgentRunJob) (record : RunRow) :
    Exec.Keeps (Owning job.tenantId) (Leased job.tenantId record.tenant)
      (Runner.execute settings job record) := by
  unfold Runner.execute Exec.andFinally
  refine .bind (.ofExcept _) fun token => .bind (.ofExcept _) fun cost => ?_
  have reports (error : Exc) : Exec.Keeps (Owning job.tenantId)
      (Leased job.tenantId record.tenant) (Runner.report job token error) := by
    unfold Runner.report
    exact .bind .get fun _ => .bind (owning_finish job _ _ _ _) fun _ =>
      .bind (.ofExcept _) fun _ => .throw _
  have closes : Exec.Keeps (Owning job.tenantId) (Leased job.tenantId record.tenant)
      Runner.close := by
    unfold Runner.close
    exact .bind .get fun _ => .ite (owning_ask (Request.owned_of_mild rfl)) (.pure _)
  exact .bind (.tryCatch (.tryCatch (owning_controlled settings job record _ cost token) reports)
    fun _ => .bind closes fun _ => .throw _) fun _ => .bind closes fun _ => .pure _

theorem delivery_owns (settings : Settings) (job : AgentRunJob) :
    Follows (Owning job.tenantId) (fun _ _ => True) (delivery settings (.obj job.dump)) True := by
  have holds : Exec.leads (Owning job.tenantId) (executeAgentJob settings (.obj job.dump))
      (fun _ _ _ => True) (fun _ _ _ => True) none True := by
    unfold executeAgentJob
    rw [AgentRunJob.validate_dump]
    refine Exec.leads_seq (Exec.leads_pure (Exec.leads_seq ?_))
    refine Exec.leads_raiseIf (fun _ => ?_) fun _ => trivial
    refine Exec.leads_seq (Exec.leads_ask fun (reply : Except RunStoreError RunRow) => ?_)
    refine ⟨_, ⟨fun _ token operation asked => ?_, rfl⟩, ?_⟩
    · cases asked
      exact (textField_dump job).2
    cases reply with
    | error error => exact trivial
    | ok record =>
        have tenant (sound : True ∧ HandsOut ⟨.claim job.dump,
            (Except.ok record : Except RunStoreError RunRow)⟩) : record.tenant = job.tenantId :=
          Except.ok.inj ((sound.2 record rfl).symm.trans (textField_dump job).2)
        refine Exec.leads_seq (Exec.leads_pure (Exec.leads_ite (fun _ => ?_) fun _ => ?_))
        · exact Exec.leads_ofExcept (fun _ _ => trivial) fun _ _ => trivial
        · exact Exec.leads_mono (owning_execute settings job record _ _ tenant)
            (fun _ _ _ _ => trivial) fun _ _ _ _ => trivial
  exact Follows.mono holds fun _ _ _ => trivial

end Delivery

end Crewos.Agent

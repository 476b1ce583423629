import Crewos.Agent.Keeping
import Crewos.Agent.Soundness
import Crewos.Agent.ToolFailure

/-! # The state a failed attempt is recorded in

Whether a failure needs a review is decided by the dictionary in memory, which is
updated before the store accepts it. The record agrees with the durable
checkpoint unless the last checkpoint was refused and would have set or cleared
the marker of a call that must not be replayed. -/

namespace Crewos.Agent

open Foundation RunStore

/-! ## What an attempt accounts for -/

/-- The record an attempt claimed, the last dictionary the store accepted, the
one it refused since, and the state a failure was recorded in. -/
structure Account where
  claimed : Option RunRow
  saved : Dict
  refused : Option Dict
  reported : Option RunState

namespace Account

def blank : Account := { claimed := none, saved := [], refused := none, reported := none }

def memory (account : Account) : Dict := account.refused.getD account.saved

/-- The attempt of this record has not reported yet, and its lease has this token. -/
structure Open (account : Account) (record : RunRow) (token : String) : Prop where
  claimed : account.claimed = some record
  unfinished : record.state ≠ .succeeded
  held : record.leaseToken = some token
  silent : account.reported = none

end Account

inductive Accounts (job : AgentRunJob) : Account → Event Reply → Account → Prop
  | claimed {record : RunRow} (unfinished : record.state ≠ .succeeded) :
      Accounts job .blank ⟨.claim job.dump, (Except.ok record : Except RunStoreError RunRow)⟩
        { Account.blank with claimed := some record, saved := record.checkpoint }
  | saved {account : Account} {record : RunRow} {token : String} {site : Site} {dict : Dict}
      (here : account.Open record token) :
      Accounts job account
        ⟨.control (.checkpoint { runId := record.id, tenant := record.tenant, token } site dict),
          (Except.ok () : Except RunStoreError Unit)⟩
        { account with saved := dict, refused := none }
  | refused {account : Account} {record : RunRow} {token : String} {site : Site} {dict : Dict}
      {error : RunStoreError} (here : account.Open record token) :
      Accounts job account
        ⟨.control (.checkpoint { runId := record.id, tenant := record.tenant, token } site dict),
          (Except.error error : Except RunStoreError Unit)⟩
        { account with refused := some dict }
  | reported {account : Account} {record : RunRow} {token : String} {verdict : RunState}
      {name : String} (here : account.Open record token) :
      Accounts job account
        ⟨.finish (Runner.jobLease job token) verdict none (some name),
          (Except.ok () : Except RunStoreError Unit)⟩
        { account with reported := some verdict }
  | other {account : Account} {event : Event Reply}
      (unclaimed : ∀ job (record : RunRow),
        event = ⟨.claim job, (Except.ok record : Except RunStoreError RunRow)⟩ →
        record.state = .succeeded)
      (unsaved : ∀ lease site dict, event.request ≠ .control (.checkpoint lease site dict))
      (unreported : ∀ lease verdict name, event ≠ ⟨.finish lease verdict none (some name),
        (Except.ok () : Except RunStoreError Unit)⟩) : Accounts job account event account

def Account.Settles (account : Account) (out : Except Exc AgentAnswer) : Prop :=
  ∀ verdict, account.reported = some verdict → ∃ record error,
    account.claimed = some record ∧ out = .error error ∧
    (unsafePending record.checkpoint = false →
      verdict = Runner.failureState (some account.memory) error)

theorem Account.settles_of_silent {account : Account} (silent : account.reported = none)
    (out : Except Exc AgentAnswer) : account.Settles out := by
  intro verdict reported
  rw [silent] at reported
  cases reported

section Program

variable {job : AgentRunJob} {settings : Settings} {record : RunRow} {token : String}
  {account : Account}

theorem Accounts.of_mild {event : Event Reply} (mild : event.request.mild = true) :
    Accounts job account event account := by
  refine .other ?_ ?_ ?_
  · rintro other record rfl
    cases mild
  · intro lease site dict same
    rw [same] at mild
    cases mild
  · rintro lease verdict name rfl
    cases mild

theorem Accounts.of_other {event : Event Reply} (unclaimed : ∀ job, event.request ≠ .claim job)
    (unsaved : ∀ lease site dict, event.request ≠ .control (.checkpoint lease site dict))
    (unreported : ∀ lease verdict name, event.request ≠ .finish lease verdict none (some name)) :
    Accounts job account event account := by
  refine .other ?_ unsaved ?_
  · rintro other record rfl
    exact absurd rfl (unclaimed other)
  · rintro lease verdict name rfl
    exact absurd rfl (unreported lease verdict name)

/-- Between the claim and the report, with this dictionary in memory. -/
structure Account.Works (record : RunRow) (dict : Dict) (account : Account) : Prop where
  claimed : account.claimed = some record
  memory : account.memory = dict
  silent : account.reported = none

theorem works_lasts (unfinished : record.state ≠ .succeeded)
    (held : record.leaseToken = some token) :
    Lasts (Accounts job) { runId := record.id, tenant := record.tenant, token }
      (Account.Works record) where
  mild _ mild works := ⟨_, .of_mild mild, works⟩
  guards _ works := ⟨_, .of_other (fun _ same => by cases same) (fun _ _ _ same => by cases same)
    fun _ _ _ same => (by cases same), works⟩
  saves site saved reply works := by
    have here := Account.Open.mk works.claimed unfinished held works.silent
    cases reply with
    | error error => exact ⟨_, .refused here, works.claimed, rfl, works.silent⟩
    | ok accepted => exact ⟨_, .saved here, works.claimed, rfl, works.silent⟩

theorem works_handled (tool : String) (arguments : Dict) (remaining : Time) :
    LoopKeeps (Accounts job) (Account.Works record)
      (AgentLoop.ask (.handle tool arguments remaining)) := by
  refine .ask fun _ account reply works => ⟨account, .of_other ?_ ?_ ?_, works⟩
  · exact fun _ same => by cases same
  · exact fun _ _ _ same => by cases same
  · exact fun _ _ _ same => by cases same

theorem works_get (runId tenantId : String) :
    Exec.Keeps (Accounts job) (Account.Works record) (Runner.ask (.get runId tenantId)) := by
  refine .ask fun _ account reply works => ⟨account, .of_other ?_ ?_ ?_, works⟩
  · exact fun _ same => by cases same
  · exact fun _ _ _ same => by cases same
  · exact fun _ _ _ same => by cases same

theorem works_ask {request : Request} (mild : request.mild = true) :
    Exec.Keeps (Accounts job) (Account.Works record) (Runner.ask request) :=
  .ask fun _ account _ works => ⟨account, .of_mild mild, works⟩

variable {control : Control}

theorem works_liveAnswer (unfinished : record.state ≠ .succeeded)
    (held : record.leaseToken = some token)
    (lease : control.lease = { runId := record.id, tenant := record.tenant, token }) :
    Exec.Keeps (Accounts job) (Account.Works record) (Runner.liveAnswer settings control job) := by
  have lasts : Lasts (Accounts job) control.lease (Account.Works record) :=
    lease ▸ works_lasts unfinished held
  unfold Runner.liveAnswer
  refine .bind (keeps_liftControl (keeps_guard lasts.survives)) fun remaining => .bind (.raiseIf _ _)
    fun _ => .bind (works_ask rfl) fun _ => .bind (.ofExcept _) fun _ => ?_
  have lasting : AgentLoop.Lasting (Runner.buildAgentLoop settings control job remaining)
      (Accounts job) (Account.Works record) :=
    ⟨lasts, keeps_decide settings job.answerMode lasts, keeps_review settings lasts⟩
  exact keeps_run lasting.carrying works_handled

theorem works_attempt (unfinished : record.state ≠ .succeeded)
    (held : record.leaseToken = some token)
    (lease : control.lease = { runId := record.id, tenant := record.tenant, token })
    (limits : Json) :
    Exec.Keeps (Accounts job) (Account.Works record)
      (Runner.attempt settings control job record limits token) := by
  have lasts : Lasts (Accounts job) control.lease (Account.Works record) :=
    lease ▸ works_lasts unfinished held
  unfold Runner.attempt
  have closes (answer : AgentAnswer) : Exec.Keeps (Accounts job) (Account.Works record)
      (Runner.ask (.finish (Runner.jobLease job token) .succeeded (some answer.dump) none)) := by
    refine .ask fun _ account reply works => ⟨account, .of_other ?_ ?_ ?_, works⟩
    · exact fun _ same => by cases same
    · exact fun _ _ _ same => by cases same
    · exact fun _ _ _ same => by cases same
  refine .bind (works_ask rfl) fun _ =>
    .bind (keeps_liftControl (keeps_persist lasts.survives rfl _)) fun _ =>
    .ite (.bind (.ofExcept _) fun answer => ?_)
      (.bind (works_liveAnswer unfinished held lease) fun answer => ?_)
  all_goals
    exact .bind (closes answer) fun _ => .bind (.ofExcept _) fun _ =>
      .bind (works_get _ _) fun _ =>
        .bind (.ofExcept _) fun _ => .bind (.raiseIf _ _) fun _ => .pure _

structure Account.Fails (record : RunRow) (state : Option Dict) (account : Account) : Prop where
  claimed : account.claimed = some record
  silent : account.reported = none
  memory : state = some account.memory ∨ (state = none ∧ account.memory = record.checkpoint)

/-- Without a control nothing was saved: the record's own marker decides. -/
theorem Account.Fails.verdict {state : Option Dict} (fails : account.Fails record state)
    (safe : unsafePending record.checkpoint = false) (error : Exc) :
    Runner.failureState state error = Runner.failureState (some account.memory) error := by
  rcases fails.memory with rfl | ⟨rfl, same⟩
  · rfl
  · unfold Runner.failureState
    simp [same, safe]

theorem controlled_fails (unfinished : record.state ≠ .succeeded)
    (held : record.leaseToken = some token) (limits : Json) (cost : Option String)
    (claimed : account.claimed = some record) (silent : account.reported = none)
    (memory : account.memory = record.checkpoint) :
    Exec.leads (Accounts job) (Runner.controlled settings job record limits cost token)
      (fun _ _ account => account.reported = none)
      (fun _ state account => account.Fails record state) none account := by
  unfold Runner.controlled
  refine Exec.leads_seq (Exec.leads_ofExcept (fun control built => ?_) fun _ _ => ?_)
  · have keeps := @works_attempt job settings record token control unfinished held
      (control_lease built) limits
    refine Exec.leads_zoom (Exec.leads_mono (keeps record.checkpoint account
      ⟨claimed, memory, silent⟩) (fun _ _ _ works => works.silent) fun _ _ _ works => ?_)
    exact ⟨works.claimed, works.silent, .inl (by rw [works.memory])⟩
  · exact ⟨claimed, silent, .inr ⟨rfl, memory⟩⟩

/-- A failure settles the account, whether or not the store accepts the report. -/
theorem report_settles (unfinished : record.state ≠ .succeeded)
    (held : record.leaseToken = some token) {state : Option Dict}
    (fails : account.Fails record state) (error : Exc) :
    Exec.leads (Accounts job) (Runner.report job token error)
      (fun _ _ account => account.reported = none)
      (fun raised _ account => account.Settles (.error raised)) state account := by
  unfold Runner.report
  refine Exec.leads_seq (Exec.leads_get (Exec.leads_seq
    (Exec.leads_ask fun (reply : Except RunStoreError Unit) => ?_)))
  cases reply with
  | error failure =>
      have settled := Account.settles_of_silent fails.silent
      refine ⟨account, .other ?_ ?_ ?_, Exec.leads_seq (Exec.leads_ofExcept
        (fun _ _ => settled _) fun _ _ => settled _)⟩
      · exact fun _ _ same => by cases same
      · exact fun _ _ _ same => by cases same
      · exact fun _ _ _ same => by cases same
  | ok accepted =>
      refine ⟨_, .reported ⟨fails.claimed, unfinished, held, fails.silent⟩,
        Exec.leads_seq (Exec.leads_ofExcept (fun _ _ => ?_) fun _ failed => ?_)⟩
      · rintro verdict ⟨⟩
        exact ⟨record, error, fails.claimed, rfl, fun safe => fails.verdict safe error⟩
      · cases failed

theorem close_settles {returned : Unit → Option Dict → Account → Prop}
    {raised : Exc → Option Dict → Account → Prop} {state : Option Dict}
    (holds : returned () state account) :
    Exec.leads (Accounts job) Runner.close returned raised state account := by
  unfold Runner.close
  refine Exec.leads_seq (Exec.leads_get (Exec.leads_ite (fun _ => ?_) fun _ => holds))
  exact Exec.leads_ask fun _ => ⟨account, .of_mild rfl, holds⟩

theorem execute_settles (unfinished : record.state ≠ .succeeded)
    (claimed : account.claimed = some record) (silent : account.reported = none)
    (memory : account.memory = record.checkpoint) :
    Exec.leads (Accounts job) (Runner.execute settings job record)
      (fun _ _ account => account.reported = none)
      (fun raised _ account => account.Settles (.error raised)) none account := by
  have settled := Account.settles_of_silent silent
  unfold Runner.execute
  refine Exec.leads_seq (Exec.leads_ofExcept (fun token tokens => ?_) fun _ _ => settled _)
  have held : record.leaseToken = some token := by
    unfold Runner.tokenOf at tokens
    split at tokens
    · rename_i found
      cases tokens
      exact found
    · cases tokens
  refine Exec.leads_seq (Exec.leads_ofExcept (fun cost _ => ?_) fun _ _ => settled _)
  refine Exec.leads_andFinally (Exec.leads_tryCatch
    (controlled_fails unfinished held _ cost claimed silent memory)
    fun error _ _ fails => report_settles unfinished held fails error)
    (fun _ _ _ silent => close_settles silent) fun _ _ _ settles => close_settles settles

theorem delivery_settles (settings : Settings) {payload : Json}
    (valid : AgentRunJob.validate payload = some job) :
    Follows (Accounts job) (fun out account => account.Settles out.1) (delivery settings payload)
      .blank := by
  have holds : Exec.leads (Accounts job) (executeAgentJob settings payload)
      (fun _ _ account => account.reported = none)
      (fun raised _ account => account.Settles (.error raised)) none .blank := by
    have settled := @Account.settles_of_silent .blank rfl
    unfold executeAgentJob
    rw [valid]
    refine Exec.leads_seq (Exec.leads_pure (Exec.leads_seq ?_))
    refine Exec.leads_raiseIf (fun _ => ?_) fun _ => settled _
    refine Exec.leads_seq (Exec.leads_ask fun (reply : Except RunStoreError RunRow) => ?_)
    cases reply with
    | error error =>
        refine ⟨.blank, .other ?_ ?_ ?_, settled _⟩
        · exact fun _ _ same => by cases same
        · exact fun _ _ _ same => by cases same
        · exact fun _ _ _ same => by cases same
    | ok record =>
        by_cases done : record.state = .succeeded
        · refine ⟨.blank, .other ?_ ?_ ?_, Exec.leads_seq (Exec.leads_pure ?_)⟩
          · rintro _ other same
            cases same
            exact done
          · exact fun _ _ _ same => by cases same
          · exact fun _ _ _ same => by cases same
          · rw [if_pos done]
            exact Exec.leads_ofExcept (fun _ _ => rfl) fun _ _ => settled _
        · refine ⟨_, .claimed done, Exec.leads_seq (Exec.leads_pure ?_)⟩
          rw [if_neg done]
          exact execute_settles done rfl rfl rfl
  refine Follows.mono holds ?_
  rintro ⟨outcome, last⟩ account ends
  cases outcome with
  | ok answer => exact Account.settles_of_silent ends _
  | error raised => exact ends

end Program

/-! ## Refused checkpoints -/

/-- What is known of a refused checkpoint after an event: an accepted one
supersedes it. -/
def afterCheckpoint (refused : Option Dict) : Event Reply → Option Dict
  | ⟨.control (.checkpoint _ _ saved), reply⟩ =>
      match (reply : Except RunStoreError Unit) with
      | .ok _ => none
      | .error _ => some saved
  | _ => refused

/-- The dictionary of the last checkpoint that was asked for, when it was refused. -/
def refusedSave (events : List (Event Reply)) : Option Dict := events.foldl afterCheckpoint none

theorem refusedSave_snoc (events : List (Event Reply)) (event : Event Reply) :
    refusedSave (events ++ [event]) = afterCheckpoint (refusedSave events) event := by
  simp [refusedSave]

theorem Accounts.refused_after {job : AgentRunJob} {account after : Account} {event : Event Reply}
    (accounts : Accounts job account event after) :
    after.refused = afterCheckpoint account.refused event := by
  cases accounts with
  | other _ unsaved _ =>
      unfold afterCheckpoint
      split
      · exact absurd rfl (unsaved _ _ _)
      · rfl
  | _ => rfl

/-! ## The account and the store -/

/-- The record is one this job claimed, and while its lease is the run's the
store has what the account says it accepted. -/
structure Account.Backed (account : Account) (job : AgentRunJob) (token : String) (db : RunDb)
    (record : RunRow) : Prop where
  id : record.id = job.agentRunId.text
  tenant : record.tenant = job.tenantId
  safe : unsafePending record.checkpoint = false
  durable : ∃ view, Attends db job token view ∧
    (view.row.leaseToken = some token → view.row.checkpoint = account.saved)

section Backed

variable {job : AgentRunJob} {token : String} {account : Account} {record : RunRow}
  {db next : RunDb}

theorem Account.Backed.spared (backed : account.Backed job token db record)
    (spares : ∀ view, Attends db job token view →
      ∃ after, next.view job.agentRunId.text = some after ∧ Spares token view after) :
    account.Backed job token next record := by
  obtain ⟨view, attends, holds⟩ := backed.durable
  obtain ⟨after, here, spared⟩ := spares view attends
  refine { backed with durable := ⟨after, attends.spared here spared, fun held => ?_⟩ }
  obtain ⟨before, checkpoint⟩ := spared.holds held
  rw [checkpoint, holds before]

theorem Account.Backed.calm (backed : account.Backed job token db record)
    (calm : ∀ runId, Evolves Steady (db.view runId) (next.view runId)) :
    account.Backed job token next record := by
  refine backed.spared fun view attends => ?_
  have evolves := calm job.agentRunId.text
  rw [attends.found] at evolves
  generalize next.view job.agentRunId.text = arrived at evolves
  cases evolves with
  | changed calm => exact ⟨_, rfl, calm.spares token⟩

theorem spares_of_foreign {store : SQLiteRunStore} {clock : Clock} {operation : Operation}
    {view after : RunView} (change : Change store clock operation view after)
    (issued : Issued view token)
    (foreign : ∀ saved, operation ≠ .checkpoint view.row.id view.row.tenant token saved) :
    Spares token view after := by
  refine ⟨(change_job change).1, (change_job change).2, fun _ => change_issued change,
    fun held => ?_⟩
  rcases change_leaseToken change held with before | ⟨_, _, fresh⟩
  · refine ⟨before, ?_⟩
    rcases change_checkpoint change with same | ⟨other, saved, writes, was, _⟩
    · exact same
    · cases was.symm.trans before
      exact absurd writes (foreign saved)
  · obtain ⟨attempt, member, same⟩ := List.mem_map.mp issued
    exact absurd same (fresh attempt member)

theorem Account.Backed.call {state later : StoreState} {call : Call}
    (backed : account.Backed job token state.db record) (valid : state.db.WellFormed)
    (step : RunStore.Step state call later)
    (foreign : Foreign (Runner.jobLease job token) (.client call)) :
    account.Backed job token later.db record := by
  refine backed.spared fun view attends => ?_
  have viewStep := step.view valid job.agentRunId.text
  rw [attends.found] at viewStep
  generalize later.db.view job.agentRunId.text = arrived at viewStep
  cases viewStep with
  | same => exact ⟨view, rfl, (Steady.refl view).spares token⟩
  | created absent => cases absent
  | changed present change =>
      cases present
      refine ⟨_, rfl, spares_of_foreign change attends.issued fun saved same => ?_⟩
      refine foreign call rfl saved ?_
      rw [same, RunDb.id_of_view attends.found, attends.tenant]
      rfl

end Backed

/-! ## Sessions of a delivery -/

structure Accounted (job : AgentRunJob) (token : String) (past : List Session.Label)
    (account : Account) (session : Session (Except Exc AgentAnswer × Option Dict)) : Prop where
  valid : session.store.db.WellFormed
  follows : Follows (Accounts job) (fun out account => account.Settles out.1) session.program
    account
  refused : account.refused = refusedSave (Session.events past)
  backed : ∀ record, account.claimed = some record → record.leaseToken = some token →
    account.Backed job token session.store.db record

def deliverySession (settings : Settings) (payload : Json) (state : StoreState) :
    Session (Except Exc AgentAnswer × Option Dict) :=
  { store := state, program := delivery settings payload }

section Sessions

variable {job : AgentRunJob} {token : String} {account : Account} {settings : SQLiteRunStore}
  {session next : Session (Except Exc AgentAnswer × Option Dict)} {past : List Session.Label}

theorem Accounted.client {call : Call} (accounted : Accounted job token past account session)
    (step : Session.Step settings session (.client call) next)
    (foreign : Foreign (Runner.jobLease job token) (.client call)) :
    Accounted job token (past ++ [.client call]) account next := by
  have same := step.program
  refine ⟨step.wellFormed accounted.valid, same ▸ accounted.follows, ?_, ?_⟩
  · rw [Session.events_client]
    exact accounted.refused
  · intro record claimed held
    cases step with
    | client step => exact (accounted.backed record claimed held).call accounted.valid step foreign

theorem Accounted.event {event : Event Reply} (accounted : Accounted job token past account session)
    (step : Session.Step settings session (.event event) next) :
    ∃ after, Accounts job account event after ∧
      Accounted job token (past ++ [.event event]) after next := by
  obtain ⟨after, accounts, follows⟩ := step.follows accounted.follows
  have valid := accounted.valid
  have answers := step.answers
  have events : after.refused = refusedSave (Session.events (past ++ [.event event])) := by
    rw [Session.events_event, refusedSave_snoc, ← accounted.refused]
    exact accounts.refused_after
  refine ⟨after, accounts, step.wellFormed valid, follows, events, ?_⟩
  clear events follows
  intro record claimed held
  cases accounts with
  | claimed unfinished =>
      cases claimed
      obtain ⟨view, drawn, now, rfl, claimedBy⟩ := answers.claimed valid unfinished
      cases held
      obtain ⟨-, attends⟩ := claimedBy.after
      exact ⟨RunDb.id_of_view claimedBy.found, claimedBy.tenant, claimedBy.claimable.safe, _,
        attends, fun _ => rfl⟩
  | saved here =>
      cases here.claimed.symm.trans claimed
      cases here.held.symm.trans held
      have backed := accounted.backed record claimed held
      obtain ⟨view, attends, _⟩ := backed.durable
      rcases answers.checkpoint valid with ⟨_, refused, _⟩ | ⟨_, other, _, _, holds, _, rewrites⟩
      · cases refused
      · have found := holds.view
        rw [backed.id] at found
        cases attends.found.symm.trans found
        have arrives := rewrites.here
        rw [RunDb.id_of_view attends.found] at arrives
        exact { backed with
          durable := ⟨_, ⟨arrives, attends.tenant, attends.job, attends.issued⟩, fun _ => rfl⟩ }
  | refused here =>
      rcases answers.checkpoint valid with ⟨_, _, same⟩ | ⟨accepted, _⟩
      · have backed := accounted.backed record claimed held
        rw [← same] at backed
        exact { backed with }
      · cases accepted
  | reported here =>
      have backed := (accounted.backed record claimed held).calm fun runId =>
        idle_calm answers valid (fun _ _ _ _ same => by cases same) (fun _ _ same => by cases same)
          runId
      exact { backed with }
  | other unclaimed unsaved =>
      refine (accounted.backed record claimed held).calm fun runId =>
        idle_calm answers valid ?_ unclaimed runId
      rintro lease site saved reply rfl
      exact absurd rfl (unsaved lease site saved)

theorem Accounted.run {labels : List Session.Label}
    (run : Run (Session.Step settings) session labels next)
    (foreign : ∀ label ∈ labels, Foreign (Runner.jobLease job token) label)
    (accounted : Accounted job token past account session) :
    ∃ after, Accounted job token (past ++ labels) after next := by
  induction run generalizing account past with
  | nil =>
      rw [List.append_nil]
      exact ⟨account, accounted⟩
  | @cons first middle last label labels step rest induction =>
      have later := fun other member => foreign other (List.mem_cons_of_mem label member)
      rw [← List.singleton_append, ← List.append_assoc]
      cases label with
      | client call =>
          exact induction later (accounted.client step (foreign _ List.mem_cons_self))
      | event event =>
          obtain ⟨after, _, kept⟩ := accounted.event step
          exact induction later kept

theorem Accounts.report {lease : Lease} {verdict : RunState} {name : String} {after : Account}
    (accounts : Accounts job account ⟨.finish lease verdict none (some name),
      (Except.ok () : Except RunStoreError Unit)⟩ after) :
    ∃ token record, lease = Runner.jobLease job token ∧ account.Open record token ∧
      after = { account with reported := some verdict } := by
  cases accounts with
  | reported here => exact ⟨_, _, rfl, here, rfl⟩
  | other _ _ unreported => exact absurd rfl (unreported _ _ _)

theorem Accounts.closed {event : Event Reply} {after : Account} {verdict : RunState}
    (accounts : Accounts job account event after) (reported : account.reported = some verdict) :
    after = account := by
  have silent {record : RunRow} {other : String} (here : account.Open record other) : False := by
    rw [here.silent] at reported
    cases reported
  cases accounts with
  | claimed => cases reported
  | saved here => exact (silent here).elim
  | refused here => exact (silent here).elim
  | reported here => exact (silent here).elim
  | other => rfl

theorem follows_closed {labels : List Session.Label} {verdict : RunState}
    (run : Run (Session.Step settings) session labels next)
    (follows : Follows (Accounts job) (fun out account => account.Settles out.1) session.program
      account) (reported : account.reported = some verdict) :
    Follows (Accounts job) (fun out account => account.Settles out.1) next.program account := by
  induction run with
  | nil => exact follows
  | @cons first middle last label labels step rest induction =>
      cases label with
      | client call =>
          refine induction ?_
          rw [step.program]
          exact follows
      | event event =>
          obtain ⟨after, accounts, later⟩ := step.follows follows
          rw [accounts.closed reported] at later
          exact induction later

theorem program_done {Out : Type} {session next : Session Out} {labels : List Session.Label}
    {out : Out} (run : Run (Session.Step settings) session labels next)
    (done : session.program = .done out) : next.program = .done out := by
  induction run with
  | nil => exact done
  | cons step _ induction =>
      apply induction
      cases step with
      | client => exact done
      | event asks => cases done.symm.trans asks

end Sessions

/-! ## The recorded state -/

/-- Neither a cancellation nor a deadline, the decision limit or a budget. -/
def Exc.ordinary : Exc → Bool
  | .store (.runCancelled _) | .agentDeadlineExceeded _ | .decisionLimitExceeded _
  | .resourceBudgetExceeded _ => false
  | _ => true

/-- The state a failed run belongs in by its checkpoint. -/
def failedAs (checkpoint : Dict) : RunState :=
  if unsafePending checkpoint then .needsReview else .failed

theorem failureState_ordinary {error : Exc} (ordinary : error.ordinary = true) (dict : Dict) :
    Runner.failureState (some dict) error = failedAs dict := by
  unfold Runner.failureState
  split
  · cases ordinary
  · cases ordinary
  · cases ordinary
  · cases ordinary
  · rfl

theorem failedAs_inj {first second : Dict} :
    failedAs first = failedAs second ↔ unsafePending first = unsafePending second := by
  unfold failedAs
  cases unsafePending first <;> cases unsafePending second <;> simp

theorem cancelled_ne_failedAs (checkpoint : Dict) : RunState.cancelled ≠ failedAs checkpoint := by
  unfold failedAs
  split <;> simp

/-- The state `finish` writes is that of the checkpoint exactly when no
cancellation was requested and the dictionary in memory has the same marker. -/
theorem verdict_failedAs (row : RunRow) (memory : Dict) (name : String) :
    (SQLiteRunStore.verdict row (failedAs memory) none (some name)).1 = failedAs row.checkpoint ↔
      row.cancelRequested = false ∧ unsafePending memory = unsafePending row.checkpoint := by
  unfold SQLiteRunStore.verdict
  cases row.cancelRequested with
  | true => simp [cancelled_ne_failedAs]
  | false => simp [failedAs_inj]

theorem marker_memory {account : Account} {checkpoint : Dict} (same : checkpoint = account.saved) :
    unsafePending account.memory = unsafePending checkpoint ↔
      ∀ saved, account.refused = some saved →
        unsafePending saved = unsafePending checkpoint := by
  unfold Account.memory
  cases refused : account.refused with
  | none => simp [same]
  | some saved => simp

/-- Whatever the model, the tools, other clients and refusing transactions do:
when a delivery ends by an ordinary error and its report is accepted, the run is
recorded as its durable checkpoint says, provided no cancellation was requested,
if and only if the last checkpoint was not refused, or would have left the marker
as it is. -/
theorem failure_recorded_iff (settings : Settings) (payload : Json) {state : StoreState}
    (reachable : Reachable RunStore.Step Initial state) {labels : List Session.Label}
    {session reported : Session (Except Exc AgentAnswer × Option Dict)}
    (run : Run (Session.Step settings.store) (deliverySession settings payload state) labels
      session) {lease : Lease} (foreign : ∀ label ∈ labels, Foreign lease label)
    {verdict : RunState} {name : String}
    (step : Session.Step settings.store session
      (.event ⟨.finish lease verdict none (some name),
        (Except.ok () : Except RunStoreError Unit)⟩) reported)
    {rest : List Session.Label} {last : Session (Except Exc AgentAnswer × Option Dict)}
    (ends : Run (Session.Step settings.store) reported rest last) {error : Exc}
    {dict : Option Dict} (raised : last.program = .done (.error error, dict))
    (ordinary : error.ordinary = true) :
    ∃ view after, session.store.db.view lease.runId = some view ∧
      reported.store.db.view lease.runId = some after ∧
      after.row.checkpoint = view.row.checkpoint ∧
      (after.row.state = failedAs after.row.checkpoint ↔
        view.row.cancelRequested = false ∧
        ∀ saved, refusedSave (Session.events labels) = some saved →
          unsafePending saved = unsafePending view.row.checkpoint) := by
  cases checked : AgentRunJob.validate payload with
  | none =>
      have ended : session.program = .done (.error .validationError, none) :=
        program_done run (delivery_refused checked)
      cases step with
      | event asks _ => cases ended.symm.trans asks
  | some job =>
      have settles := delivery_settles settings checked
      obtain ⟨_, left⟩ := Session.follows_run run settles
      obtain ⟨_, reports, _⟩ := step.follows left
      obtain ⟨token, _, rfl, _⟩ := reports.report
      have start : Accounted job token [] .blank (deliverySession settings payload state) :=
        ⟨Reachable.wellFormed reachable, settles, rfl, fun _ claimed => by cases claimed⟩
      obtain ⟨account, accounted⟩ := start.run run foreign
      rw [List.nil_append] at accounted
      obtain ⟨_, accounts, follows⟩ := step.follows accounted.follows
      obtain ⟨other, record, sameLease, here, rfl⟩ := accounts.report
      obtain rfl : token = other := congrArg Lease.token sameLease
      have backed := accounted.backed record here.claimed here.held
      obtain ⟨view, attends, durable⟩ := backed.durable
      rcases step.answers.finish accounted.valid with
        ⟨_, refused, _⟩ | ⟨_, held, _, _, holds, rewrites⟩
      · cases refused
      · have found := holds.view
        cases attends.found.symm.trans found
        have checkpoint := durable holds.owned.held
        have arrives := rewrites.here
        rw [RunDb.id_of_view attends.found] at arrives
        -- What was reported is what the memory of the attempt demands.
        have settled := follows_closed ends follows rfl
        rw [raised] at settled
        obtain ⟨_, _, claimed, failed, demanded⟩ := settled verdict rfl
        cases failed
        cases here.claimed.symm.trans claimed
        have memory : verdict = failedAs account.memory :=
          (demanded backed.safe).trans (failureState_ordinary ordinary _)
        refine ⟨view, _, attends.found, arrives, rfl, ?_⟩
        rw [← accounted.refused, ← marker_memory checkpoint, ← verdict_failedAs _ _ name, ← memory]
        exact Iff.rfl

/-! A worker whose one tool must not be replayed, and a store that refuses some
of its checkpoints. -/

namespace Sample

def charger : Settings := { worker with tools := [charge] }

def queuedTask : StoreState :=
  { db := (Call.instant RunStore.Sample.store 0 (.create task.dump 300 none)).apply RunDb.empty,
    now := 0 }

theorem queuedTask_reachable : Reachable RunStore.Step Initial queuedTask :=
  ⟨{ db := RunDb.empty, now := 0 }, _, rfl, .single (.instant _ _ (le_refl _) _)⟩

def chargingTo (outcome : Except Exc ToolResult) : (request : Request) → Reply request
  | .handle _ _ _ => outcome
  | request => replying chargeCall.dump request

def answerRefusing (refuses : Dict → Bool) (outcome : Except Exc ToolResult)
    (state : StoreState) (request : Request) : Option (Reply request × StoreState) :=
  match request with
  | .control (.checkpoint lease site saved) =>
      if refuses saved then
        some ((Except.error .operationalError : Except RunStoreError Unit), state)
      else
        Request.answer RunStore.Sample.store 0 "first" (chargingTo outcome) state
          (.control (.checkpoint lease site saved))
  | request => request.answer RunStore.Sample.store 0 "first" (chargingTo outcome) state

def playRefusing (refuses : Dict → Bool) (outcome : Except Exc ToolResult) {Out : Type} :
    Nat → Session Out → List Session.Label × Session Out
  | 0, session => ([], session)
  | count + 1, session =>
      match session.program with
      | .done _ => ([], session)
      | .ask request resume =>
          match answerRefusing refuses outcome session.store request with
          | some (reply, store) =>
              let rest := playRefusing refuses outcome count { store, program := resume reply }
              (.event ⟨request, reply⟩ :: rest.1, rest.2)
          | none => ([], session)

theorem answers_of_refusing {refuses : Dict → Bool} {outcome : Except Exc ToolResult}
    {state next : StoreState} {request : Request} {reply : Reply request}
    (start : state.now = 0)
    (same : answerRefusing refuses outcome state request = some (reply, next)) :
    Answers RunStore.Sample.store state ⟨request, reply⟩ next ∧ next.now = 0 := by
  have answered {request : Request} {reply : Reply request}
      (same : request.answer RunStore.Sample.store 0 "first" (chargingTo outcome) state =
        some (reply, next)) :
      Answers RunStore.Sample.store state ⟨request, reply⟩ next ∧ next.now = 0 := by
    refine ⟨Request.answers_of_answer (le_of_eq start) same, ?_⟩
    unfold Request.answer at same
    split at same
    · obtain ⟨_, _, pair⟩ := Option.map_eq_some_iff.mp same
      cases pair
      rfl
    · cases same
      rfl
  unfold answerRefusing at same
  split at same
  · split at same
    · cases same
      exact ⟨.refused rfl ⟨rfl, le_refl _⟩, start⟩
    · exact answered same
  · exact answered same

theorem playRefusing_run {refuses : Dict → Bool} {outcome : Except Exc ToolResult} {Out : Type}
    (count : Nat) {session : Session Out} (start : session.store.now = 0) :
    Run (Session.Step RunStore.Sample.store) session
        (playRefusing refuses outcome count session).1
        (playRefusing refuses outcome count session).2 ∧
      (playRefusing refuses outcome count session).2.store.now = 0 ∧
      (playRefusing refuses outcome count session).1.length ≤ count := by
  induction count generalizing session with
  | zero => exact ⟨.nil _, start, le_refl _⟩
  | succ count induction =>
      unfold playRefusing
      split
      · exact ⟨.nil _, start, Nat.zero_le _⟩
      · rename_i request resume asks
        split
        · rename_i reply store same
          obtain ⟨answers, later⟩ := answers_of_refusing start same
          obtain ⟨run, clock, short⟩ := @induction { store, program := resume reply } later
          exact ⟨.cons (.event asks answers) run, clock, Nat.succ_le_succ short⟩
        · exact ⟨.nil _, start, Nat.zero_le _⟩

section Delivered

variable (refuses : Dict → Bool) (outcome : Except Exc ToolResult) (count : Nat)

def delivered : List Session.Label × Session (Except Exc AgentAnswer × Option Dict) :=
  playRefusing refuses outcome count (deliverySession charger (.obj task.dump) queuedTask)

def deliveredNext : List Session.Label × Session (Except Exc AgentAnswer × Option Dict) :=
  playRefusing refuses outcome 1 (delivered refuses outcome count).2

def deliveredRest : List Session.Label × Session (Except Exc AgentAnswer × Option Dict) :=
  playRefusing refuses outcome 20 (deliveredNext refuses outcome count).2

end Delivered

def completes (saved : Dict) : Bool := saved.getD "tools_completed" .null == .int 1

def reportOf : Session.Label → Option (Lease × RunState × String)
  | .event ⟨.finish lease verdict none (some name), reply⟩ =>
      match (reply : Except RunStoreError Unit) with
      | .ok _ => some (lease, verdict, name)
      | .error _ => none
  | _ => none

theorem report_of {label : Session.Label} {lease : Lease} {verdict : RunState} {name : String}
    (reports : reportOf label = some (lease, verdict, name)) :
    label = .event ⟨.finish lease verdict none (some name),
      (Except.ok () : Except RunStoreError Unit)⟩ := by
  unfold reportOf at reports
  split at reports
  · split at reports
    · cases reports
      rfl
    · cases reports
  · cases reports

def failureOf (session : Session (Except Exc AgentAnswer × Option Dict)) : Option Exc :=
  match session.program with
  | .done (.error error, _) => some error
  | _ => none

theorem failure_of {session : Session (Except Exc AgentAnswer × Option Dict)} {error : Exc}
    (fails : failureOf session = some error) :
    ∃ dict, session.program = .done (.error error, dict) := by
  unfold failureOf at fails
  split at fails
  · rename_i ends
    cases fails
    exact ⟨_, ends⟩
  · cases fails

theorem delivered_split {refuses : Dict → Bool} {outcome : Except Exc ToolResult} {count : Nat}
    {lease : Lease} {verdict : RunState} {name : String} {error : Exc}
    (reports : (deliveredNext refuses outcome count).1.head?.bind reportOf =
      some (lease, verdict, name))
    (fails : failureOf (deliveredRest refuses outcome count).2 = some error) :
    Run (Session.Step charger.store) (deliverySession charger (.obj task.dump) queuedTask)
        (delivered refuses outcome count).1 (delivered refuses outcome count).2 ∧
      Session.Step charger.store (delivered refuses outcome count).2
        (.event ⟨.finish lease verdict none (some name),
          (Except.ok () : Except RunStoreError Unit)⟩) (deliveredNext refuses outcome count).2 ∧
      Run (Session.Step charger.store) (deliveredNext refuses outcome count).2
        (deliveredRest refuses outcome count).1 (deliveredRest refuses outcome count).2 ∧
      ∃ dict, (deliveredRest refuses outcome count).2.program = .done (.error error, dict) := by
  have first := @playRefusing_run refuses outcome _ count
    (deliverySession charger (.obj task.dump) queuedTask) rfl
  have second := @playRefusing_run refuses outcome _ 1 (delivered refuses outcome count).2 first.2.1
  have third := @playRefusing_run refuses outcome _ 20 (deliveredNext refuses outcome count).2
    second.2.1
  refine ⟨first.1, ?_, third.1, failure_of fails⟩
  have run : Run (Session.Step charger.store) (delivered refuses outcome count).2
    (deliveredNext refuses outcome count).1 (deliveredNext refuses outcome count).2 := second.1
  have short : (deliveredNext refuses outcome count).1.length ≤ 1 := second.2.2
  clear first second third fails
  generalize deliveredNext refuses outcome count = next at run reports short
  obtain ⟨labels, last⟩ := next
  dsimp only at run reports short ⊢
  cases run with
  | nil => cases reports
  | @cons _ middle _ label labels step rest =>
      cases labels with
      | nil =>
          cases rest
          exact report_of reports ▸ step
      | cons => simp at short

end Sample

/-- A charge whose handler fails is recorded for review, as its marker demands. -/
theorem failure_recorded_iff_charge :
    ∃ view after : RunView,
      (Sample.delivered (fun _ => false) (.error (.other "ChargeError")) 40).2.store.db.view
        Sample.task.agentRunId.text = some view ∧
      (Sample.deliveredNext (fun _ => false) (.error (.other "ChargeError")) 40).2.store.db.view
        Sample.task.agentRunId.text = some after ∧
      after.row.checkpoint = view.row.checkpoint ∧
      (after.row.state = failedAs after.row.checkpoint ↔ view.row.cancelRequested = false ∧
        ∀ saved, refusedSave (Session.events
            (Sample.delivered (fun _ => false) (.error (.other "ChargeError")) 40).1) = some saved →
          unsafePending saved = unsafePending view.row.checkpoint) := by
  have facts :
      (Sample.deliveredNext (fun _ => false) (.error (.other "ChargeError")) 40).1.head?.bind
          Sample.reportOf =
        some (Runner.jobLease Sample.task "first", .needsReview, "ChargeError") ∧
      Sample.failureOf
          (Sample.deliveredRest (fun _ => false) (.error (.other "ChargeError")) 40).2 =
        some (.other "ChargeError") ∧
      (Sample.delivered (fun _ => false) (.error (.other "ChargeError")) 40).1.all
        Sample.isEvent = true := by decide +kernel
  obtain ⟨reports, fails, events⟩ := facts
  obtain ⟨run, step, ends, dict, raised⟩ := Sample.delivered_split reports fails
  exact failure_recorded_iff Sample.charger (.obj Sample.task.dump) Sample.queuedTask_reachable run
    (fun label member => Sample.foreign_of_event (List.all_eq_true.mp events label member)) step
    ends raised rfl

/-- The store refuses a transaction of the attempt. -/
def Event.refusal : Event Reply → Bool
  | ⟨.control (.checkpoint _ _ _), reply⟩ => !(reply : Except RunStoreError Unit).isOk
  | ⟨.control (.guard _), reply⟩ => !(reply : Except RunStoreError Time).isOk
  | _ => false

/-- The checkpoint that clears the marker after the tool has returned is refused:
the run is recorded as failed, and its checkpoint cannot be replayed. -/
theorem failure_misrecorded :
    ¬∀ labels session lease verdict name reported rest last error dict view after,
      Run (Session.Step Sample.charger.store)
        (deliverySession Sample.charger (.obj Sample.task.dump) Sample.queuedTask) labels session →
      (∀ label ∈ labels, Foreign lease label) →
      (Session.events labels).countP Event.refusal ≤ 1 →
      Session.Step Sample.charger.store session
        (.event ⟨.finish lease verdict none (some name),
          (Except.ok () : Except RunStoreError Unit)⟩) reported →
      Run (Session.Step Sample.charger.store) reported rest last →
      last.program = .done (.error error, dict) → error.ordinary = true →
      session.store.db.view lease.runId = some view → view.row.cancelRequested = false →
      reported.store.db.view lease.runId = some after →
      after.row.state = failedAs after.row.checkpoint := by
  intro recorded
  have facts :
      (Sample.deliveredNext Sample.completes (.ok (.other .null)) 45).1.head?.bind
          Sample.reportOf =
        some (Runner.jobLease Sample.task "first", .failed, "OperationalError") ∧
      Sample.failureOf (Sample.deliveredRest Sample.completes (.ok (.other .null)) 45).2 =
        some (.store .operationalError) ∧
      (Sample.delivered Sample.completes (.ok (.other .null)) 45).1.all Sample.isEvent = true ∧
      (Session.events (Sample.delivered Sample.completes (.ok (.other .null)) 45).1).countP
        Event.refusal ≤ 1 ∧
      ((Sample.delivered Sample.completes (.ok (.other .null)) 45).2.store.db.view
        Sample.task.agentRunId.text).any (fun view => !view.row.cancelRequested) = true ∧
      ((Sample.deliveredNext Sample.completes (.ok (.other .null)) 45).2.store.db.view
        Sample.task.agentRunId.text).any
          (fun after => after.row.state ≠ failedAs after.row.checkpoint) = true := by
    decide +kernel
  obtain ⟨reports, fails, events, once, here, there⟩ := facts
  obtain ⟨view, found, wanted⟩ := (Option.any_eq_true _ _).mp here
  obtain ⟨after, arrives, differs⟩ := (Option.any_eq_true _ _).mp there
  obtain ⟨run, step, ends, dict, raised⟩ := Sample.delivered_split reports fails
  have same := recorded _ _ _ _ _ _ _ _ _ dict view after run
    (fun label member => Sample.foreign_of_event (List.all_eq_true.mp events label member)) once
    step ends raised rfl found (by simpa using wanted) arrives
  simp [same] at differs

end Crewos.Agent

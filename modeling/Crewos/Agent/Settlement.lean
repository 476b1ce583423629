import Crewos.Agent.Admission
import Crewos.Agent.Keeping

/-! # Reported usage is settled

When a model reports two token counts for a decision, the checkpoint that reconciles
them is the next thing its delivery asks for; for a review, a guard comes before it.
That holds whatever is delivered and however it fails. -/

namespace Crewos.Agent

open Foundation RunStore

/-! ## Bills -/

/-- The store refuses the delivery, or its deadline has passed. -/
def refuses : Event Reply → Bool
  | ⟨.control .heartbeatError, reply⟩ => (reply : Option RunStoreError).isSome
  | ⟨.control (.guard _), reply⟩ =>
      match (reply : Except RunStoreError Time) with
      | .ok remaining => remaining ≤ 0
      | .error _ => true
  | ⟨.control (.checkpoint _ _ _), reply⟩ =>
      match (reply : Except RunStoreError Unit) with
      | .ok _ => false
      | .error _ => true
  | _ => false

/-- A delivery's latest call of a model for a run: whether it is the reviewer's, and
whether the delivery has been refused since it reserved for the call. -/
structure LatestCall where
  reviewing : Bool
  refused : Bool

def LatestCall.next (runId : String) (call : LatestCall) : Event Reply → LatestCall
  | ⟨.decide _ _ _ _, _⟩ => { call with reviewing := false }
  | ⟨.review _ _ _ _, _⟩ => { call with reviewing := true }
  | taken =>
      match posting runId taken with
      | some (.reserve _ _ _) => { call with refused := false }
      | _ => { call with refused := call.refused || refuses taken }

section Next

variable {runId : String} {call : LatestCall} {request : ControlRequest}
  {reply : Reply (.control request)}

theorem LatestCall.next_unreserved
    (unreserved : ∀ lease input output,
      posting runId ⟨.control request, reply⟩ ≠ some (.reserve lease input output)) :
    (call.next runId ⟨.control request, reply⟩).refused =
      (call.refused || refuses ⟨.control request, reply⟩) := by
  unfold LatestCall.next
  dsimp only
  split
  · exact absurd ‹_› (unreserved _ _ _)
  · rfl

theorem LatestCall.next_unposted (nothing : posting runId ⟨.control request, reply⟩ = none) :
    (call.next runId ⟨.control request, reply⟩).refused =
      (call.refused || refuses ⟨.control request, reply⟩) :=
  next_unreserved fun _ _ _ reserves => by cases nothing.symm.trans reserves

end Next

/-- What may be asked for between a reported usage and its reconciliation. -/
def Request.settles (reviewing : Bool) (usage : Int × Int) : Request → Bool
  | .control .heartbeatError | .control (.guard _) => reviewing
  | .control (.checkpoint _ (.reconcile inputTokens outputTokens _ _) _) =>
      (inputTokens, outputTokens) = usage
  | _ => false

/-- What a delivery has to reconcile. -/
inductive Outstanding where
  | nothing
  /-- It has reserved for a call. -/
  | ready
  /-- The model has reported these counts. -/
  | owing (usage : Int × Int)

structure Bill where
  call : LatestCall
  outstanding : Outstanding

def Bill.blank : Bill where
  call := { reviewing := false, refused := false }
  outstanding := .nothing

instance (dict : Dict) : Decidable (Readable dict) :=
  decidable_of_iff ((counter dict "reported_input_tokens").isOk = true ∧
    (counter dict "reported_output_tokens").isOk = true) (by
      unfold Readable
      cases counter dict "reported_input_tokens" <;>
        cases counter dict "reported_output_tokens" <;> simp [Except.isOk, Except.toBool])

namespace Outstanding

def saved (outstanding : Outstanding) (dict : Dict) : Site → Outstanding
  | .reserve _ _ => if Readable dict then .ready else .nothing
  | .reconcile _ _ _ _ =>
      match outstanding with
      | .owing _ => .nothing
      | other => other
  | _ => outstanding

def called : Outstanding → Option (Int × Int) → Outstanding
  | .ready, some usage => .owing usage
  | _, _ => .nothing

def moved (runId : String) (outstanding : Outstanding) : Event Reply → Outstanding
  | ⟨.control (.checkpoint lease site dict), reply⟩ =>
      match (reply : Except RunStoreError Unit) with
      | .ok _ => if lease.runId = runId then outstanding.saved dict site else outstanding
      | .error _ => outstanding
  | ⟨.control (.invoke _), reply⟩ => outstanding.called (usageOf reply)
  | _ => outstanding

/-- A delivery that is refused while it owes does not pay. -/
def after (runId : String) (outstanding : Outstanding) (taken : Event Reply) : Outstanding :=
  match outstanding with
  | .owing usage => if refuses taken then .nothing else moved runId (.owing usage) taken
  | other => other.moved runId taken

end Outstanding

namespace Bill

def permits (bill : Bill) (request : Request) : Prop :=
  ∀ usage, bill.outstanding = .owing usage → request.settles bill.call.reviewing usage = true

def after (runId : String) (bill : Bill) (taken : Event Reply) : Bill where
  call := bill.call.next runId taken
  outstanding := bill.outstanding.after runId taken

theorem after_reviewing (bill : Bill) (request : ControlRequest)
    (reply : Reply (.control request)) :
    (bill.after runId ⟨.control request, reply⟩).call.reviewing = bill.call.reviewing := by
  show (bill.call.next runId ⟨.control request, reply⟩).reviewing = _
  unfold LatestCall.next
  dsimp only
  split <;> rfl

theorem permits_of_paid {bill : Bill} {request : Request}
    (paid : ∀ usage, bill.outstanding ≠ .owing usage) :
    bill.permits request := fun usage owing => absurd owing (paid usage)

end Bill

/-- The protocol of a delivery that settles what its models report for the run. -/
def Billing (runId : String) : Protocol Reply Bill :=
  fun bill taken next => bill.permits taken.request ∧ next = bill.after runId taken

section Idle

variable {runId : String} {lease : Lease} {control : Control} {dict : Dict} {bill : Bill}

/-- Nothing is left to reconcile. -/
abbrev Idle {State : Type} (_ : State) (bill : Bill) : Prop := bill.outstanding = .nothing

theorem Idle.permits {State : Type} {state : State} (idle : Idle state bill) (request : Request) :
    bill.permits request :=
  Bill.permits_of_paid fun usage owing => by cases idle.symm.trans owing

theorem Idle.after {State : Type} {state : State} (idle : Idle state bill) {taken : Event Reply}
    (moved : Outstanding.nothing.moved runId taken = .nothing) :
    Idle state (bill.after runId taken) := by
  show bill.outstanding.after runId taken = .nothing
  rw [idle]
  exact moved

theorem Outstanding.moved_still {taken : Event Reply} (still : taken.request.still = true) :
    Outstanding.nothing.moved runId taken = .nothing := by
  rcases taken with ⟨request, reply⟩
  cases request with
  | control request =>
      cases request with
      | checkpoint | invoke => cases still
      | _ => rfl
  | _ => rfl

theorem Outstanding.moved_checkpoint {site : Site} {saved : Dict}
    {reply : Except RunStoreError Unit}
    (unmetered : site.simple = true ∨ site = .recovery) :
    Outstanding.nothing.moved runId ⟨.control (.checkpoint lease site saved), reply⟩ = .nothing := by
  cases reply with
  | error => rfl
  | ok =>
      show (if lease.runId = runId then Outstanding.nothing.saved saved site else .nothing) =
        .nothing
      split
      · cases site with
        | reserve | reconcile => rcases unmetered with metered | metered <;> cases metered
        | _ => rfl
      · rfl

theorem idle_carries (runId : String) (lease : Lease) :
    Carries (Billing runId) lease Idle where
  guards _ idle := ⟨_, ⟨idle.permits _, rfl⟩, idle.after rfl⟩
  still _ still idle := ⟨_, ⟨idle.permits _, rfl⟩, idle.after (Outstanding.moved_still still)⟩
  saves _ simple _ _ idle :=
    ⟨_, ⟨idle.permits _, rfl⟩, idle.after (Outstanding.moved_checkpoint (.inl simple))⟩
  recovers _ _ idle :=
    ⟨_, ⟨idle.permits _, rfl⟩, idle.after (Outstanding.moved_checkpoint (.inr rfl))⟩

theorem idle_ask {request : Request} (other : ∀ asked, request ≠ .control asked) {State : Type} :
    Exec.Keeps (Billing runId) Idle
      (Exec.ask request : Exec Reply Exc State (Reply request)) := by
  refine .ask fun _ bill reply idle => ⟨_, ⟨idle.permits _, rfl⟩, idle.after ?_⟩
  cases request with
  | control asked => exact absurd rfl (other asked)
  | _ => rfl

/-! ## The adapters settle -/

abbrev billLeads {α : Type} (runId : String) (computation : ControlExec α)
    (returned : α → Dict → Bill → Prop) (dict : Dict) (bill : Bill) : Prop :=
  Exec.leads (controlOf (Billing runId)) computation returned (fun _ => Idle) dict bill

/-- What is known before a call, when it is metered. -/
structure Readied (runId : String) (control : Control) (dict : Dict) : Prop where
  run : control.lease.runId = runId
  readable : Readable dict
  admitted : control.Admitted dict

theorem Outstanding.after_unrefused {outstanding : Outstanding} {taken : Event Reply}
    (passed : refuses taken = false) :
    outstanding.after runId taken = outstanding.moved runId taken := by
  cases outstanding with
  | owing => exact if_neg (ne_true_of_eq_false passed)
  | _ => rfl

theorem Outstanding.after_refused {outstanding : Outstanding} (unready : outstanding ≠ .ready)
    {taken : Event Reply} (kept : Outstanding.nothing.moved runId taken = .nothing)
    (refused : refuses taken = true) : outstanding.after runId taken = .nothing := by
  cases outstanding with
  | nothing => exact kept
  | ready => exact absurd rfl unready
  | owing => exact if_pos refused

theorem Bill.after_heartbeat (bill : Bill) :
    bill.after runId ⟨.control .heartbeatError, (none : Option RunStoreError)⟩ = bill := by
  obtain ⟨⟨reviewing, refused⟩, outstanding⟩ := bill
  show Bill.mk ⟨reviewing, refused || false⟩ (outstanding.after runId _) = _
  rw [Bool.or_false, Outstanding.after_unrefused rfl]
  rfl

theorem Bill.after_guard (bill : Bill) (lease : Lease) {remaining : Time} (left_ : 0 < remaining) :
    bill.after runId ⟨.control (.guard lease), (Except.ok remaining : Except RunStoreError Time)⟩ =
      bill := by
  have passed : refuses ⟨.control (.guard lease),
      (Except.ok remaining : Except RunStoreError Time)⟩ = false :=
    decide_eq_false (not_le.mpr left_)
  obtain ⟨⟨reviewing, refused⟩, outstanding⟩ := bill
  show Bill.mk ⟨reviewing, refused || refuses _⟩ (outstanding.after runId _) = _
  rw [passed, Bool.or_false, Outstanding.after_unrefused passed]
  rfl

theorem bill_guard (unready : bill.outstanding ≠ .ready)
    (guarded : ∀ lease, bill.permits (.control (.guard lease)))
    (asked : bill.permits (.control .heartbeatError)) :
    billLeads runId control.guard (fun _ after still => after = dict ∧ still = bill)
      dict bill := by
  unfold Control.guard Control.ask
  refine Exec.leads_seq (Exec.leads_ask fun (found : Option RunStoreError) =>
    ⟨_, ⟨asked, rfl⟩, ?_⟩)
  cases found with
  | some error => exact Exec.leads_seq (Outstanding.after_refused unready rfl rfl)
  | none =>
      refine Exec.leads_seq (Exec.leads_pure (Exec.leads_seq (Exec.leads_ask
        fun (reply : Except RunStoreError Time) => ⟨_, ⟨?_, rfl⟩, ?_⟩)))
      · exact bill.after_heartbeat.symm ▸ guarded _
      show Exec.leads _ _ _ _ _ ((bill.after runId ⟨.control .heartbeatError, none⟩).after runId
        ⟨.control (.guard control.lease), reply⟩)
      rw [bill.after_heartbeat]
      cases reply with
      | error error => exact Exec.leads_seq (Outstanding.after_refused unready rfl rfl)
      | ok remaining =>
          refine Exec.leads_seq (Exec.leads_pure (Exec.leads_seq (Exec.leads_raiseIf
            (fun positive => ⟨rfl, bill.after_guard _ (not_le.mp positive)⟩) fun late => ?_)))
          exact Outstanding.after_refused unready rfl (decide_eq_true late)

theorem bill_reserve (control : Control) (input output : Int) (idle : Idle dict bill) :
    billLeads runId (control.reserve input output)
      (fun _ after later => later.call.reviewing = bill.call.reviewing ∧
        (later.outstanding = .nothing ∨
          later.outstanding = .ready ∧ Readied runId control after)) dict bill := by
  unfold Control.reserve
  refine Exec.leads_seq (Exec.leads_raiseIf (fun positive => ?_) fun _ => idle)
  push Not at positive
  have unready : bill.outstanding ≠ .ready := fun ready => by cases idle.symm.trans ready
  refine Exec.leads_bind (bill_guard unready (fun _ => idle.permits _) (idle.permits _)) ?_
  rintro _ state guarded ⟨rfl, rfl⟩
  refine Exec.leads_seq (Exec.leads_get (Exec.leads_seq ?_))
  refine Exec.leads_ofExcept (fun reserved counted => ?_) fun _ _ => idle
  refine Exec.leads_seq (Exec.leads_ofExcept (fun before read => ?_) fun _ _ => idle)
  refine Exec.leads_seq (Exec.leads_raiseIf (fun within => ?_) fun _ => idle)
  refine leads_persist fun reply => ⟨_, ⟨idle.permits _, rfl⟩, ?_, ?_⟩
  · rintro error rfl
    exact idle.after rfl
  · rintro rfl
    have reserves : control.Reserves _ input output _ :=
      ⟨positive.1, positive.2, reserved, before, counted, read, within, rfl⟩
    refine ⟨guarded.after_reviewing _ _, ?_⟩
    show guarded.outstanding.after runId _ = _ ∨ guarded.outstanding.after runId _ = _ ∧ _
    rw [show guarded.outstanding = .nothing from idle]
    by_cases run : control.lease.runId = runId
    · by_cases readable : Readable (state.update [("reserved_tokens",
          .int (reserved + input + output)), ("reserved_cost",
          .str (control.charged before input output).text), ("pricing_configured",
          .bool (control.inputRate.isSome && control.outputRate.isSome))])
      · exact .inr ⟨(if_pos run).trans (if_pos readable), run, readable, reserves.admitted⟩
      · exact .inl ((if_pos run).trans (if_neg readable))
    · exact .inl (if_neg run)

def Owes (runId : String) (control : Control) (response : ModelResponse) (dict : Dict)
    (outstanding : Outstanding) : Prop :=
  outstanding = .nothing ∨ ∃ usage, response.usage = some usage ∧ outstanding = .owing usage ∧
    Readied runId control dict

theorem bill_invoke (call : ModelCall)
    (readied : bill.outstanding = .nothing ∨
      bill.outstanding = .ready ∧ Readied runId control dict) :
    billLeads runId (invoke call)
      (fun response after later => after = dict ∧ later.call.reviewing = bill.call.reviewing ∧
        Owes runId control response dict later.outstanding) dict bill := by
  have permitted : bill.permits (.control (.invoke call)) := by
    refine Bill.permits_of_paid fun usage owing => ?_
    rcases readied with nothing | ⟨ready, _⟩
    · cases nothing.symm.trans owing
    · cases ready.symm.trans owing
  refine Exec.leads_seq (Exec.leads_ask fun (reply : Except Exc ModelResponse) =>
    ⟨_, ⟨permitted, rfl⟩, ?_⟩)
  cases reply with
  | error error =>
      show bill.outstanding.after runId _ = .nothing
      rcases readied with outstanding | ⟨outstanding, _⟩ <;> rw [outstanding] <;> rfl
  | ok response =>
      refine ⟨rfl, bill.after_reviewing _ _, ?_⟩
      show Owes runId control response dict (bill.outstanding.after runId _)
      rcases readied with outstanding | ⟨outstanding, readied⟩
      · rw [outstanding]
        exact .inl rfl
      · rw [outstanding]
        cases reported : response.usage with
        | none => exact .inl (congrArg Outstanding.ready.called reported)
        | some usage =>
            exact .inr ⟨usage, reported, congrArg Outstanding.ready.called reported, readied⟩

theorem Owes.unready {response : ModelResponse} {outstanding : Outstanding}
    (owes : Owes runId control response dict outstanding) : outstanding ≠ .ready := by
  rintro rfl
  rcases owes with nothing | ⟨_, _, owing, _⟩
  · cases nothing
  · cases owing

theorem ModelResponse.counts {response : ModelResponse} {usage : Dict} {counts : Int × Int}
    {promptTokens completionTokens : Json} (tokens : response.tokenUsage = .obj usage)
    (prompt : Dict.get? usage "prompt_tokens" = some promptTokens)
    (completion : Dict.get? usage "completion_tokens" = some completionTokens)
    (reported : response.usage = some counts) :
    tokenCount promptTokens = some counts.1 ∧ tokenCount completionTokens = some counts.2 := by
  simp only [ModelResponse.usage, tokens, prompt, completion] at reported
  split at reported
  · rename_i first second
    cases reported
    exact ⟨first, second⟩
  · cases reported

theorem bill_reconcile {response : ModelResponse} {input output : Int}
    {promptTokens completionTokens : Json}
    (owes : Owes runId control response dict bill.outstanding)
    (known : ∀ counts, response.usage = some counts →
      tokenCount promptTokens = some counts.1 ∧ tokenCount completionTokens = some counts.2) :
    billLeads runId (control.reconcile promptTokens completionTokens input output)
      (fun _ => Idle) dict bill := by
  unfold Control.reconcile
  split
  · rename_i inputTokens outputTokens first second
    -- With all counters there, the reconciliation is written.
    have reads (unread : ¬(Readable dict ∧ control.Admitted dict)) :
        bill.outstanding = .nothing := by
      rcases owes with nothing | ⟨_, _, _, _, readable, admitted⟩
      · exact nothing
      · exact absurd ⟨readable, admitted⟩ unread
    have permitted (lease : Lease) (saved : Dict) : bill.permits (.control
        (.checkpoint lease (.reconcile inputTokens outputTokens input output) saved)) := by
      intro usage owing
      rcases owes with nothing | ⟨other, reported, same, _⟩
      · cases nothing.symm.trans owing
      · cases same.symm.trans owing
        obtain ⟨prompt, completion⟩ := known usage reported
        cases first.symm.trans prompt
        cases second.symm.trans completion
        exact decide_eq_true rfl
    have settled (saved : Dict) (reply : Except RunStoreError Unit) : bill.outstanding.after runId
        ⟨.control (.checkpoint control.lease (.reconcile inputTokens outputTokens input output)
          saved), reply⟩ = .nothing := by
      rcases owes with nothing | ⟨usage, _, owing, readied⟩
      · rw [nothing]
        cases reply with
        | error => rfl
        | ok =>
            by_cases run : control.lease.runId = runId
            · exact if_pos run
            · exact if_neg run
      · rw [owing]
        cases reply with
        | error => rfl
        | ok => exact if_pos readied.run
    refine Exec.leads_seq (Exec.leads_get (Exec.leads_seq (Exec.leads_ofExcept (fun _ _ => ?_)
      fun error failed => reads ?_)))
    · refine Exec.leads_seq (Exec.leads_ofExcept (fun _ _ => ?_) fun error failed => reads ?_)
      · refine Exec.leads_seq (Exec.leads_ofExcept (fun _ _ => ?_) fun error failed => reads ?_)
        · refine Exec.leads_seq (Exec.leads_ofExcept (fun _ _ => ?_) fun error failed => reads ?_)
          · exact Exec.leads_seq (leads_persist fun reply => ⟨_, ⟨permitted _ _, rfl⟩,
              fun _ _ => settled _ reply, fun _ => Exec.leads_raiseIf (fun _ => settled _ reply)
                fun _ => settled _ reply⟩)
          · rintro ⟨⟨_, _, _, counted⟩, _⟩
            cases counted.symm.trans failed
        · rintro ⟨⟨_, _, counted, _⟩, _⟩
          cases counted.symm.trans failed
      · rintro ⟨_, _, _, _, read, _⟩
        cases read.symm.trans failed
    · rintro ⟨_, _, _, counted, _⟩
      cases counted.symm.trans failed
  · rename_i unread
    rcases owes with nothing | ⟨usage, reported, _⟩
    · exact nothing
    · obtain ⟨prompt, completion⟩ := known usage reported
      exact absurd completion (unread _ _ prompt)

theorem bill_reconcileUsage {response : ModelResponse} {input output : Int}
    (owes : Owes runId control response dict bill.outstanding) :
    billLeads runId (reconcileUsage control response input output) (fun _ => Idle) dict bill := by
  have unreported (none : response.usage = Option.none) : bill.outstanding = .nothing := by
    rcases owes with nothing | ⟨usage, reported, _⟩
    · exact nothing
    · cases none.symm.trans reported
  unfold reconcileUsage
  cases tokens : response.tokenUsage with
  | obj usage =>
      simp only
      cases prompt : Dict.get? usage "prompt_tokens" with
      | none => exact unreported (by simp only [ModelResponse.usage, tokens, prompt])
      | some promptTokens =>
          cases completion : Dict.get? usage "completion_tokens" with
          | none =>
              exact unreported (by simp only [ModelResponse.usage, tokens, prompt, completion])
          | some completionTokens =>
              exact bill_reconcile owes fun _ => ModelResponse.counts tokens prompt completion
  | _ => exact unreported (by simp only [ModelResponse.usage, tokens])

theorem idle_decide (settings : Settings) (mode : AnswerMode) (control : Control)
    (messages : List DecisionMessage) (tools : List ToolSchema) (timeout : Time) :
    Exec.Keeps (controlOf (Billing runId)) Idle
      (JsonDecisionAdapter.decide settings mode control messages tools timeout) := by
  intro dict bill idle
  unfold JsonDecisionAdapter.decide
  refine Exec.leads_seq (Exec.leads_raiseIf (fun _ => ?_) fun _ => idle)
  refine Exec.leads_bind (bill_reserve control _ _ idle) ?_
  rintro _ _ _ ⟨_, readied⟩
  refine Exec.leads_bind (bill_invoke _ readied) ?_
  rintro response _ _ ⟨rfl, _, owes⟩
  refine Exec.leads_bind (bill_reconcileUsage owes) fun _ _ _ idle => ?_
  exact Exec.leads_ofExcept (fun _ _ => idle) fun _ _ => idle

/-- Only the reviewer asks for a guard before it reconciles. -/
theorem bill_review (settings : Settings) (control : Control) (request : DocumentReviewRequest)
    (timeout : Time) (idle : Idle dict bill) (reviewing : bill.call.reviewing = true) :
    billLeads runId (JsonDocumentAnswerReviewer.review settings control request timeout)
      (fun _ => Idle) dict bill := by
  unfold JsonDocumentAnswerReviewer.review
  dsimp only
  generalize JsonDocumentAnswerReviewer.instructions settings = instructions,
    Json.render Json.compact request.dump = payload
  refine Exec.leads_seq (Exec.leads_raiseIf (fun _ => ?_) fun _ => idle)
  refine Exec.leads_seq (Exec.leads_raiseIf (fun _ => ?_) fun _ => idle)
  have unready : bill.outstanding ≠ .ready := fun ready => by cases idle.symm.trans ready
  refine Exec.leads_bind (bill_guard unready (fun _ => idle.permits _) (idle.permits _)) ?_
  rintro _ _ _ ⟨rfl, rfl⟩
  refine Exec.leads_bind (bill_reserve control _ _ idle) ?_
  rintro _ _ _ ⟨first, readied⟩
  refine Exec.leads_bind (bill_invoke _ readied) ?_
  rintro response _ _ ⟨rfl, second, owes⟩
  have guards := second.trans (first.trans reviewing)
  refine Exec.leads_bind (bill_guard owes.unready (fun _ _ _ => guards) fun _ _ => guards) ?_
  rintro _ _ _ ⟨rfl, rfl⟩
  refine Exec.leads_bind (bill_reconcileUsage owes) fun _ _ _ idle => ?_
  exact Exec.leads_ofExcept (fun _ _ => idle) fun _ _ => idle

/-! ## A delivery settles -/

variable {settings : Settings} {job : AgentRunJob} {record : RunRow}

theorem idle_liveAnswer (settings : Settings) (control : Control) (job : AgentRunJob) :
    Exec.Keeps (Billing runId) Idle (Runner.liveAnswer settings control job) := by
  unfold Runner.liveAnswer
  have carries := idle_carries runId control.lease
  refine .bind (keeps_liftControl (keeps_guard carries.toSurvives)) fun remaining =>
    .bind (.raiseIf _ _) fun _ => .bind (idle_ask fun _ same => by cases same) fun _ =>
    .bind (.ofExcept _) fun _ => ?_
  refine keeps_run ⟨carries, idle_decide settings job.answerMode control, ?_⟩
    fun _ _ _ => idle_ask fun _ same => by cases same
  exact fun _ _ request timeout idle => ⟨_, ⟨idle.permits _, rfl⟩,
    bill_review settings control request timeout (idle.after rfl) rfl⟩

theorem idle_attempt (settings : Settings) (control : Control) (job : AgentRunJob)
    (record : RunRow) (limits : Json) (token : String) :
    Exec.Keeps (Billing runId) Idle
      (Runner.attempt settings control job record limits token) := by
  unfold Runner.attempt
  have survives := (idle_carries runId control.lease).toSurvives
  refine .bind (idle_ask fun _ same => by cases same) fun _ =>
    .bind (keeps_liftControl (keeps_persist survives rfl _)) fun _ =>
    .ite (.bind (.ofExcept _) fun answer => ?_)
      (.bind (idle_liveAnswer settings control job) fun answer => ?_)
  all_goals
    exact .bind (idle_ask fun _ same => by cases same) fun _ => .bind (.ofExcept _) fun _ =>
      .bind (idle_ask fun _ same => by cases same) fun _ => .bind (.ofExcept _) fun _ =>
      .bind (.raiseIf _ _) fun _ => .pure _

theorem idle_report (job : AgentRunJob) (token : String) (error : Exc) :
    Exec.Keeps (Billing runId) Idle (Runner.report job token error) := by
  unfold Runner.report
  exact .bind .get fun _ => .bind (idle_ask fun _ same => by cases same) fun _ =>
    .bind (.ofExcept _) fun _ => .throw _

theorem idle_close : Exec.Keeps (Billing runId) Idle Runner.close := by
  unfold Runner.close
  exact .bind .get fun _ => .ite (idle_ask fun _ same => by cases same) (.pure _)

theorem idle_execute (settings : Settings) (job : AgentRunJob) (record : RunRow) :
    Exec.Keeps (Billing runId) Idle (Runner.execute settings job record) := by
  unfold Runner.execute Exec.andFinally
  refine .bind (.ofExcept _) fun token => .bind (.ofExcept _) fun cost =>
    .bind (.tryCatch (.tryCatch ?_ (idle_report job token))
      fun _ => .bind idle_close fun _ => .throw _) fun _ => .bind idle_close fun _ => .pure _
  unfold Runner.controlled
  exact .bind (.ofExcept _) fun control => .zoom
    (fun _ => idle_attempt settings control job record _ token) fun _ _ idle => idle

theorem delivery_bills (runId : String) (settings : Settings) (payload : Json) :
    Follows (Billing runId) (fun _ _ => True) (delivery settings payload) .blank := by
  have keeps : Exec.Keeps (Billing runId) Idle (executeAgentJob settings payload) := by
    unfold executeAgentJob
    refine .bind (.ofExcept _) fun job => .bind (.raiseIf _ _) fun _ =>
      .bind (idle_ask fun _ same => by cases same) fun _ => .bind (.ofExcept _) fun record =>
      .ite (.ofExcept _) (idle_execute settings job record)
  exact Follows.mono (keeps none .blank rfl) fun _ _ _ => trivial

end Idle

/-! ## Runs of the world -/

/-- What a delivery has to reconcile for the run after these labels. -/
def World.Label.bill (runId : String) (index : Nat) (bill : Bill) : World.Label → Bill
  | .event other taken => if other = index then bill.after runId taken else bill
  | _ => bill

def billOf (runId : String) (index : Nat) (labels : List World.Label) : Bill :=
  labels.foldl (World.Label.bill runId index) .blank

def World.Label.call (runId : String) (index : Nat) (call : LatestCall) :
    World.Label → LatestCall
  | .event other taken => if other = index then call.next runId taken else call
  | _ => call

def latestCall (runId : String) (index : Nat) (labels : List World.Label) : LatestCall :=
  labels.foldl (World.Label.call runId index) { reviewing := false, refused := false }

section Worlds

variable {runId : String} {index other : Nat} {past : List World.Label} {label : World.Label}
  {taken : Event Reply} {world next : World}

theorem billOf_call (labels : List World.Label) :
    (billOf runId index labels).call = latestCall runId index labels := by
  refine (List.foldl_hom Bill.call fun bill label => ?_).symm
  cases label with
  | event other taken =>
      simp only [World.Label.call, World.Label.bill]
      split <;> rfl
  | _ => rfl

theorem billOf_snoc (past : List World.Label) (label : World.Label) :
    billOf runId index (past ++ [label]) = label.bill runId index (billOf runId index past) := by
  simp [billOf]

theorem billOf_event (past : List World.Label) (taken : Event Reply) :
    billOf runId index (past ++ [.event index taken]) =
      (billOf runId index past).after runId taken := by
  rw [billOf_snoc, World.Label.bill, if_pos rfl]

theorem billOf_other (different : ∀ taken, label ≠ .event index taken) :
    billOf runId index (past ++ [label]) = billOf runId index past := by
  rw [billOf_snoc]
  cases label with
  | event other taken =>
      exact if_neg fun same => different taken (by rw [same])
  | _ => rfl

/-- Every delivery goes on settling from its bill. -/
structure World.Bills (runId : String) (past : List World.Label) (world : World) : Prop where
  follows : ∀ (index : Nat) (delivery : Delivery), world.deliveries[index]? = some delivery →
    Follows (Billing runId) (fun _ _ => True) delivery.program (billOf runId index past)
  fresh : ∀ index, world.deliveries.length ≤ index → billOf runId index past = .blank

theorem World.Bills.start (initial : world.Initial) : world.Bills runId [] :=
  ⟨fun index delivery here => (by rw [initial.2] at here; cases here), fun _ _ => rfl⟩

theorem World.Bills.step (bills : world.Bills runId past) (step : World.Step world label next) :
    next.Bills runId (past ++ [label]) := by
  cases step with
  | @client call =>
      have still (index : Nat) : billOf runId index (past ++ [.client call]) =
          billOf runId index past := billOf_other fun taken same => by cases same
      exact ⟨fun index delivery here => by rw [still]; exact bills.follows index delivery here,
        fun index beyond => by rw [still]; exact bills.fresh index beyond⟩
  | @deliver settings job payload =>
      have still (index : Nat) : billOf runId index (past ++ [.deliver settings job]) =
          billOf runId index past := billOf_other fun taken same => by cases same
      refine ⟨fun index delivery here => ?_, fun index beyond => ?_⟩
      · rw [still]
        rw [List.getElem?_append] at here
        split at here
        · exact bills.follows index delivery here
        · rename_i beyond
          rw [List.getElem?_singleton] at here
          split at here
          · cases here
            rw [bills.fresh index (not_lt.mp beyond)]
            exact delivery_bills runId settings payload
          · cases here
      · rw [still]
        simp only [List.length_append, List.length_singleton] at beyond
        exact bills.fresh index (by omega)
  | @event index taking request resume reply store here asks answers =>
      have follows := bills.follows index taking here
      rw [asks] at follows
      obtain ⟨bill, ⟨_, rfl⟩, rest⟩ := follows reply
      have within := (List.getElem?_eq_some_iff.mp here).1
      have elsewhere {other : Nat} (different : other ≠ index) :=
        @billOf_other runId other past (.event index ⟨request, reply⟩) fun taken same => by
          cases same
          exact different rfl
      refine ⟨fun other delivery there => ?_, fun other beyond => ?_⟩
      · rw [List.getElem?_set] at there
        split at there
        · rename_i same
          subst same
          cases there
          rw [billOf_event]
          exact rest
        · rename_i different
          rw [elsewhere (Ne.symm different)]
          exact bills.follows other delivery there
      · simp only [List.length_set] at beyond
        rw [elsewhere (by omega)]
        exact bills.fresh other beyond

theorem World.Bills.permits (bills : world.Bills runId past)
    (step : World.Step world (.event index taken) next) :
    (billOf runId index past).permits taken.request := by
  cases step with
  | @event _ taking request resume reply store here asks answers =>
      have follows := bills.follows index taking here
      rw [asks] at follows
      obtain ⟨_, ⟨permitted, _⟩, _⟩ := follows reply
      exact permitted

/-- What is outstanding shows what is known of the latest reservation. -/
def Outstanding.Shows (outstanding : Outstanding) (refused : Bool)
    (found : Option Reservation) : Prop :=
  ∀ entry, found = some entry → (entry.usage = .pending → outstanding = .ready) ∧
    ∀ usage, entry.usage = .reported (some usage) → refused = false → outstanding = .owing usage

section Shows

variable {bill : Bill} {outstanding : Outstanding} {refused : Bool} {entries : List Reservation}

theorem Outstanding.Shows.replied (shows : outstanding.Shows refused (latest index entries))
    (paid : ∀ usage, outstanding ≠ .owing usage) (usage : Option (Int × Int)) :
    (outstanding.called usage).Shows refused
      (latest index (amend index (Reservation.reply usage) entries)) := by
  rw [latest_amend (Reservation.reply_holder usage)]
  intro entry found
  obtain ⟨before, earlier, rfl⟩ := Option.map_eq_some_iff.mp found
  obtain ⟨holder, lease, input, output, state⟩ := before
  cases state with
  | pending =>
      rw [(shows _ earlier).1 rfl]
      refine ⟨fun impossible => (by cases impossible), fun counts reported _ => ?_⟩
      have same : usage = some counts := Usage.reported.inj reported
      exact congrArg Outstanding.ready.called same
  | reported =>
      refine ⟨fun impossible => (by cases impossible), fun counts reported unrefused => ?_⟩
      exact absurd ((shows _ earlier).2 counts reported unrefused) (paid counts)
  | reconciled =>
      exact ⟨fun impossible => (by cases impossible), fun _ impossible => by cases impossible⟩

theorem Outstanding.Shows.settled (shows : outstanding.Shows refused (latest index entries))
    (saved : Dict)
    (inputTokens outputTokens input output : Int) :
    (outstanding.saved saved (.reconcile inputTokens outputTokens input output)).Shows refused
      (latest index (amend index Reservation.reconcile entries)) := by
  rw [latest_amend Reservation.reconcile_holder]
  intro entry found
  obtain ⟨before, earlier, rfl⟩ := Option.map_eq_some_iff.mp found
  obtain ⟨holder, lease, input, output, state⟩ := before
  cases state with
  | pending =>
      rw [(shows _ earlier).1 rfl]
      exact ⟨fun _ => rfl, fun _ impossible => by cases impossible⟩
  | reported usage =>
      cases usage with
      | none =>
          exact ⟨fun impossible => (by cases impossible), fun _ impossible => by cases impossible⟩
      | some =>
          exact ⟨fun impossible => (by cases impossible), fun _ impossible => by cases impossible⟩
  | reconciled =>
      exact ⟨fun impossible => (by cases impossible), fun _ impossible => by cases impossible⟩

theorem Outstanding.Shows.excused (shows : outstanding.Shows refused (latest index entries))
    (kept : outstanding.moved runId taken = outstanding) :
    (outstanding.after runId taken).Shows true (latest index entries) := fun entry found => by
  refine ⟨fun pending => ?_, fun _ _ impossible => by cases impossible⟩
  rw [(shows entry found).1 pending] at kept ⊢
  exact kept

theorem Outstanding.Shows.unposted
    (shows : bill.outstanding.Shows bill.call.refused (latest index entries))
    {request : ControlRequest} {reply : Reply (.control request)}
    (nothing : posting runId ⟨.control request, reply⟩ = none)
    (kept : bill.outstanding.moved runId ⟨.control request, reply⟩ = bill.outstanding) :
    (bill.outstanding.after runId ⟨.control request, reply⟩).Shows
      (bill.call.next runId ⟨.control request, reply⟩).refused
      (latest index (World.Label.enter runId entries (.event index ⟨.control request, reply⟩))) := by
  rw [World.Label.enter, LatestCall.next_unposted nothing, nothing]
  cases passes : refuses (⟨.control request, reply⟩ : Event Reply) with
  | true =>
      rw [Bool.or_true]
      exact shows.excused kept
  | false =>
      rw [Bool.or_false, Outstanding.after_unrefused passes, kept]
      exact shows

theorem Outstanding.Shows.accepted {lease : Lease} {saved : Dict}
    (shows : bill.outstanding.Shows bill.call.refused (latest index entries)) (site : Site)
    (run : lease.runId = runId) (readable : Readable saved) :
    (bill.outstanding.after runId (checkpointed lease site saved (.ok ()))).Shows
      (bill.call.next runId (checkpointed lease site saved (.ok ()))).refused
      (latest index (World.Label.enter runId entries
        (.event index (checkpointed lease site saved (.ok ()))))) := by
  have posts := @posting_checkpointed runId lease site saved run
  have moved : bill.outstanding.moved runId (checkpointed lease site saved (.ok ())) =
      bill.outstanding.saved saved site := if_pos run
  cases site with
  | reserve input output =>
      rw [World.Label.enter, posts, Outstanding.after_unrefused rfl, moved]
      intro entry found
      cases latest_cons_self.symm.trans found
      exact ⟨fun _ => if_pos readable, fun _ impossible => by cases impossible⟩
  | reconcile inputTokens outputTokens input output =>
      have unreserved : ∀ lease input output, posting runId (checkpointed _ _ saved (.ok ())) ≠
          some (.reserve lease input output) := fun _ _ _ reserves => by
        cases posts.symm.trans reserves
      rw [LatestCall.next_unreserved unreserved, World.Label.enter, posts,
        Outstanding.after_unrefused rfl, moved]
      exact (Bool.or_false _).symm ▸ shows.settled saved _ _ _ _
  | _ => exact shows.unposted posts moved

theorem Outstanding.Shows.event
    (shows : bill.outstanding.Shows bill.call.refused (latest index entries))
    (permitted : bill.permits taken.request)
    (readable : ∀ saved, World.Label.saved runId (.event index taken) = some saved →
      Readable saved) :
    (bill.outstanding.after runId taken).Shows (bill.call.next runId taken).refused
      (latest index (World.Label.enter runId entries (.event index taken))) := by
  rcases taken with ⟨request, reply⟩
  cases request with
  | control request =>
      cases request with
      | heartbeatError | guard => exact shows.unposted rfl rfl
      | checkpoint lease site saved =>
          cases reply with
          | error => exact shows.unposted rfl rfl
          | ok =>
              by_cases run : lease.runId = runId
              · exact shows.accepted site run (readable saved (saved_checkpointed site saved run))
              · exact shows.unposted (if_neg run) (if_neg run)
      | invoke call =>
          have paid (usage : Int × Int) : bill.outstanding ≠ .owing usage := fun owing => by
            cases permitted usage owing
          have unreserved : ∀ lease input output, posting runId
              (⟨.control (.invoke call), reply⟩ : Event Reply) ≠
                some (.reserve lease input output) := fun _ _ _ reserves => by cases reserves
          rw [Outstanding.after_unrefused rfl, LatestCall.next_unreserved unreserved]
          exact (Bool.or_false _).symm ▸ shows.replied paid (usageOf reply)
  | decide | review =>
      rw [Outstanding.after_unrefused rfl]
      exact shows
  | _ =>
      rw [Outstanding.after_unrefused rfl]
      show bill.outstanding.Shows (bill.call.refused || false) _
      rw [Bool.or_false]
      exact shows

end Shows

def Linked (runId : String) (past : List World.Label) : Prop :=
  ∀ index, (billOf runId index past).outstanding.Shows (latestCall runId index past).refused
    (latest index (ledger runId past))

theorem Linked.step (linked : Linked runId past)
    (permitted : ∀ index taken, label = .event index taken →
      (billOf runId index past).permits taken.request)
    (readable : ∀ saved, label.saved runId = some saved → Readable saved) :
    Linked runId (past ++ [label]) := by
  intro index
  have shows := linked index
  rw [← billOf_call] at shows ⊢
  by_cases acts : ∃ taken, label = .event index taken
  · obtain ⟨taken, rfl⟩ := acts
    rw [billOf_event, ledger_snoc]
    exact shows.event (permitted index taken rfl) readable
  · push Not at acts
    rw [billOf_other acts, ledger_snoc,
      latest_other fun taken same => absurd same (acts taken)]
    exact shows

/-- Where a delivery has reported usage to reconcile, it asks for nothing else. -/
theorem World.settles {first middle last : World} {before after : List World.Label}
    (initial : first.Initial) (earlier : Run World.Step first before middle)
    (rest : Run World.Step middle (.event index taken :: after) last)
    (readable : ∀ saved ∈ saves runId before, Readable saved)
    (unrefused : (latestCall runId index before).refused = false) {entry : Reservation}
    {usage : Int × Int} (found : latest index (ledger runId before) = some entry)
    (reported : entry.usage = .reported (some usage)) :
    taken.request.settles (latestCall runId index before).reviewing usage = true := by
  have traced := @Run.traced _ _ _ (fun past (world : World) => world.Bills runId past ∧
      ((∀ saved ∈ saves runId past, Readable saved) → Linked runId past))
    (fun past world label next holds step => ⟨holds.1.step step, fun readable => by
      rw [saves_snoc] at readable
      refine (holds.2 fun saved member => readable saved (List.mem_append_left _ member)).step
        (fun index taken same => ?_) fun saved same => readable saved ?_
      · subst same
        exact holds.1.permits step
      · rw [same]
        exact List.mem_append_right _ (List.mem_singleton_self _)⟩)
    _ _ _ earlier [] ⟨.start initial, fun _ index entry none => by cases none⟩
  rw [List.nil_append] at traced
  cases rest with
  | cons step _ =>
      have owing := (traced.2 readable index entry found).2 usage reported unrefused
      rw [← billOf_call]
      exact traced.1.permits step usage owing

end Worlds

end Crewos.Agent

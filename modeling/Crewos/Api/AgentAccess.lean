import Crewos.Api.AgentSessions

/-! # Complete mediation of the agent service

Every program of the agent service keeps to the discipline: nothing is asked for
before the tenant is known, no call is made without its grant, and nobody looks at
a task whose entry was not seen to be the tenant's. -/

namespace Crewos.AgentService

open Foundation RunStore Api
open Agent (AgentRunJob AgentAnswer Exc Lease ToolResult validated)

abbrev Sees (settings : ServiceSettings) (origin : Origin) (raises : ServerError → Prop)
    (past : Past) (computation : Server α) (result : α → Past → Prop) : Prop :=
  Exec.Learns (monitor settings origin) raises past computation result

theorem validated_ok {value : α} {result : Option α} :
    validated result = .ok value ↔ result = some value := by
  cases result <;> simp [validated]

theorem mapError_ok {raised : ε → δ} {outcome : Except ε α} {value : α} :
    outcome.mapError raised = .ok value ↔ outcome = .ok value := by
  cases outcome <;> simp [Except.mapError]

theorem contained_raised (error : Exc) : Contained (.raised error) := by
  intro exception same
  cases same

theorem contained_httpException {exception : HttpException} (listed : exception ∈ publicAnswers) :
    Contained (.httpException exception) := by
  rintro _ ⟨⟩
  exact listed

theorem public_raised (error : Exc) : Public (.raised error) := .inr (.inr ⟨error, rfl⟩)

theorem public_httpException {exception : HttpException} (listed : exception ∈ publicAnswers) :
    Public (.httpException exception) := .inl ⟨exception, listed, rfl⟩

theorem taskNotFound_listed : TaskOwnershipStore.taskNotFound ∈ publicAnswers := by
  simp [publicAnswers, TaskOwnershipStore.taskNotFound]

theorem Received.mono {past later : Past} {tenantId : String} {row : RunRow} {job : AgentRunJob}
    (grown : past ≤ later) (received : Received past tenantId row job) :
    Received later tenantId row job :=
  { received with returned := received.returned.imp fun _ returned => returned.mono grown }

/-! ## One request at a time -/

section Asking

variable {settings : ServiceSettings} {tenantId : String} {origin : Origin} {past : Past}
  {raises : ServerError → Prop} {result : α → Past → Prop}

theorem sees_raising {reply : Except Exc α} (outside : ∀ error, raises (.raised error)) :
    Sees settings origin raises past (raising reply)
      fun value later => reply = .ok value ∧ later = past := by
  cases reply with
  | ok value => exact .pure ⟨rfl, rfl⟩
  | error error => exact .throw (outside error)

theorem sees_raiseIf {condition : Prop} [Decidable condition] {error : ServerError}
    (fails : raises error) :
    Sees settings origin raises past (Exec.raiseIf condition error)
      fun _ later => ¬condition ∧ later = past :=
  .raiseIf (fun passes => ⟨passes, rfl⟩) fun _ => fails

variable (admitted : origin.Admitted settings tenantId)
  (outside : ∀ error, raises (.raised error))

include admitted

theorem sees_ask {request : Ask} (permitted : Permits settings tenantId origin past request) :
    Sees settings origin raises past (ask request)
      fun reply later => later = past.learn request reply ∧ Admits request reply :=
  .ask ⟨tenantId, admitted, permitted⟩ (fun reply => Past.le_learn past request reply)
    fun _ admits => ⟨rfl, admits⟩

include outside

theorem sees_fallible (request : Ask) {β : Type} (outcome : Answer request → Except Exc β)
    (permitted : Permits settings tenantId origin past request) :
    Sees settings origin raises past (do raising (outcome (← ask request)))
      fun value later => ∃ reply, outcome reply = .ok value ∧ later = past.learn request reply ∧
        Admits request reply := by
  refine (sees_ask admitted permitted).bind ?_
  rintro reply _ - ⟨rfl, admits⟩
  refine (sees_raising outside).mono ?_
  rintro value _ - ⟨ok, rfl⟩
  exact ⟨reply, ok, rfl, admits⟩

omit outside in
theorem sees_uuid4 : Sees settings origin raises past (ask .uuid4)
    fun (id : Uuid4) later => later.Drew id := by
  have permitted : Permits settings tenantId origin past .uuid4 := trivial
  refine (sees_ask admitted permitted).mono ?_
  rintro id _ - ⟨rfl, -⟩
  exact List.mem_append_right _ (List.mem_singleton_self _)

omit outside in
theorem sees_time : Sees settings origin raises past time fun _ _ => True := by
  have permitted : Permits settings tenantId origin past .now := trivial
  exact (sees_ask admitted permitted).mono fun _ _ _ _ => trivial

theorem sees_log : Sees settings origin raises past log fun _ _ => True :=
  (sees_fallible admitted outside .log (fun logged : Except Exc Unit => logged) trivial).mono
    fun _ _ _ _ => trivial

theorem sees_getTaskStore : Sees settings origin raises past getTaskStore fun _ _ => True :=
  (sees_fallible admitted outside .getTaskStore (fun opened : Except Exc Unit => opened)
    trivial).mono fun _ _ _ _ => trivial

theorem sees_getRunStore : Sees settings origin raises past getRunStore fun _ _ => True :=
  (sees_fallible admitted outside .getRunStore (fun opened : Except Exc Unit => opened)
    trivial).mono fun _ _ _ _ => trivial

theorem sees_applyAsync {payload : Dict} {taskId queue : String}
    (permitted : Permits settings tenantId origin past (.applyAsync payload taskId queue)) :
    Sees settings origin raises past (applyAsync payload taskId queue)
      fun _ later => later.Sent payload taskId := by
  refine (sees_fallible admitted outside (.applyAsync payload taskId queue)
    (fun sent : Except Exc Unit => sent) permitted).mono ?_
  rintro _ _ - ⟨reply, rfl, rfl, -⟩
  exact ⟨queue, List.mem_append_right _ (List.mem_singleton_self _)⟩

theorem sees_runCrew {payload : Dict} {taskId queue : String}
    (permitted : Permits settings tenantId origin past (.runCrew tenantId payload taskId queue)) :
    Sees settings origin raises past (runCrew tenantId payload taskId queue) fun _ _ => True :=
  (sees_fallible admitted outside (.runCrew tenantId payload taskId queue)
    (fun sent : Except Exc Unit => sent) permitted).mono fun _ _ _ _ => trivial

theorem sees_taskState {taskId : String}
    (permitted : Permits settings tenantId origin past (.state taskId)) :
    Sees settings origin raises past (taskState taskId)
      fun state later => later.Observed taskId state := by
  refine (sees_fallible admitted outside (.state taskId)
    (fun state : Except Exc String => state) permitted).mono ?_
  rintro state _ - ⟨reply, rfl, rfl, -⟩
  exact List.mem_append_right _ (List.mem_singleton_self _)

theorem sees_call {operation : Operation}
    (authorised : Authorised settings tenantId origin past operation) :
    Sees settings origin raises past (RunStoreInterface.call operation)
      fun reply later => later.Returned operation reply ∧ Describes operation reply := by
  refine (sees_fallible admitted outside (.call operation)
    (fun reply : Except RunStoreError RunStore.Reply => reply.mapError .store) authorised).mono ?_
  rintro answer _ - ⟨reply, ok, rfl, admits⟩
  have same : reply = (.ok answer : Except RunStoreError RunStore.Reply) := by
    rcases reply with error | value
    · cases ok
    · exact congrArg _ (Except.ok.inj ok)
  exact ⟨same ▸ List.mem_append_right _ (List.mem_singleton_self _), admits answer same⟩

/-! ## The run store -/

omit admitted in
theorem sees_recordOf {reply : RunStore.Reply} :
    Sees settings origin raises past (Exec.ofExcept (RunStoreInterface.recordOf reply))
      fun row later => later = past ∧ reply = .record row := by
  cases reply with
  | record row => exact .pure ⟨rfl, rfl⟩
  | _ => exact .throw (outside _)

theorem sees_record {operation : Operation}
    (authorised : Authorised settings tenantId origin past operation)
    (tenant : operation.tenant = .ok tenantId) :
    Sees settings origin raises past
      (do Exec.ofExcept (RunStoreInterface.recordOf (← RunStoreInterface.call operation)))
      fun row later => later.Returned operation (.record row) ∧
        (∀ runId, named operation = some runId → row.id = runId) ∧
        ∃ job, Received later tenantId row job := by
  refine (sees_call admitted outside authorised).bind ?_
  rintro reply later - ⟨returned, describes⟩
  refine (sees_recordOf outside).mono ?_
  rintro row _ - ⟨rfl, rfl⟩
  obtain ⟨same, about, job, runs⟩ := describes row rfl
  exact ⟨returned, about, job, ⟨operation, returned⟩, Except.ok.inj (same.symm.trans tenant), runs⟩

theorem sees_get {runId : String}
    (authorised : Authorised settings tenantId origin past (.get runId tenantId)) :
    Sees settings origin raises past (RunStoreInterface.get runId tenantId)
      fun record later => later.Returned (.get runId tenantId) (.history record.1 record.2) ∧
        record.1.tenant = tenantId := by
  refine (sees_call admitted outside authorised).bind ?_
  rintro reply later - ⟨returned, describes⟩
  cases reply with
  | history row attempts =>
      exact .pure ⟨returned, (Except.ok.inj (describes row rfl).1).symm⟩
  | _ => exact .throw (outside _)

theorem sees_markPublished {runId : String} {payload : Dict} (sent : past.Sent payload runId) :
    Sees settings origin raises past (RunStoreInterface.markPublished runId tenantId)
      fun _ _ => True := by
  refine (sees_call admitted outside (.published sent)).bind ?_
  exact fun _ _ _ _ => .pure trivial

/-! ## Ownership entries -/

theorem sees_register {taskId : String} (may : MayRegister past tenantId origin taskId) :
    Sees settings origin raises past (TaskOwnershipStore.register settings taskId tenantId)
      fun _ later => later.Owns (TaskOwnershipStore.key settings taskId) tenantId := by
  have permitted : Permits settings tenantId origin past
      (.setOwner (TaskOwnershipStore.key settings taskId) tenantId) := ⟨rfl, taskId, rfl, may⟩
  refine (sees_fallible admitted outside (.setOwner _ _) (fun reply : Except Exc Bool => reply)
    permitted).bind ?_
  rintro created _ - ⟨reply, rfl, rfl, -⟩
  refine (sees_raiseIf (outside _)).mono ?_
  rintro - _ - ⟨passes, rfl⟩
  obtain rfl : created = true := by simpa using passes
  exact .inr (List.mem_append_right _ (List.mem_singleton_self _))

variable (missing : raises (.httpException TaskOwnershipStore.taskNotFound))

include missing

theorem sees_requireOwner {taskId : String}
    (may : (∃ row job, Received past tenantId row job ∧ row.id = taskId) ∨
      MayLook settings tenantId origin taskId) :
    Sees settings origin raises past (TaskOwnershipStore.requireOwner settings taskId tenantId)
      fun _ later => later.Owns (TaskOwnershipStore.key settings taskId) tenantId := by
  have permitted : Permits settings tenantId origin past
      (.getOwner (TaskOwnershipStore.key settings taskId)) := ⟨taskId, rfl, may⟩
  refine (sees_fallible admitted outside (.getOwner _)
    (fun reply : Except Exc (Option String) => reply)
    permitted).bind ?_
  rintro owner _ - ⟨reply, rfl, rfl, -⟩
  refine (sees_raiseIf missing).mono ?_
  rintro - _ - ⟨passes, rfl⟩
  obtain rfl : owner = some tenantId := by simpa using passes
  exact .inl (List.mem_append_right _ (List.mem_singleton_self _))

omit admitted outside missing in
theorem sees_unlessNotFound {computation other : Server α}
    (tried : Sees settings origin raises past computation result)
    (handled : ∀ later, past ≤ later → Sees settings origin raises later other result) :
    Sees settings origin raises past (TaskOwnershipStore.unlessNotFound computation other)
      result := by
  refine Exec.Learns.tryCatch tried fun error later grown raised => ?_
  cases error with
  | httpException exception =>
      exact .ite (fun _ => .throw raised) fun _ => handled later grown
  | _ => exact .throw raised

theorem sees_ensureOwner {row : RunRow} {job : AgentRunJob}
    (received : Received past tenantId row job) :
    Sees settings origin raises past (TaskOwnershipStore.ensureOwner settings row.id tenantId)
      fun _ later => later.Owns (TaskOwnershipStore.key settings row.id) tenantId := by
  refine sees_unlessNotFound
    (sees_requireOwner admitted outside missing (.inl ⟨row, job, received, rfl⟩)) ?_
  exact fun later grown => sees_register admitted outside
    (.inl ⟨row, job, received.mono grown, rfl⟩)

end Asking

/-! ## The routes -/

section Programs

variable {settings : ServiceSettings} {origin : Origin} {past : Past}

theorem sees_tenantQueue {tenantId : String} {raises : ServerError → Prop}
    (outside : ∀ error, raises (.raised error)) :
    Sees settings origin raises past (tenantQueue settings tenantId)
      fun queue later => later = past ∧ settings.tenants.tenantQueue tenantId = some queue := by
  unfold tenantQueue
  cases known : settings.tenants.tenantQueue tenantId with
  | none => exact .throw (outside _)
  | some queue => exact .pure ⟨rfl, rfl⟩

theorem sees_answering {tenantId : String} (admitted : origin.Admitted settings tenantId)
    {named : ServerError → Option HttpException} {failed : HttpException} {operation : Server α}
    {result : α → Past → Prop}
    (listed : ∀ error exception, Contained error → named error = some exception →
      exception ∈ publicAnswers)
    (final : failed ∈ publicAnswers)
    (runs : Sees settings origin Contained past operation result) :
    Sees settings origin Public past (answering named failed operation) result := by
  refine Exec.Learns.tryCatch runs fun error later _ contained => ?_
  cases known : named error with
  | some exception => exact .throw (public_httpException (listed error exception contained known))
  | none =>
      exact (sees_log admitted public_raised).bind fun _ _ _ _ =>
        .throw (public_httpException final)

theorem submissionAnswer_listed {error : ServerError} {exception : HttpException}
    (contained : Contained error) (named : submissionAnswer error = some exception) :
    exception ∈ publicAnswers := by
  unfold submissionAnswer at named
  split at named
  case h_3 => exact Option.some.inj named ▸ contained _ rfl
  case h_4 =>
    split at named
    · cases named; simp [publicAnswers]
    · split at named <;> cases named
      simp [publicAnswers]
  all_goals
    cases named
    try simp [publicAnswers]

theorem operationAnswer_listed {error : ServerError} {exception : HttpException}
    (contained : Contained error) (named : operationAnswer error = some exception) :
    exception ∈ publicAnswers := by
  unfold operationAnswer at named
  split at named
  case h_4 =>
    split at named
    · cases named; simp [publicAnswers]
    · split at named <;> cases named
      simp [publicAnswers]
  case h_6 => exact Option.some.inj named ▸ contained _ rfl
  all_goals
    cases named
    try simp [publicAnswers]

theorem crewAnswer_listed {error : ServerError} {exception : HttpException}
    (named : crewAnswer error = some exception) : exception ∈ publicAnswers := by
  unfold crewAnswer at named
  split at named <;> cases named
  simp [publicAnswers]

theorem sees_execute {context : ToolExecutionContext} {action : String} {operation : Server α}
    {raises : ServerError → Prop} {result : α → Past → Prop}
    (admitted : origin.Admitted settings context.tenantId)
    (outside : ∀ error, raises (.raised error)) (denied : raises .policyDenied)
    (allowed : (∃ permission ∈ context.permissions, permission.value = action) →
      ∀ later, past ≤ later → Sees settings origin raises later operation result) :
    Sees settings origin raises past (executor.execute context action operation) result :=
  PolicyEnforcedExecutor.learns_execute (fun _ _ => rfl) (sees_log admitted outside)
    (fun _ => denied) allowed

theorem contained_policyDenied : Contained .policyDenied := by
  intro exception same
  cases same

section Requests

variable {request : HttpRequest} {context : ToolExecutionContext}
  (admitted : (Origin.http request).Admitted settings context.tenantId)

include admitted

theorem sees_publishRun {body : Json} {idempotencyKey : Option String}
    {payload : AgentRunRequest} {job registered : AgentRunJob} {row : RunRow}
    (routed : request.route = .submitAgentRun body idempotencyKey)
    (valid : AgentRunRequest.validate body = some payload) (asks : payload.Asks job)
    (returned : past.Returned (.create job.dump settings.agentMaxDuration idempotencyKey)
      (.record row))
    (received : Received past context.tenantId row registered) :
    Sees settings (.http request) Contained past
      (publishRun settings context.tenantId job row)
      fun response later => response.Of settings context.tenantId later request.route := by
  have read := (validate_sorted registered).1
  rw [← received.runs.job] at read
  unfold publishRun
  refine .ite (fun under => ?_) fun _ => ?_
  · have other : row.id ≠ job.agentRunId.text := by simpa using under.1
    refine (sees_raising contained_raised).bind ?_
    rintro id _ - ⟨parsed, rfl⟩
    rw [routed]
    exact .pure (.replayed valid asks returned received.tenant other (validated_ok.mp parsed)
      under.2)
  · rw [read]
    refine (sees_raising contained_raised).bind ?_
    rintro _ _ - ⟨⟨⟩, rfl⟩
    refine (sees_tenantQueue contained_raised).bind ?_
    rintro queue _ - ⟨rfl, queued⟩
    rw [← received.runs.id]
    refine (sees_ensureOwner admitted contained_raised
      (contained_httpException taskNotFound_listed) received).bind fun _ owning grown owns => ?_
    refine (sees_applyAsync admitted contained_raised ⟨queued, owns, row, _,
      received.mono grown, rfl, AgentRunJob.validate_dump _⟩).bind fun _ sending more sent => ?_
    refine (sees_markPublished admitted contained_raised sent).bind fun _ marking most _ => ?_
    refine (sees_log admitted contained_raised).bind fun _ last all _ => .pure ?_
    have kept := le_trans grown (le_trans more (le_trans most all))
    rw [routed]
    refine .published valid asks (returned.mono kept) received.tenant received.runs
      (sent.mono (le_trans most all)) ?_
    simp

theorem sees_submitAgentRun {body : Json} {idempotencyKey : Option String}
    {payload : AgentRunRequest}
    (grants : context.permissions = settings.tenants.serverGrants context.tenantId)
    (routed : request.route = .submitAgentRun body idempotencyKey)
    (valid : AgentRunRequest.validate body = some payload) :
    Sees settings (.http request) Public past
      (submitAgentRun settings context payload idempotencyKey)
      fun response later => response.Of settings context.tenantId later request.route := by
  refine sees_answering admitted (fun _ _ => submissionAnswer_listed) (by simp [publicAnswers])
    (sees_execute admitted contained_raised contained_policyDenied fun granted started _ => ?_)
  rw [grants] at granted
  refine (sees_raiseIf (contained_httpException
    (by simp [publicAnswers, decisionBudget]))).bind ?_
  rintro - _ - ⟨within, rfl⟩
  refine (sees_uuid4 admitted).bind ?_
  rintro id known - drew
  have asks : payload.Asks (payload.job context id) := ⟨rfl, rfl, rfl⟩
  have submits : Submits settings context.tenantId (.http request) idempotencyKey
      (payload.job context id) :=
    { routed := ⟨body, payload, congrArg some routed, valid, asks⟩
      budget := Nat.le_of_not_lt within
      tenant := rfl
      granted }
  refine (sees_record admitted contained_raised (.create submits drew)
    (Agent.textField_dump (payload.job context id)).2).bind ?_
  rintro row later - ⟨returned, -, registered, received⟩
  exact sees_publishRun admitted routed valid asks returned received

theorem sees_shownRecord {row : RunRow} {attempts : Option (List AttemptSummary)} :
    Sees settings (.http request) Contained past (shownRecord row attempts)
      fun response _ => ∃ now shown, response = .record shown ∧
        publicRecord row attempts now = .ok shown := by
  have reads : Sees settings (.http request) Contained past
      (shownTime row) fun _ _ => True :=
    .ite (fun _ => sees_time admitted) fun _ => .pure trivial
  refine reads.bind fun now later _ _ => ?_
  refine (sees_raising contained_raised).bind ?_
  rintro shown _ - ⟨shows, rfl⟩
  exact .pure ⟨now, shown, rfl, mapError_ok.mp shows⟩

variable (grants : context.permissions = settings.tenants.serverGrants context.tenantId)

include grants

theorem sees_runOperation {action : String} {operation : Server α} {result : α → Past → Prop}
    (allowed : settings.tenants.Grants context.tenantId action → ∀ later, past ≤ later →
      Sees settings (.http request) Contained later operation result) :
    Sees settings (.http request) Public past (runOperation context action operation) result :=
  sees_answering admitted (fun _ _ => operationAnswer_listed) (by simp [publicAnswers])
    (sees_execute admitted contained_raised contained_policyDenied fun granted =>
      allowed (by rwa [grants] at granted))

theorem sees_readAgentRun {runId : String} (routed : request.route = .readAgentRun runId) :
    Sees settings (.http request) Public past (readAgentRun context runId)
      fun response later => response.Of settings context.tenantId later request.route := by
  refine sees_runOperation admitted grants fun granted later _ => ?_
  refine (sees_get admitted contained_raised (.read (congrArg some routed) granted)).bind ?_
  rintro record reading - ⟨returned, tenant⟩
  refine (sees_shownRecord admitted).mono ?_
  rintro _ last grown ⟨now, shown, rfl, shows⟩
  rw [routed]
  exact .read (returned.mono grown) tenant shows

theorem sees_cancelAgentRun {runId : String} (routed : request.route = .cancelAgentRun runId) :
    Sees settings (.http request) Public past (cancelAgentRun context runId)
      fun response later => response.Of settings context.tenantId later request.route := by
  refine sees_runOperation admitted grants fun granted later _ => ?_
  refine (sees_record admitted contained_raised (.cancel (congrArg some routed) granted) rfl).bind
    ?_
  rintro row reading - ⟨returned, -, job, received⟩
  refine (sees_shownRecord admitted).mono ?_
  rintro _ last grown ⟨now, shown, rfl, shows⟩
  rw [routed]
  exact .cancelled (returned.mono grown) received.tenant shows

theorem sees_resumeAgentRun {runId : String} (routed : request.route = .resumeAgentRun runId) :
    Sees settings (.http request) Public past (resumeAgentRun settings context runId)
      fun response later => response.Of settings context.tenantId later request.route := by
  refine sees_runOperation admitted grants fun granted later _ => ?_
  refine (sees_record admitted contained_raised (.resume (congrArg some routed) granted) rfl).bind
    ?_
  rintro row reading - ⟨returned, about, job, received⟩
  obtain rfl := about runId rfl
  refine (sees_ensureOwner admitted contained_raised
    (contained_httpException taskNotFound_listed) received).bind fun _ owning grown owns => ?_
  refine (sees_tenantQueue contained_raised).bind ?_
  rintro queue _ - ⟨rfl, queued⟩
  have valid : AgentRunJob.validate (.obj row.job) = some job := by
    rw [received.runs.job]
    exact (validate_sorted job).1
  refine (sees_applyAsync admitted contained_raised ⟨queued, owns, row, job, received.mono grown,
    rfl, valid⟩).bind fun _ sending more sent => ?_
  refine (sees_markPublished admitted contained_raised sent).bind fun _ last most _ => .pure ?_
  rw [routed]
  exact .resumed (returned.mono (le_trans grown (le_trans more most))) received.tenant
    (sent.mono most)

omit grants

theorem sees_runCrewApi {body : Json} {payload : CrewRunRequest}
    (routed : request.route = .runCrewApi body)
    (valid : CrewRunRequest.validate body = some payload) :
    Sees settings (.http request) Public past (runCrewApi settings context.tenantId payload)
      fun response later => response.Of settings context.tenantId later request.route := by
  refine (sees_tenantQueue public_raised).bind ?_
  rintro queue _ - ⟨rfl, queued⟩
  refine (sees_log admitted public_raised).bind fun _ started _ _ => ?_
  refine sees_answering admitted (fun _ _ _ => crewAnswer_listed) (by simp [publicAnswers]) ?_
  refine (sees_uuid4 admitted).bind fun id drawn _ drew => ?_
  refine (sees_register admitted contained_raised
    (.inr ⟨body, id, congrArg some routed, drew, rfl⟩)).bind fun _ registered grown owns => ?_
  refine (sees_runCrew admitted contained_raised ⟨rfl, queued, owns, body, payload,
    congrArg some routed, valid, rfl⟩).bind fun _ sent more _ => ?_
  refine (sees_log admitted contained_raised).bind fun _ last most _ => .pure ?_
  rw [routed]
  exact .enqueued (drew.mono (le_trans grown (le_trans more most)))
    (owns.mono (le_trans more most))

end Requests

theorem sees_shownResult {tenantId taskId state : String}
    (admitted : origin.Admitted settings tenantId)
    (owns : past.Owns (TaskOwnershipStore.key settings taskId) tenantId)
    (may : MayLook settings tenantId origin taskId) :
    Sees settings origin Contained past (shownResult taskId state)
      fun result later => later.Shown taskId state result := by
  refine .ite ?_ fun unsuccessful => .ite ?_ fun unfailed => .pure (.other unsuccessful unfailed)
  · rintro rfl
    have permitted : Permits settings tenantId origin past (.result taskId) := ⟨owns, may⟩
    refine (sees_ask admitted permitted).bind ?_
    rintro reply _ - ⟨rfl, -⟩
    refine (sees_raising contained_raised).bind ?_
    rintro result _ - ⟨rfl, rfl⟩
    exact .pure (.success (List.mem_append_right _ (List.mem_singleton_self _)))
  · rintro rfl
    have permitted : Permits settings tenantId origin past (.resultType taskId) := ⟨owns, may⟩
    refine (sees_ask admitted permitted).bind ?_
    rintro reply _ - ⟨rfl, -⟩
    refine (sees_raising contained_raised).bind ?_
    rintro errorType _ - ⟨rfl, rfl⟩
    exact .pure (.failure (List.mem_append_right _ (List.mem_singleton_self _)))

theorem sees_getTaskStatus {request : HttpRequest} {taskId tenantId : String}
    (admitted : (Origin.http request).Admitted settings tenantId)
    (routed : request.route = .getTaskStatus taskId) :
    Sees settings (.http request) Public past (getTaskStatus settings taskId tenantId)
      fun response later => response.Of settings tenantId later request.route := by
  have may : MayLook settings tenantId (.http request) taskId := .route routed
  have looks : Sees settings (.http request) Public past
      (do
        TaskOwnershipStore.requireOwner settings taskId tenantId
        taskState taskId)
      fun state later => later.Owns (TaskOwnershipStore.key settings taskId) tenantId ∧
        later.Observed taskId state := by
    refine (sees_requireOwner admitted public_raised (public_httpException taskNotFound_listed)
      (.inr may)).bind fun _ owning _ owns => ?_
    exact (sees_taskState admitted public_raised ⟨owns, may⟩).mono fun _ _ grown observed =>
      ⟨owns.mono grown, observed⟩
  refine Exec.Learns.bind (.tryCatch looks fun error later _ raised => ?_) ?_
  · split
    · exact .throw (public_httpException (by simp [publicAnswers]))
    · exact .throw raised
  · rintro state looked - ⟨owns, observed⟩
    refine (sees_log admitted public_raised).bind fun _ logged grown _ => ?_
    refine (sees_answering admitted (fun _ _ _ named => by cases named) (by simp [publicAnswers])
      (sees_shownResult admitted (owns.mono grown) may)).bind fun result last more shown =>
        .pure ?_
    have kept := le_trans grown more
    rw [routed]
    exact .status (owns.mono kept) (observed.mono kept) shown

theorem sees_parameter {value : Option α} :
    Sees settings origin Public past (parameter value)
      fun found later => value = some found ∧ later = past := by
  cases value with
  | none => exact .throw (.inr (.inl rfl))
  | some found => exact .pure ⟨rfl, rfl⟩

theorem sees_authenticated {outcome : Except HttpException α}
    (denied : ∀ exception, outcome = .error exception →
      exception = ⟨401, "Bearer token required"⟩ ∨ exception = ⟨403, "Tenant access denied"⟩) :
    Sees settings origin Public past (authenticated outcome)
      fun value later => outcome = .ok value ∧ later = past := by
  cases outcome with
  | ok value => exact .pure ⟨rfl, rfl⟩
  | error exception =>
      refine .throw (public_httpException ?_)
      rcases denied exception rfl with rfl | rfl <;> simp [publicAnswers]

def Served (settings : ServiceSettings) (request : HttpRequest) (response : Response)
    (later : Past) : Prop :=
  ∃ tenantId, settings.tenants.Authenticated request.tenantHeader request.credentials tenantId ∧
    response.Of settings tenantId later request.route

theorem sees_context {request : HttpRequest} {route : ToolExecutionContext → Server Response}
    (runs : ∀ context : ToolExecutionContext,
      (Origin.http request).Admitted settings context.tenantId →
      context.permissions = settings.tenants.serverGrants context.tenantId →
      Sees settings (.http request) Public past (route context)
        fun response later => response.Of settings context.tenantId later request.route) :
    Sees settings (.http request) Public past
      (do
        let context ← authenticated (settings.tenants.getToolExecutionContext request.tenantHeader
          request.credentials)
        route context)
      (Served settings request) := by
  refine (sees_authenticated fun _ => TenantSettings.getToolExecutionContext_error).bind ?_
  rintro context _ - ⟨ok, rfl⟩
  obtain ⟨authenticated, grants⟩ := TenantSettings.getToolExecutionContext_ok ok
  exact (runs context (.http authenticated) grants).mono fun _ _ _ told =>
    ⟨context.tenantId, authenticated, told⟩

theorem sees_serve {request : HttpRequest} :
    Sees settings (.http request) Public past (serve settings request)
      (Served settings request) := by
  unfold serve
  cases routed : request.route with
  | submitAgentRun body idempotencyKey =>
      refine sees_context fun context admitted grants => ?_
      refine (sees_getTaskStore admitted public_raised).bind fun _ _ _ _ => ?_
      refine (sees_getRunStore admitted public_raised).bind fun _ _ _ _ => ?_
      refine sees_parameter.bind ?_
      rintro payload _ - ⟨valid, rfl⟩
      refine sees_parameter.bind fun _ _ _ _ => ?_
      exact sees_submitAgentRun admitted grants routed valid
  | readAgentRun runId =>
      refine sees_context fun context admitted grants => ?_
      refine (sees_getRunStore admitted public_raised).bind fun _ _ _ _ => ?_
      exact sees_readAgentRun admitted grants routed
  | cancelAgentRun runId =>
      refine sees_context fun context admitted grants => ?_
      refine (sees_getRunStore admitted public_raised).bind fun _ _ _ _ => ?_
      exact sees_cancelAgentRun admitted grants routed
  | resumeAgentRun runId =>
      refine sees_context fun context admitted grants => ?_
      refine (sees_getRunStore admitted public_raised).bind fun _ _ _ _ => ?_
      refine (sees_getTaskStore admitted public_raised).bind fun _ _ _ _ => ?_
      exact sees_resumeAgentRun admitted grants routed
  | runCrewApi body =>
      refine sees_context fun context admitted grants => ?_
      refine (sees_getTaskStore admitted public_raised).bind fun _ _ _ _ => ?_
      refine sees_parameter.bind ?_
      rintro payload _ - ⟨valid, rfl⟩
      exact sees_runCrewApi admitted routed valid
  | getTaskStatus taskId =>
      refine (sees_authenticated fun _ => TenantSettings.getTenantId_error).bind ?_
      rintro tenantId _ - ⟨ok, rfl⟩
      have authenticated := TenantSettings.getTenantId_ok.mp ok
      have admitted : (Origin.http request).Admitted settings tenantId := .http authenticated
      refine (sees_getTaskStore admitted public_raised).bind fun _ _ _ _ => ?_
      exact (sees_getTaskStatus admitted routed).mono fun _ _ _ told =>
        ⟨tenantId, authenticated, told⟩

/-! ## Attempts and heartbeats -/

abbrev Anything (_ : ServerError) : Prop := True

theorem sees_logged {tenantId : String} (admitted : origin.Admitted settings tenantId)
    {operation : Server α} {exchange : ServerError → ServerError} {result : α → Past → Prop}
    (runs : Sees settings origin Anything past operation result) :
    Sees settings origin Anything past
      (tryCatch operation fun error => do
        log
        throw (exchange error))
      result :=
  .tryCatch runs fun _ _ _ _ =>
    (sees_log admitted fun _ => trivial).bind fun _ _ _ _ => .throw trivial

theorem sees_readTaskStatus {tenantId taskId : String}
    (admitted : origin.Admitted settings tenantId)
    (may : MayLook settings tenantId origin taskId) :
    Sees settings origin Anything past (readTaskStatus settings taskId tenantId)
      fun _ _ => True := by
  have outside : ∀ error, Anything (.raised error) := fun _ => trivial
  have accessible : Sees settings origin Anything past
      (TaskOwnershipStore.unlessNotFound
        (do
          TaskOwnershipStore.requireOwner settings taskId tenantId
          return true)
        (return false))
      fun found later => found = true →
        later.Owns (TaskOwnershipStore.key settings taskId) tenantId := by
    refine sees_unlessNotFound ?_ fun _ _ => .pure (by simp)
    exact (sees_requireOwner admitted outside trivial (.inr may)).bind fun _ _ _ owns =>
      .pure fun _ => owns
  refine sees_logged admitted (accessible.bind fun found looked _ owns => ?_)
  refine (sees_log admitted outside).bind fun _ logged grown _ => ?_
  refine .ite (fun yes => ?_) fun _ => .pure trivial
  refine (sees_taskState admitted outside ⟨(owns yes).mono grown, may⟩).bind fun _ _ _ _ => ?_
  exact (sees_log admitted outside).bind fun _ _ _ _ => .pure trivial

section Attempts

variable {worker : Agent.Settings} {message : Message} {job : AgentRunJob}
  (admitted : (Origin.worker worker message).Admitted settings job.tenantId)

include admitted

theorem sees_getAgentTaskStatus {arguments : Dict} :
    Sees settings (.worker worker message) Anything past
      (getAgentTaskStatus settings (workerContext settings job) arguments) fun _ _ => True := by
  refine (sees_raising fun _ => trivial).bind fun taskId later _ _ => ?_
  have looks : Sees settings (.worker worker message) Anything later
      (executor.execute (workerContext settings job) "agent_task.read"
        (readTaskStatus settings taskId.value job.tenantId)) fun _ _ => True :=
    sees_execute admitted (fun _ => trivial) trivial fun granted _ _ =>
      sees_readTaskStatus admitted (.tool granted)
  exact looks.bind fun _ _ _ _ => .pure trivial

theorem obeys_answerRequest (request : Agent.Request) {later : Past} (grown : past ≤ later)
    (owned : request.OwnedBy job.tenantId) :
    (monitor settings (.worker worker message)).Obeys
      (fun reply last => Agent.HandsOut ⟨request, reply⟩ ∧ past ≤ last)
      (answerRequest settings (workerContext settings job) request) later := by
  have passed : (monitor settings (.worker worker message)).Obeys
      (fun reply last => Agent.HandsOut ⟨request, reply⟩ ∧ past ≤ last)
      (.ask (.attempt request) .done : Program Answer (Agent.Reply request)) later :=
    ⟨⟨job.tenantId, admitted, ⟨worker, message, rfl⟩, owned⟩, fun reply handsOut =>
      ⟨handsOut, le_trans grown (Past.le_learn later _ reply)⟩⟩
  cases request with
  | handle tool arguments remaining =>
      show Monitor.Obeys _ _ (if tool = "get_agent_task_status" then _ else _) later
      split
      · refine Monitor.obeys_bind.mpr (Monitor.Obeys.mono
          ((sees_getAgentTaskStatus admitted).keeps ()) ?_)
        rintro ⟨outcome, state⟩ last ends
        cases outcome <;> exact ⟨trivial, le_trans grown ends.1⟩
      · exact passed
  | _ => exact passed

/-- The delivery inside stays with its tenant, as its claims do. -/
theorem sees_executeAgentJob :
    Sees settings (.worker worker message) Anything past
      (executeAgentJob settings worker job) fun _ _ => True := by
  refine ⟨fun state => ?_⟩
  have follows := Agent.delivery_owns worker job
  refine Monitor.obeys_bind.mpr (Monitor.Obeys.mono (Monitor.obeys_follows
    (fun sound later => sound ∧ past ≤ later) ?_ follows ⟨trivial, le_refl past⟩) ?_)
  · rintro request sound later ⟨holds, grown⟩ asks
    obtain ⟨reply⟩ := Agent.reply_nonempty request
    obtain ⟨_, owned, _⟩ := asks reply
    refine (obeys_answerRequest admitted request grown (owned holds)).mono ?_
    rintro reply last ⟨handsOut, kept⟩ _ ⟨_, rfl⟩
    exact ⟨⟨holds, handsOut⟩, kept⟩
  · rintro ⟨outcome, last⟩ later ⟨_, _, _, grown⟩
    cases outcome <;> exact ⟨grown, trivial⟩

theorem sees_runRegistered :
    Sees settings (.worker worker message) Anything past
      (runRegistered settings worker job) fun _ _ => True := by
  have logs : ∀ past, Sees settings (.worker worker message) Anything past log fun _ _ => True :=
    fun _ => sees_log admitted fun _ => trivial
  refine (logs past).bind fun _ _ _ _ => ?_
  refine sees_logged admitted ((sees_executeAgentJob admitted).bind fun _ later _ _ => ?_)
  exact (logs later).bind fun _ _ _ _ => .pure trivial

end Attempts

theorem sees_runAgent {worker : Agent.Settings} {message : Message} :
    Sees settings (.worker worker message) Anything past (runAgent settings worker message)
      fun _ _ => True := by
  refine (sees_raising fun _ => trivial).bind ?_
  rintro job _ - ⟨valid, rfl⟩
  refine (sees_raiseIf trivial).bind ?_
  rintro - _ - ⟨named, rfl⟩
  refine (sees_tenantQueue fun _ => trivial).bind ?_
  rintro queue _ - ⟨rfl, queued⟩
  refine (sees_raiseIf trivial).bind ?_
  rintro - _ - ⟨routed, rfl⟩
  exact sees_runRegistered (.worker (validated_ok.mp valid) rfl (not_not.mp named)
    ((not_not.mp routed).trans queued.symm))

theorem sees_renew {store : SQLiteRunStore} {lease : Lease} {total : Nat} (beats : Nat) :
    Sees settings (.heartbeat store lease total) Anything past (renew lease beats)
      fun _ _ => True := by
  induction beats generalizing past with
  | zero => exact .pure trivial
  | succ beats induction =>
      have admitted : (Origin.heartbeat store lease total).Admitted settings lease.tenant :=
        .heartbeat rfl
      refine (sees_call admitted (fun _ => trivial) (.beat rfl)).bind fun reply _ _ _ => ?_
      cases reply with
      | remaining remaining => exact .ite (fun _ => .pure trivial) fun _ => induction
      | _ => exact .pure trivial

end Programs

theorem handle_obeys {settings : ServiceSettings} (origin : Origin) :
    (monitor settings origin).Obeys (fun value past => Ends settings past origin value.1)
      (handle settings origin) .nothing := by
  cases origin with
  | http request =>
      exact sees_serve.obeys () (fun _ _ _ served => served) fun _ _ _ raised => raised
  | worker worker message =>
      exact sees_runAgent.obeys () (fun _ _ _ _ => trivial) fun _ _ _ _ => trivial
  | heartbeat store lease beats =>
      exact (sees_renew beats).obeys () (fun _ _ _ _ => trivial) fun _ _ _ _ => trivial

end Crewos.AgentService

import Crewos.Api.DocumentSessions

/-! # Complete mediation

Every program of the document service keeps to the discipline: it asks for
nothing before its tenant is known, and for no transaction without the grant the
transaction needs. -/

namespace Crewos.DocumentService

open Foundation Documents Api

theorem knownAnswer_public {error : ServerError} {exception : HttpException}
    (contained : Contained error) (known : knownAnswer error = some exception) :
    exception ∈ publicAnswers := by
  unfold knownAnswer at known
  split at known
  case h_15 => exact Option.some.inj known ▸ contained _ rfl
  case h_16 => cases known
  all_goals
    cases known
    simp [publicAnswers]

/-! ## One request at a time -/

section Asking

variable {settings : TenantSettings} {tenantId : String} {origin : Origin} {known : Known}
  {raises : ServerError → Prop} {result : α → Known → Prop}

abbrev Sees (settings : TenantSettings) (origin : Origin) (raises : ServerError → Prop)
    (known : Known) (computation : Server α) (result : α → Known → Prop) : Prop :=
  Exec.Learns (monitor settings origin) raises known computation result

theorem ServerError.Outside.contained {error : ServerError} (outside : error.Outside) :
    Contained error := by
  rintro exception rfl
  simp [ServerError.Outside] at outside

theorem contained_raised (raised : Raised) : Contained (.raised raised) := by
  intro exception same
  cases same

theorem Admits.contained {method : StoreMethod} {reply : Except ServerError Documents.Reply}
    (admits : Admits (.call method) reply) {error : ServerError} (raised : reply = .error error) :
    Contained error := by
  rcases admits.2 error raised with outside | ⟨error, rfl⟩
  · exact outside.contained
  · exact contained_raised _

theorem sees_attempt (request : Ask) {β : Type} (outcome : Answer request → Except ServerError β)
    (admitted : origin.Admitted settings tenantId)
    (permitted : Permits settings tenantId origin known request)
    (quiet : ∀ reply, advance known request reply = known)
    (attempted : ∀ reply, Admits request reply → Attempted (outcome reply))
    (outside : ∀ error, error.Outside → raises error) :
    Sees settings origin raises known (do Exec.ofExcept (outcome (← ask request)))
      fun _ later => later = known := by
  have asked : Sees settings origin raises known (ask request)
      fun reply later => later = known ∧ Admits request reply :=
    .ask ⟨tenantId, admitted, permitted⟩ (fun reply => le_of_eq (quiet reply).symm)
      fun reply admits => ⟨quiet reply, admits⟩
  refine asked.bind ?_
  rintro reply _ - ⟨rfl, admits⟩
  exact .ofExcept (fun _ _ => rfl) fun error raised =>
    outside error (attempted reply admits error raised)

variable (admitted : origin.Admitted settings tenantId)
  (outside : ∀ error, error.Outside → raises error)

include admitted outside

theorem sees_log : Sees settings origin raises known log fun _ later => later = known :=
  sees_attempt .log (fun logged : Except ServerError Unit => logged) admitted trivial
    (fun _ => rfl) (fun _ admits => admits) outside

theorem sees_openStore : Sees settings origin raises known openStore
    fun _ later => later = known :=
  sees_attempt .getDocumentStore (fun opened : Except ServerError Unit => opened) admitted
    trivial (fun _ => rfl) (fun _ admits => admits) outside

theorem sees_now : Sees settings origin raises known now fun _ later => later = known :=
  sees_attempt .now (fun instant : Except ServerError Int => instant) admitted trivial
    (fun _ => rfl) (fun _ admits => admits) outside

theorem sees_applyAsync {job : DocumentJob} {queue : String} (receipt : job ∈ known.jobs)
    (queued : settings.tenantQueue tenantId = some queue) :
    Sees settings origin raises known (applyAsync job.jobId tenantId queue)
      fun _ later => later = known :=
  sees_attempt (.applyAsync job.jobId tenantId queue)
    (fun sent : Except ServerError Unit => sent) admitted ⟨rfl, queued, job, receipt, rfl⟩
    (fun _ => rfl) (fun _ admits => admits) outside

omit outside

theorem sees_call {method : StoreMethod}
    (authorised : Authorised settings tenantId origin known method) :
    Sees settings origin Contained known (call method)
      fun reply later => later = known.learn method (.ok reply) ∧ Describes method reply := by
  have asked : Sees settings origin Contained known (ask (.call method))
      fun reply later => later = known.learn method reply ∧ Admits (.call method) reply :=
    .ask ⟨tenantId, admitted, authorised⟩ (fun reply => Known.le_learn known method reply)
      fun reply admits => ⟨rfl, admits⟩
  refine asked.bind ?_
  rintro reply _ - ⟨rfl, admits⟩
  refine .ofExcept (fun answer returned => ?_) fun error raised => admits.contained raised
  exact ⟨congrArg (known.learn method) returned, admits.1 answer returned⟩

/-! ## The store -/

theorem sees_jobOf {method : StoreMethod} {jobId : String}
    (authorised : Authorised settings tenantId origin known method)
    (about : method.jobId = some jobId) (tenant : method.tenant = tenantId) :
    Sees settings origin Contained known
      (do Exec.ofExcept (SQLiteStore.jobOf (← call method)))
      fun job later => Receipt later method tenantId jobId job := by
  refine (sees_call admitted authorised).bind ?_
  rintro reply _ - ⟨rfl, describes⟩
  refine .ofExcept (fun job returned => ?_) fun error raised => ?_
  · cases reply <;> cases returned
    exact
      { received := by simp [Known.learn, receiptsOf]
        tenant := describes.1.trans tenant
        about := (Option.some.inj (about.symm.trans describes.2)).symm
        told := by simp [Known.learn] }
  · cases reply <;> cases raised <;> exact contained_raised _

theorem sees_getJob {jobId : String}
    (authorised : Authorised settings tenantId origin known (.getJob jobId tenantId)) :
    Sees settings origin Contained known (SQLiteStore.getJob jobId tenantId)
      fun job later => Receipt later (.getJob jobId tenantId) tenantId jobId job :=
  sees_jobOf admitted authorised rfl rfl

theorem sees_retryJob {jobId : String}
    (authorised : Authorised settings tenantId origin known (.retryJob jobId tenantId)) :
    Sees settings origin Contained known (SQLiteStore.retryJob jobId tenantId)
      fun job later => Receipt later (.retryJob jobId tenantId) tenantId jobId job :=
  sees_jobOf admitted authorised rfl rfl

theorem sees_submitJob {request : DocumentRequest} {operation : JobOperation}
    {key : String}
    (authorised : Authorised settings tenantId origin known
      (.submitJob tenantId request operation DocumentSubmissionFacade.options key)) :
    Sees settings origin Contained known
      (SQLiteStore.submitJob tenantId request operation DocumentSubmissionFacade.options key)
      fun submission later => Registered later tenantId request operation key submission := by
  refine (sees_call admitted authorised).bind ?_
  rintro reply _ - ⟨rfl, describes⟩
  refine .ofExcept (fun submission returned => ?_) fun error raised => ?_
  · cases reply <;> cases returned
    exact
      { received := by simp [Known.learn, receiptsOf]
        tenant := describes
        told := by simp [Known.learn] }
  · cases reply <;> cases raised <;> exact contained_raised _

theorem sees_claimJob {jobId : String}
    (authorised : Authorised settings tenantId origin known (.claimJob jobId tenantId)) :
    Sees settings origin Contained known (SQLiteStore.claimJob jobId tenantId)
      fun taken later => ∀ claim, taken = some claim →
        claim ∈ later.claims ∧ claim.job.tenantId = tenantId := by
  refine (sees_call admitted authorised).bind ?_
  rintro reply _ - ⟨rfl, describes⟩
  refine .ofExcept (fun taken returned => ?_) fun error raised => ?_
  · cases reply <;> cases returned
    rintro claim rfl
    exact ⟨by simp [Known.learn, claimsOf], describes⟩
  · cases reply <;> cases raised <;> exact contained_raised _

theorem sees_recordOf {method : StoreMethod}
    (authorised : Authorised settings tenantId origin known method)
    (tenant : method.tenant = tenantId) :
    Sees settings origin Contained known
      (do Exec.ofExcept (SQLiteStore.recordOf (← call method)))
      fun record later => record.tenantId = tenantId ∧
        (method, .record record) ∈ later.answered := by
  refine (sees_call admitted authorised).bind ?_
  rintro reply _ - ⟨rfl, describes⟩
  refine .ofExcept (fun record returned => ?_) fun error raised => ?_
  · cases reply <;> cases returned
    exact ⟨Eq.trans describes tenant, by simp [Known.learn]⟩
  · cases reply <;> cases raised <;> exact contained_raised _

theorem sees_nothing {method : StoreMethod}
    (authorised : Authorised settings tenantId origin known method) :
    Sees settings origin Contained known (do let _ ← call method)
      fun _ later => ∃ reply, (method, reply) ∈ later.answered := by
  refine (sees_call admitted authorised).bind ?_
  rintro reply _ - ⟨rfl, _⟩
  exact .pure ⟨reply, by simp [Known.learn]⟩

/-! ## Wrappers -/

omit admitted

theorem sees_catchException {caught : ServerError → Prop} {computation : Server α}
    {handler : ServerError → Server α}
    (tried : Sees settings origin caught known computation result)
    (rethrown : ∀ error, caught error → error.isException = false → raises error)
    (handles : ∀ error later, known ≤ later → caught error →
      Sees settings origin raises later (handler error) result) :
    Sees settings origin raises known (catchException computation handler) result := by
  refine Exec.Learns.tryCatch tried fun error later grown raised => .ite ?_ fun escapes => ?_
  · exact fun _ => handles error later grown raised
  · exact .throw (rethrown error raised (Bool.eq_false_iff.mpr escapes))

include admitted

theorem sees_recordLifecycle {operation : Server α}
    (runs : ∀ later, known ≤ later → Sees settings origin Contained later operation result) :
    Sees settings origin Contained known (recordLifecycle operation) result := by
  have logs : ∀ known, Sees settings origin Contained known log fun _ later => later = known :=
    fun _ => sees_log admitted fun _ => ServerError.Outside.contained
  refine (logs known).bind fun _ later grown _ => ?_
  refine Exec.Learns.bind (sees_catchException (runs later grown) (fun _ raised _ => raised) ?_) ?_
  · exact fun error later _ raised => (logs later).bind fun _ _ _ _ => .throw raised
  · rintro saved later - holds
    refine (logs later).bind ?_
    rintro _ _ - rfl
    exact .pure holds

theorem sees_execute {action : String} {context : ToolExecutionContext} {operation : Server α}
    (grants : context.permissions = settings.serverGrants tenantId)
    (allowed : settings.Grants tenantId action → ∀ later, known ≤ later →
      Sees settings origin Contained later operation result) :
    Sees settings origin Contained known (executor.execute context action operation) result := by
  refine PolicyEnforcedExecutor.learns_execute (fun _ _ => rfl) ?_ ?_ ?_
  · exact Exec.Learns.mono (sees_log admitted fun _ => ServerError.Outside.contained)
      fun _ _ _ _ => trivial
  · exact fun _ => contained_raised _
  · intro granted
    rw [grants] at granted
    exact allowed granted

theorem sees_documentCall {operation : Server α}
    (runs : Sees settings origin Contained known operation result) :
    Sees settings origin Public known (documentCall operation) result := by
  refine sees_catchException runs ?_ fun error later _ contained => ?_
  · intro error contained escapes
    cases error with
    | raised raised =>
        cases raised <;> simp only [ServerError.isException, Raised.isException,
          reduceCtorEq] at escapes
        exact .inl (by simp [ServerError.Outside])
    | _ => cases escapes
  · cases known : knownAnswer error with
    | some exception => exact .throw (.inr ⟨exception, knownAnswer_public contained known, rfl⟩)
    | none =>
        refine (sees_log admitted fun _ => .inl).bind fun _ _ _ _ => .throw (.inr ⟨_, ?_, rfl⟩)
        simp [publicAnswers]

end Asking

/-! ## Processing -/

theorem Due.mono {known later : Known} {origin : Origin} {jobId : String}
    (due : Due known origin jobId) (grown : known ≤ later) : Due later origin jobId := by
  cases due with
  | delivered valid => exact .delivered valid
  | submitted receipt => exact .submitted (grown.1 receipt)

section Programs

variable {settings : TenantSettings} {tenantId : String} {origin : Origin} {known : Known}
  (admitted : origin.Admitted settings tenantId)

include admitted

theorem sees_prepareAndStore {claim : DocumentJobClaim} {request : DocumentIngestionRequest}
    {documentId : Uuid4} {version : Nat} (held : claim ∈ known.claims)
    (tenant : claim.job.tenantId = tenantId)
    (granted : settings.Grants tenantId ("document." ++ claim.job.operation.text))
    (processes : ∀ createdAt prepared record,
      prepareSource request claim.options createdAt = .ok prepared →
      DocumentProcessingCoordinator.prepareAndStore prepared tenantId documentId version =
        .ok record → Processes claim record) :
    Sees settings origin Contained known
      (ClaimedFacade.prepareAndStore claim request tenantId documentId version)
      fun _ _ => True := by
  refine (sees_now admitted fun _ => ServerError.Outside.contained).bind ?_
  rintro createdAt known - rfl
  have prepares : Sees settings origin Contained known
      (Exec.ofExcept ((prepareSource request claim.options createdAt).mapError .raised))
      fun prepared later => later = known ∧
        prepareSource request claim.options createdAt = .ok prepared := by
    cases prepareSource request claim.options createdAt with
    | ok prepared => exact .pure ⟨rfl, rfl⟩
    | error error => exact .throw (contained_raised _)
  refine prepares.bind ?_
  rintro prepared _ - ⟨rfl, ready⟩
  cases assembled : DocumentProcessingCoordinator.prepareAndStore prepared tenantId documentId
      version with
  | error error => exact (Exec.Learns.throw (contained_raised _)).bind fun _ _ _ ends => ends
  | ok record =>
      have done := processes createdAt prepared record ready assembled
      exact (sees_recordOf admitted (.commit held tenant granted done) tenant).mono
        fun _ _ _ _ => trivial

theorem sees_process {claim : DocumentJobClaim} (held : claim ∈ known.claims)
    (tenant : claim.job.tenantId = tenantId)
    (granted : settings.Grants tenantId ("document." ++ claim.job.operation.text)) :
    Sees settings origin Contained known (ClaimedFacade.process claim tenantId)
      fun _ _ => True := by
  cases requested : claim.request with
  | update request =>
      rw [ClaimedFacade.process, requested]
      exact .throw (contained_raised _)
  | ingestion request =>
      rw [ClaimedFacade.process, requested]
      have drawn : Sees settings origin Contained known (ask .uuid4)
          fun _ later => later = known :=
        .ask ⟨tenantId, admitted, trivial⟩ (fun _ => le_refl _) fun _ _ => rfl
      refine drawn.bind ?_
      rintro documentId _ - rfl
      refine sees_prepareAndStore admitted held tenant granted ?_
      intro createdAt prepared record ready assembled
      refine ⟨createdAt, prepared, ?_, ?_⟩
      · rw [requested]
        exact ready
      · rw [requested, tenant]
        exact ⟨documentId, assembled⟩

theorem sees_update {claim : DocumentJobClaim} (held : claim ∈ known.claims)
    (tenant : claim.job.tenantId = tenantId)
    (updates : settings.Grants tenantId "document.update")
    (granted : settings.Grants tenantId ("document." ++ claim.job.operation.text)) :
    Sees settings origin Contained known (ClaimedFacade.update claim tenantId)
      fun _ _ => True := by
  cases requested : claim.request with
  | ingestion request =>
      rw [ClaimedFacade.update, requested]
      exact .throw (contained_raised _)
  | update request =>
      rw [ClaimedFacade.update, requested]
      have passed : ∀ {condition : Prop} [Decidable condition] {error : Raised}
          {known : Known}, Sees settings origin Contained known
            (Exec.raiseIf condition (.raised error)) fun _ later => later = known :=
        .raiseIf (fun _ => rfl) fun _ => contained_raised _
      refine passed.bind ?_
      rintro _ _ - rfl
      refine (sees_recordOf admitted (.latest held requested updates) rfl).bind ?_
      intro latest later grown _
      refine passed.bind ?_
      rintro _ _ - rfl
      refine sees_prepareAndStore admitted (Known.le_claims grown held) tenant granted ?_
      intro createdAt prepared record ready assembled
      refine ⟨createdAt, prepared, ?_, ?_⟩
      · rw [requested]
        exact ready
      · rw [requested, tenant]
        exact assembled

theorem sees_ingestOrUpdate {claim : DocumentJobClaim} {context : ToolExecutionContext}
    (held : claim ∈ known.claims) (tenant : claim.job.tenantId = context.tenantId)
    (same : context.tenantId = tenantId)
    (grants : context.permissions = settings.serverGrants tenantId) :
    Sees settings origin Contained known (ClaimedFacade.ingestOrUpdate claim context)
      fun _ _ => True := by
  subst same
  cases operation : claim.job.operation with
  | create =>
      rw [ClaimedFacade.ingestOrUpdate, operation]
      refine sees_execute admitted grants fun granted later grown =>
        sees_recordLifecycle admitted fun later more =>
          sees_process admitted (Known.le_claims (le_trans grown more) held) tenant ?_
      rw [operation]
      exact granted
  | update =>
      rw [ClaimedFacade.ingestOrUpdate, operation]
      refine sees_execute admitted grants fun granted later grown =>
        sees_recordLifecycle admitted fun later more =>
          sees_update admitted (Known.le_claims (le_trans grown more) held) tenant granted ?_
      rw [operation]
      exact granted

theorem sees_processDocumentJob {jobId : String} {context : ToolExecutionContext}
    (due : Due known origin jobId) (same : context.tenantId = tenantId)
    (grants : context.permissions = settings.serverGrants tenantId) :
    Sees settings origin Contained known (processDocumentJob jobId context)
      fun job later => Receipt later (.getJob jobId tenantId) tenantId jobId job := by
  subst same
  have reports : ∀ later, known ≤ later → Sees settings origin Contained later
      (SQLiteStore.getJob jobId context.tenantId) fun job later =>
        Receipt later (.getJob jobId context.tenantId) context.tenantId jobId job :=
    fun later grown => sees_getJob admitted (.observe (due.mono grown))
  refine (sees_claimJob admitted (.claim due)).bind fun taken later grown holds => ?_
  cases taken with
  | none => exact reports later grown
  | some claim =>
      obtain ⟨held, tenant⟩ := holds claim rfl
      have tried : Sees settings origin Contained later
          (do let _ ← ClaimedFacade.ingestOrUpdate claim context) fun _ _ => True :=
        (sees_ingestOrUpdate admitted held tenant rfl grants).bind fun _ _ _ _ => .pure trivial
      refine Exec.Learns.bind (sees_catchException tried (fun _ raised _ => raised) ?_) ?_
      · intro error last more _
        exact (sees_nothing admitted (.fail (Known.le_claims more held) tenant)).mono
          fun _ _ _ _ => trivial
      · exact fun _ last more _ => reports last (le_trans grown more)

theorem sees_executeDocumentJob {jobId : String} (due : Due known origin jobId) :
    Sees settings origin Contained known (executeDocumentJob settings jobId tenantId)
      fun job later => Receipt later (.getJob jobId tenantId) tenantId jobId job := by
  unfold executeDocumentJob
  split
  · rename_i pattern
    refine (sees_openStore admitted fun _ => ServerError.Outside.contained).bind ?_
    rintro _ _ - rfl
    refine (sees_processDocumentJob admitted due rfl rfl).bind fun job later _ shown => ?_
    refine (sees_log admitted fun _ => ServerError.Outside.contained).bind ?_
    rintro _ _ - rfl
    exact .pure shown
  · exact .throw (contained_raised _)

/-! ## Submissions -/

theorem sees_publishJob {job : DocumentJob} (receipt : job ∈ known.jobs)
    (tenant : job.tenantId = tenantId) :
    Sees settings origin Contained known (publishJob settings job) fun _ _ => True := by
  refine .ite (fun _ => ?_) fun _ => .pure trivial
  refine sees_catchException ?_ (fun _ raised _ => raised) fun error later _ _ => ?_
  · rw [tenant]
    cases queued : settings.tenantQueue tenantId with
    | none => exact (Exec.Learns.throw (contained_raised _)).bind fun _ _ _ ends => ends
    | some queue =>
        refine (sees_applyAsync admitted (fun _ => ServerError.Outside.contained) receipt
          queued).bind ?_
        rintro _ _ - rfl
        refine (sees_nothing admitted (.published receipt)).bind fun _ later _ _ => ?_
        exact (sees_log admitted fun _ => ServerError.Outside.contained).mono
          fun _ _ _ _ => trivial
  · refine (sees_log admitted fun _ => ServerError.Outside.contained).bind
      fun _ _ _ _ => .throw ?_
    rintro exception same
    cases same
    simp [publicAnswers]

omit admitted in
theorem sees_performSubmission {request : HttpRequest} {submission : DocumentJob × Bool}
    {background : Bool} {payload : DocumentInput} {operation : JobOperation} {key : String}
    {made : DocumentRequest} (admitted : (Origin.http request).Admitted settings tenantId)
    (submitted : Submission payload request.route operation made key)
    (registered : Registered known tenantId made operation key submission)
    (chosen : request.route.background = background) :
    Sees settings (.http request) Contained known
      (performSubmission settings submission background)
      fun response later => response.Of tenantId later request.route := by
  unfold performSubmission
  rw [registered.tenant]
  have answers : ∀ {job later}, known ≤ later →
      Receipt later (.getJob submission.1.jobId.text tenantId) tenantId submission.1.jobId.text
        job →
      (Response.submission (statusOf job background) job submission.2).Of tenantId later
        request.route :=
    fun grown shown => ⟨shown.tenant, payload, operation, made, key, submission.1, submitted,
      Known.le_answered grown registered.told, shown.told, by rw [chosen]⟩
  cases background with
  | true =>
      refine (sees_publishJob admitted registered.received registered.tenant).bind
        fun _ later grown _ => ?_
      refine (sees_getJob admitted (.report (grown.1 registered.received))).bind ?_
      exact fun job last more shown => .pure (answers (le_trans grown more) shown)
  | false =>
      refine (sees_executeDocumentJob admitted (.submitted registered.received)).bind ?_
      exact fun job later grown shown => .pure (answers grown shown)

/-! ## Routes -/

omit admitted in
theorem sees_validated {parameter : Option α} :
    Sees settings origin Public known (validated parameter)
      fun value _ => parameter = some value := by
  cases parameter with
  | none => exact .throw (.inr ⟨_, by simp [publicAnswers], rfl⟩)
  | some value => exact .pure rfl

theorem sees_submit {request : DocumentRequest} {context : ToolExecutionContext} {key : String}
    {operation : JobOperation} {payload : DocumentInput} {route : Route}
    (same : context.tenantId = tenantId)
    (grants : context.permissions = settings.serverGrants tenantId)
    (routed : origin.route = some route)
    (submission : Submission payload route operation request key) :
    Sees settings origin Contained known
      (DocumentSubmissionFacade.submit request context key operation)
      fun submission later => Registered later tenantId request operation key submission := by
  subst same
  refine sees_execute admitted grants fun granted later _ => ?_
  refine (sees_submitJob admitted (.submit routed submission granted)).bind ?_
  intro submission later _ shown
  refine (sees_log admitted fun _ => ServerError.Outside.contained).bind ?_
  rintro _ _ - rfl
  exact .pure shown

theorem sees_retry {context : ToolExecutionContext} {jobId : String} {id : Uuid4}
    (same : context.tenantId = tenantId)
    (grants : context.permissions = settings.serverGrants tenantId)
    (routed : origin.route = some (.retryDocumentJob jobId))
    (parsed : Uuid4.parse jobId = some id) :
    Sees settings origin Contained known (DocumentSubmissionFacade.retry id.text context)
      fun job later => Receipt later (.retryJob id.text tenantId) tenantId id.text job := by
  subst same
  refine sees_execute admitted grants fun granted later _ => ?_
  refine (sees_getJob admitted (.retrying routed parsed granted)).bind ?_
  intro job later _ shown
  cases Uuid4.ext_text shown.about
  refine sees_execute admitted grants fun allowed last grown => ?_
  exact sees_retryJob admitted (.retry routed parsed granted (grown.1 shown.received) allowed)

end Programs

section Routes

variable {settings : TenantSettings} {tenantId : String} {request : HttpRequest} {known : Known}
  {context : ToolExecutionContext} (admitted : (Origin.http request).Admitted settings tenantId)
  (same : context.tenantId = tenantId)
  (grants : context.permissions = settings.serverGrants tenantId)

include admitted same grants

theorem sees_submission {payload : DocumentInput} {operation : JobOperation} {key : String}
    {made : DocumentRequest} {background : Bool}
    (submission : Submission payload request.route operation made key)
    (chosen : request.route.background = background) :
    Sees settings (.http request) Contained known
      (do
        let submission ← DocumentSubmissionFacade.submit made context key operation
        performSubmission settings submission background)
      fun response later => response.Of tenantId later request.route :=
  (sees_submit admitted same grants rfl submission).bind fun _ _ _ registered =>
    sees_performSubmission admitted submission registered chosen

theorem sees_createDocument {body : DocumentInput} {background : Bool} {key : String}
    (taken : request.route = .createDocument body background key) :
    Sees settings (.http request) Public known
      (route settings context (.createDocument body background key))
      fun response later => response.Of tenantId later request.route := by
  rw [route]
  refine Exec.Learns.bind sees_validated fun payload later _ body => ?_
  refine sees_documentCall admitted ?_
  cases made : createRequest payload with
  | error error => exact (Exec.Learns.throw (contained_raised _)).bind fun _ _ _ ends => ends
  | ok _ =>
      exact sees_submission admitted same grants (by rw [taken]; exact .create body made)
        (by rw [taken]; rfl)

theorem sees_updateDocument {documentId : String} {body : DocumentInput} {expectedVersion : Int}
    {background : Bool} {key : String}
    (taken : request.route = .updateDocument documentId body expectedVersion background key) :
    Sees settings (.http request) Public known
      (route settings context (.updateDocument documentId body expectedVersion background key))
      fun response later => response.Of tenantId later request.route := by
  rw [route]
  refine Exec.Learns.bind sees_validated fun id later _ parsed => ?_
  refine Exec.Learns.bind sees_validated fun payload later _ body => ?_
  have checked : Sees settings (.http request) Public later
      (Exec.raiseIf (expectedVersion < 1) invalidRequest) fun _ _ => True :=
    .raiseIf (fun _ => trivial) fun _ => .inr ⟨_, by simp [publicAnswers], rfl⟩
  refine checked.bind fun _ later _ _ => sees_documentCall admitted ?_
  have random : Sees settings (.http request) Contained later
      (Exec.raiseIf (id.rfcVariant = false) .validationError) fun _ _ => True :=
    .raiseIf (fun _ => trivial) fun _ => contained_raised _
  refine random.bind fun _ later _ _ => ?_
  cases made : updateRequest payload id expectedVersion.toNat with
  | error error => exact (Exec.Learns.throw (contained_raised _)).bind fun _ _ _ ends => ends
  | ok _ =>
      exact sees_submission admitted same grants (by rw [taken]; exact .update body parsed made)
        (by rw [taken]; rfl)

theorem sees_documentJob {jobId : String} (taken : request.route = .documentJob jobId) :
    Sees settings (.http request) Public known (route settings context (.documentJob jobId))
      fun response later => response.Of tenantId later request.route := by
  rw [route]
  refine Exec.Learns.bind sees_validated fun id known _ parsed => ?_
  refine sees_documentCall admitted ?_
  have shows : Sees settings (.http request) Contained known
      (DocumentSubmissionFacade.status id.text context)
      fun job later => Receipt later (.getJob id.text tenantId) tenantId id.text job := by
    refine sees_execute admitted grants fun granted later _ => ?_
    rw [same]
    exact sees_getJob admitted (.status (congrArg some taken) parsed granted)
  exact shows.bind fun _ _ _ shown =>
    .pure ⟨shown.tenant, jobId, id, .inl taken, parsed, shown.told⟩

theorem sees_retryDocumentJob {jobId : String} (taken : request.route = .retryDocumentJob jobId) :
    Sees settings (.http request) Public known (route settings context (.retryDocumentJob jobId))
      fun response later => response.Of tenantId later request.route := by
  rw [route]
  refine Exec.Learns.bind sees_validated fun id later _ parsed => ?_
  refine sees_documentCall admitted ?_
  refine (sees_retry admitted same grants (congrArg some taken) parsed).bind ?_
  intro job later _ shown
  refine (sees_publishJob admitted shown.received shown.tenant).bind fun _ last grown _ => ?_
  cases Uuid4.ext_text shown.about
  rw [same]
  exact (sees_getJob admitted (.report (grown.1 shown.received))).bind fun _ _ _ told =>
    .pure ⟨told.tenant, jobId, job.jobId, .inr taken, parsed, told.told⟩

theorem sees_readDocument {documentId : String} {version : Option Int}
    (taken : request.route = .readDocument documentId version) :
    Sees settings (.http request) Public known
      (route settings context (.readDocument documentId version))
      fun response later => response.Of tenantId later request.route := by
  rw [route]
  refine Exec.Learns.bind sees_validated fun id known _ parsed => ?_
  refine sees_documentCall admitted ?_
  have reads : Sees settings (.http request) Contained known
      (Exec.ofExcept (readRequest id version)) fun exact_ _ => exact_ = version.map Int.toNat :=
    .ofExcept (fun exact_ returned => by
      simp only [readRequest, Outcome.bind_eq_ok, Outcome.pure_eq_ok] at returned
      obtain ⟨_, _, _, _, rfl⟩ := returned
      rfl) fun error raised => by
      simp only [readRequest, Outcome.bind_eq_error, raiseWhen_eq_error] at raised
      rcases raised with ⟨_, rfl⟩ | ⟨_, _, ⟨_, rfl⟩ | ⟨_, _, returned⟩⟩
      · exact contained_raised _
      · exact contained_raised _
      · cases returned
  refine reads.bind fun exact_ later _ wanted => ?_
  have shows : Sees settings (.http request) Contained later
      (executor.execute context "document.read"
        (recordLifecycle (SQLiteStore.get context.tenantId id exact_)))
      fun record later => record.tenantId = tenantId ∧
        (.get tenantId id exact_, .record record) ∈ later.answered := by
    refine sees_execute admitted grants fun granted last _ =>
      sees_recordLifecycle admitted fun last _ => ?_
    rw [same]
    exact sees_recordOf admitted (.read (congrArg some taken) parsed granted) rfl
  subst wanted
  exact shows.bind fun _ _ _ shown =>
    .pure ⟨shown.1, documentId, id, version, taken, parsed, shown.2⟩

theorem sees_deleteDocument {documentId : String}
    (taken : request.route = .deleteDocument documentId) :
    Sees settings (.http request) Public known
      (route settings context (.deleteDocument documentId))
      fun response later => response.Of tenantId later request.route := by
  rw [route]
  refine Exec.Learns.bind sees_validated fun id known _ parsed => ?_
  refine sees_documentCall admitted ?_
  have checked : Sees settings (.http request) Contained known
      (Exec.ofExcept (deleteRequest id)) fun _ _ => True :=
    .ofExcept (fun _ _ => trivial) fun error raised => by
      obtain ⟨_, rfl⟩ := raiseWhen_eq_error.mp raised
      exact contained_raised _
  refine checked.bind fun _ later _ _ => ?_
  have deletes : Sees settings (.http request) Contained later
      (executor.execute context "document.delete"
        (recordLifecycle (SQLiteStore.delete context.tenantId id)))
      fun _ later => ∃ reply, (.delete tenantId id, reply) ∈ later.answered := by
    refine sees_execute admitted grants fun granted last _ =>
      sees_recordLifecycle admitted fun last _ => ?_
    rw [same]
    exact sees_nothing admitted (.delete (congrArg some taken) parsed granted)
  exact deletes.bind fun _ _ _ ⟨reply, told⟩ => .pure ⟨documentId, id, reply, taken, parsed, told⟩

theorem sees_route : Sees settings (.http request) Public known
    (route settings context request.route)
      fun response later => response.Of tenantId later request.route := by
  have every : ∀ path, request.route = path → Sees settings (.http request) Public known
      (route settings context path)
        fun response later => response.Of tenantId later request.route := by
    intro path taken
    cases path with
    | createDocument => exact sees_createDocument admitted same grants taken
    | updateDocument => exact sees_updateDocument admitted same grants taken
    | documentJob => exact sees_documentJob admitted same grants taken
    | retryDocumentJob => exact sees_retryDocumentJob admitted same grants taken
    | readDocument => exact sees_readDocument admitted same grants taken
    | deleteDocument => exact sees_deleteDocument admitted same grants taken
  exact every request.route rfl

end Routes

/-! ## Whole sessions -/

variable {settings : TenantSettings}

theorem sees_serve {request : HttpRequest} {known : Known} :
    Sees settings (.http request) Public known (serve settings request) fun response later =>
      ∃ tenantId, settings.Authenticated request.tenantHeader request.credentials tenantId ∧
        response.Of tenantId later request.route := by
  unfold serve
  cases entered : settings.getToolExecutionContext request.tenantHeader request.credentials with
  | error exception =>
      refine (Exec.Learns.throw (.inr ⟨exception, ?_, rfl⟩)).bind fun _ _ _ ends => ends
      rcases TenantSettings.getToolExecutionContext_error entered with rfl | rfl <;>
        simp [publicAnswers]
  | ok context =>
      obtain ⟨authenticated, grants⟩ := TenantSettings.getToolExecutionContext_ok entered
      have admitted : (Origin.http request).Admitted settings context.tenantId :=
        .http authenticated
      have opens : Sees settings (.http request) Public known getDocumentStore fun _ _ => True :=
        sees_documentCall admitted ((sees_openStore admitted
          fun _ => ServerError.Outside.contained).mono fun _ _ _ _ => trivial)
      refine opens.bind fun _ later _ _ => ?_
      exact (sees_route admitted rfl grants).mono fun response _ _ shown =>
        ⟨context.tenantId, authenticated, shown⟩

theorem sees_runDocumentJob {message : Delivery} {known : Known} :
    Sees settings (.worker message) (fun _ => True) known (runDocumentJob settings message)
      fun response later => Ends settings later (.worker message) (.ok response) := by
  unfold runDocumentJob
  cases valid : DocumentJobDelivery.validate message.payload with
  | error error => exact (Exec.Learns.throw trivial).bind fun _ _ _ ends => ends
  | ok delivery =>
      have named : Sees settings (.worker message) (fun _ => True) known
          (Exec.raiseIf (message.requestId ≠ delivery.jobId.text) (.raised .exception))
          fun _ _ => message.requestId = delivery.jobId.text :=
        .raiseIf (fun same => not_not.mp same) fun _ => trivial
      refine named.bind fun _ later _ named => ?_
      have queued : Sees settings (.worker message) (fun _ => True) later
          (Exec.raiseIf (message.routingKey ≠ settings.tenantQueue delivery.tenantId)
            (.raised .exception))
          fun _ _ => message.routingKey = settings.tenantQueue delivery.tenantId :=
        .raiseIf (fun same => not_not.mp same) fun _ => trivial
      refine queued.bind fun _ later _ queued => ?_
      have admitted : (Origin.worker message).Admitted settings delivery.tenantId :=
        .worker valid rfl named queued
      refine Exec.Learns.bind (Exec.Learns.tryCatch
        (sees_executeDocumentJob admitted (.delivered valid)) ?_) ?_
      · intro error later _ _
        split <;> exact .throw trivial
      · intro job later _ shown
        refine .pure ⟨delivery, job, valid, admitted, shown.tenant, shown.told, ?_⟩
        rw [Uuid4.ext_text shown.about]

theorem handle_obeys (origin : Origin) :
    (monitor settings origin).Obeys (fun value known => Ends settings known origin value.1)
      (handle settings origin) .nothing := by
  cases origin with
  | http request =>
      exact sees_serve.obeys () (fun _ _ _ shown => shown) fun _ _ _ raised => raised
  | worker message =>
      exact sees_runDocumentJob.obeys () (fun _ _ _ shown => shown) fun _ _ _ _ => trivial

end Crewos.DocumentService

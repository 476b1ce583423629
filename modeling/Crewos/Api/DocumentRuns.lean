import Crewos.Api.DocumentAccess
import Crewos.Documents.StoredText

/-! # Runs of the document service

The discipline is sound for the store: what sessions of any number of tenants do
side by side is a disciplined run of the store, and every transaction in it was
authorised. -/

namespace Crewos.DocumentService

open Foundation Documents Api

/-! ## What the store replies -/

section Replies

variable {store : SQLiteDocumentStore} {db next : DocumentDb} {clock : Clock}
  {jobId tenantId : String} {drawing : Drawing}

theorem getJob_describes {job : DocumentJob}
    (ok : SQLiteDocumentStore.getJob jobId tenantId clock db = .ok (job, next)) :
    job.tenantId = tenantId ∧ job.jobId.text = jobId := by
  simp only [SQLiteDocumentStore.getJob, Outcome.bind_eq_ok, Outcome.pure_eq_ok,
    Prod.mk.injEq] at ok
  obtain ⟨row, found, rfl, _⟩ := ok
  obtain ⟨_, id, tenant⟩ := SQLiteDocumentStore.jobRow_ok found
  exact ⟨tenant, id⟩

theorem retryJob_describes {job : DocumentJob}
    (ok : store.retryJob jobId tenantId clock db = .ok (job, next)) :
    job.tenantId = tenantId ∧ job.jobId.text = jobId := by
  simp only [SQLiteDocumentStore.retryJob, Outcome.bind_eq_ok] at ok
  obtain ⟨row, found, ok⟩ := ok
  obtain ⟨_, id, tenant⟩ := SQLiteDocumentStore.jobRow_ok found
  split at ok
  · simp only [Outcome.pure_eq_ok, Prod.mk.injEq] at ok
    obtain ⟨rfl, _⟩ := ok
    exact ⟨tenant, id⟩
  · simp only [Outcome.bind_eq_ok, Outcome.pure_eq_ok, Prod.mk.injEq] at ok
    obtain ⟨_, _, _, _, again, reread, rfl, _⟩ := ok
    obtain ⟨_, id, tenant⟩ := SQLiteDocumentStore.jobRow_ok reread
    exact ⟨tenant, id⟩

theorem get_describes {documentId : Uuid4} {version : Option Nat} {record : StoredDocumentVersion}
    (ok : SQLiteDocumentStore.get tenantId documentId version db = .ok (record, next)) :
    record.tenantId = tenantId ∧ record.documentId = documentId := by
  simp only [SQLiteDocumentStore.get, Outcome.bind_eq_ok] at ok
  obtain ⟨_, _, _, _, ok⟩ := ok
  split at ok
  · rename_i row found
    simp only [Outcome.bind_eq_ok, Outcome.pure_eq_ok, Prod.mk.injEq] at ok
    obtain ⟨decoded, decodes, rfl, _⟩ := ok
    obtain ⟨_, tenant, document⟩ := DocumentDb.mem_versionsOf.mp (List.mem_of_find?_eq_some found)
    unfold SQLiteDocumentStore.decode at decodes
    split at decodes
    · cases decodes
    · simp only [Outcome.bind_eq_ok, raiseWhen_eq_ok, Outcome.pure_eq_ok] at decodes
      obtain ⟨_, same, rfl⟩ := decodes
      push Not at same
      exact ⟨same.1.trans tenant, same.2.1.trans document⟩
  · cases ok

theorem submitJob_describes {raw : RawRequest} {operation : JobOperation}
    {options : ChunkingOptions} {key : String} {documentId drawn : Uuid4} {job : DocumentJob}
    {replayed : Bool}
    (ok : store.submitJob tenantId raw operation options key documentId drawn clock db =
      .ok ((job, replayed), next)) : job.tenantId = tenantId := by
  simp only [SQLiteDocumentStore.submitJob, Outcome.bind_eq_ok] at ok
  obtain ⟨_, _, _, _, _, _, ok⟩ := ok
  split at ok
  · rename_i old found
    simp only [Outcome.bind_eq_ok, Outcome.pure_eq_ok, Prod.mk.injEq] at ok
    obtain ⟨_, _, ⟨rfl, _⟩, _⟩ := ok
    have selected := List.find?_some found
    simp only [decide_eq_true_eq] at selected
    exact selected.1
  · simp only [Outcome.bind_eq_ok, Outcome.pure_eq_ok, Prod.mk.injEq] at ok
    obtain ⟨_, _, row, found, ⟨rfl, _⟩, _⟩ := ok
    exact (SQLiteDocumentStore.jobRow_ok found).2.2

theorem claimJob_describes {token : String} {claim : DocumentJobClaim}
    (ok : store.claimJob jobId tenantId token clock db = .ok (some claim, next)) :
    claim.job.tenantId = tenantId := by
  obtain ⟨row, _, _, tenant, ⟨none_, _⟩ | ⟨_, _, none_, _⟩ | ⟨_, _, started, same, start⟩⟩ :=
    SQLiteDocumentStore.claimJob_ok ok
  · cases none_
  · cases none_
  · cases same
    simp only [SQLiteDocumentStore.startAttempt, Outcome.bind_eq_ok, Outcome.pure_eq_ok,
      Prod.mk.injEq] at start
    obtain ⟨_, _, read, found, rfl, _⟩ := start
    exact (SQLiteDocumentStore.jobRow_ok found).2.2.trans tenant

theorem perform_describes {method : StoreMethod} {reply : Documents.Reply}
    (ok : ((method.operation drawing).perform store clock db) = (.ok reply, next)) :
    Describes method reply := by
  have ran := perform_ok ok
  cases method <;> simp only [StoreMethod.operation, Operation.body, Outcome.map_eq_ok,
    Prod.mk.injEq] at ran
  case submitJob =>
    obtain ⟨⟨⟨job, replayed⟩, _⟩, submits, rfl, _⟩ := ran
    exact submitJob_describes submits
  case getJob =>
    obtain ⟨⟨job, _⟩, reads, rfl, _⟩ := ran
    exact ⟨(getJob_describes reads).1, congrArg some (getJob_describes reads).2.symm⟩
  case claimJob =>
    obtain ⟨⟨claim, _⟩, claims, rfl, _⟩ := ran
    cases claim with
    | none => trivial
    | some claim => exact claimJob_describes claims
  case commitJob =>
    obtain ⟨⟨record, _⟩, commits, rfl, _⟩ := ran
    obtain ⟨_, _, _, tenant, _⟩ := SQLiteDocumentStore.commitJob_ok commits
    exact tenant
  case failJob =>
    obtain ⟨_, _, rfl, _⟩ := ran
    trivial
  case retryJob =>
    obtain ⟨⟨job, _⟩, retries, rfl, _⟩ := ran
    exact ⟨(retryJob_describes retries).1, congrArg some (retryJob_describes retries).2.symm⟩
  case markJobPublished =>
    obtain ⟨_, _, rfl, _⟩ := ran
    trivial
  case get =>
    obtain ⟨⟨record, _⟩, reads, rfl, _⟩ := ran
    exact (get_describes reads).1
  case delete =>
    obtain ⟨_, _, rfl, _⟩ := ran
    trivial

end Replies

/-! ## Soundness -/

section Soundness

variable {settings : TenantSettings} {store : SQLiteDocumentStore} {origin : Origin}
  {state next : ServerState} {known : Known}

theorem Authorised.permitted {tenantId : String} {method : StoreMethod} {drawing : Drawing}
    (authorised : Authorised settings tenantId origin known method) (fresh : drawing.Fresh state) :
    Permitted state.trace (method.operation drawing) := by
  cases authorised with
  | submit routed submission granted =>
      cases submission with
      | create => exact .submitCreate fresh.documentId
      | update => exact .submitUpdate
  | status | retrying | report | observe => exact .getJob
  | retry => exact .retryJob
  | published => exact .markJobPublished
  | claim => exact .claimJob
  | latest | read => exact .get
  | commit => exact .commitJob
  | fail => exact .failJob
  | delete => exact .delete

theorem Authorised.presented {tenantId : String} {method : StoreMethod} {drawing : Drawing}
    (authorised : Authorised settings tenantId origin known method) {claim : DocumentJobClaim}
    (presents : (method.operation drawing).presented = some claim) : claim ∈ known.claims := by
  cases authorised with
  | commit held => cases presents; exact held
  | fail held => cases presents; exact held
  | _ => cases presents

theorem Shared.perform (shared : Shared settings store state) {tenantId : String}
    {method : StoreMethod} {drawing : Drawing} {clock : Clock}
    (admitted : origin.Admitted settings tenantId)
    (authorised : Authorised settings tenantId origin known method) (fresh : drawing.Fresh state)
    (knows : ∀ claim ∈ known.claims, claim ∈ state.documents.issued) :
    Shared settings store (state.perform origin (method.call store drawing clock)) := by
  obtain ⟨first, initial, run⟩ := shared.run
  have step := Documents.Step.of_call state.documents (method.call store drawing clock)
    fun claim presents => knows claim (authorised.presented presents)
  refine ⟨⟨first, initial, ?_⟩, ?_, fun entry member => ?_⟩
  · rw [ServerState.trace_perform]
    exact run.snoc step
  · rw [ServerState.trace_perform]
    exact shared.disciplined.append (authorised.permitted fresh)
  · rcases List.mem_append.mp member with old | new
    · exact shared.vouched entry old
    · cases List.mem_singleton.mp new
      exact ⟨tenantId, known, drawing, method, clock, admitted, authorised, rfl⟩

theorem Transacts.recalls {method : StoreMethod} {reply : Except ServerError Documents.Reply}
    (transacts : Transacts store origin state method reply next) {other : Origin}
    (recalls : Recalls state other known) : Recalls next other known := by
  have performed : ∀ call, Recalls (state.perform origin call) other known := by
    refine fun call => ⟨fun claim member => List.mem_append_left _ (recalls.claims claim member),
      fun answer member => ?_⟩
    obtain ⟨entry, there, rest⟩ := recalls.answered answer member
    exact ⟨entry, List.mem_append_left _ there, rest⟩
  cases transacts with
  | before => exact recalls
  | done => exact performed _
  | after => exact performed _

theorem Transacts.admits {method : StoreMethod} {reply : Except ServerError Documents.Reply}
    (transacts : Transacts store origin state method reply next) :
    Admits (.call method) reply := by
  have failed : ∀ {error : ServerError},
      (error.Outside ∨ ∃ raised, error = .raised (.document raised)) →
      Admits (.call method) (.error error : Except ServerError Documents.Reply) := by
    intro error kind
    constructor
    · intro _ returned
      cases returned
    · intro _ raised
      cases raised
      exact kind
  cases transacts with
  | before outside => exact failed (.inl outside)
  | after fresh outside => exact failed (.inl outside)
  | @done drawing clock fresh =>
      cases answered : (Transition.of state.documents.db
          (method.call store drawing clock)).reply with
      | error error => exact failed (.inr ⟨error, rfl⟩)
      | ok answer =>
          constructor
          · intro _ returned
            cases returned
            exact perform_describes (Prod.ext answered rfl)
          · intro _ raised
            cases raised

theorem Transacts.learns {method : StoreMethod} {reply : Except ServerError Documents.Reply}
    (transacts : Transacts store origin state method reply next)
    (recalls : Recalls state origin known) :
    Recalls next origin (known.learn method reply) := by
  have kept := transacts.recalls recalls
  cases transacts with
  | before => exact kept
  | after => exact kept
  | @done drawing clock fresh =>
      cases answered : (Transition.of state.documents.db
          (method.call store drawing clock)).reply with
      | error error => exact kept
      | ok answer =>
          refine ⟨fun claim member => ?_, fun told member => ?_⟩
          · rcases List.mem_append.mp member with old | new
            · exact kept.claims claim old
            · refine List.mem_append_right _ ?_
              rcases answer with _ | _ | ⟨_ | taken⟩ | _ | _ <;>
                simp_all [claimsOf, Transition.issued]
          · rcases List.mem_append.mp member with old | new
            · exact kept.answered told old
            · cases List.mem_singleton.mp new
              exact ⟨_, List.mem_append_right _ (List.mem_singleton_self _), rfl,
                ⟨drawing, rfl⟩, answered⟩

theorem Shared.empty : Shared settings store .empty where
  run := ⟨_, ⟨rfl, rfl⟩, .nil _⟩
  disciplined := Disciplined.nil
  vouched := by simp [ServerState.empty]

/-- The discipline of the sessions is sound. -/
theorem sound (settings : TenantSettings) (store : SQLiteDocumentStore) :
    Service.Sound (service settings store) (discipline settings store) where
  obeys := handle_obeys
  begins _ _ := ⟨by simp [discipline, Known.nothing], by simp [discipline, Known.nothing]⟩
  shared := by
    rintro state origin known request reply next shared knows ⟨tenantId, admitted, permitted⟩
      answered
    cases request with
    | uuid4 => exact (show next = state from answered) ▸ shared
    | log | getDocumentStore | applyAsync | now => exact answered.1 ▸ shared
    | call method =>
        cases (show Transacts store origin state method reply next from answered) with
        | before => exact shared
        | done fresh => exact shared.perform admitted permitted fresh knows.claims
        | after fresh => exact shared.perform admitted permitted fresh knows.claims
  stable := by
    intro state origin known request reply next _ _ _ answered other others knows
    cases request with
    | uuid4 => exact (show next = state from answered) ▸ knows
    | log | getDocumentStore | applyAsync | now => exact answered.1 ▸ knows
    | call method => exact Transacts.recalls answered knows
  learns := by
    intro state origin known request reply next _ knows _ answered
    cases request with
    | uuid4 => exact ⟨trivial, (show next = state from answered) ▸ knows⟩
    | log | getDocumentStore | applyAsync | now => exact ⟨answered.2, answered.1 ▸ knows⟩
    | call method => exact ⟨Transacts.admits answered, Transacts.learns answered knows⟩

end Soundness

/-! ## One request, all the way -/

namespace Sample

def permission (action : String) (stripped : Text.strip Text.whiteSpace action = action := by
    decide +kernel) (nonempty : action ≠ "" := by decide) : Permission :=
  { value := action, stripped, nonempty }

def settings : TenantSettings where
  tenantApiKeys tenantId := if tenantId = "acme" then some "secret" else none
  tenantPermissions tenantId :=
    if tenantId = "acme" then some [permission "document.create", permission "document.read"]
    else none
  celeryQueueName := "crewai"

/-- A synchronous submission of a body that begins with a byte order mark. -/
def request : HttpRequest where
  tenantHeader := "acme"
  credentials := some "secret"
  route := .createDocument Documents.Sample.payload false "key"

def drawing (count : Nat) : Drawing :=
  if count = 0 then ⟨Documents.Sample.document, Documents.Sample.job, ""⟩
  else ⟨Documents.Sample.job, Documents.Sample.document, if count = 1 then "token" else ""⟩

def call (state : ServerState) (method : StoreMethod) : Call :=
  method.call Documents.Sample.store (drawing state.history.length) fun _ => state.history.length

def respond (request : HttpRequest) (state : ServerState) :
    (request : Ask) → Answer request × ServerState
  | .log | .getDocumentStore | .applyAsync _ _ _ =>
      ((.ok () : Except ServerError Unit), state)
  | .now => ((.ok 0 : Except ServerError Int), state)
  | .uuid4 => (Documents.Sample.document, state)
  | .call method =>
      ((Transition.of state.documents.db (call state method)).reply.mapError
          (.raised ∘ .document),
        state.perform (.http request) (call state method))

instance (drawing : Drawing) (state : ServerState) : Decidable (drawing.Fresh state) :=
  decidable_of_iff (drawing.documentId ∉ drawnIds state.trace ∧
    (∀ row ∈ state.documents.db.jobs, row.id ≠ drawing.jobId) ∧
    ∀ claim ∈ state.documents.issued, claim.token ≠ drawing.token)
    ⟨fun ⟨document, job, token⟩ => ⟨document, job, token⟩,
      fun fresh => ⟨fresh.documentId, fresh.jobId, fresh.token⟩⟩

def legal (state : ServerState) : Ask → Bool
  | .call _ => decide ((drawing state.history.length).Fresh state)
  | _ => true

theorem respond_answers (request : HttpRequest) (state : ServerState) (ask : Ask)
    (allowed : legal state ask = true) :
    answers Documents.Sample.store (.http request) state ask (respond request state ask).1
      (respond request state ask).2 := by
  cases ask with
  | uuid4 => rfl
  | log | getDocumentStore | applyAsync | now =>
      refine ⟨rfl, ?_⟩
      rintro error ⟨⟩
  | call method => exact .done (of_decide_eq_true allowed)

def served := Service.solo (respond request) legal 20 .empty (handle settings (.http request))

def session : Service.Session Answer Origin (Except ServerError Response × Unit) :=
  ⟨.http request, served.2.1, served.1⟩

def world : Service.World Answer Origin ServerState (Except ServerError Response × Unit) :=
  { state := served.2.2.1, sessions := [session] }

def isCommit : Ask → Bool
  | .call (.commitJob _ _) => true
  | _ => false

theorem of_isCommit {request : Ask} (commits : isCommit request = true) :
    ∃ claim record, request = .call (.commitJob claim record) := by
  unfold isCommit at commits
  split at commits
  · exact ⟨_, _, rfl⟩
  · cases commits

theorem served_run : Run (Service.Step (service settings Documents.Sample.store))
    (.start .empty) (.arrive (.http request) :: served.1.map (.event 0)) world :=
  (Service.solo_alone (respond_answers request) (by decide +kernel)).served []

end Sample

/-! ## Mediation -/

def knownAfter (settings : TenantSettings) (origin : Origin) (events : List (Event Answer)) :
    Known :=
  (monitor settings origin).after .nothing events

section Runs

variable {settings : TenantSettings} {store : SQLiteDocumentStore}
  {labels : List (Service.Label Answer Origin)}
  {world : Service.World Answer Origin ServerState (Except ServerError Response × Unit)}

/-- However requests and deliveries of any tenants are interleaved, whatever fails
and wherever sessions stop: a session asks for something only once its tenant is
known, and for a transaction only about its own tenant, with the grant its route or
its commit needs or for a job or claim it was handed; a request ends with data of its
tenant, one of the fixed answers or a failure of the libraries, and a delivery that
returns with the state of its job. -/
theorem document_transactions_authorised
    (run : Run (Service.Step (service settings store)) (.start .empty) labels world) :
    ∀ session ∈ world.sessions,
      (∀ before event rest, session.past = before ++ event :: rest →
        ∃ tenantId, session.origin.Admitted settings tenantId ∧
          Permits settings tenantId session.origin (knownAfter settings session.origin before)
            event.request) ∧
      (∀ outcome, session.program = .done outcome →
        Ends settings (knownAfter settings session.origin session.past) session.origin
          outcome.1) := by
  have upheld := (sound settings store).run Shared.empty run
  intro session member
  refine ⟨fun before event rest split => ?_, fun outcome ends => ?_⟩
  · exact (upheld.sessions session member).permitted before event rest split
  · exact upheld.finished member ends

open Sample in
/-- The sample committed under the grant to create, for a claim it had been handed, and
ended with the job the store had answered. -/
theorem document_transactions_authorised_served :
    (∃ before event rest tenantId claim record, served.1 = before ++ event :: rest ∧
      event.request = .call (.commitJob claim record) ∧
      (Origin.http request).Admitted Sample.settings tenantId ∧
      Authorised Sample.settings tenantId (.http request)
        (knownAfter Sample.settings (.http request) before) (.commitJob claim record)) ∧
      ∃ response, served.2.1 = .done (.ok response, ()) ∧
        Ends Sample.settings (knownAfter Sample.settings (.http request) served.1)
          (.http request) (.ok response) := by
  have kept := document_transactions_authorised served_run session (List.mem_singleton_self _)
  refine ⟨?_, ?_⟩
  · have asked : served.1.any (fun event => isCommit event.request) = true := by decide +kernel
    obtain ⟨event, happened, commits⟩ := List.any_eq_true.mp asked
    obtain ⟨claim, record, same⟩ := of_isCommit commits
    obtain ⟨before, rest, split⟩ := List.append_of_mem happened
    obtain ⟨tenantId, admitted, permitted⟩ := kept.1 before event rest split
    rw [same] at permitted
    exact ⟨before, event, rest, tenantId, claim, record, split, same, admitted, permitted⟩
  · have ended : served.2.1.value?.any (fun outcome => outcome.1.toOption.isSome) = true := by
      decide +kernel
    obtain ⟨⟨outcome, state⟩, over_, answered⟩ := (Option.any_eq_true _ _).mp ended
    cases outcome with
    | error => cases answered
    | ok response =>
        have done := Service.eq_done_of_value? over_
        exact ⟨response, done, kept.2 _ done⟩

/-- A session asked for the transaction, and what it had been answered before authorised
it. -/
def Entry.Asked (settings : TenantSettings) (store : SQLiteDocumentStore)
    (world : Service.World Answer Origin ServerState (Except ServerError Response × Unit))
    (entry : Entry) : Prop :=
  ∃ session ∈ world.sessions, session.origin = entry.origin ∧
    ∃ before event rest method drawing clock tenantId,
      session.past = before ++ event :: rest ∧ event.request = .call method ∧
        entry.transition.call = method.call store drawing clock ∧
        entry.origin.Admitted settings tenantId ∧
        Authorised settings tenantId entry.origin (knownAfter settings entry.origin before) method

def Makes (store : SQLiteDocumentStore) (made : Call) : Ask → Prop
  | .call method => ∃ drawing clock, made = method.call store drawing clock
  | _ => False

theorem asked_of_run
    (run : Run (Service.Step (service settings store)) (.start .empty) labels world) :
    world.Asked ServerState.history fun entry origin request =>
      origin = entry.origin ∧ Makes store entry.transition.call request := by
  refine run.preserves (fun _ _ _ asked step => Service.World.Asked.step asked ?_ step)
    (by simp [Service.World.Asked, Service.World.start, ServerState.empty])
  intro origin state request reply following answered entry member
  cases request with
  | call method =>
      have left : ∀ {drawing clock},
          entry ∈ (state.perform origin (method.call store drawing clock)).history →
          entry ∈ state.history ∨
            (origin = entry.origin ∧ Makes store entry.transition.call (.call method)) := by
        intro drawing clock member
        rcases List.mem_append.mp member with old | new
        · exact .inl old
        · cases List.mem_singleton.mp new
          exact .inr ⟨rfl, drawing, clock, rfl⟩
      cases (show Transacts store origin state method reply following from answered) with
      | before => exact .inl member
      | done => exact left member
      | after => exact left member
  | uuid4 => exact .inl ((show following = state from answered) ▸ member)
  | log | getDocumentStore | applyAsync | now => exact .inl (answered.1 ▸ member)

/-- The database of the service goes through a disciplined run of the store, in
which every transaction was asked for by a session that was authorised for it. -/
theorem document_service_refines_store
    (run : Run (Service.Step (service settings store)) (.start .empty) labels world) :
    (∃ first, Initial first ∧ Run Documents.Step first world.state.trace world.state.documents) ∧
      Disciplined world.state.trace ∧
      ∀ entry ∈ world.state.history, entry.Asked settings store world := by
  have upheld := (sound settings store).run Shared.empty run
  refine ⟨upheld.shared.run, upheld.shared.disciplined, fun entry member => ?_⟩
  obtain ⟨session, there, ⟨request, reply⟩, happened, same, makes⟩ :=
    asked_of_run run entry member
  obtain ⟨before, rest, split⟩ := List.append_of_mem happened
  obtain ⟨tenantId, admitted, permitted⟩ :=
    (upheld.sessions session there).permitted before _ rest split
  cases request with
  | call method =>
      obtain ⟨drawing, clock, called⟩ := makes
      rw [same] at admitted permitted
      exact ⟨session, there, same, before, _, rest, method, drawing, clock, tenantId, split, rfl,
        called, admitted, permitted⟩
  | _ => cases makes

open Sample in
theorem document_service_refines_store_served :
    Disciplined Sample.world.state.trace ∧ Sample.world.state.history.length = 4 ∧
      ∀ entry ∈ Sample.world.state.history,
        entry.Asked Sample.settings Documents.Sample.store Sample.world :=
  have refined := document_service_refines_store served_run
  ⟨refined.2.1, by decide +kernel, refined.2.2⟩

end Runs

end Crewos.DocumentService

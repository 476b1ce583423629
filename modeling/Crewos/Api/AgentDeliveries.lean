import Crewos.Api.AgentRuns
import Crewos.Foundation.Positions
import Crewos.Foundation.Forward

/-! # Attempts inside the service

What the workers of the service do to the run store is what deliveries among clients
do. The requests of an attempt are passed on, its status tool is answered within, and
everything else a session calls is a call of a client. -/

namespace Crewos.AgentService

open Foundation RunStore Api
open Agent (AgentRunJob AgentAnswer Exc)

/-! ## The program of a worker -/

/-- The status tool is the handler that the service answers itself. -/
def Within : Agent.Request → Prop
  | .handle tool _ _ => tool = "get_agent_task_status"
  | _ => False

instance : DecidablePred Within := fun request =>
  match request with
  | .handle tool _ _ => inferInstanceAs (Decidable (tool = "get_agent_task_status"))
  | .control _ | .perfCounter | .observe _ _ _ | .decide _ _ _ _ | .decided _ _ _
  | .dispatch _ _ _ | .review _ _ _ _ | .claim _ | .startHeartbeat _ | .closeHeartbeat | .build
  | .finish _ _ _ _ | .get _ _ => inferInstanceAs (Decidable False)

def passage : Passage Agent.Reply Answer where
  widen := .attempt
  narrow _ reply := reply
  within := Within
  quiet wide := ∀ request, wide ≠ .attempt request
  injective _ _ same := Ask.attempt.inj same
  apart request quiet := quiet request rfl

def Agrees (outcome : Except ServerError Response × Unit)
    (inner : Program Agent.Reply (Except Exc AgentAnswer × Option Dict)) : Prop :=
  ∀ answer, outcome.1 = .ok (.answered answer) →
    ∃ returned saved, inner = .done (.ok returned, saved) ∧ answer = returned.dump

section Quiet

variable {settings : ServiceSettings}

abbrev Hushed (computation : Server α) : Prop :=
  Exec.Learns (Monitor.only passage.quiet) Anything {} computation fun _ _ => True

theorem hushed_raising (reply : Except Exc α) : Hushed (raising reply) :=
  .ofExcept (fun _ _ => trivial) fun _ _ => trivial

theorem hushed_asking {request : Ask} (quiet : passage.quiet request)
    {next : Answer request → Server α} (rest : ∀ reply, Hushed (next reply)) :
    Hushed (ask request >>= next) := by
  have asked : Hushed (ask request) := .ask quiet (fun _ => le_refl _) fun _ _ => trivial
  exact asked.bind fun reply _ _ _ => rest reply

theorem hushed_log : Hushed log := hushed_asking (by rintro _ ⟨⟩) hushed_raising

theorem hushed_logged {computation : Server α} (hushed : Hushed computation)
    {exchange : ServerError → ServerError} :
    Hushed (tryCatch computation fun error => do
      log
      throw (exchange error)) :=
  .tryCatch hushed fun _ _ _ _ => hushed_log.bind fun _ _ _ _ => .throw trivial

theorem hushed_requireOwner (taskId tenantId : String) :
    Hushed (TaskOwnershipStore.requireOwner settings taskId tenantId) :=
  hushed_asking (by rintro _ ⟨⟩) fun reply =>
    (hushed_raising reply).bind fun _ _ _ _ => .raiseIf (fun _ => trivial) fun _ => trivial

theorem hushed_readTaskStatus (taskId tenantId : String) :
    Hushed (readTaskStatus settings taskId tenantId) := by
  have accessible : Hushed (TaskOwnershipStore.unlessNotFound
      (do
        TaskOwnershipStore.requireOwner settings taskId tenantId
        return true)
      (return false)) := by
    refine .tryCatch ((hushed_requireOwner taskId tenantId).bind fun _ _ _ _ => .pure trivial) ?_
    intro error _ _ _
    cases error with
    | httpException exception => exact .ite (fun _ => .throw trivial) fun _ => .pure trivial
    | _ => exact .throw trivial
  have observed : Hushed (taskState taskId) :=
    hushed_asking (by rintro _ ⟨⟩) hushed_raising
  refine hushed_logged (accessible.bind fun found _ _ _ => ?_)
  refine hushed_log.bind fun _ _ _ _ => .ite (fun _ => ?_) fun _ => .pure trivial
  exact observed.bind fun _ _ _ _ => hushed_log.bind fun _ _ _ _ => .pure trivial

theorem hushed_getAgentTaskStatus (context : ToolExecutionContext) (arguments : Dict) :
    Hushed (getAgentTaskStatus settings context arguments) := by
  refine (hushed_raising _).bind fun taskId _ _ _ => ?_
  have looks : Hushed (executor.execute context "agent_task.read"
      (readTaskStatus settings taskId.value context.tenantId)) :=
    PolicyEnforcedExecutor.learns_execute (fun _ _ => rfl) hushed_log (fun _ => trivial)
      fun _ _ _ => hushed_readTaskStatus _ _
  exact looks.bind fun _ _ _ _ => .pure trivial

theorem shows_seq {first : Server α} {next : α → Server Response} (hushed : Hushed first)
    {inner : Program Agent.Reply (Except Exc AgentAnswer × Option Dict)}
    (rest : ∀ value, Shows passage Agrees ((next value).run ()) inner) :
    Shows passage Agrees ((first >>= next).run ()) inner := by
  show Shows passage Agrees ((first.run ()).bind _) inner
  refine Shows.bind_quiet (hushed.obeys () (fun value _ _ _ => rest value) ?_)
  intro error _ _ _
  refine .done ?_
  rintro _ ⟨⟩

end Quiet

/-! ## The session of a worker -/

section Worker

variable {settings : ServiceSettings} {worker : Agent.Settings} {message : Message}
  {job : AgentRunJob}

theorem answerRequest_passes (context : ToolExecutionContext) (request : Agent.Request) :
    (¬passage.within request ∧ answerRequest settings context request =
      .ask (passage.widen request) fun reply => .done (passage.narrow request reply)) ∨
    (passage.within request ∧ (Monitor.only passage.quiet).Obeys (fun _ _ => True)
      (answerRequest settings context request) {}) := by
  cases request with
  | handle tool arguments remaining =>
      by_cases status : tool = "get_agent_task_status"
      · refine .inr ⟨status, ?_⟩
        simp only [answerRequest, if_pos status]
        exact Monitor.obeys_bind.mpr
          ((hushed_getAgentTaskStatus context arguments).obeys () (fun _ _ _ _ => trivial)
            fun _ _ _ _ => trivial)
      · refine .inl ⟨status, ?_⟩
        simp only [answerRequest, if_neg status]
        rfl
  | _ => exact .inl ⟨id, rfl⟩

def conclude (outcome : Except Exc AgentAnswer) : Server Response :=
  tryCatch
    (do
      let answer ← raising outcome
      log
      return .answered answer.dump)
    fun error => do
      log
      throw (if notExecuted error then .ignore else error)

theorem conclude_agrees (outcome : Except Exc AgentAnswer) (saved : Option Dict) :
    (Monitor.only passage.quiet).Obeys (fun value _ => Agrees value (.done (outcome, saved)))
      ((conclude outcome).run ()) {} := by
  have concludes : Exec.Learns (Monitor.only passage.quiet) Anything {} (conclude outcome)
      fun response _ => ∃ answer, outcome = .ok answer ∧ response = .answered answer.dump := by
    have takes : Exec.Learns (Monitor.only passage.quiet) Anything {} (raising outcome)
        fun answer _ => outcome = .ok answer := by
      refine .ofExcept (fun answer ok => ?_) fun _ _ => trivial
      cases outcome with
      | ok same => exact congrArg _ (Except.ok.inj ok)
      | error => cases ok
    refine .tryCatch (takes.bind fun answer _ _ same => ?_) fun _ _ _ _ => ?_
    · exact hushed_log.bind fun _ _ _ _ => .pure ⟨answer, same, rfl⟩
    · exact hushed_log.bind fun _ _ _ _ => .throw trivial
  refine concludes.obeys () ?_ ?_
  · rintro _ _ _ ⟨answer, rfl, rfl⟩ again same
    cases same
    exact ⟨answer, saved, rfl, rfl⟩
  · rintro _ _ _ _ _ same
    cases same

theorem shows_runRegistered :
    Shows passage Agrees ((runRegistered settings worker job).run ())
      (Agent.delivery worker (.obj job.dump)) := by
  refine shows_seq hushed_log fun _ => ?_
  have concludes : ∀ out : Except Exc AgentAnswer × Option Dict,
      Shows passage Agrees ((conclude out.1).run ()) (.done out) := fun out =>
    .of_quiet (conclude_agrees out.1 out.2)
  have attempt := Shows.interpret
    (@answerRequest_passes settings (workerContext settings job))
    (Agent.delivery worker (.obj job.dump)) concludes
  refine Eq.mp (congrArg (Shows passage Agrees · _) ?_) attempt
  show _ = ((Program.bind _ _).bind _).bind _
  rw [Program.bind_assoc, Program.bind_assoc]
  refine congrArg (Program.bind _) (funext fun out => ?_)
  rcases out with ⟨outcome, saved⟩
  cases outcome <;> rfl

def accepted (settings : ServiceSettings) (message : Message) : Option AgentRunJob := do
  let job ← AgentRunJob.validate message.payload
  let queue ← settings.tenants.tenantQueue job.tenantId
  if message.requestId = job.agentRunId.text ∧ message.routingKey = some queue then some job
  else none

def Origin.delivery (settings : ServiceSettings) : Origin → Option (Agent.Settings × AgentRunJob)
  | .worker worker message => (accepted settings message).map (worker, ·)
  | .http _ | .heartbeat _ _ _ => none

theorem handle_accepted (valid : accepted settings message = some job) :
    handle settings (.worker worker message) = (runRegistered settings worker job).run () := by
  simp only [accepted, Option.bind_eq_bind, Option.bind_eq_some_iff] at valid
  obtain ⟨again, parsed, queue, queued, valid⟩ := valid
  split at valid
  · rename_i routed
    cases valid
    show (runAgent settings worker message).run () = _
    unfold runAgent tenantQueue Exec.raiseIf
    rw [parsed]
    show ((if _ then _ else _ : Server Unit) >>= _).run () = _
    rw [if_neg (not_not.mpr routed.1)]
    show ((Exec.ofExcept _ : Server String) >>= _).run () = _
    rw [queued]
    show ((if _ then _ else _ : Server Unit) >>= _).run () = _
    rw [if_neg (not_not.mpr routed.2)]
    rfl
  · cases valid

theorem handle_refused (invalid : accepted settings message = none) :
    ∃ outcome, handle settings (.worker worker message) = .done outcome := by
  show ∃ outcome, (runAgent settings worker message).run () = .done outcome
  unfold runAgent tenantQueue Exec.raiseIf
  cases parsed : AgentRunJob.validate message.payload with
  | none => exact ⟨_, rfl⟩
  | some again =>
      show ∃ outcome, ((if message.requestId ≠ again.agentRunId.text then _ else _ :
        Server Unit) >>= _).run () = .done outcome
      by_cases named : message.requestId ≠ again.agentRunId.text
      · rw [if_pos named]
        exact ⟨_, rfl⟩
      · rw [if_neg named]
        show ∃ outcome, ((Exec.ofExcept _ : Server String) >>= _).run () = .done outcome
        cases queued : settings.tenants.tenantQueue again.tenantId with
        | none => exact ⟨_, rfl⟩
        | some queue =>
            show ∃ outcome, ((if message.routingKey ≠ some queue then _ else _ :
              Server Unit) >>= _).run () = .done outcome
            by_cases routed : message.routingKey ≠ some queue
            · rw [if_pos routed]
              exact ⟨_, rfl⟩
            · simp [accepted, parsed, queued, not_not.mp named, not_not.mp routed] at invalid

end Worker

/-! ## The world of the attempts -/

abbrev ServiceSession := Service.Session Answer Origin (Except ServerError Response × Unit)

abbrev ServiceWorld := Service.World Answer Origin ServerState (Except ServerError Response × Unit)

section Mirrors

variable {settings : ServiceSettings}

def delivers (settings : ServiceSettings) (session : ServiceSession) : Bool :=
  (session.origin.delivery settings).isSome

/-- The delivery has still to do what the session has still to do. -/
structure Mirror (settings : ServiceSettings) (session : ServiceSession)
    (delivery : Agent.Delivery) : Prop where
  origin : session.origin.delivery settings = some (delivery.settings, delivery.job)
  settled : Aligned passage Agrees session.program delivery.program

/-- The deliveries are the attempts among the sessions, in their order. -/
structure Mirrors (settings : ServiceSettings) (world : ServiceWorld) (agents : Agent.World) :
    Prop where
  store : agents.store = world.state.store
  length : agents.deliveries.length = world.sessions.countP (delivers settings)
  refused : ∀ session ∈ world.sessions, ∀ worker message,
    session.origin = .worker worker message → accepted settings message = none →
      ∃ outcome, session.program = .done outcome
  mirrored : ∀ (index : Nat) (session : ServiceSession), world.sessions[index]? = some session →
    delivers settings session = true →
      ∃ delivery, agents.deliveries[position (delivers settings) world.sessions index]? =
        some delivery ∧ Mirror settings session delivery

/-- The events of attempts, but for those of the status tool. -/
def visible : Agent.World.Label → Option (Event Agent.Reply)
  | .event _ taken => if Within taken.request then none else some taken
  | .client _ | .deliver _ _ => none

def attempted : Service.Label Answer Origin → Option (Event Agent.Reply)
  | .event _ ⟨.attempt request, reply⟩ => some ⟨request, reply⟩
  | _ => none

def Accounts (settings : ServiceSettings) (label : Service.Label Answer Origin)
    (sign : Agent.World.Label) : Prop :=
  ∀ worker job, sign = .deliver worker job → ∃ message,
    label = .arrive (.worker worker message) ∧ accepted settings message = some job

/-! ### Requests that are answered within -/

theorem operation_within {request : Agent.Request} (within : Within request) (token : String) :
    request.operation token = none := by
  cases request with
  | handle => rfl
  | _ => exact absurd within id

theorem skips_run {agents : Agent.World} {index : Nat} {delivery : Agent.Delivery}
    {events : List (Event Agent.Reply)}
    {rest : Program Agent.Reply (Except Exc AgentAnswer × Option Dict)}
    (here : agents.deliveries[index]? = some delivery)
    (skips : Skips passage delivery.program events rest) :
    Run Agent.World.Step agents (events.map (.event index))
      { agents with
        deliveries := agents.deliveries.set index { delivery with program := rest } } := by
  generalize same : delivery.program = program at skips
  induction skips generalizing agents delivery with
  | stop =>
      subst same
      obtain ⟨within, rfl⟩ := List.getElem?_eq_some_iff.mp here
      show Run _ agents [] { agents with
        deliveries := agents.deliveries.set index agents.deliveries[index] }
      rw [List.set_getElem_self]
      exact .nil _
  | @skip request goOn reply events rest within _ induction =>
      have answers : Agent.Answers delivery.settings.store agents.store ⟨request, reply⟩
          agents.store := .other (operation_within within) ⟨rfl, le_refl _⟩
      have step := Agent.World.Step.event here same answers
      have bound := (List.getElem?_eq_some_iff.mp here).1
      have later := @induction
        { store := agents.store
          deliveries := agents.deliveries.set index { delivery with program := goOn reply } }
        { delivery with program := goOn reply } (by simp [bound]) rfl
      rw [List.set_set] at later
      exact .cons step later

theorem catch_up {agents : Agent.World} {index : Nat} {delivery : Agent.Delivery}
    {outer : Program Answer (Except ServerError Response × Unit)}
    (here : agents.deliveries[index]? = some delivery)
    (shown : Shows passage Agrees outer delivery.program) :
    ∃ signs rest, Run Agent.World.Step agents signs
        { agents with
          deliveries := agents.deliveries.set index { delivery with program := rest } } ∧
      Aligned passage Agrees outer rest ∧ signs.filterMap visible = [] ∧
      ∀ label, ∀ sign ∈ signs, Accounts settings label sign := by
  obtain ⟨events, rest, skips, settled⟩ := shown.aligns
  refine ⟨_, rest, skips_run here skips, settled, ?_, ?_⟩
  · rw [List.filterMap_map, List.filterMap_eq_nil_iff]
    exact fun event member => if_pos (skips.all_within event member)
  · intro label sign member worker job same
    obtain ⟨event, _, rfl⟩ := List.mem_map.mp member
    cases same

/-! ### What a step does to the mirror -/

variable {world : ServiceWorld} {agents : Agent.World} {index : Nat} {session : ServiceSession}

theorem delivers_iff : delivers settings session = true ↔
    ∃ worker job, session.origin.delivery settings = some (worker, job) := by
  simp [delivers, Option.isSome_iff_exists]

theorem accepted_of_delivery {origin : Origin} {worker : Agent.Settings} {job : AgentRunJob}
    (delivered : origin.delivery settings = some (worker, job)) :
    ∃ message, origin = .worker worker message ∧ accepted settings message = some job := by
  cases origin with
  | worker settings message =>
      obtain ⟨same, valid, pair⟩ := Option.map_eq_some_iff.mp delivered
      cases pair
      exact ⟨message, rfl, valid⟩
  | http => cases delivered
  | heartbeat => cases delivered

theorem Mirrors.moved (mirrors : Mirrors settings world agents)
    (found : world.sessions[index]? = some session) (delivered : delivers settings session = true)
    {delivery : Agent.Delivery}
    (here : agents.deliveries[position (delivers settings) world.sessions index]? = some delivery)
    (mirror : Mirror settings session delivery) {state : ServerState}
    {program : Program Answer (Except ServerError Response × Unit)} {past : List (Event Answer)}
    {rest : Program Agent.Reply (Except Exc AgentAnswer × Option Dict)}
    (settled : Aligned passage Agrees program rest) :
    Mirrors settings
      { state, sessions := world.sessions.set index { session with program, past } }
      { store := state.store
        deliveries := agents.deliveries.set (position (delivers settings) world.sessions index)
          { delivery with program := rest } } where
  store := rfl
  length := by
    have same : delivers settings { session with program, past } = delivers settings session := rfl
    exact (List.length_set ..).trans (mirrors.length.trans (countP_set found same).symm)
  refused other member worker message same invalid := by
    rcases List.mem_or_eq_of_mem_set member with old | rfl
    · exact mirrors.refused other old worker message same invalid
    · obtain ⟨_, job, valid⟩ := delivers_iff.mp delivered
      obtain ⟨sent, origin, accepts⟩ := accepted_of_delivery valid
      cases same.symm.trans origin
      cases invalid.symm.trans accepts
  mirrored place other at_ attempt := by
    have moves : delivers settings { session with program, past } = delivers settings session :=
      rfl
    dsimp only at at_ ⊢
    rw [position_set found moves]
    by_cases same : place = index
    · subst same
      have within := (List.getElem?_eq_some_iff.mp found).1
      rw [List.getElem?_set_self within] at at_
      cases at_
      have bound := (List.getElem?_eq_some_iff.mp here).1
      exact ⟨_, List.getElem?_set_self bound, mirror.origin, settled⟩
    · rw [List.getElem?_set_ne (Ne.symm same)] at at_
      obtain ⟨kept, there, mirrored⟩ := mirrors.mirrored place other at_ attempt
      have apart := position_ne found delivered at_ attempt (Ne.symm same)
      exact ⟨kept, by rw [List.getElem?_set_ne apart]; exact there, mirrored⟩

theorem Mirrors.stayed (mirrors : Mirrors settings world agents)
    (found : world.sessions[index]? = some session)
    (plain : ∀ worker message, session.origin ≠ .worker worker message) {state : ServerState}
    {program : Program Answer (Except ServerError Response × Unit)}
    {past : List (Event Answer)} :
    Mirrors settings
      { state, sessions := world.sessions.set index { session with program, past } }
      { agents with store := state.store } where
  store := rfl
  length := by
    have same : delivers settings { session with program, past } = delivers settings session := rfl
    exact mirrors.length.trans (countP_set found same).symm
  refused other member worker message same invalid := by
    rcases List.mem_or_eq_of_mem_set member with old | rfl
    · exact mirrors.refused other old worker message same invalid
    · exact absurd same (plain worker message)
  mirrored place other at_ attempt := by
    have moves : delivers settings { session with program, past } = delivers settings session :=
      rfl
    dsimp only at at_ ⊢
    rw [position_set found moves]
    by_cases same : place = index
    · subst same
      have within := (List.getElem?_eq_some_iff.mp found).1
      rw [List.getElem?_set_self within] at at_
      cases at_
      obtain ⟨worker, job, delivered⟩ := delivers_iff.mp attempt
      obtain ⟨message, origin, _⟩ := accepted_of_delivery delivered
      exact absurd origin (plain worker message)
    · rw [List.getElem?_set_ne (Ne.symm same)] at at_
      exact mirrors.mirrored place other at_ attempt

theorem Mirrors.arrived_plain (mirrors : Mirrors settings world agents) {origin : Origin}
    (plain : origin.delivery settings = none) :
    Mirrors settings
      { world with sessions := world.sessions ++ [⟨origin, handle settings origin, []⟩] }
      agents where
  store := mirrors.store
  length := by
    rw [List.countP_append, mirrors.length]
    simp [delivers, plain]
  refused session member worker message same invalid := by
    rcases List.mem_append.mp member with old | new
    · exact mirrors.refused session old worker message same invalid
    · cases List.mem_singleton.mp new
      cases same
      exact handle_refused invalid
  mirrored place session here attempt := by
    rw [List.getElem?_append] at here
    split at here
    · rename_i within
      rw [position_append _ (Nat.le_of_lt within)]
      exact mirrors.mirrored place session here attempt
    · rw [List.getElem?_singleton] at here
      split at here
      · cases here
        simp [delivers, plain] at attempt
      · cases here

theorem Mirrors.arrived (mirrors : Mirrors settings world agents) {origin : Origin}
    {delivery : Agent.Delivery}
    (delivered : origin.delivery settings = some (delivery.settings, delivery.job))
    (settled : Aligned passage Agrees (handle settings origin) delivery.program) :
    Mirrors settings
      { world with sessions := world.sessions ++ [⟨origin, handle settings origin, []⟩] }
      { agents with deliveries := agents.deliveries ++ [delivery] } where
  store := mirrors.store
  length := by
    rw [List.countP_append, List.length_append, mirrors.length]
    simp [delivers, delivered]
  refused session member worker message same invalid := by
    rcases List.mem_append.mp member with old | new
    · exact mirrors.refused session old worker message same invalid
    · cases List.mem_singleton.mp new
      obtain ⟨sent, again, accepts⟩ := accepted_of_delivery delivered
      cases same.symm.trans again
      cases invalid.symm.trans accepts
  mirrored place session here attempt := by
    rw [List.getElem?_append] at here
    split at here
    · rename_i within
      rw [position_append _ (Nat.le_of_lt within)]
      obtain ⟨kept, there, mirrored⟩ := mirrors.mirrored place session here attempt
      have bound := (List.getElem?_eq_some_iff.mp there).1
      exact ⟨kept, by rw [List.getElem?_append_left bound]; exact there, mirrored⟩
    · rename_i beyond
      rw [List.getElem?_singleton] at here
      split at here
      · rename_i last
        cases here
        have place_eq : place = world.sessions.length := by omega
        subst place_eq
        rw [position_append _ (Nat.le_refl _), position, List.take_length, ← mirrors.length]
        exact ⟨delivery, by simp, delivered, settled⟩
      · cases here

end Mirrors

/-! ## The service shows a world of attempts -/

section Runs

variable {settings : ServiceSettings} {now : Time}
  {labels : List (Service.Label Answer Origin)} {label : Service.Label Answer Origin}
  {world next : ServiceWorld} {agents : Agent.World}

/-- The block shows the events of attempts of a label. -/
structure Block (settings : ServiceSettings) (label : Service.Label Answer Origin)
    (signs : List Agent.World.Label) : Prop where
  seen : signs.filterMap visible = (attempted label).toList
  accounts : ∀ sign ∈ signs, Accounts settings label sign

theorem public_of_authorised {tenantId : String} {origin : Origin} {past : Past}
    {operation : Operation} (authorised : Authorised settings tenantId origin past operation) :
    Agent.Public operation := by
  cases authorised <;> trivial

theorem store_of_answers {state after : ServerState} {origin : Origin} {request : Ask}
    {reply : Answer request} (quiet : passage.quiet request)
    (answered : answers settings origin state request reply after) :
    after.store = state.store ∨ ∃ call : Call, request = .call call.operation ∧
      RunStore.Step state.store call after.store := by
  cases request with
  | call operation =>
      generalize outcome : (reply : Except RunStoreError RunStore.Reply) = replied at answered
      cases (show Transacts settings origin state operation replied after from answered) with
      | before => exact .inl rfl
      | done _ calls step | after _ calls step => exact .inr ⟨_, calls ▸ rfl, step⟩
  | attempt request => exact absurd rfl (quiet request)
  | setOwner =>
      generalize outcome : (reply : Except Exc Bool) = replied at answered
      cases (show Sets state _ _ replied after from answered) <;> exact .inl rfl
  | getOwner =>
      generalize outcome : (reply : Except Exc (Option String)) = replied at answered
      cases (show Gets state _ replied after from answered) <;> exact .inl rfl
  | uuid4 =>
      obtain ⟨_, rfl⟩ := answered
      exact .inl rfl
  | _ => exact .inl (congrArg ServerState.store answered)

theorem client_run {state after : ServerState} {origin : Origin} {request : Ask}
    {reply : Answer request} {tenantId : String} {past : Past}
    (permitted : Permits settings tenantId origin past request) (quiet : passage.quiet request)
    (answered : answers settings origin state request reply after)
    (store : agents.store = state.store) :
    ∃ signs, Run Agent.World.Step agents signs { agents with store := after.store } ∧
      signs.filterMap visible = [] ∧ ∀ label, ∀ sign ∈ signs, Accounts settings label sign := by
  rcases store_of_answers quiet answered with same | ⟨call, rfl, step⟩
  · refine ⟨[], ?_, rfl, by simp⟩
    rw [same, ← store]
    exact .nil _
  · refine ⟨[.client call], .single (.client (public_of_authorised permitted) (store ▸ step)), rfl,
      ?_⟩
    intro label sign member worker job same
    cases List.mem_singleton.mp member
    cases same

theorem attempted_of_quiet {index : Nat} {request : Ask} {reply : Answer request}
    (quiet : passage.quiet request) : attempted (.event index ⟨request, reply⟩) = none := by
  cases request with
  | attempt request => exact absurd rfl (quiet request)
  | _ => rfl

theorem Mirrors.delivers_of_asks (mirrors : Mirrors settings world agents)
    {session : ServiceSession} (member : session ∈ world.sessions) {request : Ask}
    {resume : Answer request → Program Answer (Except ServerError Response × Unit)}
    (asks : session.program = .ask request resume) {worker : Agent.Settings} {message : Message}
    (origin : session.origin = .worker worker message) : delivers settings session = true := by
  cases valid : accepted settings message with
  | none =>
      obtain ⟨outcome, ended⟩ := mirrors.refused session member worker message origin valid
      cases asks.symm.trans ended
  | some job => exact delivers_iff.mpr ⟨worker, job, by rw [origin]; simp [Origin.delivery, valid]⟩

theorem Mirrors.quiet_step (mirrors : Mirrors settings world agents) {index : Nat}
    {session : ServiceSession} (found : world.sessions[index]? = some session) {request : Ask}
    {resume : Answer request → Program Answer (Except ServerError Response × Unit)}
    (asks : session.program = .ask request resume) {tenantId : String} {past : Past}
    (permitted : Permits settings tenantId session.origin past request)
    (quiet : passage.quiet request) {reply : Answer request} {state : ServerState}
    (answered : answers settings session.origin world.state request reply state)
    (events : List (Event Answer)) :
    ∃ signs later, Run Agent.World.Step agents signs later ∧
      Block settings (.event index ⟨request, reply⟩) signs ∧
      Mirrors settings
        { state
          sessions := world.sessions.set index
            { session with program := resume reply, past := events } } later := by
  obtain ⟨signs, run, unseen, accounts⟩ := client_run permitted quiet answered mirrors.store
  have member := List.mem_of_getElem? found
  by_cases delivered : delivers settings session = true
  · obtain ⟨delivery, here, mirror⟩ := mirrors.mirrored index session found delivered
    have settled := mirror.settled
    rw [asks] at settled
    obtain ⟨more, rest, onward, settles, hidden, accountsMore⟩ :=
      @catch_up settings { agents with store := state.store } _ _ _ here
        (settled.resumed quiet reply)
    refine ⟨signs ++ more, _, run.append onward, ⟨?_, ?_⟩,
      mirrors.moved found delivered here mirror settles⟩
    · rw [List.filterMap_append, unseen, hidden, attempted_of_quiet quiet]
      rfl
    · intro sign there
      exact (List.mem_append.mp there).elim (accounts _ sign) (accountsMore _ sign)
  · refine ⟨signs, _, run, ⟨?_, accounts _⟩, mirrors.stayed found fun worker message origin => ?_⟩
    · rw [unseen, attempted_of_quiet quiet]
      rfl
    · exact delivered (mirrors.delivers_of_asks member asks origin)

theorem Mirrors.attempt_step (mirrors : Mirrors settings world agents) {index : Nat}
    {session : ServiceSession} (found : world.sessions[index]? = some session)
    {request : Agent.Request}
    {resume : Answer (.attempt request) → Program Answer (Except ServerError Response × Unit)}
    (asks : session.program = .ask (.attempt request) resume) {worker : Agent.Settings}
    {message : Message} (origin : session.origin = .worker worker message)
    {reply : Agent.Reply request} {state : ServerState}
    (answered : Attempts (session.origin.store settings) session.origin world.state
      ⟨request, reply⟩ state) (events : List (Event Answer)) :
    ∃ signs later, Run Agent.World.Step agents signs later ∧
      Block settings (.event index ⟨.attempt request, reply⟩) signs ∧
      Mirrors settings
        { state
          sessions := world.sessions.set index
            { session with program := resume reply, past := events } } later := by
  have delivered := mirrors.delivers_of_asks (List.mem_of_getElem? found) asks origin
  obtain ⟨delivery, here, mirror⟩ := mirrors.mirrored index session found delivered
  have settled := mirror.settled
  rw [asks] at settled
  obtain ⟨outside, goOn, inner, later⟩ := Aligned.asked settled
  have store : session.origin.store settings = delivery.settings.store := by
    have own := mirror.origin
    rw [origin] at own ⊢
    obtain ⟨_, _, pair⟩ := Option.map_eq_some_iff.mp own
    cases pair
    rfl
  have reacts : Agent.Answers delivery.settings.store agents.store ⟨request, reply⟩ state.store :=
    mirrors.store ▸ store ▸ answered.answers
  have step := Agent.World.Step.event here inner reacts
  have bound := (List.getElem?_eq_some_iff.mp here).1
  obtain ⟨more, rest, onward, settles, hidden, accounts⟩ :=
    @catch_up settings
      { store := state.store
        deliveries := agents.deliveries.set (position (delivers settings) world.sessions index)
          { delivery with program := goOn reply } }
      _ { delivery with program := goOn reply } _ (List.getElem?_set_self bound) (later reply)
  rw [List.set_set] at onward
  refine ⟨_, _, .cons step onward, ⟨?_, ?_⟩, mirrors.moved found delivered here mirror settles⟩
  · rw [List.filterMap_cons, hidden]
    have seen : visible (.event (position (delivers settings) world.sessions index)
        ⟨request, reply⟩) = some ⟨request, reply⟩ := if_neg outside
    rw [seen]
    rfl
  · intro sign there
    rcases List.mem_cons.mp there with rfl | there
    · rintro _ _ ⟨⟩
    · exact accounts _ sign there

theorem Mirrors.arrive_step (mirrors : Mirrors settings world agents) (origin : Origin) :
    ∃ signs later, Run Agent.World.Step agents signs later ∧
      Block settings (.arrive origin) signs ∧
      Mirrors settings
        { world with sessions := world.sessions ++ [⟨origin, handle settings origin, []⟩] }
        later := by
  cases delivered : origin.delivery settings with
  | none => exact ⟨[], _, .nil _, ⟨rfl, by simp⟩, mirrors.arrived_plain delivered⟩
  | some pair =>
      obtain ⟨worker, job⟩ := pair
      obtain ⟨message, rfl, valid⟩ := accepted_of_delivery delivered
      have shown : Shows passage Agrees (handle settings (.worker worker message))
          (Agent.delivery worker (.obj job.dump)) := by
        rw [handle_accepted valid]
        exact shows_runRegistered
      have step : Agent.World.Step agents (.deliver worker job) _ :=
        .deliver (AgentRunJob.validate_dump job)
      obtain ⟨more, rest, onward, settles, hidden, accounts⟩ :=
        @catch_up settings
          { agents with deliveries := agents.deliveries ++
              [{ settings := worker, job, program := Agent.delivery worker (.obj job.dump) }] }
          agents.deliveries.length
          { settings := worker, job, program := Agent.delivery worker (.obj job.dump) } _ (by simp)
          shown
      rw [List.set_append_right _ _ (Nat.le_refl _), Nat.sub_self] at onward
      refine ⟨_, _, .cons step onward, ⟨?_, ?_⟩, mirrors.arrived delivered settles⟩
      · rw [List.filterMap_cons, hidden]
        rfl
      · intro sign there
        rcases List.mem_cons.mp there with rfl | there
        · rintro _ _ ⟨⟩
          exact ⟨message, rfl, valid⟩
        · exact accounts _ sign there

theorem Mirrors.step (upheld : world.Upheld (discipline settings))
    (mirrors : Mirrors settings world agents)
    (step : Service.Step (service settings) world label next) :
    ∃ signs later, Run Agent.World.Step agents signs later ∧ Block settings label signs ∧
      Mirrors settings next later := by
  cases step with
  | arrive origin => exact mirrors.arrive_step origin
  | @event index session request resume reply state found asks answered =>
      have going := (upheld.sessions session (List.mem_of_getElem? found)).obeys
      rw [asks] at going
      obtain ⟨tenantId, _, permitted⟩ := going.1
      by_cases quiet : passage.quiet request
      · exact mirrors.quiet_step found asks permitted quiet answered _
      · obtain ⟨inner, rfl⟩ : ∃ inner, request = .attempt inner := by
          simpa [passage] using quiet
        obtain ⟨⟨worker, message, origin⟩, _⟩ := permitted
        exact mirrors.attempt_step found asks origin answered _

theorem Mirrors.run (upheld : world.Upheld (discipline settings))
    (mirrors : Mirrors settings world agents)
    (run : Run (Service.Step (service settings)) world labels next) :
    ∃ blocks later, Run Agent.World.Step agents blocks.flatten later ∧
      List.Forall₂ (Block settings) labels blocks ∧ Mirrors settings next later := by
  obtain ⟨blocks, later, moves, following, _, shown⟩ := run.simulate
    (fun world agents => world.Upheld (discipline settings) ∧ Mirrors settings world agents)
    (fun _ _ _ _ related step => by
      obtain ⟨signs, later, moves, block, shown⟩ := Mirrors.step related.1 related.2 step
      exact ⟨signs, later, moves, block, related.1.step (sound settings) step, shown⟩)
    ⟨upheld, mirrors⟩
  exact ⟨blocks, later, moves, following, shown⟩

def nobody (now : Time) : Agent.World :=
  { store := { db := .empty, now }, deliveries := [] }

theorem nobody_initial : (nobody now).Initial := ⟨rfl, rfl⟩

theorem Mirrors.start : Mirrors settings (.start (.empty now)) (nobody now) where
  store := rfl
  length := rfl
  refused session member := by cases member
  mirrored index session here := by cases here

/-- Every run of the service is mirrored by a history of deliveries. -/
theorem Mirrors.of_run
    (run : Run (Service.Step (service settings)) (.start (.empty now)) labels world) :
    ∃ signs agents, Run Agent.World.Step (nobody now) signs agents ∧
      Mirrors settings world agents ∧ signs.filterMap visible = labels.filterMap attempted ∧
      ∀ worker job, .deliver worker job ∈ signs → ∃ message,
        .arrive (.worker worker message) ∈ labels ∧ accepted settings message = some job := by
  obtain ⟨blocks, agents, moves, following, shown⟩ := Mirrors.start.run (.start Shared.empty) run
  refine ⟨_, agents, moves, shown, filterMap_flatten (following.imp fun _ _ block => block.seen),
    fun worker job member => ?_⟩
  obtain ⟨label, there, accounts⟩ :=
    mem_flatten (following.imp fun _ _ block => block.accounts) member
  obtain ⟨message, rfl, valid⟩ := accounts worker job rfl
  exact ⟨message, there, valid⟩

end Runs

end Crewos.AgentService

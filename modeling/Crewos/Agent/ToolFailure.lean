import Crewos.Agent.Answers
import Crewos.Agent.Barrier
import Crewos.Agent.Recoveries

/-! # Failures of tools that must not be replayed

The handler of such a tool is only entered behind a durable pending marker. What
it raises ends the attempt, unless it raises one of the two errors that also
report a call the dispatcher refused, and a recovery is left. -/

namespace Crewos.Agent

open Foundation RunStore

/-! ## What is watched -/

/-- A handler of a tool that must not be replayed raised the error. -/
inductive HandlerRaised (tools : List ToolDefinition) : Event Reply → Exc → Prop
  | intro {tool : String} {arguments : Dict} {remaining : Time} {error : Exc}
      (registered : Tools.replaySafe tools tool = .ok false) :
      HandlerRaised tools
        ⟨.handle tool arguments remaining, (Except.error error : Except Exc ToolResult)⟩ error

/-- The event is the handling of a tool that must not be replayed. -/
def HandlesUnsafe (tools : List ToolDefinition) (request : Request) : Prop :=
  ∃ tool arguments remaining, request = .handle tool arguments remaining ∧
    Tools.replaySafe tools tool = .ok false

/-- The last checkpoint of the attempt that was accepted, and the error that
stopped it. -/
structure Watch where
  saved : Option Dict
  stopped : Option Exc

inductive Watches (loop : AgentLoop) : Watch → Event Reply → Watch → Prop
  | saved {watch : Watch} {site : Site} {dict : Dict} (running : watch.stopped = none) :
      Watches loop watch ⟨.control (.checkpoint loop.control.lease site dict),
        (Except.ok () : Except RunStoreError Unit)⟩ { watch with saved := some dict }
  | other {watch : Watch} {event : Event Reply} (running : watch.stopped = none)
      (notSaved : ∀ site dict, event ≠ ⟨.control (.checkpoint loop.control.lease site dict),
        (Except.ok () : Except RunStoreError Unit)⟩)
      (notHandled : ¬HandlesUnsafe loop.tools event.request) : Watches loop watch event watch
  | handled {watch : Watch} {dict : Dict} {event : Event Reply} (running : watch.stopped = none)
      (last : watch.saved = some dict) (pending : unsafePending dict = true)
      (handles : HandlesUnsafe loop.tools event.request)
      (goesOn : ∀ error, HandlerRaised loop.tools event error → ¬loop.Stops dict error) :
      Watches loop watch event watch
  | failed {watch : Watch} {dict : Dict} {event : Event Reply} {error : Exc}
      (running : watch.stopped = none) (last : watch.saved = some dict)
      (pending : unsafePending dict = true) (raised : HandlerRaised loop.tools event error)
      (stops : loop.Stops dict error) :
      Watches loop watch event { watch with stopped := some error }
  | wound {watch : Watch} {error : Exc} {event : Event Reply}
      (stopped : watch.stopped = some error) (neutral : event.request.neutral = true) :
      Watches loop watch event watch

section Loop

open AgentLoop

variable {loop : AgentLoop}

theorem not_handlesUnsafe {tools : List ToolDefinition} {request : Request}
    (other : ∀ tool arguments remaining, request ≠ .handle tool arguments remaining) :
    ¬HandlesUnsafe tools request := by
  rintro ⟨tool, arguments, remaining, same, _⟩
  exact other tool arguments remaining same

theorem watches_quiet (watch : Watch) : Quiet (Watches loop) watch := by
  rintro ⟨request, reply⟩ neutral
  cases stopped : watch.stopped with
  | some error => exact .wound stopped neutral
  | none =>
      refine .other stopped ?_ (not_handlesUnsafe ?_)
      · rintro site dict same
        cases same
        cases neutral
      · rintro tool arguments remaining rfl
        cases neutral

abbrev Running (watch : Watch) : Prop := watch.stopped = none

abbrev Calm {State α : Type} (loop : AgentLoop) (computation : Exec Reply Exc State α) : Prop :=
  Exec.Keeps (Watches loop) (fun _ watch => Running watch) computation

def Stopping (error : Exc) (watch : Watch) : Prop :=
  Running watch ∨ watch.stopped = some error

def Heeds {State α : Type} (loop : AgentLoop) (computation : Exec Reply Exc State α) : Prop :=
  ∀ state watch, Running watch →
    Exec.leads (Watches loop) computation (fun _ _ watch => Running watch)
      (fun error _ watch => Stopping error watch) state watch

namespace Heeds

variable {State α β : Type}

theorem of_calm {computation : Exec Reply Exc State α} (calm : Calm loop computation) :
    Heeds loop computation := fun state watch running =>
  Exec.leads_mono (calm state watch running) (fun _ _ _ running => running) fun _ _ _ => .inl

theorem bind {computation : Exec Reply Exc State α} {next : α → Exec Reply Exc State β}
    (first : Heeds loop computation) (rest : ∀ value, Heeds loop (next value)) :
    Heeds loop (computation >>= next) := fun state watch running =>
  Exec.leads_bind (first state watch running) fun value => rest value

end Heeds

theorem watches_lasts : Lasts (Watches loop) loop.control.lease fun _ watch => Running watch where
  mild event mild running := by
    refine ⟨_, .other running ?_ (not_handlesUnsafe ?_), running⟩
    · rintro site dict rfl
      cases mild
    · intro tool arguments remaining same
      rw [same] at mild
      cases mild
  guards reply running := ⟨_, .other running (fun _ _ same => by cases same)
    (not_handlesUnsafe nofun), running⟩
  saves site saved reply running := by
    cases reply with
    | ok accepted => exact ⟨_, .saved running, running⟩
    | error error =>
        exact ⟨_, .other running (fun _ _ same => by cases same) (not_handlesUnsafe nofun),
          running⟩

theorem calm_control (computation : ControlExec α) :
    Exec.Keeps (controlOf (Watches loop)) (fun _ watch => Running watch) computation := by
  refine .any fun watch event running => ?_
  classical
  by_cases saves : ∃ site dict, (⟨.control event.request,
      wideReply event.request event.reply⟩ : Event Reply) =
      ⟨.control (.checkpoint loop.control.lease site dict),
        (Except.ok () : Except RunStoreError Unit)⟩
  · obtain ⟨site, dict, same⟩ := saves
    refine ⟨{ watch with saved := some dict }, ?_, running⟩
    show Watches loop watch ⟨.control event.request, wideReply event.request event.reply⟩ _
    rw [same]
    exact .saved running
  · push Not at saves
    exact ⟨watch, .other running saves (not_handlesUnsafe nofun), running⟩

theorem watches_lasting (loop : AgentLoop) :
    loop.Lasting (Watches loop) fun _ watch => Running watch :=
  ⟨watches_lasts, fun _ _ _ => calm_control _, fun _ _ => calm_control _⟩

/-! ## The tool call -/

theorem unsafePending_progress (mode : AnswerMode) (frame : Frame) (state : Dict)
    (decision : ToolCallDecision) :
    unsafePending (state.update (progress mode frame decision.dump false)) = true := by
  have distinct : "pending" ≠ "replay_safe" := by decide
  simp [unsafePending, progress, Dict.getD, ToolCallDecision.dump, ToolCallDecision.fields,
    Json.truthy]

/-- A call of a tool that must not be replayed reaches the handler behind the
marker, with the dictionary the marker is in. -/
theorem leads_dispatch (decision : ToolCallDecision) (remaining : Time) {frame : Frame}
    {watch : Watch} (running : Running watch) (last : watch.saved = some frame.state)
    (flag : Tools.replaySafe loop.tools decision.name.value = .ok frame.safeReplay)
    (marked : frame.safeReplay = false → unsafePending frame.state = true) :
    Exec.leads (Watches loop) (loop.dispatch decision remaining)
      (fun _ _ watch => Running watch)
      (fun error last watch => Running watch ∨ (watch.stopped = some error ∧
        last.safeReplay = false ∧ loop.Stops last.state error)) frame watch := by
  unfold dispatch
  refine Exec.leads_seq (Exec.leads_ofExcept (fun tool found => ?_) fun _ _ => .inl running)
  refine Exec.leads_seq (Exec.leads_raiseIf (fun _ => ?_) fun _ => .inl running)
  refine Exec.leads_seq (Exec.leads_ask fun (reply : Except Exc ToolResult) => ?_)
  rw [← find_name found] at flag
  cases safe : frame.safeReplay with
  | true =>
      rw [safe] at flag
      refine ⟨watch, .other running nofun ?_, Exec.leads_ofExcept (fun _ _ => running)
        fun _ _ => .inl running⟩
      rintro ⟨_, _, _, same, unsafe_⟩
      cases same
      rw [flag] at unsafe_
      cases unsafe_
  | false =>
      rw [safe] at flag
      have handles : HandlesUnsafe loop.tools
          (.handle tool.name decision.arguments remaining) := ⟨_, _, _, rfl, flag⟩
      cases reply with
      | ok result =>
          exact ⟨watch, .handled running last (marked safe) handles nofun, running⟩
      | error error =>
          by_cases stops : loop.Stops frame.state error
          · exact ⟨_, .failed running last (marked safe) (.intro flag) stops,
              .inr ⟨rfl, safe, stops⟩⟩
          · refine ⟨watch, .handled running last (marked safe) handles ?_, .inl running⟩
            rintro _ ⟨_⟩
            exact stops

theorem leads_callTool (decision : ToolCallDecision) {frame : Frame} {watch : Watch}
    (running : Running watch) :
    Exec.leads (Watches loop) (loop.callTool decision) (fun _ _ watch => Running watch)
      (fun error last watch => Running watch ∨ (watch.stopped = some error ∧
        last.safeReplay = false ∧ loop.Stops last.state error)) frame watch := by
  unfold callTool
  refine Exec.leads_seq (Exec.leads_ofExcept (fun safeReplay flag => ?_) fun _ _ => .inl running)
  refine Exec.leads_seq (Exec.leads_modify (Exec.leads_seq (leads_checkpoint fun reply => ?_)))
  cases reply with
  | error error =>
      exact ⟨watch, .other running (fun _ _ same => by cases same) (not_handlesUnsafe nofun),
        fun _ _ => .inl running, nofun⟩
  | ok accepted =>
      refine ⟨_, .saved running, nofun, fun _ => ?_⟩
      refine Exec.leads_seq (leads_remainingSeconds (watches_quiet _) (fun remaining _ => ?_)
        fun _ _ _ => .inl running)
      refine Exec.leads_seq (Exec.leads_get (Exec.leads_seq (Exec.leads_ask fun _ => ?_)))
      refine ⟨_, .other running nofun (not_handlesUnsafe nofun), Exec.leads_seq ?_⟩
      refine leads_dispatch decision remaining running rfl flag fun safe => ?_
      cases safe
      exact unsafePending_progress _ _ _ decision

theorem leads_recoverTool (decision : ToolCallDecision) {error : Exc} {frame : Frame}
    {watch : Watch} (failed : Running watch ∨ (watch.stopped = some error ∧
      frame.safeReplay = false ∧ loop.Stops frame.state error)) :
    Exec.leads (Watches loop) (loop.recoverTool decision error)
      (fun _ _ watch => Running watch) (fun error _ watch => Stopping error watch) frame watch := by
  rcases failed with running | ⟨stopped, safe, stops⟩
  · exact Heeds.of_calm (keeps_recoverTool watches_lasts.carries decision error) frame watch running
  · unfold recoverTool
    refine Exec.leads_seq (Exec.leads_get (Exec.leads_seq (Exec.leads_raiseIf
      (fun recoverable => ?_) fun _ => .inr stopped)))
    rcases stops with final | ⟨used, counted, spent⟩
    · rw [safe] at recoverable
      exact absurd final recoverable
    · refine Exec.leads_seq (leads_inControl ?_)
      unfold Control.recover
      refine Exec.leads_seq (Exec.leads_get (Exec.leads_seq (Exec.leads_ofExcept
        (fun value same => ?_) fun _ other => ?_)))
      · rw [counted] at same
        cases same
        rw [if_pos spent]
        exact Exec.leads_pure (Exec.leads_seq (Exec.leads_raiseIf (fun differs => absurd rfl differs)
          fun _ => .inr stopped))
      · rw [counted] at other
        cases other

theorem heeds_toolStep (decision : ToolCallDecision) : Heeds loop (loop.toolStep decision) := by
  unfold toolStep
  refine .bind (.of_calm (keeps_startPhase watches_lasts.survives _)) fun _ =>
    .bind (.of_calm (.modify fun _ _ running => running)) fun _ =>
    .bind (.of_calm (keeps_checkDeadline watches_lasts.survives)) fun _ =>
    .bind (.of_calm (.modify fun _ _ running => running)) fun _ =>
    .bind (fun frame watch running => ?_) fun result => ?_
  · exact Exec.leads_tryCatch (leads_callTool decision running)
      fun _ _ _ failed => leads_recoverTool decision failed
  · cases result with
    | some result => exact .of_calm (keeps_recordResult watches_lasts.survives _ _)
    | none => exact .of_calm (.pure _)

/-! ## The whole loop -/

theorem heeds_turn (step : Int) (pending : Option Json) : Heeds loop (loop.turn step pending) := by
  unfold turn
  refine .bind (.of_calm (keeps_checkDeadline watches_lasts.survives)) fun _ =>
    .bind (.of_calm (.modify fun _ _ running => running)) fun _ =>
    .bind (.of_calm ?_) fun decision => ?_
  · cases pending with
    | some pending => exact .bind (.ofExcept _) fun _ => .pure _
    | none => exact keeps_modelStep (watches_lasting loop).carrying
  · cases decision with
    | none => exact .of_calm (.pure _)
    | some decision =>
        refine .bind (.of_calm (keeps_checkDeadline watches_lasts.survives)) fun _ => ?_
        cases decision with
        | answer answer =>
            exact .of_calm (.bind (keeps_finalAnswer (watches_lasting loop).carrying _)
              fun _ => .pure _)
        | toolCall decision => exact .bind (heeds_toolStep _) fun _ => .of_calm (.pure _)

theorem heeds_turns (steps : List Int) (pending : Option Json) :
    Heeds loop (loop.turns steps pending) := by
  induction steps generalizing pending with
  | nil =>
      exact .of_calm (.bind (keeps_checkDeadline watches_lasts.survives) fun _ =>
        .bind (.modify fun _ _ running => running) fun _ => .throw _)
  | cons step steps induction =>
      unfold turns
      refine .bind (heeds_turn _ _) fun answer => ?_
      cases answer with
      | some answer => exact .of_calm (.pure _)
      | none => exact induction none

theorem heeds_run (loop : AgentLoop) : Heeds loop loop.run := by
  have asks : Heeds loop (Exec.ask Request.perfCounter : Exec Reply Exc Dict Time) :=
    .of_calm (.ask fun _ watch reply running =>
      ⟨watch, watches_quiet watch ⟨.perfCounter, reply⟩ rfl, running⟩)
  have body : Heeds loop loop.body := by
    unfold AgentLoop.body
    exact .bind (.of_calm .get) fun _ => .bind (.of_calm (.raiseIf _ _)) fun _ =>
      .bind (.of_calm (.ofExcept _)) fun _ =>
      .bind (.of_calm (.modify fun _ _ running => running)) fun _ => heeds_turns _ _
  unfold run
  refine .bind asks fun started => .bind (.of_calm .get) fun state =>
    .bind (.of_calm (.ofExcept _)) fun frame dict watch running => ?_
  exact Exec.leads_zoom (Exec.leads_tryCatch (body _ watch running)
    fun _ _ _ stopping => leads_counted (watches_quiet _) stopping)

end Loop

/-! ## The marker in the store -/

/-- The label is no checkpoint that another client writes with the lease. Only the
attempt knows its token. -/
def Foreign (lease : Lease) (label : Session.Label) : Prop :=
  ∀ call, label = .client call →
    ∀ saved, call.operation ≠ .checkpoint lease.runId lease.tenant lease.token saved

/-- The run's checkpoint is the dictionary the attempt saved, and nobody else
holds the run's lease. -/
structure Marked (lease : Lease) (state : StoreState) (dict : Dict) (view : RunView) : Prop where
  found : state.db.view lease.runId = some view
  tenant : view.row.tenant = lease.tenant
  checkpoint : view.row.checkpoint = dict
  holder : view.row.leaseToken = none ∨ view.row.leaseToken = some lease.token

/-- A change that is no checkpoint of the attempt keeps the marker: while it
stands there is no claim, so nobody else gets a lease to write with. -/
theorem Marked.change {lease : Lease} {dict : Dict} (pending : unsafePending dict = true)
    {store : SQLiteRunStore} {clock : Clock} {operation : Operation} {view after : RunView}
    (checkpoint : view.row.checkpoint = dict)
    (holder : view.row.leaseToken = none ∨ view.row.leaseToken = some lease.token)
    (change : Change store clock operation view after)
    (foreign : ∀ saved, operation ≠ .checkpoint view.row.id view.row.tenant lease.token saved) :
    after.row.checkpoint = dict ∧
      (after.row.leaseToken = none ∨ after.row.leaseToken = some lease.token) := by
  cases change with
  | claimed _ _ _ claimable =>
      have safe := claimable.safe
      rw [checkpoint, pending] at safe
      cases safe
  | saved owned =>
      rcases holder with none | held
      · rw [owned.held] at none
        cases none
      · rw [owned.held] at held
        cases held
        exact absurd rfl (foreign _)
  | finished => exact ⟨checkpoint, .inl rfl⟩
  | resumed => exact ⟨checkpoint, .inl rfl⟩
  | read reconciled =>
      cases reconciled with
      | untouched => exact ⟨checkpoint, holder⟩
      | _ => exact ⟨checkpoint, .inl rfl⟩
  | _ => exact ⟨checkpoint, holder⟩

theorem Marked.call {lease : Lease} {dict : Dict} (pending : unsafePending dict = true)
    {state next : StoreState} {call : Call} {view : RunView} (marked : Marked lease state dict view)
    (valid : state.db.WellFormed) (step : RunStore.Step state call next)
    (foreign : ∀ saved,
      call.operation ≠ .checkpoint lease.runId lease.tenant lease.token saved) :
    ∃ after, Marked lease next dict after := by
  have viewStep := step.view valid lease.runId
  rw [marked.found] at viewStep
  generalize reached : next.db.view lease.runId = arrived at viewStep
  cases viewStep with
  | same => exact ⟨view, reached, marked.tenant, marked.checkpoint, marked.holder⟩
  | created absent => cases absent
  | changed present change =>
      cases present
      have id := RunDb.id_of_view marked.found
      have kept := Marked.change pending marked.checkpoint marked.holder change
        fun saved same => foreign saved (by rw [same, id, marked.tenant])
      exact ⟨_, reached, (Change.tenant change).trans marked.tenant, kept.1, kept.2⟩

theorem Marked.waits {lease : Lease} {dict : Dict} {state next : StoreState} {view : RunView}
    (marked : Marked lease state dict view) (same : next.db = state.db) :
    Marked lease next dict view :=
  ⟨by rw [same]; exact marked.found, marked.tenant, marked.checkpoint, marked.holder⟩

theorem Answers.marked {store : SQLiteRunStore} {state next : StoreState} {lease : Lease}
    {site : Site} {dict : Dict}
    (answers : Answers store state ⟨.control (.checkpoint lease site dict),
      (Except.ok () : Except RunStoreError Unit)⟩ next) (valid : state.db.WellFormed) :
    ∃ view, Marked lease next dict view := by
  rcases answers.checkpoint valid with ⟨error, refused, _⟩ | ⟨_, view, updated, leaseUntil, held,
    _, rewrites⟩
  · cases refused
  · refine ⟨view.saved dict updated leaseUntil, ?_, held.tenant, rfl, .inr held.owned.held⟩
    rw [← held.id]
    exact rewrites.here

theorem Marked.event {lease : Lease} {dict : Dict} (pending : unsafePending dict = true)
    {store : SQLiteRunStore} {state next : StoreState} {event : Event Reply} {view : RunView}
    (marked : Marked lease state dict view) (valid : state.db.WellFormed)
    (answers : Answers store state event next)
    (notSaved : ∀ site dict, event ≠ ⟨.control (.checkpoint lease site dict),
      (Except.ok () : Except RunStoreError Unit)⟩) : ∃ after, Marked lease next dict after := by
  by_cases own : ∃ site saved, event.request = .control (.checkpoint lease site saved)
  · obtain ⟨site, saved, same⟩ := own
    obtain ⟨request, reply⟩ := event
    cases same
    rcases answers.checkpoint valid with ⟨_, _, same⟩ | ⟨rfl, _⟩
    · exact ⟨view, marked.waits same⟩
    · exact absurd rfl (notSaved site saved)
  · cases answers with
    | performed call token _ operation step _ =>
        refine marked.call pending valid step fun saved same => own ?_
        rw [same] at operation
        obtain ⟨request, reply⟩ := event
        rcases request with request | _
        · rcases request with _ | _ | ⟨other, site, written⟩ | _
          case checkpoint =>
            rcases other with ⟨_, _, _⟩
            rcases lease with ⟨_, _, _⟩
            cases operation
            exact ⟨site, saved, rfl⟩
          all_goals cases operation
        all_goals cases operation
    | refused _ waits => exact ⟨view, marked.waits waits.db⟩
    | other _ waits => exact ⟨view, marked.waits waits.db⟩

/-! ## Sessions of the loop -/

/-- A session of the loop whose last accepted marker is still in the store. -/
structure Watched (loop : AgentLoop) (watch : Watch)
    (session : Session (Except Exc AgentAnswer × Dict)) : Prop where
  valid : session.store.db.WellFormed
  follows : Follows (Watches loop)
    (fun out watch => ∀ error, watch.stopped = some error → out.1 = .error error)
    session.program watch
  marked : ∀ dict, watch.saved = some dict → unsafePending dict = true →
    ∃ view, Marked loop.control.lease session.store dict view

theorem Watched.start (loop : AgentLoop) {state : StoreState} (valid : state.db.WellFormed)
    (dict : Dict) :
    Watched loop { saved := none, stopped := none } (loop.session state dict) := by
  refine ⟨valid, ?_, fun _ saved => by cases saved⟩
  have leads := heeds_run loop dict { saved := none, stopped := none } rfl
  refine Follows.mono leads ?_
  rintro ⟨outcome, last⟩ watch ends error stopped
  cases outcome with
  | ok answer => rw [show watch.stopped = none from ends] at stopped; cases stopped
  | error raised =>
      rcases ends with running | same
      · rw [running] at stopped
        cases stopped
      · rw [same] at stopped
        cases stopped
        rfl

section Steps

variable {loop : AgentLoop} {settings : SQLiteRunStore} {watch : Watch}
  {session next : Session (Except Exc AgentAnswer × Dict)}

theorem Watched.client {call : Call} (watched : Watched loop watch session)
    (step : Session.Step settings session (.client call) next)
    (foreign : Foreign loop.control.lease (.client call)) : Watched loop watch next := by
  have same := step.program
  refine ⟨step.wellFormed watched.valid, same ▸ watched.follows, fun dict saved pending => ?_⟩
  obtain ⟨view, marked⟩ := watched.marked dict saved pending
  cases step with
  | client step => exact marked.call pending watched.valid step (foreign call rfl)

theorem Watched.event {event : Event Reply} (watched : Watched loop watch session)
    (step : Session.Step settings session (.event event) next) :
    ∃ after, Watches loop watch event after ∧ Watched loop after next := by
  obtain ⟨after, watches, follows⟩ := step.follows watched.follows
  refine ⟨after, watches, step.wellFormed watched.valid, follows, fun dict saved pending => ?_⟩
  have kept (same : after.saved = watch.saved)
      (notSaved : ∀ site dict, event ≠ ⟨.control (.checkpoint loop.control.lease site dict),
        (Except.ok () : Except RunStoreError Unit)⟩) :
      ∃ view, Marked loop.control.lease next.store dict view := by
    obtain ⟨view, marked⟩ := watched.marked dict (same ▸ saved) pending
    exact marked.event pending watched.valid step.answers notSaved
  cases watches with
  | saved running =>
      cases saved
      exact step.answers.marked watched.valid
  | other running notSaved _ => exact kept rfl notSaved
  | handled running last _ handles _ =>
      obtain ⟨tool, arguments, remaining, same, _⟩ := handles
      refine kept rfl fun site dict equal => ?_
      rw [equal] at same
      cases same
  | failed running last _ raised _ =>
      cases raised
      exact kept rfl nofun
  | wound stopped neutral =>
      refine kept rfl fun site dict equal => ?_
      rw [equal] at neutral
      cases neutral

theorem Watches.stays {event : Event Reply} {after : Watch} {error : Exc}
    (watches : Watches loop watch event after) (stopped : watch.stopped = some error) :
    event.request.neutral = true ∧ after = watch := by
  have notRunning : watch.stopped ≠ none := by
    rw [stopped]
    nofun
  cases watches with
  | saved running => exact absurd running notRunning
  | other running => exact absurd running notRunning
  | handled running => exact absurd running notRunning
  | failed running => exact absurd running notRunning
  | wound _ neutral => exact ⟨neutral, rfl⟩

theorem Watched.run {labels : List Session.Label}
    (run : Run (Session.Step settings) session labels next)
    (foreign : ∀ label ∈ labels, Foreign loop.control.lease label)
    (watched : Watched loop watch session) : ∃ after, Watched loop after next := by
  induction run generalizing watch with
  | nil => exact ⟨watch, watched⟩
  | @cons first middle last label labels step rest induction =>
      have later := fun other member => foreign other (List.mem_cons_of_mem label member)
      cases label with
      | client call => exact induction later (watched.client step (foreign _ List.mem_cons_self))
      | event event =>
          obtain ⟨after, _, kept⟩ := watched.event step
          exact induction later kept

theorem Watched.stopped {labels : List Session.Label} {error : Exc}
    (run : Run (Session.Step settings) session labels next)
    (foreign : ∀ label ∈ labels, Foreign loop.control.lease label)
    (watched : Watched loop watch session) (stopped : watch.stopped = some error) :
    (∀ event ∈ Session.events labels, event.request.neutral = true) ∧
      Watched loop watch next := by
  induction run with
  | nil => exact ⟨by simp [Session.events], watched⟩
  | @cons first middle last label labels step rest induction =>
      have later := fun other member => foreign other (List.mem_cons_of_mem label member)
      cases label with
      | client call =>
          exact induction later (watched.client step (foreign _ List.mem_cons_self))
      | event event =>
          obtain ⟨after, watches, kept⟩ := watched.event step
          obtain ⟨neutral, rfl⟩ := watches.stays stopped
          obtain ⟨calm, holds⟩ := induction later kept
          refine ⟨fun other member => ?_, holds⟩
          rcases List.mem_cons.mp member with rfl | member
          · exact neutral
          · exact calm other member

end Steps

theorem handler_failure_stops (loop : AgentLoop) (settings : SQLiteRunStore) {state : StoreState}
    (reachable : Reachable RunStore.Step Initial state) (dict : Dict)
    {labels : List Session.Label} {session failed : Session (Except Exc AgentAnswer × Dict)}
    (run : Run (Session.Step settings) (loop.session state dict) labels session)
    (foreign : ∀ label ∈ labels, Foreign loop.control.lease label) {event : Event Reply}
    (step : Session.Step settings session (.event event) failed) {error : Exc}
    (raised : HandlerRaised loop.tools event error) :
    ∃ view, session.store.db.view loop.control.lease.runId = some view ∧
      unsafePending view.row.checkpoint = true ∧
      (loop.Stops view.row.checkpoint error →
        ∀ more last, Run (Session.Step settings) failed more last →
        (∀ label ∈ more, Foreign loop.control.lease label) →
        (∀ later ∈ Session.events more, later.request.neutral = true) ∧
        (∀ outcome dict, last.program = .done (outcome, dict) → outcome = .error error) ∧
        ∃ after, last.store.db.view loop.control.lease.runId = some after ∧
          unsafePending after.row.checkpoint = true) := by
  have start := Watched.start loop (Reachable.wellFormed reachable) dict
  obtain ⟨watch, watched⟩ := start.run run foreign
  obtain ⟨after, watches, kept⟩ := watched.event step
  have marker {saved : Dict} (last : watch.saved = some saved)
      (pending : unsafePending saved = true) :
      ∃ view, session.store.db.view loop.control.lease.runId = some view ∧
        view.row.checkpoint = saved := by
    obtain ⟨view, marked⟩ := watched.marked saved last pending
    exact ⟨view, marked.found, marked.checkpoint⟩
  cases watches with
  | saved => cases raised
  | other _ _ notHandled =>
      cases raised with
      | intro registered => exact absurd ⟨_, _, _, rfl, registered⟩ notHandled
  | wound _ neutral =>
      cases raised
      cases neutral
  | handled _ last pending _ goesOn =>
      obtain ⟨view, found, same⟩ := marker last pending
      refine ⟨view, found, by rw [same]; exact pending, fun stops => ?_⟩
      rw [same] at stops
      exact absurd stops (goesOn error raised)
  | @failed saved _ other _ last pending handlerRaised stops =>
      obtain ⟨view, found, same⟩ := marker last pending
      have equal : other = error := by
        cases raised
        cases handlerRaised
        rfl
      subst equal
      refine ⟨view, found, by rw [same]; exact pending, fun _ more final rest foreign => ?_⟩
      obtain ⟨calm, holds⟩ := kept.stopped rest foreign rfl
      refine ⟨calm, fun outcome dict ends => ?_, ?_⟩
      · have follows := holds.follows
        rw [ends] at follows
        exact follows _ rfl
      · obtain ⟨after, marked⟩ := holds.marked saved last pending
        exact ⟨after, marked.found, by rw [marked.checkpoint]; exact pending⟩

theorem tracks_run {loop : AgentLoop} {settings : SQLiteRunStore} {dict : Dict}
    {session next : Session (Except Exc AgentAnswer × Dict)} {labels : List Session.Label}
    (run : Run (Session.Step settings) session labels next) {past : List (Event Reply)}
    (follows : Follows loop.Tracks (fun _ _ => True) session.program
      (loop.conductAfter dict past)) :
    Follows loop.Tracks (fun _ _ => True) next.program
      (loop.conductAfter dict (past ++ Session.events labels)) := by
  induction run generalizing past with
  | nil => simpa [Session.events] using follows
  | @cons first middle last label labels step rest induction =>
      cases label with
      | client call => exact induction (step.program ▸ follows)
      | event event =>
          obtain ⟨_, ⟨rfl, _⟩, later⟩ := step.follows follows
          have told : loop.conductAfter dict (past ++ [event]) =
              (loop.conductAfter dict past).next loop.control.lease event := by
            simp [AgentLoop.conductAfter]
          have done := induction (told ▸ later)
          rwa [List.append_assoc] at done

/-- Whatever the provider, the reviewer, the store and other clients do: the
handler of a tool that must not be replayed runs behind a durable marker. When it
raises an error that is not also one of a refused call, or no recovery is left in
the durable checkpoint, the loop raises that error, makes no other call or
checkpoint first, and the marker stays. A recovery is counted for a call of such a
tool only when the dispatcher refused it before any handler, or when its handler
raised what does not stop the loop. -/
theorem unsafe_failure_stops (loop : AgentLoop) (settings : SQLiteRunStore) {state : StoreState}
    (reachable : Reachable RunStore.Step Initial state) (dict : Dict)
    {labels : List Session.Label} {session : Session (Except Exc AgentAnswer × Dict)}
    (run : Run (Session.Step settings) (loop.session state dict) labels session)
    (foreign : ∀ label ∈ labels, Foreign loop.control.lease label) :
    (∀ event failed error, Session.Step settings session (.event event) failed →
      HandlerRaised loop.tools event error →
      ∃ view, session.store.db.view loop.control.lease.runId = some view ∧
        unsafePending view.row.checkpoint = true ∧
        (loop.Stops view.row.checkpoint error →
          ∀ more last, Run (Session.Step settings) failed more last →
          (∀ label ∈ more, Foreign loop.control.lease label) →
          (∀ later ∈ Session.events more, later.request.neutral = true) ∧
          (∀ outcome dict, last.program = .done (outcome, dict) → outcome = .error error) ∧
          ∃ after, last.store.db.view loop.control.lease.runId = some after ∧
            unsafePending after.row.checkpoint = true)) ∧
    (∀ event recovering, Session.Step settings session (.event event) recovering →
      loop.Recovers event.request →
      loop.Excuses (loop.conductAfter dict (Session.events labels))) := by
  refine ⟨fun event failed error step raised =>
    handler_failure_stops loop settings reachable dict run foreign step raised,
    fun event recovering step recovers => ?_⟩
  have start : Follows loop.Tracks (fun _ _ => True) (loop.session state dict).program
      (loop.conductAfter dict []) := by
    refine Follows.mono (track_run loop dict) fun _ _ _ => trivial
  obtain ⟨_, ⟨_, excuses⟩, _⟩ := step.follows (tracks_run run start)
  exact excuses recovers

/-! A model that calls a tool which must not be replayed. -/

namespace Sample

def charge : ToolDefinition :=
  { name := "charge", description := "", parameters := .obj [], accepts := fun _ => true }

def chargeCall : ToolCallDecision :=
  { name := ⟨"charge", by decide +kernel, by decide, by rintro limit ⟨⟩⟩, arguments := [] }

def charging : AgentLoop :=
  { loop with tools := [charge], provider := fun _ _ _ _ => return chargeCall.dump }

def failing (error : Exc) : (request : Request) → Reply request
  | .handle _ _ _ => (Except.error error : Except Exc ToolResult)
  | request => others request

def charged (error : Exc) : List Session.Label × Session (Except Exc AgentAnswer × Dict) :=
  (charging.session { db := RunStore.Sample.started, now := 0 } []).play RunStore.Sample.store 0 ""
    (failing error) 60

def isFailure (error : Exc) : Session.Label → Bool
  | .event ⟨.handle "charge" _ _, reply⟩ =>
      match (reply : Except Exc ToolResult) with
      | .error raised => raised = error
      | .ok _ => false
  | _ => false

theorem handlerRaised {error : Exc} {label : Session.Label} (fails : isFailure error label = true) :
    ∃ event, label = .event event ∧ HandlerRaised charging.tools event error := by
  unfold isFailure at fails
  split at fails
  · split at fails
    · rename_i raised
      obtain rfl : raised = error := by simpa using fails
      exact ⟨_, rfl, .intro rfl⟩
    · cases fails
  · cases fails

def isEvent (label : Session.Label) : Bool := label.event?.isSome

theorem foreign_of_event {lease : Lease} {label : Session.Label} (event : isEvent label = true) :
    Foreign lease label := by
  rintro call rfl
  cases event

theorem run_split_at {first last : Session (Except Exc AgentAnswer × Dict)}
    {labels : List Session.Label}
    (run : Run (Session.Step RunStore.Sample.store) first labels last) (index : Nat)
    {picks : Session.Label → Bool} (picked : (labels.drop index).head?.any picks = true) :
    ∃ session label next,
      Run (Session.Step RunStore.Sample.store) first (labels.take index) session ∧
      Session.Step RunStore.Sample.store session label next ∧ picks label = true ∧
      Run (Session.Step RunStore.Sample.store) next (labels.drop (index + 1)) last := by
  rw [← List.take_append_drop index labels] at run
  obtain ⟨session, before, after⟩ := run.split
  have tail : labels.drop (index + 1) = (labels.drop index).tail := by simp
  rw [tail]
  generalize labels.drop index = rest at picked after
  cases after with
  | nil => cases picked
  | @cons _ next _ label labels step after =>
      exact ⟨session, label, next, before, step, by simpa using picked, after⟩

theorem charged_split {error : Exc}
    (fails : ((charged error).1.drop 25).head?.any (isFailure error) = true) :
    ∃ session event failed,
      Run (Session.Step RunStore.Sample.store)
        (charging.session { db := RunStore.Sample.started, now := 0 } [])
        ((charged error).1.take 25) session ∧
      Session.Step RunStore.Sample.store session (.event event) failed ∧
      HandlerRaised charging.tools event error ∧
      Run (Session.Step RunStore.Sample.store) failed ((charged error).1.drop 26)
        (charged error).2 := by
  have run : Run (Session.Step RunStore.Sample.store)
      (charging.session { db := RunStore.Sample.started, now := 0 } []) (charged error).1
      (charged error).2 := Session.play_run 60 (le_refl _)
  obtain ⟨session, label, failed, before, step, picked, after⟩ := run_split_at run 25 fails
  obtain ⟨event, rfl, raised⟩ := handlerRaised picked
  exact ⟨session, event, failed, before, step, raised, after⟩

def refusing : AgentLoop :=
  { charging with tools := [{ charge with accepts := fun _ => false }] }

def refused : List Session.Label × Session (Except Exc AgentAnswer × Dict) :=
  (refusing.session { db := RunStore.Sample.started, now := 0 } []).play RunStore.Sample.store 0 ""
    others 30

def isRecovery : Session.Label → Bool
  | .event ⟨.control (.checkpoint lease .recovery _), _⟩ => lease = control.lease
  | _ => false

theorem recovers_of_isRecovery {label : Session.Label} (recovers : isRecovery label = true) :
    ∃ event, label = .event event ∧ refusing.Recovers event.request := by
  unfold isRecovery at recovers
  split at recovers
  · rename_i lease saved reply
    obtain rfl : lease = control.lease := by simpa using recovers
    exact ⟨_, rfl, saved, rfl⟩
  · cases recovers

end Sample

/-- The marker of a charge that failed stays, and a charge whose arguments are
refused is excused. -/
theorem unsafe_failure_stops_charge :
    (∃ after, (Sample.charged (.other "ChargeError")).2.store.db.view "run" = some after ∧
      unsafePending after.row.checkpoint = true) ∧
    Sample.refusing.Excuses
      (Sample.refusing.conductAfter [] (Session.events (Sample.refused.1.take 25))) := by
  have reachable : Reachable RunStore.Step Initial { db := RunStore.Sample.started, now := 0 } :=
    ⟨{ db := RunDb.empty, now := 0 }, _, rfl, RunStore.Sample.started_run⟩
  constructor
  · have events : (Sample.charged (.other "ChargeError")).1.all Sample.isEvent = true := by
      decide +kernel
    have foreign : ∀ label ∈ (Sample.charged (.other "ChargeError")).1,
        Foreign Sample.control.lease label := fun label member =>
      Sample.foreign_of_event (List.all_eq_true.mp events label member)
    obtain ⟨session, event, failed, run, step, raised, rest⟩ :=
      @Sample.charged_split (.other "ChargeError") (by decide +kernel)
    obtain ⟨view, _, _, stops⟩ := (unsafe_failure_stops Sample.charging RunStore.Sample.store
      reachable [] run fun label member => foreign label (List.mem_of_mem_take member)).1
      event failed _ step raised
    exact (stops (.inl rfl) _ _ rest
      fun label member => foreign label (List.mem_of_mem_drop member)).2.2
  · have events : Sample.refused.1.all Sample.isEvent = true := by decide +kernel
    have run : Run (Session.Step RunStore.Sample.store)
        (Sample.refusing.session { db := RunStore.Sample.started, now := 0 } []) Sample.refused.1
        Sample.refused.2 := Session.play_run 30 (le_refl _)
    obtain ⟨session, label, next, run, step, picked, _⟩ := Sample.run_split_at run 25
      (by decide +kernel : (Sample.refused.1.drop 25).head?.any Sample.isRecovery = true)
    obtain ⟨event, rfl, recovers⟩ := Sample.recovers_of_isRecovery picked
    exact (unsafe_failure_stops Sample.refusing RunStore.Sample.store reachable [] run
      fun label member => Sample.foreign_of_event
        (List.all_eq_true.mp events label (List.mem_of_mem_take member))).2 event next step recovers

/-- When the handler raises the error that also reports invalid arguments, the
model is asked for another decision. -/
theorem unsafe_failure_recovered :
    ¬∀ labels session event failed error more last,
      Run (Session.Step RunStore.Sample.store)
        (Sample.charging.session { db := RunStore.Sample.started, now := 0 } []) labels session →
      (∀ label ∈ labels ++ more, Foreign Sample.control.lease label) →
      Session.Step RunStore.Sample.store session (.event event) failed →
      HandlerRaised Sample.charging.tools event error →
      Run (Session.Step RunStore.Sample.store) failed more last →
      ∀ later ∈ Session.events more, later.request.external = false := by
  intro stops
  obtain ⟨session, event, failed, run, step, raised, rest⟩ :=
    @Sample.charged_split .validationError (by decide +kernel)
  have events : ((Sample.charged .validationError).1.take 25 ++
      (Sample.charged .validationError).1.drop 26).all Sample.isEvent = true := by
    decide +kernel
  have calm := stops _ _ _ _ _ _ _ run (fun label member =>
    Sample.foreign_of_event (List.all_eq_true.mp events label member)) step raised rest
  have calls : (Session.events ((Sample.charged .validationError).1.drop 26)).any
      (fun event => event.request.external) = true := by decide +kernel
  obtain ⟨later, member, external⟩ := List.any_eq_true.mp calls
  rw [calm later member] at external
  cases external

end Crewos.Agent

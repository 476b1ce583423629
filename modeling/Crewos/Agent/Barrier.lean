import Crewos.Agent.Session
import Crewos.RunStore.Stopping

/-! # The guard barrier

Every call of a provider, a dispatcher or a reviewer follows a guard of the
attempt that left time to work in, with no other such call between the two. -/

namespace Crewos.Agent

open Foundation RunStore

/-- A guard of the lease that returned time to work in. -/
def Clears (lease : Lease) : Event Reply → Prop
  | ⟨.control (.guard other), reply⟩ =>
      other = lease ∧ ∃ remaining, reply = Except.ok remaining ∧ (0 : Time) < remaining
  | _ => False

open Classical in
/-- The ghost state tells whether a guard has cleared the way since the last
external call. -/
noncomputable def barrier (lease : Lease) : Monitor Reply Bool where
  permits cleared request := request.external = true → cleared = true
  admits _ _ _ := True
  advance cleared request reply :=
    if request.external then false
    else if Clears lease ⟨request, reply⟩ then true else cleared

theorem barrier_cleared {lease : Lease} {request : Request} {reply : Reply request}
    {cleared : Bool} (internal : request.external = false) :
    (barrier lease).advance cleared request reply = true ↔
      Clears lease ⟨request, reply⟩ ∨ cleared = true := by
  by_cases clears : Clears lease ⟨request, reply⟩ <;> simp [barrier, internal, clears]

theorem barrier_guard {lease : Lease} {cleared : Bool} {remaining : Time}
    (positive : 0 < remaining) :
    (barrier lease).advance cleared (.control (.guard lease))
      (Except.ok remaining : Except RunStoreError Time) = true :=
  (barrier_cleared rfl).mpr (.inl ⟨rfl, remaining, rfl, positive⟩)

/-! ## The loop keeps to the barrier -/

section Loop

variable {loop : AgentLoop} {lease : Lease}

open AgentLoop

theorem safe_inControl (computation : ControlExec α) :
    Exec.Safe (barrier lease) (inControl computation) := by
  apply Exec.Safe.zoom
  apply Exec.Safe.embed wideReply (fun _ _ => rfl)
  intro ghost request external
  cases external

theorem safe_ask {request : Request} (internal : request.external = false) :
    Exec.Safe (barrier lease) (AgentLoop.ask request) := by
  apply Exec.Safe.ask
  intro ghost external
  rw [internal] at external
  cases external

theorem safe_setPhase (phase : Phase) : Exec.Safe (barrier lease) (setPhase phase) :=
  .modify _

theorem safe_perfCounter : Exec.Safe (barrier lease) perfCounter := safe_ask rfl

theorem safe_startPhase (phase : Phase) : Exec.Safe (barrier lease) (startPhase phase) :=
  .bind safe_perfCounter fun _ => .modify _

theorem safe_measure (operation : MetricOperation) (outcome : MetricOutcome) (since : Time) :
    Exec.Safe (barrier lease) (measure operation outcome since) :=
  .bind safe_perfCounter fun _ => .bind (safe_ask rfl) fun _ => .pure _

theorem safe_checkpoint (pending : Json) (replaySafe : Bool) :
    Exec.Safe (barrier lease) (loop.checkpoint pending replaySafe) :=
  .bind .get fun _ => safe_inControl _

theorem safe_remember (messages : List DecisionMessage) :
    Exec.Safe (barrier lease) (remember messages) := .modify _

/-- A guard of the control that returns has cleared the way. -/
theorem guard_clears (control : Control) (frame : Frame) (cleared : Bool) :
    Exec.wp (barrier control.lease) (inControl control.guard)
      (fun _ _ cleared => cleared = true) (fun _ _ _ => True) frame cleared := by
  rw [inControl, Exec.wp_zoom]
  apply wp_liftControl
  apply Control.wp_guard
  · intro external
    cases external
  · exact fun _ _ => trivial
  · intro external
    cases external
  · intro reply _
    refine ⟨fun _ _ => trivial, fun _ _ _ => trivial, fun remaining same positive => ?_⟩
    subst same
    exact barrier_guard positive

theorem remainingSeconds_clears (loop : AgentLoop) (frame : Frame) (cleared : Bool) :
    Exec.wp (barrier loop.control.lease) loop.remainingSeconds
      (fun _ _ cleared => cleared = true) (fun _ _ _ => True) frame cleared := by
  unfold remainingSeconds
  refine Exec.wp_seq safe_perfCounter.wp (fun now frame cleared _ => ?_) fun _ _ _ _ => trivial
  refine Exec.wp_seq (guard_clears loop.control frame cleared) (fun left frame cleared clear => ?_)
    fun _ _ _ _ => trivial
  rw [Exec.wp_bind, Exec.wp_get, Exec.wp_ite]
  exact ⟨fun _ => Exec.wp_bind.mpr trivial, fun _ => clear⟩

theorem safe_remainingSeconds :
    Exec.Safe (barrier loop.control.lease) loop.remainingSeconds :=
  fun frame cleared => Exec.wp_mono (remainingSeconds_clears loop frame cleared)
    (fun _ _ _ _ => trivial) fun _ _ _ _ => trivial

theorem safe_checkDeadline : Exec.Safe (barrier loop.control.lease) loop.checkDeadline :=
  .bind safe_remainingSeconds fun _ => .pure _

theorem safe_external {request : Time → Frame → Request} {next : Time → Frame → LoopExec α}
    (rest : ∀ timeout frame, Exec.Safe (barrier loop.control.lease) (next timeout frame)) :
    Exec.Safe (barrier loop.control.lease) (do
      let timeout ← loop.remainingSeconds
      let frame ← get
      let _ ← AgentLoop.ask (request timeout frame)
      next timeout frame) := by
  intro frame cleared
  refine Exec.wp_seq (remainingSeconds_clears loop frame cleared)
    (fun timeout frame cleared clear => ?_) fun _ _ _ _ => trivial
  rw [Exec.wp_bind, Exec.wp_get, Exec.wp_bind, AgentLoop.ask, Exec.wp_ask]
  exact ⟨fun _ => clear, fun _ _ => (rest timeout frame).wp⟩

theorem safe_askModel : Exec.Safe (barrier loop.control.lease) loop.askModel := by
  unfold askModel
  apply safe_external
  intro timeout frame
  exact .bind (safe_inControl _) fun _ => .bind (.ofExcept _) fun _ =>
    .bind (safe_ask rfl) fun _ => .pure _

theorem safe_recoverModel (error : Exc) :
    Exec.Safe (barrier loop.control.lease) (loop.recoverModel error) := by
  unfold recoverModel
  refine .bind (.raiseIf _ _) fun _ => .bind (safe_inControl _) fun _ =>
    .bind (.raiseIf _ _) fun _ => .bind .get fun _ => .bind (safe_measure _ _ _) fun _ =>
    .bind (safe_setPhase _) fun _ => .bind (safe_remember _) fun _ =>
    .bind (safe_checkpoint _ _) fun _ => .pure _

theorem safe_modelStep : Exec.Safe (barrier loop.control.lease) loop.modelStep := by
  unfold modelStep
  refine .bind (safe_startPhase _) fun _ => .bind (safe_checkpoint _ _) fun _ =>
    .bind (.tryCatch safe_askModel safe_recoverModel) fun decision => ?_
  split
  · exact .bind .get fun _ => .bind (safe_measure _ _ _) fun _ => .pure _
  · exact .pure _

theorem safe_askReviewer (request : DocumentReviewRequest) :
    Exec.Safe (barrier loop.control.lease) (loop.askReviewer request) := by
  unfold askReviewer
  apply safe_external
  intro timeout frame
  exact .bind (safe_inControl _) fun _ => .bind (.ofExcept _) fun _ =>
    .bind safe_checkDeadline fun _ => .bind (.ofExcept _) fun _ => safe_inControl _

theorem safe_checkAnswer (answer : AgentAnswer) :
    Exec.Safe (barrier loop.control.lease) (loop.checkAnswer answer) := by
  cases answer with
  | general answer => exact .bind .get fun _ => .ofExcept _
  | document answer =>
      unfold checkAnswer reviewAnswer
      exact .bind .get fun _ => .bind (.ofExcept _) fun _ => .bind (safe_setPhase _) fun _ =>
        .bind safe_perfCounter fun _ => .bind (.ofExcept _) fun _ =>
        .bind (.tryCatch (safe_askReviewer _) fun _ =>
          .bind (safe_measure _ _ _) fun _ => .throw _) fun _ => safe_measure _ _ _

theorem safe_finalAnswer (answer : AgentAnswer) :
    Exec.Safe (barrier loop.control.lease) (loop.finalAnswer answer) := by
  unfold finalAnswer
  exact .bind (safe_setPhase _) fun _ => .bind (safe_checkAnswer _) fun _ =>
    .bind (safe_inControl _) fun _ => .bind .get fun _ => .bind (safe_measure _ _ _) fun _ =>
    .pure _

theorem safe_dispatch (decision : ToolCallDecision) (remaining : Time) :
    Exec.Safe (barrier lease) (loop.dispatch decision remaining) := by
  unfold dispatch
  exact .bind (.ofExcept _) fun _ => .bind (.raiseIf _ _) fun _ => .bind (safe_ask rfl) fun _ =>
    .ofExcept _

theorem safe_callTool (decision : ToolCallDecision) :
    Exec.Safe (barrier loop.control.lease) (loop.callTool decision) := by
  unfold callTool
  refine .bind (.ofExcept _) fun _ => .bind (.modify _) fun _ =>
    .bind (safe_checkpoint _ _) fun _ => ?_
  apply safe_external
  intro remaining frame
  exact .bind (safe_dispatch _ _) fun _ => .pure _

theorem safe_recoverTool (decision : ToolCallDecision) (error : Exc) :
    Exec.Safe (barrier loop.control.lease) (loop.recoverTool decision error) := by
  unfold recoverTool
  exact .bind .get fun _ => .bind (.raiseIf _ _) fun _ => .bind (safe_inControl _) fun _ =>
    .bind (.raiseIf _ _) fun _ => .bind (safe_measure _ _ _) fun _ =>
    .bind (safe_setPhase _) fun _ => .bind (safe_remember _) fun _ =>
    .bind (safe_checkpoint _ _) fun _ => .pure _

theorem safe_observe (decision : ToolCallDecision) (result : ToolResult) :
    Exec.Safe (barrier lease) (loop.observe decision result) := by
  unfold observe
  split
  · exact .ite (.bind .get fun _ => .bind (.ofExcept _) fun _ => .modify _) (.pure _)
  · exact .pure _

theorem safe_recordResult (decision : ToolCallDecision) (result : ToolResult) :
    Exec.Safe (barrier loop.control.lease) (loop.recordResult decision result) := by
  unfold recordResult
  exact .bind (safe_observe _ _) fun _ => .bind (.modify _) fun _ => .bind .get fun _ =>
    .bind (safe_measure _ _ _) fun _ => .bind safe_checkDeadline fun _ =>
    .bind (safe_startPhase _) fun _ => .bind (safe_remember _) fun _ => safe_checkpoint _ _

theorem safe_toolStep (decision : ToolCallDecision) :
    Exec.Safe (barrier loop.control.lease) (loop.toolStep decision) := by
  unfold toolStep
  refine .bind (safe_startPhase _) fun _ => .bind (.modify _) fun _ =>
    .bind safe_checkDeadline fun _ => .bind (.modify _) fun _ =>
    .bind (.tryCatch (safe_callTool _) (safe_recoverTool _)) fun result => ?_
  cases result with
  | some result => exact safe_recordResult _ _
  | none => exact .pure _

theorem safe_turn (step : Int) (pending : Option Json) :
    Exec.Safe (barrier loop.control.lease) (loop.turn step pending) := by
  unfold turn
  refine .bind safe_checkDeadline fun _ => .bind (.modify _) fun _ => .bind ?_ fun decision => ?_
  · cases pending with
    | some pending => exact .bind (.ofExcept _) fun _ => .pure _
    | none => exact safe_modelStep
  · cases decision with
    | none => exact .pure _
    | some decision =>
        refine .bind safe_checkDeadline fun _ => ?_
        cases decision with
        | answer answer => exact .bind (safe_finalAnswer _) fun _ => .pure _
        | toolCall decision => exact .bind (safe_toolStep _) fun _ => .pure _

theorem safe_turns (steps : List Int) (pending : Option Json) :
    Exec.Safe (barrier loop.control.lease) (loop.turns steps pending) := by
  induction steps generalizing pending with
  | nil =>
      unfold turns
      exact .bind safe_checkDeadline fun _ => .bind (safe_setPhase _) fun _ => .throw _
  | cons step steps induction =>
      unfold turns
      refine .bind (safe_turn _ _) fun answer => ?_
      cases answer with
      | some answer => exact .pure _
      | none => exact induction none

theorem safe_failed (error : Exc) : Exec.Safe (barrier lease) (failed error) := by
  unfold failed
  refine .bind .get fun frame => ?_
  split <;> split
  · exact .bind (safe_measure _ _ _) fun _ => .bind (safe_measure _ _ _) fun _ =>
      .bind (safe_measure _ _ _) fun _ => .throw _
  · exact .bind (safe_measure _ _ _) fun _ => .bind (safe_measure _ _ _) fun _ => .throw _
  · exact .bind (safe_measure _ _ _) fun _ => .bind (safe_measure _ _ _) fun _ => .throw _
  · exact .bind (safe_measure _ _ _) fun _ => .throw _

/-- Whatever the provider, the reviewer, the tools and the store do, a run of the
loop keeps to the barrier. -/
theorem safe_run (loop : AgentLoop) : Exec.Safe (barrier loop.control.lease) loop.run := by
  unfold run
  refine .bind (.ask fun _ external => by cases external) fun _ => .bind .get fun _ =>
    .bind (.ofExcept _) fun _ => .zoom (.tryCatch ?_ safe_failed)
  unfold body
  exact .bind .get fun _ => .bind (.raiseIf _ _) fun _ => .bind (.ofExcept _) fun _ =>
    .bind (.modify _) fun _ => safe_turns _ _

end Loop

/-! ## What the barrier says of a history -/

def externals (events : List (Event Reply)) : List (Event Reply) :=
  events.filter fun event => event.request.external

/-- A guard of the lease has returned time to work in, and no external call has
been made since. -/
def Cleared (lease : Lease) (events : List (Event Reply)) : Prop :=
  ∃ earlier guard since, events = earlier ++ guard :: since ∧ Clears lease guard ∧
    externals since = []

theorem cleared_of_barrier {lease : Lease} {events : List (Event Reply)}
    (clear : (barrier lease).after false events = true) : Cleared lease events := by
  induction events using List.reverseRecOn with
  | nil => cases clear
  | append_singleton events event induction =>
      rw [Monitor.after_snoc] at clear
      cases external : event.request.external with
      | true => simp [barrier, external] at clear
      | false =>
          rcases (barrier_cleared external).mp clear with clears | before
          · exact ⟨events, event, [], rfl, clears, rfl⟩
          · obtain ⟨earlier, guard, since, rfl, clears, none⟩ := induction before
            refine ⟨earlier, guard, since ++ [event], by simp, clears, ?_⟩
            rw [externals] at none ⊢
            rw [List.filter_append, none]
            simp [external]

/-- The run is cancelled, its lease is lost or its deadline has passed. -/
def Ended (lease : Lease) (now : Time) (view : RunView) : Prop :=
  Stopped view lease.token now ∨ Late view now

theorem Ended.wait {lease : Lease} {now later : Time} {view : RunView}
    (ended : Ended lease now view) (forward : now ≤ later) : Ended lease later view :=
  ended.imp (fun stopped => stopped.wait forward) fun late => late.wait forward

theorem Session.Step.not_clears {Out : Type} {settings : SQLiteRunStore}
    {session next : Session Out} {event : Event Reply}
    (step : Session.Step settings session (.event event) next)
    (valid : session.store.db.WellFormed) {lease : Lease} {view : RunView}
    (found : session.store.db.view lease.runId = some view)
    (ended : Ended lease session.store.now view) : ¬Clears lease event := by
  intro clears
  obtain ⟨request, reply⟩ := event
  unfold Clears at clears
  split at clears
  · rename_i other reply same
    obtain ⟨rfl, remaining, rfl, positive⟩ := clears
    cases same
    cases step with
    | event _ answers =>
        cases answers with
        | performed call token _ operation step replied =>
            obtain ⟨reached, foundReached, notStopped, notLate⟩ := perform_guard step valid
              (Option.some.inj operation).symm replied positive
            rw [found] at foundReached
            cases foundReached
            exact ended.elim notStopped notLate
        | refused refused _ => cases refused
        | other elsewhere _ => exact absurd (elsewhere "") nofun
  · exact clears

theorem Session.Step.not_saved {Out : Type} {settings : SQLiteRunStore}
    {session next : Session Out} {lease : Lease} {site : Site} {saved : Dict}
    (step : Session.Step settings session
      (.event ⟨.control (.checkpoint lease site saved), (Except.ok () : Except RunStoreError Unit)⟩)
      next)
    (valid : session.store.db.WellFormed) {view : RunView}
    (found : session.store.db.view lease.runId = some view) :
    ¬Stopped view lease.token session.store.now := by
  intro stopped
  cases step with
  | event _ answers =>
      cases answers with
      | performed call token _ operation step replied =>
          obtain ⟨reached, foundReached, notStopped⟩ := perform_checkpoint step valid
            (Option.some.inj operation).symm replied
          rw [found] at foundReached
          cases foundReached
          exact notStopped stopped
      | refused refused _ => cases refused
      | other elsewhere _ => exact absurd (elsewhere "") nofun

/-! ## Sessions of the loop -/

/-- The run of a loop on a claimed run: the store and the program of the loop. -/
def AgentLoop.session (loop : AgentLoop) (state : StoreState) (dict : Dict) :
    Session (Except Exc AgentAnswer × Dict) :=
  { store := state, program := loop.run.run dict }

def KeepsBarrier {Out : Type} (lease : Lease) (past : List Session.Label)
    (session : Session Out) : Prop :=
  (barrier lease).Obeys (fun _ _ => True) session.program
    ((barrier lease).after false (Session.events past))

theorem AgentLoop.session_keepsBarrier (loop : AgentLoop) (state : StoreState) (dict : Dict) :
    KeepsBarrier loop.control.lease [] (loop.session state dict) :=
  Monitor.Obeys.mono (safe_run loop dict false) fun _ _ _ => trivial

theorem KeepsBarrier.step {Out : Type} {settings : SQLiteRunStore} {lease : Lease}
    {past : List Session.Label} {session next : Session Out} {label : Session.Label}
    (keeps : KeepsBarrier lease past session)
    (step : Session.Step settings session label next) :
    KeepsBarrier lease (past ++ [label]) next :=
  step.obeys (fun _ _ _ => trivial) keeps

/-- A history whose external calls all came when the way was clear. -/
structure Guarded {Out : Type} (lease : Lease) (past : List Session.Label)
    (session : Session Out) : Prop where
  keeps : KeepsBarrier lease past session
  cleared : ∀ before event after, Session.events past = before ++ event :: after →
    event.request.external = true → Cleared lease before

theorem Guarded.step {Out : Type} {settings : SQLiteRunStore} {lease : Lease}
    {past : List Session.Label} {session next : Session Out} {label : Session.Label}
    (guarded : Guarded lease past session)
    (step : Session.Step settings session label next) :
    Guarded lease (past ++ [label]) next := by
  refine ⟨guarded.keeps.step step, fun before event after split external => ?_⟩
  cases label with
  | client call =>
      rw [Session.events_client] at split
      exact guarded.cleared before event after split external
  | event taken =>
      rw [Session.events_event] at split
      rcases snoc_split split with ⟨rfl, rfl, rfl⟩ | ⟨init, rfl, shorter⟩
      · exact cleared_of_barrier (step.permits guarded.keeps external)
      · exact guarded.cleared before event init shorter external

/-- The steps `past` of an attempt that was over before them: at most the one
external call that was already cleared is made. -/
structure Winding {Out : Type} (lease : Lease) (begun past : List Session.Label)
    (session : Session Out) : Prop where
  keeps : KeepsBarrier lease (begun ++ past) session
  valid : session.store.db.WellFormed
  ended : ∃ view, session.store.db.view lease.runId = some view ∧ Issued view lease.token ∧
    Ended lease session.store.now view
  calls : (externals (Session.events past)).length +
    (if (barrier lease).after false (Session.events (begun ++ past)) = true then 1 else 0) ≤ 1

theorem Winding.step {Out : Type} {settings : SQLiteRunStore} {lease : Lease}
    {begun past : List Session.Label} {session next : Session Out} {label : Session.Label}
    (winding : Winding lease begun past session)
    (step : Session.Step settings session label next) :
    Winding lease begun (past ++ [label]) next := by
  have keeps := winding.keeps.step step
  obtain ⟨view, found, issued, ended⟩ := winding.ended
  refine ⟨by rwa [← List.append_assoc], step.wellFormed winding.valid, ?_, ?_⟩
  · obtain ⟨after, foundAfter, kept⟩ := step.view_preserves
      (fun now later view forward (holds : Issued view lease.token ∧ Ended lease now view) =>
        ⟨holds.1, holds.2.wait forward⟩)
      (fun call now later view after timed holds change =>
        ⟨change.issuedToken holds.1,
          holds.2.imp (fun stopped => stopped.change timed holds.1 change)
            fun late => late.change timed change⟩)
      winding.valid found ⟨issued, ended⟩
    exact ⟨after, foundAfter, kept⟩
  · have calls := winding.calls
    rw [← List.append_assoc]
    cases label with
    | client call =>
        rw [Session.events_client, Session.events_client]
        exact calls
    | event event =>
        rw [Session.events_event, Session.events_event, Monitor.after_snoc, externals,
          List.filter_append]
        cases external : event.request.external with
        | true =>
            -- The call was cleared, so it is the first one since the end.
            rw [if_pos (step.permits winding.keeps external)] at calls
            have none : externals (Session.events past) = [] :=
              List.length_eq_zero_iff.mp (by omega)
            rw [externals] at none
            rw [none]
            simp [barrier, external]
        | false =>
            have same := @barrier_cleared lease event.request event.reply
              ((barrier lease).after false (Session.events (begun ++ past))) external
            rw [or_iff_right (step.not_clears winding.valid found ended)] at same
            simp only [same, List.filter_cons, external, List.filter_nil, List.append_nil,
              Bool.false_eq_true, if_false]
            exact calls

/-- The steps of an attempt that has been cancelled or has lost its lease: the
store accepts no checkpoint of it. -/
structure Refused {Out : Type} (lease : Lease) (past : List Session.Label)
    (session : Session Out) : Prop where
  valid : session.store.db.WellFormed
  stopped : ∃ view, session.store.db.view lease.runId = some view ∧ Issued view lease.token ∧
    Stopped view lease.token session.store.now
  refused : ∀ site saved, (⟨.control (.checkpoint lease site saved),
    (Except.ok () : Except RunStoreError Unit)⟩ : Event Reply) ∉ Session.events past

theorem Refused.step {Out : Type} {settings : SQLiteRunStore} {lease : Lease}
    {past : List Session.Label} {session next : Session Out} {label : Session.Label}
    (refused : Refused lease past session)
    (step : Session.Step settings session label next) :
    Refused lease (past ++ [label]) next := by
  obtain ⟨view, found, issued, stopped⟩ := refused.stopped
  refine ⟨step.wellFormed refused.valid, ?_, fun site saved member => ?_⟩
  · obtain ⟨after, foundAfter, kept⟩ := step.view_preserves
      (fun now later view forward
          (holds : Issued view lease.token ∧ Stopped view lease.token now) =>
        ⟨holds.1, holds.2.wait forward⟩)
      (fun call now later view after timed holds change =>
        ⟨change.issuedToken holds.1, holds.2.change timed holds.1 change⟩)
      refused.valid found ⟨issued, stopped⟩
    exact ⟨after, foundAfter, kept⟩
  · cases label with
    | client call =>
        rw [Session.events_client] at member
        exact refused.refused site saved member
    | event event =>
        rw [Session.events_event, List.mem_append, List.mem_singleton] at member
        rcases member with before | here
        · exact refused.refused site saved before
        · subst here
          exact step.not_saved refused.valid found stopped

theorem Session.wellFormed {Out : Type} {settings : SQLiteRunStore} {first last : Session Out}
    {labels : List Session.Label} (run : Run (Session.Step settings) first labels last)
    (valid : first.store.db.WellFormed) : last.store.db.WellFormed :=
  @Run.preserves _ _ _ (fun session : Session Out => session.store.db.WellFormed)
    (fun _ _ _ valid step => Step.wellFormed step valid) _ _ _ run valid

theorem Session.issued {Out : Type} {settings : SQLiteRunStore} {first last : Session Out}
    {labels : List Session.Label} (run : Run (Session.Step settings) first labels last)
    (valid : first.store.db.WellFormed) {runId token : String} {view : RunView}
    (found : first.store.db.view runId = some view) (issued : Issued view token)
    {after : RunView} (foundAfter : last.store.db.view runId = some after) :
    Issued after token := by
  obtain ⟨_, reached, foundReached, kept⟩ := @Run.preserves _ _ _
    (fun session : Session Out => session.store.db.WellFormed ∧
      ∃ view, session.store.db.view runId = some view ∧ Issued view token)
    (fun _ _ _ holds step => by
      obtain ⟨valid, view, found, issued⟩ := holds
      exact ⟨step.wellFormed valid, step.view_preserves (fun _ _ _ _ holds => holds)
        (fun _ _ _ _ _ _ holds change => change.issuedToken holds) valid found issued⟩)
    _ _ _ run ⟨valid, view, found, issued⟩
  rw [foundAfter] at foundReached
  cases foundReached
  exact kept

/-- In every run of the loop under a claimed lease, whatever its provider, its
reviewer, its tools and other clients do, every external call has been cleared
by a guard of the lease that no other external call has used. So when the run
is cancelled, the lease lost or the deadline passed, at most one more external
call starts, and after a cancellation or a lost lease no checkpoint of the
attempt is accepted. -/
theorem guard_barrier (loop : AgentLoop) (settings : SQLiteRunStore) {state : StoreState}
    (reachable : Reachable RunStore.Step Initial state) {view : RunView}
    (found : state.db.view loop.control.lease.runId = some view)
    (issued : Issued view loop.control.lease.token) (dict : Dict)
    {labels : List Session.Label} {middle : Session (Except Exc AgentAnswer × Dict)}
    (run : Run (Session.Step settings) (loop.session state dict) labels middle) :
    (∀ before event after, Session.events labels = before ++ event :: after →
      event.request.external = true → Cleared loop.control.lease before) ∧
    ∀ reached, middle.store.db.view loop.control.lease.runId = some reached →
      ∀ more last, Run (Session.Step settings) middle more last →
      (Ended loop.control.lease middle.store.now reached →
        (externals (Session.events more)).length ≤ 1) ∧
      (Stopped reached loop.control.lease.token middle.store.now →
        ∀ site saved, (⟨.control (.checkpoint loop.control.lease site saved),
          (Except.ok () : Except RunStoreError Unit)⟩ : Event Reply) ∉ Session.events more) := by
  have valid := Reachable.wellFormed reachable
  have start : Guarded loop.control.lease [] (loop.session state dict) :=
    ⟨loop.session_keepsBarrier state dict, by simp [Session.events]⟩
  have guarded : Guarded loop.control.lease ([] ++ labels) middle :=
    Run.traced (fun _ _ _ _ guarded step => Guarded.step guarded step) run start
  refine ⟨guarded.cleared, fun reached foundReached more last rest => ?_⟩
  have middleValid := Session.wellFormed run valid
  have middleIssued := Session.issued run valid found issued foundReached
  refine ⟨fun ended => ?_, fun stopped site saved => ?_⟩
  · have begun : Winding loop.control.lease labels [] middle := by
      refine ⟨by simpa using guarded.keeps, middleValid,
        ⟨reached, foundReached, middleIssued, ended⟩, ?_⟩
      split <;> simp [externals, Session.events]
    have winding : Winding loop.control.lease labels ([] ++ more) last :=
      Run.traced (fun _ _ _ _ winding step => Winding.step winding step) rest begun
    exact le_trans (Nat.le_add_right _ _) winding.calls
  · have begun : Refused loop.control.lease [] middle :=
      ⟨middleValid, ⟨reached, foundReached, middleIssued, stopped⟩, by simp [Session.events]⟩
    have refused : Refused loop.control.lease ([] ++ more) last :=
      Run.traced (fun _ _ _ _ refused step => Refused.step refused step) rest begun
    exact refused.refused site saved

namespace Sample

def runId : Uuid4 := ⟨"00000000-0000-4000-8000-000000000000", by decide +kernel⟩

def control : Control :=
  { lease := { runId := "run", tenant := "acme", token := "first" }, maxTokens := 1000,
    maxCost := none, inputRate := none, outputRate := none, maxRecoveries := 1 }

def loop : AgentLoop :=
  { control, provider := fun _ _ _ _ => return .null, reviewer := fun _ _ _ => return .null,
    tools := [], library := { sha256 := id, isalnum := fun _ => true }, maxDecisions := 5,
    answerMode := .general, maxDuration := 300, runId, messages := [] }

def session : Session (Except Exc AgentAnswer × Dict) :=
  loop.session { db := RunStore.Sample.started, now := 0 } []

def played : List Session.Label × Session (Except Exc AgentAnswer × Dict) :=
  session.play RunStore.Sample.store 0 "" others 10

end Sample

/-- The first call of the provider has been cleared. -/
theorem guard_barrier_played : ∃ before event after,
    Session.events Sample.played.1 = before ++ event :: after ∧
      event.request.external = true ∧ Cleared Sample.control.lease before := by
  have found : RunStore.Sample.started.view "run" = some
      ((RunStore.Sample.started.view "run").get (by decide +kernel)) := (Option.some_get _).symm
  have issued : Issued ((RunStore.Sample.started.view "run").get (by decide +kernel)) "first" := by
    unfold Issued
    decide +kernel
  have barrier := guard_barrier Sample.loop RunStore.Sample.store
    ⟨{ db := RunDb.empty, now := 0 }, _, rfl, RunStore.Sample.started_run⟩ found issued []
    (Session.play_run 10 (le_refl _) :
      Run (Session.Step RunStore.Sample.store) Sample.session Sample.played.1 Sample.played.2)
  have calls : (Session.events Sample.played.1).map (fun event => event.request.external) =
      List.replicate 9 false ++ [true] := by decide +kernel
  obtain ⟨before, rest, split, _, external⟩ := List.map_eq_append_iff.mp calls
  obtain ⟨event, after, rfl, isExternal, _⟩ := List.map_eq_cons_iff.mp external
  exact ⟨before, event, after, split, isExternal, barrier.1 before event after split isExternal⟩

end Crewos.Agent

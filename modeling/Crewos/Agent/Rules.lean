import Crewos.Foundation.Simulation
import Crewos.Agent.Loop

/-! # Rules for the small steps of the loop

How the loop's reading of clocks, its measurements, its guards and its
checkpoints go through a protocol that does not mind the first three. -/

namespace Crewos.Agent

open Foundation RunStore

/-- Requests that tell a protocol nothing: clocks, metrics and guards. -/
def Request.neutral : Request → Bool
  | .perfCounter | .observe _ _ _ | .control .heartbeatError | .control (.guard _) => true
  | _ => false

def Quiet {Ghost : Type} (protocol : Protocol Reply Ghost) (ghost : Ghost) : Prop :=
  ∀ event : Event Reply, event.request.neutral = true → protocol ghost event ghost

/-- What a guard or a reading of the remaining time raises. -/
inductive Stern : Exc → Prop
  | store (error : RunStoreError) : Stern (.store error)
  | deadline (message : String) : Stern (.agentDeadlineExceeded message)

abbrev controlOf {Ghost : Type} (protocol : Protocol Reply Ghost) : Protocol ControlReply Ghost :=
  Follows.restrict protocol Request.control wideReply

section Control

variable {Ghost α : Type} {protocol : Protocol Reply Ghost} {state : Dict} {ghost : Ghost}
  {raised : Exc → Dict → Ghost → Prop}

theorem leads_stored {out : Except RunStoreError α} {returned : α → Dict → Ghost → Prop}
    (onReturn : ∀ value, out = .ok value → returned value state ghost)
    (onRaise : ∀ error, out = .error error → raised (.store error) state ghost) :
    Exec.leads (controlOf protocol) (Control.stored out) returned raised state ghost := by
  cases out with
  | ok value => exact onReturn value rfl
  | error error => exact onRaise error rfl

theorem leads_guard {control : Control} {returned : Time → Dict → Ghost → Prop}
    (quiet : Quiet protocol ghost)
    (onReturn : ∀ remaining, 0 < remaining → returned remaining state ghost)
    (onRaise : ∀ error, Stern error → raised error state ghost) :
    Exec.leads (controlOf protocol) control.guard returned raised state ghost := by
  unfold Control.guard Control.ask
  apply Exec.leads_seq
  apply Exec.leads_ask
  intro (found : Option RunStoreError)
  refine ⟨ghost, quiet ⟨.control .heartbeatError, found⟩ rfl, ?_⟩
  apply Exec.leads_seq
  cases found with
  | some error => exact onRaise _ (.store error)
  | none =>
      refine Exec.leads_pure (Exec.leads_seq (Exec.leads_ask fun reply => ?_))
      refine ⟨ghost, quiet ⟨.control (.guard control.lease), reply⟩ rfl, ?_⟩
      refine Exec.leads_seq (leads_stored (fun remaining _ => ?_) fun error _ =>
        onRaise _ (.store error))
      refine Exec.leads_seq (Exec.leads_raiseIf (fun positive => ?_) fun _ =>
        onRaise _ (.deadline _))
      exact onReturn remaining (not_le.mp positive)

/-- The dictionary is updated whether or not the store accepts it. -/
theorem leads_persist {control : Control} {site : Site} {updates : Dict}
    {returned : Unit → Dict → Ghost → Prop}
    (answered : ∀ reply : Except RunStoreError Unit, ∃ next,
      protocol ghost ⟨.control (.checkpoint control.lease site (state.update updates)), reply⟩
        next ∧
      (∀ error, reply = .error error → raised (.store error) (state.update updates) next) ∧
      (reply = .ok () → returned () (state.update updates) next)) :
    Exec.leads (controlOf protocol) (control.persist site updates) returned raised state ghost := by
  unfold Control.persist Control.ask
  refine Exec.leads_seq (Exec.leads_modify (Exec.leads_seq (Exec.leads_get
    (Exec.leads_seq (Exec.leads_ask fun (reply : Except RunStoreError Unit) => ?_)))))
  obtain ⟨next, step, refused, accepted⟩ := answered reply
  exact ⟨next, step, leads_stored (fun _ same => accepted same) refused⟩

end Control

section Loop

open AgentLoop

variable {Ghost α : Type} {protocol : Protocol Reply Ghost} {frame : Frame} {ghost : Ghost}
  {raised : Exc → Frame → Ghost → Prop} {loop : AgentLoop}

theorem leads_inControl {computation : ControlExec α} {returned : α → Frame → Ghost → Prop}
    (holds : Exec.leads (controlOf protocol) computation
      (fun value state => returned value { frame with state })
      (fun error state => raised error { frame with state }) frame.state ghost) :
    Exec.leads protocol (inControl computation) returned raised frame ghost :=
  Exec.leads_zoom (Exec.leads_embed (fun _ _ => rfl) holds)

theorem leads_perfCounter {returned : Time → Frame → Ghost → Prop} (quiet : Quiet protocol ghost)
    (holds : ∀ now, returned now frame ghost) :
    Exec.leads protocol perfCounter returned raised frame ghost :=
  Exec.leads_ask fun now => ⟨ghost, quiet ⟨.perfCounter, now⟩ rfl, holds now⟩

theorem leads_startPhase {phase : Phase} {returned : Unit → Frame → Ghost → Prop}
    (quiet : Quiet protocol ghost)
    (holds : ∀ now, returned () { frame with phase, phaseStarted := now } ghost) :
    Exec.leads protocol (startPhase phase) returned raised frame ghost :=
  Exec.leads_seq (leads_perfCounter quiet fun now => Exec.leads_modify (holds now))

theorem leads_measure {operation : MetricOperation} {outcome : MetricOutcome} {since : Time}
    {returned : Unit → Frame → Ghost → Prop} (quiet : Quiet protocol ghost)
    (holds : returned () frame ghost) :
    Exec.leads protocol (measure operation outcome since) returned raised frame ghost := by
  refine Exec.leads_seq (leads_perfCounter quiet fun now => ?_)
  exact Exec.leads_seq (Exec.leads_ask fun reply => ⟨ghost, quiet ⟨_, reply⟩ rfl, holds⟩)

theorem leads_remainingSeconds {returned : Time → Frame → Ghost → Prop}
    (quiet : Quiet protocol ghost)
    (onReturn : ∀ remaining, 0 < remaining → returned remaining frame ghost)
    (onRaise : ∀ error phase, Stern error → raised error { frame with phase } ghost) :
    Exec.leads protocol loop.remainingSeconds returned raised frame ghost := by
  unfold remainingSeconds
  refine Exec.leads_seq (leads_perfCounter quiet fun now => ?_)
  refine Exec.leads_seq (leads_inControl (leads_guard quiet (fun left _ => ?_) fun error stern =>
    onRaise error frame.phase stern))
  refine Exec.leads_seq (Exec.leads_get (Exec.leads_ite (fun _ => ?_) fun late => ?_))
  · exact Exec.leads_seq (Exec.leads_modify (onRaise _ .deadline (.deadline _)))
  · exact onReturn _ (not_le.mp late)

theorem leads_checkDeadline {returned : Unit → Frame → Ghost → Prop}
    (quiet : Quiet protocol ghost) (onReturn : returned () frame ghost)
    (onRaise : ∀ error phase, Stern error → raised error { frame with phase } ghost) :
    Exec.leads protocol loop.checkDeadline returned raised frame ghost :=
  Exec.leads_seq (leads_remainingSeconds quiet (fun _ _ => onReturn) onRaise)

theorem leads_checkpoint {pending : Json} {replaySafe : Bool}
    {returned : Unit → Frame → Ghost → Prop}
    (answered : ∀ reply : Except RunStoreError Unit, ∃ next,
      protocol ghost ⟨.control (.checkpoint loop.control.lease .progress
        (frame.state.update (progress loop.answerMode frame pending replaySafe))), reply⟩ next ∧
      (∀ error, reply = .error error → raised (.store error)
        { frame with
            state := frame.state.update (progress loop.answerMode frame pending replaySafe) }
        next) ∧
      (reply = .ok () → returned ()
        { frame with
            state := frame.state.update (progress loop.answerMode frame pending replaySafe) }
        next)) :
    Exec.leads protocol (loop.checkpoint pending replaySafe) returned raised frame ghost :=
  Exec.leads_seq (Exec.leads_get (leads_inControl (leads_persist answered)))

theorem leads_counted {error : Exc} {returned : AgentAnswer → Frame → Ghost → Prop}
    (quiet : Quiet protocol ghost) (onRaise : raised error frame ghost) :
    Exec.leads protocol (failed error) returned raised frame ghost := by
  unfold failed
  refine Exec.leads_seq (Exec.leads_get ?_)
  split <;> split
  · exact Exec.leads_seq (leads_measure quiet (Exec.leads_seq (leads_measure quiet
      (Exec.leads_seq (leads_measure quiet onRaise)))))
  · exact Exec.leads_seq (leads_measure quiet (Exec.leads_seq (leads_measure quiet onRaise)))
  · exact Exec.leads_seq (leads_measure quiet (Exec.leads_seq (leads_measure quiet onRaise)))
  · exact Exec.leads_seq (leads_measure quiet onRaise)

end Loop

end Crewos.Agent

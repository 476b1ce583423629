import Crewos.Agent.Runner
import Crewos.RunStore.Changes

/-! # An attempt among other clients

How the surroundings answer the requests of one attempt. Store requests are
transactions of the run store; everything else may be answered in any way and
take any time. Between two requests other clients call the store. -/

namespace Crewos.Agent

open Foundation RunStore

/-- The store operation of a request. `token` is what a claim draws. -/
def Request.operation (token : String) : Request → Option Operation
  | .control (.guard lease) => some (.guard lease.runId lease.tenant lease.token)
  | .control (.checkpoint lease _ saved) =>
      some (.checkpoint lease.runId lease.tenant lease.token saved)
  | .claim job => some (.claim job token)
  | .finish lease state result error =>
      some (.finish lease.runId lease.tenant lease.token state result error)
  | .get runId tenant => some (.get runId tenant)
  | _ => none

/-- The reply a request gets for the outcome of its operation. -/
def Request.Replied : (request : Request) → Reply request →
    Except RunStoreError RunStore.Reply → Prop
  | .control (.guard _), reply, out =>
      out = Except.map RunStore.Reply.remaining (reply : Except RunStoreError Time)
  | .control (.checkpoint _ _ _), reply, out =>
      out = Except.map (fun _ => RunStore.Reply.nothing) (reply : Except RunStoreError Unit)
  | .claim _, reply, out =>
      out = Except.map RunStore.Reply.record (reply : Except RunStoreError RunRow)
  | .finish _ _ _ _, reply, out =>
      out = Except.map (fun _ => RunStore.Reply.nothing) (reply : Except RunStoreError Unit)
  | .get _ _, reply, out =>
      ∃ history, out = Except.map (fun row => RunStore.Reply.history row history)
        (reply : Except RunStoreError RunRow)
  | _, _, _ => False

/-- The database refuses to run the transaction. -/
def Request.Refused : (request : Request) → Reply request → Prop
  | .control (.guard _), reply => reply = Except.error RunStoreError.operationalError
  | .control (.checkpoint _ _ _), reply => reply = Except.error RunStoreError.operationalError
  | .claim _, reply => reply = Except.error RunStoreError.operationalError
  | .finish _ _ _ _, reply => reply = Except.error RunStoreError.operationalError
  | .get _ _, reply => reply = Except.error RunStoreError.operationalError
  | _, _ => False

/-- Time passes and the tables stay. -/
structure Waits (state next : StoreState) : Prop where
  db : next.db = state.db
  forward : state.now ≤ next.now

/-- The surroundings answer an event. -/
inductive Answers (store : SQLiteRunStore) (state : StoreState) (event : Event Reply)
    (next : StoreState) : Prop
  | performed (call : Call) (token : String) (configured : call.store = store)
      (operation : event.request.operation token = some call.operation)
      (step : RunStore.Step state call next)
      (replied : event.request.Replied event.reply
        (call.operation.perform call.store call.clock state.db).1)
  | refused (refused : event.request.Refused event.reply) (waits : Waits state next)
  | other (elsewhere : ∀ token, event.request.operation token = none) (waits : Waits state next)

theorem Answers.run {store : SQLiteRunStore} {state next : StoreState} {event : Event Reply}
    (answers : Answers store state event next) :
    ∃ calls middle, Run RunStore.Step state calls middle ∧ Waits middle next := by
  cases answers with
  | performed call _ _ _ step _ =>
      exact ⟨[call], next, .single step, rfl, le_refl _⟩
  | refused _ waits => exact ⟨[], state, .nil _, waits⟩
  | other _ waits => exact ⟨[], state, .nil _, waits⟩

/-! ### Computed answers

How a store that is asked at one reading of the clock answers, for trying
programs out. Everything but the store answers with `others`. -/

def Request.reply : (request : Request) → Except RunStoreError RunStore.Reply →
    Option (Reply request)
  | .control (.guard _), .ok (.remaining remaining) =>
      some (Except.ok remaining : Except RunStoreError Time)
  | .control (.guard _), .error error => some (Except.error error : Except RunStoreError Time)
  | .control (.checkpoint _ _ _), .ok .nothing =>
      some (Except.ok () : Except RunStoreError Unit)
  | .control (.checkpoint _ _ _), .error error =>
      some (Except.error error : Except RunStoreError Unit)
  | .claim _, .ok (.record row) => some (Except.ok row : Except RunStoreError RunRow)
  | .claim _, .error error => some (Except.error error : Except RunStoreError RunRow)
  | .finish _ _ _ _, .ok .nothing => some (Except.ok () : Except RunStoreError Unit)
  | .finish _ _ _ _, .error error => some (Except.error error : Except RunStoreError Unit)
  | .get _ _, .ok (.history row _) => some (Except.ok row : Except RunStoreError RunRow)
  | .get _ _, .error error => some (Except.error error : Except RunStoreError RunRow)
  | _, _ => none

theorem Request.replied_of_reply {request : Request} {reply : Reply request}
    {out : Except RunStoreError RunStore.Reply} (same : request.reply out = some reply) :
    request.Replied reply out := by
  unfold Request.reply at same
  split at same <;> cases same
  all_goals first | rfl | exact ⟨[], rfl⟩ | exact ⟨_, rfl⟩

def Request.answer (store : SQLiteRunStore) (now : Time) (token : String)
    (others : (request : Request) → Reply request) (state : StoreState) (request : Request) :
    Option (Reply request × StoreState) :=
  match request.operation token with
  | some operation =>
      let call := Call.instant store now operation
      (fun reply => (reply, { db := call.apply state.db, now })) <$>
        request.reply (operation.perform store call.clock state.db).1
  | none => some (others request, { state with now })

theorem Request.answers_of_answer {store : SQLiteRunStore} {now : Time} {token : String}
    {others : (request : Request) → Reply request} {state next : StoreState} {request : Request}
    {reply : Reply request} (forward : state.now ≤ now)
    (same : request.answer store now token others state = some (reply, next)) :
    Answers store state ⟨request, reply⟩ next := by
  unfold Request.answer at same
  split at same
  · rename_i operation performs
    obtain ⟨_, replies, pair⟩ := Option.map_eq_some_iff.mp same
    cases pair
    exact .performed (.instant store now operation) token rfl performs
      (.instant store operation forward state.db) (Request.replied_of_reply replies)
  · rename_i elsewhere
    cases same
    refine .other (fun other => ?_) ⟨rfl, forward⟩
    rcases request with request | _
    · cases request <;> first | rfl | cases elsewhere
    all_goals first | rfl | cases elsewhere

namespace Sample

def others : (request : Request) → Reply request
  | .control .heartbeatError => none
  | .control (.guard _) => (Except.ok 1 : Except RunStoreError Time)
  | .control (.checkpoint _ _ _) => (Except.ok () : Except RunStoreError Unit)
  | .control (.invoke _) => (Except.error .typeError : Except Exc ModelResponse)
  | .perfCounter => (0 : Time)
  | .observe _ _ _ => (Except.ok () : Except Exc Unit)
  | .decide _ _ _ _ => ()
  | .decided _ _ _ => ()
  | .dispatch _ _ _ => ()
  | .handle _ _ _ => (Except.error .typeError : Except Exc ToolResult)
  | .review _ _ _ _ => ()
  | .claim _ => (Except.error .operationalError : Except RunStoreError RunRow)
  | .startHeartbeat _ => ()
  | .closeHeartbeat => ()
  | .build => (Except.ok () : Except Exc Unit)
  | .finish _ _ _ _ => (Except.ok () : Except RunStoreError Unit)
  | .get _ _ => (Except.error .operationalError : Except RunStoreError RunRow)

end Sample

/-! ## Sessions -/

/-- The store together with what an attempt has still to do. -/
structure Session (Out : Type) where
  store : StoreState
  program : Program Reply Out

namespace Session

inductive Label where
  | client (call : Call)
  | event (event : Event Reply)

def Label.event? : Label → Option (Event Reply)
  | .client _ => none
  | .event taken => some taken

def events (labels : List Label) : List (Event Reply) := labels.filterMap Label.event?

inductive Step {Out : Type} (settings : SQLiteRunStore) :
    Session Out → Label → Session Out → Prop
  | client {session : Session Out} {call : Call} {next : StoreState}
      (step : RunStore.Step session.store call next) :
      Step settings session (.client call) { session with store := next }
  | event {session : Session Out} {request : Request}
      {resume : Reply request → Program Reply Out} {reply : Reply request} {next : StoreState}
      (asks : session.program = .ask request resume)
      (answers : Answers settings session.store { request, reply } next) :
      Step settings session (.event { request, reply })
        { store := next, program := resume reply }

variable {Out Ghost : Type} {settings : SQLiteRunStore}

@[simp] theorem events_client (past : List Label) (call : Call) :
    events (past ++ [.client call]) = events past := by
  simp [events, Label.event?]

@[simp] theorem events_event (past : List Label) (event : Event Reply) :
    events (past ++ [.event event]) = events past ++ [event] := by
  simp [events, Label.event?]

theorem Step.obeys {monitor : Monitor Reply Ghost} {post : Out → Ghost → Prop}
    (admits : ∀ ghost request reply, monitor.admits ghost request reply)
    {session next : Session Out} {label : Label} (step : Step settings session label next)
    {past : List Label} {start : Ghost}
    (obeys : monitor.Obeys post session.program (monitor.after start (events past))) :
    monitor.Obeys post next.program (monitor.after start (events (past ++ [label]))) := by
  cases step with
  | client => rwa [events_client]
  | event asks answers =>
      rw [asks] at obeys
      rw [events_event, Monitor.after_snoc]
      exact obeys.2 _ (admits _ _ _)

theorem Step.permits {monitor : Monitor Reply Ghost} {post : Out → Ghost → Prop}
    {session next : Session Out} {event : Event Reply}
    (step : Step settings session (.event event) next) {ghost : Ghost}
    (obeys : monitor.Obeys post session.program ghost) : monitor.permits ghost event.request := by
  cases step with
  | event asks answers =>
      rw [asks] at obeys
      exact obeys.1

theorem Step.store {session next : Session Out} {label : Label}
    (step : Step settings session label next) :
    ∃ calls middle, Run RunStore.Step session.store calls middle ∧ Waits middle next.store := by
  cases step with
  | client step => exact ⟨[_], _, .single step, rfl, le_refl _⟩
  | event asks answers => exact answers.run

theorem Step.wellFormed {session next : Session Out} {label : Label}
    (step : Step settings session label next) (valid : session.store.db.WellFormed) :
    next.store.db.WellFormed := by
  obtain ⟨calls, middle, run, waits⟩ := step.store
  rw [waits.db, Run.db run]
  exact wellFormed_replay calls valid

theorem Step.view_preserves {Property : Time → RunView → Prop}
    (wait : ∀ now later view, now ≤ later → Property now view → Property later view)
    (changed : ∀ (call : Call) now later view after, call.Timed now later →
      Property now view → Change call.store call.clock call.operation view after →
      Property later after)
    {session next : Session Out} {label : Label} (step : Step settings session label next)
    (valid : session.store.db.WellFormed) {runId : String} {view : RunView}
    (found : session.store.db.view runId = some view)
    (holds : Property session.store.now view) :
    ∃ after, next.store.db.view runId = some after ∧ Property next.store.now after := by
  obtain ⟨calls, middle, run, waits⟩ := step.store
  obtain ⟨after, foundAfter, kept⟩ := Run.view_preserves wait changed run valid found holds
  exact ⟨after, by rw [waits.db, foundAfter], wait _ _ _ waits.forward kept⟩

def play (settings : SQLiteRunStore) (now : Time) (token : String)
    (others : (request : Request) → Reply request) :
    Nat → Session Out → List Label × Session Out
  | 0, session => ([], session)
  | count + 1, session =>
      match session.program with
      | .done _ => ([], session)
      | .ask request resume =>
          match request.answer settings now token others session.store with
          | some (reply, store) =>
              let rest := play settings now token others count
                { store, program := resume reply }
              (.event ⟨request, reply⟩ :: rest.1, rest.2)
          | none => ([], session)

theorem play_run {now : Time} {token : String} {others : (request : Request) → Reply request}
    (count : Nat) {session : Session Out} (forward : session.store.now ≤ now) :
    Run (Step settings) session (play settings now token others count session).1
      (play settings now token others count session).2 := by
  induction count generalizing session with
  | zero => exact .nil _
  | succ count induction =>
      unfold play
      split
      · exact .nil _
      · rename_i request resume asks
        split
        · rename_i reply store answered
          have answers := Request.answers_of_answer forward answered
          have clock : store.now ≤ now := by
            unfold Request.answer at answered
            split at answered
            · obtain ⟨_, _, pair⟩ := Option.map_eq_some_iff.mp answered
              cases pair
              exact le_refl _
            · cases answered
              exact le_refl _
          exact .cons (.event asks answers) (induction clock)
        · exact .nil _

end Session

end Crewos.Agent

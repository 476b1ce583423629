import Crewos.Agent.Answers
import Crewos.Agent.DeliveryProtocol

/-! # Deliveries among clients

Any number of deliveries share one store with its clients. A delivery takes one
event at a time and may stop for good between any two; the clients create,
publish, read, cancel and resume runs, and the heartbeat threads renew leases.
Every history of deliveries is one of parties of the protocol. -/

namespace Crewos.Agent

open Foundation RunStore

/-! ## Worlds -/

structure Delivery where
  settings : Settings
  job : AgentRunJob
  program : Program Reply (Except Exc AgentAnswer × Option Dict)

def Delivery.Returned (delivery : Delivery) (answer : AgentAnswer) : Prop :=
  ∃ state, delivery.program = .done (.ok answer, state)

/-- A payload that is no job is refused before anything is asked. -/
theorem delivery_refused {settings : Settings} {payload : Json}
    (invalid : AgentRunJob.validate payload = none) :
    delivery settings payload = .done (.error .validationError, none) := by
  unfold delivery executeAgentJob
  rw [invalid]
  rfl

structure World where
  store : StoreState
  deliveries : List Delivery

namespace World

inductive Label where
  | client (call : Call)
  | deliver (settings : Settings) (job : AgentRunJob)
  | event (index : Nat) (taken : Event Reply)

def Initial (world : World) : Prop := RunStore.Initial world.store ∧ world.deliveries = []

end World

/-- What a client of the store, or a heartbeat, may call. -/
def Public : Operation → Prop
  | .claim _ _ | .checkpoint _ _ _ _ | .finish _ _ _ _ _ _ => False
  | _ => True

namespace World

inductive Step : World → Label → World → Prop
  | client {world : World} {call : Call} {next : StoreState} (able : Public call.operation)
      (step : RunStore.Step world.store call next) :
      Step world (.client call) { world with store := next }
  | deliver {world : World} {settings : Settings} {job : AgentRunJob} {payload : Json}
      (valid : AgentRunJob.validate payload = some job) :
      Step world (.deliver settings job)
        { world with
            deliveries := world.deliveries ++
              [{ settings, job, program := delivery settings payload }] }
  | event {world : World} {index : Nat} {taking : Delivery} {request : Request}
      {resume : Reply request → Program Reply (Except Exc AgentAnswer × Option Dict)}
      {reply : Reply request} {next : StoreState}
      (here : world.deliveries[index]? = some taking)
      (asks : taking.program = .ask request resume)
      (answers : Answers taking.settings.store world.store ⟨request, reply⟩ next) :
      Step world (.event index ⟨request, reply⟩)
        { store := next,
          deliveries := world.deliveries.set index { taking with program := resume reply } }

end World

/-! ### Computed histories

What a list of moves makes of a world, for trying deliveries out. -/

instance (operation : Operation) : Decidable (Public operation) :=
  match operation with
  | .claim _ _ | .checkpoint _ _ _ _ | .finish _ _ _ _ _ _ => .isFalse id
  | .create _ _ _ | .get _ _ | .markPublished _ _ | .guard _ _ _ | .cancel _ _ | .resume _ _ =>
      .isTrue trivial

namespace World

inductive Move where
  | client (store : SQLiteRunStore) (now : Time) (operation : Operation)
  | deliver (settings : Settings) (payload : Json)
  /-- A delivery takes an event. `token` is what a claim draws. -/
  | event (index : Nat) (now : Time) (token : String)
      (others : (request : Request) → Reply request)

def advance (world : World) : Move → Option (Label × World)
  | .client store now operation =>
      let call := Call.instant store now operation
      if Public operation ∧ world.store.now ≤ now then
        some (.client call, { world with store := { db := call.apply world.store.db, now } })
      else none
  | .deliver settings payload =>
      (AgentRunJob.validate payload).map fun job =>
        (.deliver settings job,
          { world with
              deliveries := world.deliveries ++
                [{ settings, job, program := delivery settings payload }] })
  | .event index now token others => do
      let taking ← world.deliveries[index]?
      match taking.program with
      | .done _ => none
      | .ask request resume =>
          if world.store.now ≤ now then do
            let (reply, store) ←
              request.answer taking.settings.store now token others world.store
            return (.event index ⟨request, reply⟩,
              { store,
                deliveries :=
                  world.deliveries.set index { taking with program := resume reply } })
          else none

/-- The labels of the moves that can be made, and where they lead. -/
def play : List Move → World → List Label × World
  | [], world => ([], world)
  | move :: moves, world =>
      match world.advance move with
      | some (label, next) => (label :: (play moves next).1, (play moves next).2)
      | none => play moves world

theorem advance_step {world next : World} {move : Move} {label : Label}
    (advances : world.advance move = some (label, next)) : Step world label next := by
  cases move with
  | client store now operation =>
      simp only [advance] at advances
      split at advances
      · rename_i able
        cases advances
        exact .client able.1 (.instant store operation able.2 world.store.db)
      · cases advances
  | deliver settings payload =>
      obtain ⟨job, valid, same⟩ := Option.map_eq_some_iff.mp advances
      cases same
      exact .deliver valid
  | event index now token others =>
      obtain ⟨taking, here, advances⟩ := Option.bind_eq_some_iff.mp advances
      split at advances
      · cases advances
      · rename_i request resume asks
        split at advances
        · rename_i forward
          obtain ⟨⟨reply, store⟩, answered, same⟩ := Option.bind_eq_some_iff.mp advances
          cases same
          exact .event here asks (Request.answers_of_answer forward answered)
        · cases advances

theorem play_run (moves : List Move) (world : World) :
    Run Step world (play moves world).1 (play moves world).2 := by
  induction moves generalizing world with
  | nil => exact .nil _
  | cons move moves induction =>
      unfold play
      split
      · rename_i label next advances
        exact .cons (advance_step advances) (induction next)
      · exact induction world

theorem deliver_of_play {settings : Settings} {job : AgentRunJob} {moves : List Move}
    {world : World}
    (member : Label.deliver settings job ∈ (play moves world).1) :
    ∃ payload, Move.deliver settings payload ∈ moves := by
  induction moves generalizing world with
  | nil => cases member
  | cons move moves induction =>
      unfold play at member
      split at member
      · rename_i label next advances
        rcases List.mem_cons.mp member with same | later
        · cases move with
          | client =>
              simp only [advance] at advances
              split at advances <;> cases advances
              cases same
          | deliver other payload =>
              obtain ⟨_, _, pair⟩ := Option.map_eq_some_iff.mp advances
              cases pair
              cases same
              exact ⟨payload, List.mem_cons_self⟩
          | event =>
              obtain ⟨_, _, advances⟩ := Option.bind_eq_some_iff.mp advances
              split at advances
              · cases advances
              · split at advances
                · obtain ⟨_, _, pair⟩ := Option.bind_eq_some_iff.mp advances
                  cases pair
                  cases same
                · cases advances
        · obtain ⟨payload, before⟩ := induction later
          exact ⟨payload, List.mem_cons_of_mem _ before⟩
      · obtain ⟨payload, before⟩ := induction member
        exact ⟨payload, List.mem_cons_of_mem _ before⟩

end World

def Delivery.answer? (delivery : Delivery) : Option AgentAnswer :=
  match delivery.program with
  | .done (.ok answer, _) => some answer
  | _ => none

theorem Delivery.returned_of_answer {delivery : Delivery} {answer : AgentAnswer}
    (same : delivery.answer? = some answer) : delivery.Returned answer := by
  unfold Delivery.answer? at same
  split at same
  · rename_i returned state ends
    cases same
    exact ⟨state, ends⟩
  · cases same

namespace Sample

def worker : Settings :=
  { store := RunStore.Sample.store, agentMaxDecisions := 5, agentMaxTokens := 100000,
    agentMaxOutputTokens := 100, agentMaxRecoveries := 2, agentMaxCostUsd := none,
    inputUsdPerMillion := none, outputUsdPerMillion := none, llmTimeout := 10,
    decisionSchema := fun _ => .null, reviewSchema := .null,
    library := { sha256 := id, isalnum := Char.isAlphanum }, tools := [] }

def replying (content : Json) : (request : Request) → Reply request
  | .control (.invoke _) =>
      (Except.ok
        { content := .text (some content), tokenUsage := .null, refusal := false,
          nativeToolCalls := false } : Except Exc ModelResponse)
  | request => others request

def greeting : Json := .obj [("type", .str "final_answer"), ("answer", .str "hello")]

def greeted : List World.Move :=
  [.client RunStore.Sample.store 0 (.create task.dump 300 none),
    .deliver worker (.obj task.dump)] ++
  List.replicate 60 (.event 0 0 "first" (replying greeting))

def empty : World := { store := { db := RunDb.empty, now := 0 }, deliveries := [] }

end Sample

/-! ## Floors -/

/-- A delivery as the protocol sees it. -/
structure Party where
  settings : Settings
  job : AgentRunJob
  standing : Standing

structure Floor where
  store : StoreState
  parties : List Party

namespace Floor

def Initial (floor : Floor) : Prop := RunStore.Initial floor.store ∧ floor.parties = []

inductive Step : Floor → World.Label → Floor → Prop
  | client {floor : Floor} {call : Call} {next : StoreState} (able : Public call.operation)
      (step : RunStore.Step floor.store call next) :
      Step floor (.client call) { floor with store := next }
  | deliver {floor : Floor} {settings : Settings} {job : AgentRunJob} :
      Step floor (.deliver settings job)
        { floor with parties := floor.parties ++ [{ settings, job, standing := .waiting }] }
  | event {floor : Floor} {index : Nat} {party : Party} {taken : Event Reply}
      {standing : Standing} {next : StoreState} (here : floor.parties[index]? = some party)
      (moves : Standing.Step party.settings party.job party.standing taken standing)
      (answers : Answers party.settings.store floor.store taken next) :
      Step floor (.event index taken)
        { store := next, parties := floor.parties.set index { party with standing } }

end Floor

structure Delivery.Plays (delivery : Delivery) (party : Party) : Prop where
  settings : party.settings = delivery.settings
  job : party.job = delivery.job
  follows : Follows (Standing.Step party.settings party.job)
    (fun out standing => standing.Ends out.1) delivery.program party.standing

/-- The floor shows what happens in the world. -/
structure World.Shown (world : World) (floor : Floor) : Prop where
  store : floor.store = world.store
  length : floor.parties.length = world.deliveries.length
  plays : ∀ (index : Nat) (delivery : Delivery), world.deliveries[index]? = some delivery →
    ∃ party, floor.parties[index]? = some party ∧ delivery.Plays party

theorem World.Initial.floor {world : World} (initial : world.Initial) :
    ∃ floor : Floor, floor.Initial ∧ world.Shown floor :=
  ⟨{ store := world.store, parties := [] }, ⟨initial.1, rfl⟩, rfl, by simp [initial.2],
    fun index delivery here => by
      rw [initial.2] at here
      cases here⟩

theorem World.Step.shown {world next : World} {label : World.Label} {floor : Floor}
    (step : World.Step world label next) (shown : world.Shown floor) :
    ∃ after, Floor.Step floor label after ∧ next.Shown after := by
  cases step with
  | client able step =>
      exact ⟨_, .client able (shown.store ▸ step), rfl, shown.length, shown.plays⟩
  | @deliver settings job payload valid =>
      refine ⟨_, .deliver, shown.store, by simp [shown.length], fun index delivery here => ?_⟩
      rw [List.getElem?_append] at here ⊢
      rw [shown.length]
      split at here
      · rename_i within
        rw [if_pos within]
        exact shown.plays index delivery here
      · rename_i beyond
        rw [if_neg beyond]
        rw [List.getElem?_singleton] at here ⊢
        split at here
        · rename_i last
          rw [if_pos last]
          cases here
          exact ⟨_, rfl, rfl, rfl, delivery_follows valid⟩
        · cases here
  | @event index taking request resume reply after here asks answers =>
      obtain ⟨party, found, plays⟩ := shown.plays index taking here
      have follows := plays.follows
      rw [asks] at follows
      obtain ⟨standing, moves, rest⟩ := follows reply
      have replies : Answers party.settings.store floor.store ⟨request, reply⟩ after := by
        rw [plays.settings, shown.store]
        exact answers
      refine ⟨_, .event found moves replies, rfl, by simp [shown.length],
        fun other delivery there => ?_⟩
      rw [List.getElem?_set] at there ⊢
      rw [shown.length]
      split at there
      · rename_i same
        rw [if_pos same]
        split at there
        · rename_i within
          rw [if_pos within]
          cases there
          exact ⟨_, rfl, plays.settings, plays.job, rest⟩
        · cases there
      · rename_i different
        rw [if_neg different]
        exact shown.plays other delivery there

/-- Every history of the world is one of the floor. -/
theorem World.floor {first last : World} {labels : List World.Label}
    (run : Run World.Step first labels last) {floor : Floor} (shown : first.Shown floor) :
    ∃ after, Run Floor.Step floor labels after ∧ last.Shown after := by
  induction run generalizing floor with
  | nil => exact ⟨floor, .nil _, shown⟩
  | cons step _ induction =>
      obtain ⟨middle, first, shown⟩ := step.shown shown
      obtain ⟨after, rest, shown⟩ := induction shown
      exact ⟨after, .cons first rest, shown⟩

end Crewos.Agent

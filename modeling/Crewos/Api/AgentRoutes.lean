import Crewos.Agent.Contracts
import Crewos.RunStore.Abandonment

/-! # Submitting and resuming agent runs

The two routes that put a run into the queue, step by step, with the broker's
deliveries and the workers that consume them. -/

namespace Crewos.Api

open Foundation RunStore Agent

/-- How far the request of a client has come. -/
inductive Client where
  | submitting (job : AgentRunJob) (duration : Time) (idempotencyKey : Option String)
  | resuming (runId tenantId : String)
  | publishing (payload : Dict) (runId tenantId : String)
  | confirming (runId tenantId : String)
  | done

def Client.Arrives : Client → Prop
  | .submitting _ _ _ | .resuming _ _ => True
  | .publishing _ _ _ | .confirming _ _ | .done => False

/-- `submit_agent_run`, from the answer of `create` to the publication. -/
def enqueue (job : AgentRunJob) (record : RunRow) : Client :=
  if record.id ≠ job.agentRunId.text ∧ (record.published = true ∨ record.state ≠ .queued) then
    .done
  else
    match AgentRunJob.validate (.obj record.job) with
    | some registered => .publishing registered.dump registered.agentRunId.text job.tenantId
    | none => .done

/-- `run_agent`, up to the claim that `execute_agent_job` starts with. -/
def runAgent (store : SQLiteRunStore) (maxDecisions : Nat) (payload : Dict) (token : String)
    (clock : Clock) (db : RunDb) : RunDb :=
  match AgentRunJob.validate (.obj payload) with
  | some job =>
      if maxDecisions < job.maxDecisions then db
      else ((Operation.claim job.dump token).perform store clock db).2
  | none => db

/-- The database, the requests under way and the deliveries no worker has taken.
`sent` is a history of the publications: the runs with a delivery sent since they
last entered the queue. -/
structure World where
  db : RunDb
  clients : List Client
  deliveries : List Dict
  sent : List String

namespace World

def initial : World := { db := .empty, clients := [], deliveries := [], sent := [] }

def settle (world : World) (index : Nat) (client : Client) : World :=
  { world with clients := world.clients.set index client }

/-- The next step of one request. `sends` tells whether a publication succeeds. -/
def advance (store : SQLiteRunStore) (maxDecisions : Nat) (world : World) (index : Nat)
    (sends : Bool) (clock : Clock) : World :=
  match world.clients[index]? with
  | some (.submitting job duration idempotencyKey) =>
      if maxDecisions < job.maxDecisions then
        world.settle index .done
      else
        match (Operation.create job.dump duration idempotencyKey).perform store clock
            world.db with
        | (.ok (.record record), db) => { world with db }.settle index (enqueue job record)
        | (_, db) => { world with db }.settle index .done
  | some (.resuming runId tenantId) =>
      match (Operation.resume runId tenantId).perform store clock world.db with
      | (.ok (.record record), db) =>
          { world with db, sent := world.sent.filter (· ≠ runId) }.settle index
            (.publishing record.job runId tenantId)
      | (_, db) => { world with db }.settle index .done
  | some (.publishing payload runId tenantId) =>
      if sends then
        { world with
            deliveries := world.deliveries ++ [payload]
            sent := runId :: world.sent }.settle index (.confirming runId tenantId)
      else
        world.settle index .done
  | some (.confirming runId tenantId) =>
      { world with
          db := ((Operation.markPublished runId tenantId).perform store clock world.db).2 }.settle
        index .done
  | some .done | none => world

/-- A worker takes a delivery and claims its run. -/
def consume (store : SQLiteRunStore) (maxDecisions : Nat) (world : World) (index : Nat)
    (token : String) (clock : Clock) : World :=
  match world.deliveries[index]? with
  | some payload =>
      { world with
          db := runAgent store maxDecisions payload token clock world.db
          deliveries := world.deliveries.eraseIdx index }
  | none => world

end World

inductive Event where
  | arrive (client : Client)
  | advance (index : Nat) (sends : Bool) (clock : Clock)
  | crash (index : Nat)
  | consume (index : Nat) (token : String) (clock : Clock)
  | call (operation : Operation) (clock : Clock)

/-- What a running attempt and the remaining routes do with the store. -/
def Elsewhere : Operation → Prop
  | .get _ _ | .guard _ _ _ | .checkpoint _ _ _ _ | .finish _ _ _ _ _ _ | .cancel _ _ => True
  | .create _ _ _ | .claim _ _ | .markPublished _ _ | .resume _ _ => False

/-- Claims draw tokens that were not drawn before. -/
def Event.Allowed (world : World) : Event → Prop
  | .arrive client => client.Arrives
  | .consume _ token _ => ∀ attempt ∈ world.db.attempts, attempt.token ≠ token
  | .call operation _ => Elsewhere operation
  | .advance _ _ _ | .crash _ => True

instance (client : Client) : Decidable client.Arrives := by
  cases client <;> unfold Client.Arrives <;> infer_instance

instance (operation : Operation) : Decidable (Elsewhere operation) := by
  cases operation <;> unfold Elsewhere <;> infer_instance

instance (world : World) (event : Event) : Decidable (event.Allowed world) := by
  cases event <;> unfold Event.Allowed <;> infer_instance

def World.act (store : SQLiteRunStore) (maxDecisions : Nat) (world : World) : Event → World
  | .arrive client => { world with clients := world.clients ++ [client] }
  | .advance index sends clock => world.advance store maxDecisions index sends clock
  | .crash index => world.settle index .done
  | .consume index token clock => world.consume store maxDecisions index token clock
  | .call operation clock => { world with db := (operation.perform store clock world.db).2 }

structure Step (store : SQLiteRunStore) (maxDecisions : Nat) (world : World) (event : Event)
    (next : World) : Prop where
  allowed : event.Allowed world
  next : next = world.act store maxDecisions event

end Crewos.Api

import Crewos.Agent.Session
import Crewos.Foundation.Simulation
import Crewos.RunStore.Fencing
import Crewos.RunStore.Returned

/-! # What an answer says of the tables

For every request of an attempt that reaches the store: a reply without an error
comes from a call that returned, and then the tables are rewritten accordingly;
any other reply leaves them as they were. -/

namespace Crewos.Agent

open Foundation RunStore

variable {store : SQLiteRunStore} {state next : StoreState}

/-- The view of the lease's run, which an attempt owned at a reading of the clock
not before `now`. -/
structure Holds (lease : Lease) (state : StoreState) (view : RunView) : Prop where
  id : view.row.id = lease.runId
  tenant : view.row.tenant = lease.tenant
  found : state.db.view view.row.id = some view
  owned : Owned view.row lease.token state.now

theorem Holds.view {lease : Lease} {view : RunView} (held : Holds lease state view) :
    state.db.view lease.runId = some view := held.id ▸ held.found

theorem Answers.wellFormed {event : Event Reply} (answers : Answers store state event next)
    (valid : state.db.WellFormed) : next.db.WellFormed := by
  obtain ⟨calls, middle, run, waits⟩ := answers.run
  rw [waits.db, Run.db run]
  exact wellFormed_replay calls valid

theorem Answers.checkpoint {lease : Lease} {site : Site} {saved : Dict}
    {reply : Except RunStoreError Unit}
    (answers : Answers store state ⟨.control (.checkpoint lease site saved), reply⟩ next)
    (valid : state.db.WellFormed) :
    (∃ error, reply = .error error ∧ next.db = state.db) ∨
      reply = .ok () ∧ ∃ view updated leaseUntil, Holds lease state view ∧
        view.row.cancelRequested = false ∧
        state.db.Rewrites view (view.saved saved updated leaseUntil) next.db := by
  cases answers with
  | performed call token _ operation step replied =>
      rcases call with ⟨store, _, clock⟩
      cases operation
      have inside : state.now ≤ clock 0 := step.timed.after trivial
      rw [step.db, Call.apply]
      cases reply with
      | error error => exact .inl ⟨error, rfl, perform_raised replied⟩
      | ok accepted =>
          obtain ⟨view, updated, leaseUntil, id, tenant, owned, wanted, found, rewrites⟩ :=
            checkpoint_returned valid replied
          exact .inr ⟨rfl, view, updated, leaseUntil,
            ⟨id, tenant, found, owned.earlier inside⟩, wanted, rewrites⟩
  | refused refused waits => exact .inl ⟨_, refused, waits.db⟩
  | other elsewhere _ => exact absurd (elsewhere "") nofun

theorem Answers.claim {job : Dict} {reply : Except RunStoreError RunRow}
    (answers : Answers store state ⟨.claim job, reply⟩ next) (valid : state.db.WellFormed) :
    (∃ error, reply = .error error ∧ next.db = state.db) ∨
      ∃ view, state.db.view view.row.id = some view ∧
        textField job "agent_run_id" = .ok view.row.id ∧
        textField job "tenant_id" = .ok view.row.tenant ∧ view.row.job = Dict.sorted job ∧
        ((view.row.state = .succeeded ∧ reply = .ok view.row ∧ next.db = state.db) ∨
          ∃ token now, Claimable store view.row now ∧
            (∀ attempt ∈ state.db.attempts, attempt.token ≠ token) ∧
            reply = .ok (view.row.claimed store token now) ∧
            state.db.Rewrites view (view.claimed store token now) next.db) := by
  cases answers with
  | performed call token configured operation step replied =>
      rcases call with ⟨_, _, clock⟩
      subst configured
      cases operation
      rw [step.db, Call.apply]
      cases reply with
      | error error => exact .inl ⟨error, rfl, perform_raised replied⟩
      | ok record =>
          obtain ⟨view, found, idField, tenantField, sameJob, cached | started⟩ :=
            claim_returned valid replied
          · obtain ⟨done, rfl, same⟩ := cached
            exact .inr ⟨view, found, idField, tenantField, sameJob, .inl ⟨done, rfl, same⟩⟩
          · obtain ⟨claimable, fresh, rfl, rewrites⟩ := started
            exact .inr ⟨view, found, idField, tenantField, sameJob,
              .inr ⟨token, clock 0, claimable, fresh, rfl, rewrites⟩⟩
  | refused refused waits => exact .inl ⟨_, refused, waits.db⟩
  | other elsewhere _ => exact absurd (elsewhere "") nofun

theorem Answers.finish {lease : Lease} {final : RunState} {result : Option Json}
    {failure : Option String} {reply : Except RunStoreError Unit}
    (answers : Answers store state ⟨.finish lease final result failure, reply⟩ next)
    (valid : state.db.WellFormed) :
    (∃ error, reply = .error error ∧ next.db = state.db) ∨
      reply = .ok () ∧ ∃ view ended updated, Holds lease state view ∧
        state.db.Rewrites view (view.finished
          (SQLiteRunStore.verdict view.row final result failure).1
          (SQLiteRunStore.verdict view.row final result failure).2.1
          (SQLiteRunStore.verdict view.row final result failure).2.2 ended updated) next.db := by
  cases answers with
  | performed call token _ operation step replied =>
      rcases call with ⟨store, _, clock⟩
      cases operation
      have inside : state.now ≤ clock 0 := step.timed.after trivial
      rw [step.db, Call.apply]
      cases reply with
      | error error => exact .inl ⟨error, rfl, perform_raised replied⟩
      | ok accepted =>
          obtain ⟨view, ended, updated, id, tenant, owned, found, rewrites⟩ :=
            finish_returned valid replied
          exact .inr ⟨rfl, view, ended, updated, ⟨id, tenant, found, owned.earlier inside⟩,
            rewrites⟩
  | refused refused waits => exact .inl ⟨_, refused, waits.db⟩
  | other elsewhere _ => exact absurd (elsewhere "") nofun

theorem Answers.get {runId tenant : String} {reply : Except RunStoreError RunRow}
    (answers : Answers store state ⟨.get runId tenant, reply⟩ next)
    (valid : state.db.WellFormed) :
    (∃ error, reply = .error error ∧ next.db = state.db) ∨
      ∃ view after clock, view.row.id = runId ∧ view.row.tenant = tenant ∧
        state.db.view view.row.id = some view ∧ SQLiteRunStore.Reconciled clock view after ∧
        reply = .ok after.row ∧ state.db.Rewrites view after next.db := by
  cases answers with
  | performed call token _ operation step replied =>
      rcases call with ⟨store, _, clock⟩
      cases operation
      rw [step.db, Call.apply]
      obtain ⟨history, replied⟩ := replied
      cases reply with
      | error error => exact .inl ⟨error, rfl, perform_raised replied⟩
      | ok row =>
          obtain ⟨view, after, id, tenant, found, reconciled, rfl, rewrites⟩ :=
            get_returned valid replied
          exact .inr ⟨view, after, clock, id, tenant, found, reconciled, rfl, rewrites⟩
  | refused refused waits => exact .inl ⟨_, refused, waits.db⟩
  | other elsewhere _ => exact absurd (elsewhere "") nofun

theorem Answers.elsewhere {event : Event Reply} (answers : Answers store state event next)
    (nowhere : ∀ token, event.request.operation token = none) : next.db = state.db := by
  cases answers with
  | performed call token _ operation => rw [nowhere] at operation; cases operation
  | refused _ waits => exact waits.db
  | other _ waits => exact waits.db

/-! ## Programs among other clients -/

namespace Session

variable {Out Ghost : Type} {settings : SQLiteRunStore} {session after : Session Out}

theorem Step.follows {protocol : Protocol Reply Ghost} {post : Out → Ghost → Prop} {ghost : Ghost}
    {event : Event Reply} (step : Step settings session (.event event) after)
    (follows : Follows protocol post session.program ghost) :
    ∃ next, protocol ghost event next ∧ Follows protocol post after.program next := by
  cases step with
  | event asks answers =>
      rw [asks] at follows
      exact follows _

theorem Step.program {call : Call} (step : Step settings session (.client call) after) :
    after.program = session.program := by
  cases step
  rfl

theorem follows_run {protocol : Protocol Reply Ghost} {post : Out → Ghost → Prop} {ghost : Ghost}
    {labels : List Label} (run : Run (Step settings) session labels after)
    (follows : Follows protocol post session.program ghost) :
    ∃ next, Follows protocol post after.program next := by
  induction run generalizing ghost with
  | nil => exact ⟨ghost, follows⟩
  | @cons first middle last label labels step rest induction =>
      cases label with
      | client call => exact induction (step.program ▸ follows)
      | event event =>
          obtain ⟨next, _, later⟩ := step.follows follows
          exact induction later

theorem Step.answers {event : Event Reply} (step : Step settings session (.event event) after) :
    Answers settings session.store event after.store := by
  cases step with
  | event _ answers => exact answers

end Session

end Crewos.Agent

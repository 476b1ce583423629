import Crewos.Agent.Histories
import Crewos.Agent.Settlement

/-! # What a run spends

The totals of the durable checkpoint are those of the ledger and never decrease, and
a model is called only while the totals its attempt has saved are within the ceilings
of the run and of its worker. -/

namespace Crewos.Agent

open Foundation RunStore

/-! ## Refused reservations -/

def acceptedSaves : Monitor ControlReply Nat where
  permits _ _ := True
  admits _ _ _ := True
  advance
    | saved, .checkpoint _ _ _, reply =>
        match (reply : Except RunStoreError Unit) with
        | .ok _ => saved + 1
        | .error _ => saved
    | saved, _, _ => saved

/-- A reservation is saved once, or it is refused and nothing is saved. The
dictionary changes only when the store itself refuses the checkpoint. -/
theorem wp_reserve (control : Control) (input output : Int) (dict : Dict) :
    Exec.wp acceptedSaves (control.reserve input output)
      (fun _ after saved => saved = 1 ∧ control.Reserves dict input output after)
      (fun error after saved => saved = 0 ∧ (after = dict ∨ ∃ cause, error = .store cause))
      dict 0 := by
  unfold Control.reserve
  refine Exec.wp_bind.mpr (Exec.wp_raiseIf.mpr ⟨fun positive => ?_, fun _ => ⟨rfl, .inl rfl⟩⟩)
  push Not at positive
  refine Exec.wp_bind.mpr (Control.wp_guard trivial (fun _ _ => ⟨rfl, .inl rfl⟩) trivial
    fun reply _ => ⟨fun _ _ => ⟨rfl, .inl rfl⟩, fun _ _ _ => ⟨rfl, .inl rfl⟩, fun _ _ _ => ?_⟩)
  refine Exec.wp_bind.mpr (Exec.wp_get.mpr (Exec.wp_bind.mpr (Exec.wp_ofExcept.mpr
    ⟨fun reserved counted => ?_, fun _ _ => ⟨rfl, .inl rfl⟩⟩)))
  refine Exec.wp_bind.mpr (Exec.wp_ofExcept.mpr
    ⟨fun before read => ?_, fun _ _ => ⟨rfl, .inl rfl⟩⟩)
  refine Exec.wp_bind.mpr (Exec.wp_raiseIf.mpr ⟨fun within => ?_, fun _ => ⟨rfl, .inl rfl⟩⟩)
  refine Control.wp_persist trivial fun reply _ => ⟨?_, ?_⟩
  · rintro error rfl
    exact ⟨rfl, .inr ⟨error, rfl⟩⟩
  · rintro rfl
    exact ⟨rfl, positive.1, positive.2, reserved, before, counted, read, within, rfl⟩

/-! ## Whole runs -/

/-- What holds of the totals of a run and of its calls of a model. -/
structure SpendingKept (job : AgentRunJob) (inputRate outputRate : Option Decimal)
    (first last : World) (labels : List World.Label) : Prop where
  /-- The durable totals are what the ledger is charged with. -/
  totals : ∀ view, last.store.db.view job.agentRunId.text = some view →
    Tallies inputRate outputRate (ledger job.agentRunId.text labels) view.row.checkpoint
  /-- They never decrease. -/
  grows : ∀ before after middle view later, labels = before ++ after →
    Run World.Step first before middle → Run World.Step middle after last →
    middle.store.db.view job.agentRunId.text = some view →
    last.store.db.view job.agentRunId.text = some later →
    ∃ used more cost dearer, counter view.row.checkpoint "reserved_tokens" = .ok used ∧
      counter later.row.checkpoint "reserved_tokens" = .ok more ∧ used ≤ more ∧
      reservedCost view.row.checkpoint = .ok cost ∧
      reservedCost later.row.checkpoint = .ok dearer ∧ cost.value ≤ dearer.value
  /-- Every call has a reservation of its own. The totals its attempt has saved include
  it and are within the ceilings of the run and of the worker; they are the durable
  ones while the attempt has the lease. -/
  admitted : ∀ before index call reply after middle delivery,
    labels = before ++ .event index (⟨.control (.invoke call), reply⟩ : Event Reply) :: after →
    Run World.Step first before middle →
    Run World.Step middle
      (.event index (⟨.control (.invoke call), reply⟩ : Event Reply) :: after) last →
    middle.deliveries[index]? = some delivery → delivery.job = job →
    ∃ entry saved limits used cost,
      latest index (ledger job.agentRunId.text before) = some entry ∧ entry.usage = .pending ∧
      Covers job inputRate outputRate before index saved entry ∧
      firstLimits job.agentRunId.text before = some limits ∧
      counter saved "reserved_tokens" = .ok used ∧ reservedCost saved = .ok cost ∧
      WithinCeilings delivery.settings limits used cost.value ∧
      ∀ view, middle.store.db.view job.agentRunId.text = some view →
        view.row.leaseToken = some entry.lease.token → view.row.checkpoint = saved
  /-- Two counts that are reported for a decision are reconciled before anything else is
  asked for. For a review a guard is passed first. -/
  settles : ∀ before index taken after middle entry usage,
    labels = before ++ .event index taken :: after →
    Run World.Step first before middle →
    Run World.Step middle (.event index taken :: after) last →
    (latestCall job.agentRunId.text index before).refused = false →
    latest index (ledger job.agentRunId.text before) = some entry →
    entry.usage = .reported (some usage) →
    taken.request.settles (latestCall job.agentRunId.text index before).reviewing usage = true

section Runs

variable {job : AgentRunJob} {inputRate outputRate : Option Decimal} {first last : World}
  {labels : List World.Label}

theorem World.tallied (initial : first.Initial) (run : Run World.Step first labels last)
    (rates : ∀ settings, .deliver settings job ∈ labels → HasRates inputRate outputRate settings)
    (registered : ∀ view, last.store.db.view job.agentRunId.text = some view →
      view.row.job = Dict.sorted job.dump) :
    Tallied job inputRate outputRate labels
      (durableOf (last.store.db.view job.agentRunId.text)) := by
  obtain ⟨course, moves, durable, _⟩ := World.course initial run
    (fun label member settings same => rates settings (same ▸ member)) registered
  exact durable ▸ ((metered_keeps job inputRate outputRate).run moves).durable

theorem Metered.calls {past : List World.Label} {index : Nat} {settings : Settings}
    {attempt after : Attempt} {call : ModelCall} {reply : Except Exc ModelResponse}
    (metered : Metered job inputRate outputRate past index settings attempt)
    (step : attempt.Step settings job ⟨.control (.invoke call), reply⟩ after) :
    ∃ entry limits used cost, entry.lease = attempt.control.lease ∧
      latest index (ledger job.agentRunId.text past) = some entry ∧ entry.usage = .pending ∧
      Covers job inputRate outputRate past index attempt.dict entry ∧
      firstLimits job.agentRunId.text past = some limits ∧
      counter attempt.dict "reserved_tokens" = .ok used ∧
      reservedCost attempt.dict = .ok cost ∧ WithinCeilings settings limits used cost.value := by
  cases step with
  | invoked reserved admitted =>
      obtain ⟨_, found, covers⟩ := metered.reserved _ _ reserved
      have charged : attempt.charge ≠ .none := fun none => by cases reserved.symm.trans none
      obtain ⟨limits, firstLimits, truthy, present⟩ :=
        metered.governed.present (metered.governed.started charged)
      obtain ⟨used, cost, counted, read, within⟩ := admitted
      have capped := metered.governed.capped
      rw [limitsOf_present present truthy] at capped
      exact ⟨_, limits, used, cost, rfl, found, rfl, covers, firstLimits, counted, read,
        capped.within within⟩

theorem World.spendingKept (initial : first.Initial) (run : Run World.Step first labels last)
    (rates : ∀ settings, .deliver settings job ∈ labels → HasRates inputRate outputRate settings)
    (registered : ∀ view, last.store.db.view job.agentRunId.text = some view →
      view.row.job = Dict.sorted job.dump) :
    SpendingKept job inputRate outputRate first last labels := by
  have keeps := metered_keeps job inputRate outputRate
  have tallied := World.tallied initial run rates registered
  refine ⟨fun view found => ?_, ?_, ?_, ?_⟩
  · rw [found] at tallied
    exact tallied.tallies
  · rintro before after middle view later rfl earlier rest found arrived
    obtain ⟨floor, shown, _, _, _, kept⟩ := World.reaches keeps initial earlier rest
      (fun label member settings same => rates settings (same ▸ List.mem_append_left _ member))
      registered
    have durable := kept.durable.tallies
    rw [Floor.course, shown.store, found] at durable
    rw [arrived] at tallied
    obtain ⟨cost, read, priced⟩ := durable.cost
    obtain ⟨dearer, readLater, pricedLater⟩ := tallied.tallies.cost
    have grows := tallied.grows before after rfl
    exact ⟨_, _, cost, dearer, durable.tokens, tallied.tallies.tokens, grows.tokens, read,
      readLater, by rw [priced, pricedLater]; exact grows.cost⟩
  · rintro before index call reply after middle delivery rfl earlier rest there rfl
    obtain ⟨floor, shown, sound, registers, known, kept⟩ := World.reaches keeps initial earlier rest
      (fun label member settings same => rates settings (same ▸ List.mem_append_left _ member))
      registered
    obtain ⟨party, here, plays⟩ := shown.plays index delivery there
    obtain ⟨final, restRun, _⟩ := World.floor rest shown
    cases restRun with
    | cons step _ =>
        cases step with
        | event found moves answers =>
            cases here.symm.trans found
            generalize standing : party.standing = before at moves
            cases moves with
            | plain plain => cases plain
            | unreal => exact absurd standing (sound.parties index party here).real
            | works step =>
                have working := Floor.course_attempts.mpr ⟨party, here, plays.job, rfl, standing⟩
                rw [plays.job] at step
                obtain ⟨entry, limits, used, cost, lease, reserved, pending, covers, first, counted,
                  read, within⟩ := (kept.attempts _ _ _ working).calls step
                refine ⟨entry, _, limits, used, cost, reserved, pending, covers, first, counted,
                  read, plays.settings ▸ within, ?_⟩
                rw [← shown.store, lease, ← plays.job]
                exact fun view => (sound.parties index party here).holds _ view standing
  · rintro before index taken after middle entry usage rfl earlier rest unrefused found reported
    refine World.settles initial earlier rest (fun saved member => tallied.readable saved ?_)
      unrefused found reported
    rw [saves, List.filterMap_append]
    exact List.mem_append_left _ member

/-- The totals of a run are those of its ledger and never decrease, every call of a
model is admitted under the ceilings of the run and of its worker, and what is reported
is reconciled. A reservation that is refused saves nothing. -/
theorem spending_admitted (initial : first.Initial) (run : Run World.Step first labels last)
    (rates : ∀ settings, .deliver settings job ∈ labels → HasRates inputRate outputRate settings)
    (registered : ∀ view, last.store.db.view job.agentRunId.text = some view →
      view.row.job = Dict.sorted job.dump) :
    SpendingKept job inputRate outputRate first last labels ∧
      ∀ control input output dict, Exec.wp acceptedSaves (Control.reserve control input output)
        (fun _ after saved => saved = 1 ∧ control.Reserves dict input output after)
        (fun error after saved => saved = 0 ∧ (after = dict ∨ ∃ cause, error = .store cause))
        dict 0 :=
  ⟨World.spendingKept initial run rates registered, wp_reserve⟩

end Runs

/-! A run that is charged for two reservations. The first attempt is overtaken between
its reservation and its call; the usage of the second goes beyond the budget. -/

namespace Sample

def priced : Settings :=
  { worker with
      agentMaxCostUsd := some (.ofInt 10), inputUsdPerMillion := some (.ofInt 5),
      outputUsdPerMillion := some (.ofInt 15) }

def spending (input output : Int) : (request : Request) → Reply request
  | .control (.invoke _) =>
      (Except.ok
        { content := .text (some greeting),
          tokenUsage :=
            .obj [("prompt_tokens", .int input), ("completion_tokens", .int output)],
          refusal := false, nativeToolCalls := false } : Except Exc ModelResponse)
  | request => others request

def overspending : List World.Move :=
  [.client RunStore.Sample.store 0 (.create task.dump 300 none),
    .deliver priced (.obj task.dump)] ++
  List.replicate 19 (.event 0 0 "first" (spending 500 10)) ++
  [.deliver priced (.obj task.dump)] ++
  List.replicate 30 (.event 1 200 "second" (spending 200000 10))

def calling : Option (World.Label × World) :=
  (World.play overspending empty).2.advance (.event 0 200 "first" (spending 500 10))

def invokes : World.Label → Bool
  | .event 0 ⟨.control (.invoke _), _⟩ => true
  | _ => false

theorem of_invokes {label : World.Label} (calls : invokes label = true) :
    ∃ call reply, label = .event 0 (⟨.control (.invoke call), reply⟩ : Event Reply) := by
  unfold invokes at calls
  split at calls
  · exact ⟨_, _, rfl⟩
  · cases calls

theorem overspending_rates (settings : Settings)
    (delivers : .deliver settings task ∈ (World.play overspending empty).1) :
    HasRates priced.inputUsdPerMillion priced.outputUsdPerMillion settings := by
  obtain ⟨payload, member⟩ := World.deliver_of_play delivers
  simp only [overspending, List.mem_append, List.mem_cons, List.mem_replicate,
    World.Move.deliver.injEq, reduceCtorEq, List.not_mem_nil, and_false, or_false, false_or]
    at member
  rcases member with ⟨rfl, _⟩ | ⟨rfl, _⟩ <;> exact ⟨rfl, rfl⟩

end Sample

open Sample in
/-- The totals of the run that has overspent. -/
theorem spending_admitted_overspending : SpendingKept task priced.inputUsdPerMillion
    priced.outputUsdPerMillion empty (World.play overspending empty).2
    (World.play overspending empty).1 := by
  have facts : ((World.play overspending empty).2.store.db.view task.agentRunId.text).any
      (fun view => view.row.job = Dict.sorted task.dump) = true := by decide +kernel
  obtain ⟨view, found, sameJob⟩ := (Option.any_eq_true _ _).mp facts
  have start : empty.Initial := ⟨rfl, rfl⟩
  exact (spending_admitted start (World.play_run overspending empty) overspending_rates
    fun other here => by
      cases found.symm.trans here
      exact of_decide_eq_true sameJob).1

open Sample in
/-- When an overtaken attempt calls its model, the durable total may be beyond the
ceiling. -/
theorem overtaken_call_overspends : ¬∀ (first last : World) (job : AgentRunJob)
    (inputRate outputRate : Option Decimal) (labels : List World.Label), first.Initial →
    Run World.Step first labels last →
    (∀ settings, .deliver settings job ∈ labels → HasRates inputRate outputRate settings) →
    (∀ view, last.store.db.view job.agentRunId.text = some view →
      view.row.job = Dict.sorted job.dump) →
    ∀ before index call reply after, labels = before ++
      .event index (⟨.control (.invoke call), reply⟩ : Event Reply) :: after →
    ∀ middle delivery view limits most used, Run World.Step first before middle →
      Run World.Step middle
        (.event index (⟨.control (.invoke call), reply⟩ : Event Reply) :: after) last →
      middle.deliveries[index]? = some delivery → delivery.job = job →
      middle.store.db.view job.agentRunId.text = some view →
      firstLimits job.agentRunId.text before = some limits → tokenCeiling limits = .ok most →
      counter view.row.checkpoint "reserved_tokens" = .ok used →
      used ≤ min most delivery.settings.agentMaxTokens := by
  intro admitted
  have facts : calling.any (fun next => invokes next.1 ∧
      (next.2.store.db.view task.agentRunId.text).any (fun view =>
        view.row.job = Dict.sorted task.dump)) = true := by decide +kernel
  have seen : ((World.play overspending empty).2.store.db.view task.agentRunId.text).any
      (fun view => (counter view.row.checkpoint "reserved_tokens").toOption = some 200965) ∧
      (firstLimits task.agentRunId.text (World.play overspending empty).1).any (fun limits =>
        (tokenCeiling limits).toOption = some 100000) ∧
      (World.play overspending empty).2.deliveries[0]?.any (fun delivery =>
        delivery.job = task) := by decide +kernel
  obtain ⟨⟨label, last⟩, advances, holds⟩ := (Option.any_eq_true _ _).mp facts
  obtain ⟨calls, kept⟩ := of_decide_eq_true holds
  obtain ⟨later, arrived, sameJob⟩ := (Option.any_eq_true _ _).mp kept
  obtain ⟨reserved, limited, delivered⟩ := seen
  obtain ⟨view, found, counted⟩ := (Option.any_eq_true _ _).mp reserved
  obtain ⟨limits, first, allowed⟩ := (Option.any_eq_true _ _).mp limited
  obtain ⟨delivery, here, own⟩ := (Option.any_eq_true _ _).mp delivered
  obtain ⟨call, reply, rfl⟩ := of_invokes calls
  have reads {out : Except Exc Int} {value : Int} (same : out.toOption = some value) :
      out = .ok value := by
    cases out with
    | ok => exact congrArg _ (Option.some.inj same)
    | error => cases same
  have run := World.play_run overspending empty
  have step := World.advance_step advances
  have within := admitted empty last task _ _ _ ⟨rfl, rfl⟩ (run.append (.cons step (.nil _)))
    (fun settings delivers => overspending_rates settings (by simpa using delivers))
    (fun other there => by
      cases arrived.symm.trans there
      exact of_decide_eq_true sameJob)
    _ 0 call reply [] rfl _ delivery view limits 100000 200965 run (.cons step (.nil _)) here
    (of_decide_eq_true own) found first (reads (of_decide_eq_true allowed))
    (reads (of_decide_eq_true counted))
  omega

end Crewos.Agent

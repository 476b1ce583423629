import Crewos.Agent.Course

/-! # Numbered steps

Every decision of a run has a number, which the checkpoint before it raises. What
an attempt does with a number it does once, and no other attempt gets the number. -/

namespace Crewos.Agent

open Foundation RunStore

/-! ## Saved dictionaries -/

def World.Label.saved (runId : String) : World.Label → Option Dict
  | .event _ ⟨.control (.checkpoint lease _ saved), reply⟩ =>
      match (reply : Except RunStoreError Unit) with
      | .ok _ => if lease.runId = runId then some saved else none
      | .error _ => none
  | _ => none

/-- What has been saved for the run, in the order of the saves. -/
def saves (runId : String) (labels : List World.Label) : List Dict :=
  labels.filterMap (World.Label.saved runId)

theorem saves_snoc (runId : String) (past : List World.Label) (label : World.Label) :
    saves runId (past ++ [label]) = saves runId past ++ (label.saved runId).toList := by
  simp only [saves, List.filterMap_append, List.filterMap_cons, List.filterMap_nil]
  cases label.saved runId <;> rfl

theorem saved_eq_some {runId : String} {index : Nat} {taken : Event Reply} {dict : Dict}
    (saves : World.Label.saved runId (.event index taken) = some dict) :
    taken.request.runOf = some runId := by
  rcases taken with ⟨request, reply⟩
  cases request with
  | control request =>
      cases request with
      | checkpoint lease site saved =>
          cases reply with
          | ok =>
              simp only [World.Label.saved] at saves
              split at saves
              · rename_i same
                exact congrArg some same
              · cases saves
          | error => cases saves
      | _ => cases saves
  | _ => cases saves

theorem saved_checkpointed {runId : String} {index : Nat} {lease : Lease} (site : Site)
    (saved : Dict) (same : lease.runId = runId) :
    World.Label.saved runId (.event index (checkpointed lease site saved (.ok ()))) =
      some saved := if_pos same

/-! ## Invariants of courses -/

/-- What every attempt at work and the durable checkpoint keep, given the labels
so far. A checkpoint is saved by an attempt that works on the durable one. -/
structure Course.Keeps (job : AgentRunJob) (configured : Settings → Prop)
    (Works : List World.Label → Nat → Settings → Attempt → Prop)
    (Durable : List World.Label → Dict → Prop) : Prop where
  blank : Durable [] []
  waits : ∀ {past : List World.Label} {label : World.Label} {index : Nat} {settings : Settings}
    {attempt : Attempt}, Works past index settings attempt →
    (∀ taken, label = .event index taken → taken.request.plain = true) →
    Works (past ++ [label]) index settings attempt
  rests : ∀ {past : List World.Label} {label : World.Label} {dict : Dict}, Durable past dict →
    label.saved job.agentRunId.text = none → Durable (past ++ [label]) dict
  opens : ∀ {past : List World.Label} {index : Nat} {settings : Settings} {row : RunRow}
    {token : String} {progress : Progress} {control : Control}, configured settings →
    Durable past row.checkpoint → unsafePending row.checkpoint = false →
    Claimed job row token progress →
    controlFor settings (Runner.jobLease job token) row.checkpoint = .ok control →
    Works (past ++ [.event index ⟨.claim job.dump, (Except.ok row : Except RunStoreError RunRow)⟩])
      index settings (Attempt.begun control row progress)
  works : ∀ {past : List World.Label} {index : Nat} {settings : Settings}
    {attempt after : Attempt} {taken : Event Reply}, Works past index settings attempt →
    attempt.Step settings job taken after → (∀ token, taken.request.operation token = none) →
    Works (past ++ [.event index taken]) index settings after
  saves : ∀ {past : List World.Label} {index : Nat} {site : Site} {settings : Settings}
    {attempt after : Attempt}, Works past index settings attempt → Durable past attempt.dict →
    attempt.control.lease.runId = job.agentRunId.text →
    attempt.Step settings job (checkpointed attempt.control.lease site after.dict (.ok ())) after →
    Works (past ++ [.event index (checkpointed attempt.control.lease site after.dict (.ok ()))])
        index settings after ∧
      Durable (past ++ [.event index (checkpointed attempt.control.lease site after.dict (.ok ()))])
        after.dict
  stuck : ∀ {past : List World.Label} {index : Nat} {settings : Settings} {attempt : Attempt},
    Works past index settings attempt → Durable past attempt.dict →
    attempt.control.lease.runId = job.agentRunId.text → attempt.stage = .opening →
    Durable (past ++ [.event index (checkpointed attempt.control.lease .limits
        (attempt.dict.update [("limits", Runner.limitsOf settings attempt.dict)]) (.ok ()))])
      (attempt.dict.update [("limits", Runner.limitsOf settings attempt.dict)])

structure Course.Kept (Works : List World.Label → Nat → Settings → Attempt → Prop)
    (Durable : List World.Label → Dict → Prop) (past : List World.Label) (course : Course) :
    Prop where
  durable : Durable past course.durable
  attempts : ∀ index settings attempt, course.attempts index = some (settings, attempt) →
    Works past index settings attempt

section Kept

variable {job : AgentRunJob} {configured : Settings → Prop}
  {Works : List World.Label → Nat → Settings → Attempt → Prop}
  {Durable : List World.Label → Dict → Prop} {past : List World.Label} {course next : Course}
  {label : World.Label}

theorem attempts_update {attempts later : Nat → Option (Settings × Attempt)} {index other : Nat}
    {worker : Option (Settings × Attempt)} {found : Settings × Attempt}
    (becomes : later = Function.update attempts index worker) (here : later other = some found) :
    (other = index ∧ worker = some found) ∨ (other ≠ index ∧ attempts other = some found) := by
  rw [becomes] at here
  by_cases same : other = index
  · subst same
    rw [Function.update_self] at here
    exact .inl ⟨rfl, here⟩
  · rw [Function.update_of_ne same] at here
    exact .inr ⟨same, here⟩

theorem Request.runOf_plain {request : Request} (plain : request.plain = true) :
    request.runOf = none := by
  cases request with
  | control request =>
      cases request with
      | checkpoint => cases plain
      | _ => rfl
  | decide | decided | dispatch => cases plain
  | _ => rfl

theorem saved_of_elsewhere {runId : String} {index : Nat} {taken : Event Reply}
    (elsewhere : taken.request.runOf ≠ some runId) :
    World.Label.saved runId (.event index taken) = none := by
  cases saves : World.Label.saved runId (.event index taken) with
  | none => rfl
  | some dict => exact absurd (saved_eq_some saves) elsewhere

theorem saved_of_calm {runId : String} {index : Nat} {taken : Event Reply}
    (calm : ∀ token, taken.request.operation token = none) :
    World.Label.saved runId (.event index taken) = none := by
  rcases taken with ⟨request, reply⟩
  cases request with
  | control request =>
      cases request with
      | checkpoint => cases calm ""
      | _ => rfl
  | _ => rfl

theorem Course.Keeps.step (keeps : Course.Keeps job configured Works Durable)
    (kept : course.Kept Works Durable past) (step : Course.Step job configured course label next) :
    next.Kept Works Durable (past ++ [label]) := by
  -- Nothing is saved, and at most one attempt has moved.
  have calm (nothing : label.saved job.agentRunId.text = none)
      (durable : next.durable = course.durable)
      (comes : ∀ index settings attempt, next.attempts index = some (settings, attempt) →
        (course.attempts index = some (settings, attempt) ∧
          ∀ taken, label = .event index taken → taken.request.plain = true) ∨
        Works (past ++ [label]) index settings attempt) :
      next.Kept Works Durable (past ++ [label]) := by
    refine ⟨durable ▸ keeps.rests kept.durable nothing, fun index settings attempt here => ?_⟩
    rcases comes index settings attempt here with ⟨before, plain⟩ | works
    · exact keeps.waits (kept.attempts index settings attempt before) plain
    · exact works
  -- An event of one delivery is none of another.
  have elsewhere {index other : Nat} {taken : Event Reply} (different : other ≠ index) :
      ∀ event, World.Label.event index taken = .event other event →
        event.request.plain = true := by
    rintro event same
    cases same
    exact absurd rfl different
  cases step with
  | away becomes outside =>
      refine calm ?_ becomes.durable fun index settings attempt here => ?_
      · cases label with
        | client => rfl
        | deliver => rfl
        | event index taken => exact saved_of_elsewhere (outside index taken rfl).2
      · rw [becomes.attempts] at here
        refine .inl ⟨here, fun taken same => ?_⟩
        cases (outside index taken same).1.symm.trans here
  | plain working plain becomes =>
      refine calm (saved_of_elsewhere ?_) becomes.durable fun index settings attempt here => ?_
      · rw [Request.runOf_plain plain]
        exact fun same => by cases same
      · refine .inl ⟨becomes.attempts ▸ here, fun taken same => ?_⟩
        cases same
        exact plain
  | work working step calmly becomes =>
      refine calm (saved_of_calm calmly) becomes.durable fun other settings attempt here => ?_
      rcases attempts_update becomes.attempts here with ⟨rfl, same⟩ | ⟨different, before⟩
      · cases same
        exact .inr (keeps.works (kept.attempts _ _ _ working) step calmly)
      · exact .inl ⟨before, elsewhere different⟩
  | save working _ same _ lease step becomes =>
      obtain ⟨works, durable⟩ := keeps.saves (kept.attempts _ _ _ working) (same ▸ kept.durable)
        lease step
      refine ⟨becomes.durable ▸ durable, fun other settings attempt here => ?_⟩
      rcases attempts_update becomes.attempts here with ⟨rfl, same⟩ | ⟨different, before⟩
      · cases same
        exact works
      · exact keeps.waits (kept.attempts other settings attempt before) (elsewhere different)
  | stuck working _ same _ lease opening becomes =>
      refine ⟨becomes.durable ▸ keeps.stuck (kept.attempts _ _ _ working) (same ▸ kept.durable)
        lease opening, fun other settings attempt here => ?_⟩
      rcases attempts_update becomes.attempts here with ⟨_, same⟩ | ⟨different, before⟩
      · cases same
      · exact keeps.waits (kept.attempts other settings attempt before) (elsewhere different)
  | leave _ leaves becomes =>
      refine calm ?_ becomes.durable fun other settings attempt here => ?_
      · cases leaves <;> rfl
      · rcases attempts_update becomes.attempts here with ⟨_, same⟩ | ⟨different, before⟩
        · cases same
        · exact .inl ⟨before, elsewhere different⟩
  | claim _ allowed same safe claimed built durable attempts =>
      refine calm rfl durable fun other settings attempt here => ?_
      rcases attempts_update attempts here with ⟨rfl, same'⟩ | ⟨different, before⟩
      · cases same'
        exact .inr (keeps.opens allowed (same ▸ kept.durable) (same ▸ safe) claimed built)
      · exact .inl ⟨before, elsewhere different⟩
  | @claimFailed _ index _ vacant _ _ durable attempts =>
      refine calm rfl durable fun other settings attempt here => ?_
      rw [attempts] at here
      refine .inl ⟨here, elsewhere fun same => ?_⟩
      rw [same, vacant] at here
      cases here

theorem Course.Keeps.start (keeps : Course.Keeps job configured Works Durable) :
    Course.blank.Kept Works Durable [] := ⟨keeps.blank, fun _ _ _ here => by cases here⟩

theorem Course.Keeps.run (keeps : Course.Keeps job configured Works Durable)
    {labels : List World.Label} (run : Run (Course.Move job configured) .blank labels course) :
    course.Kept Works Durable labels :=
  @Run.traced _ _ _ (fun past course => Course.Kept Works Durable past course)
    (fun _ _ _ _ kept move => keeps.step kept move.step) _ _ _ run [] keeps.start

theorem Course.Step.acts {index : Nat} {taken : Event Reply}
    (step : Course.Step job configured course (.event index taken) next)
    (names : taken.request.runOf = some job.agentRunId.text)
    (calm : ∀ token, taken.request.operation token = none) :
    ∃ settings attempt after, course.attempts index = some (settings, attempt) ∧
      attempt.Step settings job taken after := by
  cases step with
  | away _ outside => exact absurd names (outside index taken rfl).2
  | plain _ plain =>
      rw [Request.runOf_plain plain] at names
      cases names
  | work working step => exact ⟨_, _, _, working, step⟩
  | save | stuck => cases calm ""
  | leave _ leaves =>
      cases leaves with
      | refused => cases calm ""
      | reports => cases names
  | claim | claimFailed => cases names

theorem Course.Keeps.acts (keeps : Course.Keeps job configured Works Durable)
    {before after : List World.Label} {index : Nat} {taken : Event Reply}
    (run : Run (Course.Move job configured) .blank (before ++ .event index taken :: after) course)
    (names : taken.request.runOf = some job.agentRunId.text)
    (calm : ∀ token, taken.request.operation token = none) :
    ∃ settings attempt later, Works before index settings attempt ∧
      attempt.Step settings job taken later := by
  obtain ⟨middle, first, rest⟩ := run.split
  cases rest with
  | cons move _ =>
      obtain ⟨settings, attempt, later, working, step⟩ := move.step.acts names calm
      exact ⟨settings, attempt, later, (keeps.run first).attempts _ _ _ working, step⟩

end Kept

/-! ## What is known of dictionaries -/

def decisionsOf (dict : Dict) : Int :=
  match counter dict "decisions" with
  | .ok value => value
  | .error _ => 0

theorem Tells.decisionsOf_eq {job : AgentRunJob} {dict : Dict} {progress : Progress}
    (tells : Tells job dict progress) : decisionsOf dict = progress.decisions := by
  rw [decisionsOf, tells.decisions]

/-- The dictionary an attempt works on tells its progress. -/
def Knows (job : AgentRunJob) (_ : List World.Label) (_ : Nat) (_ : Settings)
    (attempt : Attempt) : Prop := Tells job attempt.dict attempt.progress

def Known (job : AgentRunJob) (_ : List World.Label) (dict : Dict) : Prop :=
  ∃ progress, Tells job dict progress

theorem knows_keeps (job : AgentRunJob) (configured : Settings → Prop) :
    Course.Keeps job configured (Knows job) (Known job) where
  blank := ⟨_, .of_empty job⟩
  waits knows _ := knows
  rests known _ := known
  opens _ _ _ claimed _ := claimed.tells
  works knows step _ := step.tells knows
  saves knows _ _ step := ⟨step.tells knows, _, step.tells knows⟩
  stuck knows _ _ _ := ⟨_, tells_other knows rfl⟩

theorem Attempt.Step.decisions {settings : Settings} {job : AgentRunJob} {attempt after : Attempt}
    {taken : Event Reply} (step : attempt.Step settings job taken after) :
    after.progress.decisions = attempt.progress.decisions ∨
      (after.progress.decisions = attempt.progress.decisions + 1 ∧ after.stage = .raised ∧
        after.progress.decisions ≤ job.maxDecisions) := by
  cases step with
  | progressed moves =>
      generalize attempt.stage = stage at moves
      cases moves with
      | raise _ _ next within => exact .inr ⟨next, rfl, within⟩
      | repair _ same => exact .inl same
      | pend _ _ same => exact .inl same
      | excuse _ same => exact .inl same
      | record _ same => exact .inl same
  | _ => exact .inl rfl

/-! ## Tickets -/

/-- What is done once with every number: the requests that do it, and the stages
an attempt may still do it from. -/
structure Ticket where
  mark : Request → Option Int
  carries : Stage → Prop

structure Ticket.Lawful (ticket : Ticket) (job : AgentRunJob)
    (Works : List World.Label → Nat → Settings → Attempt → Prop) : Prop where
  control : ∀ request, ticket.mark (.control request) = none
  opening : ¬ticket.carries .opening
  spends : ∀ {settings : Settings} {attempt after : Attempt} {taken : Event Reply} {number : Int},
    attempt.Step settings job taken after → ticket.mark taken.request = some number →
    ticket.carries attempt.stage ∧ number = attempt.progress.decisions ∧
      ¬ticket.carries after.stage
  keeps : ∀ {past : List World.Label} {index : Nat} {settings : Settings}
    {attempt after : Attempt} {taken : Event Reply}, Works past index settings attempt →
    attempt.Step settings job taken after → ticket.carries after.stage →
    ticket.carries attempt.stage ∨
      after.progress.decisions = attempt.progress.decisions + 1

def World.Label.number (mark : Request → Option Int) (runId : String) : World.Label → Option Int
  | .event _ taken => if taken.request.runOf = some runId then mark taken.request else none
  | _ => none

def numbers (mark : Request → Option Int) (runId : String) (labels : List World.Label) :
    List Int := labels.filterMap (World.Label.number mark runId)

/-- Every number is used once, and only attempts that carry it may still use it. -/
structure Course.Once (ticket : Ticket) (job : AgentRunJob) (past : List World.Label)
    (course : Course) : Prop where
  bounded : ∀ number ∈ numbers ticket.mark job.agentRunId.text past,
    number ≤ decisionsOf course.durable
  nodup : (numbers ticket.mark job.agentRunId.text past).Nodup
  carried : ∀ index settings attempt, course.attempts index = some (settings, attempt) →
    ticket.carries attempt.stage → attempt.progress.decisions ≤ decisionsOf course.durable ∧
      (attempt.progress.decisions : Int) ∉ numbers ticket.mark job.agentRunId.text past
  apart : ∀ left right firstSettings secondSettings first second, left ≠ right →
    course.attempts left = some (firstSettings, first) →
    course.attempts right = some (secondSettings, second) → ticket.carries first.stage →
    ticket.carries second.stage → first.progress.decisions ≠ second.progress.decisions

section Once

variable {ticket : Ticket} {job : AgentRunJob} {past : List World.Label} {course next : Course}
  {label : World.Label} {index : Nat} {worker : Option (Settings × Attempt)}

theorem numbers_snoc (mark : Request → Option Int) (runId : String) (past : List World.Label)
    (label : World.Label) : numbers mark runId (past ++ [label]) =
      numbers mark runId past ++ (label.number mark runId).toList := by
  simp only [numbers, List.filterMap_append, List.filterMap_cons, List.filterMap_nil]
  cases label.number mark runId <;> rfl

theorem Course.Once.silent (once : course.Once ticket job past)
    (nothing : label.number ticket.mark job.agentRunId.text = none)
    (grows : decisionsOf course.durable ≤ decisionsOf next.durable)
    (attempts : next.attempts = Function.update course.attempts index worker)
    (moves : ∀ settings attempt, worker = some (settings, attempt) →
      ticket.carries attempt.stage →
      (∃ settings old, course.attempts index = some (settings, old) ∧ ticket.carries old.stage ∧
        attempt.progress.decisions = old.progress.decisions) ∨
      (decisionsOf course.durable < attempt.progress.decisions ∧
        attempt.progress.decisions ≤ decisionsOf next.durable)) :
    next.Once ticket job (past ++ [label]) := by
  have same : numbers ticket.mark job.agentRunId.text (past ++ [label]) =
      numbers ticket.mark job.agentRunId.text past := by
    rw [numbers_snoc, nothing]
    simp
  refine ⟨?_, ?_, ?_, ?_⟩
  · rw [same]
    exact fun number member => (once.bounded number member).trans grows
  · rw [same]
    exact once.nodup
  · rw [same]
    intro other settings attempt here carries
    rcases attempts_update attempts here with ⟨_, equal⟩ | ⟨_, before⟩
    · rcases moves settings attempt equal carries with ⟨_, old, found, carried, number⟩ |
        ⟨fresh, within⟩
      · rw [number]
        obtain ⟨small, unused⟩ := once.carried _ _ old found carried
        exact ⟨small.trans grows, unused⟩
      · exact ⟨within, fun member => absurd (once.bounded _ member) (not_le.mpr fresh)⟩
    · obtain ⟨small, unused⟩ := once.carried other settings attempt before carries
      exact ⟨small.trans grows, unused⟩
  · -- The mover against another attempt.
    have against {other : Nat} {settings otherSettings : Settings} {attempt found : Attempt}
        (equal : worker = some (settings, attempt)) (different : other ≠ index)
        (there : course.attempts other = some (otherSettings, found))
        (carries : ticket.carries attempt.stage) (carried : ticket.carries found.stage) :
        attempt.progress.decisions ≠ found.progress.decisions := by
      rcases moves settings attempt equal carries with ⟨_, old, here, before, number⟩ | ⟨fresh, _⟩
      · rw [number]
        exact once.apart index other _ _ old found (Ne.symm different) here there before carried
      · have small := (once.carried other otherSettings found there carried).1
        omega
    intro left right firstSettings secondSettings first second different hereFirst hereSecond
      carriesFirst carriesSecond
    rcases attempts_update attempts hereFirst with ⟨rfl, equalFirst⟩ | ⟨notFirst, beforeFirst⟩
    · rcases attempts_update attempts hereSecond with ⟨same, _⟩ | ⟨notSecond, beforeSecond⟩
      · exact absurd same.symm different
      · exact against equalFirst notSecond beforeSecond carriesFirst carriesSecond
    · rcases attempts_update attempts hereSecond with ⟨rfl, equalSecond⟩ | ⟨_, beforeSecond⟩
      · exact (against equalSecond notFirst beforeFirst carriesSecond carriesFirst).symm
      · exact once.apart left right _ _ first second different beforeFirst beforeSecond
          carriesFirst carriesSecond

theorem Course.Once.spent (once : course.Once ticket job past) {settings later : Settings}
    {attempt after : Attempt} (working : course.attempts index = some (settings, attempt))
    (uses : label.number ticket.mark job.agentRunId.text = some attempt.progress.decisions)
    (same : next.durable = course.durable)
    (attempts : next.attempts = Function.update course.attempts index (some (later, after)))
    (carries : ticket.carries attempt.stage) (gone : ¬ticket.carries after.stage) :
    next.Once ticket job (past ++ [label]) := by
  have grown : numbers ticket.mark job.agentRunId.text (past ++ [label]) =
      numbers ticket.mark job.agentRunId.text past ++ [(attempt.progress.decisions : Int)] := by
    rw [numbers_snoc, uses]
    rfl
  obtain ⟨small, unused⟩ := once.carried index settings attempt working carries
  have others {other : Nat} {otherSettings : Settings} {found : Attempt}
      (here : next.attempts other = some (otherSettings, found))
      (carried : ticket.carries found.stage) :
      other ≠ index ∧ course.attempts other = some (otherSettings, found) := by
    rcases attempts_update attempts here with ⟨_, equal⟩ | before
    · cases equal
      exact absurd carried gone
    · exact before
  refine ⟨?_, ?_, ?_, ?_⟩
  · rw [grown, same]
    intro number member
    rcases List.mem_append.mp member with member | member
    · exact once.bounded number member
    · rw [List.mem_singleton.mp member]
      exact small
  · rw [grown]
    refine List.nodup_append.mpr ⟨once.nodup, List.nodup_singleton _, ?_⟩
    rintro left member right single rfl
    rw [List.mem_singleton.mp single] at member
    exact unused member
  · rw [grown, same]
    intro other otherSettings found here carried
    obtain ⟨different, before⟩ := others here carried
    obtain ⟨within, fresh⟩ := once.carried other otherSettings found before carried
    refine ⟨within, fun member => ?_⟩
    rcases List.mem_append.mp member with member | member
    · exact fresh member
    · have equal := List.mem_singleton.mp member
      exact once.apart other index _ _ found attempt different before working carried carries
        (Int.ofNat.inj equal)
  · intro left right _ _ first second different hereFirst hereSecond carriesFirst carriesSecond
    exact once.apart left right _ _ first second different (others hereFirst carriesFirst).2
      (others hereSecond carriesSecond).2 carriesFirst carriesSecond

theorem Attempt.Step.still {settings : Settings} {attempt after : Attempt}
    {taken : Event Reply} (step : attempt.Step settings job taken after)
    (calm : ∀ token, taken.request.operation token = none) :
    after.progress = attempt.progress := by
  cases step with
  | progressed => cases calm ""
  | _ => rfl

theorem number_of_unnamed (mark : Request → Option Int) {runId : String} {taken : Event Reply}
    (unnamed : taken.request.runOf = none) :
    World.Label.number mark runId (.event index taken) = none := by
  rw [World.Label.number, unnamed]
  rfl

theorem number_of_unmarked {mark : Request → Option Int} {runId : String} {taken : Event Reply}
    (unmarked : mark taken.request = none) :
    World.Label.number mark runId (.event index taken) = none := by
  rw [World.Label.number, unmarked, ite_self]

theorem Course.Once.step {configured : Settings → Prop}
    {Works : List World.Label → Nat → Settings → Attempt → Prop}
    {Durable : List World.Label → Dict → Prop} (once : course.Once ticket job past)
    (lawful : ticket.Lawful job Works) (kept : course.Kept Works Durable past)
    (known : course.Kept (Knows job) (Known job) past)
    (step : Course.Step job configured course label next) :
    next.Once ticket job (past ++ [label]) := by
  -- An attempt that leaves, or that none has replaced.
  have away (index : Nat) (nothing : label.number ticket.mark job.agentRunId.text = none)
      (durable : next.durable = course.durable)
      (attempts : next.attempts = Function.update course.attempts index none) :
      next.Once ticket job (past ++ [label]) :=
    once.silent nothing (durable ▸ le_refl _) attempts fun _ _ same => by cases same
  have still (nothing : label.number ticket.mark job.agentRunId.text = none)
      (durable : next.durable = course.durable) (attempts : next.attempts = course.attempts)
      (index : Nat) : next.Once ticket job (past ++ [label]) :=
    once.silent nothing (durable ▸ le_refl _)
      (attempts.trans (Function.update_eq_self index course.attempts).symm)
      fun settings attempt here carries => .inl ⟨settings, attempt, here, carries, rfl⟩
  cases step with
  | away becomes outside =>
      refine still ?_ becomes.durable becomes.attempts 0
      cases label with
      | client => rfl
      | deliver => rfl
      | event index taken => exact if_neg (outside index taken rfl).2
  | plain working plain becomes =>
      exact still (number_of_unnamed _ (Request.runOf_plain plain)) becomes.durable
        becomes.attempts 0
  | @work _ index taken settings attempt after working step calm becomes =>
      have same := step.still calm
      cases uses : World.Label.number ticket.mark job.agentRunId.text (.event index taken) with
      | some number =>
          have marked : ticket.mark taken.request = some number := by
            rw [World.Label.number] at uses
            split at uses
            · exact uses
            · cases uses
          obtain ⟨carries, rfl, gone⟩ := lawful.spends step marked
          exact once.spent working uses becomes.durable becomes.attempts carries gone
      | none =>
          refine once.silent uses (becomes.durable ▸ le_refl _) becomes.attempts
            fun later found here carries => ?_
          cases here
          rcases lawful.keeps (kept.attempts _ _ _ working) step carries with carried | raised
          · exact .inl ⟨_, attempt, working, carried, by rw [same]⟩
          · rw [same] at raised
            omega
  | @save _ index site settings attempt after working _ same _ _ step becomes =>
      have before := known.attempts _ _ _ working
      have tells := step.tells before
      have was : decisionsOf course.durable = attempt.progress.decisions := by
        rw [same, before.decisionsOf_eq]
      have now : decisionsOf next.durable = after.progress.decisions := by
        rw [becomes.durable, tells.decisionsOf_eq]
      refine once.silent (number_of_unmarked (lawful.control _)) ?_ becomes.attempts
        fun later found here carries => ?_
      · rw [was, now]
        rcases step.decisions with same | ⟨raised, _⟩ <;> omega
      · cases here
        rw [was, now]
        rcases step.decisions with equal | ⟨raised, _⟩
        · rcases lawful.keeps (kept.attempts _ _ _ working) step carries with carried | raised
          · exact .inl ⟨_, attempt, working, carried, by rw [equal]⟩
          · omega
        · right
          omega
  | @stuck _ index settings attempt working _ same _ _ _ becomes =>
      have before := known.attempts _ _ _ working
      have tells : Tells job
          (attempt.dict.update [("limits", Runner.limitsOf settings attempt.dict)])
          attempt.progress := tells_other before rfl
      refine once.silent (number_of_unmarked (lawful.control _)) ?_ becomes.attempts
        fun _ _ here => by cases here
      rw [same, becomes.durable, before.decisionsOf_eq, tells.decisionsOf_eq]
  | leave _ leaves becomes =>
      refine away _ ?_ becomes.durable becomes.attempts
      cases leaves with
      | refused => exact number_of_unmarked (lawful.control _)
      | reports => exact number_of_unnamed _ rfl
  | claim _ _ _ _ _ _ durable attempts =>
      refine once.silent (number_of_unnamed _ rfl) (durable ▸ le_refl _) attempts
        fun _ _ here carries => ?_
      cases here
      exact absurd carries lawful.opening
  | claimFailed _ _ _ durable attempts =>
      exact still (number_of_unnamed _ rfl) durable attempts 0

theorem Course.Once.start (ticket : Ticket) (job : AgentRunJob) :
    Course.blank.Once ticket job [] where
  bounded _ member := by cases member
  nodup := List.nodup_nil
  carried _ _ _ here := by cases here
  apart _ _ _ _ _ _ _ here := by cases here

/-- On every course, what a ticket is for is done once with every number. -/
theorem Course.Once.run {configured : Settings → Prop}
    {Works : List World.Label → Nat → Settings → Attempt → Prop}
    {Durable : List World.Label → Dict → Prop} (lawful : ticket.Lawful job Works)
    (keeps : Course.Keeps job configured Works Durable) {labels : List World.Label}
    (run : Run (Course.Move job configured) .blank labels course) :
    course.Once ticket job labels := by
  have traced := @Run.traced _ _ _
    (fun past course => Course.Kept Works Durable past course ∧
      Course.Kept (Knows job) (Known job) past course ∧ Course.Once ticket job past course)
    (fun _ _ _ _ holds move => ⟨keeps.step holds.1 move.step,
      (knows_keeps job configured).step holds.2.1 move.step,
      holds.2.2.step lawful holds.1 holds.2.1 move.step⟩)
    _ _ _ run [] ⟨keeps.start, (knows_keeps job configured).start, .start ticket job⟩
  exact traced.2.2

end Once

end Crewos.Agent

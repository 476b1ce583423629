import Crewos.RunStore.Operations

/-! # One run and its attempts

A run is seen as its row with its attempt rows. This module says how the two
tables hold such views, and that a write to one run leaves every other view
alone. -/

namespace Crewos.RunStore

open Foundation

structure RunView where
  row : RunRow
  attempts : List AttemptRow
  deriving DecidableEq, Repr

namespace RunDb

def find (db : RunDb) (runId : String) : Option RunRow := Table.find RunRow.id runId db.runs

def attemptsOf (db : RunDb) (runId : String) : List AttemptRow :=
  db.attempts.filter fun attempt => attempt.runId = runId

def view (db : RunDb) (runId : String) : Option RunView :=
  (db.find runId).map fun row => { row, attempts := db.attemptsOf runId }

/-- The primary keys are distinct and the rows refer to each other. -/
structure WellFormed (db : RunDb) : Prop where
  ids : (db.runs.map RunRow.id).Nodup
  tokens : (db.attempts.map AttemptRow.token).Nodup
  lease : ∀ row ∈ db.runs, ∀ token, row.leaseToken = some token →
    ∃ attempt ∈ db.attempts, attempt.token = token ∧ attempt.runId = row.id
  owner : ∀ attempt ∈ db.attempts, ∃ row ∈ db.runs, row.id = attempt.runId

theorem WellFormed.empty : WellFormed RunDb.empty := by
  constructor <;> simp [RunDb.empty]

/-! ## Reading a row -/

theorem find_of_view {db : RunDb} {runId : String} {view : RunView}
    (found : db.view runId = some view) : db.find runId = some view.row := by
  rw [RunDb.view, Option.map_eq_some_iff] at found
  obtain ⟨row, found, rfl⟩ := found
  exact found

theorem attempts_of_view {db : RunDb} {runId : String} {view : RunView}
    (found : db.view runId = some view) : view.attempts = db.attemptsOf runId := by
  rw [RunDb.view, Option.map_eq_some_iff] at found
  obtain ⟨row, _, rfl⟩ := found
  rfl

theorem id_of_view {db : RunDb} {runId : String} {view : RunView}
    (found : db.view runId = some view) : view.row.id = runId :=
  Table.key_of_find (find_of_view found)

theorem row_eq_ok {db : RunDb} (valid : db.WellFormed) {runId tenantId : String}
    {row : RunRow} : db.row runId tenantId = .ok row ↔
      db.view runId = some { row, attempts := db.attemptsOf runId } ∧
        row.tenant = tenantId := by
  constructor
  · intro read
    unfold RunDb.row at read
    split at read
    · rename_i stored found
      cases read
      have selected : row.id = runId ∧ row.tenant = tenantId := by
        simpa using List.find?_some found
      have member := List.mem_of_find?_eq_some found
      refine ⟨?_, selected.2⟩
      rw [RunDb.view, RunDb.find, ← selected.1, Table.find_of_mem valid.ids member]
      rfl
    · cases read
  · rintro ⟨found, tenant⟩
    have found := find_of_view found
    have key := Table.key_of_find found
    have member := Table.mem_of_find found
    unfold RunDb.row
    cases search : db.runs.find? fun row => row.id = runId ∧ row.tenant = tenantId with
    | none =>
        rw [List.find?_eq_none] at search
        exact absurd (by simpa using ⟨key, tenant⟩) (search row member)
    | some other =>
        have selected : other.id = runId ∧ other.tenant = tenantId := by
          simpa using List.find?_some search
        have same := Table.find_of_mem valid.ids (List.mem_of_find?_eq_some search)
        rw [selected.1] at same
        have equal : other = row := Option.some.inj (same.symm.trans found)
        rw [equal]

theorem row_ok_iff {db : RunDb} (valid : db.WellFormed) {runId tenantId : String}
    {row : RunRow} : db.row runId tenantId = .ok row ↔
      ∃ view, db.view runId = some view ∧ view.row = row ∧ row.tenant = tenantId := by
  rw [row_eq_ok valid]
  constructor
  · rintro ⟨found, tenant⟩
    exact ⟨_, found, rfl, tenant⟩
  · rintro ⟨view, found, rfl, tenant⟩
    refine ⟨?_, tenant⟩
    rw [← attempts_of_view found]
    exact found

/-! ## Writing a row -/

section Writes

variable {db : RunDb} {runId : String} {change : RunRow → RunRow}

theorem view_updateRun_same (keeps : ∀ row, (change row).id = row.id) :
    (db.updateRun runId change).view runId =
      (db.view runId).map fun view => { view with row := change view.row } := by
  simp only [RunDb.view, RunDb.find, RunDb.updateRun, Option.map_map]
  rw [Table.find_update_same RunRow.id runId change keeps, Option.map_map]
  rfl

theorem view_updateRun_other (keeps : ∀ row, (change row).id = row.id) {other : String}
    (different : other ≠ runId) : (db.updateRun runId change).view other = db.view other := by
  simp only [RunDb.view, RunDb.find, RunDb.updateRun]
  rw [Table.find_update_other RunRow.id change keeps different]
  rfl

/-- A write keeps the tables well formed when it does not hand the run a lease
that is not its own. -/
theorem WellFormed.updateRun (valid : db.WellFormed)
    (keeps : ∀ row, (change row).id = row.id)
    (lease : ∀ row ∈ db.runs, row.id = runId → ∀ token,
      (change row).leaseToken = some token →
      ∃ attempt ∈ db.attempts, attempt.token = token ∧ attempt.runId = runId) :
    (db.updateRun runId change).WellFormed := by
  refine ⟨?_, valid.tokens, ?_, ?_⟩
  · rw [RunDb.updateRun, Table.map_update _ _ _ keeps]
    exact valid.ids
  · intro row member token held
    obtain ⟨old, oldMember, rfl⟩ := Table.mem_update.mp member
    by_cases selected : old.id = runId
    · simp only [selected, decide_true, if_true] at held ⊢
      rw [keeps, selected]
      exact lease old oldMember selected token held
    · simp only [selected, decide_false, Bool.false_eq_true, if_false] at held ⊢
      exact valid.lease old oldMember token held
  · intro attempt member
    obtain ⟨old, oldMember, same⟩ := valid.owner attempt member
    refine ⟨_, Table.mem_update.mpr ⟨old, oldMember, rfl⟩, ?_⟩
    split
    · rw [keeps, same]
    · exact same

theorem WellFormed.updateRun_of_lease (valid : db.WellFormed)
    (keeps : ∀ row, (change row).id = row.id)
    (lease : ∀ row token, (change row).leaseToken = some token →
      row.leaseToken = some token) : (db.updateRun runId change).WellFormed := by
  refine valid.updateRun keeps ?_
  intro row member same token held
  rw [← same]
  exact valid.lease row member token (lease row token held)

theorem row_updateRun (valid : db.WellFormed) {view : RunView} {tenantId : String}
    {row : RunRow} (found : db.view runId = some view)
    (read : (db.updateRun runId change).row runId tenantId = .ok row)
    (keeps : ∀ row, (change row).id = row.id)
    (lease : ∀ row token, (change row).leaseToken = some token →
      row.leaseToken = some token) :
    row = change view.row := by
  obtain ⟨after, foundAfter, rfl, _⟩ :=
    (row_ok_iff (valid.updateRun_of_lease keeps lease)).mp read
  rw [view_updateRun_same keeps, found, Option.map_some] at foundAfter
  cases foundAfter
  rfl

theorem row_written (valid : db.WellFormed) {view : RunView}
    (found : db.view view.row.id = some view) (change : RunRow → RunRow)
    (keeps : ∀ row, (change row).id = row.id) (keepsTenant : ∀ row, (change row).tenant = row.tenant)
    (lease : ∀ row token, (change row).leaseToken = some token →
      row.leaseToken = some token) :
    (db.updateRun view.row.id change).row view.row.id view.row.tenant = .ok (change view.row) := by
  refine (row_ok_iff (valid.updateRun_of_lease keeps lease)).mpr
    ⟨{ view with row := change view.row }, ?_, rfl, keepsTenant _⟩
  rw [view_updateRun_same keeps, found]
  rfl

end Writes

section Attempts

variable {db : RunDb} {token : Option String} {change : AttemptRow → AttemptRow}

theorem attemptsOf_updateAttempt (keepsRun : ∀ attempt, (change attempt).runId = attempt.runId)
    (runId : String) : (db.updateAttempt token change).attemptsOf runId =
      Table.update (fun attempt => some attempt.token = token) change
        (db.attemptsOf runId) := by
  simp only [RunDb.attemptsOf, RunDb.updateAttempt]
  exact Table.filter_update _ _ _ (fun attempt => by simp [keepsRun]) _

theorem view_updateAttempt_same (keepsRun : ∀ attempt, (change attempt).runId = attempt.runId)
    (runId : String) : (db.updateAttempt token change).view runId =
      (db.view runId).map fun view =>
        { view with attempts :=
            Table.update (fun attempt => some attempt.token = token) change view.attempts } := by
  simp only [RunDb.view, Option.map_map]
  rw [attemptsOf_updateAttempt keepsRun]
  rfl

theorem view_updateAttempt_other (valid : db.WellFormed)
    (keepsRun : ∀ attempt, (change attempt).runId = attempt.runId)
    {row : RunRow} (member : row ∈ db.runs) (held : row.leaseToken = token)
    {other : String} (different : other ≠ row.id) :
    (db.updateAttempt token change).view other = db.view other := by
  simp only [RunDb.view]
  rw [attemptsOf_updateAttempt keepsRun, Table.update_of_none]
  · rfl
  · intro attempt inOther
    simp only [RunDb.attemptsOf, List.mem_filter, decide_eq_true_eq] at inOther
    simp only [decide_eq_false_iff_not]
    intro same
    obtain ⟨owned, ownedMember, ownedToken, ownedRun⟩ :=
      valid.lease row member attempt.token (held.trans same.symm)
    have equal : owned = attempt :=
      List.inj_on_of_nodup_map valid.tokens ownedMember inOther.1 ownedToken
    exact different (inOther.2.symm.trans (equal ▸ ownedRun))

theorem WellFormed.updateAttempt (valid : db.WellFormed)
    (keepsToken : ∀ attempt, (change attempt).token = attempt.token)
    (keepsRun : ∀ attempt, (change attempt).runId = attempt.runId) :
    (db.updateAttempt token change).WellFormed := by
  refine ⟨valid.ids, ?_, ?_, ?_⟩
  · rw [RunDb.updateAttempt, Table.map_update _ _ _ keepsToken]
    exact valid.tokens
  · intro row member held heldBy
    obtain ⟨attempt, attemptMember, sameToken, sameRun⟩ :=
      valid.lease row member held heldBy
    refine ⟨_, Table.mem_update.mpr ⟨attempt, attemptMember, rfl⟩, ?_, ?_⟩
    · split
      · rw [keepsToken, sameToken]
      · exact sameToken
    · split
      · rw [keepsRun, sameRun]
      · exact sameRun
  · intro attempt member
    obtain ⟨old, oldMember, rfl⟩ := Table.mem_update.mp member
    obtain ⟨row, rowMember, same⟩ := valid.owner old oldMember
    refine ⟨row, rowMember, ?_⟩
    split
    · rw [keepsRun, same]
    · exact same

end Attempts

/-! ## Inserting rows -/

theorem view_insertRun {db : RunDb} (valid : db.WellFormed) {row : RunRow}
    (fresh : ∀ old ∈ db.runs, old.id ≠ row.id) (runId : String) :
    RunDb.view { db with runs := db.runs ++ [row] } runId =
      if runId = row.id then some { row, attempts := [] } else db.view runId := by
  simp only [RunDb.view, RunDb.find, Table.find, List.find?_append]
  by_cases same : runId = row.id
  · subst same
    have missing : db.runs.find? (fun old => old.id = row.id) = none := by
      rw [List.find?_eq_none]
      intro old member
      simpa using fresh old member
    have noAttempts : RunDb.attemptsOf { db with runs := db.runs ++ [row] } row.id = [] := by
      simp only [RunDb.attemptsOf, List.filter_eq_nil_iff, decide_eq_true_eq]
      intro attempt member same
      obtain ⟨old, oldMember, owned⟩ := valid.owner attempt member
      exact fresh old oldMember (owned.trans same)
    simp [missing, noAttempts]
  · cases db.runs.find? fun old => old.id = runId with
    | none => simp [same, Ne.symm same]
    | some old => simp [same]; rfl

theorem WellFormed.insertRun {db : RunDb} (valid : db.WellFormed) {row : RunRow}
    (fresh : ∀ old ∈ db.runs, old.id ≠ row.id) (unleased : row.leaseToken = none) :
    RunDb.WellFormed { db with runs := db.runs ++ [row] } := by
  refine ⟨?_, valid.tokens, ?_, ?_⟩
  · simp only [List.map_append, List.map_cons, List.map_nil]
    rw [List.nodup_append]
    refine ⟨valid.ids, by simp, ?_⟩
    intro id member other inNew
    obtain ⟨old, oldMember, rfl⟩ := List.mem_map.mp member
    rw [List.mem_singleton] at inNew
    exact inNew ▸ fresh old oldMember
  · intro old member token held
    rcases List.mem_append.mp member with member | member
    · exact valid.lease old member token held
    · rw [List.mem_singleton] at member
      rw [member, unleased] at held
      cases held
  · intro attempt member
    obtain ⟨old, oldMember, owned⟩ := valid.owner attempt member
    exact ⟨old, List.mem_append_left _ oldMember, owned⟩

theorem view_insertAttempt {db : RunDb} {attempt : AttemptRow} (runId : String) :
    RunDb.view { db with attempts := db.attempts ++ [attempt] } runId =
      if runId = attempt.runId then
        (db.view runId).map fun view =>
          { view with attempts := view.attempts ++ [attempt] }
      else db.view runId := by
  simp only [RunDb.view]
  by_cases same : runId = attempt.runId
  · simp [same, RunDb.attemptsOf, RunDb.find, Option.map_map, Function.comp_def]
  · simp [same, RunDb.attemptsOf, RunDb.find, Ne.symm same]

theorem WellFormed.insertAttempt {db : RunDb} (valid : db.WellFormed) {attempt : AttemptRow}
    (fresh : ∀ old ∈ db.attempts, old.token ≠ attempt.token)
    (owner : ∃ row ∈ db.runs, row.id = attempt.runId) :
    RunDb.WellFormed { db with attempts := db.attempts ++ [attempt] } := by
  refine ⟨valid.ids, ?_, ?_, ?_⟩
  · simp only [List.map_append, List.map_cons, List.map_nil]
    rw [List.nodup_append]
    refine ⟨valid.tokens, by simp, ?_⟩
    intro token member other inNew
    obtain ⟨old, oldMember, rfl⟩ := List.mem_map.mp member
    rw [List.mem_singleton] at inNew
    exact inNew ▸ fresh old oldMember
  · intro row member token held
    obtain ⟨old, oldMember, same⟩ := valid.lease row member token held
    exact ⟨old, List.mem_append_left _ oldMember, same⟩
  · intro old member
    rcases List.mem_append.mp member with member | member
    · exact valid.owner old member
    · rw [List.mem_singleton] at member
      rw [member]
      exact owner

end RunDb

end Crewos.RunStore

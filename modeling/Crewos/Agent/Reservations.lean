import Crewos.Agent.Budgets

/-! # The ledger of a run

Every accepted reservation of a run is an entry of its ledger, with the usage its
call has reported. An entry is charged with what it reserves, and with what was
reported beyond that once an accepted checkpoint has reconciled it. -/

namespace Crewos.Agent

open Foundation RunStore

/-! ## Reservations -/

/-- What is known of the usage of a call. -/
inductive Usage where
  /-- The model has not replied yet. -/
  | pending
  /-- It has, with two token counts or without. -/
  | reported (usage : Option (Int × Int))
  | reconciled (input output : Int)

structure Reservation where
  /-- The delivery that has reserved, and its lease. -/
  holder : Nat
  lease : Lease
  input : Int
  output : Int
  usage : Usage

namespace Reservation

/-- The reported counts, zero unless they are reconciled. -/
def reported (reservation : Reservation) : Int × Int :=
  match reservation.usage with
  | .reconciled input output => (input, output)
  | _ => (0, 0)

def chargedInput (reservation : Reservation) : Int :=
  max reservation.input reservation.reported.1

def chargedOutput (reservation : Reservation) : Int :=
  max reservation.output reservation.reported.2

def reply (usage : Option (Int × Int)) (reservation : Reservation) : Reservation :=
  match reservation.usage with
  | .pending => { reservation with usage := .reported usage }
  | _ => reservation

/-- An accepted checkpoint has reconciled what was reported. -/
def reconcile (reservation : Reservation) : Reservation :=
  match reservation.usage with
  | .reported (some (input, output)) =>
      { reservation with usage := .reconciled input output }
  | _ => reservation

theorem reply_reported (usage : Option (Int × Int)) (reservation : Reservation) :
    (reservation.reply usage).reported = reservation.reported := by
  rcases reservation with ⟨_, _, _, _, known⟩
  cases known <;> rfl

theorem reply_charged (usage : Option (Int × Int)) (reservation : Reservation) :
    (reservation.reply usage).chargedInput = reservation.chargedInput ∧
      (reservation.reply usage).chargedOutput = reservation.chargedOutput := by
  have same : (reservation.reply usage).input = reservation.input ∧
      (reservation.reply usage).output = reservation.output := by
    unfold reply
    split <;> exact ⟨rfl, rfl⟩
  rw [chargedInput, chargedOutput, reply_reported, same.1, same.2]
  exact ⟨rfl, rfl⟩

theorem reply_holder (usage : Option (Int × Int)) (reservation : Reservation) :
    (reservation.reply usage).holder = reservation.holder := by
  unfold reply
  split <;> rfl

theorem reconcile_holder (reservation : Reservation) :
    reservation.reconcile.holder = reservation.holder := by
  unfold reconcile
  split <;> rfl

end Reservation

/-! ## Ledgers -/

/-- The latest reservation of a delivery; the latest of all comes first. -/
def latest (index : Nat) (entries : List Reservation) : Option Reservation :=
  entries.find? fun entry => entry.holder = index

def amend (index : Nat) (change : Reservation → Reservation) :
    List Reservation → List Reservation
  | [] => []
  | entry :: rest =>
      if entry.holder = index then change entry :: rest else entry :: amend index change rest

/-- What is entered into a ledger. -/
inductive Posting where
  | reserve (lease : Lease) (input output : Int)
  | reply (usage : Option (Int × Int))
  | reconcile

/-- What an accepted checkpoint enters, by the call that writes it. -/
def Site.posting (lease : Lease) : Site → Option Posting
  | .reserve inputTokens outputTokens => some (.reserve lease inputTokens outputTokens)
  | .reconcile _ _ _ _ => some .reconcile
  | _ => none

def posting (runId : String) : Event Reply → Option Posting
  | ⟨.control (.checkpoint lease site _), reply⟩ =>
      match (reply : Except RunStoreError Unit) with
      | .ok _ => if lease.runId = runId then site.posting lease else none
      | .error _ => none
  | ⟨.control (.invoke _), reply⟩ => some (.reply (usageOf reply))
  | _ => none

def Posting.enter (index : Nat) (entries : List Reservation) : Posting → List Reservation
  | .reserve lease input output =>
      { holder := index, lease, input, output, usage := .pending } :: entries
  | .reply usage => amend index (Reservation.reply usage) entries
  | .reconcile => amend index Reservation.reconcile entries

def World.Label.enter (runId : String) (entries : List Reservation) :
    World.Label → List Reservation
  | .event index taken =>
      match posting runId taken with
      | some posting => posting.enter index entries
      | none => entries
  | _ => entries

/-- The reservations made for the run so far. -/
def ledger (runId : String) (labels : List World.Label) : List Reservation :=
  labels.foldl (World.Label.enter runId) []

/-- The tokens the reservations are charged with. -/
def inputCharged (entries : List Reservation) : Int :=
  (entries.map Reservation.chargedInput).sum

def outputCharged (entries : List Reservation) : Int :=
  (entries.map Reservation.chargedOutput).sum

def tokensCharged (entries : List Reservation) : Int := inputCharged entries + outputCharged entries

def rateOf : Option Decimal → ℚ
  | some rate => rate.value
  | none => 0

/-- The tokens weighted by the rates for a million of them. -/
def costCharged (inputRate outputRate : Option Decimal) (entries : List Reservation) : ℚ :=
  (inputCharged entries * rateOf inputRate + outputCharged entries * rateOf outputRate) / 10 ^ 6

section Ledger

variable {runId : String} {index other : Nat} {entries : List Reservation} {entry : Reservation}
  {past : List World.Label} {taken : Event Reply} {change : Reservation → Reservation}

theorem ledger_snoc (past : List World.Label) (label : World.Label) :
    ledger runId (past ++ [label]) = label.enter runId (ledger runId past) := by
  simp [ledger]

theorem ledger_event {posted : Posting} (posts : posting runId taken = some posted) :
    ledger runId (past ++ [.event index taken]) = posted.enter index (ledger runId past) := by
  rw [ledger_snoc, World.Label.enter, posts]

theorem ledger_unposted (nothing : posting runId taken = none) :
    ledger runId (past ++ [.event index taken]) = ledger runId past := by
  rw [ledger_snoc, World.Label.enter, nothing]

theorem latest_cons_self : latest entry.holder (entry :: entries) = some entry := by
  simp [latest]

theorem latest_cons_other (different : entry.holder ≠ index) :
    latest index (entry :: entries) = latest index entries := by
  simp [latest, different]

theorem latest_amend (keeps : ∀ entry, (change entry).holder = entry.holder) :
    latest index (amend index change entries) = (latest index entries).map change := by
  induction entries with
  | nil => rfl
  | cons entry rest induction =>
      by_cases same : entry.holder = index
      · simp [amend, latest, same, keeps]
      · rw [amend, if_neg same, latest_cons_other same, latest_cons_other same, induction]

theorem latest_amend_other (different : other ≠ index)
    (keeps : ∀ entry, (change entry).holder = entry.holder) :
    latest other (amend index change entries) = latest other entries := by
  induction entries with
  | nil => rfl
  | cons entry rest induction =>
      by_cases same : entry.holder = index
      · have elsewhere : entry.holder ≠ other := fun equal => different (equal.symm.trans same)
        rw [amend, if_pos same, latest_cons_other elsewhere,
          latest_cons_other ((keeps entry).trans_ne elsewhere)]
      · rw [amend, if_neg same]
        by_cases here : entry.holder = other
        · simp [latest, here]
        · rw [latest_cons_other here, latest_cons_other here, induction]

theorem map_amend {charge : Reservation → Int}
    (same : ∀ entry, charge (change entry) = charge entry) :
    (amend index change entries).map charge = entries.map charge := by
  induction entries with
  | nil => rfl
  | cons entry rest induction =>
      rw [amend]
      split
      · rw [List.map_cons, List.map_cons, same]
      · rw [List.map_cons, List.map_cons, induction]

theorem sum_amend {charge : Reservation → Int} (found : latest index entries = some entry) :
    ((amend index change entries).map charge).sum =
      (entries.map charge).sum + (charge (change entry) - charge entry) := by
  induction entries with
  | nil => cases found
  | cons first rest induction =>
      by_cases same : first.holder = index
      · subst same
        cases latest_cons_self.symm.trans found
        rw [amend, if_pos rfl, List.map_cons, List.map_cons, List.sum_cons, List.sum_cons]
        omega
      · rw [latest_cons_other same] at found
        rw [amend, if_neg same, List.map_cons, List.map_cons, List.sum_cons, List.sum_cons,
          induction found]
        omega

theorem latest_other {label : World.Label}
    (elsewhere : ∀ taken, label = .event index taken → posting runId taken = none) :
    latest index (label.enter runId entries) = latest index entries := by
  cases label with
  | event other taken =>
      by_cases same : other = index
      · subst same
        rw [World.Label.enter, elsewhere taken rfl]
      · rw [World.Label.enter]
        cases posting runId taken with
        | none => rfl
        | some posted =>
            cases posted with
            | reserve => exact latest_cons_other same
            | reply usage =>
                exact latest_amend_other (Ne.symm same) (Reservation.reply_holder usage)
            | reconcile => exact latest_amend_other (Ne.symm same) Reservation.reconcile_holder
  | _ => rfl

theorem posting_plain (plain : taken.request.plain = true) : posting runId taken = none := by
  rcases taken with ⟨request, reply⟩
  cases request with
  | control request =>
      cases request with
      | checkpoint | invoke => cases plain
      | _ => rfl
  | _ => rfl

theorem posting_checkpointed {lease : Lease} (site : Site) (saved : Dict)
    (same : lease.runId = runId) :
    posting runId (checkpointed lease site saved (.ok ())) = site.posting lease := if_pos same

/-! ## Totals -/

theorem charged_unsaved {label : World.Label} (unsaved : label.saved runId = none) :
    inputCharged (label.enter runId entries) = inputCharged entries ∧
      outputCharged (label.enter runId entries) = outputCharged entries := by
  cases label with
  | event other taken =>
      rcases taken with ⟨request, reply⟩
      cases request with
      | control request =>
          cases request with
          | checkpoint lease site saved =>
              cases reply with
              | ok =>
                  simp only [World.Label.saved] at unsaved
                  split at unsaved
                  · cases unsaved
                  · rename_i different
                    simp only [World.Label.enter, posting, if_neg different, and_self]
              | error => exact ⟨rfl, rfl⟩
          | invoke =>
              have same := Reservation.reply_charged (usageOf reply)
              exact ⟨congrArg List.sum (map_amend fun entry => (same entry).1),
                congrArg List.sum (map_amend fun entry => (same entry).2)⟩
          | _ => exact ⟨rfl, rfl⟩
      | _ => exact ⟨rfl, rfl⟩
  | _ => exact ⟨rfl, rfl⟩

theorem charged_reserve {lease : Lease} {input output : Int} (positive : 0 ≤ input ∧ 0 ≤ output) :
    inputCharged (Posting.enter index entries (.reserve lease input output)) =
        inputCharged entries + input ∧
      outputCharged (Posting.enter index entries (.reserve lease input output)) =
        outputCharged entries + output := by
  simp only [Posting.enter, inputCharged, outputCharged, List.map_cons, List.sum_cons,
    Reservation.chargedInput, Reservation.chargedOutput, Reservation.reported]
  omega

theorem charged_reconcile {input output : Int} (positive : 0 ≤ entry.input ∧ 0 ≤ entry.output)
    (found : latest index entries = some entry)
    (reported : entry.usage = .reported (some (input, output))) :
    inputCharged (Posting.enter index entries .reconcile) =
        inputCharged entries + max 0 (input - entry.input) ∧
      outputCharged (Posting.enter index entries .reconcile) =
        outputCharged entries + max 0 (output - entry.output) := by
  have after : entry.reconcile = { entry with usage := .reconciled input output } := by
    rw [Reservation.reconcile, reported]
  have before : entry.reported = (0, 0) := by
    rw [Reservation.reported, reported]
  constructor
  · rw [Posting.enter, inputCharged, sum_amend found, after, Reservation.chargedInput,
      Reservation.chargedInput, before]
    simp only [Reservation.reported, inputCharged]
    omega
  · rw [Posting.enter, outputCharged, sum_amend found, after, Reservation.chargedOutput,
      Reservation.chargedOutput, before]
    simp only [Reservation.reported, outputCharged]
    omega

theorem rateOf_nonneg {rate : Option Decimal} (positive : ∀ amount ∈ rate, 0 ≤ amount.coefficient) :
    0 ≤ rateOf rate := by
  cases rate with
  | none => exact le_refl 0
  | some amount =>
      exact mul_nonneg (Int.cast_nonneg (positive amount rfl)) (zpow_nonneg (by norm_num) _)

theorem costCharged_mono {inputRate outputRate : Option Decimal} {later : List Reservation}
    (positive : 0 ≤ rateOf inputRate ∧ 0 ≤ rateOf outputRate)
    (input : inputCharged entries ≤ inputCharged later)
    (output : outputCharged entries ≤ outputCharged later) :
    costCharged inputRate outputRate entries ≤ costCharged inputRate outputRate later := by
  have inputCost := mul_le_mul_of_nonneg_right (Int.cast_le (R := ℚ).mpr input) positive.1
  have outputCost := mul_le_mul_of_nonneg_right (Int.cast_le (R := ℚ).mpr output) positive.2
  exact div_le_div_of_nonneg_right (add_le_add inputCost outputCost) (by norm_num)

end Ledger

end Crewos.Agent

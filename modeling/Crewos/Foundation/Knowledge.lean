import Crewos.Foundation.Program
import Mathlib.Order.Defs.PartialOrder

/-! # Computations that only learn

Under a monitor whose ghost state only grows, a computation is described by what
it knows when it starts, what it returns, and what it may raise. What was known
stays known, so these descriptions compose without frames. -/

namespace Foundation.Exec

variable {Request : Type} {Reply : Request → Type} {Error State Ghost α β : Type}
  [Preorder Ghost] {monitor : Monitor Reply Ghost} {raises : Error → Prop}
  {known later : Ghost} {result : α → Ghost → Prop}

/-- The computation keeps to the monitor and forgets nothing. -/
structure Learns (monitor : Monitor Reply Ghost) (raises : Error → Prop) (known : Ghost)
    (computation : Exec Reply Error State α) (result : α → Ghost → Prop) : Prop where
  keeps : ∀ state,
    wp monitor computation (fun value _ later => known ≤ later ∧ result value later)
      (fun error _ later => known ≤ later ∧ raises error) state known

namespace Learns

theorem pure {value : α} (holds : result value known) :
    Learns monitor raises known (pure value : Exec Reply Error State α) result :=
  ⟨fun _ => ⟨le_refl _, holds⟩⟩

theorem throw {error : Error} (allowed : raises error) :
    Learns monitor raises known (throw error : Exec Reply Error State α) result :=
  ⟨fun _ => ⟨le_refl _, allowed⟩⟩

theorem mono {computation : Exec Reply Error State α} {strong : α → Ghost → Prop}
    (learns : Learns monitor raises known computation strong)
    (implies : ∀ value later, known ≤ later → strong value later → result value later) :
    Learns monitor raises known computation result :=
  ⟨fun state => wp_mono (learns.keeps state)
    (fun value _ later ends => ⟨ends.1, implies value later ends.1 ends.2⟩)
    (fun _ _ _ ends => ends)⟩

theorem bind {computation : Exec Reply Error State β} {next : β → Exec Reply Error State α}
    {middle : β → Ghost → Prop} (first : Learns monitor raises known computation middle)
    (rest : ∀ value later, known ≤ later → middle value later →
      Learns monitor raises later (next value) result) :
    Learns monitor raises known (computation >>= next) result := by
  refine ⟨fun state => wp_seq (first.keeps state) ?_ fun _ _ _ ends => ends⟩
  rintro value state later ⟨grown, holds⟩
  exact wp_mono ((rest value later grown holds).keeps state)
    (fun _ _ _ ends => ⟨le_trans grown ends.1, ends.2⟩)
    (fun _ _ _ ends => ⟨le_trans grown ends.1, ends.2⟩)

theorem tryCatch {computation : Exec Reply Error State α} {caught : Error → Prop}
    {handler : Error → Exec Reply Error State α}
    (tried : Learns monitor caught known computation result)
    (handles : ∀ error later, known ≤ later → caught error →
      Learns monitor raises later (handler error) result) :
    Learns monitor raises known (tryCatch computation handler) result := by
  refine ⟨fun state => wp_tryCatch.mpr
    (wp_mono (tried.keeps state) (fun _ _ _ ends => ends) ?_)⟩
  rintro error state later ⟨grown, holds⟩
  exact wp_mono ((handles error later grown holds).keeps state)
    (fun _ _ _ ends => ⟨le_trans grown ends.1, ends.2⟩)
    (fun _ _ _ ends => ⟨le_trans grown ends.1, ends.2⟩)

theorem ofExcept {outcome : Except Error α}
    (returns : ∀ value, outcome = .ok value → result value known)
    (fails : ∀ error, outcome = .error error → raises error) :
    Learns monitor raises known (ofExcept outcome : Exec Reply Error State α) result :=
  ⟨fun _ => wp_ofExcept.mpr ⟨fun value ok => ⟨le_refl _, returns value ok⟩,
    fun error raised => ⟨le_refl _, fails error raised⟩⟩⟩

theorem raiseIf {condition : Prop} [Decidable condition] {error : Error}
    {result : Unit → Ghost → Prop} (passes : ¬condition → result () known)
    (fails : condition → raises error) :
    Learns monitor raises known (raiseIf condition error : Exec Reply Error State Unit) result :=
  ⟨fun _ => wp_raiseIf.mpr
    ⟨fun free => ⟨le_refl _, passes free⟩, fun holds => ⟨le_refl _, fails holds⟩⟩⟩

theorem ite {condition : Prop} [Decidable condition] {first second : Exec Reply Error State α}
    (yes : condition → Learns monitor raises known first result)
    (no : ¬condition → Learns monitor raises known second result) :
    Learns monitor raises known (if condition then first else second) result :=
  ⟨fun state => wp_ite.mpr
    ⟨fun holds => (yes holds).keeps state, fun fails => (no fails).keeps state⟩⟩

theorem ask {request : Request} {result : Reply request → Ghost → Prop}
    (permitted : monitor.permits known request)
    (grows : ∀ reply, known ≤ monitor.advance known request reply)
    (answered : ∀ reply, monitor.admits known request reply →
      result reply (monitor.advance known request reply)) :
    Learns monitor raises known (ask request : Exec Reply Error State _) result :=
  ⟨fun _ => wp_ask.mpr
    ⟨permitted, fun reply admitted => ⟨grows reply, answered reply admitted⟩⟩⟩

theorem obeys {computation : Exec Reply Error State α} (learns : Learns monitor raises known
      computation result) (state : State) {post : Except Error α × State → Ghost → Prop}
    (returned : ∀ value state later, result value later → post (.ok value, state) later)
    (raised : ∀ error state later, raises error → post (.error error, state) later) :
    monitor.Obeys post (computation.run state) known := by
  refine Monitor.Obeys.mono (learns.keeps state) ?_
  rintro ⟨outcome, last⟩ later ends
  cases outcome with
  | ok value => exact returned value last later ends.2
  | error error => exact raised error last later ends.2

end Learns

end Foundation.Exec

import Crewos.Chunking.Spans

/-! # Fixed windows

The windows of a text, independent of any limits: they start at the multiples of
the step, all but the last are full, and the last reaches the end of the text
with at least one new character. -/

namespace Crewos.Chunking

open Foundation Documents

/-! ## The number of windows -/

section Count

variable {length size step : Nat}

theorem count_pos : 1 ≤ CharacterWindowChunker.count length size step := by
  unfold CharacterWindowChunker.count
  split
  · exact le_refl _
  · exact Nat.le_add_right _ _

theorem count_reaches (positive : 0 < step) :
    length ≤ (CharacterWindowChunker.count length size step - 1) * step + size := by
  unfold CharacterWindowChunker.count
  split
  · omega
  · have enough := Nat.div_add_mod (length - size + step - 1) step
    have below := Nat.mod_lt (length - size + step - 1) positive
    rw [Nat.add_sub_cancel_left, Nat.mul_comm]
    omega

theorem count_leaves (positive : 0 < step) {index : Nat}
    (before : index + 1 < CharacterWindowChunker.count length size step) :
    index * step + size < length := by
  unfold CharacterWindowChunker.count at before
  split at before
  · omega
  · have within : index + 1 ≤ (length - size + step - 1) / step := by omega
    have bound := (Nat.le_div_iff_mul_le positive).mp within
    rw [Nat.succ_mul] at bound
    omega

theorem range_windows (positive : 0 < step) (count : Nat) :
    range 0 (count * step) step = (List.range count).map fun index => index * step := by
  have length : (count * step - 0 + step - 1) / step = count := by
    rw [Nat.sub_zero, Nat.div_eq_iff positive]
    constructor <;> omega
  rw [range, length]
  apply List.ext_getElem
  · simp
  · intro index _ _
    simp [Nat.mul_comm]

end Count

/-! ## Windows -/

section Windows

variable (request : ChunkingRequest)

def windowStep : Nat := request.options.chunkSize - request.options.overlap

def windowCount : Nat :=
  CharacterWindowChunker.count request.text.length request.options.chunkSize (windowStep request)

def windowStop (index : Nat) : Nat :=
  min (index * windowStep request + request.options.chunkSize) request.text.length

def windowAt (index : Nat) : TextChunk where
  index := index
  text := String.ofList (slice request.text.toList (index * windowStep request)
    (windowStop request index))
  startChar := index * windowStep request
  endChar := windowStop request index

def windows : List TextChunk := (List.range (windowCount request)).map (windowAt request)

def coveredBefore : Nat → Nat
  | 0 => 0
  | index + 1 => windowStop request index

variable {request}

theorem windowStep_pos : 0 < windowStep request := Nat.sub_pos_of_lt request.options.smaller

theorem overlap_add_step :
    request.options.overlap + windowStep request = request.options.chunkSize := by
  have smaller := request.options.smaller
  unfold windowStep
  omega

theorem stop_full {index : Nat} (before : index + 1 < windowCount request) :
    windowStop request index = index * windowStep request + request.options.chunkSize :=
  min_eq_left (count_leaves windowStep_pos before).le

theorem stop_last : windowStop request (windowCount request - 1) = request.text.length :=
  min_eq_right (count_reaches windowStep_pos)

theorem start_overlaps {index : Nat} (within : index + 1 < windowCount request) :
    (index + 1) * windowStep request + request.options.overlap = windowStop request index := by
  have sum := @overlap_add_step request
  rw [stop_full within, Nat.succ_mul]
  omega

theorem covered_lt {index : Nat} (within : index < windowCount request) :
    coveredBefore request index < windowStop request index := by
  have positive := @windowStep_pos request
  have size := request.options.size
  have long := request.size
  cases index with
  | zero =>
      rw [coveredBefore, windowStop, Nat.zero_mul]
      omega
  | succ index =>
      have leaves := count_leaves windowStep_pos within
      rw [coveredBefore, stop_full within, windowStop, Nat.succ_mul]
      omega

theorem start_le_covered {index : Nat} (within : index < windowCount request) :
    index * windowStep request ≤ coveredBefore request index := by
  cases index with
  | zero => rw [Nat.zero_mul]; exact Nat.zero_le _
  | succ index =>
      rw [coveredBefore, ← start_overlaps within]
      exact Nat.le_add_right _ _

theorem length_windowAt (index : Nat) : (windowAt request index).text.length =
    windowStop request index - index * windowStep request := by
  rw [windowAt, String.length_ofList, length_slice]
  rw [String.length_toList]
  exact min_le_right _ _

@[simp] theorem windowAt_startChar (index : Nat) :
    (windowAt request index).startChar = index * windowStep request := rfl

@[simp] theorem windowAt_endChar (index : Nat) :
    (windowAt request index).endChar = windowStop request index := rfl

theorem windowAt_span {index : Nat} (within : index < windowCount request) :
    1 ≤ (windowAt request index).text.length ∧
      (windowAt request index).text.length ≤ request.options.chunkSize ∧
      (windowAt request index).endChar =
        (windowAt request index).startChar + (windowAt request index).text.length := by
  have after := (start_le_covered within).trans_lt (covered_lt within)
  have most : windowStop request index ≤
      index * windowStep request + request.options.chunkSize := min_le_left _ _
  rw [length_windowAt, windowAt_startChar, windowAt_endChar]
  omega

theorem windowAt_valid {index : Nat} (within : index < windowCount request) :
    (windowAt request index).valid = true := by
  obtain ⟨long, _, span⟩ := windowAt_span within
  have stop : (windowAt request index).endChar ≤ request.text.length := min_le_right _ _
  have size := request.size
  simp only [TextChunk.valid, Bool.and_eq_true, decide_eq_true_eq, beq_iff_eq]
  omega

theorem window_eq {index : Nat} (within : index < windowCount request) :
    CharacterWindowChunker.window request index (index * windowStep request) =
      .ok (windowAt request index) := by
  have valid := windowAt_valid within
  rw [windowAt, windowStop] at valid
  simp [CharacterWindowChunker.window, TextChunk.create, valid, raiseWhen, windowAt, windowStop,
    pure, Except.pure]

theorem length_windows : (windows request).length = windowCount request := by simp [windows]

theorem windows_get {index : Nat} {chunk : TextChunk}
    (here : (windows request)[index]? = some chunk) :
    index < windowCount request ∧ chunk = windowAt request index := by
  rw [windows, List.getElem?_map, Option.map_eq_some_iff] at here
  obtain ⟨place, here, rfl⟩ := here
  obtain ⟨within, rfl⟩ := List.getElem?_eq_some_iff.mp here
  rw [List.length_range] at within
  rw [List.getElem_range]
  exact ⟨within, rfl⟩

/-! ## What the windows cover -/

theorem windows_chained (number : Nat) {index : Nat}
    (within : index + number ≤ windowCount request) :
    Chained request.text.toList index (coveredBefore request index)
      ((List.range' index number).map (windowAt request))
      (coveredBefore request (index + number)) := by
  induction number generalizing index with
  | zero => exact .nil _ _
  | succ number induction =>
      have here : index < windowCount request := by omega
      have later := @induction (index + 1) (by omega)
      rw [List.range'_succ, List.map_cons]
      refine .cons rfl (fun first => ?_) (start_le_covered here) (covered_lt here) ?_ ?_
      · rw [first]
        exact Nat.zero_mul _
      · exact String.toList_ofList
      · rw [Nat.add_right_comm] at later
        exact later

theorem windows_glue (number : Nat) {index : Nat}
    (within : index + 1 + number ≤ windowCount request) :
    Chained.glue (windowStop request index)
        ((List.range' (index + 1) number).map (windowAt request)) =
      ((List.range' (index + 1) number).map (windowAt request)).flatMap fun chunk =>
        chunk.text.toList.drop request.options.overlap := by
  induction number generalizing index with
  | zero => rfl
  | succ number induction =>
      have later := @induction (index + 1) (by omega)
      have starts : (index + 1) * windowStep request + request.options.overlap =
        windowStop request index := start_overlaps (by omega)
      have shared : windowStop request index - (windowAt request (index + 1)).startChar =
          request.options.overlap := by
        rw [← starts, windowAt_startChar]
        exact Nat.add_sub_cancel_left _ _
      rw [List.range'_succ, List.map_cons, Chained.glue, List.flatMap_cons, shared]
      congr 1

theorem windows_total (number : Nat) (within : number + 1 ≤ windowCount request) :
    ChunkingService.outputChars ((List.range (number + 1)).map (windowAt request)) =
      windowStop request number + number * request.options.overlap := by
  induction number with
  | zero =>
      have first := @length_windowAt request 0
      simp [ChunkingService.outputChars, List.range_succ, first]
  | succ number induction =>
      have starts := start_overlaps within
      have after := (start_le_covered within).trans_lt (covered_lt within)
      have before := induction (by omega)
      have more : (number + 1) * request.options.overlap =
          number * request.options.overlap + request.options.overlap := Nat.succ_mul _ _
      rw [List.range_succ, List.map_append]
      rw [ChunkingService.outputChars] at before ⊢
      rw [List.map_append, List.sum_append, before, List.map_cons, List.map_cons, List.sum_cons,
        length_windowAt, more]
      simp only [List.map_nil, List.sum_nil]
      omega

theorem windows_valid : (windows request).all TextChunk.valid = true := by
  rw [List.all_eq_true]
  intro chunk member
  obtain ⟨index, within, rfl⟩ := List.mem_map.mp member
  exact windowAt_valid (List.mem_range.mp within)

theorem windows_covers : Covers request.text (windows request) := by
  have pos : 1 ≤ windowCount request := count_pos
  constructor
  · intro empty
    have none_ := @length_windows request
    rw [empty, List.length_nil] at none_
    omega
  · have chained := @windows_chained request (windowCount request) 0
      (Nat.zero_add _).le
    rw [← List.range_eq_range'] at chained
    have last : coveredBefore request (0 + windowCount request) = request.text.length := by
      rw [Nat.zero_add, ← stop_last]
      conv_lhs => rw [← Nat.sub_add_cancel pos]
      rfl
    rw [last] at chained
    exact chained

end Windows

/-! ## Splitting -/

structure Exact (request : ChunkingRequest) (windows : List TextChunk) : Prop where
  nonempty : windows ≠ []
  each : ∀ (index : Nat) (chunk : TextChunk), windows[index]? = some chunk →
    chunk.index = index ∧
    chunk.startChar = index * (request.options.chunkSize - request.options.overlap) ∧
    1 ≤ chunk.text.length ∧ chunk.text.length ≤ request.options.chunkSize ∧
    chunk.text.toList = slice request.text.toList chunk.startChar chunk.endChar ∧
    chunk.endChar = chunk.startChar + chunk.text.length
  full : ∀ (index : Nat) (chunk : TextChunk), windows[index]? = some chunk →
    index + 1 < windows.length → chunk.text.length = request.options.chunkSize
  /-- Two windows share `overlap` characters, and the later one goes further. -/
  overlaps : ∀ (index : Nat) (left right : TextChunk), windows[index]? = some left →
    windows[index + 1]? = some right →
    right.startChar + request.options.overlap = left.endChar ∧ left.endChar < right.endChar
  ends : ∀ (last : TextChunk), windows.getLast? = some last → last.endChar = request.text.length
  total : ChunkingService.outputChars windows =
    request.text.length + (windows.length - 1) * request.options.overlap
  glued : ∃ first rest, windows = first :: rest ∧
    first.text.toList ++ (rest.flatMap fun chunk =>
      chunk.text.toList.drop request.options.overlap) = request.text.toList

theorem windows_exact (request : ChunkingRequest) : Exact request (windows request) := by
  have pos : 1 ≤ windowCount request := count_pos
  have stop := @stop_last request
  refine ⟨windows_covers.1, ?_, ?_, ?_, ?_, ?_, ?_⟩
  · intro index chunk here
    obtain ⟨within, rfl⟩ := windows_get here
    obtain ⟨long, short, span⟩ := windowAt_span within
    exact ⟨rfl, rfl, long, short, String.toList_ofList, span⟩
  · intro index chunk here before
    obtain ⟨_, rfl⟩ := windows_get here
    rw [length_windows] at before
    rw [length_windowAt, stop_full before]
    exact Nat.add_sub_cancel_left _ _
  · intro index left right here next
    obtain ⟨_, rfl⟩ := windows_get here
    obtain ⟨within, rfl⟩ := windows_get next
    exact ⟨start_overlaps within, covered_lt within⟩
  · intro last final
    rw [List.getLast?_eq_getElem?, length_windows] at final
    obtain ⟨_, rfl⟩ := windows_get final
    exact stop
  · have total := @windows_total request (windowCount request - 1) (by omega)
    rw [Nat.sub_add_cancel pos, stop] at total
    rw [length_windows]
    exact total
  · obtain ⟨first, rest, split, glued⟩ := (windows_covers.rebuilds windows_valid).glued
    have parts := split
    rw [windows, List.range_eq_range', ← Nat.sub_add_cancel pos, List.range'_succ,
      List.map_cons] at parts
    obtain ⟨rfl, rfl⟩ := List.cons.inj parts
    refine ⟨_, _, split, ?_⟩
    have later := @windows_glue request (windowCount request - 1) 0 (by omega)
    rw [← later]
    exact glued

/-- The code returns exactly the windows, unless they exceed a limit. -/
theorem split_eq (request : ChunkingRequest) (maxChunks maxOutputChars : Nat) :
    CharacterWindowChunker.split request maxChunks maxOutputChars =
      if maxChunks < (windows request).length ∨
          maxOutputChars < ChunkingService.outputChars (windows request) then
        .error (.chunkingLimitExceeded "Chunking exceeds configured output limits")
      else .ok (windows request) := by
  have total := (windows_exact request).total
  rw [total, length_windows]
  have made : (range 0 (windowCount request * windowStep request) (windowStep request)).zipIdx.mapM
      (fun start => CharacterWindowChunker.window request start.2 start.1) =
        .ok (windows request) := by
    have numbered : (range 0 (windowCount request * windowStep request)
        (windowStep request)).zipIdx =
          (List.range (windowCount request)).map fun index =>
            (index * windowStep request, index) := by
      rw [range_windows windowStep_pos]
      apply List.ext_getElem
      · simp
      · intro index _ _
        simp
    rw [numbered, List.mapM_map]
    exact Outcome.mapM_of_ok fun index member => window_eq (List.mem_range.mp member)
  unfold CharacterWindowChunker.split
  simp only
  change (raiseWhen (maxChunks < windowCount request ∨
    maxOutputChars < request.text.length + (windowCount request - 1) * request.options.overlap)
      _ >>= fun _ => _) = _
  split
  · rename_i exceeded
    rw [raiseWhen_of _ exceeded]
    rfl
  · rename_i within
    rw [raiseWhen_of_not _ within]
    exact made

/-- For every admitted request and all limits: the strategy raises exactly when
its windows or their characters exceed the limits, and otherwise returns windows
that are exact and that the service accepts. -/
theorem character_windows_exact (request : ChunkingRequest) :
    ∃ windows, Exact request windows ∧
      (∀ maxChunks maxOutputChars,
        CharacterWindowChunker.split request maxChunks maxOutputChars =
          if maxChunks < windows.length ∨ maxOutputChars < ChunkingService.outputChars windows then
            .error (.chunkingLimitExceeded "Chunking exceeds configured output limits")
          else .ok windows) ∧
      ∀ service : ChunkingService, service.chunker = characterWindowChunker →
        ∀ chunks, CharacterWindowChunker.split request service.maxChunks service.maxOutputChars =
            .ok chunks →
          service.chunk request =
            .ok { strategy := CharacterWindowChunker.name, options := request.options, chunks } := by
  refine ⟨windows request, windows_exact request, split_eq request, ?_⟩
  intro service chunker chunks splits
  have within := splits
  rw [split_eq] at within
  split at within
  · cases within
  · rename_i limits
    cases within
    push Not at limits
    have strategy : service.chunker.name = CharacterWindowChunker.name := by rw [chunker]; rfl
    refine (ChunkingService.chunk_ok (by rw [chunker]; exact splits)).mpr
      ⟨by rw [strategy], ?_, limits.1, limits.2, windows_covers⟩
    have named : (decide (1 ≤ CharacterWindowChunker.name.length) &&
        decide (CharacterWindowChunker.name.length ≤ 128)) = true := by decide +kernel
    simp only [ChunkingResult.valid, windows_valid, Bool.and_true]
    exact named

end Crewos.Chunking

import Crewos.Documents.Contracts
import Mathlib.Algebra.GroupWithZero.Nat

/-! # Chunking

The fixed-window strategy and the service that checks what a strategy returns. A
strategy may return any chunks; the service accepts those that cover the text
from its start to its end. -/

namespace Crewos.Chunking

open Foundation Documents

inductive ChunkingError where
  | chunkingLimitExceeded (message : String)
  | valueError (message : String)
  | validationError
  deriving DecidableEq, Repr

/-- A request that was admitted: its text is not blank. -/
structure ChunkingRequest where
  text : String
  options : ChunkingOptions
  size : 1 ≤ text.length ∧ text.length ≤ 1000000
  content : text.toList.all Text.isspace = false

/-- `text[start:stop]` -/
def slice (text : List α) (start stop : Nat) : List α := (text.drop start).take (stop - start)

/-- `TextChunk(…)` -/
def TextChunk.create (index : Nat) (text : String) (startChar endChar : Nat) :
    Except ChunkingError TextChunk := do
  let chunk : TextChunk := { index, text, startChar, endChar }
  raiseWhen (chunk.valid = false) .validationError
  return chunk

/-- `range(start, stop, step)` -/
def range (start stop step : Nat) : List Nat :=
  List.range' start ((stop - start + step - 1) / step) step

/-- A strategy: a name and what it makes of a request under the limits. -/
structure Chunker where
  name : String
  split : (request : ChunkingRequest) → (maxChunks maxOutputChars : Nat) →
    Except ChunkingError (List TextChunk)

namespace CharacterWindowChunker

def name : String := "character_window_v1"

/-- The number of windows, with the division rounded up. -/
def count (length size step : Nat) : Nat :=
  if length ≤ size then 1 else 1 + (length - size + step - 1) / step

def window (request : ChunkingRequest) (index start : Nat) : Except ChunkingError TextChunk :=
  let stop := min (start + request.options.chunkSize) request.text.length
  TextChunk.create index (String.ofList (slice request.text.toList start stop)) start stop

def split (request : ChunkingRequest) (maxChunks maxOutputChars : Nat) :
    Except ChunkingError (List TextChunk) := do
  let length := request.text.length
  let size := request.options.chunkSize
  let overlap := request.options.overlap
  let step := size - overlap
  let count := count length size step
  let outputChars := length + (count - 1) * overlap
  raiseWhen (maxChunks < count ∨ maxOutputChars < outputChars)
    (.chunkingLimitExceeded "Chunking exceeds configured output limits")
  (range 0 (count * step) step).zipIdx.mapM fun start => window request start.2 start.1

end CharacterWindowChunker

def characterWindowChunker : Chunker where
  name := CharacterWindowChunker.name
  split := CharacterWindowChunker.split

/-- `ChunkingService.__init__` refuses limits that are not positive. -/
structure ChunkingService where
  chunker : Chunker
  maxChunks : Nat := 1000
  maxOutputChars : Nat := 2000000
  chunksPositive : 1 ≤ maxChunks := by decide
  charsPositive : 1 ≤ maxOutputChars := by decide

namespace ChunkingService

def standard (chunker : Chunker) : ChunkingService := { chunker }

/-- The loop over the chunks: the end of the last one, when each continues the
text from where the one before it ended. -/
def coverage (text : List Char) : List TextChunk → Nat → Nat → Except ChunkingError Nat
  | [], _, previousEnd => .ok previousEnd
  | chunk :: rest, index, previousEnd => do
      raiseWhen (chunk.index ≠ index ∨ (index = 0 ∧ chunk.startChar ≠ 0) ∨
          previousEnd < chunk.startChar ∨ chunk.endChar ≤ previousEnd ∨
          chunk.text.toList ≠ slice text chunk.startChar chunk.endChar)
        (.valueError "Chunker returned inconsistent source spans")
      coverage text rest (index + 1) chunk.endChar

def outputChars (chunks : List TextChunk) : Nat := (chunks.map fun chunk => chunk.text.length).sum

def chunk (service : ChunkingService) (request : ChunkingRequest) :
    Except ChunkingError ChunkingResult := do
  let chunks ← service.chunker.split request service.maxChunks service.maxOutputChars
  let result : ChunkingResult :=
    { strategy := service.chunker.name, options := request.options, chunks }
  raiseWhen (result.valid = false) .validationError
  raiseWhen (service.maxChunks < result.chunks.length ∨
      service.maxOutputChars < outputChars result.chunks)
    (.chunkingLimitExceeded "Chunking exceeds configured output limits")
  raiseWhen (result.chunks = []) (.valueError "Chunker returned no chunks")
  let previousEnd ← coverage request.text.toList result.chunks 0 0
  raiseWhen (previousEnd ≠ request.text.length)
    (.valueError "Chunker did not cover the complete document")
  return result

end ChunkingService

end Crewos.Chunking

/-
  Two writers on one file.

  1. **Cursors** — each writer has a position of its own, which begins at the start of the file, and
     holds back what it was given until a buffer is full.  What it puts into the file replaces what
     stands there, also what the other writer put.
  2. **Buffers** — a chunk that does not fit behind what is held back makes that go into the file
     first.  A chunk as long as the whole buffer goes into the file at once.
  3. **The end** — both writers put what they still hold into the file, one after the other.  The
     order decides what stands where both have written.
-/
import BookDatasets.Text.Basic

namespace BookDatasets

/-- One of the two writers. -/
structure Cursor where
  /-- Where the writer's next octets go. -/
  position : Nat
  /-- What it holds back, the latest octet first. -/
  held : Bytes
  /-- How many octets it holds back. -/
  size : Nat
  deriving DecidableEq, Repr

namespace Cursor

/-- A writer at the start of the file. -/
def start : Cursor := ⟨0, [], 0⟩

/-- How many octets a writer holds back at most. -/
def capacity : Nat := 8192

/-- The file with octets put at a position, which is not behind its end. -/
def overwrite (file : Bytes) (position : Nat) (octets : Bytes) : Bytes :=
  file.take position ++ octets ++ file.drop (position + octets.length)

/-- Puts what is held back into the file. -/
def flush (c : Cursor) (file : Bytes) : Cursor × Bytes :=
  (⟨c.position + c.size, [], 0⟩, overwrite file c.position c.held.reverse)

/-- Holds a chunk back, or puts it into the file if it is as long as the buffer. -/
def keep (c : Cursor) (file : Bytes) (chunk : Bytes) : Cursor × Bytes :=
  if capacity ≤ chunk.length then
    ({ c with position := c.position + chunk.length }, overwrite file c.position chunk)
  else (⟨c.position, chunk.reverse ++ c.held, c.size + chunk.length⟩, file)

/-- Writes a chunk. -/
def write (c : Cursor) (file : Bytes) (chunk : Bytes) : Cursor × Bytes :=
  if capacity < c.size + chunk.length then
    match c.flush file with
    | (c, file) => c.keep file chunk
  else c.keep file chunk

/-- Writes chunk after chunk. -/
def writeAll (c : Cursor) (file : Bytes) (chunks : List Bytes) : Cursor × Bytes :=
  chunks.foldl (fun state chunk => state.1.write state.2 chunk) (c, file)

end Cursor

/-- A file with two writers. -/
structure SharedFile where
  file : Bytes
  first : Cursor
  second : Cursor
  deriving DecidableEq, Repr

namespace SharedFile

/-- An empty file. -/
def empty : SharedFile := ⟨[], .start, .start⟩

/-- The first writer writes chunks. -/
def writeFirst (s : SharedFile) (chunks : List Bytes) : SharedFile :=
  match s.first.writeAll s.file chunks with
  | (first, file) => { s with file := file, first := first }

/-- The second writer writes chunks. -/
def writeSecond (s : SharedFile) (chunks : List Bytes) : SharedFile :=
  match s.second.writeAll s.file chunks with
  | (second, file) => { s with file := file, second := second }

/-- The file when the first writer ends before the second one. -/
def endFirst (s : SharedFile) : Bytes := (s.second.flush (s.first.flush s.file).2).2

/-- The file when the second writer ends before the first one. -/
def endSecond (s : SharedFile) : Bytes := (s.first.flush (s.second.flush s.file).2).2

end SharedFile

end BookDatasets

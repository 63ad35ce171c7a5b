/-
  Sinks: outputs that may run full.

  1. **State** — a sink holds what it has taken and how much more it takes.  Octets are kept latest
     first, so that a write costs no more than its own length; `Sink.taken` is the view to reason
     about.
  2. **A write that does not fit** is taken as far as it fits and refused.  So the output of a run
     that ran full is always a PREFIX of the output of the same run with more room.
  3. **Kinds of refusal** — the text of a JSON line and its line feed fail differently, a custom
     line fails in one way only.
-/
import BookDatasets.Error
import BookDatasets.CustomLine
import BookDatasets.Json.Layout

namespace BookDatasets

/-- An output and what it has taken so far. -/
structure Sink where
  /-- How many more octets it takes; `none` when there is no limit. -/
  room : Option Nat
  /-- What it has taken, the latest octet first. -/
  reversed : Bytes
  deriving DecidableEq, Repr

namespace Sink

/-- An empty sink without a limit. -/
def unlimited : Sink := ⟨none, []⟩

/-- An empty sink that takes `limit` octets. -/
def limited (limit : Nat) : Sink := ⟨some limit, []⟩

/-- An empty sink with or without a limit. -/
def ofLimit (limit : Option Nat) : Sink := ⟨limit, []⟩

/-- What the sink has taken, in order. -/
def taken (s : Sink) : Bytes := s.reversed.reverse

/-! ## Writing -/

/-- Writes octets.  The answer says whether all of them fitted; if not, the sink has taken those
that did. -/
def write (s : Sink) (chunk : Bytes) : Sink × Bool :=
  match s.room with
  | none => (⟨none, chunk.reverse ++ s.reversed⟩, true)
  | some room =>
    (⟨some (room - chunk.length), (chunk.take room).reverse ++ s.reversed⟩,
     decide (chunk.length ≤ room))

/-- Writes chunk after chunk, up to the first one that does not fit. -/
def writeAll (s : Sink) : List Bytes → Sink × Bool
  | [] => (s, true)
  | chunk :: chunks =>
    match s.write chunk with
    | (s, true) => s.writeAll chunks
    | (s, false) => (s, false)

/-! ## Lines -/

/-- Writes a JSON line.  It fails as JSON when its text does not fit, and as plain output when all
of the text fits and only the line feed does not. -/
def writeJson (s : Sink) (value : Json) : Sink × Except ConvertError Unit :=
  match s.writeAll value.chunks with
  | (s, false) => (s, .error (.json .outputFull))
  | (s, true) =>
    match s.write [0x0A] with
    | (s, false) => (s, .error (.io .outputFull))
    | (s, true) => (s, .ok ())

/-- Writes a custom line. -/
def writeCustom (s : Sink) (fields : List (Text × Text)) : Sink × Except ConvertError Unit :=
  match s.writeAll (CustomLine.chunks fields) with
  | (s, false) => (s, .error (.io .outputFull))
  | (s, true) => (s, .ok ())

end Sink

end BookDatasets

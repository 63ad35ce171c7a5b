/-
  The reader of comma separated listings: an automaton on octets.

  1. **State** — `Reader` stands at one of five `Place`s and carries the open field, the finished
     fields of the open row, and two line numbers.  `step` takes one octet and may finish a row.
  2. **Fields** — a field that begins with a quote is QUOTED: everything in it is literal, two
     quotes are one, and a single quote ends the quoting.  An octet that follows such a closing
     quote, other than a comma or a row ending, goes on as an ordinary field.  Anywhere else a
     quote is a character like any other.
  3. **Rows** — a carriage return or a line feed outside quotes ends a row.  Where a row would
     begin, both are skipped, so empty lines vanish and `\r\n` ends ONE row.  The end of the input
     ends the open row, also inside quotes.
  4. **Line numbers** — a row is numbered by the line feeds taken before its reading began.  Empty
     lines that are skipped belong to the row after them, and so does the line feed of `\r\n`;
     neither counts for that row.
-/
import BookDatasets.Text.Utf8

namespace BookDatasets

namespace Listing

/-! ## Octets with a meaning -/

/-- The octet of `"`. -/
def quote : UInt8 := 0x22

/-- The octet of `,`. -/
def comma : UInt8 := 0x2C

/-- The octet of a line feed. -/
def lineFeed : UInt8 := 0x0A

/-- The octet of a carriage return. -/
def carriageReturn : UInt8 := 0x0D

/-- Whether an octet ends a row. -/
def endsRow (b : UInt8) : Bool := b == lineFeed || b == carriageReturn

/-! ## The automaton -/

/-- A row of the listing. -/
structure Row where
  /-- One more than the line feeds before the reading of this row began. -/
  line : Nat
  fields : List Bytes
  deriving DecidableEq, Repr

/-- Where in a row the reader stands. -/
inductive Place where
  /-- Before a row; row endings are skipped here. -/
  | rowStart
  /-- Before a field that a comma announced. -/
  | fieldStart
  /-- In a field without quotes, or after the quoted part of one. -/
  | bare
  /-- Between quotes. -/
  | quoted
  /-- After a quote that stood between quotes. -/
  | quoteSeen
  deriving DecidableEq, Repr

/-- The state of the automaton. -/
structure Reader where
  place : Place
  /-- The open field, its latest octet first. -/
  field : Bytes
  /-- The finished fields of the open row, the latest first. -/
  fields : List Bytes
  /-- One more than the line feeds taken so far. -/
  line : Nat
  /-- The line number of the open row. -/
  rowLine : Nat
  deriving DecidableEq, Repr

namespace Reader

/-- The reader before the first octet. -/
def start : Reader := ⟨.rowStart, [], [], 1, 1⟩

/-- Takes an octet into the open field. -/
def keep (r : Reader) (place : Place) (b : UInt8) : Reader :=
  { r with place := place, field := b :: r.field }

/-- Ends the open field; another one follows. -/
def endField (r : Reader) : Reader :=
  { r with place := .fieldStart, field := [], fields := r.field.reverse :: r.fields }

/-- The open row, its last field ended. -/
def row (r : Reader) : Row := ⟨r.rowLine, (r.field.reverse :: r.fields).reverse⟩

/-- The reader after a row: the next row is numbered from here. -/
def afterRow (r : Reader) : Reader := ⟨.rowStart, [], [], r.line, r.line⟩

/-- Ends the open row. -/
def endRow (r : Reader) : Reader × Option Row := (r.afterRow, some r.row)

/-- Takes an octet where a field begins. -/
def beginField (r : Reader) (b : UInt8) : Reader × Option Row :=
  if b = quote then ({ r with place := .quoted }, none)
  else if b = comma then (r.endField, none)
  else if endsRow b then r.endRow
  else (r.keep .bare b, none)

/-- Takes an octet at the reader's place. -/
def take (r : Reader) (b : UInt8) : Reader × Option Row :=
  match r.place with
  | .rowStart => if endsRow b then (r, none) else r.beginField b
  | .fieldStart => r.beginField b
  | .bare =>
    if b = comma then (r.endField, none)
    else if endsRow b then r.endRow
    else (r.keep .bare b, none)
  | .quoted =>
    if b = quote then ({ r with place := .quoteSeen }, none) else (r.keep .quoted b, none)
  | .quoteSeen =>
    if b = quote then (r.keep .quoted b, none)
    else if b = comma then (r.endField, none)
    else if endsRow b then r.endRow
    else (r.keep .bare b, none)

/-- Counts the octet as a line feed if it is one. -/
def countLine (r : Reader) (b : UInt8) : Reader :=
  if b = lineFeed then { r with line := r.line + 1 } else r

/-- One step of the automaton: counts the octet and takes it. -/
def step (r : Reader) (b : UInt8) : Reader × Option Row := (r.countLine b).take b

/-- The row that the end of the input ends, if one is open. -/
def finish (r : Reader) : List Row := if r.place = .rowStart then [] else [r.row]

/-- The rows that a reader finds in what is left of the input. -/
def rows (r : Reader) : Bytes → List Row
  | [] => r.finish
  | b :: rest =>
    match r.step b with
    | (r, none) => r.rows rest
    | (r, some row) => row :: r.rows rest

end Reader

/-! ## Whole listings -/

/-- The listing without a byte order mark at its very beginning. -/
def withoutMark : Bytes → Bytes
  | 0xEF :: 0xBB :: 0xBF :: rest => rest
  | b => b

/-- The rows of a listing. -/
def rows (input : Bytes) : List Row := Reader.start.rows (withoutMark input)

example : rows (Utf8.encode "a,\"b\"\"\r\nc\"d\r\n\n,".toList)
    = [⟨1, [[0x61], Utf8.encode "b\"\r\ncd".toList]⟩, ⟨2, [[], []]⟩] := by decide

end Listing

end BookDatasets

/-
  Log events: what a run reports while it works.

  1. **Events** — an event has a level, the part of the program it comes from, and a message.  A
     run returns its events in order; nothing is printed here.
  2. **Times** — the library knows no clock.  Where a line shows a time, a rate or the time of day,
     a mark stands in its place (`clockMark`, `elapsedMark`, `rateMark`).
  3. **Two layouts** — plain lines, and JSON lines with keys in alphabetical order.  A JSON line
     escapes the quote, the backslash and the controls, and nothing else.
  4. **Progress** — a progress line is due exactly at the positive multiples of the interval; the
     interval zero is never due.
-/
import BookDatasets.Json.Layout

namespace BookDatasets

namespace Log

/-! ## Events -/

/-- How urgent an event is. -/
inductive Level where
  | error
  | warn
  | info
  | debug
  | trace
  deriving DecidableEq, Repr

/-- The level's name in a line. -/
def Level.label : Level → Text
  | .error => "ERROR".toList
  | .warn => "WARN".toList
  | .info => "INFO".toList
  | .debug => "DEBUG".toList
  | .trace => "TRACE".toList

/-- The position of a level, the most urgent first. -/
def Level.rank : Level → Nat
  | .error => 0
  | .warn => 1
  | .info => 2
  | .debug => 3
  | .trace => 4

/-- The part of the program that an event comes from. -/
inductive Source where
  | acquire
  | listing
  | library
  | fiction
  | pool
  | seed
  | progress
  deriving DecidableEq, Repr

/-- The source's name in a line. -/
def Source.target : Source → Text
  | .acquire => "book_labels::acquire".toList
  | .listing => "book_labels::pipeline::listing".toList
  | .library => "book_labels::pipeline::library".toList
  | .fiction => "book_labels::pipeline::fiction".toList
  | .pool => "book_labels::storage::pool".toList
  | .seed => "book_labels::storage::seed".toList
  | .progress => "book_labels::app::logging".toList

/-- One event. -/
structure Event where
  level : Level
  source : Source
  message : Text
  deriving DecidableEq, Repr

/-- An event at the level of information. -/
def info (source : Source) (message : Text) : Event := ⟨.info, source, message⟩

/-- A warning. -/
def warn (source : Source) (message : Text) : Event := ⟨.warn, source, message⟩

/-- An error. -/
def error (source : Source) (message : Text) : Event := ⟨.error, source, message⟩

/-- The events that a chosen level lets through. -/
def upTo (level : Level) (events : List Event) : List Event :=
  events.filter fun event => event.level.rank ≤ level.rank

/-! ## Layouts -/

/-- Stands for the time of day. -/
def clockMark : Text := "HH:MM:SS".toList

/-- Stands for an elapsed time. -/
def elapsedMark : Text := "<T>".toList

/-- Stands for a rate. -/
def rateMark : Text := "<R>".toList

/-- How log lines look. -/
inductive Format where
  | plain
  | json
  deriving DecidableEq, Repr

/-- A plain line. -/
def Event.plainLine (event : Event) : Text :=
  clockMark ++ [' '] ++ event.source.target ++ " [".toList ++ event.level.label ++ "] ".toList
    ++ event.message

/-- A JSON string that keeps every character above the controls as it is. -/
def quoted (t : Text) : Text :=
  ['"'] ++ t.flatMap (fun c =>
    if Json.standsAlone c then Latin1.decode (Json.loneEscape c) else [c]) ++ ['"']

/-- A JSON line.  The time stamp is zero. -/
def Event.jsonLine (event : Event) : Text :=
  ['{'] ++ quoted "level".toList ++ [':'] ++ quoted event.level.label
    ++ [','] ++ quoted "msg".toList ++ [':'] ++ quoted event.message
    ++ [','] ++ quoted "target".toList ++ [':'] ++ quoted event.source.target
    ++ [','] ++ quoted "ts".toList ++ [':'] ++ decimal 0 ++ ['}']

/-- The line of an event in a layout. -/
def Event.line (format : Format) (event : Event) : Text :=
  match format with
  | .plain => event.plainLine
  | .json => event.jsonLine

/-! ## Progress -/

/-- Whether a progress line is due after `count` rows. -/
def isDue (count interval : Nat) : Bool := 0 < interval && 0 < count && count % interval == 0

/-- The event if it is due after `count` rows, else nothing. -/
def whenDue (count interval : Nat) (event : Event) : List Event :=
  if isDue count interval then [event] else []

end Log

end BookDatasets

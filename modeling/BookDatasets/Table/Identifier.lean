/-
  Quoted identifiers.

  A name of any characters becomes ONE identifier when it stands between quotes with its own
  quotes doubled.  `scan` is the reading side, by the rule of the query language: a doubled quote
  stands for one quote, and the first quote that no other one follows ends the identifier.
-/
import BookDatasets.Text.Basic

namespace BookDatasets

namespace Table

namespace Identifier

/-- The name with each of its quotes doubled. -/
def doubled (name : Text) : Text := name.flatMap fun c => if c = '"' then ['"', '"'] else [c]

/-- The name as a quoted identifier. -/
def quoted (name : Text) : Text := ['"'] ++ doubled name ++ ['"']

/-- Reads the inside of an identifier up to its closing quote: the name, and what follows. -/
def scanInside : Text → Option (Text × Text)
  | [] => none
  | ['"'] => some ([], [])
  | '"' :: '"' :: rest => (scanInside rest).map fun found => ('"' :: found.1, found.2)
  | c :: rest =>
    if c = '"' then some ([], rest)
    else (scanInside rest).map fun found => (c :: found.1, found.2)

/-- Reads a quoted identifier from the beginning of a text: its name, and what follows it. -/
def scan : Text → Option (Text × Text)
  | '"' :: rest => scanInside rest
  | _ => none

example : scan (quoted "odd\"name".toList ++ ";".toList)
    = some ("odd\"name".toList, ";".toList) := by decide

end Identifier

end Table

end BookDatasets

/-
  Fields of the custom dataset: how a raw value is made safe between two quotes.

  1. **Program** — `normalize` walks the value once, dropping line feeds, doubling backslashes and
     putting a backslash before quotes, and then trims.  `unescape` reads such a value back, from
     left to right.
  2. **The order is the point** — escaping comes BEFORE trimming.  No blank is ever escaped, so
     trimming cannot cut an escape in half, and a normalized value never ends in a backslash that
     is not itself the second half of a pair.
  3. **Not idempotent** — a value that holds a backslash or a quote grows each time it is
     normalized.  `Step` names the two directions, so that a mixed sequence of them can be run.
-/
import BookDatasets.Text.Blank

namespace BookDatasets

namespace Field

/-! ## Escaping -/

/-- What one character becomes: a line feed vanishes, a backslash or a quote gets a backslash in
front of it, every other character is kept. -/
def escapeChar (c : Char) : Text :=
  if c = '\n' then []
  else if c = '\\' then ['\\', '\\']
  else if c = '"' then ['\\', '"']
  else [c]

/-- The value with every character escaped, not yet trimmed. -/
def escape (raw : Text) : Text := raw.flatMap escapeChar

/-- The value as it stands between the quotes of a custom line.  When trimming removes nothing the
escaped value itself is the answer. -/
def normalize (raw : Text) : Text :=
  let escaped := escape raw
  let trimmed := trim escaped
  if trimmed.length = escaped.length then escaped else trimmed

/-! ## Reading back -/

/-- Undoes the escapes from left to right: a backslash before a backslash or a quote is dropped and
what follows it is kept as it is.  Any other backslash stays. -/
def unescape : Text → Text
  | [] => []
  | [c] => [c]
  | a :: b :: rest =>
    if a = '\\' ∧ (b = '\\' ∨ b = '"') then b :: unescape rest
    else a :: unescape (b :: rest)

/-! ## Sequences of both -/

/-- One of the two directions. -/
inductive Step where
  | normalize
  | unescape
  deriving DecidableEq, Repr

/-- Takes one step from a value. -/
def Step.apply : Step → Text → Text
  | .normalize, value => Field.normalize value
  | .unescape, value => Field.unescape value

/-- The values after each step of a sequence, the value itself not included. -/
def states : Text → List Step → List Text
  | _, [] => []
  | value, step :: steps => step.apply value :: states (step.apply value) steps

/-- The value after all steps of a sequence. -/
def afterSteps (value : Text) (steps : List Step) : Text :=
  steps.foldl (fun value step => step.apply value) value

example : normalize " a\n\"b\\ ".toList = "a\\\"b\\\\".toList := by decide
example : unescape "a\\\"b\\\\\\n".toList = "a\"b\\\\n".toList := by decide

end Field

end BookDatasets

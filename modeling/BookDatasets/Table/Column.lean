/-
  Columns of a table, and what they take.

  1. **Affinity** — a column may prefer texts or numbers.  What is stored in it is turned into what it
     prefers if that loses nothing: a number becomes its text, and a text that spells a number becomes
     the number, its spelling forgotten.
  2. **Constraints** — a column may take no null, or no value twice.
  3. **Computed columns** — such a column takes no value at all; it has one of its own.
-/
import BookDatasets.Table.Cell

namespace BookDatasets

namespace Table

/-- What a column prefers. -/
inductive Affinity where
  | none
  | text
  /-- Numbers, and integers where a real is one. -/
  | numeric
  | real
  deriving DecidableEq, Repr

/-! ## Spellings of numbers -/

/-- The characters that may stand around a number. -/
def isSpace (c : Char) : Bool := c = ' ' ∨ (0x09 ≤ c.toNat ∧ c.toNat ≤ 0x0D)

/-- A text without the spaces around it. -/
def trimmed (t : Text) : Text :=
  (((t.dropWhile isSpace).reverse).dropWhile isSpace).reverse

/-- Whether a text is a run of digits, behind a sign or not. -/
def isInteger (t : Text) : Bool :=
  let digits := (Binary64.withoutSign t).2
  !digits.isEmpty && digits.all Char.isDigit

/-- Whether a text is digits with a point among them or not, behind a sign or not, and then perhaps an
exponent. -/
def isDecimal (t : Text) : Bool :=
  let t := (Binary64.withoutSign t).2
  let digits := t.takeWhile fun c => foldCase c ≠ 'e'
  let power := t.dropWhile fun c => foldCase c ≠ 'e'
  let parts := digits.takeWhile (· ≠ '.') ++ (digits.dropWhile (· ≠ '.')).drop 1
  !parts.isEmpty && parts.all Char.isDigit && (power.isEmpty || isInteger (power.drop 1))

/-- The integer that a run of digits spells. -/
def integerValue (t : Text) : Int :=
  let (negative, digits) := Binary64.withoutSign t
  if negative then -(Binary64.digitsValue digits : Int) else Binary64.digitsValue digits

/-- The greatest integer of a cell. -/
def greatest : Int := 9223372036854775807

namespace Cell

/-- A real as a cell that is an integer where the real is one.  The least and the greatest integer are
not taken for one. -/
def ofReal (spelling : Text) : Cell :=
  match (Binary64.ofSpelling spelling).whole? with
  | some n => if -greatest ≤ n ∧ n < greatest then .integer n else .real spelling
  | none => .real spelling

/-- The number that a text spells. -/
def number? (t : Text) : Option Cell :=
  let t := trimmed t
  if isInteger t then
    let n := integerValue t
    some (if -greatest - 1 ≤ n ∧ n ≤ greatest then .integer n else .real (Binary64.ofText t).spelling)
  else if isDecimal t then some (.real (Binary64.ofText t).spelling)
  else none

/-- The cell as a column stores it that prefers something. -/
def storedAs : Affinity → Cell → Cell
  | .none, cell => cell
  | .text, cell => cell.stored
  | .numeric, .text t =>
    match number? t with
    | some (.real spelling) => ofReal spelling
    | some number => number
    | none => .text t
  | .numeric, .real spelling => ofReal spelling
  | .numeric, cell => cell
  | .real, .text t =>
    match number? t with
    | some (.integer n) => .real (signed n)
    | some number => number
    | none => .text t
  | .real, .integer n => .real (signed n)
  | .real, cell => cell

example : storedAs .numeric (.text "01961".toList) = .integer 1961 := by decide

/-- The number that a cell is, if it is one. -/
def asNumber? : Cell → Option Binary64
  | .integer n => some (.finite (n < 0) n.natAbs 0)
  | .real spelling => some (.ofSpelling spelling)
  | _ => none

/-- Whether two cells are the same value.  A null is never the same as anything. -/
def clashes (a b : Cell) : Bool :=
  match a.asNumber?, b.asNumber? with
  | some x, some y => x.isSame y
  | _, _ => a != .null && a == b

example : clashes (.integer 0) (.real "-0.0".toList) = true := by decide +kernel

end Cell

/-! ## Columns -/

/-- A column of a table. -/
structure Column where
  name : Text
  affinity : Affinity
  /-- Whether it takes no null. -/
  required : Bool
  /-- Whether it takes no value twice. -/
  unique : Bool
  /-- The value of a column that is computed. -/
  computed : Option Cell
  deriving DecidableEq, Repr

namespace Column

/-- A column that takes any cell as it is. -/
def plain (name : Text) : Column := ⟨name, .none, false, false, none⟩

/-- A column that takes texts, and any number as its text. -/
def textual (name : Text) : Column := { plain name with affinity := .text }

end Column

end Table

end BookDatasets

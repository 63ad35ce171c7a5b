/-
  Text and bytes, as plain lists.

  The whole library computes on `Text` (a list of characters) and `Bytes` (a list of octets).  A
  dataset is judged character by character, so the list IS the right view of it: every rule below
  is a recursion on the data, and every law about it an induction on the same data.

  1. **Lines** — `Text.lines` cuts a text at its line feeds, `Bytes.lines` cuts bytes at theirs; a
     text that ends in a line feed has no last empty line.
  2. **Numbers** — `decimal` writes a count in base ten, `signed` an integer.
  3. **Names** — `sameName` compares two names without regard to ASCII case, as tables do.
-/

namespace BookDatasets

/-- A text is the list of its characters. -/
abbrev Text := List Char

/-- Raw file contents, one octet at a time. -/
abbrev Bytes := List UInt8

/-! ## Numbers in text -/

/-- A count in base ten, without leading zeros. -/
def decimal (n : Nat) : Text := Nat.toDigits 10 n

/-- An integer in base ten, with a minus sign when it is negative. -/
def signed : Int → Text
  | .ofNat n => decimal n
  | .negSucc n => '-' :: decimal (n + 1)

/-- The ending of a noun after a count: nothing for one, `s` for every other number. -/
def pluralEnding (n : Nat) : Text := if n = 1 then [] else ['s']

/-! ## Cutting and joining -/

/-- The parts with `separator` between each two neighbours. -/
def Text.joined (separator : Text) (parts : List Text) : Text := separator.intercalate parts

/-- The lines of a text.  A line feed ends a line, so none follows the last one. -/
def Text.lines (t : Text) : List Text :=
  let parts := t.splitOn '\n'
  if parts.getLast? = some [] then parts.dropLast else parts

/-- The lines of a file.  A line feed ends a line, so none follows the last one. -/
def Bytes.lines (b : Bytes) : List Bytes :=
  let parts := b.splitOn 10
  if parts.getLast? = some [] then parts.dropLast else parts

/-- Whether `part` stands somewhere in `whole`. -/
def Text.includes (part : Text) : Text → Bool
  | [] => part.isEmpty
  | c :: rest => part.isPrefixOf (c :: rest) || Text.includes part rest

/-! ## Names without case -/

/-- The lower-case form of an ASCII capital; every other character is itself. -/
def foldCase (c : Char) : Char :=
  if 'A' ≤ c ∧ c ≤ 'Z' then Char.ofNat (c.toNat + 32) else c

/-- Whether two names agree when ASCII capitals count as small letters. -/
def sameName (a b : Text) : Bool := a.map foldCase == b.map foldCase

end BookDatasets

/-
  Fragments: the stretches of a JSON string that need no two-character escape.

  1. **Program** — a fragment is written left to right.  Printable ASCII is copied in STRETCHES,
     given by their octet offsets in the fragment; any other character (U+007F and everything
     above ASCII) is written as one or two `\uXXXX` units between two stretches.
  2. **Offsets, not characters** — a stretch is a slice of the fragment's octets.  It is right
     because both ends of each slice stand between two characters: `start` is where the last
     escaped character ended, `stop` is where the next one begins.
  3. **Units** — a character above U+FFFF is two units, its high surrogate and its low one.
     Hexadecimal digits are small letters, always four.
-/
import BookDatasets.Text.Utf8

namespace BookDatasets

namespace Json

/-! ## Units -/

/-- A digit below sixteen, with small letters. -/
def hexDigit (d : Nat) : UInt8 := UInt8.ofNat (if d < 10 then 0x30 + d else 0x57 + d)

/-- Four hexadecimal digits. -/
def hex4 (n : Nat) : Bytes :=
  [hexDigit (n / 0x1000 % 16), hexDigit (n / 0x100 % 16), hexDigit (n / 0x10 % 16),
   hexDigit (n % 16)]

/-- A backslash, the letter `u` and the four digits of a unit. -/
def unitEscape (unit : Nat) : Bytes := 0x5C :: 0x75 :: hex4 unit

/-- The UTF-16 units of a character: itself up to U+FFFF, else its high and its low surrogate. -/
def units (c : Char) : List Nat :=
  if c.toNat < 0x10000 then [c.toNat]
  else [0xD800 + (c.toNat - 0x10000) / 0x400, 0xDC00 + (c.toNat - 0x10000) % 0x400]

/-! ## Pieces of a fragment -/

/-- Whether a fragment holds the character as it is: ASCII other than U+007F. -/
def isVerbatim (c : Char) : Bool := c.toNat < 0x7F

/-- A part of a written fragment. -/
inductive Piece where
  /-- The octets of the fragment from `start` up to, not including, `stop`. -/
  | stretch (start stop : Nat)
  /-- An escaped UTF-16 unit. -/
  | unit (value : Nat)
  deriving DecidableEq, Repr

/-- The pieces of what is left of a fragment, when the open stretch began at offset `start` and the
rest begins at offset `here`. -/
def piecesFrom (start here : Nat) : Text → List Piece
  | [] => [.stretch start here]
  | c :: rest =>
    let next := here + (Utf8.encodeChar c).length
    if isVerbatim c then piecesFrom start next rest
    else .stretch start here :: (units c).map .unit ++ piecesFrom next next rest

/-- The pieces of a whole fragment. -/
def pieces (fragment : Text) : List Piece := piecesFrom 0 0 fragment

/-- The octets of a slice. -/
def slice (whole : Bytes) (start stop : Nat) : Bytes := (whole.drop start).take (stop - start)

/-- What a piece writes, when `whole` are the octets of its fragment. -/
def Piece.bytes (whole : Bytes) : Piece → Bytes
  | .stretch start stop => slice whole start stop
  | .unit value => unitEscape value

/-- The writes of a fragment, one for each piece. -/
def fragmentChunks (fragment : Text) : List Bytes :=
  let whole := Utf8.encode fragment
  (pieces fragment).map (Piece.bytes whole)

example : (fragmentChunks "aé😀b".toList).flatten
    = Utf8.encode "a\\u00e9\\ud83d\\ude00b".toList := by decide

end Json

end BookDatasets

/-
  Blank characters and trimming.

  `isBlank` is the Unicode property `White_Space`: 25 characters in ten ranges.  It is WIDER than
  the four blanks of a programming language (it has U+0085, the no-break space U+00A0 and the
  ideographic space U+3000) and narrower than "invisible": the zero-width space U+200B, U+180E,
  the byte order mark U+FEFF and the separators U+001C to U+001F are not blank.

  `trim` removes blanks at both ends and keeps every blank inside.
-/
import BookDatasets.Text.Basic

namespace BookDatasets

/-! ## The table -/

/-- The ranges of `White_Space`, first and last code point of each. -/
def blankRanges : List (Nat × Nat) :=
  [(0x09, 0x0D), (0x20, 0x20), (0x85, 0x85), (0xA0, 0xA0), (0x1680, 0x1680), (0x2000, 0x200A),
   (0x2028, 0x2029), (0x202F, 0x202F), (0x205F, 0x205F), (0x3000, 0x3000)]

/-- A character is blank when its code point lies in one of the ranges. -/
def isBlank (c : Char) : Bool :=
  blankRanges.any fun range => range.1 ≤ c.toNat && c.toNat ≤ range.2

example : (blankRanges.map fun range => range.2 + 1 - range.1).sum = 25 := by decide

/-- The blanks of core's ASCII class are blank here too. -/
theorem isBlank_of_isWhitespace (c : Char) (h : c.isWhitespace = true) : isBlank c = true := by
  simp only [Char.isWhitespace, Bool.or_eq_true, decide_eq_true_eq] at h
  rcases h with ((rfl | rfl) | rfl) | rfl <;> decide

/-! ## Trimming -/

/-- The text without the blanks it begins with. -/
def trimStart (t : Text) : Text := t.dropWhile isBlank

/-- The text without the blanks it ends in. -/
def trimEnd (t : Text) : Text := (t.reverse.dropWhile isBlank).reverse

/-- The text without the blanks at its two ends. -/
def trim (t : Text) : Text := trimEnd (trimStart t)

end BookDatasets

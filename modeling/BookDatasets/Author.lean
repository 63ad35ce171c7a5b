/-
  Author columns.

  A book's authors stand in ONE column, `Surname, Given;Surname, Given;...`.  Splitting is pure
  bookkeeping: tokens are what lies between the semicolons, a name is what lies on the two sides
  of the first comma.  Nothing is trimmed and nothing is dropped here, so joining the pieces gives
  the column back.
-/
import BookDatasets.Text.Basic

namespace BookDatasets

namespace Author

/-- Stands between two authors. -/
def separator : Char := ';'

/-- Stands between a family name and a given name. -/
def nameSeparator : Char := ','

/-- One token per author, in order, empty ones included.  An empty column is one empty token. -/
def tokens (column : Text) : List Text := column.splitOn separator

/-- What stands before the first comma; the whole token when it has none. -/
def family (token : Text) : Text := token.takeWhile (· ≠ nameSeparator)

/-- What stands after the first comma; nothing when the token has none. -/
def given (token : Text) : Text := (token.dropWhile (· ≠ nameSeparator)).drop 1

/-- The two halves of a token. -/
def names (token : Text) : Text × Text := (family token, given token)

example : tokens "Doe, J;;".toList = ["Doe, J".toList, [], []] := by decide
example : names "Doe, Jane, Jr.".toList = ("Doe".toList, " Jane, Jr.".toList) := by decide
example : names "Cher".toList = ("Cher".toList, []) := by decide

end Author

end BookDatasets

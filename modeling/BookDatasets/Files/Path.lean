/-
  Paths as texts.

  1. **Segments** — a path is cut at its slashes.  Empty segments mean nothing; `.` and `..` mean
     what they always mean, but only where a path is followed (`BookDatasets.Files.Walk`).
  2. **Parents** — `Path.parent` cuts the last segment off and keeps the text before it as it is.
     Empty segments and dots count as nothing here, except a dot at the very beginning.  The
     parent of a single segment is the empty path, which asks for nothing.
  3. **Lengths** — a name has at most 255 octets, and a path at most 4095.
-/
import BookDatasets.Text.Utf8

namespace BookDatasets

namespace Path

/-- Stands between two segments. -/
def slash : Char := '/'

/-- The segment of the directory itself. -/
def here : Text := ['.']

/-- The segment of the directory above. -/
def above : Text := ['.', '.']

/-- The segments of a path, empty ones left out. -/
def segments (path : Text) : List Text := (path.splitOn slash).filter fun s => !s.isEmpty

/-- Whether a path begins at the root. -/
def isAbsolute (path : Text) : Bool := path.head? == some slash

/-- Whether a path ends in a slash, which asks for a directory. -/
def endsInSlash (path : Text) : Bool := path.getLast? == some slash

/-! ## Lengths -/

/-- Whether a name is short enough for a directory. -/
def fits (name : Text) : Bool := Utf8.size name ≤ 255

/-- Whether a path is too long to be followed. -/
def isTooLong (path : Text) : Bool := 4095 < Utf8.size path

/-! ## Parents -/

/-- Whether a segment that is not the first one counts as nothing. -/
def isIdle (segment : Text) : Bool := segment.isEmpty || segment == here

/-- Segments without the idle ones they end in. -/
def withoutIdleEnd (segments : List Text) : List Text :=
  (segments.reverse.dropWhile isIdle).reverse

/-- The path without its last segment; empty if there is no other. -/
def parent (path : Text) : Text :=
  match path.splitOn slash with
  | [] => []
  | first :: others =>
    match (withoutIdleEnd others).dropLast with
    | [] =>
      if withoutIdleEnd others = [] then []
      else if first.isEmpty then [slash]
      else first
    | kept => Text.joined [slash] (first :: withoutIdleEnd kept)

example : parent "data/dataset.txt".toList = "data".toList := by decide
example : parent "a//b/./c/.".toList = "a//b".toList := by decide
example : parent "./c".toList = ".".toList := by decide
example : parent "c/".toList = [] := by decide

end Path

end BookDatasets

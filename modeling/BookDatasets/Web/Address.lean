/-
  Addresses: what a client asks the server for.

  1. **One server** — an address is read as one of the server at a given origin.  An address
     elsewhere, or none at all, has no target there.
  2. **Targets** — what is asked for is the path and the query of the address.  Backslashes count
     as slashes, `.` and `..` are resolved, the fragment is left out, and a character that may not
     stand there is written as the octets of its UTF-8 form, each behind a percent sign.
  3. **Edges** — blanks and controls around an address are ignored, and so are tabs and line ends
     anywhere in it.
-/
import BookDatasets.Text.Utf8

namespace BookDatasets

namespace Web

/-! ## Percent encoding -/

/-- A capital hexadecimal digit. -/
def capitalDigit (d : Nat) : Char := Char.ofNat (if d < 10 then 0x30 + d else 0x37 + d)

/-- An octet behind a percent sign. -/
def percent (b : UInt8) : Text :=
  ['%', capitalDigit (b.toNat / 16), capitalDigit (b.toNat % 16)]

/-- The text with every character that may not stand there encoded. -/
def encoded (mayStand : Char → Bool) (t : Text) : Text :=
  t.flatMap fun c => if mayStand c then [c] else (Utf8.encodeChar c).flatMap percent

/-- Whether a character is printable ASCII other than a space. -/
def isGraphic (c : Char) : Bool := 0x20 < c.toNat && c.toNat < 0x7F

/-- Whether a character may stand in a path. -/
def mayStandInPath (c : Char) : Bool :=
  isGraphic c && !(['"', '<', '>', '`', '#', '?', '\x7b', '\x7d'].contains c)

/-- Whether a character may stand in a query. -/
def mayStandInQuery (c : Char) : Bool :=
  isGraphic c && !(['"', '<', '>', '#', '\''].contains c)

/-! ## Paths -/

/-- The text with encoded dots written as dots. -/
def withPlainDots : Text → Text
  | '%' :: '2' :: 'e' :: rest => '.' :: withPlainDots rest
  | '%' :: '2' :: 'E' :: rest => '.' :: withPlainDots rest
  | c :: rest => c :: withPlainDots rest
  | [] => []

/-- Resolves the segments of a path against those before them, the latest first. -/
def resolved (before : List Text) : List Text → List Text
  | [] => before.reverse
  | segment :: rest =>
    let plain := withPlainDots segment
    if plain = ['.', '.'] then
      resolved (if rest.isEmpty then [] :: before.tail else before.tail) rest
    else if plain = ['.'] then resolved (if rest.isEmpty then [] :: before else before) rest
    else resolved (encoded mayStandInPath segment :: before) rest

/-- A path as it is asked for; it always begins with a slash. -/
def pathTarget (path : Text) : Text :=
  let slashed := path.map fun c => if c = '\\' then '/' else c
  let segments := match slashed with
    | '/' :: rest => rest.splitOn '/'
    | _ => slashed.splitOn '/'
  '/' :: Text.joined ['/'] (resolved [] segments)

/-! ## Whole addresses -/

/-- An address without what is ignored in it. -/
def cleaned (address : Text) : Text :=
  let isEdge := fun c : Char => c.toNat ≤ 0x20
  (((address.dropWhile isEdge).reverse.dropWhile isEdge).reverse).filter fun c =>
    c ≠ '\t' ∧ c ≠ '\n' ∧ c ≠ '\r'

/-- What follows the origin in an address, if it is an address of the server there. -/
def behindOrigin (origin address : Text) : Option Text :=
  let cleaned := cleaned address
  if origin.isPrefixOf cleaned then
    let rest := cleaned.drop origin.length
    match rest with
    | [] => some []
    | c :: _ => if ['/', '\\', '?', '#'].contains c then some rest else none
  else none

/-- Path and query of an address of the server at an origin. -/
def target? (origin address : Text) : Option Text :=
  (behindOrigin origin address).map fun rest =>
    let asked := rest.takeWhile (· ≠ '#')
    let path := asked.takeWhile (· ≠ '?')
    let query := asked.dropWhile (· ≠ '?')
    pathTarget path ++
      match query with
      | [] => []
      | _ :: query => '?' :: encoded mayStandInQuery query

example : target? "http://books".toList "http://books/a/../b c?d e#f".toList
    = some "/b%20c?d%20e".toList := by decide
example : target? "http://books".toList "listing.csv".toList = none := by decide

end Web

end BookDatasets

/-
  The layout of dataset lines: JSON with `", "` and `": "` and nothing but printable ASCII.

  1. **Strings** — a string is cut into `StringPart`s: characters with a two-character or a control
     escape stand alone, and what lies between them is a FRAGMENT, as long as possible.  Only
     fragments know about characters above ASCII (`BookDatasets.Json.Fragment`).
  2. **Numbers** — a number is one word: digits, with a sign, a point and an exponent where it has
     them.
  3. **Chunks** — `Json.chunks` is the list of single writes, in order.  The list matters where a
     sink refuses: its output is then a prefix of the chunks laid end to end, whatever their cut.
  4. **Lines** — `Json.line` is one value and a line feed.  No chunk holds a line feed, so lines
     never run together.
-/
import BookDatasets.Json.Basic
import BookDatasets.Json.Fragment

namespace BookDatasets

/-! ## Numbers -/

namespace Decimal

/-- The point and the digits behind it, when there are any. -/
def fractionSpelling (digits : List (Fin 10)) : Text :=
  if digits.isEmpty then [] else '.' :: digits.map fun d => Nat.digitChar d.val

/-- The exponent behind its letter, when there is one. -/
def exponentSpelling : Option Int → Text
  | none => []
  | some n => 'e' :: signed n

/-- The word of a number with a fraction or an exponent. -/
def spelling (d : Decimal) : Text :=
  (if d.negative then ['-'] else [])
    ++ (decimal d.whole ++ (fractionSpelling d.fraction ++ exponentSpelling d.exponent))

end Decimal

namespace Json

/-! ## Strings -/

/-- A part of a string: a fragment, or one character that is escaped by itself. -/
inductive StringPart where
  | fragment (t : Text)
  | escaped (c : Char)
  deriving DecidableEq, Repr

/-- Whether a character is escaped by itself: the quote, the backslash and the controls below
U+0020. -/
def standsAlone (c : Char) : Bool := c == '"' || c == '\\' || c.toNat < 0x20

/-- The parts of a string, with fragments as long as possible. -/
def stringParts : Text → List StringPart
  | [] => []
  | c :: rest =>
    if standsAlone c then .escaped c :: stringParts rest
    else match stringParts rest with
      | .fragment t :: parts => .fragment (c :: t) :: parts
      | parts => .fragment [c] :: parts

/-- The escape of a character that stands alone: a letter where JSON has one, else its number. -/
def loneEscape (c : Char) : Bytes :=
  if c = '"' then [0x5C, 0x22]
  else if c = '\\' then [0x5C, 0x5C]
  else if c.toNat = 0x08 then [0x5C, 0x62]
  else if c.toNat = 0x09 then [0x5C, 0x74]
  else if c.toNat = 0x0A then [0x5C, 0x6E]
  else if c.toNat = 0x0C then [0x5C, 0x66]
  else if c.toNat = 0x0D then [0x5C, 0x72]
  else unitEscape c.toNat

/-- The writes of one part. -/
def StringPart.chunks : StringPart → List Bytes
  | .fragment t => fragmentChunks t
  | .escaped c => [loneEscape c]

/-- The writes of a string with its two quotes. -/
def stringChunks (t : Text) : List Bytes :=
  [0x22] :: (stringParts t).flatMap StringPart.chunks ++ [[0x22]]

/-! ## Values -/

/-- The octets of an ASCII word. -/
def word (w : String) : Bytes := Utf8.encode w.toList

/-- Between two items or two members. -/
def comma : Bytes := [0x2C, 0x20]

/-- Between a key and its value. -/
def colon : Bytes := [0x3A, 0x20]

mutual

/-- The writes of a value, in order. -/
def chunks : Json → List Bytes
  | .null => [word "null"]
  | .bool true => [word "true"]
  | .bool false => [word "false"]
  | .integer n => [Utf8.encode (signed n)]
  | .number d => [Utf8.encode d.spelling]
  | .text t => stringChunks t
  | .array [] => [word "[]"]
  | .array (item :: items) => [0x5B] :: chunks item ++ itemChunks items
  | .object [] => [[0x7B, 0x7D]]
  | .object ((key, value) :: members) =>
    [0x7B] :: stringChunks key ++ colon :: chunks value ++ memberChunks members

/-- The writes of the items after the first, and of the closing bracket. -/
def itemChunks : List Json → List Bytes
  | [] => [[0x5D]]
  | item :: items => comma :: chunks item ++ itemChunks items

/-- The writes of the members after the first, and of the closing brace. -/
def memberChunks : List (Text × Json) → List Bytes
  | [] => [[0x7D]]
  | (key, value) :: members =>
    comma :: stringChunks key ++ colon :: chunks value ++ memberChunks members

end

/-- The octets of a value. -/
def bytes (value : Json) : Bytes := value.chunks.flatten

/-- A dataset line: the value and a line feed. -/
def line (value : Json) : Bytes := value.bytes ++ [0x0A]

end Json

end BookDatasets

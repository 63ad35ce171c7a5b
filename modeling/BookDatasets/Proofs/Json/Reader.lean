/-
  A reader of JSON.

  The reader knows nothing of the writer: it takes any JSON text, with any blanks between tokens,
  with raw characters or escapes in strings, with hexadecimal digits of either case, with exponents
  in any spelling.  It is the OTHER side of every statement that says what a dataset line means.

  1. **Tokens** — `outside` and `inside` walk the text once, one function for each side of the
     quotes.  A word (`null`, `true`, `false` or a number) is as long as its characters go.
  2. **Strings** — `inside` leaves a list of `Spelled` parts, raw characters and UTF-16 units.
     `Spelled.text?` joins a high surrogate with the low one after it; a lone one is no text.
  3. **Values** — `valueNext` and `valueEnded` build the value from the tokens, with the OPEN
     containers on a stack.  So there is no depth to bound and no budget to run out of: every call
     takes a token.

  Members of an object stay in the order in which they are read, repeated keys included.
-/
import BookDatasets.Json.Basic
import BookDatasets.Label
import BookDatasets.Text.Utf8

namespace BookDatasets

namespace Json

/-! ## Strings -/

/-- A part of a string as it is spelled. -/
inductive Spelled where
  | char (c : Char)
  /-- A `\u` escape: a UTF-16 unit. -/
  | unit (value : Nat)
  deriving DecidableEq, Repr

/-- Whether a unit is the first half of a pair. -/
def isHighSurrogate (n : Nat) : Bool := 0xD800 ≤ n && n < 0xDC00

/-- Whether a unit is the second half of a pair. -/
def isLowSurrogate (n : Nat) : Bool := 0xDC00 ≤ n && n < 0xE000

/-- The text of a string, if its surrogates come in pairs. -/
def Spelled.text? : List Spelled → Option Text
  | [] => some []
  | .char c :: rest => (text? rest).map (c :: ·)
  | .unit n :: rest =>
    if isLowSurrogate n then none
    else if isHighSurrogate n then
      match rest with
      | .unit m :: rest =>
        if isLowSurrogate m then
          (text? rest).map (Char.ofNat (0x10000 + (n - 0xD800) * 0x400 + (m - 0xDC00)) :: ·)
        else none
      | _ => none
    else (text? rest).map (Char.ofNat n :: ·)

/-- The value of a hexadecimal digit. -/
def hexValue? (c : Char) : Option Nat :=
  if '0' ≤ c ∧ c ≤ '9' then some (c.toNat - 48)
  else if 'a' ≤ c ∧ c ≤ 'f' then some (c.toNat - 87)
  else if 'A' ≤ c ∧ c ≤ 'F' then some (c.toNat - 55)
  else none

/-- The unit of four hexadecimal digits. -/
def unit? (a b c d : Char) : Option Nat := do
  let a ← hexValue? a
  let b ← hexValue? b
  let c ← hexValue? c
  let d ← hexValue? d
  return ((a * 16 + b) * 16 + c) * 16 + d

/-- What a backslash and one more character stand for. -/
def shortEscape? : Char → Option Char
  | '"' => some '"'
  | '\\' => some '\\'
  | '/' => some '/'
  | 'b' => some '\x08'
  | 'f' => some '\x0C'
  | 'n' => some '\n'
  | 'r' => some '\r'
  | 't' => some '\t'
  | _ => none

/-! ## Words -/

/-- The value of digits, which begin with a zero only when they are one zero. -/
def natural? (digits : Text) : Option Nat :=
  if digits.isEmpty || !digits.all Char.isDigit then none
  else if digits.head? = some '0' ∧ digits.length ≠ 1 then none
  else some (Nat.ofDigitChars 10 digits 0)

/-- The value of a number without fraction and exponent. -/
def integer? : Text → Option Int
  | '-' :: digits => (natural? digits).map fun n => -(n : Int)
  | digits => (natural? digits).map fun n => (n : Int)

/-- The digit that a character is, if it is one. -/
def digitOf (c : Char) : Fin 10 := Fin.ofNat 10 (c.toNat - 48)

/-- The digits behind a point, if the text begins with a point, and the rest of the text. -/
def fraction? : Text → Option (List (Fin 10) × Text)
  | '.' :: t =>
    if (t.takeWhile Char.isDigit).isEmpty then none
    else some ((t.takeWhile Char.isDigit).map digitOf, t.dropWhile Char.isDigit)
  | t => some ([], t)

/-- The value of the digits of an exponent, which may begin with zeros. -/
def power? (digits : Text) : Option Nat :=
  if digits.isEmpty || !digits.all Char.isDigit then none else some (Nat.ofDigitChars 10 digits 0)

/-- The value of an exponent behind its letter. -/
def signedPower? : Text → Option Int
  | '-' :: digits => (power? digits).map fun n => -(n : Int)
  | '+' :: digits => (power? digits).map fun n => (n : Int)
  | digits => (power? digits).map fun n => (n : Int)

/-- The exponent that a whole text is; an empty text is none. -/
def exponent? : Text → Option (Option Int)
  | [] => some none
  | c :: t => if c = 'e' ∨ c = 'E' then (signedPower? t).map some else none

/-- The number with a fraction or an exponent, behind its sign. -/
def unsigned? (negative : Bool) (t : Text) : Option Decimal := do
  let whole ← natural? (t.takeWhile Char.isDigit)
  let (fraction, rest) ← fraction? (t.dropWhile Char.isDigit)
  let exponent ← exponent? rest
  if spelled : fraction ≠ [] ∨ exponent ≠ none then
    some ⟨negative, whole, fraction, exponent, spelled⟩
  else none

/-- The number with a fraction or an exponent that a text spells. -/
def decimal? : Text → Option Decimal
  | '-' :: t => unsigned? true t
  | t => unsigned? false t

/-- The value of a word without digits. -/
def ofName? (w : Text) : Option Json :=
  if w = "null".toList then some .null
  else if w = "true".toList then some (.bool true)
  else if w = "false".toList then some (.bool false)
  else none

/-- The value that a word stands for. -/
def ofWord? (w : Text) : Option Json :=
  match integer? w, decimal? w with
  | some n, _ => some (.integer n)
  | none, some d => some (.number d)
  | none, none => ofName? w

/-! ## Tokens -/

/-- A token; strings are already read. -/
inductive Token where
  | leftBracket
  | rightBracket
  | leftBrace
  | rightBrace
  | comma
  | colon
  | text (value : Text)
  | word (spelling : Text)
  deriving DecidableEq, Repr

/-- Whether a character may stand between two tokens and means nothing. -/
def isGap (c : Char) : Bool := c == ' ' || c == '\n' || c == '\r' || c == '\t'

/-- Whether a character belongs to a word. -/
def isWordChar (c : Char) : Bool := c.isAlphanum || c == '-' || c == '+' || c == '.'

/-- The token that one character is. -/
def mark? : Char → Option Token
  | '[' => some .leftBracket
  | ']' => some .rightBracket
  | '{' => some .leftBrace
  | '}' => some .rightBrace
  | ',' => some .comma
  | ':' => some .colon
  | _ => none

/-- The tokens after a character of a word is put in front.  It joins the first word if that word
began right behind it. -/
def joinWord (c : Char) (adjacent : Bool) : List Token → List Token
  | .word w :: tokens =>
    if adjacent then .word (c :: w) :: tokens else .word [c] :: .word w :: tokens
  | tokens => .word [c] :: tokens

mutual

/-- The tokens of a text that begins outside a string. -/
def outside : Text → Option (List Token)
  | [] => some []
  | c :: rest =>
    if isGap c then outside rest
    else if c = '"' then
      match inside rest with
      | none => none
      | some (spelled, tokens) => (Spelled.text? spelled).map fun t => .text t :: tokens
    else if isWordChar c then (outside rest).map (joinWord c (rest.head?.any isWordChar))
    else
      match mark? c with
      | none => none
      | some token => (outside rest).map (token :: ·)

/-- The rest of a string and the tokens after it, of a text that begins inside the string. -/
def inside : Text → Option (List Spelled × List Token)
  | '"' :: rest => (outside rest).map fun tokens => ([], tokens)
  | '\\' :: 'u' :: a :: b :: c :: d :: rest =>
    match unit? a b c d with
    | none => none
    | some n => (inside rest).map fun found => (.unit n :: found.1, found.2)
  | '\\' :: c :: rest =>
    match shortEscape? c with
    | none => none
    | some e => (inside rest).map fun found => (.char e :: found.1, found.2)
  | c :: rest =>
    if c = '\\' ∨ c.toNat < 0x20 then none
    else (inside rest).map fun found => (.char c :: found.1, found.2)
  | [] => none

end

/-! ## Values -/

/-- A container that is open around the value being read. -/
inductive Frame where
  /-- An array, with the items before that value, the latest first. -/
  | array (items : List Json)
  /-- An object, with the members before that value, the latest first, and the value's key. -/
  | object (members : List (Text × Json)) (key : Text)

mutual

/-- Builds the whole value from tokens that begin with a value inside the open containers, the
innermost first. -/
def valueNext (stack : List Frame) : List Token → Option Json
  | .word w :: tokens =>
    match ofWord? w with
    | none => none
    | some value => valueEnded stack value tokens
  | .text t :: tokens => valueEnded stack (.text t) tokens
  | .leftBracket :: .rightBracket :: tokens => valueEnded stack (.array []) tokens
  | .leftBracket :: tokens => valueNext (.array [] :: stack) tokens
  | .leftBrace :: .rightBrace :: tokens => valueEnded stack (.object []) tokens
  | .leftBrace :: .text key :: .colon :: tokens => valueNext (.object [] key :: stack) tokens
  | _ => none

/-- Builds the whole value from the tokens that follow an inner value. -/
def valueEnded : List Frame → Json → List Token → Option Json
  | [], value, [] => some value
  | .array items :: stack, value, .comma :: tokens =>
    valueNext (.array (value :: items) :: stack) tokens
  | .array items :: stack, value, .rightBracket :: tokens =>
    valueEnded stack (.array (value :: items).reverse) tokens
  | .object members key :: stack, value, .comma :: .text next :: .colon :: tokens =>
    valueNext (.object ((key, value) :: members) next :: stack) tokens
  | .object members key :: stack, value, .rightBrace :: tokens =>
    valueEnded stack (.object ((key, value) :: members).reverse) tokens
  | _, _, _ => none

end

/-- The value that a text spells. -/
def ofText (t : Text) : Option Json := (outside t).bind (valueNext [])

/-- The value that bytes spell in UTF-8. -/
def read? (b : Bytes) : Option Json := (Utf8.decode b).toOption.bind ofText

example : outside "[-20, \"\\uD83D\\ude00\\/\"]".toList
    = some [.leftBracket, .word "-20".toList, .comma, .text "😀/".toList, .rightBracket] := by
  decide +kernel

example : (["[1,]", "01", "\"\\ud83d\"", "\"\t\"", "1 2", "1.", ".5", "1e", "nul"].map
    String.toList).all
    (fun t => (ofText t).isNone) = true := by decide +kernel

example : decimal? "-0.50E+07".toList = some ⟨true, 0, [5, 0], some 7, .inl (by decide)⟩ := by
  decide

end Json

/-! ## Label records -/

/-- The pair that an object with the members `key` and `val` says. -/
def LabelPair.ofJson? : Json → Option LabelPair
  | .object [(first, .text key), (second, val)] =>
    if first = "key".toList ∧ second = "val".toList then
      match val with
      | .null => some ⟨key, none⟩
      | .text t => some ⟨key, some t⟩
      | _ => none
    else none
  | _ => none

/-- The record that an object with one member, a list of pairs, says. -/
def LabelRecord.ofJson? : Json → Option LabelRecord
  | .object [(recordKey, .array items)] =>
    (items.mapM LabelPair.ofJson?).map fun pairs => ⟨recordKey, pairs⟩
  | _ => none

/-- The record that bytes spell. -/
def LabelRecord.read? (b : Bytes) : Option LabelRecord := (Json.read? b).bind LabelRecord.ofJson?

end BookDatasets

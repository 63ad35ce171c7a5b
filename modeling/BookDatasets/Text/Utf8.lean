/-
  UTF-8, both ways.

  1. **Writing** — `Utf8.encode` gives each character its one to four octets.
  2. **Reading** — `Utf8.decode` reads the shortest forms only: no surrogates, nothing above
     U+10FFFF, no overlong spelling.  When it refuses it says where and why, and the two ways to
     refuse are DIFFERENT: `invalid` octets can never become a character, `incomplete` ones are a
     good beginning that the end of the input cut off.

  The length in an `invalid` fault is the number of octets that were still a good beginning, at
  least one, so that a reader could go on right after them.
-/
import BookDatasets.Text.Basic

namespace BookDatasets

namespace Utf8

/-! ## Writing -/

/-- The octets of one character. -/
def encodeChar (c : Char) : Bytes :=
  let n := c.toNat
  if n < 0x80 then [UInt8.ofNat n]
  else if n < 0x800 then [UInt8.ofNat (0xC0 + n / 0x40), UInt8.ofNat (0x80 + n % 0x40)]
  else if n < 0x10000 then
    [UInt8.ofNat (0xE0 + n / 0x1000), UInt8.ofNat (0x80 + n / 0x40 % 0x40),
     UInt8.ofNat (0x80 + n % 0x40)]
  else
    [UInt8.ofNat (0xF0 + n / 0x40000), UInt8.ofNat (0x80 + n / 0x1000 % 0x40),
     UInt8.ofNat (0x80 + n / 0x40 % 0x40), UInt8.ofNat (0x80 + n % 0x40)]

/-- The octets of a text, character after character. -/
def encode (t : Text) : Bytes := t.flatMap encodeChar

/-- How many octets a text takes. -/
def size (t : Text) : Nat := (encode t).length

/-! ## Reading -/

/-- Why octets are no text. -/
inductive Fault where
  /-- `length` octets from `index` on can begin no character that continues as they do. -/
  | invalid (length index : Nat)
  /-- The octets from `index` on begin a character that the input does not finish. -/
  | incomplete (index : Nat)
  deriving DecidableEq, Repr

/-- The fault in words. -/
def Fault.message : Fault → Text
  | .invalid length index =>
    "invalid utf-8 sequence of ".toList ++ decimal length ++ " bytes from index ".toList
      ++ decimal index
  | .incomplete index => "incomplete utf-8 byte sequence from index ".toList ++ decimal index

/-- Whether an octet continues a character. -/
def continues (b : UInt8) : Bool := 0x80 ≤ b.toNat && b.toNat < 0xC0

/-- The octets that may stand second, after the first octet `lead` of a longer character.  The four
narrow ranges keep out overlong spellings, surrogates and what lies above U+10FFFF. -/
def continuesAfter (lead : Nat) (b : UInt8) : Bool :=
  if lead = 0xE0 then 0xA0 ≤ b.toNat && b.toNat < 0xC0
  else if lead = 0xED then 0x80 ≤ b.toNat && b.toNat < 0xA0
  else if lead = 0xF0 then 0x90 ≤ b.toNat && b.toNat < 0xC0
  else if lead = 0xF4 then 0x80 ≤ b.toNat && b.toNat < 0x90
  else continues b

/-- The low six bits of a continuing octet. -/
def tailBits (b : UInt8) : Nat := b.toNat % 0x40

/-- Reads the octets that start at position `index` of the input. -/
def decodeFrom (index : Nat) : Bytes → Except Fault Text
  | [] => .ok []
  | a :: rest =>
    let lead := a.toNat
    if lead < 0x80 then (decodeFrom (index + 1) rest).map (Char.ofNat lead :: ·)
    else if lead < 0xC2 then .error (.invalid 1 index)
    else if lead < 0xE0 then
      match rest with
      | [] => .error (.incomplete index)
      | b :: rest =>
        if continues b then
          (decodeFrom (index + 2) rest).map
            (Char.ofNat ((lead - 0xC0) * 0x40 + tailBits b) :: ·)
        else .error (.invalid 1 index)
    else if lead < 0xF0 then
      match rest with
      | [] => .error (.incomplete index)
      | [b] =>
        if continuesAfter lead b then .error (.incomplete index) else .error (.invalid 1 index)
      | b :: c :: rest =>
        if !continuesAfter lead b then .error (.invalid 1 index)
        else if !continues c then .error (.invalid 2 index)
        else
          (decodeFrom (index + 3) rest).map
            (Char.ofNat ((lead - 0xE0) * 0x1000 + tailBits b * 0x40 + tailBits c) :: ·)
    else if lead < 0xF5 then
      match rest with
      | [] => .error (.incomplete index)
      | [b] =>
        if continuesAfter lead b then .error (.incomplete index) else .error (.invalid 1 index)
      | [b, c] =>
        if !continuesAfter lead b then .error (.invalid 1 index)
        else if !continues c then .error (.invalid 2 index)
        else .error (.incomplete index)
      | b :: c :: d :: rest =>
        if !continuesAfter lead b then .error (.invalid 1 index)
        else if !continues c then .error (.invalid 2 index)
        else if !continues d then .error (.invalid 3 index)
        else
          (decodeFrom (index + 4) rest).map
            (Char.ofNat ((lead - 0xF0) * 0x40000 + tailBits b * 0x1000 + tailBits c * 0x40
              + tailBits d) :: ·)
    else .error (.invalid 1 index)

/-- The text that the octets spell, or the first fault. -/
def decode (b : Bytes) : Except Fault Text := decodeFrom 0 b

example : (decode [0x63, 0xC3, 0xA9]).toOption = some "cé".toList := by decide
example : decode [0x61, 0xFF] = .error (.invalid 1 1) := rfl
example : decode [0xE2, 0x82] = .error (.incomplete 0) := rfl
example : decode [0xED, 0xA0, 0x80] = .error (.invalid 1 0) := rfl
example : (decode (encode "a😀é".toList)).toOption = some "a😀é".toList := by decide

end Utf8

/-! ## One octet per character -/

namespace Latin1

/-- Each octet is the character with its number (ISO 8859-1). -/
def decode (b : Bytes) : Text := b.map fun octet => Char.ofNat octet.toNat

end Latin1

end BookDatasets

/-
  JSON values.

  1. **Numbers** — an integer is its value.  A number with a fraction or an exponent is a `Decimal`,
     kept as it is SPELLED: which of its spellings a float gets is up to the library that prints
     floats, and whichever it is, it is a `Decimal`.
  2. **Objects** — an object is the LIST of its members: a record keeps their order and may repeat a
     key, and both have to survive writing.
  3. **Mappings** — where members come from outside and mean a mapping, `Json.ofMembers` brings them
     into the one order a mapping has: keys ascending by code point, the last value of a repeated
     key.
-/
import BookDatasets.Text.Basic

namespace BookDatasets

/-- A number that is spelled with a fraction, with an exponent, or with both. -/
structure Decimal where
  negative : Bool
  whole : Nat
  /-- The digits behind the point. -/
  fraction : List (Fin 10)
  exponent : Option Int
  /-- With neither of the two it would be an integer. -/
  spelled : fraction ≠ [] ∨ exponent ≠ none
  deriving DecidableEq, Repr

/-- A JSON value. -/
inductive Json where
  | null
  | bool (value : Bool)
  | integer (value : Int)
  | number (value : Decimal)
  | text (value : Text)
  | array (items : List Json)
  | object (members : List (Text × Json))
  deriving Inhabited, BEq, Repr

namespace Json

/-! ## Mappings -/

/-- Whether the text `a` comes before the text `b`, compared by code points from the left. -/
def precedes : Text → Text → Bool
  | _, [] => false
  | [], _ :: _ => true
  | a :: as, b :: bs => a.toNat < b.toNat || (a == b && precedes as bs)

/-- Puts a member into a list with ascending keys, in place of one with the same key. -/
def insertMember (key : Text) (value : Json) : List (Text × Json) → List (Text × Json)
  | [] => [(key, value)]
  | member :: rest =>
    if key = member.1 then (key, value) :: rest
    else if precedes key member.1 then (key, value) :: member :: rest
    else member :: insertMember key value rest

/-- The object of a mapping given member by member: keys ascend and a later value replaces an
earlier one of the same key. -/
def ofMembers (members : List (Text × Json)) : Json :=
  .object (members.foldl (fun kept member => insertMember member.1 member.2 kept) [])

/-- A text, or null when there is none. -/
def ofText? : Option Text → Json
  | none => .null
  | some t => .text t

end Json

end BookDatasets

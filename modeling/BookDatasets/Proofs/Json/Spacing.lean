/-
  The spacing of dataset lines.

  1. **The scanner** — `Scan` is the specification, and it knows nothing of values: it goes over the
     octets of a line, tells the insides of strings from what lies between them, and stops where a
     line has a blank too many or too few, or an escape that is none of the allowed ones.  Between
     strings a blank stands behind each comma and each colon and nowhere else; inside a string an
     escape is a backslash and one of seven letters, or a backslash, the letter `u` and four
     hexadecimal digits with small letters.
  2. **Scans compose** (`Reads.append`) — so every part of a line has a lemma of its own: the place
     the scan comes from, and the place it comes to.
  3. **Values** — the octets of a value take the scan from between strings to between strings, one
     case per constructor.  Items and members begin with their comma, so that what is due behind it
     is paid in the same lemma.
-/
import BookDatasets.Proofs.Json.Printable

namespace BookDatasets

namespace Json

/-! ## The scanner -/

/-- Where a scan of a line stands. -/
inductive Scan where
  /-- Between strings, where no blank may stand. -/
  | outside
  /-- Behind a comma or a colon, where one blank must stand. -/
  | due
  /-- In a string. -/
  | inside
  /-- In a string, behind the backslash of an escape. -/
  | escape
  /-- In an escape, with `left` digits to come behind the next one. -/
  | digits (left : Nat)
  deriving DecidableEq, Repr

/-- The second octets of short escapes: the quote, the backslash, `b`, `f`, `n`, `r` and `t`. -/
def shortEscapes : Bytes := [0x22, 0x5C, 0x62, 0x66, 0x6E, 0x72, 0x74]

/-- A hexadecimal digit, with small letters. -/
def isLowerHex (b : UInt8) : Bool :=
  (0x30 ≤ b.toNat && b.toNat ≤ 0x39) || (0x61 ≤ b.toNat && b.toNat ≤ 0x66)

/-- Goes over one octet, unless it may not stand here. -/
def Scan.step : Scan → UInt8 → Option Scan
  | .outside, b =>
    if b = 0x20 then none
    else if b = 0x22 then some .inside
    else if b = 0x2C ∨ b = 0x3A then some .due
    else some .outside
  | .due, b => if b = 0x20 then some .outside else none
  | .inside, b =>
    if b = 0x22 then some .outside
    else if b = 0x5C then some .escape
    else some .inside
  | .escape, b =>
    if b = 0x75 then some (.digits 3)
    else if b ∈ shortEscapes then some .inside
    else none
  | .digits left, b =>
    if isLowerHex b then
      match left with
      | 0 => some .inside
      | left + 1 => some (.digits left)
    else none

/-- The octets take a scan from one place to another. -/
def Scan.Reads (p : Scan) (octets : Bytes) (q : Scan) : Prop := octets.foldlM Scan.step p = some q

instance (p : Scan) (octets : Bytes) (q : Scan) : Decidable (p.Reads octets q) :=
  inferInstanceAs (Decidable (_ = _))

/-- A line that is laid out with single blanks, and only with allowed escapes in its strings. -/
def LaidOut (line : Bytes) : Prop := Scan.outside.Reads line .outside

instance (line : Bytes) : Decidable (LaidOut line) := inferInstanceAs (Decidable (Scan.Reads _ _ _))

example : LaidOut (word "[1, \"a,b\\u00e9\"]") ∧ ¬ LaidOut (word "[1,2]") := by decide

/-! ## Scans compose -/

namespace Scan

theorem Reads.append {p q r : Scan} {a b : Bytes} (ha : p.Reads a q) (hb : q.Reads b r) :
    p.Reads (a ++ b) r := by
  rw [Reads, List.foldlM_append, ha]
  exact hb

/-- One octet, and then the rest. -/
theorem Reads.cons {p q r : Scan} {b : UInt8} {rest : Bytes} (hb : p.step b = some q)
    (hrest : q.Reads rest r) : p.Reads (b :: rest) r := by
  rw [Reads, List.foldlM_cons, hb]
  exact hrest

theorem Reads.nil (p : Scan) : p.Reads [] p := rfl

/-! ## Between strings -/

/-- Octets with no blank, quote, comma or colon are passed between strings. -/
theorem reads_plain {octets : Bytes}
    (h : ∀ b ∈ octets, b ≠ 0x20 ∧ b ≠ 0x22 ∧ b ≠ 0x2C ∧ b ≠ 0x3A) :
    outside.Reads octets outside := by
  induction octets with
  | nil => exact .nil outside
  | cons b rest ih =>
    obtain ⟨⟨hblank, hquote, hcomma, hcolon⟩, hrest⟩ := List.forall_mem_cons.1 h
    have hstep : outside.step b = some outside := by simp [step, hblank, hquote, hcomma, hcolon]
    exact .cons hstep (ih hrest)

/-- A number is a plain word. -/
theorem reads_number {w : Text} (hw : ∀ c ∈ w, isNumberChar c = true) :
    outside.Reads (Utf8.encode w) outside := by
  -- None of the four octets is that of a character in the word of a number.
  have habsent : ∀ c : Char, c.toNat < 0x80 → isNumberChar c = false →
      UInt8.ofNat c.toNat ∉ Utf8.encode w := by
    intro c hascii hother hmem
    have hc := hw c ((Utf8.mem_encode_iff hascii _).1 hmem)
    rw [hother] at hc
    cases hc
  apply reads_plain
  intro b hb
  refine ⟨?_, ?_, ?_, ?_⟩
  · rintro rfl
    exact habsent ' ' (by decide) (by decide) hb
  · rintro rfl
    exact habsent '"' (by decide) (by decide) hb
  · rintro rfl
    exact habsent ',' (by decide) (by decide) hb
  · rintro rfl
    exact habsent ':' (by decide) (by decide) hb

/-! ## Strings -/

theorem isLowerHex_hexDigit : ∀ d < 16, isLowerHex (hexDigit d) = true := by decide

/-- A unit escape has four digits, and is then over. -/
theorem reads_unitEscape (unit : Nat) : inside.Reads (unitEscape unit) inside := by
  have hdigit : ∀ d, isLowerHex (hexDigit (d % 16)) = true :=
    fun d => isLowerHex_hexDigit (d % 16) (Nat.mod_lt d (by decide))
  have hlast : (digits 0).Reads [hexDigit (unit % 16)] inside :=
    .cons (if_pos (hdigit _)) (.nil inside)
  have hdigits : (digits 3).Reads (hex4 unit) inside :=
    .cons (if_pos (hdigit _)) (.cons (if_pos (hdigit _)) (.cons (if_pos (hdigit _)) hlast))
  exact .cons (q := escape) rfl (.cons (q := digits 3) rfl hdigits)

/-- The escape of a character that stands alone is a short one, or one of four digits. -/
theorem reads_loneEscape (c : Char) : inside.Reads (loneEscape c) inside := by
  unfold loneEscape
  split_ifs
  all_goals first | exact reads_unitEscape c.toNat | rfl

theorem reads_units (c : Char) : inside.Reads ((units c).flatMap unitEscape) inside := by
  rw [units]
  split_ifs
  · rw [List.flatMap_singleton]
    exact reads_unitEscape _
  · rw [List.flatMap_cons, List.flatMap_singleton]
    exact (reads_unitEscape _).append (reads_unitEscape _)

/-- **What is written for a character** keeps the scan in the string. -/
theorem reads_escapedChar (c : Char) : inside.Reads (escapedChar c) inside := by
  rw [escapedChar]
  split_ifs with halone
  · exact reads_loneEscape c
  · rw [fragmentChar]
    split_ifs with hverbatim
    · -- A character that is copied is neither the quote nor the backslash.
      simp only [standsAlone, Bool.or_eq_true, beq_iff_eq, decide_eq_true_eq, not_or] at halone
      simp only [isVerbatim, decide_eq_true_eq] at hverbatim
      have hne : ∀ d : Char, d.toNat < 0x80 → c ≠ d →
          UInt8.ofNat c.toNat ≠ UInt8.ofNat d.toNat := by
        intro d hd hcd heq
        have hnat : c.toNat = d.toNat := by
          rw [← Utf8.toNat_octet (n := c.toNat) (by omega), heq, Utf8.toNat_octet (by omega)]
        exact hcd (Char.toNat_inj.1 hnat)
      have hquote := hne '"' (by decide) halone.1.1
      have hslash := hne '\\' (by decide) halone.1.2
      rw [Utf8.encodeChar, if_pos (by omega)]
      exact .cons ((if_neg hquote).trans (if_neg hslash)) (.nil inside)
    · exact reads_units c

/-- **A string** is gone over from its quote to its quote. -/
theorem reads_stringChunks (t : Text) : outside.Reads (stringChunks t).flatten outside := by
  have hchars : inside.Reads (t.flatMap escapedChar) inside := by
    induction t with
    | nil => exact .nil inside
    | cons c t ih =>
      rw [List.flatMap_cons]
      exact (reads_escapedChar c).append ih
  rw [stringChunks_flatten]
  exact Reads.append (.cons rfl hchars) (.cons rfl (.nil outside))

/-! ## Values -/

/-- A comma is written with its blank. -/
theorem reads_comma : outside.Reads comma outside := rfl

/-- A colon is written with its blank. -/
theorem reads_colon : outside.Reads colon outside := rfl

mutual

/-- **The octets of a value are laid out.** -/
theorem reads_chunks : ∀ (value : Json), outside.Reads value.chunks.flatten outside
  | .null => by decide
  | .bool true => by decide
  | .bool false => by decide
  | .integer n => by
    rw [chunks, List.flatten_singleton]
    exact reads_number fun _ => isNumberChar_of_mem_signed
  | .number d => by
    rw [chunks, List.flatten_singleton]
    exact reads_number fun _ => isNumberChar_of_mem_spelling
  | .text t => reads_stringChunks t
  | .array [] => by decide
  | .array (item :: items) => by
    simp only [chunks, List.flatten_append, List.flatten_cons]
    have hbracket : outside.Reads [0x5B] outside := rfl
    exact (hbracket.append (reads_chunks item)).append (reads_itemChunks items)
  | .object [] => by decide
  | .object ((key, value) :: members) => by
    simp only [chunks, List.flatten_append, List.flatten_cons]
    have hbrace : outside.Reads [0x7B] outside := rfl
    have hkey := hbrace.append (reads_stringChunks key)
    have hmember := hkey.append (reads_colon.append (reads_chunks value))
    exact hmember.append (reads_memberChunks members)

theorem reads_itemChunks : ∀ (items : List Json), outside.Reads (itemChunks items).flatten outside
  | [] => by decide
  | item :: items => by
    simp only [itemChunks, List.flatten_append, List.flatten_cons]
    exact (reads_comma.append (reads_chunks item)).append (reads_itemChunks items)

theorem reads_memberChunks : ∀ (members : List (Text × Json)),
    outside.Reads (memberChunks members).flatten outside
  | [] => by decide
  | (key, value) :: members => by
    simp only [memberChunks, List.flatten_append, List.flatten_cons]
    have hkey := reads_comma.append (reads_stringChunks key)
    have hmember := hkey.append (reads_colon.append (reads_chunks value))
    exact hmember.append (reads_memberChunks members)

end

end Scan

/-- A dataset line, without its line feed, is laid out. -/
theorem laidOut_bytes (value : Json) : LaidOut value.bytes := Scan.reads_chunks value

end Json

end BookDatasets

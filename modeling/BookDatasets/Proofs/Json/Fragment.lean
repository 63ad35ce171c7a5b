/-
  Fragments: character by character, and stretch by stretch.

  1. **Characters** — `StandsAs` says what a character of a fragment is written as: itself when it is
     printable ASCII, and otherwise a backslash, the letter `u` and four hexadecimal digits for each
     of its UTF-16 units.  It knows of no offsets, and what it says of a character is one text only
     (`StandsAs.unique`).
  2. **Stretches** — `Tiles` says how the pieces of a fragment lie over its octets: a stretch of
     characters that are copied, an escaped character right behind it, and so on from right behind
     this one, up to the end.  So no octet is left out and none is in two pieces.  The invariant is
     that the OPEN stretch, which may be empty, begins where the last escaped character ended
     (`tiles_piecesFrom`).
  3. **Cuts** — a fragment is written character by character, so it makes no difference where a text is
     cut into fragments.
-/
import BookDatasets.Proofs.Json.Strings
import Mathlib.Data.List.Forall2

namespace BookDatasets

/-! ## Octets of a text -/

namespace Utf8

theorem size_append (s t : Text) : size (s ++ t) = size s + size t := by
  rw [size, encode, List.flatMap_append, List.length_append]
  rfl

theorem size_singleton (c : Char) : size [c] = (encodeChar c).length := by
  rw [size, encode, List.flatMap_singleton]

/-- The offset lies between two characters of the text, or at one of its ends. -/
def IsBoundary (t : Text) (offset : Nat) : Prop :=
  ∃ front back, t = front ++ back ∧ offset = size front

end Utf8

namespace Json

/-! ## Characters -/

/-- The hexadecimal digits of a unit, with small letters, four of them. -/
def fourDigits (unit : Nat) : Text := (Nat.toDigits 16 unit).leftpad 4 '0'

/-- A unit, escaped. -/
def unitText (unit : Nat) : Text := '\\' :: 'u' :: fourDigits unit

example : unitText 0x7F = "\\u007f".toList := by decide

/-- What a character of a fragment is written as. -/
inductive StandsAs (c : Char) : Text → Prop where
  | itself (h : 0x20 ≤ c.toNat ∧ c.toNat ≤ 0x7E) : StandsAs c [c]
  | unit (hother : ¬ (0x20 ≤ c.toNat ∧ c.toNat ≤ 0x7E)) (h : c.toNat ≤ 0xFFFF) :
      StandsAs c (unitText c.toNat)
  | pair {high low : Nat} (h : 0xFFFF < c.toNat) (hhigh : isHighSurrogate high = true)
      (hlow : isLowSurrogate low = true)
      (hc : c.toNat = 0x10000 + (high - 0xD800) * 0x400 + (low - 0xDC00)) :
      StandsAs c (unitText high ++ unitText low)

/-- A character is written as one text only. -/
theorem StandsAs.unique {c : Char} {a b : Text} (ha : StandsAs c a) (hb : StandsAs c b) :
    a = b := by
  cases ha with
  | itself h =>
    cases hb with
    | itself _ => rfl
    | unit hother _ => exact absurd h hother
    | pair h' => omega
  | unit hother h =>
    cases hb with
    | itself h' => exact absurd h' hother
    | unit _ _ => rfl
    | pair h' => omega
  | @pair high low h hhigh hlow hc =>
    cases hb with
    | itself h' => omega
    | unit _ h' => omega
    | @pair high' low' _ hhigh' hlow' hc' =>
      -- The ten lower bits of the character are those of the low surrogate.
      simp only [isHighSurrogate, isLowSurrogate, Bool.and_eq_true, decide_eq_true_eq]
        at hhigh hlow hhigh' hlow'
      obtain rfl : high = high' := by omega
      obtain rfl : low = low' := by omega
      rfl

/-- Padded digits end in the last digit, and in front of it are those of the other digits. -/
theorem leftpad_toDigits (k n : Nat) :
    (Nat.toDigits 16 n).leftpad (k + 2) '0'
      = (Nat.toDigits 16 (n / 16)).leftpad (k + 1) '0' ++ [(n % 16).digitChar] := by
  by_cases h : n < 16
  · rw [Nat.toDigits_of_lt_base h, Nat.div_eq_of_lt h, Nat.mod_eq_of_lt h, Nat.toDigits_zero,
      List.leftpad, List.leftpad, List.length_singleton, List.length_singleton,
      Nat.add_sub_cancel, show k + 2 - 1 = k + 1 from rfl, List.replicate_succ']
  · have hpad : k + 2 - ((Nat.toDigits 16 (n / 16)).length + 1)
        = k + 1 - (Nat.toDigits 16 (n / 16)).length := by omega
    rw [Nat.toDigits_of_base_le (by decide) (by omega), List.leftpad, List.leftpad,
      List.length_append, List.length_singleton, hpad, List.append_assoc]

theorem encodeChar_digitChar : ∀ d < 16, Utf8.encodeChar d.digitChar = [hexDigit d] := by
  decide

/-- The four digits of a unit are what is written for it. -/
theorem encode_fourDigits {n : Nat} (h : n < 0x10000) : Utf8.encode (fourDigits n) = hex4 n := by
  have hfirst : n / 16 / 16 / 16 < 16 := by omega
  have hone : (Nat.toDigits 16 (n / 16 / 16 / 16)).leftpad 1 '0'
      = [(n / 16 / 16 / 16).digitChar] := by
    rw [Nat.toDigits_of_lt_base hfirst]
    rfl
  rw [fourDigits, leftpad_toDigits 2, leftpad_toDigits 1, leftpad_toDigits 0, hone, Utf8.encode]
  simp only [List.flatMap_append, List.flatMap_singleton, encodeChar_digitChar _ hfirst,
    encodeChar_digitChar _ (Nat.mod_lt _ (by decide : 0 < 16))]
  have hthird : n / 16 / 16 / 16 = n / 0x1000 % 16 := by omega
  have hsecond : n / 16 / 16 = n / 0x100 := by omega
  rw [hex4, ← hthird, ← hsecond]
  rfl

theorem encode_unitText {n : Nat} (h : n < 0x10000) : Utf8.encode (unitText n) = unitEscape n := by
  rw [unitEscape, ← encode_fourDigits h]
  rfl

/-- **A fragment writes each of its characters as what it stands as.** -/
theorem exists_standsAs {c : Char} (h : 0x20 ≤ c.toNat) :
    ∃ spelled, StandsAs c spelled ∧ fragmentChar c = Utf8.encode spelled := by
  have hrange := Utf8.char_range c
  by_cases hplain : c.toNat ≤ 0x7E
  · refine ⟨[c], .itself ⟨h, hplain⟩, ?_⟩
    have hverbatim : isVerbatim c = true := decide_eq_true (by omega)
    rw [fragmentChar, if_pos hverbatim, Utf8.encode, List.flatMap_singleton]
  · have hverbatim : ¬ isVerbatim c = true := by
      rw [isVerbatim, decide_eq_true_eq]
      omega
    rw [fragmentChar, if_neg hverbatim, units]
    by_cases hone : c.toNat ≤ 0xFFFF
    · refine ⟨unitText c.toNat, .unit (fun hc => hplain hc.2) hone, ?_⟩
      rw [if_pos (by omega), List.flatMap_singleton, encode_unitText (by omega)]
    · have hhigh : isHighSurrogate (0xD800 + (c.toNat - 0x10000) / 0x400) = true := by
        simp only [isHighSurrogate, Bool.and_eq_true, decide_eq_true_eq]
        omega
      have hlow : isLowSurrogate (0xDC00 + (c.toNat - 0x10000) % 0x400) = true := by
        simp only [isLowSurrogate, Bool.and_eq_true, decide_eq_true_eq]
        omega
      refine ⟨_, .pair (by omega) hhigh hlow (by omega), ?_⟩
      rw [if_neg (by omega), List.flatMap_cons, List.flatMap_singleton, Utf8.encode,
        List.flatMap_append, ← Utf8.encode, ← Utf8.encode, encode_unitText (by omega),
        encode_unitText (by omega)]

/-- A text without controls has one spelling, and it is what the characters are written as. -/
theorem exists_spelling {s : Text} (h : ∀ c ∈ s, 0x20 ≤ c.toNat) :
    ∃ spelled, List.Forall₂ StandsAs s spelled
      ∧ s.flatMap fragmentChar = Utf8.encode spelled.flatten := by
  induction s with
  | nil => exact ⟨[], .nil, rfl⟩
  | cons c s ih =>
    obtain ⟨hc, hs⟩ := List.forall_mem_cons.1 h
    obtain ⟨first, hfirst, hwritten⟩ := exists_standsAs hc
    obtain ⟨spelled, hspelled, hrest⟩ := ih hs
    refine ⟨first :: spelled, .cons hfirst hspelled, ?_⟩
    rw [List.flatMap_cons, hwritten, hrest, List.flatten_cons, Utf8.encode, Utf8.encode,
      Utf8.encode, List.flatMap_append]

/-! ## Stretches -/

/-- The pieces lie over the text, which begins at the offset `here`: a stretch of copied characters
up to the end, or up to an escaped character, behind which they lie over what is left. -/
inductive Tiles : Nat → List Piece → Text → Prop where
  | last {here : Nat} {stretch : Text} (h : ∀ c ∈ stretch, isVerbatim c = true) :
      Tiles here [.stretch here (here + Utf8.size stretch)] stretch
  | escaped {here : Nat} {stretch rest : Text} {c : Char} {pieces : List Piece}
      (h : ∀ c ∈ stretch, isVerbatim c = true) (hc : isVerbatim c = false)
      (hrest : Tiles (here + Utf8.size stretch + Utf8.size [c]) pieces rest) :
      Tiles here
        (.stretch here (here + Utf8.size stretch) :: (units c).map .unit ++ pieces)
        (stretch ++ c :: rest)

/-- **The pieces lie over the fragment**, with what the open stretch holds so far in front. -/
theorem tiles_piecesFrom (start : Nat) (opened rest : Text)
    (h : ∀ c ∈ opened, isVerbatim c = true) :
    Tiles start (piecesFrom start (start + Utf8.size opened) rest) (opened ++ rest) := by
  induction rest generalizing start opened with
  | nil =>
    rw [List.append_nil]
    exact .last h
  | cons c rest ih =>
    have hnext : start + Utf8.size opened + (Utf8.encodeChar c).length
        = start + Utf8.size (opened ++ [c]) := by
      rw [Utf8.size_append, Utf8.size_singleton, Nat.add_assoc]
    rw [piecesFrom]
    by_cases hc : isVerbatim c = true
    · -- The character goes to the open stretch.
      have hopened : ∀ d ∈ opened ++ [c], isVerbatim d = true := by
        intro d hd
        rcases List.mem_append.1 hd with hd | hd
        · exact h d hd
        · rw [List.mem_singleton.1 hd]
          exact hc
      have htext : opened ++ c :: rest = opened ++ [c] ++ rest := List.append_cons opened c rest
      rw [if_pos hc, hnext, htext]
      exact ih start _ hopened
    · rw [if_neg hc, ← Utf8.size_singleton]
      exact .escaped h (Bool.eq_false_iff.2 hc)
        (ih _ [] fun _ hd => absurd hd List.not_mem_nil)

theorem tiles_pieces (fragment : Text) : Tiles 0 (pieces fragment) fragment :=
  tiles_piecesFrom 0 [] fragment fun _ hd => absurd hd List.not_mem_nil

/-- **Every stretch begins and ends between two characters**, and ends no earlier than it begins. -/
theorem Tiles.stretch_boundaries {here : Nat} {pieces : List Piece} {rest : Text}
    (h : Tiles here pieces rest) {front : Text} (hfront : here = Utf8.size front)
    {start stop : Nat} (hmem : Piece.stretch start stop ∈ pieces) :
    start ≤ stop ∧ Utf8.IsBoundary (front ++ rest) start
      ∧ Utf8.IsBoundary (front ++ rest) stop := by
  induction h generalizing front with
  | @last here stretch _ =>
    obtain ⟨rfl, rfl⟩ := Piece.stretch.inj (List.mem_singleton.1 hmem)
    refine ⟨Nat.le_add_right _ _, ⟨front, stretch, rfl, hfront⟩, front ++ stretch, [], ?_, ?_⟩
    · rw [List.append_nil]
    · rw [Utf8.size_append, hfront]
  | @escaped here stretch rest c pieces _ _ _ ih =>
    rcases List.mem_cons.1 hmem with hfirst | hlater
    · obtain ⟨rfl, rfl⟩ := Piece.stretch.inj hfirst
      refine ⟨Nat.le_add_right _ _, ⟨front, _, rfl, hfront⟩, front ++ stretch, c :: rest, ?_, ?_⟩
      · rw [List.append_assoc]
      · rw [Utf8.size_append, hfront]
    · rcases List.mem_append.1 hlater with hunit | hlater
      · -- A unit is no stretch.
        obtain ⟨unit, -, hunit⟩ := List.mem_map.1 hunit
        exact nomatch hunit
      · have hbehind : here + Utf8.size stretch + Utf8.size [c]
            = Utf8.size (front ++ stretch ++ [c]) := by
          rw [Utf8.size_append, Utf8.size_append, hfront]
        have htext : front ++ (stretch ++ c :: rest) = front ++ stretch ++ [c] ++ rest := by
          rw [List.append_assoc, List.append_assoc, List.singleton_append]
        rw [htext]
        exact ih hbehind hlater

/-! ## Cuts -/

/-- The fragments of a text are written as the text is. -/
theorem flatMap_fragmentChunks (fragments : List Text) :
    (fragments.flatMap fragmentChunks).flatten = fragments.flatten.flatMap fragmentChar := by
  induction fragments with
  | nil => rfl
  | cons fragment fragments ih =>
    rw [List.flatMap_cons, List.flatten_append, fragmentChunks_flatten, ih, List.flatten_cons,
      List.flatMap_append]

/-- **Fragments are written character by character**, however the text is cut.  A text without quotes,
backslashes and controls has one spelling, in which every character stands as itself or as its
escaped units; and this is what its fragments write, one after another.  The pieces of each fragment
lie over it from end to end, and every stretch that is copied is a slice between two characters. -/
theorem fragments_written {s : Text} {fragments : List Text}
    (h : ∀ c ∈ s, c ≠ '"' ∧ c ≠ '\\' ∧ 0x20 ≤ c.toNat) (hcut : fragments.flatten = s) :
    (∃ spelled, (∀ other, List.Forall₂ StandsAs s other ↔ other = spelled)
      ∧ (fragments.flatMap fragmentChunks).flatten = Utf8.encode spelled.flatten)
    ∧ ∀ fragment ∈ fragments, Tiles 0 (pieces fragment) fragment
      ∧ ∀ start stop, Piece.stretch start stop ∈ pieces fragment →
        start ≤ stop ∧ Utf8.IsBoundary fragment start ∧ Utf8.IsBoundary fragment stop := by
  constructor
  · obtain ⟨spelled, hspelled, hwritten⟩ := exists_spelling fun c hc => (h c hc).2.2
    have hunique : Relator.RightUnique StandsAs := fun _ _ _ => StandsAs.unique
    refine ⟨spelled, fun other => ⟨fun hother => hunique.forall₂ hother hspelled, ?_⟩, ?_⟩
    · rintro rfl
      exact hspelled
    · rw [flatMap_fragmentChunks, hcut, hwritten]
  · intro fragment _
    have hstart : 0 = Utf8.size [] := rfl
    exact ⟨tiles_pieces fragment, fun start stop hmem =>
      (tiles_pieces fragment).stretch_boundaries hstart hmem⟩

/-- A text with escapes at its ends and side by side, cut with an empty fragment. -/
def shreds : List Text := ["é😀".toList, [], "\x7f a".toList, "b€".toList]

theorem fragments_written_of_shreds :
    (∀ c ∈ "é😀\x7f ab€".toList, c ≠ '"' ∧ c ≠ '\\' ∧ 0x20 ≤ c.toNat)
    ∧ shreds.flatten = "é😀\x7f ab€".toList
    ∧ (∃ spelled, (∀ other, List.Forall₂ StandsAs "é😀\x7f ab€".toList other ↔ other = spelled)
      ∧ (shreds.flatMap fragmentChunks).flatten = Utf8.encode spelled.flatten)
    ∧ Utf8.IsBoundary "\x7f a".toList 1 := by
  have hplain : ∀ c ∈ "é😀\x7f ab€".toList, c ≠ '"' ∧ c ≠ '\\' ∧ 0x20 ≤ c.toNat := by
    simp
  have hcut : shreds.flatten = "é😀\x7f ab€".toList := rfl
  obtain ⟨hspelled, hfragments⟩ := fragments_written hplain hcut
  obtain ⟨-, hstretches⟩ := hfragments "\x7f a".toList (by decide)
  exact ⟨hplain, hcut, hspelled, (hstretches 1 3 (by decide)).2.1⟩

end Json

end BookDatasets

/-
  Strings of dataset lines: what is written, and that it reads back.

  1. **One character at a time** — however a string is cut into parts and a fragment into pieces,
     the octets are those of `escapedChar`, character after character (`stringChunks_flatten`).
     The crux is `piecesFrom_bytes`: an open stretch is the octets between the last escaped
     character and here, so the slice that closes it is never off a character boundary.
  2. **Reading back** — the reader takes the octets of one escaped character to one or two
     `Spelled` parts (`inside_escapedChar`), which stand for just this character whatever follows.
     A high surrogate is only ever written with its low one, so no pair is torn.
-/
import BookDatasets.Json.Layout
import BookDatasets.Proofs.Json.Reader
import BookDatasets.Proofs.Text.Utf8

namespace BookDatasets

namespace Json

/-! ## What is written for a character -/

/-- The octets of one character of a fragment. -/
def fragmentChar (c : Char) : Bytes :=
  if isVerbatim c then Utf8.encodeChar c else (units c).flatMap unitEscape

/-- The octets of one character of a string. -/
def escapedChar (c : Char) : Bytes :=
  if standsAlone c then loneEscape c else fragmentChar c

/-- A slice between two lengths is what stands between the octets of these lengths. -/
theorem slice_append (before stretch after : Bytes) :
    slice (before ++ stretch ++ after) before.length (before.length + stretch.length)
      = stretch := by
  rw [slice, List.append_assoc, List.drop_left, Nat.add_sub_cancel_left, List.take_left]

/-- **The pieces of a fragment are its characters.**  `before` is what is already written and
`stretch` what the open stretch holds so far. -/
theorem piecesFrom_bytes (rest : Text) (before stretch : Bytes) :
    ((piecesFrom before.length (before.length + stretch.length) rest).map
        (Piece.bytes (before ++ stretch ++ Utf8.encode rest))).flatten
      = stretch ++ rest.flatMap fragmentChar := by
  induction rest generalizing before stretch with
  | nil =>
    have hslice := slice_append before stretch []
    simpa [piecesFrom, Piece.bytes, Utf8.encode] using hslice
  | cons c rest ih =>
    rw [piecesFrom, show Utf8.encode (c :: rest) = Utf8.encodeChar c ++ Utf8.encode rest from rfl]
    by_cases hc : isVerbatim c = true
    · have hih := ih before (stretch ++ Utf8.encodeChar c)
      rw [List.length_append, ← Nat.add_assoc, ← List.append_assoc, List.append_assoc] at hih
      rw [if_pos hc, List.flatMap_cons, show fragmentChar c = Utf8.encodeChar c from if_pos hc,
        hih, List.append_assoc]
    · have hih := ih (before ++ stretch ++ Utf8.encodeChar c) []
      have hslice := slice_append before stretch (Utf8.encodeChar c ++ Utf8.encode rest)
      have hunits : (((units c).map Piece.unit).map
          (Piece.bytes (before ++ stretch ++ (Utf8.encodeChar c ++ Utf8.encode rest)))).flatten
          = fragmentChar c := by
        rw [show fragmentChar c = (units c).flatMap unitEscape from if_neg hc, List.map_map]
        rfl
      simp only [List.length_append, List.length_nil, Nat.add_zero, List.append_nil,
        List.nil_append] at hih
      rw [List.append_assoc (before ++ stretch)] at hih
      rw [if_neg hc, List.cons_append, List.map_cons, List.flatten_cons, List.map_append,
        List.flatten_append, hunits, List.flatMap_cons,
        show Piece.bytes _ (.stretch before.length (before.length + stretch.length)) = stretch
          from hslice, hih]

/-- However a fragment is cut into pieces, it is written character by character. -/
theorem fragmentChunks_flatten (t : Text) :
    (fragmentChunks t).flatten = t.flatMap fragmentChar := by
  have h := piecesFrom_bytes t [] []
  simpa [fragmentChunks, pieces] using h

/-- The octets of a character in front of the parts of a string. -/
theorem stringParts_cons (c : Char) (t : Text) :
    ((stringParts (c :: t)).flatMap StringPart.chunks).flatten
      = escapedChar c ++ ((stringParts t).flatMap StringPart.chunks).flatten := by
  rw [stringParts]
  by_cases hc : standsAlone c = true
  · rw [if_pos hc, show escapedChar c = loneEscape c from if_pos hc]
    rfl
  · rw [if_neg hc, show escapedChar c = fragmentChar c from if_neg hc]
    -- The character joins the first part when that is a fragment, and is a fragment of its own
    -- otherwise; both times it comes first.
    split
    · rename_i t' parts hparts
      rw [hparts]
      simp only [List.flatMap_cons, StringPart.chunks, List.flatten_append,
        fragmentChunks_flatten, List.append_assoc]
    · simp only [List.flatMap_cons, StringPart.chunks, List.flatten_append,
        fragmentChunks_flatten, List.flatMap_nil, List.append_nil]

/-- **A string is written character by character** between two quotes. -/
theorem stringChunks_flatten (t : Text) :
    (stringChunks t).flatten = 0x22 :: t.flatMap escapedChar ++ [0x22] := by
  have hparts : ((stringParts t).flatMap StringPart.chunks).flatten = t.flatMap escapedChar := by
    induction t with
    | nil => rfl
    | cons c t ih => rw [stringParts_cons, ih, List.flatMap_cons]
  simp [stringChunks, hparts]

/-! ## Reading a unit back -/

theorem hexValue?_hexDigit : ∀ d < 16, hexValue? (Char.ofNat (hexDigit d).toNat) = some d := by
  decide

/-- Four digits read back as the unit they were written for. -/
theorem unit?_hex4 {n : Nat} (h : n < 0x10000) :
    ∃ a b c d, Latin1.decode (hex4 n) = [a, b, c, d] ∧ unit? a b c d = some n := by
  refine ⟨_, _, _, _, rfl, ?_⟩
  rw [unit?, hexValue?_hexDigit _ (Nat.mod_lt _ (by decide)),
    hexValue?_hexDigit _ (Nat.mod_lt _ (by decide)),
    hexValue?_hexDigit _ (Nat.mod_lt _ (by decide)),
    hexValue?_hexDigit _ (Nat.mod_lt _ (by decide))]
  show some _ = some n
  congr 1
  omega

/-- The reader takes a unit escape to its unit. -/
theorem inside_unitEscape {n : Nat} (h : n < 0x10000) (rest : Text) :
    inside (Latin1.decode (unitEscape n) ++ rest)
      = (inside rest).map fun found => (.unit n :: found.1, found.2) := by
  obtain ⟨a, b, c, d, hdigits, hunit⟩ := unit?_hex4 h
  rw [unitEscape, Latin1.decode_cons, Latin1.decode_cons, hdigits]
  show inside ('\\' :: 'u' :: a :: b :: c :: d :: rest) = _
  rw [inside, hunit]

/-! ## Reading a character back -/

/-- The parts `spelled` of a string stand for the character `c`, whatever parts follow. -/
def Spelled.StandsFor (spelled : List Spelled) (c : Char) : Prop :=
  ∀ rest, Spelled.text? (spelled ++ rest) = (Spelled.text? rest).map (c :: ·)

theorem standsFor_char (c : Char) : Spelled.StandsFor [.char c] c := by
  intro rest
  rfl

/-- A unit that is no surrogate stands for the character with its number. -/
theorem standsFor_unit {c : Char} (h : c.toNat < 0x10000) :
    Spelled.StandsFor [.unit c.toNat] c := by
  intro rest
  have hrange := Utf8.char_range c
  have hlow : isLowSurrogate c.toNat = false := by
    simp only [isLowSurrogate, Bool.and_eq_false_iff, decide_eq_false_iff_not]
    omega
  have hhigh : isHighSurrogate c.toNat = false := by
    simp only [isHighSurrogate, Bool.and_eq_false_iff, decide_eq_false_iff_not]
    omega
  rw [List.cons_append, List.nil_append, Spelled.text?.eq_def]
  simp only [hlow, hhigh, Bool.false_eq_true, if_false, Char.ofNat_toNat]

/-- A high surrogate and its low one stand for the character above U+FFFF that they are cut from. -/
theorem standsFor_pair {c : Char} (h : 0x10000 ≤ c.toNat) :
    Spelled.StandsFor
      [.unit (0xD800 + (c.toNat - 0x10000) / 0x400), .unit (0xDC00 + (c.toNat - 0x10000) % 0x400)]
      c := by
  intro rest
  have hrange := Utf8.char_range c
  have hlow : isLowSurrogate (0xD800 + (c.toNat - 0x10000) / 0x400) = false := by
    simp only [isLowSurrogate, Bool.and_eq_false_iff, decide_eq_false_iff_not]
    omega
  have hhigh : isHighSurrogate (0xD800 + (c.toNat - 0x10000) / 0x400) = true := by
    simp only [isHighSurrogate, Bool.and_eq_true, decide_eq_true_eq]
    omega
  have hlow' : isLowSurrogate (0xDC00 + (c.toNat - 0x10000) % 0x400) = true := by
    simp only [isLowSurrogate, Bool.and_eq_true, decide_eq_true_eq]
    omega
  simp only [List.cons_append, List.nil_append, Spelled.text?, hlow, hhigh, hlow',
    Bool.false_eq_true, if_false, if_true]
  rw [Utf8.ofNat_eq_of_toNat (c := c) (by omega)]

/-- A character that needs no escape is read as it stands. -/
theorem inside_verbatim {c : Char} (hquote : c ≠ '"') (hslash : c ≠ '\\') (hlow : 0x20 ≤ c.toNat)
    (rest : Text) :
    inside (c :: rest) = (inside rest).map fun found => (.char c :: found.1, found.2) := by
  rw [inside]
  · rw [if_neg]
    rintro (h | h)
    · exact hslash h
    · omega
  · exact hquote
  · intro a b c' d rest' h
    exact absurd h hslash
  · intro c' rest' h
    exact absurd h hslash

/-- The units of a character are read back to parts that stand for it. -/
theorem inside_units (c : Char) :
    ∃ spelled, Spelled.StandsFor spelled c ∧ ∀ rest,
      inside (Latin1.decode ((units c).flatMap unitEscape) ++ rest)
        = (inside rest).map fun found => (spelled ++ found.1, found.2) := by
  have hrange := Utf8.char_range c
  by_cases h : c.toNat < 0x10000
  · refine ⟨_, standsFor_unit h, fun rest => ?_⟩
    rw [units, if_pos h, List.flatMap_singleton, inside_unitEscape h]
    rfl
  · refine ⟨_, standsFor_pair (by omega), fun rest => ?_⟩
    rw [units, if_neg h, List.flatMap_cons, List.flatMap_singleton, Latin1.decode_append,
      List.append_assoc, inside_unitEscape (by omega), inside_unitEscape (by omega),
      Option.map_map]
    rfl

/-- A backslash and a letter are read as the character that the letter stands for. -/
theorem inside_shortEscape {e c : Char} (h : shortEscape? e = some c) (rest : Text) :
    inside ('\\' :: e :: rest) = (inside rest).map fun found => (.char c :: found.1, found.2) := by
  have hu : e ≠ 'u' := by
    rintro rfl
    exact nomatch h
  rw [inside, h]
  intro a b c' d rest' he
  exact absurd he hu

/-- The escape of a character that stands alone is read back to parts that stand for it. -/
theorem inside_loneEscape {c : Char} (h : standsAlone c = true) :
    ∃ spelled, Spelled.StandsFor spelled c ∧ ∀ rest,
      inside (Latin1.decode (loneEscape c) ++ rest)
        = (inside rest).map fun found => (spelled ++ found.1, found.2) := by
  have hchar : ∀ n, c.toNat = n → c = Char.ofNat n := by
    rintro n rfl
    exact (Char.ofNat_toNat c).symm
  unfold loneEscape
  split_ifs with hquote hslash hb ht hn hf hr
  · subst hquote
    exact ⟨_, standsFor_char _, inside_shortEscape (e := '"') rfl⟩
  · subst hslash
    exact ⟨_, standsFor_char _, inside_shortEscape (e := '\\') rfl⟩
  · rw [hchar _ hb]
    exact ⟨_, standsFor_char _, inside_shortEscape (e := 'b') rfl⟩
  · rw [hchar _ ht]
    exact ⟨_, standsFor_char _, inside_shortEscape (e := 't') rfl⟩
  · rw [hchar _ hn]
    exact ⟨_, standsFor_char _, inside_shortEscape (e := 'n') rfl⟩
  · rw [hchar _ hf]
    exact ⟨_, standsFor_char _, inside_shortEscape (e := 'f') rfl⟩
  · rw [hchar _ hr]
    exact ⟨_, standsFor_char _, inside_shortEscape (e := 'r') rfl⟩
  · have hlow : c.toNat < 0x20 := by
      simpa [standsAlone, hquote, hslash] using h
    exact ⟨_, standsFor_unit (by omega), inside_unitEscape (by omega)⟩

/-- **What is written for a character is read back** to parts that stand for it. -/
theorem inside_escapedChar (c : Char) :
    ∃ spelled, Spelled.StandsFor spelled c ∧ ∀ rest,
      inside (Latin1.decode (escapedChar c) ++ rest)
        = (inside rest).map fun found => (spelled ++ found.1, found.2) := by
  rw [escapedChar]
  split_ifs with halone
  · exact inside_loneEscape halone
  · rw [fragmentChar]
    split_ifs with hverbatim
    · simp only [standsAlone, Bool.or_eq_true, beq_iff_eq, decide_eq_true_eq, not_or] at halone
      simp only [isVerbatim, decide_eq_true_eq] at hverbatim
      have hoctet : Latin1.decode (Utf8.encodeChar c) = [c] := by
        rw [Utf8.encodeChar, if_pos (by omega), Latin1.decode_cons, Utf8.toNat_octet (by omega),
          Char.ofNat_toNat, Latin1.decode_nil]
      refine ⟨_, standsFor_char c, fun rest => ?_⟩
      rw [hoctet]
      exact inside_verbatim halone.1.1 halone.1.2 (by omega) rest
    · exact inside_units c

/-- The inside of a string is read back to parts that spell the text. -/
theorem inside_escaped (t : Text) :
    ∃ spelled, Spelled.text? spelled = some t ∧ ∀ rest,
      inside (Latin1.decode (t.flatMap escapedChar) ++ rest)
        = (inside rest).map fun found => (spelled ++ found.1, found.2) := by
  induction t with
  | nil => exact ⟨[], rfl, fun rest => by simp⟩
  | cons c t ih =>
    obtain ⟨spelled, htext, hread⟩ := ih
    obtain ⟨first, hfirst, hreadFirst⟩ := inside_escapedChar c
    refine ⟨first ++ spelled, ?_, fun rest => ?_⟩
    · rw [hfirst, htext]
      rfl
    · rw [List.flatMap_cons, Latin1.decode_append, List.append_assoc, hreadFirst, hread,
        Option.map_map]
      simp only [Function.comp_def, List.append_assoc]

/-- A quote begins a token that is read as far as the string goes. -/
theorem outside_quote {rest : Text} {spelled : List Spelled} {tokens : List Token} {t : Text}
    (hinside : inside rest = some (spelled, tokens)) (htext : Spelled.text? spelled = some t) :
    outside ('"' :: rest) = some (.text t :: tokens) := by
  have hgap : ¬ isGap '"' = true := by decide
  rw [outside, if_neg hgap, if_pos rfl, hinside]
  show (Spelled.text? spelled).map _ = _
  rw [htext]
  rfl

theorem outside_quote_none {rest : Text} (hinside : inside rest = none) :
    outside ('"' :: rest) = none := by
  have hgap : ¬ isGap '"' = true := by decide
  rw [outside, if_neg hgap, if_pos rfl, hinside]

/-- **A written string is one token**, and the text it was written for. -/
theorem outside_stringChunks (t : Text) (rest : Text) :
    outside (Latin1.decode (stringChunks t).flatten ++ rest)
      = (outside rest).map fun tokens => .text t :: tokens := by
  obtain ⟨spelled, htext, hread⟩ := inside_escaped t
  have hinside : inside (Latin1.decode (t.flatMap escapedChar ++ [0x22]) ++ rest)
      = (outside rest).map fun tokens => (spelled, tokens) := by
    rw [Latin1.decode_append, List.append_assoc, hread]
    show (inside ('"' :: rest)).map _ = _
    rw [inside, Option.map_map]
    simp only [Function.comp_def, List.append_nil]
  rw [stringChunks_flatten]
  show outside ('"' :: (Latin1.decode (t.flatMap escapedChar ++ [0x22]) ++ rest)) = _
  cases hrest : outside rest with
  | none =>
    rw [hrest] at hinside
    exact outside_quote_none hinside
  | some tokens =>
    rw [hrest] at hinside
    exact outside_quote hinside htext

end Json

end BookDatasets

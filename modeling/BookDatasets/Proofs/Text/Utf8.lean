/-
  UTF-8: reading inverts writing.

  1. **Round trip** — `Utf8.decode (Utf8.encode t) = .ok t` for every text.  Reading has one step
     lemma for each of the four lengths (`decodeFrom_one` to `decodeFrom_four`), a character takes
     one of them (`decodeFrom_encodeChar`), and the rest is an induction on the text.
  2. **ASCII octets are ASCII characters** — every octet of a longer character is 0x80 or more, so
     an ASCII octet stands in the octets of a text exactly when its character stands in the text.
     Cutting octets at a line feed is therefore the same as cutting characters there.
  3. **ASCII bytes** — octets below 0x80 are the same text in UTF-8 and in Latin-1, and the text
     of ASCII characters comes back from its octets in Latin-1.
-/
import BookDatasets.Text.Utf8
import Mathlib.Data.List.Basic

namespace BookDatasets

namespace Utf8

/-! ## Characters and octets as numbers -/

/-- The two ranges of characters, below and above the surrogates. -/
theorem char_range (c : Char) :
    c.toNat < 0xD800 ∨ 0xDFFF < c.toNat ∧ c.toNat < 0x110000 := by
  have h := c.valid
  simpa [UInt32.isValidChar, Nat.isValidChar] using h

theorem toNat_octet {n : Nat} (h : n < 0x100) : (UInt8.ofNat n).toNat = n := by
  rw [UInt8.toNat_ofNat']
  exact Nat.mod_eq_of_lt h

theorem ofNat_eq_of_toNat {c : Char} {n : Nat} (h : n = c.toNat) : Char.ofNat n = c := by
  rw [h, Char.ofNat_toNat]

theorem continues_octet {n : Nat} (h : n < 0x40) : continues (UInt8.ofNat (0x80 + n)) = true := by
  have hb := toNat_octet (n := 0x80 + n) (by omega)
  simp only [continues, hb, Bool.and_eq_true, decide_eq_true_eq]
  omega

theorem tailBits_octet {n : Nat} (h : n < 0x40) : tailBits (UInt8.ofNat (0x80 + n)) = n := by
  have hb := toNat_octet (n := 0x80 + n) (by omega)
  rw [tailBits, hb]
  omega

/-! ## One step of reading, by length -/

theorem decodeFrom_one {a : UInt8} (index : Nat) (rest : Bytes) (ha : a.toNat < 0x80) :
    decodeFrom index (a :: rest)
      = (decodeFrom (index + 1) rest).map (Char.ofNat a.toNat :: ·) := by
  rw [decodeFrom.eq_def]
  simp only [if_pos ha]

theorem decodeFrom_two {a b : UInt8} (index : Nat) (rest : Bytes)
    (ha : 0xC2 ≤ a.toNat ∧ a.toNat < 0xE0) (hb : continues b = true) :
    decodeFrom index (a :: b :: rest)
      = (decodeFrom (index + 2) rest).map
          (Char.ofNat ((a.toNat - 0xC0) * 0x40 + tailBits b) :: ·) := by
  rw [decodeFrom, if_neg (by omega), if_neg (by omega), if_pos ha.2, if_pos hb]

theorem decodeFrom_three {a b c : UInt8} (index : Nat) (rest : Bytes)
    (ha : 0xE0 ≤ a.toNat ∧ a.toNat < 0xF0) (hb : continuesAfter a.toNat b = true)
    (hc : continues c = true) :
    decodeFrom index (a :: b :: c :: rest)
      = (decodeFrom (index + 3) rest).map
          (Char.ofNat ((a.toNat - 0xE0) * 0x1000 + tailBits b * 0x40 + tailBits c) :: ·) := by
  rw [decodeFrom, if_neg (by omega), if_neg (by omega), if_neg (by omega), if_pos ha.2]
  simp only [hb, hc, Bool.not_true, Bool.false_eq_true, if_false]

theorem decodeFrom_four {a b c d : UInt8} (index : Nat) (rest : Bytes)
    (ha : 0xF0 ≤ a.toNat ∧ a.toNat < 0xF5) (hb : continuesAfter a.toNat b = true)
    (hc : continues c = true) (hd : continues d = true) :
    decodeFrom index (a :: b :: c :: d :: rest)
      = (decodeFrom (index + 4) rest).map
          (Char.ofNat ((a.toNat - 0xF0) * 0x40000 + tailBits b * 0x1000 + tailBits c * 0x40
            + tailBits d) :: ·) := by
  rw [decodeFrom, if_neg (by omega), if_neg (by omega), if_neg (by omega), if_neg (by omega),
    if_pos ha.2]
  simp only [hb, hc, hd, Bool.not_true, Bool.false_eq_true, if_false]

/-- The second octet of a character of three is one of those that its first octet allows. -/
theorem continuesAfter_three {n : Nat} (hlow : 0x800 ≤ n) (hhigh : n < 0x10000)
    (hrange : n < 0xD800 ∨ 0xDFFF < n) :
    continuesAfter (0xE0 + n / 0x1000) (UInt8.ofNat (0x80 + n / 0x40 % 0x40)) = true := by
  have hb := toNat_octet (n := 0x80 + n / 0x40 % 0x40) (by omega)
  simp only [continuesAfter, continues, hb]
  split_ifs <;> simp only [Bool.and_eq_true, decide_eq_true_eq] <;> omega

/-- The second octet of a character of four is one of those that its first octet allows. -/
theorem continuesAfter_four {n : Nat} (hlow : 0x10000 ≤ n) (hhigh : n < 0x110000) :
    continuesAfter (0xF0 + n / 0x40000) (UInt8.ofNat (0x80 + n / 0x1000 % 0x40)) = true := by
  have hb := toNat_octet (n := 0x80 + n / 0x1000 % 0x40) (by omega)
  simp only [continuesAfter, continues, hb]
  split_ifs <;> simp only [Bool.and_eq_true, decide_eq_true_eq] <;> omega

/-! ## The round trip -/

/-- **One character is read back**, whatever follows it. -/
theorem decodeFrom_encodeChar (c : Char) (index : Nat) (rest : Bytes) :
    decodeFrom index (encodeChar c ++ rest)
      = (decodeFrom (index + (encodeChar c).length) rest).map (c :: ·) := by
  have hrange := char_range c
  unfold encodeChar
  dsimp only
  split_ifs with h1 h2 h3
  · have ha := toNat_octet (n := c.toNat) (by omega)
    rw [List.cons_append, decodeFrom_one _ _ (by omega), ha, Char.ofNat_toNat]
    rfl
  · have ha := toNat_octet (n := 0xC0 + c.toNat / 0x40) (by omega)
    rw [List.cons_append, List.cons_append,
      decodeFrom_two _ _ (by omega) (continues_octet (by omega)), ha, tailBits_octet (by omega),
      ofNat_eq_of_toNat (c := c) (by omega)]
    rfl
  · have ha := toNat_octet (n := 0xE0 + c.toNat / 0x1000) (by omega)
    have hb := continuesAfter_three (n := c.toNat) (by omega) h3 (by omega)
    rw [List.cons_append, List.cons_append, List.cons_append,
      decodeFrom_three _ _ (by omega) (by rw [ha]; exact hb) (continues_octet (by omega)), ha,
      tailBits_octet (by omega), tailBits_octet (by omega),
      ofNat_eq_of_toNat (c := c) (by omega)]
    rfl
  · have ha := toNat_octet (n := 0xF0 + c.toNat / 0x40000) (by omega)
    have hb := continuesAfter_four (n := c.toNat) (by omega) (by omega)
    rw [List.cons_append, List.cons_append, List.cons_append, List.cons_append,
      decodeFrom_four _ _ (by omega) (by rw [ha]; exact hb) (continues_octet (by omega))
        (continues_octet (by omega)), ha,
      tailBits_octet (by omega), tailBits_octet (by omega), tailBits_octet (by omega),
      ofNat_eq_of_toNat (c := c) (by omega)]
    rfl

theorem decodeFrom_encode (t : Text) (index : Nat) : decodeFrom index (encode t) = .ok t := by
  induction t generalizing index with
  | nil => rfl
  | cons c t ih =>
    show decodeFrom index (encodeChar c ++ encode t) = _
    rw [decodeFrom_encodeChar, ih]
    rfl

/-- **Reading inverts writing.** -/
theorem decode_encode (t : Text) : decode (encode t) = .ok t :=
  decodeFrom_encode t 0

/-! ## ASCII octets of a text -/

/-- A character has an ASCII octet only when it is that octet itself. -/
theorem mem_encodeChar_of_ascii {b : UInt8} {c : Char} (hb : b.toNat < 0x80)
    (h : b ∈ encodeChar c) : c.toNat = b.toNat := by
  have hrange := char_range c
  unfold encodeChar at h
  dsimp only at h
  split_ifs at h <;> simp only [List.mem_cons, List.not_mem_nil, or_false] at h
  · rw [h, toNat_octet (by omega)]
  · rcases h with h | h <;> rw [h, toNat_octet (by omega)] at hb <;> omega
  · rcases h with h | h | h <;> rw [h, toNat_octet (by omega)] at hb <;> omega
  · rcases h with h | h | h | h <;> rw [h, toNat_octet (by omega)] at hb <;> omega

/-- **An ASCII octet stands in the octets of a text exactly when its character stands in it.** -/
theorem mem_encode_iff {c : Char} (hc : c.toNat < 0x80) (t : Text) :
    UInt8.ofNat c.toNat ∈ encode t ↔ c ∈ t := by
  have hoctet := toNat_octet (n := c.toNat) (by omega)
  constructor
  · intro h
    obtain ⟨d, hd, hmem⟩ := List.mem_flatMap.1 h
    have heq := mem_encodeChar_of_ascii (by omega) hmem
    rw [hoctet] at heq
    rwa [← Char.toNat_inj.1 heq]
  · intro h
    refine List.mem_flatMap.2 ⟨c, h, ?_⟩
    simp [encodeChar, hc]

/-! ## ASCII bytes -/

theorem decodeFrom_ascii {b : Bytes} (h : ∀ octet ∈ b, octet.toNat < 0x80) (index : Nat) :
    decodeFrom index b = .ok (Latin1.decode b) := by
  induction b generalizing index with
  | nil => rfl
  | cons a b ih =>
    obtain ⟨ha, hb⟩ := List.forall_mem_cons.1 h
    rw [decodeFrom_one _ _ ha, ih hb]
    rfl

/-- ASCII bytes are the same text in UTF-8 and in Latin-1. -/
theorem decode_ascii {b : Bytes} (h : ∀ octet ∈ b, octet.toNat < 0x80) :
    decode b = .ok (Latin1.decode b) :=
  decodeFrom_ascii h 0

end Utf8

namespace Latin1

@[simp]
theorem decode_append (a b : Bytes) : decode (a ++ b) = decode a ++ decode b :=
  List.map_append

@[simp]
theorem decode_cons (octet : UInt8) (b : Bytes) :
    decode (octet :: b) = Char.ofNat octet.toNat :: decode b :=
  rfl

@[simp]
theorem decode_nil : decode [] = [] :=
  rfl

/-- A text of ASCII characters comes back from its octets. -/
theorem decode_encode_ascii {t : Text} (h : ∀ c ∈ t, c.toNat < 0x80) :
    decode (Utf8.encode t) = t := by
  have hoctets : ∀ octet ∈ Utf8.encode t, octet.toNat < 0x80 := by
    intro octet hoctet
    obtain ⟨c, hc, hmem⟩ := List.mem_flatMap.1 hoctet
    have hlt := h c hc
    rw [Utf8.encodeChar, if_pos hlt, List.mem_singleton] at hmem
    rw [hmem, Utf8.toNat_octet (by omega)]
    exact hlt
  have hread := Utf8.decode_encode t
  rw [Utf8.decode_ascii hoctets] at hread
  exact Except.ok.inj hread

end Latin1

end BookDatasets

/-
  Numbers read back.

  1. **Characters** — a number, whichever kind, is spelled with digits, the minus sign, the point and
     the letter `e`.  Each of them belongs to a word and is printable, and everything about the octets
     of a number rests on that.
  2. **Integers** — the digits of a natural number begin with a zero only when they are one zero, so
     they are read, and read as that number.
  3. **Fractions and exponents** — what is spelled behind the whole part begins with a point or with
     `e`, so the whole part ends where the digits end (`takeWhile_whole`), and the fraction ends
     where ITS digits end.  A word with either of the two is no integer (`integer?_spelling`).
-/
import BookDatasets.Proofs.Json.Strings
import Mathlib.Tactic.IntervalCases

namespace BookDatasets

namespace Json

/-! ## Characters -/

/-- The characters that numbers are spelled with. -/
def isNumberChar (c : Char) : Bool := c.isDigit || c == '-' || c == '.' || c == 'e'

theorem isNumberChar_of_isDigit {c : Char} (h : c.isDigit = true) : isNumberChar c = true := by
  simp [isNumberChar, h]

theorem isWordChar_of_isNumberChar {c : Char} (h : isNumberChar c = true) :
    isWordChar c = true := by
  simp only [isNumberChar, Bool.or_eq_true, beq_iff_eq] at h
  rcases h with ((h | rfl) | rfl) | rfl
  · simp [isWordChar, Char.isAlphanum, h]
  all_goals decide

/-- A character of a number is printable. -/
theorem toNat_of_isNumberChar {c : Char} (h : isNumberChar c = true) :
    0x20 ≤ c.toNat ∧ c.toNat < 0x7F := by
  simp only [isNumberChar, Bool.or_eq_true, beq_iff_eq] at h
  rcases h with ((h | rfl) | rfl) | rfl
  · simp only [Char.isDigit, Bool.and_eq_true, decide_eq_true_eq, ge_iff_le] at h
    have hlow : 48 ≤ c.toNat := h.1
    have hhigh : c.toNat ≤ 57 := h.2
    omega
  all_goals decide

theorem isDigit_of_mem_decimal {n : Nat} {c : Char} (h : c ∈ decimal n) : c.isDigit = true :=
  Nat.isDigit_of_mem_toDigits (by decide) (by decide) h

theorem isNumberChar_of_mem_signed {n : Int} {c : Char} (h : c ∈ signed n) :
    isNumberChar c = true := by
  cases n with
  | ofNat n => exact isNumberChar_of_isDigit (isDigit_of_mem_decimal h)
  | negSucc n =>
    rcases List.mem_cons.1 h with rfl | h
    · decide
    · exact isNumberChar_of_isDigit (isDigit_of_mem_decimal h)

theorem signed_ne_nil (n : Int) : signed n ≠ [] := by
  cases n with
  | ofNat n => exact Nat.toDigits_ne_nil
  | negSucc n => exact List.cons_ne_nil _ _

/-! ## Integers -/

/-- Only zero is written with a zero in front. -/
theorem decimal_head (n : Nat) (h : (decimal n).head? = some '0') : n = 0 := by
  induction n using Nat.strong_induction_on with
  | _ n ih =>
    by_cases hn : n < 10
    · rw [decimal, Nat.toDigits_of_lt_base hn] at h
      interval_cases n <;> simp_all [Nat.digitChar]
    · -- The first digit is that of the number without its last digit, and this one is not zero.
      rw [decimal, Nat.toDigits_of_base_le (by decide) (by omega)] at h
      rw [List.head?_append_of_ne_nil _ Nat.toDigits_ne_nil] at h
      have := ih (n / 10) (by omega) h
      omega

theorem decimal_isEmpty (n : Nat) : (decimal n).isEmpty = false := by
  rw [List.isEmpty_eq_false_iff]
  exact Nat.toDigits_ne_nil

theorem decimal_all_isDigit (n : Nat) : (decimal n).all Char.isDigit = true :=
  List.all_eq_true.2 fun _ hc => isDigit_of_mem_decimal hc

theorem natural?_decimal (n : Nat) : natural? (decimal n) = some n := by
  have hzero : ¬ ((decimal n).head? = some '0' ∧ (decimal n).length ≠ 1) := by
    rintro ⟨hhead, hlength⟩
    rw [decimal_head n hhead] at hlength
    exact hlength rfl
  rw [natural?, decimal_isEmpty, decimal_all_isDigit, if_neg (by decide), if_neg hzero]
  exact congrArg some Nat.ofDigitChars_ten_toDigits

/-- No number begins with a character that is no digit, whatever follows it. -/
theorem decimal_append_ne_cons (n : Nat) {c : Char} (hc : c.isDigit = false) (rest t : Text) :
    decimal n ++ rest ≠ c :: t := by
  intro h
  rcases hdigits : decimal n with _ | ⟨d, digits⟩
  · exact Nat.toDigits_ne_nil hdigits
  · rw [hdigits] at h
    have hd : d.isDigit = true := isDigit_of_mem_decimal (hdigits ▸ List.mem_cons_self ..)
    rw [(List.cons.inj h).1, hc] at hd
    cases hd

theorem decimal_ne_cons (n : Nat) {c : Char} (hc : c.isDigit = false) (t : Text) :
    decimal n ≠ c :: t := by
  have happend := decimal_append_ne_cons n hc [] t
  rwa [List.append_nil] at happend

theorem integer?_signed (n : Int) : integer? (signed n) = some n := by
  cases n with
  | ofNat n =>
    show integer? (decimal n) = _
    rw [integer?, natural?_decimal]
    · rfl
    · exact decimal_ne_cons n rfl
  | negSucc n =>
    show integer? ('-' :: decimal (n + 1)) = _
    rw [integer?, natural?_decimal]
    rfl

/-- An integer's word stands for the integer. -/
theorem ofWord?_signed (n : Int) : ofWord? (signed n) = some (.integer n) := by
  rw [ofWord?, integer?_signed]

/-! ## Exponents -/

theorem power?_decimal (n : Nat) : power? (decimal n) = some n := by
  rw [power?, decimal_isEmpty, decimal_all_isDigit, if_neg (by decide)]
  exact congrArg some Nat.ofDigitChars_ten_toDigits

theorem signedPower?_signed (n : Int) : signedPower? (signed n) = some n := by
  cases n with
  | ofNat n =>
    show signedPower? (decimal n) = _
    rw [signedPower?, power?_decimal]
    · rfl
    · exact decimal_ne_cons n rfl
    · exact decimal_ne_cons n rfl
  | negSucc n =>
    show signedPower? ('-' :: decimal (n + 1)) = _
    rw [signedPower?, power?_decimal]
    rfl

theorem exponent?_spelling (exponent : Option Int) :
    exponent? (Decimal.exponentSpelling exponent) = some exponent := by
  cases exponent with
  | none => rfl
  | some n =>
    rw [Decimal.exponentSpelling, exponent?, if_pos (Or.inl rfl), signedPower?_signed]
    rfl

/-! ## Fractions -/

/-- The text does not go on with a digit. -/
def EndsDigits (rest : Text) : Prop := rest.head?.any Char.isDigit = false

theorem endsDigits_exponent (exponent : Option Int) :
    EndsDigits (Decimal.exponentSpelling exponent) := by
  cases exponent <;> rfl

theorem endsDigits_fraction (digits : List (Fin 10)) (exponent : Option Int) :
    EndsDigits (Decimal.fractionSpelling digits ++ Decimal.exponentSpelling exponent) := by
  cases digits with
  | nil => exact endsDigits_exponent exponent
  | cons d digits => rfl

/-- **Digits end where they end**, and what follows is left. -/
theorem span_digits (digits : Text) {rest : Text} (hdigits : ∀ c ∈ digits, c.isDigit = true)
    (hrest : EndsDigits rest) :
    (digits ++ rest).takeWhile Char.isDigit = digits
      ∧ (digits ++ rest).dropWhile Char.isDigit = rest := by
  have hstop : rest.takeWhile Char.isDigit = [] ∧ rest.dropWhile Char.isDigit = rest := by
    cases rest with
    | nil => exact ⟨rfl, rfl⟩
    | cons c rest =>
      have hc : ¬ c.isDigit = true := Bool.eq_false_iff.1 hrest
      exact ⟨List.takeWhile_cons_of_neg hc, List.dropWhile_cons_of_neg hc⟩
  constructor
  · rw [List.takeWhile_append_of_pos hdigits, hstop.1, List.append_nil]
  · rw [List.dropWhile_append_of_pos hdigits, hstop.2]

theorem isDigit_digitChar : ∀ d : Fin 10, (Nat.digitChar d.val).isDigit = true := by decide

theorem digitOf_digitChar : ∀ d : Fin 10, digitOf (Nat.digitChar d.val) = d := by decide

/-- The digits of a fraction. -/
theorem isDigit_of_mem_map (digits : List (Fin 10)) {c : Char}
    (h : c ∈ digits.map fun d => Nat.digitChar d.val) : c.isDigit = true := by
  obtain ⟨d, -, rfl⟩ := List.mem_map.1 h
  exact isDigit_digitChar d

theorem map_digitOf (digits : List (Fin 10)) :
    (digits.map fun d => Nat.digitChar d.val).map digitOf = digits := by
  rw [List.map_map]
  exact (List.map_congr_left fun d _ => digitOf_digitChar d).trans (List.map_id digits)

theorem fraction?_spelling (digits : List (Fin 10)) (exponent : Option Int) :
    fraction? (Decimal.fractionSpelling digits ++ Decimal.exponentSpelling exponent)
      = some (digits, Decimal.exponentSpelling exponent) := by
  cases digits with
  | nil => cases exponent <;> rfl
  | cons d digits =>
    obtain ⟨htake, hdrop⟩ := span_digits _
      (fun c hc => isDigit_of_mem_map (d :: digits) hc) (endsDigits_exponent exponent)
    show fraction? ('.' :: (((d :: digits).map fun d => Nat.digitChar d.val)
      ++ Decimal.exponentSpelling exponent)) = _
    rw [fraction?, htake, hdrop, map_digitOf]
    rfl

/-! ## Numbers with a fraction or an exponent -/

theorem unsigned?_spelling (d : Decimal) (negative : Bool) :
    unsigned? negative (decimal d.whole
        ++ (Decimal.fractionSpelling d.fraction ++ Decimal.exponentSpelling d.exponent))
      = some { d with negative } := by
  obtain ⟨htake, hdrop⟩ := span_digits (decimal d.whole)
    (fun c hc => isDigit_of_mem_decimal hc) (endsDigits_fraction d.fraction d.exponent)
  rw [unsigned?, htake, hdrop, natural?_decimal, fraction?_spelling]
  show (exponent? (Decimal.exponentSpelling d.exponent)).bind _ = _
  rw [exponent?_spelling]
  exact dif_pos d.spelled

theorem decimal?_spelling (d : Decimal) : decimal? d.spelling = some d := by
  rcases d with ⟨_ | _, whole, fraction, exponent, spelled⟩
  · rw [Decimal.spelling]
    show decimal? (decimal whole ++ _) = _
    rw [decimal?]
    · exact unsigned?_spelling ⟨false, whole, fraction, exponent, spelled⟩ false
    · -- The word begins with a digit, so the rule for a minus sign is not the one that reads it.
      exact decimal_append_ne_cons whole rfl _
  · exact unsigned?_spelling ⟨true, whole, fraction, exponent, spelled⟩ true

/-- Digits alone spell no fraction and no exponent. -/
theorem natural?_mixed {digits rest : Text} (hne : rest ≠ []) (hrest : EndsDigits rest) :
    natural? (digits ++ rest) = none := by
  rcases rest with _ | ⟨c, rest⟩
  · exact absurd rfl hne
  · have hc : c.isDigit = false := hrest
    have hall : (digits ++ c :: rest).all Char.isDigit = false := by
      rw [List.all_append, List.all_cons, hc, Bool.false_and, Bool.and_false]
    rw [natural?, hall]
    simp

/-- A number with a fraction or an exponent is no integer. -/
theorem integer?_spelling (d : Decimal) : integer? d.spelling = none := by
  have hne : Decimal.fractionSpelling d.fraction ++ Decimal.exponentSpelling d.exponent ≠ [] := by
    intro h
    obtain ⟨hfraction, hexponent⟩ := List.append_eq_nil_iff.1 h
    rcases d.spelled with hspelled | hspelled
    · rw [Decimal.fractionSpelling, if_neg (by simpa using hspelled)] at hfraction
      exact List.cons_ne_nil _ _ hfraction
    · obtain ⟨n, hn⟩ := Option.ne_none_iff_exists'.1 hspelled
      rw [hn] at hexponent
      exact List.cons_ne_nil _ _ hexponent
  have hmixed : natural? (decimal d.whole
      ++ (Decimal.fractionSpelling d.fraction ++ Decimal.exponentSpelling d.exponent)) = none :=
    natural?_mixed hne (endsDigits_fraction d.fraction d.exponent)
  rw [Decimal.spelling]
  cases d.negative with
  | true =>
    show integer? ('-' :: (decimal d.whole ++ _)) = _
    rw [integer?, hmixed]
    rfl
  | false =>
    show integer? (decimal d.whole ++ _) = _
    rw [integer?, hmixed]
    · rfl
    · exact decimal_append_ne_cons d.whole rfl _

/-- **The word of a number with a fraction or an exponent stands for the number.** -/
theorem ofWord?_spelling (d : Decimal) : ofWord? d.spelling = some (.number d) := by
  rw [ofWord?, integer?_spelling, decimal?_spelling]

theorem isNumberChar_of_mem_spelling {d : Decimal} {c : Char} (h : c ∈ d.spelling) :
    isNumberChar c = true := by
  rw [Decimal.spelling, List.mem_append, List.mem_append, List.mem_append] at h
  rcases h with hsign | hwhole | hfraction | hexponent
  · cases hnegative : d.negative with
    | true =>
      rw [hnegative] at hsign
      obtain rfl := List.mem_singleton.1 hsign
      decide
    | false =>
      rw [hnegative] at hsign
      cases hsign
  · exact isNumberChar_of_isDigit (isDigit_of_mem_decimal hwhole)
  · rw [Decimal.fractionSpelling] at hfraction
    split at hfraction
    · cases hfraction
    · rcases List.mem_cons.1 hfraction with rfl | hdigit
      · decide
      · exact isNumberChar_of_isDigit (isDigit_of_mem_map _ hdigit)
  · cases hpower : d.exponent with
    | none =>
      rw [hpower] at hexponent
      cases hexponent
    | some n =>
      rw [hpower] at hexponent
      rcases List.mem_cons.1 hexponent with rfl | hdigit
      · decide
      · exact isNumberChar_of_mem_signed hdigit

theorem spelling_ne_nil (d : Decimal) : d.spelling ≠ [] := by
  intro h
  have hwhole := (List.append_eq_nil_iff.1 (List.append_eq_nil_iff.1 h).2).1
  exact Nat.toDigits_ne_nil hwhole

end Json

end BookDatasets

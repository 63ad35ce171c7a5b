/-
  Normalizing, pass by pass and round by round.

  1. **Passes** — `replaced` goes over a whole value and puts a text for each occurrence of ONE
     character.  Three such passes and a trim are what normalizing does in its single walk
     (`normalize_eq_passes`).  The order matters: the pass for quotes writes backslashes that the
     pass for backslashes must not see.
  2. **Rounds** — every round escapes the escapes of the round before.  After `k` of them there are
     `2 ^ k` characters for each that needs escaping, all of them backslashes but the quote itself
     (`escapedTimes`).  Only the first round strips: what it leaves is normalized, and nothing is
     left to strip of that.
  3. **Growth** — so a value that holds a backslash or a quote grows in EVERY round after the first,
     and any other is not changed by a second round.
-/
import BookDatasets.Proofs.Field.Steps
import Mathlib.Algebra.Ring.Nat

namespace BookDatasets

namespace Field

/-! ## Passes -/

/-- The value with a text in place of each occurrence of a character: cut at the character, and the
pieces joined by the text. -/
def replaced (old : Char) (new value : Text) : Text := Text.joined new (value.splitOn old)

theorem replaced_cons (old : Char) (new : Text) (c : Char) (value : Text) :
    replaced old new (c :: value) = (if c = old then new else [c]) ++ replaced old new value := by
  have hne : value.splitOn old ≠ [] := List.splitOn_ne_nil old value
  rw [replaced, replaced, Text.joined, Text.joined, List.splitOn_cons_eq_if_modifyHead]
  by_cases hc : c = old
  · -- The cut leaves an empty piece in front.
    rw [if_pos (beq_iff_eq.2 hc), if_pos hc, List.intercalate_cons_of_ne_nil hne, List.nil_append]
  · -- The character goes to the first piece.
    rw [if_neg (mt beq_iff_eq.1 hc), if_neg hc]
    obtain ⟨piece, pieces, hpieces⟩ := List.exists_cons_of_ne_nil hne
    rw [hpieces, List.modifyHead_cons]
    cases pieces with
    | nil =>
      rw [List.intercalate_singleton, List.intercalate_singleton]
      rfl
    | cons next pieces =>
      rw [List.intercalate_cons_cons, List.intercalate_cons_cons]
      rfl

/-- A pass is a walk. -/
theorem replaced_eq_flatMap (old : Char) (new value : Text) :
    replaced old new value = value.flatMap fun c => if c = old then new else [c] := by
  induction value with
  | nil => rfl
  | cons c value ih => rw [replaced_cons, ih, List.flatMap_cons]

/-- The three passes that escape are one walk. -/
theorem replaced_eq_escape (raw : Text) :
    replaced '"' ['\\', '"'] (replaced '\\' ['\\', '\\'] (replaced '\n' [] raw)) = escape raw := by
  rw [replaced_eq_flatMap '\n', replaced_eq_flatMap '\\', replaced_eq_flatMap '"',
    List.flatMap_assoc, List.flatMap_assoc, escape]
  apply List.flatMap_congr
  intro c _
  rcases escapeChar_cases c with ⟨rfl, h⟩ | ⟨rfl | rfl, h⟩ | ⟨⟨hfeed, hslash, hquote⟩, h⟩
  · rfl
  · rfl
  · rfl
  · rw [h, if_neg hfeed, List.flatMap_singleton, if_neg hslash, List.flatMap_singleton,
      if_neg hquote]

/-- **One walk does what four passes do**: drop every line feed, double every backslash, put a
backslash before every quote, and trim. -/
theorem normalize_eq_passes (raw : Text) :
    normalize raw
      = trim (replaced '"' "\\\"".toList (replaced '\\' "\\\\".toList (replaced '\n' [] raw))) := by
  rw [normalize_eq_trim, ← replaced_eq_escape]
  rfl

example : replaced '\\' "\\\\".toList (replaced '"' "\\\"".toList "\"".toList)
    ≠ normalize "\"".toList := by decide

/-! ## Rounds -/

/-- What one character becomes in `k` rounds: a backslash becomes `2 ^ k` of them, a quote gets
`2 ^ k - 1` backslashes in front of it, and every other character stays. -/
def escapedTimes (k : Nat) (c : Char) : Text :=
  if c = '\\' then List.replicate (2 ^ k) '\\'
  else if c = '"' then List.replicate (2 ^ k - 1) '\\' ++ ['"']
  else [c]

theorem escape_append (s t : Text) : escape (s ++ t) = escape s ++ escape t :=
  List.flatMap_append

theorem escape_replicate (n : Nat) :
    escape (List.replicate n '\\') = List.replicate (2 * n) '\\' := by
  induction n with
  | zero => rfl
  | succ n ih =>
    rw [List.replicate_succ, escape_cons, ih, Nat.mul_succ, List.replicate_succ,
      List.replicate_succ]
    rfl

/-- One round more escapes what the rounds before have written. -/
theorem escape_escapedTimes (k : Nat) {c : Char} (hc : c ≠ '\n') :
    escape (escapedTimes k c) = escapedTimes (k + 1) c := by
  have hpow : 0 < 2 ^ k := Nat.two_pow_pos k
  rcases escapeChar_cases c with ⟨hfeed, -⟩ | ⟨rfl | rfl, -⟩ | ⟨⟨-, hslash, hquote⟩, h⟩
  · exact absurd hfeed hc
  · show escape (List.replicate (2 ^ k) '\\') = List.replicate (2 ^ (k + 1)) '\\'
    rw [escape_replicate, Nat.pow_succ']
  · -- The backslashes in front of the quote double, and the quote gets one more.
    show escape (List.replicate (2 ^ k - 1) '\\' ++ ['"'])
      = List.replicate (2 ^ (k + 1) - 1) '\\' ++ ['"']
    have hcount : 2 ^ (k + 1) - 1 = 2 * (2 ^ k - 1) + 1 := by omega
    rw [escape_append, escape_replicate, hcount, List.replicate_succ', List.append_assoc]
    rfl
  · rw [escapedTimes, escapedTimes, if_neg hslash, if_neg hquote, if_neg hslash, if_neg hquote,
      escape_cons, h]
    rfl

/-- **Rounds in closed form**, from a stripped value on. -/
theorem iterate_strip (k : Nat) (raw : Text) :
    normalize^[k] (strip raw) = (strip raw).flatMap (escapedTimes k) := by
  induction k with
  | zero =>
    have hzero : escapedTimes 0 = fun c => [c] := by
      funext c
      rw [escapedTimes]
      split_ifs with hslash hquote
      · rw [hslash]
        rfl
      · rw [hquote]
        rfl
      · rfl
    rw [hzero, List.flatMap_singleton']
    rfl
  | succ k ih =>
    rw [Function.iterate_succ_apply', normalize_eq, strip_iterate, ih, escape, List.flatMap_assoc]
    apply List.flatMap_congr
    intro c hc
    exact escape_escapedTimes k (mem_strip hc)

/-- Stripping is part of the first round. -/
theorem iterate_raw {k : Nat} (hk : 1 ≤ k) (raw : Text) :
    normalize^[k] raw = normalize^[k] (strip raw) := by
  obtain ⟨n, rfl⟩ : ∃ n, k = n + 1 := ⟨k - 1, by omega⟩
  rw [Function.iterate_succ_apply, Function.iterate_succ_apply, normalize_strip]

/-! ## Growth -/

/-- Whether a character is escaped. -/
def isSpecial (c : Char) : Bool := c = '\\' || c = '"'

theorem isSpecial_iff {c : Char} : isSpecial c = true ↔ c = '\\' ∨ c = '"' := by
  rw [isSpecial, Bool.or_eq_true, decide_eq_true_eq, decide_eq_true_eq]

/-- A character that is not escaped stays in every round. -/
theorem escapedTimes_plain {c : Char} (hc : isSpecial c = false) (k : Nat) :
    escapedTimes k c = [c] := by
  have hplain : ¬ (c = '\\' ∨ c = '"') := by
    rw [← isSpecial_iff, hc]
    exact Bool.false_ne_true
  rw [not_or] at hplain
  rw [escapedTimes, if_neg hplain.1, if_neg hplain.2]

theorem length_escapedTimes {c : Char} (hc : isSpecial c = true) (k : Nat) :
    (escapedTimes k c).length = 2 ^ k := by
  have hpow : 0 < 2 ^ k := Nat.two_pow_pos k
  rcases isSpecial_iff.1 hc with rfl | rfl
  · exact List.length_replicate
  · show (List.replicate (2 ^ k - 1) '\\' ++ ['"']).length = 2 ^ k
    rw [List.length_append, List.length_replicate, List.length_singleton]
    omega

/-- The length after `k` rounds: `2 ^ k` for each character that is escaped, and one for each
other. -/
theorem length_rounds (k : Nat) (value : Text) :
    (value.flatMap (escapedTimes k)).length
      = value.countP isSpecial * 2 ^ k + value.countP (fun c => !isSpecial c) := by
  induction value with
  | nil => simp
  | cons c value ih =>
    rw [List.flatMap_cons, List.length_append, ih, List.countP_cons, List.countP_cons]
    cases hc : isSpecial c with
    | true =>
      rw [length_escapedTimes hc]
      simp only [Bool.not_true, Bool.false_eq_true, if_true, if_false, Nat.succ_mul, Nat.add_zero]
      omega
    | false =>
      rw [escapedTimes_plain hc, List.length_singleton]
      simp only [Bool.not_false, Bool.false_eq_true, if_true, if_false, Nat.add_zero]
      omega

/-- Stripping takes no character that is escaped. -/
theorem mem_strip_iff {c : Char} (hc : isSpecial c = true) (raw : Text) :
    c ∈ strip raw ↔ c ∈ raw := by
  have hkept : isBlank c = false ∧ c ≠ '\n' := by
    rcases isSpecial_iff.1 hc with rfl | rfl <;> decide
  rw [strip, mem_trim hkept.1, withoutFeeds, List.mem_filter, decide_eq_true_eq,
    and_iff_left hkept.2]

/-- **A value that holds a backslash or a quote grows in every round after the first.** -/
theorem length_iterate_lt {raw : Text} (h : '\\' ∈ raw ∨ '"' ∈ raw) {k : Nat} (hk : 1 ≤ k) :
    (normalize^[k] raw).length < (normalize^[k + 1] raw).length := by
  have hcount : 0 < (strip raw).countP isSpecial := by
    rw [List.countP_pos_iff]
    rcases h with hslash | hquote
    · exact ⟨'\\', (mem_strip_iff rfl raw).2 hslash, rfl⟩
    · exact ⟨'"', (mem_strip_iff rfl raw).2 hquote, rfl⟩
  have hpow : 2 ^ k < 2 ^ (k + 1) := Nat.pow_lt_pow_succ Nat.one_lt_two
  rw [iterate_raw hk, iterate_raw (Nat.le_succ_of_le hk), iterate_strip, iterate_strip,
    length_rounds, length_rounds]
  exact Nat.add_lt_add_right (Nat.mul_lt_mul_of_pos_left hpow hcount) _

/-- A value that holds neither is not changed by a second round. -/
theorem normalize_normalize {raw : Text} (h : '\\' ∉ raw ∧ '"' ∉ raw) :
    normalize (normalize raw) = normalize raw := by
  have hplain : ∀ c ∈ strip raw, isSpecial c = false := by
    intro c hc
    rw [Bool.eq_false_iff]
    intro hspecial
    rw [mem_strip_iff hspecial] at hc
    rcases isSpecial_iff.1 hspecial with rfl | rfl
    · exact h.1 hc
    · exact h.2 hc
  have hrounds : ∀ k, 1 ≤ k → normalize^[k] raw = (strip raw).flatMap fun c => [c] := by
    intro k hk
    rw [iterate_raw hk, iterate_strip]
    apply List.flatMap_congr
    intro c hc
    exact escapedTimes_plain (hplain c hc) k
  calc normalize (normalize raw)
      = normalize^[2] raw := by rw [Function.iterate_succ_apply', Function.iterate_one]
    _ = normalize^[1] raw := by rw [hrounds 2 (by decide), hrounds 1 (by decide)]
    _ = normalize raw := by rw [Function.iterate_one]

/-- **Normalizing round after round**: the closed form of every round; which values a second round
does not change; and that all others grow in every round after the first. -/
theorem normalize_rounds (raw : Text) :
    (∀ k, 1 ≤ k → normalize^[k] raw = (strip raw).flatMap (escapedTimes k))
      ∧ (normalize (normalize raw) = normalize raw ↔ '\\' ∉ raw ∧ '"' ∉ raw)
      ∧ (¬ ('\\' ∉ raw ∧ '"' ∉ raw) →
          ∀ k, 1 ≤ k → (normalize^[k] raw).length < (normalize^[k + 1] raw).length) := by
  have hgrows : ¬ ('\\' ∉ raw ∧ '"' ∉ raw) →
      ∀ k, 1 ≤ k → (normalize^[k] raw).length < (normalize^[k + 1] raw).length := by
    intro h k hk
    rw [not_and_or, not_not, not_not] at h
    exact length_iterate_lt h hk
  refine ⟨?_, ⟨?_, normalize_normalize⟩, hgrows⟩
  · intro k hk
    rw [iterate_raw hk, iterate_strip]
  · intro hfixed
    by_contra h
    have hlonger := hgrows h 1 (Nat.le_refl 1)
    rw [Function.iterate_succ_apply' normalize 1, Function.iterate_one, hfixed] at hlonger
    exact Nat.lt_irrefl _ hlonger

/-- Blanks at both ends, a line feed, a quote and a backslash. -/
def smudged : Text := " a\n\"b\\ ".toList

theorem normalize_rounds_of_smudged :
    (1 ≤ 3 ∧ normalize^[3] smudged = "a\\\\\\\\\\\\\\\"b\\\\\\\\\\\\\\\\".toList)
    ∧ ¬ ('\\' ∉ smudged ∧ '"' ∉ smudged)
    ∧ (normalize^[2] smudged).length < (normalize^[3] smudged).length := by
  have hspecial : ¬ ('\\' ∉ smudged ∧ '"' ∉ smudged) := by decide
  obtain ⟨hclosed, -, hgrows⟩ := normalize_rounds smudged
  refine ⟨⟨by decide, ?_⟩, hspecial, hgrows hspecial 2 (by decide)⟩
  rw [hclosed 3 (by decide)]
  decide

end Field

end BookDatasets

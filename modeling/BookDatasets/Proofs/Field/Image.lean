/-
  What normalizing can give.

  1. **Reading** — a well-escaped value is read from left to right as characters that need no
     escape and pairs of a backslash and a backslash or a quote (`WellEscaped`).  Such a value that
     holds no line feed and neither begins nor ends with a blank is NORMAL (`IsNormal`).
  2. **Both ways** — every normalized value is normal.  A normal value is the normalized form of
     what is read back of it, since escaping restores what reading back took (`escape_unescape`)
     and there is nothing to trim.  So the normal values are those that normalizing gives, and
     also those that it restores.
  3. **Parity** — backslashes go by pairs, or one goes with a quote.  So a well-escaped value ends
     in an EVEN number of them, and an odd number stands in front of each quote.  Both follow from
     one law: a pair at the front does not change the parity at the end
     (`even_slashesAtEnd_append`).
-/
import BookDatasets.Proofs.Field
import Mathlib.Algebra.Ring.Parity
import Mathlib.Data.List.DropRight

namespace BookDatasets

namespace Field

/-! ## Reading -/

/-- Read from left to right: characters other than a backslash and a quote, and pairs of a backslash
and a backslash or a quote. -/
inductive WellEscaped : Text → Prop where
  | nil : WellEscaped []
  | plain {c : Char} {rest : Text} (hc : c ≠ '\\' ∧ c ≠ '"') (h : WellEscaped rest) :
      WellEscaped (c :: rest)
  | pair {c : Char} {rest : Text} (hc : c = '\\' ∨ c = '"') (h : WellEscaped rest) :
      WellEscaped ('\\' :: c :: rest)

/-- A value with nothing to strip and nothing to escape. -/
structure IsNormal (value : Text) : Prop where
  lineFeed : '\n' ∉ value
  first : ∀ c ∈ value.head?, isBlank c = false
  last : ∀ c ∈ value.getLast?, isBlank c = false
  reading : WellEscaped value

/-- A body is well escaped. -/
theorem IsBody.wellEscaped {body : Text} (h : IsBody body) : WellEscaped body := by
  induction h with
  | nil => exact .nil
  | plain hc _ ih => exact .plain hc.2 ih
  | pair hc _ ih => exact .pair hc ih

/-- A well-escaped value without a line feed is a body. -/
theorem WellEscaped.isBody {value : Text} (h : WellEscaped value) (hfeed : '\n' ∉ value) :
    IsBody value := by
  induction h with
  | nil => exact .nil
  | plain hc _ ih =>
    rw [List.mem_cons, not_or] at hfeed
    exact .plain ⟨Ne.symm hfeed.1, hc⟩ (ih hfeed.2)
  | pair hc _ ih =>
    rw [List.mem_cons, List.mem_cons, not_or, not_or] at hfeed
    exact .pair hc (ih hfeed.2.2)

/-! ## Both ways -/

/-- **Escaping restores what reading back took**, from every body. -/
theorem escape_unescape {body : Text} (h : IsBody body) : escape (unescape body) = body := by
  induction h with
  | nil => rfl
  | @plain c rest hc _ ih =>
    have hplain : escapeChar c = [c] := by
      rw [escapeChar, if_neg hc.1, if_neg hc.2.1, if_neg hc.2.2]
    rw [unescape_cons hc.2.1, escape_cons, hplain, ih]
    rfl
  | @pair c rest hc _ ih =>
    have hpair : escapeChar c = ['\\', c] := by
      rcases hc with rfl | rfl <;> rfl
    rw [unescape_pair hc, escape_cons, hpair, ih]
    rfl

/-- A normalized value is normal. -/
theorem isNormal_normalize (raw : Text) : IsNormal (normalize raw) := by
  have hbody := isBody_normalize raw
  have htrim : trim (normalize raw) = normalize raw := by
    rw [normalize_eq_trim, trim_trim]
  obtain ⟨hfirst, hlast⟩ := trim_eq_self_iff.1 htrim
  exact ⟨hbody.lineFeed_not_mem, hfirst, hlast, hbody.wellEscaped⟩

/-- **Normalizing restores a normal value** from what is read back of it. -/
theorem normalize_unescape {value : Text} (h : IsNormal value) :
    normalize (unescape value) = value := by
  have htrim : trim value = value := trim_eq_self_iff.2 ⟨h.first, h.last⟩
  rw [normalize_eq_trim, escape_unescape (h.reading.isBody h.lineFeed), htrim]

/-! ## Parity -/

/-- How many backslashes a text ends in. -/
def slashesAtEnd (t : Text) : Nat := (t.rtakeWhile (· = '\\')).length

/-- It ends in a backslash that is not the second half of a pair. -/
def Dangles (value : Text) : Prop := Odd (slashesAtEnd value)

/-- It holds a quote that no backslash goes with: those in front of it go by pairs. -/
def HoldsBareQuote (value : Text) : Prop :=
  ∃ front back, value = front ++ '"' :: back ∧ Even (slashesAtEnd front)

/-- The backslashes at the end of a text are those at the end of its second part, and also those at
the end of the first when the second is nothing but backslashes. -/
theorem slashesAtEnd_append (s t : Text) :
    slashesAtEnd (s ++ t)
      = if slashesAtEnd t = t.length then slashesAtEnd s + slashesAtEnd t else slashesAtEnd t := by
  have hreverse : ∀ u : Text, slashesAtEnd u = (u.reverse.takeWhile (· = '\\')).length := by
    intro u
    rw [slashesAtEnd, List.rtakeWhile, List.length_reverse]
  rw [hreverse, List.reverse_append, List.takeWhile_append, ← hreverse, List.length_reverse]
  split_ifs with hall
  · rw [List.length_append, ← hreverse, List.length_reverse, hall, Nat.add_comm]
  · exact (hreverse t).symm

/-- What ends in an even number of backslashes may be put in front without a change of parity. -/
theorem even_slashesAtEnd_append {s : Text} (hs : Even (slashesAtEnd s)) (t : Text) :
    Even (slashesAtEnd (s ++ t)) ↔ Even (slashesAtEnd t) := by
  rw [slashesAtEnd_append]
  split_ifs
  · rw [Nat.even_add, iff_true_left hs]
  · exact Iff.rfl

/-- A character that is read alone is no backslash. -/
theorem even_slashesAtEnd_plain {c : Char} (hc : c ≠ '\\') : Even (slashesAtEnd [c]) := by
  have hzero : slashesAtEnd [c] = 0 := by
    simp [slashesAtEnd, List.rtakeWhile, hc]
  rw [hzero]
  exact Even.zero

/-- A pair is two backslashes, or ends in none. -/
theorem even_slashesAtEnd_pair {c : Char} (hc : c = '\\' ∨ c = '"') :
    Even (slashesAtEnd ['\\', c]) := by
  rcases hc with rfl | rfl <;> decide

/-- **A well-escaped value does not dangle.** -/
theorem WellEscaped.not_dangles {value : Text} (h : WellEscaped value) : ¬ Dangles value := by
  rw [Dangles, Nat.not_odd_iff_even]
  induction h with
  | nil => exact Even.zero
  | @plain c rest hc _ ih =>
    exact (even_slashesAtEnd_append (even_slashesAtEnd_plain hc.1) rest).2 ih
  | @pair c rest hc _ ih =>
    exact (even_slashesAtEnd_append (even_slashesAtEnd_pair hc) rest).2 ih

/-- **A well-escaped value holds no bare quote**: it stands behind an odd number of backslashes. -/
theorem WellEscaped.not_holdsBareQuote {value : Text} (h : WellEscaped value) :
    ¬ HoldsBareQuote value := by
  rintro ⟨front, back, hvalue, heven⟩
  -- The quote is what comes first in the value, or it stands in the rest, behind what comes first.
  induction h generalizing front with
  | nil => exact absurd hvalue.symm (List.append_ne_nil_of_right_ne_nil _ (List.cons_ne_nil _ _))
  | @plain c rest hc _ ih =>
    rcases front with _ | ⟨d, front⟩
    · exact hc.2 (List.cons.inj hvalue).1
    · obtain ⟨rfl, hrest⟩ := List.cons.inj hvalue
      exact ih front hrest ((even_slashesAtEnd_append (even_slashesAtEnd_plain hc.1) front).1 heven)
  | @pair c rest hc _ ih =>
    rcases front with _ | ⟨d, _ | ⟨e, front⟩⟩
    · exact absurd (List.cons.inj hvalue).1 (by decide)
    · obtain ⟨rfl, -⟩ := List.cons.inj hvalue
      exact absurd heven (by decide)
    · simp only [List.cons_append, List.cons.injEq] at hvalue
      obtain ⟨rfl, rfl, hrest⟩ := hvalue
      exact ih front hrest ((even_slashesAtEnd_append (even_slashesAtEnd_pair hc) front).1 heven)

/-! ## The image -/

/-- **Normalizing gives the normal values, and restores them.**  A value is the normalized form of
some raw value exactly when it is normal, and exactly then it is the normalized form of what is
read back of it.  So a normalized value never dangles and never holds a bare quote. -/
theorem normalize_image (value : Text) :
    ((∃ raw, normalize raw = value) ↔ IsNormal value)
      ∧ (normalize (unescape value) = value ↔ IsNormal value)
      ∧ ∀ raw, ¬ Dangles (normalize raw) ∧ ¬ HoldsBareQuote (normalize raw) := by
  have hnormal : ∀ raw, normalize raw = value → IsNormal value := by
    rintro raw rfl
    exact isNormal_normalize raw
  refine ⟨⟨?_, ?_⟩, ⟨hnormal _, normalize_unescape⟩, ?_⟩
  · rintro ⟨raw, hraw⟩
    exact hnormal raw hraw
  · intro h
    exact ⟨unescape value, normalize_unescape h⟩
  · intro raw
    have hreading := (isNormal_normalize raw).reading
    exact ⟨hreading.not_dangles, hreading.not_holdsBareQuote⟩

example : normalize (unescape "\\a\"".toList) = "\\\\a\\\"".toList := by decide

end Field

end BookDatasets

/-
  Quoted identifiers, read back.

  A name may hold runs of quotes anywhere, also at its ends.  Doubling makes every run inside an
  identifier EVEN, so a reader that takes quotes by pairs is never left with one of them before the
  closing quote comes (`scanInside_doubled`).  What stands behind the identifier must not begin with
  a quote, for that one would pair with the closing one.
-/
import BookDatasets.Table.Identifier

namespace BookDatasets

namespace Table

namespace Identifier

variable {rest : Text}

theorem doubled_cons (c : Char) (name : Text) :
    doubled (c :: name) = (if c = '"' then ['"', '"'] else [c]) ++ doubled name :=
  List.flatMap_cons

theorem doubled_append (front back : Text) : doubled (front ++ back) = doubled front ++ doubled back :=
  List.flatMap_append

theorem mem_doubled {c : Char} {name : Text} (h : c ∈ doubled name) : c ∈ name := by
  obtain ⟨d, hd, hc⟩ := List.mem_flatMap.1 h
  by_cases hquote : d = '"'
  · rw [if_pos hquote, List.mem_cons, List.mem_singleton, or_self] at hc
    rwa [hc, ← hquote]
  · rw [if_neg hquote, List.mem_singleton] at hc
    rwa [hc]

/-! ## The scan, by what comes first -/

theorem scanInside_pair (rest : Text) :
    scanInside ('"' :: '"' :: rest) = (scanInside rest).map fun found => ('"' :: found.1, found.2) :=
  rfl

/-- A character that is no quote belongs to the name. -/
theorem scanInside_cons {c : Char} (h : c ≠ '"') (rest : Text) :
    scanInside (c :: rest) = (scanInside rest).map fun found => (c :: found.1, found.2) := by
  rw [scanInside]
  · exact if_neg h
  all_goals simp [h]

/-- A quote closes the name when no other one follows. -/
theorem scanInside_close (h : rest.head? ≠ some '"') : scanInside ('"' :: rest) = some ([], rest) := by
  cases rest with
  | nil => rfl
  | cons c rest =>
    have hc : c ≠ '"' := by
      rintro rfl
      exact h rfl
    rw [scanInside]
    · exact if_pos rfl
    all_goals simp [hc]

/-! ## Names -/

/-- **The scan stays in step with the name**, character by character. -/
theorem scanInside_doubled (name : Text) (h : rest.head? ≠ some '"') :
    scanInside (doubled name ++ '"' :: rest) = some (name, rest) := by
  induction name with
  | nil => exact scanInside_close h
  | cons c name ih =>
    rw [doubled_cons]
    by_cases hc : c = '"'
    · subst hc
      rw [if_pos rfl, List.append_assoc, List.cons_append, List.singleton_append, scanInside_pair, ih]
      rfl
    · rw [if_neg hc, List.append_assoc, List.singleton_append, scanInside_cons hc, ih]
      rfl

/-- **A quoted identifier reads back as its name**, and what follows it is left. -/
theorem scan_quoted (name : Text) (h : rest.head? ≠ some '"') :
    scan (quoted name ++ rest) = some (name, rest) := by
  rw [quoted, List.append_assoc, List.append_assoc]
  exact scanInside_doubled name h

example : scan "\"\"\"; -- \"".toList = some ("\"; -- ".toList, []) := by decide

end Identifier

end Table

end BookDatasets

/-
  Reading back, run by run.

  1. **Runs** — what becomes of a backslash depends on the whole run it stands in, and on what ends
     this run.  `RunsHalved` is the specification: it walks over ANY value, well escaped or not, and
     says of each maximal run how many of its backslashes are left, and of every other character
     that it is kept.  It does not look at pairs.
  2. **The scanner agrees** — it takes a run pair by pair, so one backslash is left of each two.  The
     last one of an odd run is taken by a quote that follows, and stays when anything else follows
     or nothing does (`unescape_run`).
  3. **Seams** — a run is read by itself, so a value may be cut wherever the cut goes through no pair:
     behind an EVEN number of backslashes, or in front of a character that no backslash takes
     (`unescape_append`).
-/
import BookDatasets.Proofs.Field.Image

namespace BookDatasets

namespace Field

/-! ## Runs -/

/-- How many are left of a run of `n` backslashes with `next` behind it: half of them, rounded down in
front of a quote and up otherwise. -/
def leftOfRun (n : Nat) (next : Option Char) : Nat :=
  if next = some '"' then n / 2 else (n + 1) / 2

/-- The second value is the first one with each maximal run of backslashes halved, and with every
other character kept. -/
inductive RunsHalved : Text → Text → Prop where
  | nil : RunsHalved [] []
  | plain {c : Char} {rest out : Text} (hc : c ≠ '\\') (h : RunsHalved rest out) :
      RunsHalved (c :: rest) (c :: out)
  | run {n : Nat} {rest out : Text} (hn : 0 < n) (hends : rest.head? ≠ some '\\')
      (h : RunsHalved rest out) :
      RunsHalved (List.replicate n '\\' ++ rest)
        (List.replicate (leftOfRun n rest.head?) '\\' ++ out)

/-- A value begins with a maximal run, which may be empty. -/
theorem exists_run (value : Text) :
    ∃ n rest, value = List.replicate n '\\' ++ rest ∧ rest.head? ≠ some '\\' := by
  induction value with
  | nil => exact ⟨0, [], rfl, by decide⟩
  | cons c value ih =>
    by_cases hc : c = '\\'
    · obtain ⟨n, rest, rfl, hends⟩ := ih
      exact ⟨n + 1, rest, by rw [hc, List.replicate_succ, List.cons_append], hends⟩
    · refine ⟨0, c :: value, rfl, ?_⟩
      rw [List.head?_cons]
      exact fun h => hc (Option.some.inj h)

/-! ## The scanner -/

/-- A backslash with nothing behind it that it could take stays. -/
theorem unescape_lone {rest : Text} (h : ∀ c ∈ rest.head?, c ≠ '\\' ∧ c ≠ '"') :
    unescape ('\\' :: rest) = '\\' :: unescape rest := by
  cases rest with
  | nil => rfl
  | cons c rest =>
    obtain ⟨hslash, hquote⟩ := h c rfl
    exact if_neg fun hpair => hpair.2.elim hslash hquote

/-- **A run is read by itself.** -/
theorem unescape_run {rest : Text} (hends : rest.head? ≠ some '\\') :
    ∀ n, unescape (List.replicate n '\\' ++ rest)
      = List.replicate (leftOfRun n rest.head?) '\\' ++ unescape rest
  | 0 => by
    have hnone : leftOfRun 0 rest.head? = 0 := by
      rw [leftOfRun]
      split_ifs <;> rfl
    rw [hnone]
    rfl
  | 1 => by
    by_cases hquote : rest.head? = some '"'
    · -- The quote takes the backslash.
      obtain ⟨rest, rfl⟩ := List.head?_eq_some_iff.1 hquote
      show unescape ('\\' :: '"' :: rest) = unescape ('"' :: rest)
      rw [unescape_pair (Or.inr rfl), unescape_cons (by decide)]
    · have hstays : ∀ c ∈ rest.head?, c ≠ '\\' ∧ c ≠ '"' := by
        intro c hc
        rw [Option.mem_def.1 hc] at hends hquote
        exact ⟨fun h => hends (congrArg some h), fun h => hquote (congrArg some h)⟩
      rw [leftOfRun, if_neg hquote]
      exact unescape_lone hstays
  | n + 2 => by
    have hpairs : leftOfRun (n + 2) rest.head? = leftOfRun n rest.head? + 1 := by
      rw [leftOfRun, leftOfRun]
      split_ifs <;> omega
    rw [hpairs, List.replicate_succ, List.replicate_succ, List.cons_append, List.cons_append,
      unescape_pair (Or.inl rfl), unescape_run hends n, List.replicate_succ, List.cons_append]

/-- Reading back halves the runs of every value. -/
theorem runsHalved_unescape (value : Text) : RunsHalved value (unescape value) := by
  induction hlength : value.length using Nat.strong_induction_on generalizing value with
  | _ length ih =>
    obtain ⟨n, rest, rfl, hends⟩ := exists_run value
    rw [List.length_append, List.length_replicate] at hlength
    rcases Nat.eq_zero_or_pos n with rfl | hn
    · cases rest with
      | nil => exact .nil
      | cons c rest =>
        have hc : c ≠ '\\' := fun h => hends (congrArg some h)
        rw [List.length_cons] at hlength
        rw [List.replicate_zero, List.nil_append, unescape_cons hc]
        exact .plain hc (ih rest.length (by omega) rest rfl)
    · rw [unescape_run hends]
      exact .run hn hends (ih rest.length (by omega) rest rfl)

/-- **What reading back gives is halving the runs**, and nothing else is. -/
theorem runsHalved_iff {value out : Text} : RunsHalved value out ↔ out = unescape value := by
  constructor
  · intro h
    induction h with
    | nil => rfl
    | plain hc _ ih => rw [unescape_cons hc, ih]
    | run _ hends _ ih => rw [unescape_run hends, ih]
  · rintro rfl
    exact runsHalved_unescape value

/-! ## Seams -/

/-- **A value may be cut where no pair is cut.** -/
theorem unescape_append {front back : Text}
    (h : Even (slashesAtEnd front) ∨ ∀ c ∈ back.head?, c ≠ '\\' ∧ c ≠ '"') :
    unescape (front ++ back) = unescape front ++ unescape back := by
  fun_induction unescape front with
  | case1 => rfl
  | case2 c =>
    by_cases hc : c = '\\'
    · subst hc
      exact unescape_lone (h.resolve_left (by decide))
    · exact unescape_cons hc back
  | case3 c d rest hpair ih =>
    obtain ⟨rfl, hd⟩ := hpair
    rw [List.cons_append, List.cons_append, unescape_pair hd,
      ih (h.imp_left (even_slashesAtEnd_append (even_slashesAtEnd_pair hd) rest).1)]
    rfl
  | case4 c d rest hsingle ih =>
    have hkept : unescape (c :: d :: (rest ++ back)) = c :: unescape (d :: rest ++ back) :=
      if_neg hsingle
    rw [List.cons_append, List.cons_append, hkept, ih (h.imp_left ?_)]
    · rfl
    · -- The first character is no backslash, or it is one that is cut off by the second.
      intro heven
      by_cases hc : c = '\\'
      · have hd : d ≠ '\\' := fun hd => hsingle ⟨hc, Or.inl hd⟩
        have hboth : Even (slashesAtEnd [c, d]) := by
          simp [slashesAtEnd, List.rtakeWhile, hd]
        exact (even_slashesAtEnd_append (even_slashesAtEnd_plain hd) rest).2
          ((even_slashesAtEnd_append hboth rest).1 heven)
      · exact (even_slashesAtEnd_append (even_slashesAtEnd_plain hc) (d :: rest)).1 heven

/-- **Reading back acts on each run by itself.**  Of any value, well escaped or not, it leaves half of
each maximal run of backslashes, rounded down in front of a quote and up otherwise, and every other
character.  So two values are read back together as they are read back alone, whenever the first
one ends in an even number of backslashes or the second one begins with neither a backslash nor a
quote. -/
theorem unescape_by_runs :
    (∀ value out, RunsHalved value out ↔ out = unescape value)
      ∧ ∀ front back,
        (Even (slashesAtEnd front) ∨ ∀ c ∈ back.head?, c ≠ '\\' ∧ c ≠ '"') →
        unescape (front ++ back) = unescape front ++ unescape back :=
  ⟨fun _ _ => runsHalved_iff, fun _ _ => unescape_append⟩

/-- Odd and even runs, at the end, in front of a letter and in front of a quote, and bare quotes. -/
theorem unescape_of_tangled :
    RunsHalved "\"\\\\\\n\\\\\"\\\\\\\"\\".toList "\"\\\\n\\\"\\\"\\".toList
    ∧ (Even (slashesAtEnd "\\n\\\\".toList)
      ∧ unescape ("\\n\\\\".toList ++ "\"\\".toList)
        = unescape "\\n\\\\".toList ++ unescape "\"\\".toList)
    ∧ ((∀ c ∈ "n\\\"".toList.head?, c ≠ '\\' ∧ c ≠ '"')
      ∧ unescape ("\\\\\\".toList ++ "n\\\"".toList)
        = unescape "\\\\\\".toList ++ unescape "n\\\"".toList) := by
  obtain ⟨hruns, hseams⟩ := unescape_by_runs
  have heven : Even (slashesAtEnd "\\n\\\\".toList) := by decide
  have hletter : ∀ c ∈ "n\\\"".toList.head?, c ≠ '\\' ∧ c ≠ '"' := by
    intro c hc
    obtain rfl : 'n' = c := Option.some.inj hc
    decide
  refine ⟨(hruns _ _).2 ?_, ⟨heven, hseams _ _ (Or.inl heven)⟩, hletter, hseams _ _ (Or.inr hletter)⟩
  decide

end Field

end BookDatasets

/-
  What the tokens of an author column are, and what their halves are.

  1. **Specification** — `TokenAt` goes through a column from semicolon to semicolon and says which
     text is the token at an index.  `Halves` says which two texts a token falls into at its first
     comma.  Neither knows how the program cuts.
  2. **Program** — the list of tokens has at each index the token that stands there
     (`tokenAt_iff`), and the names of a token are its halves (`halves_iff`).  So an index has at
     most ONE token, and a token one pair of halves.
  3. **Names at an index** — a family name is there only when its token is; a given name is empty
     where the column has no token left.
-/
import BookDatasets.Author
import BookDatasets.Proofs.Text.Joined

namespace BookDatasets

namespace Author

/-! ## Tokens -/

/-- The text between two semicolons of a column, or between one and an end of it: the token at an
index, counted from 0. -/
inductive TokenAt : Text → Nat → Text → Prop where
  | last {token : Text} (h : ';' ∉ token) : TokenAt token 0 token
  | here {token rest : Text} (h : ';' ∉ token) : TokenAt (token ++ ';' :: rest) 0 token
  | later {skipped rest token : Text} {i : Nat} (h : ';' ∉ skipped) (hrest : TokenAt rest i token) :
      TokenAt (skipped ++ ';' :: rest) (i + 1) token

theorem tokens_of_not_mem {column : Text} (h : ';' ∉ column) : tokens column = [column] :=
  List.splitOn_eq_singleton h

/-- A semicolon cuts a column in two, whatever stands on its two sides. -/
theorem tokens_seam (front back : Text) :
    tokens (front ++ ';' :: back) = tokens front ++ tokens back :=
  List.splitOn_append_cons_self front back

theorem tokens_append {token : Text} (h : ';' ∉ token) (rest : Text) :
    tokens (token ++ ';' :: rest) = token :: tokens rest := by
  rw [tokens_seam, tokens_of_not_mem h, List.singleton_append]

/-- **The list of tokens has at each index the token that stands there**, and nothing where there is
none. -/
theorem tokenAt_iff {column token : Text} {i : Nat} :
    TokenAt column i token ↔ (tokens column)[i]? = some token := by
  constructor
  · intro h
    induction h with
    | last h =>
      rw [tokens_of_not_mem h]
      rfl
    | here h =>
      rw [tokens_append h]
      rfl
    | later h _ ih =>
      rw [tokens_append h, List.getElem?_cons_succ, ih]
  · intro h
    induction i generalizing column with
    | zero =>
      by_cases hmem : ';' ∈ column
      · obtain ⟨first, rest, rfl, hfirst⟩ := List.eq_append_cons_of_mem hmem
        rw [tokens_append hfirst, List.getElem?_cons_zero, Option.some.injEq] at h
        rw [← h]
        exact .here hfirst
      · rw [tokens_of_not_mem hmem, List.getElem?_cons_zero, Option.some.injEq] at h
        rw [← h]
        exact .last hmem
    | succ i ih =>
      by_cases hmem : ';' ∈ column
      · obtain ⟨first, rest, rfl, hfirst⟩ := List.eq_append_cons_of_mem hmem
        rw [tokens_append hfirst, List.getElem?_cons_succ] at h
        exact .later hfirst (ih h)
      · rw [tokens_of_not_mem hmem] at h
        exact nomatch h

/-! ## Halves -/

/-- What a token falls into: what stands before its first comma and what stands behind it.  A token
without a comma is the first half alone. -/
inductive Halves : Text → Text → Text → Prop where
  | whole {token : Text} (h : ',' ∉ token) : Halves token token []
  | cut {family given : Text} (h : ',' ∉ family) : Halves (family ++ ',' :: given) family given

theorem names_of_not_mem {token : Text} (h : ',' ∉ token) : names token = (token, []) := by
  have hall : ∀ c ∈ token, decide (c ≠ nameSeparator) = true := Text.passes_of_not_mem h
  rw [names, family, given, List.takeWhile_eq_self_iff.2 hall, List.dropWhile_eq_nil_iff.2 hall]
  rfl

theorem names_append {first : Text} (h : ',' ∉ first) (rest : Text) :
    names (first ++ ',' :: rest) = (first, rest) := by
  have hfamily : family (first ++ ',' :: rest) = first := Text.takeWhile_front h rest
  have hcomma : (first ++ ',' :: rest).dropWhile (· ≠ nameSeparator) = ',' :: rest :=
    Text.dropWhile_front h rest
  rw [names, hfamily, given, hcomma]
  rfl

/-- **The names of a token are its halves.** -/
theorem halves_iff {token first rest : Text} :
    Halves token first rest ↔ names token = (first, rest) := by
  constructor
  · intro h
    cases h with
    | whole h => exact names_of_not_mem h
    | cut h => exact names_append h rest
  · intro h
    by_cases hmem : ',' ∈ token
    · obtain ⟨front, back, rfl, hfront⟩ := List.eq_append_cons_of_mem hmem
      rw [names_append hfront, Prod.mk.injEq] at h
      obtain ⟨rfl, rfl⟩ := h
      exact .cut hfront
    · rw [names_of_not_mem hmem, Prod.mk.injEq] at h
      obtain ⟨rfl, rfl⟩ := h
      exact .whole hmem

/-! ## Names at an index -/

/-- The family name at an index: the first half of the token there. -/
def FamilyAt (column : Text) (i : Nat) (name : Text) : Prop :=
  ∃ token given, TokenAt column i token ∧ Halves token name given

/-- The given name at an index: the second half of the token there, and empty where no token is
left. -/
def GivenAt (column : Text) (i : Nat) (name : Text) : Prop :=
  (∃ token family, TokenAt column i token ∧ Halves token family name)
    ∨ ((∀ token, ¬ TokenAt column i token) ∧ name = [])

theorem familyAt_iff {column token : Text} {i : Nat} (h : (tokens column)[i]? = some token)
    (name : Text) : FamilyAt column i name ↔ name = family token := by
  constructor
  · rintro ⟨other, given, htoken, hhalves⟩
    rw [tokenAt_iff, h, Option.some.injEq] at htoken
    rw [htoken]
    exact (Prod.mk.inj (halves_iff.1 hhalves)).1.symm
  · rintro rfl
    exact ⟨token, given token, tokenAt_iff.2 h, halves_iff.2 rfl⟩

theorem givenAt_iff (column : Text) (i : Nat) (name : Text) :
    GivenAt column i name ↔ name = (((tokens column)[i]?).map given).getD [] := by
  rcases htokens : (tokens column)[i]? with _ | token
  · have hnone : ∀ token, ¬ TokenAt column i token := by
      intro token htoken
      rw [tokenAt_iff, htokens] at htoken
      exact nomatch htoken
    constructor
    · rintro (⟨token, _, htoken, -⟩ | ⟨-, hname⟩)
      · exact absurd htoken (hnone token)
      · exact hname
    · intro hname
      exact Or.inr ⟨hnone, hname⟩
  · have hsome : TokenAt column i token := tokenAt_iff.2 htokens
    constructor
    · rintro (⟨other, first, htoken, hhalves⟩ | ⟨hnone, -⟩)
      · rw [tokenAt_iff, htokens, Option.some.injEq] at htoken
        rw [htoken]
        exact (Prod.mk.inj (halves_iff.1 hhalves)).2.symm
      · exact absurd hsome (hnone token)
    · rintro rfl
      exact Or.inl ⟨token, family token, hsome, halves_iff.2 rfl⟩

end Author

end BookDatasets

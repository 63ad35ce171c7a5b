/-
  Splitting an author column and joining its tokens again.

  1. **Tokens** — a list is the tokens of a column exactly when it is not empty, none of its members
     holds a semicolon and joining them gives the column (`tokens_eq_iff`).  So a column has ONE
     list of tokens and such a list is the tokens of ONE column.
  2. **Halves** — two texts are the names of a token exactly when the first holds no comma and they
     are the token again: by themselves where the token has no comma, else with the comma between
     them (`names_eq_iff`).
-/
import BookDatasets.Proofs.Author

namespace BookDatasets

namespace Author

/-! ## Tokens -/

theorem tokens_ne_nil (column : Text) : tokens column ≠ [] :=
  List.splitOn_ne_nil separator column

/-- **What the tokens of a column are**: the list without semicolons that joins to it. -/
theorem tokens_eq_iff {column : Text} {parts : List Text} :
    tokens column = parts
      ↔ parts ≠ [] ∧ (∀ part ∈ parts, ';' ∉ part) ∧ Text.joined [';'] parts = column := by
  constructor
  · rintro rfl
    refine ⟨tokens_ne_nil column, ?_, List.intercalate_splitOn ';'⟩
    intro token htoken
    exact Text.not_mem_of_mem_splitOn htoken
  · rintro ⟨hne, hfree, rfl⟩
    exact List.splitOn_intercalate ';' hfree hne

/-! ## Halves -/

/-- **What the names of a token are**: the two texts, cut at its first comma, that give it back. -/
theorem names_eq_iff {token first rest : Text} :
    names token = (first, rest)
      ↔ ',' ∉ first ∧ (',' ∉ token → token = first ∧ rest = [])
          ∧ (',' ∈ token → token = first ++ ',' :: rest) := by
  constructor
  · intro h
    cases halves_iff.2 h with
    | whole hfree => exact ⟨hfree, fun _ => ⟨rfl, rfl⟩, fun hcomma => absurd hcomma hfree⟩
    | cut hfree =>
      refine ⟨hfree, fun hnone => absurd ?_ hnone, fun _ => rfl⟩
      exact List.mem_append_right first List.mem_cons_self
  · rintro ⟨hfree, hwhole, hcut⟩
    by_cases hcomma : ',' ∈ token
    · rw [hcut hcomma]
      exact names_append hfree rest
    · obtain ⟨htoken, hrest⟩ := hwhole hcomma
      rw [names_of_not_mem hcomma, htoken, hrest]

/-! ## Both ways -/

/-- **Splitting is the inverse of joining**, for columns and for names.  The tokens of a column join
to it, none of them holds a semicolon and there is one at least; and every such list is given back
by the column that it joins to, in its order, repeated and empty members included.  The two names of
a token give it back, and two texts around a comma are given back by splitting, if the first one
holds no comma. -/
theorem splitting_inverts_joining :
    (∀ column, Text.joined [';'] (tokens column) = column
        ∧ (∀ token ∈ tokens column, ';' ∉ token) ∧ tokens column ≠ [])
      ∧ (∀ parts : List Text, parts ≠ [] → (∀ part ∈ parts, ';' ∉ part) →
          tokens (Text.joined [';'] parts) = parts)
      ∧ (∀ token first rest, names token = (first, rest) →
          ',' ∉ first ∧ (',' ∉ token → token = first ∧ rest = [])
            ∧ (',' ∈ token → token = first ++ ',' :: rest))
      ∧ ∀ first rest, ',' ∉ first → names (first ++ ',' :: rest) = (first, rest) := by
  refine ⟨?_, ?_, ?_, ?_⟩
  · intro column
    obtain ⟨hne, hfree, hjoined⟩ := tokens_eq_iff.1 (Eq.refl (tokens column))
    exact ⟨hjoined, hfree, hne⟩
  · intro parts hne hfree
    exact tokens_eq_iff.2 ⟨hne, hfree, rfl⟩
  · intro token first rest h
    exact names_eq_iff.1 h
  · intro first rest h
    exact names_append h rest

/-- Authors with an empty one among them, one of them twice, and an empty one at the end. -/
def repeatedAuthors : List Text := ["Doe, J".toList, [], "Doe, J".toList, []]

theorem splitting_inverts_joining_of_repeatedAuthors :
    (repeatedAuthors ≠ [] ∧ (∀ part ∈ repeatedAuthors, ';' ∉ part)
      ∧ tokens (Text.joined [';'] repeatedAuthors) = repeatedAuthors)
    ∧ (names ",, a,".toList = ([], ", a,".toList) ∧ ',' ∈ ",, a,".toList
      ∧ ",, a,".toList = [] ++ ',' :: ", a,".toList)
    ∧ (names "Cher".toList = ("Cher".toList, []) ∧ ',' ∉ "Cher".toList
      ∧ names ("Cher".toList ++ ',' :: ",".toList) = ("Cher".toList, ",".toList)) := by
  obtain ⟨-, htokens, hnames, happend⟩ := splitting_inverts_joining
  have hne : repeatedAuthors ≠ [] := by decide
  have hfree : ∀ part ∈ repeatedAuthors, ';' ∉ part := by decide
  have hcommas : names ",, a,".toList = ([], ", a,".toList) := by decide
  have hcomma : ',' ∈ ",, a,".toList := by decide
  have hcher : ',' ∉ "Cher".toList := by decide
  exact ⟨⟨hne, hfree, htokens repeatedAuthors hne hfree⟩,
    ⟨hcommas, hcomma, (hnames _ _ _ hcommas).2.2 hcomma⟩,
    by decide, hcher, happend _ _ hcher⟩

end Author

end BookDatasets

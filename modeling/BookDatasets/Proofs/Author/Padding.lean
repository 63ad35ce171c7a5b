/-
  What may be added to an author column without a trace.

  1. **What is left** — `strippedNames` are the names of a column, token by token, stripped.
  2. **Padding** — a line feed anywhere, and a blank at an end of the column, next to a semicolon or
     next to the first comma of a token (`Padded`).  A blank next to a LATER comma stands inside a
     given name, and stays.
  3. **Line feeds** — splitting commutes with dropping them, at semicolons and at the first comma,
     so it does not matter where they stand (`strippedNames_withoutFeeds`).
  4. **Blanks** — a blank goes to the token it stands in, and there to an end of one of the two
     names.  Which token that is, the column in front tells: it ends in a token of its own
     (`exists_lastToken`), and what follows can only make that one longer.
-/
import BookDatasets.Proofs.Author.Joining
import BookDatasets.Proofs.Field.Padding

namespace BookDatasets

namespace Author

/-! ## What is left -/

/-- The two names of a token, stripped. -/
def strippedHalves (token : Text) : Text × Text :=
  (Field.strip (family token), Field.strip (given token))

/-- The names of a column, token by token, stripped. -/
def strippedNames (column : Text) : List (Text × Text) := (tokens column).map strippedHalves

theorem strippedNames_seam (front back : Text) :
    strippedNames (front ++ ';' :: back) = strippedNames front ++ strippedNames back := by
  rw [strippedNames, tokens_seam, List.map_append]
  rfl

theorem strippedHalves_of_names {token first rest : Text} (h : names token = (first, rest)) :
    strippedHalves token = (Field.strip first, Field.strip rest) := by
  obtain ⟨hfamily, hgiven⟩ := Prod.mk.inj h
  rw [strippedHalves, hfamily, hgiven]

/-! ## Padding -/

/-- The text ends inside a token that has no comma yet, so that a comma behind it is the first one of
its token. -/
inductive AwaitsComma : Text → Prop where
  | only {token : Text} (hsemicolon : ';' ∉ token) (hcomma : ',' ∉ token) : AwaitsComma token
  | behind (front : Text) {token : Text} (hsemicolon : ';' ∉ token) (hcomma : ',' ∉ token) :
      AwaitsComma (front ++ ';' :: token)

/-- An author column and the same column with one character more: a line feed anywhere, or a blank
at an end, next to a semicolon or next to the first comma of a token. -/
inductive Padded : Text → Text → Prop where
  | value {column longer : Text} (h : Field.Padded column longer) : Padded column longer
  | beforeSemicolon {c : Char} (h : isBlank c = true) (front back : Text) :
      Padded (front ++ ';' :: back) (front ++ c :: ';' :: back)
  | behindSemicolon {c : Char} (h : isBlank c = true) (front back : Text) :
      Padded (front ++ ';' :: back) (front ++ ';' :: c :: back)
  | beforeComma {c : Char} (h : isBlank c = true) {front : Text} (hfirst : AwaitsComma front)
      (back : Text) : Padded (front ++ ',' :: back) (front ++ c :: ',' :: back)
  | behindComma {c : Char} (h : isBlank c = true) {front : Text} (hfirst : AwaitsComma front)
      (back : Text) : Padded (front ++ ',' :: back) (front ++ ',' :: c :: back)

/-! ## Line feeds -/

theorem tokens_withoutFeeds (column : Text) :
    tokens (Field.withoutFeeds column) = (tokens column).map Field.withoutFeeds :=
  Text.splitOn_filter (by decide) column

theorem names_withoutFeeds (token : Text) :
    names (Field.withoutFeeds token)
      = (Field.withoutFeeds (family token), Field.withoutFeeds (given token)) := by
  have hfree : ∀ t : Text, ',' ∉ t → ',' ∉ Field.withoutFeeds t := by
    intro t ht hmem
    exact ht (List.mem_filter.1 hmem).1
  by_cases hcomma : ',' ∈ token
  · obtain ⟨first, rest, rfl, hfirst⟩ := List.eq_append_cons_of_mem hcomma
    obtain ⟨hfamily, hgiven⟩ := Prod.mk.inj (names_append hfirst rest)
    rw [Field.withoutFeeds_append, Field.withoutFeeds_cons (by decide),
      names_append (hfree first hfirst), hfamily, hgiven]
  · obtain ⟨hfamily, hgiven⟩ := Prod.mk.inj (names_of_not_mem hcomma)
    rw [names_of_not_mem (hfree token hcomma), hfamily, hgiven]
    rfl

/-- **Line feeds do not matter**, wherever they stand. -/
theorem strippedNames_withoutFeeds (column : Text) :
    strippedNames (Field.withoutFeeds column) = strippedNames column := by
  rw [strippedNames, strippedNames, tokens_withoutFeeds, List.map_map]
  apply List.map_congr_left
  intro token _
  rw [Function.comp_apply, strippedHalves_of_names (names_withoutFeeds token),
    Field.strip_withoutFeeds, Field.strip_withoutFeeds]
  rfl

/-! ## Blanks -/

theorem not_mem_concat {a c : Char} {t : Text} (h : a ∉ t) (hne : a ≠ c) : a ∉ t ++ [c] := by
  rw [List.mem_append, List.mem_singleton, not_or]
  exact ⟨h, hne⟩

theorem ne_of_isBlank {c : Char} (h : isBlank c = true) : c ≠ ';' ∧ c ≠ ',' := by
  constructor
  · rintro rfl
    exact absurd h (by decide)
  · rintro rfl
    exact absurd h (by decide)

/-- A blank in front goes to the first token. -/
theorem tokens_cons_blank {c : Char} (h : isBlank c = true) {column token : Text}
    {others : List Text} (htokens : tokens column = token :: others) :
    tokens (c :: column) = (c :: token) :: others := by
  have hfree : separator ∉ [c] := by
    rw [List.mem_singleton]
    exact (ne_of_isBlank h).1.symm
  rw [tokens] at htokens
  rw [tokens, ← List.singleton_append, Text.splitOn_append_left hfree, htokens]
  rfl

theorem strippedNames_cons_blank {c : Char} (h : isBlank c = true) (column : Text) :
    strippedNames (c :: column) = strippedNames column := by
  obtain ⟨token, others, htokens⟩ := List.exists_cons_of_ne_nil (tokens_ne_nil column)
  have hpass : decide (c ≠ nameSeparator) = true := decide_eq_true (ne_of_isBlank h).2
  have hnames : names (c :: token) = (c :: family token, given token) := by
    rw [names, family, given, List.takeWhile_cons, List.dropWhile_cons, if_pos hpass, if_pos hpass]
    rfl
  rw [strippedNames, strippedNames, tokens_cons_blank h htokens, htokens, List.map_cons,
    List.map_cons, strippedHalves_of_names hnames, (Field.Padded.front h _).strip_eq]
  rfl

/-- **A column ends in a token of its own**, which is all that can become longer when something is
put behind the column. -/
theorem exists_lastToken (column : Text) :
    ∃ before token, ';' ∉ token
      ∧ ∀ tail, strippedNames (column ++ tail) = before ++ strippedNames (token ++ tail) := by
  by_cases hmem : ';' ∈ column
  · obtain ⟨back, front, hreverse, hback⟩ :=
      List.eq_append_cons_of_mem (List.mem_reverse.2 hmem)
    have hcolumn : column = front.reverse ++ ';' :: back.reverse := by
      rw [← List.reverse_reverse column, hreverse, List.reverse_append, List.reverse_cons,
        List.append_assoc]
      rfl
    refine ⟨strippedNames front.reverse, back.reverse, mt List.mem_reverse.1 hback, ?_⟩
    intro tail
    rw [hcolumn, List.append_assoc, List.cons_append, strippedNames_seam]
  · exact ⟨[], column, hmem, fun _ => rfl⟩

/-- Where a first comma is awaited, the last token has none. -/
theorem AwaitsComma.lastToken {front : Text} (h : AwaitsComma front) :
    ∃ before token, ';' ∉ token ∧ ',' ∉ token
      ∧ ∀ tail, strippedNames (front ++ tail) = before ++ strippedNames (token ++ tail) := by
  cases h with
  | only hsemicolon hcomma => exact ⟨[], front, hsemicolon, hcomma, fun _ => rfl⟩
  | @behind front token hsemicolon hcomma =>
    refine ⟨strippedNames front, token, hsemicolon, hcomma, ?_⟩
    intro tail
    rw [List.append_assoc, List.cons_append, strippedNames_seam]

theorem strippedNames_concat_blank {c : Char} (h : isBlank c = true) (column : Text) :
    strippedNames (column ++ [c]) = strippedNames column := by
  obtain ⟨before, token, htoken, htail⟩ := exists_lastToken column
  have hlonger : ';' ∉ token ++ [c] := not_mem_concat htoken (ne_of_isBlank h).1.symm
  have hlast : strippedHalves (token ++ [c]) = strippedHalves token := by
    by_cases hcomma : ',' ∈ token
    · -- The blank stands behind the given name.
      obtain ⟨first, rest, rfl, hfirst⟩ := List.eq_append_cons_of_mem hcomma
      rw [List.append_assoc, List.cons_append, strippedHalves_of_names (names_append hfirst _),
        strippedHalves_of_names (names_append hfirst _), (Field.Padded.back h rest).strip_eq]
    · have hnone : ',' ∉ token ++ [c] := not_mem_concat hcomma (ne_of_isBlank h).2.symm
      rw [strippedHalves_of_names (names_of_not_mem hnone),
        strippedHalves_of_names (names_of_not_mem hcomma), (Field.Padded.back h token).strip_eq]
  have hcolumn := htail []
  rw [List.append_nil, List.append_nil] at hcolumn
  rw [htail, hcolumn, strippedNames, strippedNames, tokens_of_not_mem hlonger,
    tokens_of_not_mem htoken, List.map_singleton, List.map_singleton, hlast]

/-- The names on the two sides of a comma that is the first one of the first token. -/
theorem strippedNames_comma {first back token : Text} {others : List Text} (hsemicolon : ';' ∉ first)
    (hcomma : ',' ∉ first) (htokens : tokens back = token :: others) :
    strippedNames (first ++ ',' :: back)
      = (Field.strip first, Field.strip token) :: others.map strippedHalves := by
  have hfree : separator ∉ first ++ [','] := not_mem_concat hsemicolon (by decide)
  have hcut : tokens (first ++ ',' :: back) = (first ++ ',' :: token) :: others := by
    rw [tokens] at htokens
    rw [tokens, List.append_cons, Text.splitOn_append_left hfree, htokens, List.modifyHead_cons,
      ← List.append_cons]
  rw [strippedNames, hcut, List.map_cons, strippedHalves_of_names (names_append hcomma token)]

/-! ## No trace -/

/-- **Padding a column leaves no trace in its names.** -/
theorem Padded.strippedNames_eq {column longer : Text} (h : Padded column longer) :
    strippedNames longer = strippedNames column := by
  cases h with
  | value h =>
    cases h with
    | feed front back =>
      rw [← strippedNames_withoutFeeds, Field.withoutFeeds_append, Field.withoutFeeds_cons_feed,
        ← Field.withoutFeeds_append, strippedNames_withoutFeeds]
    | front h => exact strippedNames_cons_blank h column
    | back h => exact strippedNames_concat_blank h column
  | @beforeSemicolon c h front back =>
    rw [List.append_cons, strippedNames_seam, strippedNames_concat_blank h, ← strippedNames_seam]
  | behindSemicolon h front back =>
    rw [strippedNames_seam, strippedNames_cons_blank h, ← strippedNames_seam]
  | @beforeComma c h front hfirst back =>
    obtain ⟨before, token, hsemicolon, hcomma, htail⟩ := hfirst.lastToken
    obtain ⟨next, others, hnext⟩ := List.exists_cons_of_ne_nil (tokens_ne_nil back)
    have hsemicolon' : ';' ∉ token ++ [c] := not_mem_concat hsemicolon (ne_of_isBlank h).1.symm
    have hcomma' : ',' ∉ token ++ [c] := not_mem_concat hcomma (ne_of_isBlank h).2.symm
    rw [htail, htail, List.append_cons, strippedNames_comma hsemicolon' hcomma' hnext,
      strippedNames_comma hsemicolon hcomma hnext, (Field.Padded.back h token).strip_eq]
  | @behindComma c h front hfirst back =>
    obtain ⟨before, token, hsemicolon, hcomma, htail⟩ := hfirst.lastToken
    obtain ⟨next, others, hnext⟩ := List.exists_cons_of_ne_nil (tokens_ne_nil back)
    rw [htail, htail, strippedNames_comma hsemicolon hcomma (tokens_cons_blank h hnext),
      strippedNames_comma hsemicolon hcomma hnext, (Field.Padded.front h next).strip_eq]

/-! ## At an index -/

theorem FamilyAt.stripped {column name : Text} {i : Nat} (h : FamilyAt column i name) :
    (strippedNames column)[i]?.map Prod.fst = some (Field.strip name) := by
  obtain ⟨token, given, htoken, hhalves⟩ := h
  rw [strippedNames, List.getElem?_map, tokenAt_iff.1 htoken, Option.map_some,
    strippedHalves_of_names (halves_iff.1 hhalves)]
  rfl

theorem GivenAt.stripped {column name : Text} {i : Nat} (h : GivenAt column i name) :
    ((strippedNames column)[i]?.map Prod.snd).getD [] = Field.strip name := by
  rw [givenAt_iff] at h
  rw [h, strippedNames, List.getElem?_map]
  cases (tokens column)[i]? with
  | none => rfl
  | some token => rfl

end Author

end BookDatasets

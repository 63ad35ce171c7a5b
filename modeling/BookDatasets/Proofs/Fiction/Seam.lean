/-
  Rows whose author lists are joined.

  1. **Two lists in step** — where the first parts of two lists are equally long, walking them in
     step comes to both seams AT ONCE.  What follows may run out on either side as it likes.
  2. **Rows** — so a row whose sources are both joined of two has the records of the first two
     sources and then those of the second two, if there are as many semicolons in the one first
     source as in the other.  Without that the given names behind the seam go to other authors.
  3. **One column** — where both sources are the same column there is nothing to ask for, and a
     column that is joined of any number of columns has the records of each in turn.
-/
import BookDatasets.Proofs.Author.Joining
import BookDatasets.Proofs.Fiction.Record

namespace BookDatasets

namespace Fiction

/-! ## Two lists in step -/

/-- **Both seams at once.** -/
theorem explodeTokens_append (details : Details) {tokens others : List Text}
    (h : tokens.length = others.length) (tokens' others' : List Text) :
    explodeTokens details (tokens ++ tokens') (others ++ others')
      = explodeTokens details tokens others ++ explodeTokens details tokens' others' := by
  induction tokens, others using explodeTokens.induct with
  | case1 others =>
    -- No family token, so no given token either: this is the seam.
    rw [List.eq_nil_of_length_eq_zero h.symm]
    rfl
  | case2 token tokens ih => exact absurd h (Nat.succ_ne_zero tokens.length)
  | case3 token tokens other others ih =>
    rw [List.cons_append, List.cons_append, explodeTokens, explodeTokens, ih (Nat.succ.inj h)]
    rfl

/-! ## Rows -/

theorem explode_seam {family given : Text} (h : family.count ';' = given.count ';')
    (family' given' : Text) (details : Details) :
    (Row.mk (family ++ ';' :: family') (given ++ ';' :: given') details).explode
      = (Row.mk family given details).explode ++ (Row.mk family' given' details).explode := by
  have hlength : (Author.tokens family).length = (Author.tokens given).length := by
    rw [length_tokens, length_tokens, Author.separator, h]
  rw [Row.explode, Author.tokens_seam, Author.tokens_seam]
  exact explodeTokens_append details hlength _ _

/-! ## One column -/

namespace Entry

/-- The row of a query with another author column. -/
def authored (e : Entry) (authors : Text) : Entry := { e with author := some authors }

theorem records_seam (e : Entry) (front back : Text) :
    (e.authored (front ++ ';' :: back)).records
      = (e.authored front).records ++ (e.authored back).records :=
  explode_seam (Eq.refl (front.count ';')) back back e.details

/-- An author column that is joined of columns has the records of each, in order. -/
theorem records_joined (e : Entry) {columns : List Text} (h : columns ≠ []) :
    (e.authored (Text.joined [';'] columns)).records
      = columns.flatMap fun column => (e.authored column).records := by
  induction columns with
  | nil => exact absurd rfl h
  | cons column columns ih =>
    by_cases hempty : columns = []
    · subst hempty
      rw [Text.joined_singleton, List.flatMap_singleton]
    · rw [Text.joined_cons column hempty, records_seam, ih hempty, List.flatMap_cons]

end Entry

/-! ## Both -/

/-- **Explosion distributes over joined author lists.**  The records of a row whose sources are both
joined of two are those of the first two and then those of the second two, if the first two hold the
same number of semicolons.  A row of the query has one author column for both sources, so its
records are those of the two columns that it is joined of, and of any number of columns. -/
theorem explode_distributes :
    (∀ (family family' given given' : Text) (details : Details),
        family.count ';' = given.count ';' →
          (Row.mk (family ++ ';' :: family') (given ++ ';' :: given') details).explode
            = (Row.mk family given details).explode ++ (Row.mk family' given' details).explode)
      ∧ (∀ (e : Entry) (front back : Text),
          (Row.ofColumns (e.authored (front ++ ';' :: back)).columns).explode
            = (Row.ofColumns (e.authored front).columns).explode
              ++ (Row.ofColumns (e.authored back).columns).explode)
      ∧ ∀ (e : Entry) (columns : List Text), columns ≠ [] →
          (Row.ofColumns (e.authored (Text.joined [';'] columns)).columns).explode
            = columns.flatMap fun column => (Row.ofColumns (e.authored column).columns).explode := by
  refine ⟨?_, ?_, ?_⟩
  · intro family family' given given' details h
    exact explode_seam h family' given' details
  · intro e front back
    exact e.records_seam front back
  · intro e columns h
    exact e.records_joined h

/-- An entry with details to normalize.  Its own author column plays no part. -/
def annotated : Entry :=
  ⟨some "X, x".toList, some "en".toList, none, none, some " \"T\"\n".toList, none, some []⟩

/-- Three author columns, the first of them empty. -/
def threeColumns : List Text := [[], "A, a;".toList, ",".toList]

theorem explode_distributes_over_annotated :
    ("A, a;".toList.count ';' = "x;, \"y\" ".toList.count ';'
      ∧ (Row.mk ("A, a;".toList ++ ';' :: "B;C, c".toList)
          ("x;, \"y\" ".toList ++ ';' :: ", z".toList) annotated.details).explode
        = (Row.mk "A, a;".toList "x;, \"y\" ".toList annotated.details).explode
          ++ (Row.mk "B;C, c".toList ", z".toList annotated.details).explode)
    ∧ (threeColumns ≠ []
      ∧ (Row.ofColumns (annotated.authored (Text.joined [';'] threeColumns)).columns).explode
        = threeColumns.flatMap fun column =>
            (Row.ofColumns (annotated.authored column).columns).explode) := by
  obtain ⟨hrows, -, hcolumns⟩ := explode_distributes
  have hcount : "A, a;".toList.count ';' = "x;, \"y\" ".toList.count ';' := by decide
  have hne : threeColumns ≠ [] := List.cons_ne_nil _ _
  exact ⟨⟨hcount, hrows _ _ _ _ _ hcount⟩, hne, hcolumns annotated _ hne⟩

/-- With a given token too many in front of the seam, the names behind it go wrong. -/
example :
    (Row.mk "A;B".toList "A, a;Z;B, b".toList ⟨[], [], [], [], [], []⟩).explode
      ≠ (Row.mk "A".toList "A, a;Z".toList ⟨[], [], [], [], [], []⟩).explode
        ++ (Row.mk "B".toList "B, b".toList ⟨[], [], [], [], [], []⟩).explode := by decide

end Fiction

end BookDatasets

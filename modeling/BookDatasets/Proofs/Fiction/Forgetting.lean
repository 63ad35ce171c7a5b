/-
  What explosion forgets of a row.

  1. **Specification** — two rows say the same (`SaysSame`) when their family sources have equally
     many tokens, the names at each of these indices differ by nothing but line feeds and blanks at
     an end, and so do the six details.  The names are those of `Author.FamilyAt` and
     `Author.GivenAt`; given tokens past the last family token say nothing.
  2. **The kernel** — two rows have the same records exactly when they say the same.  A record keeps
     all that stripping leaves of a name or a detail (`Record.normalized_eq_iff`), and each index
     has its record (`exists_names`).
  3. **Padding** — one character more in an author source or in each of some details, at a place
     where it is forgotten (`Row.Padded`), leaves a row that says the same (`Row.Padded.saysSame`).
     So any number of such steps leaves the records as they are.
-/
import BookDatasets.Proofs.Author.Padding
import BookDatasets.Proofs.Fiction.Explosion
import Mathlib.Logic.Relation

namespace BookDatasets

namespace Fiction

variable {row row' : Row} {i : Nat}

/-! ## Specification -/

/-- Two rows say the same: they have equally many author tokens, and of each name and each detail
the same is left when line feeds are dropped and then blanks at the ends. -/
structure SaysSame (row row' : Row) : Prop where
  tokens : row.familySource.count ';' = row'.familySource.count ';'
  family : ∀ i < 1 + row.familySource.count ';', ∃ name name',
    Author.FamilyAt row.familySource i name ∧ Author.FamilyAt row'.familySource i name'
      ∧ Field.strip name = Field.strip name'
  given : ∀ i < 1 + row.familySource.count ';', ∃ name name',
    Author.GivenAt row.givenSource i name ∧ Author.GivenAt row'.givenSource i name'
      ∧ Field.strip name = Field.strip name'
  details : row.details.toList.map Field.strip = row'.details.toList.map Field.strip

/-! ## The kernel -/

theorem Details.map_normalize_eq_iff {d d' : Details} :
    d.map Field.normalize = d'.map Field.normalize
      ↔ d.toList.map Field.strip = d'.toList.map Field.strip := by
  simp only [Details.map, Details.toList, Details.mk.injEq, List.map_cons, List.map_nil,
    List.cons.injEq, Field.normalize_eq_iff, and_true]

/-- **A record keeps what stripping leaves** of its names and details. -/
theorem Record.normalized_eq_iff {family family' given given' : Text} {d d' : Details} :
    Record.normalized family given d = Record.normalized family' given' d'
      ↔ Field.strip family = Field.strip family' ∧ Field.strip given = Field.strip given'
        ∧ d.toList.map Field.strip = d'.toList.map Field.strip := by
  rw [Record.normalized, Record.normalized, Record.mk.injEq, Field.normalize_eq_iff,
    Field.normalize_eq_iff, Details.map_normalize_eq_iff]

/-- The record at an index, made of the only names that stand there. -/
theorem exists_names (h : i < 1 + row.familySource.count ';') :
    ∃ family given, (∀ name, Author.FamilyAt row.familySource i name ↔ name = family)
      ∧ (∀ name, Author.GivenAt row.givenSource i name ↔ name = given)
      ∧ row.explode[i]? = some (Record.normalized family given row.details) := by
  obtain ⟨token, htoken, hrecord⟩ := exists_record h
  exact ⟨_, _, Author.familyAt_iff htoken, Author.givenAt_iff row.givenSource i, hrecord⟩

/-- Two rows with equally many family tokens have names and records at the same indices. -/
theorem exists_names_both (htokens : row.familySource.count ';' = row'.familySource.count ';')
    (h : i < 1 + row.familySource.count ';') :
    ∃ family family' given given',
      Author.FamilyAt row.familySource i family ∧ Author.FamilyAt row'.familySource i family'
        ∧ Author.GivenAt row.givenSource i given ∧ Author.GivenAt row'.givenSource i given'
        ∧ row.explode[i]? = some (Record.normalized family given row.details)
        ∧ row'.explode[i]? = some (Record.normalized family' given' row'.details) := by
  obtain ⟨family, given, hfamily, hgiven, hrecord⟩ := exists_names h
  rw [htokens] at h
  obtain ⟨family', given', hfamily', hgiven', hrecord'⟩ := exists_names h
  exact ⟨family, family', given, given', (hfamily _).2 rfl, (hfamily' _).2 rfl, (hgiven _).2 rfl,
    (hgiven' _).2 rfl, hrecord, hrecord'⟩

/-- Rows with the same records say the same. -/
theorem saysSame_of_explode (h : row.explode = row'.explode) : SaysSame row row' := by
  have htokens : row.familySource.count ';' = row'.familySource.count ';' := by
    have hlength := congrArg List.length h
    rw [length_explode, length_explode] at hlength
    exact Nat.add_left_cancel hlength
  refine ⟨htokens, ?_, ?_, ?_⟩
  · intro i hi
    obtain ⟨family, family', _, _, hfamily, hfamily', -, -, hrecord, hrecord'⟩ :=
      exists_names_both htokens hi
    rw [h, hrecord', Option.some.injEq, Record.normalized_eq_iff] at hrecord
    exact ⟨family, family', hfamily, hfamily', hrecord.1.symm⟩
  · intro i hi
    obtain ⟨_, _, given, given', -, -, hgiven, hgiven', hrecord, hrecord'⟩ :=
      exists_names_both htokens hi
    rw [h, hrecord', Option.some.injEq, Record.normalized_eq_iff] at hrecord
    exact ⟨given, given', hgiven, hgiven', hrecord.2.1.symm⟩
  · -- A row has at least one record, which tells the details.
    have hfirst : 0 < 1 + row.familySource.count ';' := by omega
    obtain ⟨_, _, _, _, -, -, -, -, hrecord, hrecord'⟩ := exists_names_both htokens hfirst
    rw [h, hrecord', Option.some.injEq, Record.normalized_eq_iff] at hrecord
    exact hrecord.2.2.symm

/-- Rows that say the same have the same records. -/
theorem SaysSame.explode_eq (h : SaysSame row row') : row.explode = row'.explode := by
  apply List.ext_getElem?
  intro i
  rcases Nat.lt_or_ge i (1 + row.familySource.count ';') with hi | hi
  · obtain ⟨family, given, hfamily, hgiven, hrecord⟩ := exists_names hi
    have hi' : i < 1 + row'.familySource.count ';' := by
      rw [← h.tokens]
      exact hi
    obtain ⟨family', given', hfamily', hgiven', hrecord'⟩ := exists_names hi'
    obtain ⟨name, name', hname, hname', hfamilies⟩ := h.family i hi
    rw [hfamily] at hname
    rw [hfamily'] at hname'
    obtain ⟨rest, rest', hrest, hrest', hgivens⟩ := h.given i hi
    rw [hgiven] at hrest
    rw [hgiven'] at hrest'
    subst hname hname' hrest hrest'
    rw [hrecord, hrecord', Record.normalized_eq_iff.2 ⟨hfamilies, hgivens, h.details⟩]
  · have hi' : 1 + row'.familySource.count ';' ≤ i := by
      rw [← h.tokens]
      exact hi
    rw [List.getElem?_eq_none (by rwa [length_explode]),
      List.getElem?_eq_none (by rwa [length_explode])]

/-! ## Padding -/

/-- A row and the same row with one character more in an author source, or in each of some
details. -/
inductive Row.Padded : Row → Row → Prop where
  | family {family family' : Text} (h : Author.Padded family family') (given : Text) (d : Details) :
      Padded ⟨family, given, d⟩ ⟨family', given, d⟩
  | given (family : Text) {given given' : Text} (h : Author.Padded given given') (d : Details) :
      Padded ⟨family, given, d⟩ ⟨family, given', d⟩
  | details (family given : Text) {d d' : Details}
      (h : List.Forall₂ (Relation.ReflGen Field.Padded) d.toList d'.toList) :
      Padded ⟨family, given, d⟩ ⟨family, given, d'⟩

theorem length_strippedNames (column : Text) :
    (Author.strippedNames column).length = 1 + column.count ';' := by
  rw [Author.strippedNames, List.length_map, length_tokens]
  rfl

/-- Rows of which the same stripped names and details are left say the same. -/
theorem saysSame_of_stripped
    (hfamily : Author.strippedNames row.familySource = Author.strippedNames row'.familySource)
    (hgiven : Author.strippedNames row.givenSource = Author.strippedNames row'.givenSource)
    (hdetails : row.details.toList.map Field.strip = row'.details.toList.map Field.strip) :
    SaysSame row row' := by
  have htokens : row.familySource.count ';' = row'.familySource.count ';' := by
    have hlength := congrArg List.length hfamily
    rw [length_strippedNames, length_strippedNames] at hlength
    exact Nat.add_left_cancel hlength
  refine ⟨htokens, ?_, ?_, hdetails⟩
  · intro i hi
    obtain ⟨name, name', _, _, hname, hname', -, -, -, -⟩ := exists_names_both htokens hi
    have hsome := hname.stripped
    rw [hfamily, hname'.stripped] at hsome
    exact ⟨name, name', hname, hname', (Option.some.inj hsome).symm⟩
  · intro i hi
    obtain ⟨_, _, name, name', -, -, hname, hname', -, -⟩ := exists_names_both htokens hi
    refine ⟨name, name', hname, hname', ?_⟩
    rw [← hname.stripped, ← hname'.stripped, hgiven]

/-- Details that are padded, or left as they are, say the same. -/
theorem map_strip_of_padded {values longer : List Text}
    (h : List.Forall₂ (Relation.ReflGen Field.Padded) values longer) :
    values.map Field.strip = longer.map Field.strip := by
  induction h with
  | nil => rfl
  | cons hvalue _ ih =>
    rw [List.map_cons, List.map_cons, ih]
    cases hvalue with
    | refl => rfl
    | single hpadded => rw [hpadded.strip_eq]

/-- **A row that is padded says the same.** -/
theorem Row.Padded.saysSame (h : Row.Padded row row') : SaysSame row row' := by
  cases h with
  | family h given d => exact saysSame_of_stripped h.strippedNames_eq.symm rfl rfl
  | given family h d => exact saysSame_of_stripped rfl h.strippedNames_eq.symm rfl
  | details family given h => exact saysSame_of_stripped rfl rfl (map_strip_of_padded h)

/-! ## Both ways -/

/-- **Explosion forgets line feeds and blanks at an end, and nothing else.**  Two rows have the same
records exactly when their family sources have equally many tokens and the names at each index and
the details are the same once they are stripped.  So padding a row, any number of times, does not
change its records: line feeds anywhere, blanks next to a semicolon or to the first comma of a token
of an author source, and blanks at the ends of every column. -/
theorem explode_forgets (row row' : Row) :
    (row.explode = row'.explode ↔ SaysSame row row')
      ∧ (Relation.ReflTransGen Row.Padded row row' → row.explode = row'.explode) := by
  refine ⟨⟨saysSame_of_explode, SaysSame.explode_eq⟩, ?_⟩
  intro h
  induction h with
  | refl => rfl
  | tail _ hstep ih => exact ih.trans hstep.saysSame.explode_eq

/-- A row without padding. -/
def tight : Row :=
  ⟨"Doe,J;\"Roe\",R, x".toList, "Doe,J;\"Roe\",R, x".toList,
    ⟨"en".toList, [], [], "The T\\".toList, [], []⟩⟩

/-- The same row, padded once in each author source and in two details. -/
def loose : Row :=
  ⟨"Doe,J;\"Roe\"\t,R, x".toList, "Doe,J; \"Roe\",R, x".toList,
    ⟨"en\u3000".toList, [], [], "The\n T\\".toList, [], []⟩⟩

theorem explode_forgets_padding_of_loose :
    Relation.ReflTransGen Row.Padded tight loose ∧ tight.explode = loose.explode := by
  have hfamily : Author.Padded tight.familySource loose.familySource :=
    .beforeComma (by decide)
      (@Author.AwaitsComma.behind "Doe,J".toList "\"Roe\"".toList (by decide) (by decide))
      "R, x".toList
  have hgiven : Author.Padded tight.givenSource loose.givenSource :=
    .behindSemicolon (by decide) "Doe,J".toList "\"Roe\",R, x".toList
  have hdetails : List.Forall₂ (Relation.ReflGen Field.Padded) tight.details.toList
      loose.details.toList :=
    .cons (.single (.back (by decide) "en".toList)) (.cons .refl (.cons .refl
      (.cons (.single (.feed "The".toList " T\\".toList)) (.cons .refl (.cons .refl .nil)))))
  have hsteps : Relation.ReflTransGen Row.Padded tight loose :=
    ((Relation.ReflTransGen.single (.family hfamily _ _)).tail (.given _ hgiven _)).tail
      (.details _ _ hdetails)
  exact ⟨hsteps, (explode_forgets tight loose).2 hsteps⟩

/-- A blank next to a later comma is kept. -/
example :
    (Row.mk "A, b, c".toList "A, b, c".toList ⟨[], [], [], [], [], []⟩).explode
      ≠ (Row.mk "A, b , c".toList "A, b , c".toList ⟨[], [], [], [], [], []⟩).explode := by decide

end Fiction

end BookDatasets

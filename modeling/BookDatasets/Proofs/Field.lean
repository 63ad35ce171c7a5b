/-
  Normalized fields and what they still say.

  1. **What is lost** — `strip` is a value without its line feeds, trimmed.
  2. **Normalizing is stripping, then escaping** (`normalize_eq`).  The program escapes first; both
     orders agree because escaping respects blanks (`trim_flatMap`).
  3. **Reading back** — `unescape` undoes escaping, line feeds apart, so a normalized value says
     exactly what stripping left of it (`unescape_normalize`).
  4. **Shape** — `IsBody` is what may stand between two quotes.  Every normalized value is a body,
     and where a body ends in a text is never in doubt (`IsBody.append_quote_inj`).
-/
import BookDatasets.Field
import BookDatasets.Proofs.Text.Blank

namespace BookDatasets

namespace Field

/-! ## What is lost -/

/-- The value without its line feeds. -/
def withoutFeeds (raw : Text) : Text := raw.filter (· ≠ '\n')

/-- The value without its line feeds, trimmed. -/
def strip (raw : Text) : Text := trim (withoutFeeds raw)

theorem mem_strip {raw : Text} {c : Char} (h : c ∈ strip raw) : c ≠ '\n' := by
  have hmem : c ∈ withoutFeeds raw := (trim_sublist _).subset h
  exact of_decide_eq_true (List.mem_filter.1 hmem).2

/-! ## Escaping -/

/-- What one character becomes, in three cases. -/
theorem escapeChar_cases (c : Char) :
    (c = '\n' ∧ escapeChar c = [])
    ∨ ((c = '\\' ∨ c = '"') ∧ escapeChar c = ['\\', c])
    ∨ ((c ≠ '\n' ∧ c ≠ '\\' ∧ c ≠ '"') ∧ escapeChar c = [c]) := by
  by_cases hfeed : c = '\n'
  · subst hfeed
    exact Or.inl ⟨rfl, rfl⟩
  · by_cases hslash : c = '\\'
    · subst hslash
      exact Or.inr (Or.inl ⟨Or.inl rfl, rfl⟩)
    · by_cases hquote : c = '"'
      · subst hquote
        exact Or.inr (Or.inl ⟨Or.inr rfl, rfl⟩)
      · refine Or.inr (Or.inr ⟨⟨hfeed, hslash, hquote⟩, ?_⟩)
        rw [escapeChar, if_neg hfeed, if_neg hslash, if_neg hquote]

theorem escape_cons (c : Char) (raw : Text) : escape (c :: raw) = escapeChar c ++ escape raw :=
  List.flatMap_cons

/-- Line feeds vanish, so it does not matter when they are dropped. -/
theorem escape_withoutFeeds (raw : Text) : escape (withoutFeeds raw) = escape raw := by
  induction raw with
  | nil => rfl
  | cons c raw ih =>
    by_cases hfeed : c = '\n'
    · subst hfeed
      exact ih
    · have hkeep : withoutFeeds (c :: raw) = c :: withoutFeeds raw :=
        List.filter_cons_of_pos (decide_eq_true hfeed)
      rw [hkeep, escape_cons, escape_cons, ih]

/-- **Escaping respects blanks**: it may be done before or after trimming. -/
theorem trim_escape (raw : Text) : trim (escape raw) = escape (trim raw) := by
  have hspecial : ∀ c, c = '\\' ∨ c = '"' → isBlank c = false := by
    rintro c (rfl | rfl) <;> decide
  apply trim_flatMap
  · -- A blank vanishes or stays, for neither character that is escaped is blank.
    intro c hc
    rcases escapeChar_cases c with ⟨-, h⟩ | ⟨hs, -⟩ | ⟨-, h⟩
    · rw [h]
      rfl
    · rw [hspecial c hs] at hc
      exact nomatch hc
    · rw [h, List.all_cons, hc]
      rfl
  · intro c hc
    rcases escapeChar_cases c with ⟨rfl, -⟩ | ⟨-, h⟩ | ⟨-, h⟩
    · exact absurd hc (by decide)
    · exact ⟨'\\', by rw [h]; rfl, by decide⟩
    · exact ⟨c, by rw [h]; rfl, hc⟩
  · intro c hc
    rcases escapeChar_cases c with ⟨rfl, -⟩ | ⟨-, h⟩ | ⟨-, h⟩
    · exact absurd hc (by decide)
    · exact ⟨c, by rw [h]; rfl, hc⟩
    · exact ⟨c, by rw [h]; rfl, hc⟩

/-- The shortcut for a value that trimming does not change answers the same. -/
theorem normalize_eq_trim (raw : Text) : normalize raw = trim (escape raw) := by
  show (if (trim (escape raw)).length = (escape raw).length then escape raw
    else trim (escape raw)) = trim (escape raw)
  split_ifs with h
  · exact (trim_of_length_eq h).symm
  · rfl

/-- **Normalizing is stripping, then escaping.** -/
theorem normalize_eq (raw : Text) : normalize raw = escape (strip raw) := by
  rw [normalize_eq_trim, ← escape_withoutFeeds, trim_escape]
  rfl

/-! ## Reading back -/

/-- A character other than a backslash stays. -/
theorem unescape_cons {c : Char} (h : c ≠ '\\') (rest : Text) :
    unescape (c :: rest) = c :: unescape rest := by
  cases rest with
  | nil => rfl
  | cons d rest => exact if_neg fun hpair => h hpair.1

/-- A backslash before a backslash or a quote is dropped, and what follows it is kept. -/
theorem unescape_pair {c : Char} (h : c = '\\' ∨ c = '"') (rest : Text) :
    unescape ('\\' :: c :: rest) = c :: unescape rest :=
  if_pos ⟨rfl, h⟩

/-- **Reading back undoes escaping**, line feeds apart. -/
theorem unescape_escape {raw : Text} (h : ∀ c ∈ raw, c ≠ '\n') : unescape (escape raw) = raw := by
  induction raw with
  | nil => rfl
  | cons c raw ih =>
    obtain ⟨hc, hraw⟩ := List.forall_mem_cons.1 h
    rw [escape_cons]
    rcases escapeChar_cases c with ⟨hfeed, -⟩ | ⟨hs, hesc⟩ | ⟨⟨-, hslash, -⟩, hesc⟩
    · exact absurd hfeed hc
    · rw [hesc, List.cons_append, List.cons_append, List.nil_append, unescape_pair hs, ih hraw]
    · rw [hesc, List.cons_append, List.nil_append, unescape_cons hslash, ih hraw]

/-- **A normalized value says what stripping left of it.** -/
theorem unescape_normalize (raw : Text) : unescape (normalize raw) = strip raw := by
  rw [normalize_eq]
  exact unescape_escape fun _ => mem_strip

/-! ## Shape -/

/-- What may stand between two quotes: characters other than a backslash, a quote and a line feed,
and pairs of a backslash and a backslash or a quote. -/
inductive IsBody : Text → Prop where
  | nil : IsBody []
  | plain {c : Char} {rest : Text} (hc : c ≠ '\n' ∧ c ≠ '\\' ∧ c ≠ '"') (h : IsBody rest) :
      IsBody (c :: rest)
  | pair {c : Char} {rest : Text} (hc : c = '\\' ∨ c = '"') (h : IsBody rest) :
      IsBody ('\\' :: c :: rest)

theorem isBody_escape (raw : Text) : IsBody (escape raw) := by
  induction raw with
  | nil => exact .nil
  | cons c raw ih =>
    rw [escape_cons]
    rcases escapeChar_cases c with ⟨-, h⟩ | ⟨hs, h⟩ | ⟨hp, h⟩
    · rw [h]
      exact ih
    · rw [h]
      exact .pair hs ih
    · rw [h]
      exact .plain hp ih

/-- **Every normalized value is a body.** -/
theorem isBody_normalize (raw : Text) : IsBody (normalize raw) := by
  rw [normalize_eq]
  exact isBody_escape _

/-- A body holds no line feed. -/
theorem IsBody.lineFeed_not_mem {body : Text} (h : IsBody body) : '\n' ∉ body := by
  induction h with
  | nil => exact List.not_mem_nil
  | plain hc _ ih =>
    rw [List.mem_cons]
    rintro (heq | hmem)
    · exact hc.1 heq.symm
    · exact ih hmem
  | pair hc _ ih =>
    rw [List.mem_cons, List.mem_cons]
    rintro (heq | heq | hmem)
    · exact absurd heq (by decide)
    · rcases hc with rfl | rfl <;> exact absurd heq (by decide)
    · exact ih hmem

/-- **Where a body ends is never in doubt**: the first quote that no backslash takes ends it. -/
theorem IsBody.append_quote_inj {a b rest rest' : Text} (ha : IsBody a) (hb : IsBody b)
    (h : a ++ '"' :: rest = b ++ '"' :: rest') : a = b ∧ rest = rest' := by
  -- The first character tells how the body begins, so both must begin in the same way.
  induction ha generalizing b with
  | nil =>
    cases hb with
    | nil => exact ⟨rfl, (List.cons.inj h).2⟩
    | plain hc _ => exact absurd (List.cons.inj h).1.symm hc.2.2
    | pair _ _ => exact absurd (List.cons.inj h).1 (by decide)
  | plain hc _ ih =>
    cases hb with
    | nil => exact absurd (List.cons.inj h).1 hc.2.2
    | plain _ hb =>
      obtain ⟨rfl, htail⟩ := List.cons.inj h
      obtain ⟨rfl, hrest⟩ := ih hb htail
      exact ⟨rfl, hrest⟩
    | pair _ _ => exact absurd (List.cons.inj h).1 hc.2.1
  | pair _ _ ih =>
    cases hb with
    | nil => exact absurd (List.cons.inj h).1 (by decide)
    | plain hc _ => exact absurd (List.cons.inj h).1.symm hc.2.1
    | pair _ hb =>
      simp only [List.cons_append, List.cons.injEq, true_and] at h
      obtain ⟨rfl, htail⟩ := h
      obtain ⟨rfl, hrest⟩ := ih hb htail
      exact ⟨rfl, hrest⟩

end Field

end BookDatasets

/-
  Beginnings of a listing.

  A listing may be looked at before it is over.  `behind` is the reader that then stands there, and
  `ended` are the rows that have got their row ending; a row that is still open is none of them.

  1. **What an octet can do** (`step_cases`) — it is skipped before a row, or it ends the open row,
     or the reader goes on in the row.  Everything about line numbers and about where rows begin is
     read off these three cases; how a field is put together plays no part.
  2. **Invariants of a run** — before a row nothing of a row is read; the line number counts the
     line feeds; the number of the open row stays what it was when the row before it ended.
  3. **The byte order mark** — it is left out of a beginning exactly as of the whole, unless the
     beginning is no more than a part of the mark.
-/
import BookDatasets.Proofs.Listing.Spelling

namespace BookDatasets

namespace Listing

namespace Reader

/-! ## What an octet can do -/

@[simp] theorem place_countLine (r : Reader) (b : UInt8) : (r.countLine b).place = r.place := by
  rw [countLine]
  split_ifs <;> rfl

@[simp] theorem rowLine_countLine (r : Reader) (b : UInt8) :
    (r.countLine b).rowLine = r.rowLine := by
  rw [countLine]
  split_ifs <;> rfl

theorem line_countLine (r : Reader) (b : UInt8) :
    (r.countLine b).line = r.line + [b].count lineFeed := by
  rw [countLine, List.count_singleton]
  by_cases hfeed : b = lineFeed
  · rw [if_pos hfeed, if_pos (beq_iff_eq.2 hfeed)]
  · rw [if_neg hfeed, if_neg (fun heq => hfeed (beq_iff_eq.1 heq))]
    rfl

/-- The reader `next` has gone on in a row: the line numbers are as they were. -/
structure GoesOn (r next : Reader) : Prop where
  opened : next.place ≠ .rowStart
  line : next.line = r.line
  rowLine : next.rowLine = r.rowLine

theorem goesOn_place (r : Reader) {place : Place} (h : place ≠ .rowStart) :
    r.GoesOn { r with place := place } :=
  ⟨h, rfl, rfl⟩

theorem goesOn_keep (r : Reader) {place : Place} (b : UInt8) (h : place ≠ .rowStart) :
    r.GoesOn (r.keep place b) :=
  ⟨h, rfl, rfl⟩

theorem goesOn_endField (r : Reader) : r.GoesOn r.endField :=
  ⟨by rintro ⟨⟩, rfl, rfl⟩

/-- Where a field begins a row ending ends the row, and nothing else does. -/
theorem beginField_cases (r : Reader) (b : UInt8) :
    (endsRow b = true ∧ r.beginField b = r.endRow)
      ∨ (endsRow b = false ∧ ∃ next, r.beginField b = (next, none) ∧ r.GoesOn next) := by
  rw [beginField]
  split_ifs with hquote hcomma hends
  · exact Or.inr ⟨by rw [hquote]; rfl, _, rfl, r.goesOn_place (by rintro ⟨⟩)⟩
  · exact Or.inr ⟨by rw [hcomma]; rfl, _, rfl, r.goesOn_endField⟩
  · exact Or.inl ⟨hends, rfl⟩
  · exact Or.inr ⟨Bool.eq_false_iff.2 hends, _, rfl, r.goesOn_keep b (by rintro ⟨⟩)⟩

/-- The three things that taking an octet can be. -/
theorem take_cases (r : Reader) (b : UInt8) :
    (r.place = .rowStart ∧ endsRow b = true ∧ r.take b = (r, none))
      ∨ (r.HasRow ∧ endsRow b = true ∧ r.take b = r.endRow)
      ∨ ((r.place = .quoted ∨ endsRow b = false)
        ∧ ∃ next, r.take b = (next, none) ∧ r.GoesOn next) := by
  have hcomma : endsRow comma = false := rfl
  have hquote : endsRow quote = false := rfl
  have hplain : endsRow b ≠ true → endsRow b = false := Bool.eq_false_iff.2
  rcases hplace : r.place with _ | _ | _ | _ | _ <;> rw [take, hplace] <;> dsimp only
  case rowStart =>
    split_ifs with hends
    · exact Or.inl ⟨rfl, hends, rfl⟩
    · rcases r.beginField_cases b with ⟨hends', -⟩ | ⟨hends', hon⟩
      · exact absurd hends' hends
      · exact Or.inr (Or.inr ⟨Or.inr hends', hon⟩)
  case fieldStart =>
    rcases r.beginField_cases b with ⟨hends, hrow⟩ | ⟨hends, hon⟩
    · exact Or.inr (Or.inl ⟨Or.inl hplace, hends, hrow⟩)
    · exact Or.inr (Or.inr ⟨Or.inr hends, hon⟩)
  case bare =>
    split_ifs with hb hends
    · exact Or.inr (Or.inr ⟨Or.inr (hb ▸ hcomma), _, rfl, r.goesOn_endField⟩)
    · exact Or.inr (Or.inl ⟨Or.inr (Or.inl hplace), hends, rfl⟩)
    · exact Or.inr (Or.inr ⟨Or.inr (hplain hends), _, rfl, r.goesOn_keep b (by rintro ⟨⟩)⟩)
  case quoted =>
    split_ifs with hb
    · exact Or.inr (Or.inr ⟨Or.inl rfl, _, rfl, r.goesOn_place (by rintro ⟨⟩)⟩)
    · exact Or.inr (Or.inr ⟨Or.inl rfl, _, rfl, r.goesOn_keep b (by rintro ⟨⟩)⟩)
  case quoteSeen =>
    split_ifs with hb hb' hends
    · exact Or.inr (Or.inr ⟨Or.inr (hb ▸ hquote), _, rfl, r.goesOn_keep b (by rintro ⟨⟩)⟩)
    · exact Or.inr (Or.inr ⟨Or.inr (hb' ▸ hcomma), _, rfl, r.goesOn_endField⟩)
    · exact Or.inr (Or.inl ⟨Or.inr (Or.inr hplace), hends, rfl⟩)
    · exact Or.inr (Or.inr ⟨Or.inr (hplain hends), _, rfl, r.goesOn_keep b (by rintro ⟨⟩)⟩)

/-- **The three things that an octet can do**: it is skipped before a row, it ends the open row, or
the reader goes on in the row.  Only between quotes does it go on with a row ending. -/
theorem step_cases (r : Reader) (b : UInt8) :
    (r.place = .rowStart ∧ endsRow b = true ∧ r.step b = (r.countLine b, none))
      ∨ (r.HasRow ∧ endsRow b = true ∧ r.step b = ((r.countLine b).afterRow, some r.row))
      ∨ ((r.place = .quoted ∨ endsRow b = false)
        ∧ ∃ next, r.step b = (next, none) ∧ (r.countLine b).GoesOn next) := by
  have hcases := (r.countLine b).take_cases b
  rw [place_countLine] at hcases
  rcases hcases with hskip | ⟨hrow, hends, -⟩ | hon
  · exact Or.inl hskip
  · have hopen : r.HasRow := by
      rw [HasRow, place_countLine] at hrow
      exact hrow
    exact Or.inr (Or.inl ⟨hopen, hends, step_endsRow hopen hends⟩)
  · exact Or.inr (Or.inr hon)

/-! ## Invariants of a run -/

/-- The line number counts the line feeds. -/
theorem line_read (r : Reader) (input : Bytes) :
    (r.read input).1.line = r.line + input.count lineFeed := by
  have hstep : ∀ (r : Reader) (b : UInt8), (r.step b).1.line = r.line + [b].count lineFeed := by
    intro r b
    rw [← line_countLine]
    rcases r.step_cases b with ⟨-, -, hskip⟩ | ⟨-, -, hends⟩ | ⟨-, next, hstep, hon⟩
    · rw [hskip]
    · rw [hends]
      rfl
    · rw [hstep]
      exact hon.line
  induction input generalizing r with
  | nil => rfl
  | cons b rest ih =>
    have hcount : (b :: rest).count lineFeed = [b].count lineFeed + rest.count lineFeed := by
      rw [← List.count_append]
      rfl
    rw [read_cons, ih, hstep, hcount, Nat.add_assoc]

/-- Before a row nothing of a row is read, if it was so once. -/
theorem atRow_of_rowStart {r : Reader} (hr : r.place = .rowStart → r.AtRow) (input : Bytes)
    (h : (r.read input).1.place = .rowStart) : (r.read input).1.AtRow := by
  induction input generalizing r with
  | nil => exact hr h
  | cons b rest ih =>
    rw [read_cons] at h ⊢
    refine ih ?_ h
    intro hplace
    rcases r.step_cases b with ⟨hstart, -, hskip⟩ | ⟨-, -, hends⟩ | ⟨-, next, hstep, hon⟩
    · rw [hskip]
      exact atRow_countLine (hr hstart) b
    · rw [hends]
      exact ⟨rfl, rfl, rfl⟩
    · rw [hstep] at hplace
      exact absurd hplace hon.opened

/-- **The first row of what is left has the number of the open row**, or of the next one. -/
theorem line_of_rows {r : Reader} {input : Bytes} {row : Row} {later : List Row}
    (h : r.rows input = row :: later) : row.line = r.rowLine := by
  induction input generalizing r with
  | nil =>
    rw [rows, finish] at h
    split_ifs at h
    rw [← (List.cons.inj h).1]
    rfl
  | cons b rest ih =>
    rw [rows] at h
    rcases r.step_cases b with ⟨-, -, hskip⟩ | ⟨-, -, hends⟩ | ⟨-, next, hstep, hon⟩
    · rw [hskip] at h
      rw [ih h, rowLine_countLine]
    · rw [hends] at h
      rw [← (List.cons.inj h).1]
      rfl
    · rw [hstep] at h
      rw [ih h, hon.rowLine, rowLine_countLine]

end Reader

/-! ## The byte order mark -/

/-- A beginning that is more than a part of the mark decides about it. -/
theorem withoutMark_append {a : Bytes} (h : ¬ a <+: byteOrderMark) (b : Bytes) :
    withoutMark (a ++ b) = withoutMark a ++ b := by
  by_cases hmark : byteOrderMark <+: a
  · obtain ⟨rest, rfl⟩ := hmark
    rfl
  · have hwhole : ¬ byteOrderMark <+: a ++ b := by
      intro hprefix
      rcases List.prefix_or_prefix_of_prefix hprefix (List.prefix_append a b) with h' | h'
      · exact hmark h'
      · exact h h'
    have hplain := withoutMark_of_not_prefix hmark
    have hplain' := withoutMark_of_not_prefix hwhole
    rw [hplain, hplain']

/-- No octet of the mark ends a row. -/
theorem not_prefix_of_endsRow {front : Bytes} {ending : UInt8} (h : endsRow ending = true) :
    ¬ front ++ [ending] <+: byteOrderMark := by
  intro hprefix
  have hmem : ending ∈ byteOrderMark :=
    hprefix.subset (List.mem_append_right front (List.mem_singleton_self ending))
  have hmark : ∀ b ∈ byteOrderMark, endsRow b = false := by
    intro b hb
    simp only [byteOrderMark, List.mem_cons, List.not_mem_nil, or_false] at hb
    rcases hb with rfl | rfl | rfl <;> rfl
  rw [hmark ending hmem] at h
  cases h

/-- A row ending is left behind the mark. -/
theorem withoutMark_concat (front : Bytes) {ending : UInt8} (h : endsRow ending = true) :
    withoutMark (front ++ [ending]) = withoutMark front ++ [ending] := by
  by_cases hmark : byteOrderMark <+: front
  · obtain ⟨rest, rfl⟩ := hmark
    rfl
  · have hwhole : ¬ byteOrderMark <+: front ++ [ending] := by
      intro hprefix
      rcases List.prefix_concat_iff.1 hprefix with heq | hfront
      · exact not_prefix_of_endsRow h ⟨[], (List.append_nil _).trans heq.symm⟩
      · exact hmark hfront
    have hplain := withoutMark_of_not_prefix hmark
    have hplain' := withoutMark_of_not_prefix hwhole
    rw [hplain, hplain']

/-! ## Beginnings -/

/-- The reader behind a beginning of a listing. -/
def behind (input : Bytes) : Reader := (Reader.start.read (withoutMark input)).1

/-- The rows that have ended in a beginning of a listing. -/
def ended (input : Bytes) : List Row := (Reader.start.read (withoutMark input)).2

/-- The rows of a listing are those that have ended, and the one that its end ends. -/
theorem rows_eq_ended (input : Bytes) : rows input = ended input ++ (behind input).finish :=
  Reader.rows_eq_read _ _

/-- Before a row nothing of a row is read. -/
theorem atRow_behind {input : Bytes} (h : (behind input).place = .rowStart) :
    (behind input).AtRow :=
  Reader.atRow_of_rowStart (fun _ => ⟨rfl, rfl, rfl⟩) _ h

end Listing

end BookDatasets

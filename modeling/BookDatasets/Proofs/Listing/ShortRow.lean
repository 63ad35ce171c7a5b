/-
  The listing dataset stops at the first short row, and keeps everything before it.

  1. **Rows** — the reader takes every input, and no row that it finds is without a field: a row is
     made only where one is open, and the open field is one of its fields (`one_le_length_fields`).
  2. **The cut** — the rows of a listing are those in front of the first short one, and the rest.
     What is written and what is answered depends on nothing but this cut
     (`writeRows_cut_unlimited`).
  3. **Alone** — the rows in front of the cut are the rows of a listing of their own, which is
     converted to the same octets.
-/
import BookDatasets.Proofs.Listing.Dataset
import Mathlib.Data.List.TakeWhile

namespace BookDatasets

namespace Listing

/-! ## Rows have fields -/

namespace Reader

/-- The only row that an octet can end is the open row. -/
theorem take_answer (r : Reader) (b : UInt8) :
    (r.take b).2 = none ∨ (r.take b).2 = some r.row := by
  have hbegin : (r.beginField b).2 = none ∨ (r.beginField b).2 = some r.row := by
    rw [beginField]
    split_ifs
    · exact Or.inl rfl
    · exact Or.inl rfl
    · exact Or.inr rfl
    · exact Or.inl rfl
  rcases hplace : r.place with _ | _ | _ | _ | _ <;> rw [take, hplace] <;> dsimp only
  case rowStart =>
    split_ifs
    · exact Or.inl rfl
    · exact hbegin
  case fieldStart => exact hbegin
  case quoted =>
    split_ifs
    · exact Or.inl rfl
    · exact Or.inl rfl
  case bare =>
    split_ifs
    · exact Or.inl rfl
    · exact Or.inr rfl
    · exact Or.inl rfl
  case quoteSeen =>
    split_ifs
    · exact Or.inl rfl
    · exact Or.inl rfl
    · exact Or.inr rfl
    · exact Or.inl rfl

theorem one_le_length_row (r : Reader) : 1 ≤ r.row.fields.length := by
  rw [row, List.length_reverse, List.length_cons]
  exact Nat.succ_le_succ (Nat.zero_le _)

theorem one_le_length_rows (r : Reader) (input : Bytes) :
    ∀ row ∈ r.rows input, 1 ≤ row.fields.length := by
  induction input generalizing r with
  | nil =>
    intro row hrow
    rw [rows, finish] at hrow
    split_ifs at hrow
    · exact absurd hrow List.not_mem_nil
    · obtain rfl := List.mem_singleton.1 hrow
      exact one_le_length_row r
  | cons b rest ih =>
    intro row hrow
    rw [rows] at hrow
    rcases hstep : r.step b with ⟨next, _ | ended⟩
    · rw [hstep] at hrow
      exact ih next row hrow
    · rw [hstep] at hrow
      rcases List.mem_cons.1 hrow with rfl | hrest
      · have htaken : ((r.countLine b).take b).2 = some row := congrArg Prod.snd hstep
        rcases take_answer (r.countLine b) b with hnone | hsome
        · cases htaken.symm.trans hnone
        · rw [Option.some.inj (htaken.symm.trans hsome)]
          exact one_le_length_row _
      · exact ih next row hrest

end Reader

/-- **No row is without a field**, whatever the input. -/
theorem one_le_length_fields (input : Bytes) : ∀ row ∈ rows input, 1 ≤ row.fields.length :=
  Reader.one_le_length_rows _ _

/-! ## The cut -/

/-- Whether a row has the fields that its line shows. -/
def IsLong (row : Row) : Prop := minFields ≤ row.fields.length

instance (row : Row) : Decidable (IsLong row) := inferInstanceAs (Decidable (_ ≤ _))

/-- The rows in front of the first short one. -/
def untilShort (rows : List Row) : List Row := rows.takeWhile fun row => IsLong row

/-- The first short row and what follows it. -/
def fromShort (rows : List Row) : List Row := rows.dropWhile fun row => IsLong row

theorem untilShort_append_fromShort (rows : List Row) :
    untilShort rows ++ fromShort rows = rows :=
  List.takeWhile_append_dropWhile

theorem isLong_of_mem_untilShort {rows : List Row} {row : Row} (h : row ∈ untilShort rows) :
    IsLong row :=
  of_decide_eq_true (List.mem_takeWhile_imp (p := fun row => decide (IsLong row)) h)

theorem not_isLong_of_fromShort {rows later : List Row} {short : Row}
    (h : fromShort rows = short :: later) : ¬ IsLong short := by
  have hhead := List.head?_dropWhile_not (fun row => decide (IsLong row)) rows
  rw [← fromShort, h] at hhead
  exact of_decide_eq_false hhead

theorem labels_of_short {row : Row} (h : ¬ IsLong row) :
    row.labels = .error (.shortRow row.line row.fields.length minFields) :=
  if_pos (Nat.lt_of_not_le h)

/-- How a conversion ends: with the number of its lines when no row is left, else with the complaint
about the first row that is. -/
def endingAt (lines : Nat) : List Row → Except ConvertError Nat
  | [] => .ok lines
  | short :: _ => .error (.shortRow short.line short.fields.length minFields)

theorem untilShort_of_forall {rows : List Row} (h : ∀ row ∈ rows, IsLong row) :
    untilShort rows = rows :=
  List.takeWhile_eq_self_iff.2 fun row hrow => decide_eq_true (h row hrow)

/-- It is a success exactly when no row is short. -/
theorem endingAt_eq_ok_iff (rows : List Row) (n : Nat) :
    endingAt (untilShort rows).length (fromShort rows) = .ok n
      ↔ n = rows.length ∧ ∀ row ∈ rows, IsLong row := by
  have hcut := untilShort_append_fromShort rows
  rcases hfrom : fromShort rows with _ | ⟨short, later⟩
  · rw [hfrom, List.append_nil] at hcut
    constructor
    · intro h
      rw [hcut] at h
      exact ⟨(Except.ok.inj h).symm, fun row hrow => isLong_of_mem_untilShort (hcut ▸ hrow)⟩
    · rintro ⟨rfl, -⟩
      rw [hcut]
      rfl
  · constructor
    · intro h
      cases h
    · -- The first row that is left is one of the rows, and short.
      rintro ⟨-, hlong⟩
      have hmem : short ∈ rows := by
        rw [← hcut, hfrom]
        exact List.mem_append_right _ List.mem_cons_self
      exact absurd (hlong short hmem) (not_isLong_of_fromShort hfrom)

/-- It is a failure exactly when there is a short row, and tells the first one. -/
theorem endingAt_eq_error_iff {rows : List Row} (hfields : ∀ row ∈ rows, 1 ≤ row.fields.length)
    (e : ConvertError) :
    endingAt (untilShort rows).length (fromShort rows) = .error e
      ↔ ∃ short later, rows = untilShort rows ++ short :: later
        ∧ 1 ≤ short.fields.length ∧ short.fields.length ≤ 6
        ∧ e = .shortRow short.line short.fields.length 7 := by
  have hcut := untilShort_append_fromShort rows
  constructor
  · intro h
    rcases hfrom : fromShort rows with _ | ⟨short, later⟩
    · rw [hfrom] at h
      cases h
    · rw [hfrom] at h hcut
      have hmem : short ∈ rows := by
        rw [← hcut]
        exact List.mem_append_right _ List.mem_cons_self
      have hshort : short.fields.length < 7 := Nat.lt_of_not_le (not_isLong_of_fromShort hfrom)
      exact ⟨short, later, hcut.symm, hfields short hmem, Nat.le_of_lt_succ hshort,
        (Except.error.inj h).symm⟩
  · rintro ⟨short, later, hrows, -, -, rfl⟩
    have hfrom : fromShort rows = short :: later :=
      List.append_cancel_left (hcut.trans hrows)
    rw [hfrom]
    rfl

/-- **What a conversion leaves behind** is a matter of the cut: the lines of the rows in front of it
are written, and the rest is the answer. -/
theorem writeRows_cut_unlimited (rows : List Row) :
    ∃ s, writeRows 0 .unlimited rows = (s, endingAt (untilShort rows).length (fromShort rows))
      ∧ s.taken
        = Bytes.ofLines (LabelRecord.lines ((untilShort rows).map fun row => shown row.fields)) := by
  have hlabels : rows.map Row.labels
      = ((untilShort rows).map fun row => shown row.fields).map .ok
          ++ (fromShort rows).map Row.labels := by
    conv_lhs => rw [← untilShort_append_fromShort rows]
    rw [List.map_append, List.map_map]
    congr 1
    exact List.map_congr_left fun row hrow => labels_of_long (isLong_of_mem_untilShort hrow)
  have hrest : Answers.before ((fromShort rows).map Row.labels) = []
      ∧ Answers.outcome rows.length ((fromShort rows).map Row.labels)
        = endingAt (untilShort rows).length (fromShort rows) := by
    rcases hfrom : fromShort rows with _ | ⟨short, later⟩
    · have hall := untilShort_append_fromShort rows
      rw [hfrom, List.append_nil] at hall
      refine ⟨rfl, ?_⟩
      rw [hall]
      rfl
    · rw [List.map_cons, labels_of_short (not_isLong_of_fromShort hfrom)]
      exact ⟨rfl, rfl⟩
  obtain ⟨s, hrun, htaken⟩ := Sink.writeThen_unlimited (lineValues rows) (ending 0 rows)
  refine ⟨s, ?_, ?_⟩
  · rw [writeRows_eq, hrun, ending, hlabels, Answers.outcome_append, Nat.zero_add, hrest.2]
  · rw [htaken, lineValues, hlabels, Answers.before_append, hrest.1, List.append_nil,
      LabelRecord.lines, List.map_map]
    rfl

/-! ## Alone -/

/-- Rows are converted by their fields: long rows with the fields of other rows come to the lines of
those. -/
theorem writeDataset_of_fields {good : List Row} {alone : Bytes}
    (hgood : ∀ row ∈ good, minFields ≤ row.fields.length)
    (h : (rows alone).map Row.fields = good.map Row.fields) :
    ∃ s, writeDataset alone .unlimited = (s, .ok good.length)
      ∧ s.taken = Bytes.ofLines (LabelRecord.lines (good.map fun row => shown row.fields)) := by
  have hlong : ∀ row ∈ rows alone, minFields ≤ row.fields.length := by
    intro row hrow
    have hfields : row.fields ∈ good.map Row.fields := h ▸ List.mem_map_of_mem hrow
    obtain ⟨other, hother, heq⟩ := List.mem_map.1 hfields
    exact heq ▸ hgood other hother
  have hshown := map_shown_congr h
  have hcount : 0 + (rows alone).length = good.length := by
    rw [Nat.zero_add, ← List.length_map (f := Row.fields), h, List.length_map]
  obtain ⟨s, hrun, htaken⟩ := writeRows_unlimited (s := .unlimited) 0 rfl hlong
  refine ⟨s, ?_, ?_⟩
  · rw [writeDataset, hrun, hcount]
  · rw [htaken, hshown]
    rfl

/-- Every field between quotes. -/
theorem exists_rowSpelling {fields : List Bytes} (h : fields ≠ []) :
    ∃ spelling, RowSpelling fields spelling := by
  induction fields with
  | nil => exact absurd rfl h
  | cons field fields ih =>
    by_cases hlast : fields = []
    · subst hlast
      exact ⟨_, .last (.quoted field)⟩
    · obtain ⟨rest, hrest⟩ := ih hlast
      exact ⟨_, .more (.quoted field) hrest⟩

/-- Rows with two fields or more are the rows of a listing. -/
theorem exists_listing {rows : List (List Bytes)} (h : ∀ fields ∈ rows, 2 ≤ fields.length) :
    ∃ listing, (Listing.rows listing).map Row.fields = rows := by
  have hspelling : ∃ spelling, RowsSpelling rows spelling := by
    induction rows with
    | nil => exact ⟨[], .none⟩
    | cons fields rows ih =>
      obtain ⟨htwo, hrest⟩ := List.forall_mem_cons.1 h
      have hne : fields ≠ [] := by
        rintro rfl
        exact absurd htwo (by decide)
      obtain ⟨row, hrow⟩ := exists_rowSpelling hne
      obtain ⟨others, hothers⟩ := ih hrest
      exact ⟨_, .more hrow (.line .lineFeed) hothers⟩
  obtain ⟨spelling, hspelling⟩ := hspelling
  exact ⟨_, rows_listingSpelling h (.marked hspelling)⟩

/-! ## The whole conversion -/

/-- The output and the answer of a conversion, when `good` are the rows of its listing in front of
the first short one. -/
structure StopsAtShort (input output : Bytes) (result : Except ConvertError Nat)
    (good : List Row) : Prop where
  /-- It succeeds exactly when no row is short, with the number of the rows. -/
  ok : ∀ n, result = .ok n ↔
    n = (rows input).length ∧ ∀ row ∈ rows input, 7 ≤ row.fields.length
  /-- It fails exactly when there is a short row, and with the complaint about the first one. -/
  error : ∀ e, result = .error e ↔ ∃ short later, rows input = good ++ short :: later
    ∧ 1 ≤ short.fields.length ∧ short.fields.length ≤ 6
    ∧ e = .shortRow short.line short.fields.length 7
  /-- The rows in front come first, all of them when it succeeds. -/
  front : good <+: rows input ∧ ∀ n, result = .ok n → good = rows input
  /-- Each of them has every field that its line shows. -/
  long : ∀ row ∈ good, 7 ≤ row.fields.length ∧ ∀ column ∈ columns, column.2 < row.fields.length
  /-- The output is one line for each of them, which reads back as the row's record. -/
  lines : ∃ lines, output.splitOn 0x0A = lines ++ [[]]
    ∧ lines.map LabelRecord.read? = good.map fun row => some (shown row.fields)
  /-- They are the rows of a listing of their own. -/
  spelled : ∃ alone, (rows alone).map Row.fields = good.map Row.fields
  /-- And whatever listing has just these rows is converted to the same octets. -/
  alone : ∀ alone, (rows alone).map Row.fields = good.map Row.fields →
    ∃ s, writeDataset alone .unlimited = (s, .ok good.length) ∧ s.taken = output

/-- **The listing dataset stops at the first short row, and keeps everything before it.**  Whatever
the input, a conversion without a limit succeeds, or fails with a short row and in no other way. -/
theorem writeDataset_stops_at_short_row (input : Bytes) :
    ∃ s result good, writeDataset input .unlimited = (s, result)
      ∧ StopsAtShort input s.taken result good := by
  obtain ⟨s, hrun, htaken⟩ := writeRows_cut_unlimited (rows input)
  have hcut := untilShort_append_fromShort (rows input)
  have hgood : ∀ row ∈ untilShort (rows input), minFields ≤ row.fields.length :=
    fun row hrow => isLong_of_mem_untilShort hrow
  have hlong : ∀ row ∈ untilShort (rows input),
      7 ≤ row.fields.length ∧ ∀ column ∈ columns, column.2 < row.fields.length := by
    intro row hrow
    have hseven : 7 ≤ row.fields.length := hgood row hrow
    have hcolumns : ∀ column ∈ columns, column.2 < 7 := by decide
    exact ⟨hseven, fun column hcolumn => Nat.lt_of_lt_of_le (hcolumns column hcolumn) hseven⟩
  have hlines : ∃ lines, s.taken.splitOn 0x0A = lines ++ [[]]
      ∧ lines.map LabelRecord.read? = (untilShort (rows input)).map fun row =>
          some (shown row.fields) := by
    refine ⟨LabelRecord.lines ((untilShort (rows input)).map fun row => shown row.fields), ?_, ?_⟩
    · rw [htaken]
      exact LabelRecord.splitOn_lines _
    · rw [LabelRecord.map_read?_lines, List.map_map]
      rfl
  have hspelled : ∃ alone,
      (rows alone).map Row.fields = (untilShort (rows input)).map Row.fields := by
    apply exists_listing
    intro fields hfields
    obtain ⟨row, hrow, rfl⟩ := List.mem_map.1 hfields
    exact le_trans (by decide) (hgood row hrow)
  have halone := fun alone (h : (rows alone).map Row.fields
      = (untilShort (rows input)).map Row.fields) => writeDataset_of_fields hgood h
  rw [← htaken] at halone
  refine ⟨s, _, untilShort (rows input), hrun, ?_⟩
  constructor
  · exact endingAt_eq_ok_iff (rows input)
  · exact endingAt_eq_error_iff (one_le_length_fields input)
  · refine ⟨List.takeWhile_prefix _, fun n hok => ?_⟩
    exact untilShort_of_forall ((endingAt_eq_ok_iff (rows input) n).1 hok).2
  · exact hlong
  · exact hlines
  · exact hspelled
  · exact halone

end Listing

end BookDatasets

/-
  A listing can be converted in pieces.

  1. **The seam** — a piece is empty, or ends with a row ending that is not between quotes.  Behind
     a piece the reader stands before a row with nothing of it read (`atRow_of_isPiece`), whether
     the ending has ended a row or was skipped.  A carriage return is enough: a line feed that
     follows it in the next piece is skipped there, as it would have been here.
  2. **What is left to tell the readers apart** — their line numbers, which the fields of rows never
     depend on (`Alike`): one octet keeps two readers alike, and so does a run.
  3. **The conversion** — the rows of both pieces in order, up to line numbers, are cut at the first
     short one.  When the first piece has none, the cut is that of the second.
-/
import BookDatasets.Proofs.Listing.Beginning
import BookDatasets.Proofs.Listing.ShortRow

namespace BookDatasets

namespace Listing

/-! ## Readers that differ in line numbers -/

namespace Reader

/-- Two readers that differ in line numbers at most. -/
structure Alike (r r' : Reader) : Prop where
  place : r.place = r'.place
  field : r.field = r'.field
  fields : r.fields = r'.fields

variable {r r' : Reader}

theorem Alike.countLine (h : Alike r r') (b : UInt8) : Alike (r.countLine b) (r'.countLine b) := by
  rw [Reader.countLine, Reader.countLine]
  split_ifs
  · exact ⟨h.place, h.field, h.fields⟩
  · exact h

theorem Alike.take (h : Alike r r') (b : UInt8) :
    Alike (r.take b).1 (r'.take b).1
      ∧ (r.take b).2.map Row.fields = (r'.take b).2.map Row.fields := by
  rcases r with ⟨place, field, fields, line, rowLine⟩
  rcases r' with ⟨place', field', fields', line', rowLine'⟩
  obtain rfl : place = place' := h.place
  obtain rfl : field = field' := h.field
  obtain rfl : fields = fields' := h.fields
  cases place <;> simp only [Reader.take, beginField] <;> split_ifs <;>
    exact ⟨⟨rfl, rfl, rfl⟩, rfl⟩

/-- **One octet** keeps readers alike, and ends a row with the same fields for both, or for none. -/
theorem Alike.step (h : Alike r r') (b : UInt8) :
    Alike (r.step b).1 (r'.step b).1
      ∧ (r.step b).2.map Row.fields = (r'.step b).2.map Row.fields :=
  (h.countLine b).take b

/-- **A run** finds rows with the same fields. -/
theorem Alike.rows (h : Alike r r') (input : Bytes) :
    (r.rows input).map Row.fields = (r'.rows input).map Row.fields := by
  induction input generalizing r r' with
  | nil =>
    rw [Reader.rows, Reader.rows, finish, finish, h.place]
    split_ifs
    · rfl
    · rw [List.map_singleton, List.map_singleton, row, row, h.field, h.fields]
  | cons b rest ih =>
    rw [Reader.rows, Reader.rows]
    obtain ⟨halike, hended⟩ := h.step b
    rcases hstep : r.step b with ⟨next, _ | ended⟩ <;>
      rcases hstep' : r'.step b with ⟨next', _ | ended'⟩ <;>
      rw [hstep, hstep'] at halike hended
    · exact ih halike
    · cases hended
    · cases hended
    · have hfields : ended.fields = ended'.fields := Option.some.inj hended
      show ended.fields :: _ = ended'.fields :: _
      rw [hfields, ih halike]

/-- Before a row all readers are alike. -/
theorem AtRow.alike (h : r.AtRow) (h' : r'.AtRow) : Alike r r' := by
  obtain ⟨hplace, hfield, hfields⟩ := h
  obtain ⟨hplace', hfield', hfields'⟩ := h'
  exact ⟨hplace.trans hplace'.symm, hfield.trans hfield'.symm, hfields.trans hfields'.symm⟩

end Reader

/-! ## The seam -/

/-- A piece that a listing may be cut behind: nothing at all, or one that ends with a row ending
outside quotes. -/
def IsPiece (piece : Bytes) : Prop :=
  piece = [] ∨ ∃ front ending, piece = front ++ [ending] ∧ endsRow ending = true
    ∧ (behind front).place ≠ .quoted

theorem behind_concat (front : Bytes) {ending : UInt8} (h : endsRow ending = true) :
    behind (front ++ [ending]) = ((behind front).step ending).1 := by
  rw [behind, withoutMark_concat front h, Reader.read_append]
  rfl

/-- **Behind a piece a row may begin.** -/
theorem atRow_of_isPiece {piece : Bytes} (h : IsPiece piece) : (behind piece).AtRow := by
  rcases h with rfl | ⟨front, ending, rfl, hends, hplace⟩
  · exact ⟨rfl, rfl, rfl⟩
  · apply atRow_behind
    rw [behind_concat front hends]
    rcases (behind front).step_cases ending with ⟨hstart, -, hskip⟩ | ⟨-, -, hended⟩ | ⟨hin, -⟩
    · rw [hskip, Reader.place_countLine]
      exact hstart
    · rw [hended]
      rfl
    · rcases hin with hquoted | hnot
      · exact absurd hquoted hplace
      · rw [hnot] at hends
        cases hends

/-- The rows of a piece have all ended. -/
theorem rows_of_isPiece {piece : Bytes} (h : IsPiece piece) : rows piece = ended piece := by
  rw [rows_eq_ended, Reader.finish, if_pos (atRow_of_isPiece h).1, List.append_nil]

/-- The mark is a matter of the first piece, when there is anything in it. -/
theorem withoutMark_of_isPiece {piece : Bytes} (h : IsPiece piece) (rest : Bytes)
    (hrest : piece ≠ [] → ¬ byteOrderMark <+: rest) :
    Reader.start.rows (withoutMark (piece ++ rest))
      = ended piece ++ (behind piece).rows (withoutMark rest) := by
  rcases h with rfl | ⟨front, ending, rfl, hends, -⟩
  · rfl
  · have hne : front ++ [ending] ≠ [] :=
      List.append_ne_nil_of_right_ne_nil front (List.cons_ne_nil ending [])
    rw [withoutMark_append (not_prefix_of_endsRow hends), withoutMark_of_not_prefix (hrest hne),
      Reader.rows_append]
    rfl

/-- **The rows of a listing in two pieces** are the rows of the first and, up to line numbers, those
of the second. -/
theorem rows_append_of_isPiece {piece rest : Bytes} (h : IsPiece piece)
    (hrest : piece ≠ [] → ¬ byteOrderMark <+: rest) :
    ∃ later, rows (piece ++ rest) = rows piece ++ later
      ∧ later.map Row.fields = (rows rest).map Row.fields := by
  have halike : (behind piece).Alike .start := (atRow_of_isPiece h).alike ⟨rfl, rfl, rfl⟩
  refine ⟨(behind piece).rows (withoutMark rest), ?_, halike.rows _⟩
  rw [rows_of_isPiece h]
  exact withoutMark_of_isPiece h rest hrest

/-! ## The cut -/

/-- Where rows are cut is a matter of their fields. -/
theorem map_fields_untilShort (rows : List Row) :
    (untilShort rows).map Row.fields
      = (rows.map Row.fields).takeWhile fun fields => decide (minFields ≤ fields.length) := by
  rw [List.takeWhile_map]
  rfl

theorem map_fields_fromShort (rows : List Row) :
    (fromShort rows).map Row.fields
      = (rows.map Row.fields).dropWhile fun fields => decide (minFields ≤ fields.length) := by
  rw [List.dropWhile_map]
  rfl

/-- Behind long rows the cut is that of the later ones. -/
theorem cut_append {good : List Row} (later : List Row) (h : ∀ row ∈ good, IsLong row) :
    untilShort (good ++ later) = good ++ untilShort later
      ∧ fromShort (good ++ later) = fromShort later := by
  have hall : ∀ row ∈ good, decide (IsLong row) = true :=
    fun row hrow => decide_eq_true (h row hrow)
  exact ⟨List.takeWhile_append_of_pos hall, List.dropWhile_append_of_pos hall⟩

/-! ## The conversion -/

/-- What the conversion of a listing in two pieces has to do with the conversion of the second piece
alone, when that of the first has written `n` lines. -/
structure GoesOnAs (n : Nat) (whole second : Except ConvertError Nat) : Prop where
  ok : ∀ m, second = .ok m → whole = .ok (n + m)
  shortRow : ∀ line found expected, second = .error (.shortRow line found expected) →
    ∃ line', whole = .error (.shortRow line' found expected)

/-- Answers are alike when the rows behind the cut are, up to line numbers. -/
theorem goesOnAs_endingAt {n lines : Nat} {rest rest' : List Row}
    (h : rest.map Row.fields = rest'.map Row.fields) :
    GoesOnAs n (endingAt (n + lines) rest) (endingAt lines rest') := by
  rcases rest with _ | ⟨short, later⟩ <;> rcases rest' with _ | ⟨short', later'⟩
  · constructor
    · intro m hm
      rw [← Except.ok.inj hm]
      rfl
    · rintro line found expected ⟨⟩
  · cases h
  · cases h
  · have hfields : short.fields = short'.fields := (List.cons.inj h).1
    constructor
    · rintro m ⟨⟩
    · intro line found expected herror
      obtain ⟨-, rfl, rfl⟩ := ConvertError.shortRow.inj (Except.error.inj herror)
      refine ⟨short.line, ?_⟩
      rw [endingAt, hfields]

/-- **A listing can be converted in pieces.**  Let `a` be empty or end with a row ending outside
quotes, let `b` begin with no byte order mark unless `a` is empty, and let the conversion of `a`
succeed.  Then the output for `a` and `b` together is that for `a` and that for `b`, one after the
other; and the answer is that for `b`, with the lines of `a` counted in, or with another line number
in its complaint. -/
theorem writeDataset_in_pieces {a b : Bytes} {n : Nat} (ha : IsPiece a)
    (hb : a ≠ [] → ¬ byteOrderMark <+: b) (hok : (writeDataset a .unlimited).2 = .ok n) :
    (writeDataset (a ++ b) .unlimited).1.taken
        = (writeDataset a .unlimited).1.taken ++ (writeDataset b .unlimited).1.taken
      ∧ GoesOnAs n (writeDataset (a ++ b) .unlimited).2 (writeDataset b .unlimited).2 := by
  obtain ⟨later, hrows, hfields⟩ := rows_append_of_isPiece ha hb
  obtain ⟨sa, hruna, htakena⟩ := writeRows_cut_unlimited (rows a)
  obtain ⟨sb, hrunb, htakenb⟩ := writeRows_cut_unlimited (rows b)
  obtain ⟨s, hrun, htaken⟩ := writeRows_cut_unlimited (rows (a ++ b))
  rw [writeDataset, hruna] at hok
  obtain ⟨rfl, hlong⟩ := (endingAt_eq_ok_iff (rows a) n).1 hok
  have huntila : untilShort (rows a) = rows a := untilShort_of_forall hlong
  obtain ⟨huntil, hfrom⟩ := cut_append later hlong
  have huntilb : (untilShort later).map Row.fields = (untilShort (rows b)).map Row.fields := by
    rw [map_fields_untilShort, map_fields_untilShort, hfields]
  have hfromb : (fromShort later).map Row.fields = (fromShort (rows b)).map Row.fields := by
    rw [map_fields_fromShort, map_fields_fromShort, hfields]
  have hshown := map_shown_congr huntilb
  have hlength : (untilShort later).length = (untilShort (rows b)).length := by
    rw [← List.length_map (f := Row.fields), huntilb, List.length_map]
  rw [writeDataset, writeDataset, writeDataset, hruna, hrunb, hrun]
  constructor
  · show s.taken = sa.taken ++ sb.taken
    rw [htaken, htakena, htakenb, hrows, huntil, huntila, List.map_append, hshown,
      LabelRecord.ofLines_lines_append]
  · show GoesOnAs (rows a).length (endingAt (untilShort (rows (a ++ b))).length
      (fromShort (rows (a ++ b)))) (endingAt (untilShort (rows b)).length (fromShort (rows b)))
    rw [hrows, huntil, hfrom, List.length_append, hlength]
    exact goesOnAs_endingAt hfromb

/-- A piece that ends between a carriage return and its line feed, and one that begins with this
line feed and an empty line, and breaks off in its second row. -/
def tornPieces : Bytes × Bytes :=
  (Utf8.encode "1,,,\"T\n\",A,1,C\r".toList, Utf8.encode "\n\n2,,,U,B,2,D\nx,".toList)

theorem writeDataset_of_tornPieces :
    IsPiece tornPieces.1 ∧ (tornPieces.1 ≠ [] → ¬ byteOrderMark <+: tornPieces.2)
    ∧ (writeDataset tornPieces.1 .unlimited).2 = .ok 1
    ∧ (writeDataset (tornPieces.1 ++ tornPieces.2) .unlimited).1.taken
        = (writeDataset tornPieces.1 .unlimited).1.taken
          ++ (writeDataset tornPieces.2 .unlimited).1.taken
    ∧ GoesOnAs 1 (writeDataset (tornPieces.1 ++ tornPieces.2) .unlimited).2
        (writeDataset tornPieces.2 .unlimited).2 := by
  have hpiece : IsPiece tornPieces.1 :=
    Or.inr ⟨Utf8.encode "1,,,\"T\n\",A,1,C".toList, carriageReturn, by decide, by decide, by decide⟩
  have hmark : tornPieces.1 ≠ [] → ¬ byteOrderMark <+: tornPieces.2 := fun _ => by decide
  have hok : (writeDataset tornPieces.1 .unlimited).2 = .ok 1 := by decide +kernel
  exact ⟨hpiece, hmark, hok, writeDataset_in_pieces hpiece hmark hok⟩

end Listing

end BookDatasets

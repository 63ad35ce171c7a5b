/-
  Reading a listing piece by piece.

  1. **A run** — `Reader.read` takes a piece of the input and gives the reader behind it together
     with the rows that ended in it.  Pieces compose (`read_append`), and the rows of a whole input
     are the rows of its pieces and the row that the end of the input ends (`rows_eq_read`).
  2. **Steps by octet** — outside quotes a comma ends the field wherever the reader stands
     (`step_comma`), and a row ending ends the row wherever one is open (`step_endsRow`).
  3. **Fields** — a stretch of ordinary octets and the inside of a quoted field are taken whole
     (`read_bare`, `read_doubled`).  Only a line feed between quotes moves the line number.
-/
import BookDatasets.Listing.Reader
import Mathlib.Data.List.Basic

namespace BookDatasets

namespace Listing

namespace Reader

/-! ## Runs -/

/-- Reads a piece of the input: the reader behind it, and the rows that ended in it. -/
def read (r : Reader) : Bytes → Reader × List Row
  | [] => (r, [])
  | b :: rest =>
    let next := r.step b
    let behind := next.1.read rest
    (behind.1, next.2.toList ++ behind.2)

theorem read_cons (r : Reader) (b : UInt8) (rest : Bytes) :
    r.read (b :: rest)
      = (((r.step b).1.read rest).1, (r.step b).2.toList ++ ((r.step b).1.read rest).2) :=
  rfl

/-- **Pieces compose.** -/
theorem read_append (r : Reader) (a b : Bytes) :
    r.read (a ++ b) = (((r.read a).1.read b).1, (r.read a).2 ++ ((r.read a).1.read b).2) := by
  induction a generalizing r with
  | nil => rfl
  | cons octet a ih =>
    rw [List.cons_append, read_cons, read_cons, ih, List.append_assoc]

/-- **The rows of an input** are those that ended in it and the one that its end ends. -/
theorem rows_eq_read (r : Reader) (input : Bytes) :
    r.rows input = (r.read input).2 ++ (r.read input).1.finish := by
  induction input generalizing r with
  | nil => rfl
  | cons b rest ih =>
    rw [rows, read_cons]
    rcases r.step b with ⟨next, _ | row⟩
    · exact ih next
    · show row :: next.rows rest = row :: _
      rw [ih next]
      rfl

theorem rows_append (r : Reader) (a b : Bytes) :
    r.rows (a ++ b) = (r.read a).2 ++ (r.read a).1.rows b := by
  rw [rows_eq_read, read_append, rows_eq_read, List.append_assoc]

/-- An octet that ends no row may be read first. -/
theorem read_cons_of_silent {r r' : Reader} {b : UInt8} (h : r.step b = (r', none))
    (rest : Bytes) : r.read (b :: rest) = r'.read rest := by
  rw [read_cons, h]
  rfl

/-- A piece in which no row ends may be read first. -/
theorem read_append_of_silent {r r' : Reader} {a : Bytes} (h : r.read a = (r', [])) (b : Bytes) :
    r.read (a ++ b) = r'.read b := by
  rw [read_append, h]
  rfl

/-! ## Places -/

/-- Whether a row is open that a row ending would end. -/
def HasRow (r : Reader) : Prop := r.place = .fieldStart ∨ r.place = .bare ∨ r.place = .quoteSeen

/-- The reader stands where a field begins, and nothing of the field is read. -/
def AtField (r : Reader) : Prop := (r.place = .rowStart ∨ r.place = .fieldStart) ∧ r.field = []

/-- The reader stands before a row, and nothing of the row is read. -/
def AtRow (r : Reader) : Prop := r.place = .rowStart ∧ r.field = [] ∧ r.fields = []

/-! ## Steps by octet -/

theorem countLine_of_ne {r : Reader} {b : UInt8} (h : b ≠ lineFeed) : r.countLine b = r :=
  if_neg h

/-- Outside quotes a comma ends the field, also an empty one where the row begins. -/
theorem step_comma {r : Reader} (h : r.place ≠ .quoted) : r.step comma = (r.endField, none) := by
  rcases r with ⟨place, field, fields, line, rowLine⟩
  cases place with
  | quoted => exact absurd rfl h
  | _ => rfl

/-- A row ending ends the open row. -/
theorem step_endsRow {r : Reader} {b : UInt8} (h : r.HasRow) (hb : endsRow b = true) :
    r.step b = ((r.countLine b).afterRow, some r.row) := by
  -- The rules for a comma and for a quote stand before the one for a row ending.
  have hplain : b ≠ comma ∧ b ≠ quote := by
    constructor <;> rintro rfl <;> exact absurd hb (by decide)
  have hcount : (r.countLine b).place = r.place ∧ (r.countLine b).row = r.row := by
    rw [countLine]
    split_ifs <;> exact ⟨rfl, rfl⟩
  rw [step, take, hcount.1]
  rcases h with h | h | h <;> simp only [h, beginField, hplain.1, hplain.2, hb, if_false, if_true,
    endRow, hcount.2]

/-- Before a row, a row ending is skipped. -/
theorem step_skip {r : Reader} {b : UInt8} (h : r.place = .rowStart) (hb : endsRow b = true) :
    r.step b = (r.countLine b, none) := by
  have hcount : (r.countLine b).place = .rowStart := by
    rw [← h, countLine]
    split_ifs <;> rfl
  rw [step, take, hcount]
  simp only [hb, if_true]

/-- A quote where a field begins opens the quotes. -/
theorem step_quote {r : Reader} (h : r.place = .rowStart ∨ r.place = .fieldStart) :
    r.step quote = ({ r with place := .quoted }, none) := by
  rcases r with ⟨place, field, fields, line, rowLine⟩
  rcases h with h | h <;> obtain rfl : place = _ := h <;> rfl

/-- Any other octet where a field begins is the first of a bare field. -/
theorem step_first {r : Reader} {b : UInt8} (h : r.place = .rowStart ∨ r.place = .fieldStart)
    (hcomma : b ≠ comma) (hquote : b ≠ quote) (hb : endsRow b = false) :
    r.step b = (r.keep .bare b, none) := by
  have hfeed : b ≠ lineFeed := by
    rintro rfl
    exact absurd hb (by decide)
  rw [step, countLine_of_ne hfeed, take]
  rcases h with h | h <;> simp only [h, beginField, hcomma, hquote, hb, if_false,
    Bool.false_eq_true]

/-! ## Stretches -/

/-- An octet that goes on with a bare field. -/
def IsBare (b : UInt8) : Prop := b ≠ comma ∧ endsRow b = false

instance (b : UInt8) : Decidable (IsBare b) := inferInstanceAs (Decidable (_ ∧ _))

/-- A stretch of ordinary octets is taken whole into a bare field. -/
theorem read_bare {r : Reader} {stretch : Bytes} (h : r.place = .bare)
    (hbare : ∀ b ∈ stretch, IsBare b) :
    r.read stretch = ({ r with field := stretch.reverse ++ r.field }, []) := by
  induction stretch generalizing r with
  | nil => rfl
  | cons b stretch ih =>
    obtain ⟨⟨hcomma, hends⟩, hrest⟩ := List.forall_mem_cons.1 hbare
    have hfeed : b ≠ lineFeed := by
      rintro rfl
      exact absurd hends (by decide)
    have hstep : r.step b = ({ r with field := b :: r.field }, none) := by
      rw [step, countLine_of_ne hfeed, take]
      simp only [h, hcomma, hends, if_false, Bool.false_eq_true, keep]
    -- The reader is still in the bare field, so what is left is a stretch of it again.
    rw [read_cons_of_silent hstep, ih (r := { r with field := b :: r.field }) h hrest,
      List.reverse_cons, List.append_assoc]
    rfl

/-- Between quotes any octet but a quote is kept, a line feed counts. -/
theorem step_quoted {r : Reader} {b : UInt8} (h : r.place = .quoted) (hquote : b ≠ quote) :
    r.step b = ({ r with field := b :: r.field, line := r.line + [b].count lineFeed }, none) := by
  rcases r with ⟨place, field, fields, line, rowLine⟩
  obtain rfl : place = .quoted := h
  by_cases hfeed : b = lineFeed
  · subst hfeed
    rfl
  · rw [step, countLine_of_ne hfeed, List.count_singleton, if_neg (by simpa using hfeed)]
    simp only [take, hquote, if_false, keep]
    rfl

/-- A quote between quotes may be the closing one. -/
theorem step_closing {r : Reader} (h : r.place = .quoted) :
    r.step quote = ({ r with place := .quoteSeen }, none) := by
  rcases r with ⟨place, field, fields, line, rowLine⟩
  obtain rfl : place = .quoted := h
  rfl

/-- Between quotes two quotes are one. -/
theorem read_quotePair {r : Reader} (h : r.place = .quoted) (rest : Bytes) :
    r.read (quote :: quote :: rest) = Reader.read { r with field := quote :: r.field } rest := by
  rcases r with ⟨place, field, fields, line, rowLine⟩
  obtain rfl : place = .quoted := h
  rfl

end Reader

/-- The inside of a quoted field: every quote is doubled. -/
def doubled (field : Bytes) : Bytes :=
  field.flatMap fun b => if b = quote then [quote, quote] else [b]

/-- Doubling quotes adds no line feed. -/
theorem count_doubled (field : Bytes) : (doubled field).count lineFeed = field.count lineFeed := by
  induction field with
  | nil => rfl
  | cons b field ih =>
    rw [doubled, List.flatMap_cons, ← doubled, List.count_append, ih]
    by_cases hb : b = quote
    · subst hb
      rw [if_pos rfl, List.count_cons_of_ne (by decide)]
      exact Nat.zero_add _
    · rw [if_neg hb, ← List.count_append]
      rfl

namespace Reader

/-- The inside of a quoted field is taken whole, each of its quotes once. -/
theorem read_doubled {r : Reader} (field : Bytes) (h : r.place = .quoted) :
    r.read (doubled field)
      = ({ r with field := field.reverse ++ r.field, line := r.line + field.count lineFeed },
          []) := by
  induction field generalizing r with
  | nil => rfl
  | cons b field ih =>
    rw [doubled, List.flatMap_cons, ← doubled]
    by_cases hb : b = quote
    · -- Between the two quotes the reader is not between quotes, so they are read as one step.
      subst hb
      rw [if_pos rfl, List.cons_append, List.cons_append, List.nil_append, read_quotePair h,
        ih (r := { r with field := quote :: r.field }) h, List.reverse_cons, List.append_assoc,
        List.count_cons_of_ne (by decide)]
      rfl
    · have hcount : (b :: field).count lineFeed = [b].count lineFeed + field.count lineFeed := by
        rw [← List.count_append]
        rfl
      rw [if_neg hb, List.cons_append, List.nil_append, read_cons_of_silent (step_quoted h hb),
        ih (by exact h), List.reverse_cons, List.append_assoc, hcount, Nat.add_assoc]
      rfl

end Reader

end Listing

end BookDatasets

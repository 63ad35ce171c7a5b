/-
  The line number in a complaint about a short row.

  1. **Specification** — `FirstShort` says where in a listing its first short row stands, by the rows
     of its beginnings: `skipped` are the row endings in front of it, `opening` is the octet that
     opens it, and `before` is everything up to the octet that has ended the row in front.
  2. **The number** (`line_of_short_row`) — it counts the line feeds of `before`.  Those of
     `skipped` are NOT counted, and the line feed of `\r\n` is one of them: the row in front has
     ended with the carriage return.  So the number is that of the row's own line exactly when no
     line feed is skipped; it is too small by one behind every `\r\n`.
  3. **The crux** (`exists_before`) — a row is numbered when the row in front of it ends.  So the
     input is taken apart row by row, and at each seam the number of the next row is that of the
     line.
-/
import BookDatasets.Proofs.Listing.Beginning
import BookDatasets.Proofs.Listing.ShortRow

namespace BookDatasets

/-- A line is never refused with a complaint about a row. -/
theorem Sink.writeJson_ne_shortRow (s : Sink) (value : Json) (line found expected : Nat) :
    (s.writeJson value).2 ≠ .error (.shortRow line found expected) := by
  rw [writeJson]
  rcases s.writeAll value.chunks with ⟨s₁, _ | _⟩
  · rintro ⟨⟩
  · dsimp only
    rcases s₁.write [0x0A] with ⟨s₂, _ | _⟩ <;> rintro ⟨⟩

namespace Listing

/-! ## Taking an input apart -/

namespace Reader

/-- In front of the first row there are row endings, and then the octet that opens it. -/
theorem exists_opening {r : Reader} {input : Bytes} {row : Row} {later : List Row} (hr : r.AtRow)
    (h : r.rows input = row :: later) :
    ∃ skipped opening rest, input = skipped ++ opening :: rest
      ∧ (∀ b ∈ skipped, endsRow b = true) ∧ endsRow opening = false := by
  induction input generalizing r with
  | nil =>
    rw [rows, finish, if_pos hr.1] at h
    cases h
  | cons b input ih =>
    rcases hb : endsRow b with _ | _
    · exact ⟨[], b, input, rfl, List.forall_mem_nil _, hb⟩
    · rw [rows, step_skip hr.1 hb] at h
      obtain ⟨skipped, opening, rest, rfl, hskipped, hopening⟩ := ih (atRow_countLine hr b) h
      exact ⟨b :: skipped, opening, rest, rfl, List.forall_mem_cons.2 ⟨hb, hskipped⟩, hopening⟩

/-- An octet ends no row, or it ends the open one. -/
theorem step_silent_or_ends (r : Reader) (b : UInt8) :
    (∃ next, r.step b = (next, none)) ∨ r.step b = ((r.countLine b).afterRow, some r.row) := by
  rcases r.step_cases b with ⟨-, -, hskip⟩ | ⟨-, -, hends⟩ | ⟨-, next, hstep, -⟩
  · exact Or.inl ⟨_, hskip⟩
  · exact Or.inr hends
  · exact Or.inl ⟨next, hstep⟩

/-- A row with others behind it has a row ending, and the next row has the number of its line. -/
theorem exists_ending {r : Reader} {input : Bytes} {row : Row} {later : List Row}
    (h : r.rows input = row :: later) (hlater : later ≠ []) :
    ∃ text ending rest r', input = text ++ ending :: rest ∧ (r.read text).2 = []
      ∧ r.read (text ++ [ending]) = (r', [row]) ∧ r'.AtRow ∧ r'.rowLine = r'.line
      ∧ r'.rows rest = later := by
  induction input generalizing r with
  | nil =>
    -- The end of an input ends one row at most.
    rw [rows, finish] at h
    split_ifs at h
    exact absurd (List.cons.inj h).2.symm hlater
  | cons b input ih =>
    rw [rows] at h
    rcases r.step_silent_or_ends b with ⟨next, hstep⟩ | hends
    · rw [hstep] at h
      obtain ⟨text, ending, rest, r', rfl, hsilent, hread, hr'⟩ := ih h
      refine ⟨b :: text, ending, rest, r', rfl, ?_, ?_, hr'⟩
      · rw [read_cons_of_silent hstep, hsilent]
      · rw [List.cons_append, read_cons_of_silent hstep, hread]
    · rw [hends] at h
      obtain ⟨rfl, hrest⟩ := List.cons.inj h
      refine ⟨[], b, input, (r.countLine b).afterRow, rfl, rfl, ?_, ⟨rfl, rfl, rfl⟩, rfl, hrest⟩
      rw [List.nil_append, read_cons, hends]
      rfl

/-- **Behind the rows in front of a row** it has the number of the line that is begun there.  If
there are any, the last octet has ended the last of them. -/
theorem exists_before {r : Reader} {input : Bytes} {earlier later : List Row} {row : Row}
    (hr : r.AtRow) (hline : r.rowLine = r.line) (h : r.rows input = earlier ++ row :: later) :
    ∃ before rest r', input = before ++ rest ∧ r.read before = (r', earlier) ∧ r'.AtRow
      ∧ r'.rowLine = r'.line ∧ r'.rows rest = row :: later
      ∧ (earlier = [] → before = [])
      ∧ (earlier ≠ [] → ∃ text ending, before = text ++ [ending] ∧ (r.read text).2 ≠ earlier) := by
  induction earlier generalizing r input with
  | nil => exact ⟨[], input, r, rfl, rfl, hr, hline, h, fun _ => rfl, fun hne => absurd rfl hne⟩
  | cons first earlier ih =>
    have hne : earlier ++ row :: later ≠ [] :=
      List.append_ne_nil_of_right_ne_nil earlier (List.cons_ne_nil row later)
    obtain ⟨text, ending, rest₁, r₁, rfl, hsilent, hread₁, hr₁, hline₁, hrest₁⟩ :=
      exists_ending h hne
    obtain ⟨before, rest, r', rfl, hread, hr', hline', hrest, hnone, hsome⟩ := ih hr₁ hline₁ hrest₁
    have hrun : ∀ piece, r.read (text ++ [ending] ++ piece)
        = ((r₁.read piece).1, first :: (r₁.read piece).2) := by
      intro piece
      rw [read_append, hread₁]
      rfl
    refine ⟨text ++ [ending] ++ before, rest, r', ?_, ?_, hr', hline', hrest, ?_, ?_⟩
    · rw [List.append_assoc, List.append_assoc]
      rfl
    · rw [hrun, hread]
    · rintro ⟨⟩
    · intro _
      by_cases hlast : earlier = []
      · -- This row is the last one in front, and it has not ended in its text.
        refine ⟨text, ending, ?_, ?_⟩
        · rw [hnone hlast, List.append_nil]
        · rw [hsilent]
          exact (List.cons_ne_nil first earlier).symm
      · obtain ⟨text', ending', rfl, hshort⟩ := hsome hlast
        refine ⟨text ++ [ending] ++ text', ending', ?_, ?_⟩
        · rw [List.append_assoc (text ++ [ending])]
        · rw [hrun]
          intro heq
          exact hshort (List.cons.inj heq).2

/-- Row endings before a row are no rows. -/
theorem rows_skipped {r : Reader} {skipped : Bytes} (hr : r.AtRow)
    (h : ∀ b ∈ skipped, endsRow b = true) : r.rows skipped = [] := by
  obtain ⟨r', hread, hr'⟩ := read_skip hr h
  rw [rows_eq_read, hread, finish, if_pos hr'.1]
  rfl

/-- Any other octet opens a row. -/
theorem length_rows_opening {r : Reader} {skipped : Bytes} {opening : UInt8} (hr : r.AtRow)
    (h : ∀ b ∈ skipped, endsRow b = true) (hopening : endsRow opening = false) :
    (r.rows (skipped ++ [opening])).length = 1 := by
  obtain ⟨r', hread, hr'⟩ := read_skip hr h
  rw [rows_append, hread, List.nil_append, rows]
  rcases r'.step_cases opening with ⟨-, hends, -⟩ | ⟨-, hends, -⟩ | ⟨-, next, hstep, hon⟩
  · rw [hopening] at hends
    cases hends
  · rw [hopening] at hends
    cases hends
  · rw [hstep]
    show next.finish.length = 1
    rw [finish, if_neg hon.opened]
    rfl

end Reader

/-- A listing is its mark, or none, and the rest; and each beginning of the rest, behind the mark,
is read as it stands. -/
theorem exists_mark (input : Bytes) :
    ∃ mark, (mark = [] ∨ mark = byteOrderMark) ∧ input = mark ++ withoutMark input
      ∧ ∀ front, front <+: withoutMark input → withoutMark (mark ++ front) = front := by
  by_cases hmark : byteOrderMark <+: input
  · obtain ⟨rest, rfl⟩ := hmark
    exact ⟨byteOrderMark, Or.inr rfl, rfl, fun _ _ => rfl⟩
  · have hplain := withoutMark_of_not_prefix hmark
    refine ⟨[], Or.inl rfl, hplain.symm, ?_⟩
    intro front hfront
    rw [hplain] at hfront
    exact withoutMark_of_not_prefix fun h => hmark (h.trans hfront)

/-- A listing that is taken apart in front of the row that follows `earlier`: its mark, the octets
up to the end of these rows, the row endings that are skipped, the octet that opens the row, and the
rest. `r` is the reader in front of the skipped octets. -/
structure Seam (input : Bytes) (earlier : List Row) (mark before skipped : Bytes) (opening : UInt8)
    (rest : Bytes) (r : Reader) : Prop where
  marked : mark = [] ∨ mark = byteOrderMark
  whole : input = mark ++ (before ++ (skipped ++ opening :: rest))
  /-- Behind the mark every beginning is read as it stands. -/
  fronts : ∀ front, front <+: before ++ (skipped ++ opening :: rest) →
    withoutMark (mark ++ front) = front
  read : Reader.start.read before = (r, earlier)
  atRow : r.AtRow
  numbered : r.rowLine = r.line
  skips : ∀ b ∈ skipped, endsRow b = true
  opens : endsRow opening = false
  none : earlier = [] → before = []
  some : earlier ≠ [] → ∃ text ending, before = text ++ [ending]
    ∧ (Reader.start.read text).2 ≠ earlier

/-- **In front of every row there is a seam**, and its reader has the number of the row. -/
theorem exists_seam {input : Bytes} {earlier later : List Row} {row : Row}
    (h : rows input = earlier ++ row :: later) :
    ∃ mark before skipped opening rest r,
      Seam input earlier mark before skipped opening rest r ∧ row.line = r.rowLine := by
  have hstart : Reader.start.AtRow := ⟨rfl, rfl, rfl⟩
  obtain ⟨mark, hmark, hinput, hfronts⟩ := exists_mark input
  obtain ⟨before, rest₁, r, hsplit, hread, hr, hline, hrest₁, hnone, hsome⟩ :=
    Reader.exists_before hstart rfl h
  obtain ⟨skipped, opening, rest, rfl, hskips, hopens⟩ := Reader.exists_opening hr hrest₁
  refine ⟨mark, before, skipped, opening, rest, r, ?_, Reader.line_of_rows hrest₁⟩
  rw [hsplit] at hinput hfronts
  exact ⟨hmark, hinput, hfronts, hread, hr, hline, hskips, hopens, hnone, hsome⟩

namespace Seam

variable {input : Bytes} {earlier : List Row} {mark before skipped : Bytes} {opening : UInt8}
  {rest : Bytes} {r : Reader}

theorem ended_front (h : Seam input earlier mark before skipped opening rest r) {front : Bytes}
    (hfront : front <+: before) : ended (mark ++ front) = (Reader.start.read front).2 := by
  have hread := h.fronts front (hfront.trans (List.prefix_append before _))
  rw [ended, hread]

/-- The rows of a beginning that goes on behind the earlier rows. -/
theorem rows_front (h : Seam input earlier mark before skipped opening rest r) {piece : Bytes}
    (hpiece : piece <+: skipped ++ opening :: rest) :
    rows (mark ++ before ++ piece) = earlier ++ r.rows piece := by
  have hread := h.fronts (before ++ piece) ((List.prefix_append_right_inj before).2 hpiece)
  rw [List.append_assoc, rows, hread, Reader.rows_append, h.read]

/-- The skipped row endings make no row. -/
theorem rows_skipped (h : Seam input earlier mark before skipped opening rest r) :
    rows (mark ++ before ++ skipped) = earlier := by
  rw [h.rows_front (List.prefix_append skipped _), Reader.rows_skipped h.atRow h.skips,
    List.append_nil]

/-- The octet behind them opens one. -/
theorem length_rows_opening (h : Seam input earlier mark before skipped opening rest r) :
    (rows (mark ++ before ++ skipped ++ [opening])).length = earlier.length + 1 := by
  have hpiece : skipped ++ [opening] <+: skipped ++ opening :: rest :=
    (List.prefix_append_right_inj skipped).2 ⟨rest, rfl⟩
  rw [List.append_assoc (mark ++ before), h.rows_front hpiece, List.length_append,
    Reader.length_rows_opening h.atRow h.skips h.opens]

/-- The number of the next row counts the line feeds up to the end of the earlier ones. -/
theorem rowLine_eq (h : Seam input earlier mark before skipped opening rest r) :
    r.rowLine = 1 + (mark ++ before).count lineFeed := by
  have hfeeds : mark.count lineFeed = 0 := by
    rcases h.marked with hmark | hmark <;> rw [hmark] <;> rfl
  have hcount : r.line = 1 + before.count lineFeed := by
    have hline := Reader.line_read .start before
    rw [h.read] at hline
    exact hline
  rw [h.numbered, hcount, List.count_append, hfeeds, Nat.zero_add]

end Seam

/-! ## The first short row -/

/-- Where in a listing its first short row stands: the listing is `before`, then `skipped`, then the
octet `opening` of the row, and then the rest. -/
structure FirstShort (input before skipped : Bytes) (opening : UInt8) (rest : Bytes)
    (found : Nat) : Prop where
  whole : input = before ++ skipped ++ opening :: rest
  /-- The rows in front of it are long. -/
  long : ∀ row ∈ rows (before ++ skipped), 7 ≤ row.fields.length
  /-- The octet opens a row. -/
  opens : (rows (before ++ skipped ++ [opening])).length = (rows (before ++ skipped)).length + 1
  /-- And this row is short. -/
  short : ∃ short later, rows input = rows (before ++ skipped) ++ short :: later
    ∧ short.fields.length = found ∧ found < 7
  /-- Nothing but row endings is skipped. -/
  skips : ∀ b ∈ skipped, endsRow b = true
  /-- All rows in front have ended before that. -/
  allEnded : ended before = rows (before ++ skipped)
  /-- The last of them has ended with the last octet of `before`; if there is none, there is no such
  octet either, or those of the byte order mark. -/
  last : (rows (before ++ skipped) ≠ [] → ∃ text ending, before = text ++ [ending]
      ∧ ended text ≠ ended before)
    ∧ (rows (before ++ skipped) = [] → before = [] ∨ before = byteOrderMark)

/-- **A short row behind long ones** is the first short row of the listing. -/
theorem Seam.firstShort {input : Bytes} {earlier later : List Row} {short : Row}
    {mark before skipped : Bytes} {opening : UInt8} {rest : Bytes} {r : Reader}
    (h : Seam input earlier mark before skipped opening rest r)
    (hrows : rows input = earlier ++ short :: later) (hlong : ∀ row ∈ earlier, IsLong row)
    (hshort : ¬ IsLong short) :
    FirstShort input (mark ++ before) skipped opening rest short.fields.length := by
  have hended : ended (mark ++ before) = earlier := by
    rw [h.ended_front (List.prefix_refl before), h.read]
  constructor
  · rw [List.append_assoc, List.append_assoc]
    exact h.whole
  · rw [h.rows_skipped]
    exact hlong
  · rw [h.length_rows_opening, h.rows_skipped]
  · rw [h.rows_skipped]
    exact ⟨short, later, hrows, rfl, Nat.lt_of_not_le hshort⟩
  · exact h.skips
  · rw [h.rows_skipped]
    exact hended
  · rw [h.rows_skipped]
    constructor
    · intro hne
      obtain ⟨text, ending, hbefore, hunended⟩ := h.some hne
      refine ⟨mark ++ text, ending, ?_, ?_⟩
      · rw [hbefore, List.append_assoc]
      · rw [hended, h.ended_front ⟨[ending], hbefore.symm⟩]
        exact hunended
    · intro hnil
      rw [h.none hnil, List.append_nil]
      exact h.marked

/-! ## The complaint -/

/-- **A complaint about a row** is about the first short one. -/
theorem writeRows_shortRow {count line found expected : Nat} {s : Sink} {rows : List Row}
    (h : (writeRows count s rows).2 = .error (.shortRow line found expected)) :
    ∃ earlier short later, rows = earlier ++ short :: later ∧ (∀ row ∈ earlier, IsLong row)
      ∧ ¬ IsLong short
      ∧ line = short.line ∧ found = short.fields.length ∧ expected = minFields := by
  induction rows generalizing count s with
  | nil => cases h
  | cons row rows ih =>
    rw [writeRows] at h
    by_cases hlong : IsLong row
    · rw [labels_of_long hlong] at h
      dsimp only at h
      rcases hwrite : s.writeJson (shown row.fields).toJson with ⟨s', e | ⟨⟩⟩
      · have hrefused := s.writeJson_ne_shortRow (shown row.fields).toJson line found expected
        rw [hwrite] at h hrefused
        have he : e = .shortRow line found expected := Except.error.inj h
        exact absurd (congrArg Except.error he) hrefused
      · rw [hwrite] at h
        obtain ⟨earlier, short, later, rfl, hall, hrest⟩ := ih h
        exact ⟨row :: earlier, short, later, rfl, List.forall_mem_cons.2 ⟨hlong, hall⟩, hrest⟩
    · rw [labels_of_short hlong] at h
      obtain ⟨rfl, rfl, rfl⟩ := ConvertError.shortRow.inj (Except.error.inj h)
      exact ⟨[], row, rows, rfl, List.forall_mem_nil _, hlong, rfl, rfl, rfl⟩

/-- **The line number of a short row** counts the line feeds up to the end of the row in front.  It
is the number of the line that the row begins on exactly when no line feed is skipped in between. -/
theorem line_of_short_row {input : Bytes} {s s' : Sink} {line found expected : Nat}
    (h : writeDataset input s = (s', .error (.shortRow line found expected))) :
    ∃ before skipped opening rest, FirstShort input before skipped opening rest found
      ∧ line = 1 + before.count lineFeed
      ∧ (line = 1 + (before ++ skipped).count lineFeed ↔ lineFeed ∉ skipped) := by
  obtain ⟨earlier, short, later, hrows, hlong, hshort, rfl, rfl, rfl⟩ :=
    writeRows_shortRow (congrArg Prod.snd h)
  obtain ⟨mark, before, skipped, opening, rest, r, hseam, hnumber⟩ := exists_seam hrows
  have hline : short.line = 1 + (mark ++ before).count lineFeed := hnumber.trans hseam.rowLine_eq
  have hcount : (mark ++ before ++ skipped).count lineFeed
      = (mark ++ before).count lineFeed + skipped.count lineFeed := List.count_append
  have hfirst := hseam.firstShort hrows hlong hshort
  refine ⟨mark ++ before, skipped, opening, rest, hfirst, hline, ?_⟩
  rw [hline, hcount, ← List.count_eq_zero]
  omega

/-- A short row behind a quoted line feed, a row that ends in a line feed, and an empty line. -/
def spacedListing : Bytes := Utf8.encode "1,,,\"T\n\",A,1,C\n\r2,U".toList

theorem line_of_spacedListing :
    writeDataset spacedListing .unlimited
        = ((writeDataset spacedListing .unlimited).1, .error (.shortRow 3 2 7))
    ∧ ∃ before skipped opening rest, FirstShort spacedListing before skipped opening rest 2
      ∧ 3 = 1 + before.count lineFeed
      ∧ (3 = 1 + (before ++ skipped).count lineFeed ↔ lineFeed ∉ skipped) := by
  have hresult : (writeDataset spacedListing .unlimited).2 = .error (.shortRow 3 2 7) := by
    decide +kernel
  have hrun : writeDataset spacedListing .unlimited
      = ((writeDataset spacedListing .unlimited).1, .error (.shortRow 3 2 7)) :=
    Prod.ext rfl hresult
  exact ⟨hrun, line_of_short_row hrun⟩

/-- A row that ends in a carriage return and a line feed. -/
def endedRow : Bytes := Utf8.encode "a,b,c,T,A,1,C\r\n".toList

/-- **Behind a carriage return and a line feed the number is too small by one**: a short row that
begins behind one line feed is said to stand on line one. -/
theorem line_behind_endedRow :
    FirstShort (endedRow ++ [0x78]) endedRow.dropLast [lineFeed] 0x78 [] 1
    ∧ (writeDataset (endedRow ++ [0x78]) .unlimited).2 = .error (.shortRow 1 1 7)
    ∧ 1 + (endedRow.dropLast ++ [lineFeed]).count lineFeed = 2 := by
  have hfirst : FirstShort (endedRow ++ [0x78]) endedRow.dropLast [lineFeed] 0x78 [] 1 := by
    constructor
    · decide
    · decide
    · decide
    · exact ⟨⟨1, [[0x78]]⟩, [], by decide, rfl, by decide⟩
    · intro b hb
      rw [List.mem_singleton.1 hb]
      rfl
    · decide
    · constructor
      · intro _
        exact ⟨endedRow.dropLast.dropLast, carriageReturn, by decide, by decide⟩
      · intro hnone
        exact absurd hnone (by decide)
  exact ⟨hfirst, by decide +kernel, by decide⟩

end Listing

end BookDatasets

/-
  Runs of JSON lines.

  1. **Lines, then an ending** — a dataset run writes line after line and ends with an answer of its
     own, the number of its lines or what is wrong with the next row.  `Sink.writeThen` is such a
     run: an ending that counts only when no line was refused.
  2. **Without a limit** the ending is the answer, and the output is the lines end to end.
  3. **With a limit** (`writeThen_cutAt`) — the output is the first octets of the same run without
     one, and the octet at the cut tells the refusal.  That octet decides because a line feed stands
     nowhere but at the end of a line (`lineFeed_not_mem_bytes`), so a cut in FRONT of a line feed is
     a cut behind a whole text.
-/
import BookDatasets.Proofs.Json.Lines
import BookDatasets.Proofs.Sink.Limit

namespace BookDatasets

namespace Sink

variable {α : Type}

/-! ## Lines, then an ending -/

/-- Writes the lines of the values, and answers with the ending unless a line is refused. -/
def writeThen (s : Sink) (values : List Json) (ending : Except ConvertError α) :
    Sink × Except ConvertError α :=
  ((s.writeLines values).1, (s.writeLines values).2.bind fun _ => ending)

theorem writeThen_cons (s : Sink) (value : Json) (values : List Json)
    (ending : Except ConvertError α) :
    s.writeThen (value :: values) ending =
      match s.writeJson value with
      | (s, .error e) => (s, .error e)
      | (s, .ok ()) => s.writeThen values ending := by
  rw [writeThen, writeLines]
  rcases s.writeJson value with ⟨s', e | ⟨⟩⟩
  · rfl
  · rfl

/-- Without a limit the ending is the answer, and the output is the lines. -/
theorem writeThen_unlimited (values : List Json) (ending : Except ConvertError α) :
    ∃ s, Sink.unlimited.writeThen values ending = (s, ending)
      ∧ s.taken = Bytes.ofLines (values.map Json.bytes) := by
  obtain ⟨s, hrun, htaken⟩ := writeLines_unlimited (s := .unlimited) rfl values
  refine ⟨s, ?_, htaken⟩
  rw [writeThen, hrun]
  rfl

/-! ## The octet at the cut -/

/-- How a run is refused in front of an octet. -/
def refusalAt (octet : Option UInt8) : ConvertError :=
  if octet = some 0x0A then .io .outputFull else .json .outputFull

/-- The octet at the limit tells how a line is refused, whatever comes behind the line. -/
theorem lineRefusal_eq {limit : Nat} {written : Bytes} {value : Json} (rest : Bytes)
    (hfits : written.length ≤ limit) (hover : limit < (written ++ value.line).length) :
    lineRefusal limit (written ++ value.line).length
      = refusalAt ((written ++ value.line ++ rest)[limit]?) := by
  have hline : written ++ value.line = written ++ value.bytes ++ [0x0A] :=
    (List.append_assoc written value.bytes [0x0A]).symm
  have hlength : (written ++ value.line).length = (written ++ value.bytes).length + 1 := by
    rw [hline, List.length_append]
    rfl
  rw [List.getElem?_append_left hover, lineRefusal, refusalAt, hlength]
  by_cases hfeed : (written ++ value.bytes).length = limit
  · -- The text ends at the limit, so the octet there is the line feed.
    have hoctet : (written ++ value.line)[limit]? = some 0x0A := by
      rw [hline, List.getElem?_append_right (Nat.le_of_eq hfeed), hfeed, Nat.sub_self]
      rfl
    rw [if_pos (by omega), if_pos hoctet]
  · have htext : limit < (written ++ value.bytes).length := by omega
    have hoctet : (written ++ value.line)[limit]? ≠ some 0x0A := by
      intro h
      rw [hline, List.getElem?_append_left htext, List.getElem?_append_right hfits] at h
      exact Json.lineFeed_not_mem_bytes value (List.mem_of_getElem? h)
    rw [if_neg (by omega), if_neg hoctet]

/-! ## A run with a limit -/

/-- **Lines that fit** are all written. -/
theorem Filled.writeLines_ok {limit : Nat} {written : Bytes} {s : Sink} {values : List Json}
    (h : Filled limit written s)
    (hfit : (written ++ Bytes.ofLines (values.map Json.bytes)).length ≤ limit) :
    ∃ s', s.writeLines values = (s', .ok ())
      ∧ Filled limit (written ++ Bytes.ofLines (values.map Json.bytes)) s' := by
  induction values generalizing written s with
  | nil =>
    refine ⟨s, rfl, ?_⟩
    rw [List.map_nil, Bytes.ofLines, List.flatMap_nil, List.append_nil]
    exact h
  | cons value values ih =>
    rw [Json.ofLines_bytes_cons, ← List.append_assoc] at hfit ⊢
    have hfirst : (written ++ value.line).length ≤ limit := by
      rw [List.length_append] at hfit
      omega
    obtain ⟨s₁, hwrite, h₁⟩ := h.writeJson_ok hfirst
    obtain ⟨s₂, hrun, h₂⟩ := ih h₁ hfit
    refine ⟨s₂, ?_, h₂⟩
    rw [writeLines, hwrite]
    exact hrun

/-- **Lines that do not fit** are cut at the limit, and the octet there tells the refusal. -/
theorem Filled.writeLines_full {limit : Nat} {written : Bytes} {s : Sink} {values : List Json}
    (h : Filled limit written s)
    (hover : limit < (written ++ Bytes.ofLines (values.map Json.bytes)).length) :
    ∃ s', s.writeLines values = (s', .error
        (refusalAt ((written ++ Bytes.ofLines (values.map Json.bytes))[limit]?)))
      ∧ s'.taken = (written ++ Bytes.ofLines (values.map Json.bytes)).take limit := by
  induction values generalizing written s with
  | nil =>
    -- Nothing is written, and what was written has fitted.
    rw [List.map_nil, Bytes.ofLines, List.flatMap_nil, List.append_nil] at hover
    exact absurd hover (Nat.not_lt.2 h.fits)
  | cons value values ih =>
    rw [Json.ofLines_bytes_cons, ← List.append_assoc] at hover ⊢
    by_cases hfirst : (written ++ value.line).length ≤ limit
    · obtain ⟨s₁, hwrite, h₁⟩ := h.writeJson_ok hfirst
      obtain ⟨s₂, hrun, htaken⟩ := ih h₁ hover
      refine ⟨s₂, ?_, htaken⟩
      rw [writeLines, hwrite]
      exact hrun
    · have hcut : limit < (written ++ value.line).length := Nat.lt_of_not_le hfirst
      obtain ⟨s₁, hwrite, htaken⟩ := h.writeJson_full hcut
      refine ⟨s₁, ?_, ?_⟩
      · rw [writeLines, hwrite, lineRefusal_eq _ h.fits hcut]
      · rw [htaken, List.take_append_of_le_length (Nat.le_of_lt hcut)]

/-- What a limit leaves of a run, given as output and answer.  A run that fits is as it was without
the limit.  Of any other the first octets are left, and it is refused as plain output when the first
octet that is missing is a line feed, and as JSON otherwise. -/
structure CutAt (limit : Nat) (full cut : Sink × Except ConvertError α) : Prop where
  fits : full.1.taken.length ≤ limit → cut.1.taken = full.1.taken ∧ cut.2 = full.2
  output : limit < full.1.taken.length → cut.1.taken = full.1.taken.take limit
  plain : limit < full.1.taken.length → full.1.taken[limit]? = some 0x0A →
    cut.2 = .error (.io .outputFull)
  json : limit < full.1.taken.length → full.1.taken[limit]? ≠ some 0x0A →
    cut.2 = .error (.json .outputFull)

/-- **A limit cuts a run at a clean prefix.** -/
theorem writeThen_cutAt (limit : Nat) (values : List Json) (ending : Except ConvertError α) :
    CutAt limit (Sink.unlimited.writeThen values ending)
      ((Sink.limited limit).writeThen values ending) := by
  obtain ⟨full, hfull, houtput⟩ := writeThen_unlimited values ending
  have hstart := filled_limited limit
  have hover : limit < full.taken.length →
      ∃ s, (Sink.limited limit).writeThen values ending = (s, .error (refusalAt full.taken[limit]?))
        ∧ s.taken = full.taken.take limit := by
    rw [houtput]
    intro h
    obtain ⟨s, hrun, htaken⟩ := hstart.writeLines_full h
    refine ⟨s, ?_, htaken⟩
    rw [writeThen, hrun]
    rfl
  rw [hfull]
  constructor
  · show full.taken.length ≤ limit → _
    rw [houtput]
    intro h
    obtain ⟨s, hrun, hfilled⟩ := hstart.writeLines_ok h
    rw [writeThen, hrun]
    exact ⟨hfilled.taken, rfl⟩
  · intro h
    obtain ⟨s, hrun, htaken⟩ := hover h
    rw [hrun]
    exact htaken
  · intro h hfeed
    obtain ⟨s, hrun, -⟩ := hover h
    rw [hrun, refusalAt, if_pos hfeed]
  · intro h hother
    obtain ⟨s, hrun, -⟩ := hover h
    rw [hrun, refusalAt, if_neg hother]

end Sink

end BookDatasets

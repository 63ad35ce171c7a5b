/-
  Sinks with a limit.

  1. **The invariant** — `Filled limit written s`: the sink `s` was made with room for `limit`
     octets, `written` was written to it, and all of it has fitted.  So what is left of the room is
     a function of what was written, and nothing else has to be carried through a run.
  2. **A write either keeps it or ends the run** — what still fits is taken whole (`write_ok`).  What
     does not fit leaves the first `limit` octets of everything written, the refused write included
     (`write_full`): a limit cuts at an OCTET, wherever in a write it lies.
  3. **Lines** — a custom line is refused in one way only.  A JSON line is written in two steps, its
     text and its line feed, and these are refused differently: the refusal is plain output exactly
     when the line feed is the ONE octet too many (`lineRefusal`).
-/
import BookDatasets.Proofs.Sink

namespace BookDatasets

namespace Sink

/-! ## The invariant -/

/-- A sink with a limit has taken all that was written to it. -/
structure Filled (limit : Nat) (written : Bytes) (s : Sink) : Prop where
  room : s.room = some (limit - written.length)
  taken : s.taken = written
  fits : written.length ≤ limit

theorem filled_limited (limit : Nat) : Filled limit [] (.limited limit) := by
  constructor
  · rfl
  · rfl
  · exact Nat.zero_le limit

/-! ## A write -/

/-- **What fits is taken whole**, and the invariant goes on. -/
theorem Filled.write_ok {limit : Nat} {written b : Bytes} {s : Sink} (h : Filled limit written s)
    (hfit : (written ++ b).length ≤ limit) :
    ∃ s', s.write b = (s', true) ∧ Filled limit (written ++ b) s' := by
  rcases s with ⟨room, reversed⟩
  obtain rfl : room = some (limit - written.length) := h.room
  have hreversed : reversed.reverse = written := h.taken
  rw [List.length_append] at hfit
  have hwhole : b.length ≤ limit - written.length := by omega
  refine ⟨⟨some (limit - written.length - b.length), b.reverse ++ reversed⟩, ?_, ?_, ?_, ?_⟩
  · simp only [write, List.take_of_length_le hwhole, hwhole, decide_true]
  · show some (limit - written.length - b.length) = some (limit - (written ++ b).length)
    rw [List.length_append, Nat.sub_add_eq]
  · show (b.reverse ++ reversed).reverse = written ++ b
    rw [List.reverse_append, List.reverse_reverse, hreversed]
  · rw [List.length_append]
    exact hfit

/-- **What does not fit is cut at the limit**, and it is refused. -/
theorem Filled.write_full {limit : Nat} {written b : Bytes} {s : Sink} (h : Filled limit written s)
    (hover : limit < (written ++ b).length) :
    ∃ s', s.write b = (s', false) ∧ s'.taken = (written ++ b).take limit := by
  rcases s with ⟨room, reversed⟩
  obtain rfl : room = some (limit - written.length) := h.room
  have hreversed : reversed.reverse = written := h.taken
  have hfits := h.fits
  rw [List.length_append] at hover
  have hcut : ¬ b.length ≤ limit - written.length := by omega
  refine ⟨⟨some (limit - written.length - b.length),
    (b.take (limit - written.length)).reverse ++ reversed⟩, ?_, ?_⟩
  · simp only [write, hcut, decide_false]
  · show ((b.take (limit - written.length)).reverse ++ reversed).reverse = (written ++ b).take limit
    rw [List.reverse_append, List.reverse_reverse, hreversed, List.take_append,
      List.take_of_length_le hfits]

/-! ## Custom lines -/

theorem Filled.writeCustom_ok {limit : Nat} {written : Bytes} {s : Sink}
    {fields : List (Text × Text)} (h : Filled limit written s)
    (hfit : (written ++ CustomLine.line fields).length ≤ limit) :
    ∃ s', s.writeCustom fields = (s', .ok ())
      ∧ Filled limit (written ++ CustomLine.line fields) s' := by
  obtain ⟨s', hwrite, h'⟩ := h.write_ok hfit
  refine ⟨s', ?_, h'⟩
  rw [writeCustom, writeAll_eq_write, ← CustomLine.line, hwrite]

theorem Filled.writeCustom_full {limit : Nat} {written : Bytes} {s : Sink}
    {fields : List (Text × Text)} (h : Filled limit written s)
    (hover : limit < (written ++ CustomLine.line fields).length) :
    ∃ s', s.writeCustom fields = (s', .error (.io .outputFull))
      ∧ s'.taken = (written ++ CustomLine.line fields).take limit := by
  obtain ⟨s', hwrite, htaken⟩ := h.write_full hover
  refine ⟨s', ?_, htaken⟩
  rw [writeCustom, writeAll_eq_write, ← CustomLine.line, hwrite]

/-! ## JSON lines -/

/-- How a JSON line is refused that brings the output to `length` octets, more than the limit: as
plain output when only its line feed is too much, and as JSON otherwise. -/
def lineRefusal (limit length : Nat) : ConvertError :=
  if length = limit + 1 then .io .outputFull else .json .outputFull

theorem Filled.writeJson_ok {limit : Nat} {written : Bytes} {s : Sink} {value : Json}
    (h : Filled limit written s) (hfit : (written ++ value.line).length ≤ limit) :
    ∃ s', s.writeJson value = (s', .ok ()) ∧ Filled limit (written ++ value.line) s' := by
  rw [Json.line, ← List.append_assoc] at hfit ⊢
  have htextfit : (written ++ value.bytes).length ≤ limit := by
    rw [List.length_append] at hfit
    omega
  obtain ⟨s₁, htext, h₁⟩ := h.write_ok htextfit
  obtain ⟨s₂, hfeed, h₂⟩ := h₁.write_ok hfit
  refine ⟨s₂, ?_, h₂⟩
  rw [writeJson, writeAll_eq_write, ← Json.bytes, htext]
  dsimp only
  rw [hfeed]

/-- **A JSON line that does not fit** is cut at the limit.  Either its text is cut, or all of the
text stands and the line feed is the octet that is missing. -/
theorem Filled.writeJson_full {limit : Nat} {written : Bytes} {s : Sink} {value : Json}
    (h : Filled limit written s) (hover : limit < (written ++ value.line).length) :
    ∃ s', s.writeJson value = (s', .error (lineRefusal limit (written ++ value.line).length))
      ∧ s'.taken = (written ++ value.line).take limit := by
  rw [Json.line, ← List.append_assoc] at hover ⊢
  have hlength : ((written ++ value.bytes) ++ [0x0A]).length
      = (written ++ value.bytes).length + 1 := List.length_append
  rw [hlength] at hover
  by_cases htextfit : (written ++ value.bytes).length ≤ limit
  · -- The text ends exactly at the limit.
    have hexact : (written ++ value.bytes).length = limit := by omega
    obtain ⟨s₁, htext, h₁⟩ := h.write_ok htextfit
    obtain ⟨s₂, hfeed, htaken⟩ := h₁.write_full (by rw [hlength]; omega)
    refine ⟨s₂, ?_, htaken⟩
    rw [writeJson, writeAll_eq_write, ← Json.bytes, htext]
    dsimp only
    rw [hfeed, lineRefusal, hlength, if_pos (by omega)]
  · have hcut : limit < (written ++ value.bytes).length := by omega
    obtain ⟨s₁, htext, htaken⟩ := h.write_full hcut
    refine ⟨s₁, ?_, ?_⟩
    · rw [writeJson, writeAll_eq_write, ← Json.bytes, htext, lineRefusal, hlength,
        if_neg (by omega)]
    · rw [htaken, List.take_append_of_le_length (Nat.le_of_lt hcut)]

end Sink

end BookDatasets

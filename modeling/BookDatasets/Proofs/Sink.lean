/-
  Writing to sinks.

  1. **Chunks do not matter** — writing chunk after chunk is writing them laid end to end
     (`writeAll_eq_write`): the first chunk that does not fit fills the sink, so what would follow
     it changes nothing.
  2. **What a successful write leaves** — exactly the written octets, after what was there.
  3. **Without a limit** every write succeeds, and the sink still has no limit afterwards.

  So a line is written as a whole or not at all as far as success goes, and the lines of a run that
  succeeded stand one after another in what the sink has taken.
-/
import BookDatasets.Proofs.Text.Lines
import BookDatasets.Sink
import Mathlib.Data.List.Basic

namespace BookDatasets

namespace Sink

/-! ## Chunks -/

/-- Writing two pieces is writing the second after the first has fitted. -/
theorem write_append (s : Sink) (a b : Bytes) :
    s.write (a ++ b) =
      match s.write a with
      | (s, true) => s.write b
      | (s, false) => (s, false) := by
  rcases s with ⟨_ | room, reversed⟩
  · simp [write]
  · by_cases ha : a.length ≤ room
    · have htake : (a ++ b).take room = a ++ b.take (room - a.length) := by
        rw [List.take_append, List.take_of_length_le ha]
      have hfits : a.length + b.length ≤ room ↔ b.length ≤ room - a.length := by omega
      simp only [write, htake, hfits, ha, List.take_of_length_le ha, decide_true,
        List.reverse_append, List.length_append, List.append_assoc, Nat.sub_add_eq]
    · -- The first piece alone fills the sink.
      have htake : (a ++ b).take room = a.take room := by
        rw [List.take_append, show room - a.length = 0 by omega, List.take_zero, List.append_nil]
      have hfits : ¬ (a ++ b).length ≤ room := by
        rw [List.length_append]
        omega
      have hfull : room - (a ++ b).length = room - a.length := by
        rw [List.length_append]
        omega
      simp only [write, htake, hfull, hfits, ha, decide_false]

/-- **Chunk boundaries do not matter.** -/
theorem writeAll_eq_write (s : Sink) (chunks : List Bytes) :
    s.writeAll chunks = s.write chunks.flatten := by
  induction chunks generalizing s with
  | nil =>
    rcases s with ⟨_ | room, reversed⟩ <;> simp [writeAll, write]
  | cons chunk chunks ih =>
    rw [List.flatten_cons, write_append, writeAll]
    rcases s.write chunk with ⟨s', fits⟩
    cases fits with
    | true => exact ih s'
    | false => rfl

/-! ## Success -/

/-- What fits is taken whole. -/
theorem taken_write {s s' : Sink} {b : Bytes} (h : s.write b = (s', true)) :
    s'.taken = s.taken ++ b := by
  rcases s with ⟨_ | room, reversed⟩
  · obtain ⟨rfl, -⟩ := Prod.mk.inj h
    simp [taken]
  · obtain ⟨rfl, hfits⟩ := Prod.mk.inj h
    have hlength : b.length ≤ room := of_decide_eq_true hfits
    simp [taken, List.take_of_length_le hlength]

/-- A JSON line that is written stands whole after what was there. -/
theorem taken_writeJson {s s' : Sink} {value : Json} (h : s.writeJson value = (s', .ok ())) :
    s'.taken = s.taken ++ value.line := by
  rw [writeJson, writeAll_eq_write] at h
  rcases htext : s.write value.chunks.flatten with ⟨s₁, _ | _⟩
  · rw [htext] at h
    exact nomatch (Prod.mk.inj h).2
  · rw [htext] at h
    dsimp only at h
    rcases hfeed : s₁.write [0x0A] with ⟨s₂, _ | _⟩
    · rw [hfeed] at h
      exact nomatch (Prod.mk.inj h).2
    · rw [hfeed] at h
      obtain ⟨rfl, -⟩ := Prod.mk.inj h
      rw [taken_write hfeed, taken_write htext, List.append_assoc]
      rfl

/-- A custom line that is written stands whole after what was there. -/
theorem taken_writeCustom {s s' : Sink} {fields : List (Text × Text)}
    (h : s.writeCustom fields = (s', .ok ())) :
    s'.taken = s.taken ++ CustomLine.line fields := by
  rw [writeCustom, writeAll_eq_write] at h
  rcases hline : s.write (CustomLine.chunks fields).flatten with ⟨s₁, _ | _⟩
  · rw [hline] at h
    exact nomatch (Prod.mk.inj h).2
  · rw [hline] at h
    obtain ⟨rfl, -⟩ := Prod.mk.inj h
    exact taken_write hline

/-! ## No limit -/

theorem write_unlimited {s : Sink} (h : s.room = none) (b : Bytes) :
    ∃ s', s.write b = (s', true) ∧ s'.room = none := by
  refine ⟨⟨none, b.reverse ++ s.reversed⟩, ?_, rfl⟩
  rw [write, h]

theorem writeJson_unlimited {s : Sink} (h : s.room = none) (value : Json) :
    ∃ s', s.writeJson value = (s', .ok ()) ∧ s'.room = none := by
  obtain ⟨s₁, htext, h₁⟩ := write_unlimited h value.chunks.flatten
  obtain ⟨s₂, hfeed, h₂⟩ := write_unlimited h₁ [0x0A]
  refine ⟨s₂, ?_, h₂⟩
  rw [writeJson, writeAll_eq_write, htext]
  dsimp only
  rw [hfeed]

theorem writeCustom_unlimited {s : Sink} (h : s.room = none) (fields : List (Text × Text)) :
    ∃ s', s.writeCustom fields = (s', .ok ()) ∧ s'.room = none := by
  obtain ⟨s', hline, h'⟩ := write_unlimited h (CustomLine.chunks fields).flatten
  refine ⟨s', ?_, h'⟩
  rw [writeCustom, writeAll_eq_write, hline]

end Sink

end BookDatasets

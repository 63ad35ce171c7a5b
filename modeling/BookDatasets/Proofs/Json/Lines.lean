/-
  Lines of JSON: each reads back alone, and none runs into the next.

  1. **Label records** — the reader's record of a written record is that record, with its pairs in
     order, repeated keys and nulls included.  So the lines of records, cut apart, read back as the
     records (`LabelRecord.splitOn_lines`, `LabelRecord.map_read?_lines`).
  2. **A run of lines** — `Sink.writeLines` writes value after value.  Without a limit the sink has
     then taken one line per value, laid end to end.
  3. **Reading a run back** — a line holds no line feed but its last octet (`isPrintable_chunks`),
     so a cut at every line feed finds the lines, and each of them reads back (`read?_bytes`).
     An output therefore says which values it was written for.
-/
import BookDatasets.Proofs.Json.Printable
import BookDatasets.Proofs.Sink

namespace BookDatasets

/-! ## Label records -/

theorem LabelPair.ofJson?_toJson (pair : LabelPair) :
    LabelPair.ofJson? pair.toJson = some pair := by
  rcases pair with ⟨key, _ | val⟩
  · rfl
  · rfl

theorem LabelPair.mapM_ofJson? (pairs : List LabelPair) :
    (pairs.map LabelPair.toJson).mapM LabelPair.ofJson? = some pairs := by
  induction pairs with
  | nil => rfl
  | cons pair pairs ih =>
    rw [List.map_cons, List.mapM_cons, LabelPair.ofJson?_toJson, ih]
    rfl

theorem LabelRecord.ofJson?_toJson (record : LabelRecord) :
    LabelRecord.ofJson? record.toJson = some record := by
  rw [toJson, ofJson?, LabelPair.mapM_ofJson?]
  rfl

/-- **The octets of a record read back as the record.** -/
theorem LabelRecord.read?_bytes (record : LabelRecord) :
    LabelRecord.read? record.toJson.bytes = some record := by
  rw [read?, Json.read?_bytes]
  exact LabelRecord.ofJson?_toJson record

namespace LabelRecord

/-- The lines of records, each without its line feed. -/
def lines (records : List LabelRecord) : List Bytes :=
  records.map fun record => record.toJson.bytes

theorem ofLines_lines_cons (record : LabelRecord) (records : List LabelRecord) :
    Bytes.ofLines (lines (record :: records))
      = record.toJson.line ++ Bytes.ofLines (lines records) := by
  rw [lines, List.map_cons, Bytes.ofLines_cons, Json.line, List.append_assoc]
  rfl

theorem ofLines_lines_append (a b : List LabelRecord) :
    Bytes.ofLines (lines (a ++ b)) = Bytes.ofLines (lines a) ++ Bytes.ofLines (lines b) := by
  rw [lines, List.map_append, Bytes.ofLines_append]
  rfl

/-- A cut at every line feed gives the lines back. -/
theorem splitOn_lines (records : List LabelRecord) :
    (Bytes.ofLines (lines records)).splitOn 0x0A = lines records ++ [[]] := by
  apply Bytes.splitOn_ofLines
  intro line hline
  obtain ⟨record, -, rfl⟩ := List.mem_map.1 hline
  exact Json.lineFeed_not_mem_bytes record.toJson

/-- Each line reads back as its record. -/
theorem map_read?_lines (records : List LabelRecord) :
    (lines records).map read? = records.map some := by
  rw [lines, List.map_map]
  apply List.map_congr_left
  intro record _
  exact read?_bytes record

end LabelRecord

/-! ## A run of lines -/

theorem Json.ofLines_bytes_cons (value : Json) (values : List Json) :
    Bytes.ofLines ((value :: values).map bytes)
      = value.line ++ Bytes.ofLines (values.map bytes) := by
  rw [List.map_cons, Bytes.ofLines_cons, line, List.append_assoc]
  rfl

/-- Writes the line of each value in order, up to the first one that is refused. -/
def Sink.writeLines (s : Sink) : List Json → Sink × Except ConvertError Unit
  | [] => (s, .ok ())
  | value :: values =>
    match s.writeJson value with
    | (s, .error e) => (s, .error e)
    | (s, .ok ()) => s.writeLines values

/-- Without a limit all lines are written, end to end. -/
theorem Sink.writeLines_unlimited {s : Sink} (h : s.room = none) (values : List Json) :
    ∃ s', s.writeLines values = (s', .ok ())
      ∧ s'.taken = s.taken ++ Bytes.ofLines (values.map Json.bytes) := by
  induction values generalizing s with
  | nil => exact ⟨s, rfl, by simp [Bytes.ofLines]⟩
  | cons value values ih =>
    obtain ⟨s₁, hwrite, h₁⟩ := writeJson_unlimited h value
    obtain ⟨s₂, hrun, htaken⟩ := ih h₁
    refine ⟨s₂, ?_, ?_⟩
    · rw [writeLines, hwrite]
      exact hrun
    · rw [htaken, taken_writeJson hwrite, Json.ofLines_bytes_cons, List.append_assoc]

namespace Json

/-- The output of a run of lines into an empty sink without a limit. -/
def output (values : List Json) : Bytes := (Sink.unlimited.writeLines values).1.taken

theorem output_eq (values : List Json) : output values = Bytes.ofLines (values.map bytes) := by
  obtain ⟨s, hrun, htaken⟩ := Sink.writeLines_unlimited (s := .unlimited) rfl values
  rw [output, hrun, htaken]
  rfl

theorem splitOn_output (values : List Json) :
    (output values).splitOn 0x0A = values.map bytes ++ [[]] := by
  have hlines : ∀ line ∈ values.map bytes, 0x0A ∉ line := by
    intro line hline
    obtain ⟨value, -, rfl⟩ := List.mem_map.1 hline
    exact lineFeed_not_mem_bytes value
  rw [output_eq, Bytes.splitOn_ofLines hlines]

theorem map_read?_bytes (values : List Json) : (values.map bytes).map read? = values.map some := by
  rw [List.map_map]
  exact List.map_congr_left fun value _ => read?_bytes value

theorem output_injective : Function.Injective output := by
  intro a b h
  have hlines : a.map bytes ++ [[]] = b.map bytes ++ [[]] := by
    rw [← splitOn_output, ← splitOn_output, h]
  exact List.map_injective_iff.2 bytes_injective (List.append_cancel_right hlines)

end Json

theorem LabelRecord.toJson_injective : Function.Injective LabelRecord.toJson := by
  intro a b h
  have hread := LabelRecord.ofJson?_toJson a
  rw [h, LabelRecord.ofJson?_toJson b] at hread
  exact (Option.some.inj hread).symm

/-- **Lines read back and never run together.**  A run of values, or of label records, succeeds;
its output, cut at every line feed, is one line per member in order, with nothing after the last
line feed; each line reads back as its member; and two runs with one output are one run. -/
theorem lines_read_back :
    (∀ values : List Json,
      (Sink.unlimited.writeLines values).2 = .ok ()
      ∧ ∃ lines, (Json.output values).splitOn 0x0A = lines ++ [[]]
        ∧ lines.map Json.read? = values.map some)
    ∧ (∀ records : List LabelRecord,
      (Sink.unlimited.writeLines (records.map LabelRecord.toJson)).2 = .ok ()
      ∧ ∃ lines, (Json.output (records.map LabelRecord.toJson)).splitOn 0x0A = lines ++ [[]]
        ∧ lines.map LabelRecord.read? = records.map some)
    ∧ (∀ a b : List Json, Json.output a = Json.output b → a = b)
    ∧ (∀ a b : List LabelRecord,
      Json.output (a.map LabelRecord.toJson) = Json.output (b.map LabelRecord.toJson) → a = b) := by
  have hok : ∀ values, (Sink.unlimited.writeLines values).2 = .ok () := by
    intro values
    obtain ⟨s, hrun, -⟩ := Sink.writeLines_unlimited (s := .unlimited) rfl values
    rw [hrun]
  refine ⟨fun values => ⟨hok values, _, Json.splitOn_output values, Json.map_read?_bytes values⟩,
    fun records => ⟨hok _, _, Json.splitOn_output _, ?_⟩, fun a b h => Json.output_injective h,
    fun a b h => ?_⟩
  · rw [List.map_map (g := Json.bytes)]
    exact LabelRecord.map_read?_lines records
  · exact List.map_injective_iff.2 LabelRecord.toJson_injective (Json.output_injective h)

end BookDatasets

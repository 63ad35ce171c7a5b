/-
  Runs of the fiction conversion.

  1. **Growth** — `Grown s s' records` says that both outputs have grown by the lines of the SAME
     records, in the same order.  It holds of nothing written, and growth after growth is growth by
     the records of both (`Grown.trans`).
  2. **A run that succeeds** — one record makes the outputs grow by it, so the records of a row do,
     and so do the rows; the two counters go along (`writeRows_ok`).
  3. **Without limits** — every record fits, so rows without a bad cell are written to the end.
-/
import BookDatasets.Proofs.Fiction.Record
import BookDatasets.Proofs.Json.Lines

namespace BookDatasets

namespace Fiction

/-! ## Growth -/

/-- The octets of the records' lines in the custom dataset, each without its line feed. -/
def customLines (records : List Record) : List Bytes :=
  records.map fun record => Utf8.encode (CustomLine.text record.fields)

/-- The octets of the records' lines in the JSON dataset, each without its line feed. -/
def jsonLines (records : List Record) : List Bytes :=
  LabelRecord.lines (records.map Record.labels)

theorem length_jsonLines (records : List Record) : (jsonLines records).length = records.length := by
  rw [jsonLines, LabelRecord.lines, List.length_map, List.length_map]

theorem ofLines_customLines_append (a b : List Record) :
    Bytes.ofLines (customLines (a ++ b))
      = Bytes.ofLines (customLines a) ++ Bytes.ofLines (customLines b) := by
  rw [customLines, List.map_append, Bytes.ofLines_append]
  rfl

theorem ofLines_jsonLines_append (a b : List Record) :
    Bytes.ofLines (jsonLines (a ++ b))
      = Bytes.ofLines (jsonLines a) ++ Bytes.ofLines (jsonLines b) := by
  rw [jsonLines, List.map_append, LabelRecord.ofLines_lines_append]
  rfl

theorem ofLines_customLines_singleton (record : Record) :
    Bytes.ofLines (customLines [record]) = CustomLine.line record.fields := by
  rw [CustomLine.line_eq, customLines, List.map_singleton, Bytes.ofLines_cons]
  rfl

theorem ofLines_jsonLines_singleton (record : Record) :
    Bytes.ofLines (jsonLines [record]) = record.labels.toJson.line := by
  rw [jsonLines, List.map_singleton, LabelRecord.ofLines_lines_cons]
  exact List.append_nil _

/-- Both outputs have grown by the lines of the records. -/
structure Grown (s s' : Sinks) (records : List Record) : Prop where
  custom : s'.custom.taken = s.custom.taken ++ Bytes.ofLines (customLines records)
  json : s'.json.taken = s.json.taken ++ Bytes.ofLines (jsonLines records)

theorem Grown.refl (s : Sinks) : Grown s s [] := by
  constructor
  · exact (List.append_nil _).symm
  · exact (List.append_nil _).symm

/-- **Growth after growth** is growth by the records of both. -/
theorem Grown.trans {s s₁ s₂ : Sinks} {a b : List Record} (ha : Grown s s₁ a)
    (hb : Grown s₁ s₂ b) : Grown s s₂ (a ++ b) := by
  constructor
  · rw [hb.custom, ha.custom, ofLines_customLines_append, List.append_assoc]
  · rw [hb.json, ha.json, ofLines_jsonLines_append, List.append_assoc]

/-! ## A run that succeeds -/

theorem writeRecord_ok {s s' : Sinks} {record : Record}
    (h : s.writeRecord record = (s', .ok ())) : Grown s s' [record] := by
  rcases hcustom : s.custom.writeCustom record.fields with ⟨custom, e | ⟨⟩⟩
  · -- Without its custom line a record has no JSON line, and the run has failed.
    rw [Sinks.writeRecord, hcustom] at h
    exact nomatch (Prod.mk.inj h).2
  · rcases hjson : s.json.writeJson record.labels.toJson with ⟨json, result⟩
    rw [Sinks.writeRecord, hcustom] at h
    dsimp only at h
    rw [hjson] at h
    obtain ⟨rfl, rfl⟩ := Prod.mk.inj h
    constructor
    · show custom.taken = s.custom.taken ++ Bytes.ofLines (customLines [record])
      rw [Sink.taken_writeCustom hcustom, ofLines_customLines_singleton]
    · show json.taken = s.json.taken ++ Bytes.ofLines (jsonLines [record])
      rw [Sink.taken_writeJson hjson, ofLines_jsonLines_singleton]

theorem writeRecords_ok {s s' : Sinks} {records : List Record}
    (h : s.writeRecords records = (s', .ok ())) : Grown s s' records := by
  induction records generalizing s with
  | nil =>
    obtain ⟨rfl, -⟩ := Prod.mk.inj h
    exact .refl s
  | cons record records ih =>
    rw [Sinks.writeRecords] at h
    rcases hrecord : s.writeRecord record with ⟨s₁, e | ⟨⟩⟩
    · rw [hrecord] at h
      exact nomatch (Prod.mk.inj h).2
    · rw [hrecord] at h
      exact (writeRecord_ok hrecord).trans (ih h)

/-- The records of the rows, in table order. -/
def recordsOf (values : List (List (Option Text))) : List Record :=
  values.flatMap fun value => (Row.ofColumns value).explode

/-- The records of entries are those of their columns. -/
theorem recordsOf_columns (entries : List Entry) :
    recordsOf (entries.map Entry.columns) = entries.flatMap Entry.records := by
  rw [recordsOf, List.flatMap_map]
  rfl

/-- A row whose records are written is counted, and the conversion goes on behind it. -/
theorem writeRows_cons {s s₁ : Sinks} {value : List (Option Text)} (interval : Nat)
    (counts : Counts) (rows : List Table.Fetched)
    (h : s.writeRecords (Row.ofColumns value).explode = (s₁, .ok ())) :
    writeRows interval counts s (.ok value :: rows) =
      let next : Counts := ⟨counts.records + (Row.ofColumns value).explode.length, counts.rows + 1⟩
      (writeRows interval next s₁ rows).after (Log.whenDue next.rows interval (progress next)) := by
  rw [writeRows, h]

/-- **A run that succeeds** had no bad cell; it has counted all rows and all their records, and both
outputs have grown by these. -/
theorem writeRows_ok {interval : Nat} {counts done : Counts} {s : Sinks}
    {rows : List Table.Fetched} (h : (writeRows interval counts s rows).result = .ok done) :
    ∃ values, rows = values.map .ok
      ∧ done = ⟨counts.records + (recordsOf values).length, counts.rows + values.length⟩
      ∧ Grown s (writeRows interval counts s rows).sinks (recordsOf values) := by
  induction rows generalizing counts s with
  | nil =>
    obtain rfl : counts = done := Except.ok.inj h
    exact ⟨[], rfl, rfl, .refl s⟩
  | cons row rows ih =>
    cases row with
    | error e => exact nomatch h
    | ok value =>
      rcases hrecords : s.writeRecords (Row.ofColumns value).explode with ⟨s₁, e | ⟨⟩⟩
      · rw [writeRows, hrecords] at h
        exact nomatch h
      · rw [writeRows_cons interval counts rows hrecords] at h ⊢
        obtain ⟨values, rfl, rfl, hgrown⟩ := ih h
        refine ⟨value :: values, rfl, ?_, (writeRecords_ok hrecords).trans hgrown⟩
        have hlength : (recordsOf (value :: values)).length
            = (Row.ofColumns value).explode.length + (recordsOf values).length :=
          List.length_append
        have hrows : counts.rows + 1 + values.length = counts.rows + (value :: values).length := by
          rw [List.length_cons]
          omega
        show Counts.mk _ (counts.rows + 1 + values.length) = _
        rw [hlength, hrows, ← Nat.add_assoc]

/-! ## Without limits -/

/-- Neither output has a limit. -/
def Sinks.Unlimited (s : Sinks) : Prop := s.json.room = none ∧ s.custom.room = none

theorem writeRecord_unlimited {s : Sinks} (hs : s.Unlimited) (record : Record) :
    ∃ s', s.writeRecord record = (s', .ok ()) ∧ s'.Unlimited := by
  obtain ⟨custom, hcustom, hroom⟩ := Sink.writeCustom_unlimited hs.2 record.fields
  obtain ⟨json, hjson, hroom'⟩ := Sink.writeJson_unlimited hs.1 record.labels.toJson
  refine ⟨⟨json, custom⟩, ?_, hroom', hroom⟩
  rw [Sinks.writeRecord, hcustom]
  dsimp only
  rw [hjson]

theorem writeRecords_unlimited {s : Sinks} (hs : s.Unlimited) (records : List Record) :
    ∃ s', s.writeRecords records = (s', .ok ()) ∧ s'.Unlimited := by
  induction records generalizing s with
  | nil => exact ⟨s, rfl, hs⟩
  | cons record records ih =>
    obtain ⟨s₁, hrecord, h₁⟩ := writeRecord_unlimited hs record
    obtain ⟨s₂, hrecords, h₂⟩ := ih h₁
    refine ⟨s₂, ?_, h₂⟩
    rw [Sinks.writeRecords, hrecord]
    exact hrecords

/-- **Without limits rows without a bad cell are written to the end.** -/
theorem writeRows_unlimited {s : Sinks} (interval : Nat) (counts : Counts) (hs : s.Unlimited)
    (values : List (List (Option Text))) :
    ∃ done, (writeRows interval counts s (values.map .ok)).result = .ok done := by
  induction values generalizing s counts with
  | nil => exact ⟨counts, rfl⟩
  | cons value values ih =>
    obtain ⟨s₁, hrecords, h₁⟩ := writeRecords_unlimited hs (Row.ofColumns value).explode
    obtain ⟨done, hdone⟩ := ih _ h₁
    refine ⟨done, ?_⟩
    rw [List.map_cons, writeRows_cons interval counts _ hrecords]
    exact hdone

end Fiction

end BookDatasets

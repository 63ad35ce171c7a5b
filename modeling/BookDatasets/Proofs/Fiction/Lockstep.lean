/-
  The two fiction outputs when one of them runs full.

  1. **Records, then an ending** — a run on a table is the run on its records up to the first bad
     row, and then that row's error or the counts (`writeRows_eq`).  So a limit is a matter of
     records alone, and the ending counts only when every record has fitted.
  2. **The invariant** — `Filled customLimit jsonLimit records s`: both outputs hold the lines of the
     SAME records and nothing else, and these have fitted.  A record that fits keeps it; a record that
     does not ends the run, and there are two ways.  A custom line that is cut leaves the JSON output
     as it was, so the custom output is AHEAD by a part of a line; a JSON line that is cut stands
     behind a custom line that is whole.
  3. **The first record too many** (`writeThen_lockstep`) — with the lines numbered from one, the
     first number up to which the lines exceed a limit says all: where each output ends, and whether
     the refusal is plain output or JSON.
-/
import BookDatasets.Proofs.Answers
import BookDatasets.Proofs.Fiction.Lines
import BookDatasets.Proofs.Sink.Limit

namespace BookDatasets

namespace Fiction

/-! ## Records, then an ending -/

/-- Output and answer of a run, without its events. -/
def Writing.outcome (w : Writing) : Sinks × Except ConvertError Counts := (w.sinks, w.result)

/-- Writes the lines of the records, and answers with the ending unless a line is refused. -/
def Sinks.writeThen (s : Sinks) (records : List Record) (ending : Except ConvertError Counts) :
    Sinks × Except ConvertError Counts :=
  ((s.writeRecords records).1, (s.writeRecords records).2.bind fun _ => ending)

theorem Sinks.writeRecords_append (s : Sinks) (a b : List Record) :
    s.writeRecords (a ++ b) =
      match s.writeRecords a with
      | (s, .error e) => (s, .error e)
      | (s, .ok ()) => s.writeRecords b := by
  induction a generalizing s with
  | nil => rfl
  | cons record a ih =>
    rw [List.cons_append, writeRecords, writeRecords]
    rcases s.writeRecord record with ⟨s', e | ⟨⟩⟩
    · rfl
    · exact ih s'

/-- A record that is refused ends the run; what comes behind it is not written. -/
theorem Sinks.writeRecords_refused {s s₁ s₂ : Sinks} {a : List Record} {record : Record}
    {e : ConvertError} (b : List Record) (ha : s.writeRecords a = (s₁, .ok ()))
    (hrecord : s₁.writeRecord record = (s₂, .error e)) :
    s.writeRecords (a ++ record :: b) = (s₂, .error e) := by
  rw [writeRecords_append, ha]
  dsimp only
  rw [writeRecords, hrecord]

/-- Without limits the ending is the answer, and both outputs have grown by the records. -/
theorem Sinks.writeThen_unlimited (records : List Record) (ending : Except ConvertError Counts) :
    ∃ s, Sinks.writeThen ⟨.unlimited, .unlimited⟩ records ending = (s, ending)
      ∧ Grown ⟨.unlimited, .unlimited⟩ s records := by
  obtain ⟨s, hrun, -⟩ := writeRecords_unlimited (s := ⟨.unlimited, .unlimited⟩) ⟨rfl, rfl⟩ records
  refine ⟨s, ?_, writeRecords_ok hrun⟩
  rw [writeThen, hrun]
  rfl

/-- What a run over rows comes to, when `counts` is converted before it. -/
def ending (counts : Counts) (rows : List Table.Fetched) : Except ConvertError Counts :=
  (Answers.outcome ⟨counts.records + (recordsOf (Answers.before rows)).length,
    counts.rows + rows.length⟩ rows).mapError SqlError.toConvert

/-- **Writing rows** is writing the records up to the first bad one, and an ending. -/
theorem writeRows_eq (interval : Nat) (counts : Counts) (s : Sinks) (rows : List Table.Fetched) :
    (writeRows interval counts s rows).outcome
      = s.writeThen (recordsOf (Answers.before rows)) (ending counts rows) := by
  induction rows generalizing counts s with
  | nil => rfl
  | cons row rows ih =>
    cases row with
    | error e => rfl
    | ok values =>
      have hrecords : recordsOf (Answers.before (.ok values :: rows))
          = (Row.ofColumns values).explode ++ recordsOf (Answers.before rows) := rfl
      rw [Sinks.writeThen, hrecords, Sinks.writeRecords_append]
      rcases hwrite : s.writeRecords (Row.ofColumns values).explode with ⟨s', e | ⟨⟩⟩
      · rw [writeRows, hwrite]
        rfl
      · rw [writeRows_cons interval counts rows hwrite]
        have hending : ending counts (.ok values :: rows)
            = ending ⟨counts.records + (Row.ofColumns values).explode.length, counts.rows + 1⟩
                rows := by
          rw [ending, ending, hrecords, Answers.outcome, List.length_append, List.length_cons,
            Nat.add_assoc, Nat.add_comm rows.length 1, Nat.add_assoc]
        rw [hending]
        exact ih _ s'

/-- **A run on a table** is a run on records whose lines parse. -/
theorem exists_writeThen (db : Database) (table : Text) (interval : Nat) :
    ∃ (records : List Record) (last : Except ConvertError Counts),
      (∀ record ∈ records, CustomLine.Parse record.fields (CustomLine.text record.fields))
      ∧ ∀ s, (writeDatasets db table s interval).outcome = s.writeThen records last := by
  rcases hselect : db.select table selection with e | rows
  · refine ⟨[], .error e.toConvert, ?_, ?_⟩
    · intro record hrecord
      exact absurd hrecord List.not_mem_nil
    · intro s
      rw [writeDatasets, hselect]
      rfl
  · refine ⟨recordsOf (Answers.before rows), ending ⟨0, 0⟩ rows, ?_, ?_⟩
    · intro record hrecord
      obtain ⟨values, hvalues, hmem⟩ := List.mem_flatMap.1 hrecord
      obtain ⟨e, rfl⟩ := exists_entry hselect (Answers.mem_of_mem_before hvalues)
      exact Entry.parse_of_mem hmem
    · intro s
      rw [writeDatasets, hselect, writeFrom]
      exact writeRows_eq interval ⟨0, 0⟩ s rows

/-! ## The invariant -/

/-- Both outputs hold the lines of the records, and these have fitted. -/
structure Filled (customLimit jsonLimit : Nat) (records : List Record) (s : Sinks) : Prop where
  custom : Sink.Filled customLimit (Bytes.ofLines (customLines records)) s.custom
  json : Sink.Filled jsonLimit (Bytes.ofLines (jsonLines records)) s.json

theorem filled_limited (customLimit jsonLimit : Nat) :
    Filled customLimit jsonLimit [] ⟨.limited jsonLimit, .limited customLimit⟩ := by
  constructor
  · exact Sink.filled_limited customLimit
  · exact Sink.filled_limited jsonLimit

section

variable {customLimit jsonLimit : Nat} {written : List Record} {record : Record} {s : Sinks}

/-- **A record that fits** keeps the invariant. -/
theorem Filled.writeRecord_ok (h : Filled customLimit jsonLimit written s)
    (hcustom : (Bytes.ofLines (customLines (written ++ [record]))).length ≤ customLimit)
    (hjson : (Bytes.ofLines (jsonLines (written ++ [record]))).length ≤ jsonLimit) :
    ∃ s', s.writeRecord record = (s', .ok ())
      ∧ Filled customLimit jsonLimit (written ++ [record]) s' := by
  rw [ofLines_customLines_append, ofLines_customLines_singleton] at hcustom
  rw [ofLines_jsonLines_append, ofLines_jsonLines_singleton] at hjson
  obtain ⟨custom, hwriteCustom, hfilledCustom⟩ := h.custom.writeCustom_ok hcustom
  obtain ⟨json, hwriteJson, hfilledJson⟩ := h.json.writeJson_ok hjson
  refine ⟨⟨json, custom⟩, ?_, ?_, ?_⟩
  · rw [Sinks.writeRecord, hwriteCustom]
    dsimp only
    rw [hwriteJson]
  · rw [ofLines_customLines_append, ofLines_customLines_singleton]
    exact hfilledCustom
  · rw [ofLines_jsonLines_append, ofLines_jsonLines_singleton]
    exact hfilledJson

/-- **A custom line that does not fit** is cut, and the JSON output is as it was. -/
theorem Filled.writeRecord_customFull (h : Filled customLimit jsonLimit written s)
    (hcustom : customLimit < (Bytes.ofLines (customLines (written ++ [record]))).length) :
    ∃ s', s.writeRecord record = (s', .error (.io .outputFull))
      ∧ s'.custom.taken = (Bytes.ofLines (customLines (written ++ [record]))).take customLimit
      ∧ s'.json.taken = Bytes.ofLines (jsonLines written) := by
  rw [ofLines_customLines_append, ofLines_customLines_singleton] at hcustom ⊢
  obtain ⟨custom, hwrite, htaken⟩ := h.custom.writeCustom_full hcustom
  refine ⟨⟨s.json, custom⟩, ?_, htaken, h.json.taken⟩
  rw [Sinks.writeRecord, hwrite]

/-- **A JSON line that does not fit** is cut behind a whole custom line. -/
theorem Filled.writeRecord_jsonFull (h : Filled customLimit jsonLimit written s)
    (hcustom : (Bytes.ofLines (customLines (written ++ [record]))).length ≤ customLimit)
    (hjson : jsonLimit < (Bytes.ofLines (jsonLines (written ++ [record]))).length) :
    ∃ s', s.writeRecord record = (s', .error (Sink.lineRefusal jsonLimit
        (Bytes.ofLines (jsonLines (written ++ [record]))).length))
      ∧ s'.custom.taken = Bytes.ofLines (customLines (written ++ [record]))
      ∧ s'.json.taken = (Bytes.ofLines (jsonLines (written ++ [record]))).take jsonLimit := by
  rw [ofLines_customLines_append, ofLines_customLines_singleton] at hcustom ⊢
  rw [ofLines_jsonLines_append, ofLines_jsonLines_singleton] at hjson ⊢
  obtain ⟨custom, hwriteCustom, hfilledCustom⟩ := h.custom.writeCustom_ok hcustom
  obtain ⟨json, hwriteJson, htaken⟩ := h.json.writeJson_full hjson
  refine ⟨⟨json, custom⟩, ?_, hfilledCustom.taken, htaken⟩
  rw [Sinks.writeRecord, hwriteCustom]
  dsimp only
  rw [hwriteJson]

end

/-- **Records that fit** are all written. -/
theorem Filled.writeRecords_ok {customLimit jsonLimit : Nat} {written records : List Record}
    {s : Sinks} (h : Filled customLimit jsonLimit written s)
    (hcustom : (Bytes.ofLines (customLines (written ++ records))).length ≤ customLimit)
    (hjson : (Bytes.ofLines (jsonLines (written ++ records))).length ≤ jsonLimit) :
    ∃ s', s.writeRecords records = (s', .ok ())
      ∧ Filled customLimit jsonLimit (written ++ records) s' := by
  induction records generalizing written s with
  | nil =>
    rw [List.append_nil]
    exact ⟨s, rfl, h⟩
  | cons record records ih =>
    have hsplit : written ++ record :: records = written ++ [record] ++ records :=
      List.append_cons written record records
    rw [hsplit] at hcustom hjson ⊢
    have hcustom₁ : (Bytes.ofLines (customLines (written ++ [record]))).length ≤ customLimit := by
      rw [ofLines_customLines_append, List.length_append] at hcustom
      omega
    have hjson₁ : (Bytes.ofLines (jsonLines (written ++ [record]))).length ≤ jsonLimit := by
      rw [ofLines_jsonLines_append, List.length_append] at hjson
      omega
    obtain ⟨s₁, hwrite, h₁⟩ := h.writeRecord_ok hcustom₁ hjson₁
    obtain ⟨s₂, hrun, h₂⟩ := ih h₁ hcustom hjson
    refine ⟨s₂, ?_, h₂⟩
    rw [Sinks.writeRecords, hwrite]
    exact hrun

/-! ## The first record too many -/

/-- The first `k` lines take more octets than the limit. -/
def Exceeds (lines : List Bytes) (limit k : Nat) : Prop :=
  limit < (Bytes.ofLines (lines.take k)).length

/-- The `k`-th record, counted from one, is the first one up to which the lines of one of the outputs
exceed its limit. -/
def FirstOver (custom json : List Bytes) (customLimit jsonLimit k : Nat) : Prop :=
  (Exceeds custom customLimit k ∨ Exceeds json jsonLimit k)
    ∧ ∀ i < k, ¬ Exceeds custom customLimit i ∧ ¬ Exceeds json jsonLimit i

/-- What two limits leave of a run whose lines are `custom` and `json`.  A run that fits is as it was
without limits.  Otherwise the first record too many is decided by its custom line before its JSON
line, and what comes behind it is not written at all.  A JSON line is refused as plain output when
its line feed is the one octet too many, and as JSON otherwise. -/
structure Lockstep (custom json : List Bytes) (customLimit jsonLimit : Nat)
    (full cut : Sinks × Except ConvertError Counts) : Prop where
  fits : (∀ k, ¬ Exceeds custom customLimit k ∧ ¬ Exceeds json jsonLimit k) →
    cut.1.custom.taken = full.1.custom.taken ∧ cut.1.json.taken = full.1.json.taken
      ∧ cut.2 = full.2
  customFull : ∀ k, FirstOver custom json customLimit jsonLimit k → Exceeds custom customLimit k →
    cut.1.custom.taken = (Bytes.ofLines (custom.take k)).take customLimit
      ∧ cut.1.json.taken = Bytes.ofLines (json.take (k - 1))
      ∧ cut.2 = .error (.io .outputFull)
  jsonFull : ∀ k, FirstOver custom json customLimit jsonLimit k → ¬ Exceeds custom customLimit k →
    cut.1.custom.taken = Bytes.ofLines (custom.take k)
      ∧ cut.1.json.taken = (Bytes.ofLines (json.take k)).take jsonLimit
      ∧ cut.2 = .error (if (Bytes.ofLines (json.take k)).length = jsonLimit + 1
          then .io .outputFull else .json .outputFull)

section

variable {customLimit jsonLimit : Nat} {records : List Record}

theorem take_customLines (k : Nat) :
    (customLines records).take k = customLines (records.take k) := by
  rw [customLines, ← List.map_take]
  rfl

theorem take_jsonLines (k : Nat) : (jsonLines records).take k = jsonLines (records.take k) := by
  rw [jsonLines, LabelRecord.lines, List.map_map, ← List.map_take, jsonLines, LabelRecord.lines,
    List.map_map]

/-- The first record too many is one of the records. -/
theorem FirstOver.exists_record {k : Nat}
    (h : FirstOver (customLines records) (jsonLines records) customLimit jsonLimit k) :
    ∃ m record rest, k = m + 1 ∧ records = records.take m ++ record :: rest
      ∧ records.take k = records.take m ++ [record] := by
  obtain ⟨hover, hbefore⟩ := h
  rcases k with _ | m
  · -- No line at all exceeds no limit.
    rcases hover with hover | hover
    · exact absurd hover (Nat.not_lt_zero _)
    · exact absurd hover (Nat.not_lt_zero _)
  · obtain ⟨hcustom, hjson⟩ := hbefore m (Nat.lt_succ_self m)
    have hm : m < records.length := by
      by_contra hlong
      -- Behind the last record nothing is added, so nothing new is exceeded.
      have htake : records.take (m + 1) = records.take m := by
        rw [List.take_of_length_le (by omega), List.take_of_length_le (by omega)]
      rcases hover with hover | hover
      · rw [Exceeds, take_customLines, htake, ← take_customLines] at hover
        exact hcustom hover
      · rw [Exceeds, take_jsonLines, htake, ← take_jsonLines] at hover
        exact hjson hover
    refine ⟨m, records[m], records.drop (m + 1), rfl, ?_, ?_⟩
    · rw [← List.drop_eq_getElem_cons hm, List.take_append_drop]
    · rw [List.take_succ_eq_append_getElem hm]

/-- **The first record too many is reached**: those before it are written, and when it is refused,
so is the run. -/
theorem FirstOver.reached {k : Nat}
    (h : FirstOver (customLines records) (jsonLines records) customLimit jsonLimit k) :
    ∃ m record s, k = m + 1 ∧ records.take k = records.take m ++ [record]
      ∧ Filled customLimit jsonLimit (records.take m) s
      ∧ ∀ s' e, s.writeRecord record = (s', .error e) →
        Sinks.writeRecords ⟨.limited jsonLimit, .limited customLimit⟩ records = (s', .error e) := by
  obtain ⟨m, record, rest, rfl, hrecords, htake⟩ := h.exists_record
  obtain ⟨hcustom, hjson⟩ := h.2 m (Nat.lt_succ_self m)
  rw [Exceeds, take_customLines, Nat.not_lt] at hcustom
  rw [Exceeds, take_jsonLines, Nat.not_lt] at hjson
  obtain ⟨s, hrun, hfilled⟩ :=
    (filled_limited customLimit jsonLimit).writeRecords_ok hcustom hjson
  refine ⟨m, record, s, rfl, htake, hfilled, ?_⟩
  intro s' e hwrite
  rw [hrecords]
  exact Sinks.writeRecords_refused rest hrun hwrite

/-- **Two limits cut a run in lockstep**, whatever its ending is. -/
theorem writeThen_lockstep (records : List Record) (last : Except ConvertError Counts)
    (customLimit jsonLimit : Nat) :
    Lockstep (customLines records) (jsonLines records) customLimit jsonLimit
      (Sinks.writeThen ⟨.unlimited, .unlimited⟩ records last)
      (Sinks.writeThen ⟨.limited jsonLimit, .limited customLimit⟩ records last) := by
  obtain ⟨full, hfull, hgrown⟩ := Sinks.writeThen_unlimited records last
  rw [hfull]
  constructor
  · intro hfits
    obtain ⟨hcustom, hjson⟩ := hfits records.length
    rw [Exceeds, take_customLines, List.take_length, Nat.not_lt] at hcustom
    rw [Exceeds, take_jsonLines, List.take_length, Nat.not_lt] at hjson
    obtain ⟨s, hrun, hfilled⟩ :=
      (filled_limited customLimit jsonLimit).writeRecords_ok hcustom hjson
    rw [Sinks.writeThen, hrun]
    refine ⟨?_, ?_, rfl⟩
    · rw [hfilled.custom.taken, hgrown.custom]
      rfl
    · rw [hfilled.json.taken, hgrown.json]
      rfl
  · intro k hfirst hover
    obtain ⟨m, record, s, rfl, htake, hfilled, hrefused⟩ := hfirst.reached
    rw [Exceeds, take_customLines, htake] at hover
    obtain ⟨s', hwrite, hcustom, hjson⟩ := hfilled.writeRecord_customFull hover
    rw [Sinks.writeThen, hrefused s' _ hwrite, take_customLines, htake, Nat.add_sub_cancel,
      take_jsonLines]
    exact ⟨hcustom, hjson, rfl⟩
  · intro k hfirst hfit
    obtain ⟨m, record, s, rfl, htake, hfilled, hrefused⟩ := hfirst.reached
    have hover : Exceeds (jsonLines records) jsonLimit (m + 1) := hfirst.1.resolve_left hfit
    rw [Exceeds, take_customLines, htake, Nat.not_lt] at hfit
    rw [Exceeds, take_jsonLines, htake] at hover
    obtain ⟨s', hwrite, hcustom, hjson⟩ := hfilled.writeRecord_jsonFull hfit hover
    rw [Sinks.writeThen, hrefused s' _ hwrite, take_customLines, htake, take_jsonLines, htake]
    exact ⟨hcustom, hjson, rfl⟩

end

/-- **The two outputs stay in lockstep.**  For every table and every two limits: the outputs of the
run without limits, cut at every line feed, are as many custom lines as JSON lines, and what the
limits leave is told by these lines. -/
theorem outputs_in_lockstep (db : Database) (table : Text)
    (interval customLimit jsonLimit : Nat) :
    ∃ custom json : List Bytes,
      (writeDatasets db table ⟨.unlimited, .unlimited⟩ interval).sinks.custom.taken.splitOn 0x0A
        = custom ++ [[]]
      ∧ (writeDatasets db table ⟨.unlimited, .unlimited⟩ interval).sinks.json.taken.splitOn 0x0A
        = json ++ [[]]
      ∧ custom.length = json.length
      ∧ Lockstep custom json customLimit jsonLimit
          (writeDatasets db table ⟨.unlimited, .unlimited⟩ interval).outcome
          (writeDatasets db table ⟨.limited jsonLimit, .limited customLimit⟩ interval).outcome := by
  obtain ⟨records, last, hparse, hrun⟩ := exists_writeThen db table interval
  obtain ⟨full, hfull, hgrown⟩ := Sinks.writeThen_unlimited records last
  have hsinks : (writeDatasets db table ⟨.unlimited, .unlimited⟩ interval).sinks = full := by
    have houtcome := hrun ⟨.unlimited, .unlimited⟩
    rw [hfull] at houtcome
    exact (Prod.mk.inj houtcome).1
  refine ⟨customLines records, jsonLines records, ?_, ?_, ?_, ?_⟩
  · rw [hsinks, hgrown.custom]
    apply Bytes.splitOn_ofLines
    intro line hline
    obtain ⟨record, hrecord, rfl⟩ := List.mem_map.1 hline
    exact CustomLine.lineFeed_not_mem (hparse record hrecord)
  · rw [hsinks, hgrown.json]
    exact LabelRecord.splitOn_lines _
  · rw [length_jsonLines, customLines, List.length_map]
  · rw [hrun, hrun]
    exact writeThen_lockstep records last customLimit jsonLimit

end Fiction

end BookDatasets

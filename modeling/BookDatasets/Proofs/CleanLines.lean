/-
  JSON datasets are clean lines.

  1. **Growth** — `Sink.Grows s s' octets whole`: what was written to `s` has left `s'`, and it was
     the first octets of `octets`, all of them when `whole`.  A refused write is any prefix here, so
     limits need no case of their own; growth composes as the runs do.
  2. **Whatever is cut off, the rest is clean** — a prefix of lines laid end to end is printable but
     for its line feeds, and its COMPLETE lines are lines of the whole (`completeLines_of_prefix`):
     only the last, unfinished one is cut.
  3. **The answer counts** — a run that succeeds has written all its lines, and says how many.  For
     the fiction datasets it is the records that are counted, not the rows.
-/
import BookDatasets.Proofs.Fiction.Lockstep
import BookDatasets.Proofs.Json.Spacing
import BookDatasets.Proofs.Library.Dataset
import BookDatasets.Proofs.Listing.Run

namespace BookDatasets

/-! ## Complete lines -/

namespace Bytes

/-- The lines of an output that have their line feed, each without it. -/
def completeLines (output : Bytes) : List Bytes := (output.splitOn 0x0A).dropLast

theorem completeLines_of_not_mem {output : Bytes} (h : 0x0A ∉ output) :
    output.completeLines = [] := by
  rw [completeLines, List.splitOn_eq_singleton h]
  rfl

theorem completeLines_cons {line : Bytes} (h : 0x0A ∉ line) (rest : Bytes) :
    completeLines (line ++ 0x0A :: rest) = line :: rest.completeLines := by
  rw [completeLines, List.splitOn_append_cons_self_of_not_mem h, List.dropLast_cons_of_ne_nil]
  · rfl
  · exact List.splitOn_ne_nil 0x0A rest

/-- **The complete lines of a prefix** are the first lines of the whole. -/
theorem completeLines_of_prefix {lines : List Bytes} {output : Bytes}
    (hlines : ∀ line ∈ lines, 0x0A ∉ line) (h : output <+: ofLines lines) :
    output.completeLines <+: lines := by
  induction lines generalizing output with
  | nil =>
    have hnil : output = [] := List.prefix_nil.1 h
    rw [hnil]
    exact List.prefix_refl []
  | cons line lines ih =>
    obtain ⟨hline, hrest⟩ := List.forall_mem_cons.1 hlines
    rw [ofLines_cons] at h
    -- Either the first line is cut, or it is there and the rest is a prefix again.
    rcases List.prefix_or_prefix_of_prefix h (List.prefix_append line _) with hcut | ⟨tail, rfl⟩
    · have hfeed : 0x0A ∉ output := fun hmem => hline (hcut.subset hmem)
      rw [completeLines_of_not_mem hfeed]
      exact List.nil_prefix
    · have htail := (List.prefix_append_right_inj line).1 h
      rcases List.prefix_cons_iff.1 htail with rfl | ⟨rest, rfl, hrest'⟩
      · rw [List.append_nil, completeLines_of_not_mem hline]
        exact List.nil_prefix
      · rw [completeLines_cons hline]
        exact (List.prefix_cons_inj line).2 (ih hrest hrest')

theorem count_ofLines {lines : List Bytes} (h : ∀ line ∈ lines, 0x0A ∉ line) :
    (ofLines lines).count 0x0A = lines.length := by
  induction lines with
  | nil => rfl
  | cons line lines ih =>
    obtain ⟨hline, hrest⟩ := List.forall_mem_cons.1 h
    rw [ofLines_cons, List.count_append, List.count_cons_self, ih hrest, List.count_eq_zero.2 hline,
      List.length_cons, Nat.zero_add]

/-- Lines laid end to end end with a line feed, when there are any. -/
theorem getLast?_ofLines {lines : List Bytes} (h : ofLines lines ≠ []) :
    (ofLines lines).getLast? = some 0x0A := by
  rcases List.eq_nil_or_concat lines with rfl | ⟨front, line, rfl⟩
  · exact absurd rfl h
  · have hlast : ofLines (front ++ [line]) = (ofLines front ++ line) ++ [0x0A] := by
      rw [ofLines_append, List.append_assoc]
      simp [ofLines]
    rw [List.concat_eq_append, hlast, List.getLast?_concat]

end Bytes

/-! ## Clean output -/

/-- An output of clean lines, with what an answer says about it: the octets are printable ASCII and
line feeds; a success counts the line feeds, and leaves no line unfinished; and every complete line
is laid out. -/
structure CleanLines (output : Bytes) (answer : Except ConvertError Nat) : Prop where
  printable : ∀ b ∈ output, b = 0x0A ∨ Json.IsPrintable b
  counted : ∀ records, answer = .ok records → output.count 0x0A = records
  ended : ∀ records, answer = .ok records → output ≠ [] → output.getLast? = some 0x0A
  laidOut : ∀ line ∈ output.completeLines, Json.LaidOut line

/-- **What is left of the lines of values is clean**, when a success left all of them and says how
many they are. -/
theorem cleanLines_of_prefix {values : List Json} {output : Bytes}
    {answer : Except ConvertError Nat} (h : output <+: Bytes.ofLines (values.map Json.bytes))
    (hok : ∀ records, answer = .ok records →
      output = Bytes.ofLines (values.map Json.bytes) ∧ records = values.length) :
    CleanLines output answer := by
  have hfeeds : ∀ line ∈ values.map Json.bytes, 0x0A ∉ line := by
    intro line hline
    obtain ⟨value, -, rfl⟩ := List.mem_map.1 hline
    exact Json.lineFeed_not_mem_bytes value
  constructor
  · intro b hb
    obtain ⟨line, hline, hmem⟩ := List.mem_flatMap.1 (h.subset hb)
    obtain ⟨value, -, rfl⟩ := List.mem_map.1 hline
    rcases List.mem_append.1 hmem with htext | hfeed
    · exact Or.inr (Json.isPrintable_chunks value b htext)
    · exact Or.inl (List.mem_singleton.1 hfeed)
  · intro records hanswer
    obtain ⟨rfl, rfl⟩ := hok records hanswer
    rw [Bytes.count_ofLines hfeeds, List.length_map]
  · intro records hanswer hne
    obtain ⟨rfl, -⟩ := hok records hanswer
    exact Bytes.getLast?_ofLines hne
  · intro line hline
    have hmem := (Bytes.completeLines_of_prefix hfeeds h).subset hline
    obtain ⟨value, -, rfl⟩ := List.mem_map.1 hmem
    exact Json.laidOut_bytes value

/-! ## Growth -/

namespace Sink

/-- The sink has grown by the first of the octets, and by all of them when `whole`. -/
def Grows (s s' : Sink) (octets : Bytes) (whole : Prop) : Prop :=
  ∃ added, s'.taken = s.taken ++ added ∧ added <+: octets ∧ (whole → added = octets)

theorem Grows.none (s : Sink) {octets : Bytes} {whole : Prop} (h : ¬ whole) :
    Grows s s octets whole :=
  ⟨[], (List.append_nil _).symm, List.nil_prefix, fun hwhole => absurd hwhole h⟩

theorem Grows.nil (s : Sink) (whole : Prop) : Grows s s [] whole :=
  ⟨[], (List.append_nil _).symm, List.nil_prefix, fun _ => rfl⟩

/-- Behind octets that are there whole, the growth goes on. -/
theorem Grows.append {s s₁ s₂ : Sink} {a b : Bytes} {whole : Prop} (ha : Grows s s₁ a True)
    (hb : Grows s₁ s₂ b whole) : Grows s s₂ (a ++ b) whole := by
  obtain ⟨added, htaken, -, hall⟩ := ha
  obtain ⟨added', htaken', hprefix', hall'⟩ := hb
  obtain rfl : added = a := hall trivial
  refine ⟨added ++ added', ?_, (List.prefix_append_right_inj added).2 hprefix', ?_⟩
  · rw [htaken', htaken, List.append_assoc]
  · intro hwhole
    rw [hall' hwhole]

/-- Nothing is said about octets that a refusal kept out. -/
theorem Grows.cut {s s' : Sink} {a : Bytes} {whole whole' : Prop} (h : Grows s s' a whole)
    (b : Bytes) (hcut : ¬ whole') : Grows s s' (a ++ b) whole' := by
  obtain ⟨added, htaken, hprefix, -⟩ := h
  exact ⟨added, htaken, hprefix.trans (List.prefix_append a b), fun hwhole => absurd hwhole hcut⟩

theorem Grows.imp {s s' : Sink} {octets : Bytes} {whole whole' : Prop} (h : Grows s s' octets whole)
    (himp : whole' → whole) : Grows s s' octets whole' := by
  obtain ⟨added, htaken, hprefix, hall⟩ := h
  exact ⟨added, htaken, hprefix, fun hwhole => hall (himp hwhole)⟩

theorem grows_write (s : Sink) (b : Bytes) : Grows s (s.write b).1 b ((s.write b).2 = true) := by
  rcases s with ⟨_ | room, reversed⟩
  · exact ⟨b, by simp [write, taken], List.prefix_refl b, fun _ => rfl⟩
  · refine ⟨b.take room, by simp [write, taken], List.take_prefix room b, ?_⟩
    intro hfits
    exact List.take_of_length_le (of_decide_eq_true hfits)

/-- **A JSON line** is taken up to where it is refused. -/
theorem grows_writeJson (s : Sink) (value : Json) :
    Grows s (s.writeJson value).1 value.line ((s.writeJson value).2 = .ok ()) := by
  rw [writeJson, writeAll_eq_write]
  have htext := grows_write s value.chunks.flatten
  rcases hwrite : s.write value.chunks.flatten with ⟨s₁, _ | _⟩
  · rw [hwrite] at htext
    exact htext.cut [0x0A] (by rintro ⟨⟩)
  · rw [hwrite] at htext
    have hfeed := grows_write s₁ [0x0A]
    dsimp only
    rcases hwrite' : s₁.write [0x0A] with ⟨s₂, _ | _⟩
    · rw [hwrite'] at hfeed
      exact (htext.imp fun _ => rfl).append (hfeed.imp (by rintro ⟨⟩))
    · rw [hwrite'] at hfeed
      exact (htext.imp fun _ => rfl).append (hfeed.imp fun _ => rfl)

/-- **A run of lines** is taken up to where it is refused. -/
theorem grows_writeLines (s : Sink) (values : List Json) :
    Grows s (s.writeLines values).1 (Bytes.ofLines (values.map Json.bytes))
      ((s.writeLines values).2 = .ok ()) := by
  induction values generalizing s with
  | nil => exact .nil s _
  | cons value values ih =>
    rw [Json.ofLines_bytes_cons, writeLines]
    have hline := grows_writeJson s value
    rcases hwrite : s.writeJson value with ⟨s₁, e | ⟨⟩⟩
    · rw [hwrite] at hline
      exact hline.cut _ (by rintro ⟨⟩)
    · rw [hwrite] at hline
      exact (hline.imp fun _ => rfl).append (ih s₁)

/-- A run has left clean lines in a sink, behind what was there. -/
def GainsClean (s : Sink) (run : Sink × Except ConvertError Nat) : Prop :=
  ∃ added, run.1.taken = s.taken ++ added ∧ CleanLines added run.2

/-- Growth by the lines of values leaves clean lines, when a success says how many they are. -/
theorem Grows.gainsClean {s : Sink} {run : Sink × Except ConvertError Nat} {values : List Json}
    {whole : Prop} (h : Grows s run.1 (Bytes.ofLines (values.map Json.bytes)) whole)
    (hok : ∀ records, run.2 = .ok records → whole ∧ records = values.length) :
    s.GainsClean run := by
  obtain ⟨added, htaken, hprefix, hall⟩ := h
  refine ⟨added, htaken, cleanLines_of_prefix hprefix ?_⟩
  intro records hanswer
  obtain ⟨hwhole, hcount⟩ := hok records hanswer
  exact ⟨hall hwhole, hcount⟩

/-- **A run that ends with the number of its lines**, or with an error, leaves clean lines. -/
theorem gainsClean_writeThen (s : Sink) {values : List Json} {ending : Except ConvertError Nat}
    (hending : ∀ records, ending = .ok records → records = values.length) :
    s.GainsClean (s.writeThen values ending) := by
  apply Grows.gainsClean (grows_writeLines s values)
  intro records hanswer
  rw [writeThen] at hanswer
  rcases hrun : (s.writeLines values).2 with e | ⟨⟩
  · rw [hrun] at hanswer
    cases hanswer
  · rw [hrun] at hanswer
    exact ⟨rfl, hending records hanswer⟩

theorem gainsClean_writeJson (s : Sink) (value : Json) :
    s.GainsClean ((s.writeJson value).1, (s.writeJson value).2.map fun _ => 1) := by
  have hline : Bytes.ofLines ([value].map Json.bytes) = value.line := by
    rw [Json.ofLines_bytes_cons]
    exact List.append_nil value.line
  have hgrows := grows_writeJson s value
  rw [← hline] at hgrows
  apply Grows.gainsClean hgrows
  intro records hanswer
  rcases hwrite : (s.writeJson value).2 with e | ⟨⟩
  · rw [hwrite] at hanswer
    cases hanswer
  · rw [hwrite] at hanswer
    exact ⟨rfl, (Except.ok.inj hanswer).symm⟩

end Sink

/-! ## The datasets -/

theorem Listing.gainsClean_writeDataset (s : Sink) (input : Bytes) :
    s.GainsClean (writeDataset input s) := by
  rw [writeDataset, writeRows_eq]
  apply s.gainsClean_writeThen
  intro records hending
  obtain ⟨rfl, hlength⟩ := Answers.outcome_eq_ok hending
  rw [lineValues, List.length_map, hlength, List.length_map, Nat.zero_add]

theorem Library.gainsClean_writeDataset (s : Sink) (db : Database) (interval : Nat) :
    s.GainsClean (writeDataset db s interval).outcome := by
  rcases hselect : db.select Table.bookName Table.bookColumns with e | rows
  · have hending : ∀ records, (Except.error e.toConvert : Except ConvertError Nat) = .ok records →
        records = ([] : List Json).length := by
      rintro records ⟨⟩
    rw [writeDataset, hselect]
    exact s.gainsClean_writeThen hending
  · rw [writeDataset, hselect, writeFrom, writeRows_eq]
    apply s.gainsClean_writeThen
    intro records hending
    rcases houtcome : Answers.outcome (0 + rows.length) rows with e | count
    · rw [houtcome] at hending
      cases hending
    · rw [houtcome] at hending
      obtain ⟨rfl, hlength⟩ := Answers.outcome_eq_ok houtcome
      obtain rfl : 0 + rows.length = records := Except.ok.inj hending
      rw [List.length_map, hlength, Nat.zero_add]

namespace Fiction

/-- A record's JSON line is written behind its custom line, or not at all. -/
theorem Sinks.grows_writeRecord (s : Sinks) (record : Record) :
    s.json.Grows (s.writeRecord record).1.json record.labels.toJson.line
      ((s.writeRecord record).2 = .ok ()) := by
  rw [writeRecord]
  rcases s.custom.writeCustom record.fields with ⟨custom, e | ⟨⟩⟩
  · exact .none s.json (by rintro ⟨⟩)
  · exact Sink.grows_writeJson s.json record.labels.toJson

theorem Sinks.grows_writeRecords (s : Sinks) (records : List Record) :
    s.json.Grows (s.writeRecords records).1.json
      (Bytes.ofLines ((records.map fun record => record.labels.toJson).map Json.bytes))
      ((s.writeRecords records).2 = .ok ()) := by
  induction records generalizing s with
  | nil => exact .nil s.json _
  | cons record records ih =>
    rw [List.map_cons, Json.ofLines_bytes_cons, writeRecords]
    have hline := s.grows_writeRecord record
    rcases hwrite : s.writeRecord record with ⟨s₁, e | ⟨⟩⟩
    · rw [hwrite] at hline
      exact hline.cut _ (by rintro ⟨⟩)
    · rw [hwrite] at hline
      exact (hline.imp fun _ => rfl).append (ih s₁)

/-- The JSON output of a run that ends with the number of its records, or with an error. -/
theorem Sinks.gainsClean_writeThen (s : Sinks) {records : List Record}
    {ending : Except ConvertError Counts}
    (hending : ∀ counts, ending = .ok counts → counts.records = records.length) :
    s.json.GainsClean ((s.writeThen records ending).1.json,
      (s.writeThen records ending).2.map Counts.records) := by
  apply Sink.Grows.gainsClean (s.grows_writeRecords records)
  intro count hanswer
  rw [writeThen] at hanswer
  rcases hrun : (s.writeRecords records).2 with e | ⟨⟩
  · rw [hrun] at hanswer
    cases hanswer
  · rw [hrun] at hanswer
    refine ⟨rfl, ?_⟩
    cases ending with
    | error e => cases hanswer
    | ok counts =>
      obtain rfl : counts.records = count := Except.ok.inj hanswer
      rw [List.length_map, hending counts rfl]

/-- Who comes to the end of the rows has counted their records. -/
theorem records_of_ending {rows : List Table.Fetched} {counts : Counts}
    (h : ending ⟨0, 0⟩ rows = .ok counts) :
    counts.records = (recordsOf (Answers.before rows)).length := by
  rw [ending] at h
  rcases houtcome : Answers.outcome (⟨0 + (recordsOf (Answers.before rows)).length,
    0 + rows.length⟩ : Counts) rows with e | done
  · rw [houtcome] at h
    cases h
  · rw [houtcome] at h
    obtain ⟨rfl, -⟩ := Answers.outcome_eq_ok houtcome
    obtain rfl := Except.ok.inj h
    exact Nat.zero_add _

theorem gainsClean_writeDatasets (s : Sinks) (db : Database) (table : Text) (interval : Nat) :
    s.json.GainsClean ((writeDatasets db table s interval).sinks.json,
      (writeDatasets db table s interval).result.map Counts.records) := by
  rcases hselect : db.select table selection with e | rows
  · have hending : ∀ counts, (Except.error e.toConvert : Except ConvertError Counts) = .ok counts →
        counts.records = ([] : List Record).length := by
      rintro counts ⟨⟩
    rw [writeDatasets, hselect]
    exact s.gainsClean_writeThen hending
  · have hrun : (writeDatasets db table s interval).outcome
        = s.writeThen (recordsOf (Answers.before rows)) (ending ⟨0, 0⟩ rows) := by
      rw [writeDatasets, hselect, writeFrom]
      exact writeRows_eq interval ⟨0, 0⟩ s rows
    have hending : ∀ counts, ending ⟨0, 0⟩ rows = .ok counts →
        counts.records = (recordsOf (Answers.before rows)).length :=
      fun _ => records_of_ending
    have hclean := s.gainsClean_writeThen hending
    rw [← hrun] at hclean
    exact hclean

end Fiction

/-- **JSON datasets are printable ASCII, one line per record.**  Whatever the listing, the tables
and the texts in them, into whatever sink, with or without a limit, and whether the run succeeds or
fails: what the JSON output gains is clean lines, and a success tells their number.  The same holds
of a single line, for every value and every label record. -/
theorem json_output_is_clean :
    (∀ (s : Sink) (input : Bytes), s.GainsClean (Listing.writeDataset input s))
    ∧ (∀ (s : Sink) (db : Database) (interval : Nat),
      s.GainsClean (Library.writeDataset db s interval).outcome)
    ∧ (∀ (s : Fiction.Sinks) (db : Database) (table : Text) (interval : Nat),
      s.json.GainsClean ((Fiction.writeDatasets db table s interval).sinks.json,
        (Fiction.writeDatasets db table s interval).result.map Fiction.Counts.records))
    ∧ (∀ (s : Sink) (value : Json),
      s.GainsClean ((s.writeJson value).1, (s.writeJson value).2.map fun _ => 1))
    ∧ ∀ (s : Sink) (record : LabelRecord),
      s.GainsClean ((s.writeJson record.toJson).1, (s.writeJson record.toJson).2.map fun _ => 1) :=
  ⟨Listing.gainsClean_writeDataset, Library.gainsClean_writeDataset,
    Fiction.gainsClean_writeDatasets, Sink.gainsClean_writeJson,
    fun s record => s.gainsClean_writeJson record.toJson⟩

end BookDatasets

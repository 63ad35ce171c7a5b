/-
  Custom lines have one reading.

  1. **Grammar** — a line is `{name="body",name="body"}`: at least one field, a name made of small
     letters and underscores, a body as in `Field.IsBody`.  `Parse` relates the fields of a line to
     its text; it does not know the program.
  2. **One reading** — a name cannot hold the `=` that ends it, and where a body ends is never in
     doubt, so reading from the left leaves NO choice: a text has at most one parse
     (`Parse.unique`).
  3. **Program** — the line of fields that have names and bodies parses, and as these fields.
-/
import BookDatasets.CustomLine
import BookDatasets.Proofs.Field
import BookDatasets.Proofs.Text.Utf8

namespace BookDatasets

namespace CustomLine

/-! ## Grammar -/

/-- A character of a name: a small letter or an underscore. -/
def isNameChar (c : Char) : Bool := decide ('a' ≤ c ∧ c ≤ 'z') || c == '_'

/-- A name: at least one character, each a small letter or an underscore. -/
def IsName (name : Text) : Prop := name ≠ [] ∧ ∀ c ∈ name, isNameChar c = true

/-- A field that a line can hold. -/
def IsField (field : Text × Text) : Prop := IsName field.1 ∧ Field.IsBody field.2

/-- The fields of a text `name="body",name="body"`. -/
inductive ParseFields : List (Text × Text) → Text → Prop where
  | one {name body : Text} (hname : IsName name) (hbody : Field.IsBody body) :
      ParseFields [(name, body)] (name ++ '=' :: '"' :: (body ++ ['"']))
  | more {name body : Text} {fields : List (Text × Text)} {rest : Text} (hname : IsName name)
      (hbody : Field.IsBody body) (hrest : ParseFields fields rest) :
      ParseFields ((name, body) :: fields) (name ++ '=' :: '"' :: (body ++ '"' :: ',' :: rest))

/-- The fields of the text of a line. -/
inductive Parse : List (Text × Text) → Text → Prop where
  | braced {fields : List (Text × Text)} {inner : Text} (h : ParseFields fields inner) :
      Parse fields ('{' :: (inner ++ ['}']))

/-- The fields of a line's octets. -/
def Reads (fields : List (Text × Text)) (line : Bytes) : Prop :=
  ∃ text, Utf8.decode line = .ok text ∧ Parse fields text

/-! ## One reading -/

theorem IsName.equals_not_mem {name : Text} (h : IsName name) : '=' ∉ name := by
  intro hmem
  exact absurd (h.2 '=' hmem) (by decide)

/-- A name ends at the first `=`. -/
theorem IsName.append_equals_inj {a b rest rest' : Text} (ha : IsName a) (hb : IsName b)
    (h : a ++ '=' :: rest = b ++ '=' :: rest') : a = b ∧ rest = rest' := by
  -- The name is the first piece of a cut at every `=`.
  have hcut : ∀ {name : Text} (rest : Text), IsName name →
      (name ++ '=' :: rest).splitOn '=' = name :: rest.splitOn '=' := by
    intro name rest hname
    exact List.splitOn_append_cons_self_of_not_mem hname.equals_not_mem rest
  have hsplit := congrArg (List.splitOn '=') h
  rw [hcut rest ha, hcut rest' hb] at hsplit
  obtain ⟨rfl, -⟩ := List.cons.inj hsplit
  exact ⟨rfl, (List.cons.inj (List.append_cancel_left h)).2⟩

/-- The first field of a text is never in doubt, and neither is what follows it. -/
theorem append_field_inj {name body rest name' body' rest' : Text} (hname : IsName name)
    (hbody : Field.IsBody body) (hname' : IsName name') (hbody' : Field.IsBody body')
    (h : name ++ '=' :: '"' :: (body ++ '"' :: rest)
      = name' ++ '=' :: '"' :: (body' ++ '"' :: rest')) :
    (name, body) = (name', body') ∧ rest = rest' := by
  obtain ⟨rfl, htail⟩ := hname.append_equals_inj hname' h
  obtain ⟨rfl, hrest⟩ := hbody.append_quote_inj hbody' (List.cons.inj htail).2
  exact ⟨rfl, hrest⟩

theorem ParseFields.unique {a b : List (Text × Text)} {s t : Text} (ha : ParseFields a s)
    (hb : ParseFields b t) (h : s = t) : a = b := by
  induction ha generalizing b t with
  | one hname hbody =>
    cases hb with
    | one hname' hbody' =>
      obtain ⟨heq, -⟩ := append_field_inj hname hbody hname' hbody' h
      rw [heq]
    | more hname' hbody' _ =>
      -- Nothing follows the last quote of the one, a comma that of the other.
      obtain ⟨-, hrest⟩ := append_field_inj hname hbody hname' hbody' h
      exact nomatch hrest
  | more hname hbody _ ih =>
    cases hb with
    | one hname' hbody' =>
      obtain ⟨-, hrest⟩ := append_field_inj hname hbody hname' hbody' h
      exact nomatch hrest
    | more hname' hbody' hb =>
      obtain ⟨heq, hrest⟩ := append_field_inj hname hbody hname' hbody' h
      rw [heq, ih hb (List.cons.inj hrest).2]

/-- **A text has at most one parse.** -/
theorem Parse.unique {a b : List (Text × Text)} {text : Text} (ha : Parse a text)
    (hb : Parse b text) : a = b := by
  obtain ⟨ha⟩ := ha
  generalize htext : '{' :: (_ ++ ['}']) = text at hb
  obtain ⟨hb⟩ := hb
  exact ha.unique hb (List.append_cancel_right (List.cons.inj htext).2)

/-! ## The line of fields -/

theorem parseFields_joined {fields : List (Text × Text)} (hne : fields ≠ [])
    (h : ∀ field ∈ fields, IsField field) :
    ParseFields fields (Text.joined [','] (fields.map fieldText)) := by
  induction fields with
  | nil => exact absurd rfl hne
  | cons field fields ih =>
    obtain ⟨⟨hname, hbody⟩, hfields⟩ := List.forall_mem_cons.1 h
    rcases field with ⟨name, body⟩
    cases fields with
    | nil =>
      have htext : Text.joined [','] [fieldText (name, body)]
          = name ++ '=' :: '"' :: (body ++ ['"']) := by
        simp [Text.joined, fieldText]
      rw [List.map_singleton, htext]
      exact .one hname hbody
    | cons next fields =>
      have htext : Text.joined [','] (((name, body) :: next :: fields).map fieldText)
          = name ++ '=' :: '"' :: (body ++ '"' :: ','
            :: Text.joined [','] ((next :: fields).map fieldText)) := by
        simp [Text.joined, fieldText, List.intercalate_cons_cons]
      rw [htext]
      exact .more hname hbody (ih (List.cons_ne_nil _ _) hfields)

/-- The text of fields parses as the fields. -/
theorem parse_text {fields : List (Text × Text)} (hne : fields ≠ [])
    (h : ∀ field ∈ fields, IsField field) : Parse fields (text fields) := by
  have htext : text fields = '{' :: (Text.joined [','] (fields.map fieldText) ++ ['}']) := rfl
  rw [htext]
  exact .braced (parseFields_joined hne h)

theorem fieldsChunks_flatten (fields : List (Text × Text)) :
    (fieldsChunks fields).flatten = Utf8.encode (Text.joined [','] (fields.map fieldText)) := by
  induction fields with
  | nil => rfl
  | cons field fields ih =>
    have hfield : (fieldChunks field).flatten = Utf8.encode (fieldText field) := by
      simp [fieldChunks, fieldText, Utf8.encode, Utf8.encodeChar]
    cases fields with
    | nil =>
      rw [fieldsChunks, hfield, List.map_singleton, Text.joined, List.intercalate_singleton]
    | cons next fields =>
      have hchunks : fieldsChunks (field :: next :: fields)
          = fieldChunks field ++ [0x2C] :: fieldsChunks (next :: fields) := rfl
      rw [hchunks, List.flatten_append, List.flatten_cons, hfield, ih]
      simp [Text.joined, List.intercalate_cons_cons, Utf8.encode, Utf8.encodeChar]

/-- A line is its text in UTF-8 and a line feed. -/
theorem line_eq (fields : List (Text × Text)) :
    line fields = Utf8.encode (text fields) ++ [0x0A] := by
  rw [line, chunks, List.cons_append, List.flatten_cons, List.flatten_append, fieldsChunks_flatten]
  simp [text, Utf8.encode, Utf8.encodeChar]

/-- A text that parses holds no line feed. -/
theorem ParseFields.lineFeed_not_mem {fields : List (Text × Text)} {text : Text}
    (h : ParseFields fields text) : '\n' ∉ text := by
  have hname : ∀ {name : Text}, IsName name → '\n' ∉ name := by
    intro name h hmem
    exact absurd (h.2 '\n' hmem) (by decide)
  induction h with
  | one hn hb =>
    have hbody := hb.lineFeed_not_mem
    simp [hname hn, hbody]
  | more hn hb _ ih =>
    have hbody := hb.lineFeed_not_mem
    simp [hname hn, hbody, ih]

/-- A line holds no line feed but its last octet. -/
theorem lineFeed_not_mem {fields : List (Text × Text)} {text : Text} (h : Parse fields text) :
    0x0A ∉ Utf8.encode text := by
  have hfeed : '\n' ∉ text := by
    obtain ⟨h⟩ := h
    simp [h.lineFeed_not_mem]
  exact fun hmem => hfeed ((Utf8.mem_encode_iff (c := '\n') (by decide) _).1 hmem)

/-- **The octets of a text that parses have its reading and no other.** -/
theorem reads_iff {fields other : List (Text × Text)} {text : Text} (h : Parse fields text) :
    Reads other (Utf8.encode text) ↔ other = fields := by
  constructor
  · rintro ⟨text', hdecode, hother⟩
    rw [Utf8.decode_encode] at hdecode
    obtain rfl := Except.ok.inj hdecode
    exact hother.unique h
  · rintro rfl
    exact ⟨text, Utf8.decode_encode text, h⟩

end CustomLine

end BookDatasets

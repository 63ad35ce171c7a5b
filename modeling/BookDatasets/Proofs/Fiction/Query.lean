/-
  The text of the fiction query, read back.

  1. **Tokens** — the fixed part of the text has the tokens of a selection of the eight columns, and
     leaves nothing begun (`goOn_queryHead`).  Whatever the table is called, ONE token more follows:
     the identifier whose value is the table's name (`read?_queryText`).
  2. **U+0000** — an engine reads a query up to its first U+0000 only.  A name that holds one leaves
     its identifier open there, so there is no query at all, and the text that is left open is the
     one that is reported (`queryText_cut`).
-/
import BookDatasets.Fiction.Dataset
import BookDatasets.Proofs.Table.Token
import BookDatasets.Proofs.Text.Joined

namespace BookDatasets

namespace Fiction

open Table

/-! ## Tokens -/

/-- A column of a selection, read as text. -/
def castTokens (column : Text) : List Token :=
  [.word "CAST".toList, .sign '(', .word column, .word "AS".toList, .word "TEXT".toList, .sign ')']

/-- A selection of columns, up to the table's name. -/
def selectTokens (columns : List Text) : List Token :=
  .word "SELECT".toList :: [Token.sign ','].intercalate (columns.map castTokens)
    ++ [.word "FROM".toList]

/-- **The fixed part of the query** selects the eight columns, and leaves nothing begun. -/
theorem goOn_queryHead :
    Token.Reading.goOn ⟨[], .nothing⟩ queryHead = ⟨selectTokens selection, .nothing⟩ := by
  decide +kernel

/-- **One token more**, whatever the table is called. -/
theorem read?_queryText (table : Text) :
    Token.read? (queryText table) = some (selectTokens selection ++ [.quoted '"' table]) := by
  rw [Token.read?, queryText, Token.Reading.goOn_append, goOn_queryHead, Token.Reading.goOn_quoted]
  rfl

/-- **A table's name never leaves its identifier.**  The text of the query is its fixed part and one
quoted identifier: a scan that begins at its opening quote closes at the last character of the text
and reads the name, character for character.  So two names have two texts.  And the tokens of the
text are those of the fixed part, a selection of the eight columns, and the identifier: no name adds
a token, takes one away or makes one a comment. -/
theorem name_stays_in_identifier (table : Text) :
    (∃ identifier, queryText table = queryHead ++ identifier
        ∧ Identifier.scan identifier = some (table, []))
      ∧ (∀ other, queryText other = queryText table ↔ other = table)
      ∧ Token.read? (queryText table) = some (selectTokens selection ++ [.quoted '"' table]) := by
  have hscan : ∀ name, Identifier.scan (Identifier.quoted name) = some (name, []) := by
    intro name
    have hquoted := @Identifier.scan_quoted [] name (by simp)
    rwa [List.append_nil] at hquoted
  refine ⟨⟨_, rfl, hscan table⟩, ?_, read?_queryText table⟩
  intro other
  constructor
  · intro htext
    have hquoted : Identifier.quoted other = Identifier.quoted table :=
      List.append_cancel_left htext
    have hread := hscan other
    rw [hquoted, hscan table, Option.some.injEq, Prod.mk.injEq] at hread
    exact hread.1.symm
  · rintro rfl
    rfl

/-! ## U+0000 -/

/-- What an engine reads of a query. -/
def readPart (text : Text) : Text := text.takeWhile (· ≠ '\x00')

/-- **A name with a U+0000 is no way out either.**  What is read of its query ends inside the
identifier, so it is no query, and the token that is left open is the one that is reported. -/
theorem queryText_cut {table : Text} (h : '\x00' ∈ table) :
    ∃ token, readPart (queryText table) = queryHead ++ token ∧ Token.read? (queryHead ++ token) = none
      ∧ ∀ db : Database, db.select table selection = .error (.openQuote token) := by
  obtain ⟨front, back, rfl, hfront⟩ := List.eq_append_cons_of_mem h
  have hread : '\x00' ∉ queryHead ++ '"' :: Identifier.doubled front := by
    have hhead : '\x00' ∉ queryHead := by decide +kernel
    rw [List.mem_append, List.mem_cons, not_or, not_or]
    exact ⟨hhead, by decide, mt Identifier.mem_doubled hfront⟩
  refine ⟨'"' :: Identifier.doubled front, ?_, ?_, ?_⟩
  · have htext : queryText (front ++ '\x00' :: back)
        = (queryHead ++ '"' :: Identifier.doubled front)
          ++ '\x00' :: (Identifier.doubled back ++ ['"']) := by
      rw [queryText, Identifier.quoted, Identifier.doubled_append, Identifier.doubled_cons]
      simp
    rw [htext]
    exact Text.takeWhile_front hread _
  · rw [Token.read?, Token.Reading.goOn_append, goOn_queryHead, Token.Reading.goOn_opened]
    rfl
  · intro db
    rw [Database.select, if_pos h, Database.unclosed, Text.takeWhile_front hfront]
    rfl

end Fiction

end BookDatasets

/-
  What a change of a database changes.

  A database is known by its tables, and a table by its name: so every fact here is about `find?`.
  Making a table is seen under its own name alone, and only when there was none; a change of a table
  is seen under its name alone (`find?_update`), and so are rows that are added (`find?_append`).
  Rows that are added in two parts are added at once (`append_append`), so it does not matter where a
  run of rows is cut.  A table that takes texts refuses none of them, and stores them as they are
  (`insert_ok`).
-/
import BookDatasets.Table.Basic
import Mathlib.Data.List.Basic

namespace BookDatasets

/-! ## Names -/

theorem sameName_iff {a b : Text} : sameName a b = true ↔ a.map foldCase = b.map foldCase :=
  beq_iff_eq

theorem sameName_self (a : Text) : sameName a a = true := sameName_iff.2 rfl

namespace Table

/-! ## Texts -/

/-- A column that takes every text and every null, and keeps it as it is. -/
structure Column.TakesTexts (column : Column) : Prop where
  keeps : column.affinity = .none ∨ column.affinity = .text
  required : column.required = false
  unique : column.unique = false
  computed : column.computed = none

instance (column : Column) : Decidable column.TakesTexts :=
  decidable_of_iff ((column.affinity = .none ∨ column.affinity = .text) ∧ column.required = false
    ∧ column.unique = false ∧ column.computed = none)
    ⟨fun h => ⟨h.1, h.2.1, h.2.2.1, h.2.2.2⟩,
      fun h => ⟨h.keeps, h.required, h.unique, h.computed⟩⟩

/-- Every column of the table takes every text and every null, and keeps it as it is. -/
def TakesTexts (t : Table) : Prop := ∀ column ∈ t.columns, column.TakesTexts

instance (t : Table) : Decidable t.TakesTexts :=
  inferInstanceAs (Decidable (∀ column ∈ t.columns, column.TakesTexts))

theorem Column.TakesTexts.storedAs {column : Column} (h : column.TakesTexts)
    (value : Option Text) : (Cell.ofText? value).storedAs column.affinity = Cell.ofText? value := by
  rcases h.keeps with haffinity | haffinity
  · rw [haffinity]
    cases value with
    | none => rfl
    | some value => rfl
  · rw [haffinity]
    cases value with
    | none => rfl
    | some value => rfl

theorem fill_map_ofText? {columns : List Column} {values : List (Option Text)}
    (h : ∀ column ∈ columns, column.TakesTexts) (hlength : values.length = columns.length) :
    fill columns (values.map Cell.ofText?) = values.map Cell.ofText? := by
  induction columns generalizing values with
  | nil =>
    obtain rfl := List.length_eq_zero_iff.1 hlength
    rfl
  | cons column columns ih =>
    obtain ⟨hcolumn, hcolumns⟩ := List.forall_mem_cons.1 h
    cases values with
    | nil => cases hlength
    | cons value values =>
      rw [List.map_cons, fill, hcolumn.computed]
      show (Cell.ofText? value).storedAs column.affinity
        :: fill columns (values.map Cell.ofText?) = _
      rw [hcolumn.storedAs, ih hcolumns (Nat.succ.inj hlength)]

section

variable {t : Table} (h : t.TakesTexts)

include h

/-- A row of texts and nulls, one for each column, is stored as it is. -/
theorem row_map_ofText? {values : List (Option Text)} (hlength : values.length = t.columns.length) :
    t.row (values.map Cell.ofText?) = values.map Cell.ofText? :=
  fill_map_ofText? h hlength

/-- A row gives a value to each column. -/
theorem width_eq : t.width = t.columns.length := by
  have hall : (t.columns.filter fun column => column.computed.isNone) = t.columns := by
    apply List.filter_eq_self.2
    intro column hcolumn
    rw [(h column hcolumn).computed]
    rfl
  rw [width, hall]

theorem bare?_eq_none (row : List Cell) : t.bare? row = none := by
  rw [bare?, Option.map_eq_none_iff, List.find?_eq_none]
  intro entry hentry
  rw [(h entry.1 (List.of_mem_zip hentry).1).required]
  exact Bool.false_ne_true

theorem repeated?_eq_none (stored : List (List Cell)) (row : List Cell) :
    t.repeated? stored row = none := by
  rw [repeated?, Option.map_eq_none_iff, List.find?_eq_none]
  intro entry hentry
  rw [(h entry.1 (List.fst_mem_of_mem_zipIdx hentry)).unique]
  exact Bool.false_ne_true

/-- **A table that takes texts** refuses no row. -/
theorem refusal?_eq_none (stored rows : List (List Cell)) : t.refusal? stored rows = none := by
  induction rows generalizing stored with
  | nil => rfl
  | cons cells rows ih =>
    rw [refusal?, bare?_eq_none h, repeated?_eq_none h]
    exact ih _

end

/-! ## Rows -/

theorem append_nil (t : Table) : t.append [] = t := by
  rw [append, List.map_nil, List.append_nil]

theorem append_append (t : Table) (a b : List (List Cell)) :
    (t.append a).append b = t.append (a ++ b) := by
  show Table.mk t.name t.columns ((t.rows ++ a.map t.row) ++ b.map t.row) = _
  rw [List.append_assoc, ← List.map_append]
  rfl

end Table

namespace Database

/-! ## Making a table -/

theorem find?_create_self (db : Database) (table : Table) :
    (db.create table).find? table.name = some ((db.find? table.name).getD table) := by
  rw [create]
  rcases hfind : db.find? table.name with _ | found
  · have hnone : db.tables.find? (fun t => sameName table.name t.name) = none := hfind
    show (db.tables ++ [table]).find? (fun t => sameName table.name t.name) = some table
    rw [List.find?_append, hnone, List.find?_cons, sameName_self]
    rfl
  · exact hfind

/-- **A change that keeps the names** is seen under the name of the table, and under no other one. -/
theorem find?_update (db : Database) (name other : Text) (change : Table → Table)
    (hchange : ∀ t, (change t).name = t.name) :
    (db.update name change).find? other
      = if sameName other name then (db.find? other).map change else db.find? other := by
  -- The tables keep their names, so the same one is found, changed or not.
  have hkept : ((fun t : Table => sameName other t.name) ∘ fun t : Table =>
      if sameName name t.name then change t else t) = fun t => sameName other t.name := by
    funext t
    show sameName other (if sameName name t.name then change t else t).name = _
    split_ifs
    · rw [hchange]
    · rfl
  rw [update, find?, List.find?_map, hkept, ← find?]
  rcases hfind : db.find? other with _ | t
  · rw [Option.map_none, Option.map_none, ite_self]
  · have hfound : sameName other t.name = true :=
      List.find?_some (p := fun t : Table => sameName other t.name) hfind
    have hsame : sameName name t.name = sameName other name := by
      rw [Bool.eq_iff_iff, sameName_iff, sameName_iff, ← sameName_iff.1 hfound]
      exact eq_comm
    rw [Option.map_some, hsame]
    split_ifs
    · rfl
    · rfl

/-! ## Adding rows -/

theorem append_nil (db : Database) (name : Text) : db.append name [] = db := by
  rw [append, update]
  simp only [Table.append_nil, ite_self, List.map_id']

/-- **Where a run of rows is cut does not matter.** -/
theorem append_append (db : Database) (name : Text) (a b : List (List Table.Cell)) :
    (db.append name a).append name b = db.append name (a ++ b) := by
  rw [append, append, append, update, update, update, List.map_map]
  congr 1
  apply List.map_congr_left
  intro t _
  by_cases hname : sameName name t.name = true
  · have hkept : sameName name (t.append a).name = true := hname
    simp only [Function.comp_apply, if_pos hname, if_pos hkept, Table.append_append]
  · simp only [Function.comp_apply, if_neg hname]

/-- **Rows are added to the table of their name**, and to no other one. -/
theorem find?_append (db : Database) (name other : Text) (rows : List (List Table.Cell)) :
    (db.append name rows).find? other
      = if sameName other name then (db.find? other).map (·.append rows) else db.find? other :=
  db.find?_update name other (·.append rows) fun _ => rfl

/-- **A table that takes texts** takes the rows that have a value for each of its columns. -/
theorem insert_ok {db : Database} {name : Text} {t : Table} {supplied : Nat}
    (rows : List (List Table.Cell)) (hfind : db.find? name = some t) (htexts : t.TakesTexts)
    (hwidth : t.columns.length = supplied) :
    db.insert name supplied rows = .ok (db.append name rows) := by
  rw [insert, hfind]
  dsimp only
  rw [if_pos ((Table.width_eq htexts).trans hwidth), Table.refusal?_eq_none htexts]

/-! ## Indexes -/

theorem make_ok {db : Database} {table : Table}
    (h : db.indexes.any (sameName table.name) = false) : db.make table = .ok (db.create table) := by
  rw [make, h]
  rfl

end Database

end BookDatasets

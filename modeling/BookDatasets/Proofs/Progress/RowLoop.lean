/-
  Loops over rows that report as they go.

  1. **The loop** — a row that is a value is written and counted, and then what is due is said.  The
     first row that is an error, or is refused, ends the loop and nothing is said of it.  Both table
     conversions are such loops, with their own outputs and their own counts.
  2. **Cuts** (`RowLoop.run_append`) — a loop over rows is the loop over the first of them and then,
     from what that leaves, the loop over the others.  So the moment right behind a row is a state
     like any other: it is what the loop over the rows so far leaves.
  3. **Completed rows** — `Completes run rows n` says of rows that a run takes how many of them it
     gets through: these alone are taken without fail, and the next one, if there is one, ends it.
  4. **Multiples** (`RowLoop.events_take`) — by induction on the completed rows: each of them adds the
     event that is due behind it.  So a loop that says what is due has said one event for each
     multiple of the interval and none in between (`Log.ticks`).
-/
import BookDatasets.Log
import BookDatasets.Table.Query
import Mathlib.Data.List.Induction

namespace BookDatasets

/-! ## Multiples of an interval -/

namespace Log

/-- One event for each positive multiple of the interval up to `n`, and none for the interval zero. -/
def ticks (interval : Nat) (event : Nat → Event) (n : Nat) : List Event :=
  (List.range (n / interval)).map fun i => event ((i + 1) * interval)

/-- **One more row** adds the event that is due behind it. -/
theorem ticks_succ (interval : Nat) (event : Nat → Event) (n : Nat) :
    ticks interval event (n + 1)
      = ticks interval event n ++ whenDue (n + 1) interval (event (n + 1)) := by
  rcases Nat.eq_zero_or_pos interval with rfl | hinterval
  · rw [ticks, ticks, Nat.div_zero, Nat.div_zero]
    rfl
  · have hdue : isDue (n + 1) interval = true ↔ interval ∣ n + 1 := by
      simp only [isDue, Bool.and_eq_true, decide_eq_true_eq, beq_iff_eq, hinterval,
        Nat.succ_pos, true_and]
      exact (Nat.dvd_iff_mod_eq_zero).symm
    rw [ticks, ticks, whenDue, Nat.succ_div]
    by_cases hmultiple : interval ∣ n + 1
    · have hlast : (n / interval + 1) * interval = n + 1 := by
        have hquotient : (n + 1) / interval = n / interval + 1 := by
          rw [Nat.succ_div, if_pos hmultiple]
        rw [← hquotient, Nat.div_mul_cancel hmultiple]
      rw [if_pos hmultiple, if_pos (hdue.2 hmultiple), List.range_succ, List.map_append,
        List.map_singleton, hlast]
    · rw [if_neg hmultiple, if_neg (mt hdue.1 hmultiple), Nat.add_zero, List.append_nil]

/-- At a multiple the last event said is that of the multiple itself. -/
theorem ticks_mul {interval k n : Nat} (event : Nat → Event) (h : k ≤ n / interval) :
    ticks interval event (k * interval) = (List.range k).map fun i => event ((i + 1) * interval) := by
  rcases Nat.eq_zero_or_pos interval with rfl | hinterval
  · rw [Nat.div_zero, Nat.le_zero] at h
    rw [h, ticks, Nat.div_zero]
  · rw [ticks, Nat.mul_div_cancel _ hinterval]

end Log

/-! ## Rows of a query -/

/-- The rows of a query's answer.  A query that fails is an error in front of every row. -/
def Table.rowsOf : Except SqlError (List Table.Fetched) → List Table.Fetched
  | .error e => [.error e]
  | .ok rows => rows

/-- The run gets through the first `n` of the rows: they alone are taken without fail, and when they
are not all rows, it fails with the next one as it fails with all. -/
structure Completes {κ : Type} (run : List Table.Fetched → Except ConvertError κ)
    (rows : List Table.Fetched) (n : Nat) : Prop where
  le : n ≤ rows.length
  front : ∃ done, run (rows.take n) = .ok done
  stops : n < rows.length → ∃ e, run (rows.take (n + 1)) = .error e ∧ run rows = .error e

/-! ## The loop -/

/-- How a row is taken: it is written and counted, and then something may be said. -/
structure RowLoop (σ κ : Type) where
  write : σ → List (Option Text) → σ × Except ConvertError Unit
  count : κ → List (Option Text) → κ
  say : κ → List Log.Event

/-- What a loop leaves behind. -/
structure RowLoop.Left (σ κ : Type) where
  outputs : σ
  events : List Log.Event
  result : Except ConvertError κ

namespace RowLoop

variable {σ κ : Type}

/-- The same with events in front. -/
def Left.after (events : List Log.Event) (left : Left σ κ) : Left σ κ :=
  { left with events := events ++ left.events }

/-- Goes on from what is left, unless that is an error. -/
def Left.andThen (left : Left σ κ) (next : κ → σ → Left σ κ) : Left σ κ :=
  match left.result with
  | .error _ => left
  | .ok done => (next done left.outputs).after left.events

theorem Left.after_andThen (events : List Log.Event) (left : Left σ κ) (next : κ → σ → Left σ κ) :
    (left.andThen next).after events = (left.after events).andThen next := by
  rcases left with ⟨outputs, said, e | done⟩
  · rfl
  · simp only [andThen, after, List.append_assoc]

/-- Takes rows from a count and outputs on. -/
def run (loop : RowLoop σ κ) (count : κ) (outputs : σ) : List Table.Fetched → Left σ κ
  | [] => ⟨outputs, [], .ok count⟩
  | .error e :: _ => ⟨outputs, [], .error (.database (.sql e))⟩
  | .ok values :: rows =>
    match loop.write outputs values with
    | (outputs, .error e) => ⟨outputs, [], .error e⟩
    | (outputs, .ok ()) =>
      (loop.run (loop.count count values) outputs rows).after (loop.say (loop.count count values))

variable {loop : RowLoop σ κ} {count done : κ} {outputs : σ} {rows : List Table.Fetched}

/-! ## Cuts -/

/-- **A loop over rows in two parts** is the loop over the first part, and then over the second. -/
theorem run_append (loop : RowLoop σ κ) (count : κ) (outputs : σ) (a b : List Table.Fetched) :
    loop.run count outputs (a ++ b)
      = (loop.run count outputs a).andThen fun count outputs => loop.run count outputs b := by
  induction a generalizing count outputs with
  | nil => rfl
  | cons row a ih =>
    cases row with
    | error e => rfl
    | ok values =>
      rw [List.cons_append, run, run]
      rcases loop.write outputs values with ⟨written, e | ⟨⟩⟩
      · rfl
      · dsimp only
        rw [ih, Left.after_andThen]

/-- Behind rows that are taken the loop goes on with the others. -/
theorem run_of_take {m : Nat} (h : (loop.run count outputs (rows.take m)).result = .ok done) :
    loop.run count outputs rows
      = (loop.run done (loop.run count outputs (rows.take m)).outputs (rows.drop m)).after
          (loop.run count outputs (rows.take m)).events := by
  have hcut := run_append loop count outputs (rows.take m) (rows.drop m)
  rw [List.take_append_drop, Left.andThen, h] at hcut
  exact hcut

/-- A row that ends the loop ends it whatever comes behind. -/
theorem run_of_take_error {m : Nat} {e : ConvertError}
    (h : (loop.run count outputs (rows.take m)).result = .error e) :
    loop.run count outputs rows = loop.run count outputs (rows.take m) := by
  have hcut := run_append loop count outputs (rows.take m) (rows.drop m)
  rw [List.take_append_drop, Left.andThen, h] at hcut
  exact hcut

/-- Fewer rows than are taken are taken too. -/
theorem exists_take_ok {m n : Nat} (hm : m ≤ n)
    (h : (loop.run count outputs (rows.take n)).result = .ok done) :
    ∃ earlier, (loop.run count outputs (rows.take m)).result = .ok earlier := by
  rcases hfront : (loop.run count outputs (rows.take m)).result with e | earlier
  · have htake : (rows.take n).take m = rows.take m := by
      rw [List.take_take, Nat.min_eq_left hm]
    rw [← htake] at hfront
    rw [run_of_take_error hfront, hfront] at h
    cases h
  · exact ⟨earlier, rfl⟩

/-! ## One row -/

/-- What is said of one row: what is due behind it when it is taken, and nothing otherwise. -/
theorem events_singleton (count : κ) (outputs : σ) (row : Table.Fetched) :
    (loop.run count outputs [row]).events
      = match (loop.run count outputs [row]).result with
        | .error _ => []
        | .ok done => loop.say done := by
  cases row with
  | error e => rfl
  | ok values =>
    rw [run]
    rcases loop.write outputs values with ⟨written, e | ⟨⟩⟩
    · rfl
    · exact List.append_nil _

/-- **One row more**: what is said of it stands behind what was said before. -/
theorem events_take_succ {n : Nat} (hn : n < rows.length)
    (h : (loop.run count outputs (rows.take n)).result = .ok done) :
    (loop.run count outputs (rows.take (n + 1))).events
      = (loop.run count outputs (rows.take n)).events
        ++ match (loop.run count outputs (rows.take (n + 1))).result with
          | .error _ => []
          | .ok done => loop.say done := by
  have hcut := run_append loop count outputs (rows.take n) [rows[n]]
  rw [Left.andThen, h] at hcut
  rw [List.take_succ_eq_append_getElem hn, hcut]
  exact congrArg _ (events_singleton done _ rows[n])

/-! ## Completed rows -/

/-- **Every loop gets through some number of rows.** -/
theorem exists_completes (loop : RowLoop σ κ) (count : κ) (outputs : σ)
    (rows : List Table.Fetched) :
    ∃ n, Completes (fun rows => (loop.run count outputs rows).result) rows n := by
  induction rows using List.reverseRecOn with
  | nil => exact ⟨0, Nat.le_refl 0, ⟨count, rfl⟩, fun h => absurd h (Nat.lt_irrefl 0)⟩
  | append_singleton rows row ih =>
    obtain ⟨n, hle, ⟨done, hfront⟩, hstops⟩ := ih
    have hlength : (rows ++ [row]).length = rows.length + 1 := List.length_append
    rcases Nat.lt_or_eq_of_le hle with hlt | rfl
    · -- The loop has ended before the last row.
      obtain ⟨e, hnext, -⟩ := hstops hlt
      have hfewer : (rows ++ [row]).take n = rows.take n := List.take_append_of_le_length hle
      have htake : (rows ++ [row]).take (n + 1) = rows.take (n + 1) :=
        List.take_append_of_le_length hlt
      rw [← hfewer] at hfront
      rw [← htake] at hnext
      refine ⟨n, by omega, ⟨done, hfront⟩, fun _ => ⟨e, hnext, ?_⟩⟩
      rw [run_of_take_error hnext, hnext]
    · have hshort : (rows ++ [row]).take rows.length = rows := List.take_left
      rw [List.take_length, ← hshort] at hfront
      have hwhole : (rows ++ [row]).take (rows.length + 1) = rows ++ [row] :=
        List.take_of_length_le (Nat.le_of_eq hlength)
      rcases hlast : (loop.run count outputs (rows ++ [row])).result with e | total
      · refine ⟨rows.length, by omega, ⟨done, hfront⟩, fun _ => ⟨e, ?_, hlast⟩⟩
        rw [hwhole]
        exact hlast
      · refine ⟨rows.length + 1, by omega, ⟨total, ?_⟩, fun h => by omega⟩
        rw [hwhole]
        exact hlast

/-- Nothing is said behind the completed rows. -/
theorem events_of_completes {n : Nat}
    (h : Completes (fun rows => (loop.run count outputs rows).result) rows n) :
    (loop.run count outputs rows).events = (loop.run count outputs (rows.take n)).events := by
  obtain ⟨done, hfront⟩ := h.front
  rcases Nat.lt_or_eq_of_le h.le with hlt | hall
  · obtain ⟨e, hnext, -⟩ := h.stops hlt
    have hevents := events_take_succ hlt hfront
    rw [hnext] at hevents
    rw [run_of_take_error hnext, hevents]
    exact List.append_nil _
  · rw [hall, List.take_length]

/-! ## Multiples -/

/-- **A loop that says what is due** behind each row has said one event for each multiple. -/
theorem events_take {interval n : Nat} {event : Nat → Log.Event} (hn : n ≤ rows.length)
    (hsay : ∀ j ≤ n, ∀ done, (loop.run count outputs (rows.take j)).result = .ok done →
      loop.say done = Log.whenDue j interval (event j))
    (h : (loop.run count outputs (rows.take n)).result = .ok done) :
    (loop.run count outputs (rows.take n)).events = Log.ticks interval event n := by
  induction n generalizing done with
  | zero =>
    rw [Log.ticks, Nat.zero_div]
    rfl
  | succ n ih =>
    obtain ⟨earlier, hearlier⟩ := exists_take_ok (Nat.le_succ n) h
    have hfront := ih (Nat.le_of_succ_le hn) (fun j hj => hsay j (Nat.le_succ_of_le hj)) hearlier
    rw [events_take_succ hn hearlier, hfront, h, Log.ticks_succ]
    dsimp only
    rw [hsay (n + 1) (Nat.le_refl _) done h]

end RowLoop

end BookDatasets

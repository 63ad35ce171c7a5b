/-
  Normalizing and reading back, in any mix.

  1. **Stripped values** — a stripped value and a normalized one have nothing left to strip, and
     stripping first makes no difference to normalizing.  So after ONE step of normalizing, what the
     raw value had at its ends and its line feeds are gone for good.
  2. **One step** — from then on the value is the stripped one, normalized some number of times.
     Normalizing goes one up, and reading back goes one down (`apply_normalize`, `apply_unescape`).
  3. **A sequence** that never reads back more often than it has normalized goes up and down and
     never below the stripped value (`afterSteps_iterate`), and its beginnings are such sequences
     too.  One of them stands apart: the EMPTY sequence takes no step, and so strips nothing
     (`empty_sequence_strips_nothing`).
-/
import BookDatasets.Proofs.Field
import BookDatasets.Proofs.Text.Joined
import Mathlib.Data.List.Infix
import Mathlib.Logic.Function.Iterate

namespace BookDatasets

namespace Field

/-! ## Stripped values -/

theorem withoutFeeds_of_not_mem {value : Text} (h : '\n' ∉ value) : withoutFeeds value = value :=
  List.filter_eq_self.2 (Text.passes_of_not_mem h)

theorem strip_strip (raw : Text) : strip (strip raw) = strip raw := by
  have hfeed : '\n' ∉ strip raw := fun hmem => mem_strip hmem rfl
  rw [strip, withoutFeeds_of_not_mem hfeed, strip, trim_trim]

/-- Nothing is left to strip of a normalized value. -/
theorem strip_normalize (raw : Text) : strip (normalize raw) = normalize raw := by
  rw [strip, withoutFeeds_of_not_mem (isBody_normalize raw).lineFeed_not_mem, normalize_eq_trim,
    trim_trim]

/-- Stripping first makes no difference to normalizing. -/
theorem normalize_strip (raw : Text) : normalize (strip raw) = normalize raw := by
  rw [normalize_eq, normalize_eq, strip_strip]

/-! ## One step -/

/-- However often a stripped value is normalized, nothing is left to strip. -/
theorem strip_iterate (n : Nat) (raw : Text) :
    strip (normalize^[n] (strip raw)) = normalize^[n] (strip raw) := by
  cases n with
  | zero => exact strip_strip raw
  | succ n =>
    rw [Function.iterate_succ_apply']
    exact strip_normalize _

/-- Normalizing goes one up. -/
theorem apply_normalize (n : Nat) (raw : Text) :
    Step.normalize.apply (normalize^[n] (strip raw)) = normalize^[n + 1] (strip raw) :=
  (Function.iterate_succ_apply' normalize n (strip raw)).symm

/-- Reading back goes one down. -/
theorem apply_unescape (n : Nat) (raw : Text) :
    Step.unescape.apply (normalize^[n + 1] (strip raw)) = normalize^[n] (strip raw) := by
  rw [Function.iterate_succ_apply']
  show unescape (normalize _) = _
  rw [unescape_normalize, strip_iterate]

/-! ## A sequence -/

/-- How often a sequence normalizes more than it reads back. -/
def height (steps : List Step) : Nat := steps.count .normalize - steps.count .unescape

/-- **A sequence from a value that has been normalized** `n` times, and that never reads back more
often than it has been normalized by then. -/
theorem afterSteps_iterate (raw : Text) {n : Nat} {steps : List Step}
    (h : ∀ front, front <+: steps → front.count .unescape ≤ n + front.count .normalize) :
    afterSteps (normalize^[n] (strip raw)) steps
      = normalize^[n + steps.count .normalize - steps.count .unescape] (strip raw) := by
  induction steps generalizing n with
  | nil => rfl
  | cons step steps ih =>
    rw [afterSteps, List.foldl_cons, ← afterSteps]
    -- What is asked of a beginning is asked of it with this step in front.
    have hfront : ∀ front, front <+: steps →
        (step :: front).count .unescape ≤ n + (step :: front).count .normalize := by
      intro front hbegins
      exact h (step :: front) ((List.prefix_cons_inj step).2 hbegins)
    cases step with
    | normalize =>
      have hcovered : ∀ front, front <+: steps →
          front.count .unescape ≤ n + 1 + front.count .normalize := by
        intro front hbegins
        have hcount := hfront front hbegins
        rw [List.count_cons_of_ne (by decide), List.count_cons_self] at hcount
        omega
      rw [apply_normalize, ih hcovered, List.count_cons_self, List.count_cons_of_ne (by decide)]
      congr 1
      omega
    | unescape =>
      -- The step alone is a beginning, so something has been normalized before it.
      have hone := hfront [] List.nil_prefix
      rw [List.count_cons_self, List.count_cons_of_ne (by decide)] at hone
      obtain ⟨m, rfl⟩ : ∃ m, n = m + 1 := ⟨n - 1, by simp at hone; omega⟩
      have hcovered : ∀ front, front <+: steps →
          front.count .unescape ≤ m + front.count .normalize := by
        intro front hbegins
        have hcount := hfront front hbegins
        rw [List.count_cons_self, List.count_cons_of_ne (by decide)] at hcount
        omega
      rw [apply_unescape, ih hcovered, List.count_cons_self, List.count_cons_of_ne (by decide)]
      congr 1
      omega

/-- A sequence from a raw value: its first step is to normalize, and that strips the value. -/
theorem afterSteps_raw (raw : Text) {steps : List Step}
    (h : ∀ front, front <+: steps → front.count .unescape ≤ front.count .normalize)
    (hne : steps ≠ []) : afterSteps raw steps = normalize^[height steps] (strip raw) := by
  have hzero : ∀ front, front <+: steps →
      front.count .unescape ≤ 0 + front.count .normalize := by
    intro front hbegins
    rw [Nat.zero_add]
    exact h front hbegins
  have hstripped := afterSteps_iterate raw hzero
  rw [Nat.zero_add] at hstripped
  rw [height, ← hstripped]
  cases steps with
  | nil => exact absurd rfl hne
  | cons step steps =>
    cases step with
    | normalize =>
      show afterSteps (normalize raw) steps = afterSteps (normalize (strip raw)) steps
      rw [normalize_strip]
    | unescape =>
      have hone := h [.unescape] ((List.prefix_cons_inj _).2 List.nil_prefix)
      exact absurd hone (by decide)

/-- The values on the way are the values after the beginnings of a sequence. -/
theorem states_eq (value : Text) (steps : List Step) :
    states value steps
      = (List.range steps.length).map fun i => afterSteps value (steps.take (i + 1)) := by
  induction steps generalizing value with
  | nil => rfl
  | cons step steps ih =>
    rw [states, ih, List.length_cons, List.range_succ_eq_map, List.map_cons, List.map_map]
    rfl

/-- **Reading back undoes normalizing, in any mix.**  Let a sequence of both never have read back
more often than normalized.  Then it takes a raw value to the stripped one, normalized as often as
the sequence normalizes more than it reads back; so does each of its beginnings, which are the
values on the way.  Only the empty sequence strips nothing, and what stripping leaves of its value
is no exception.  In particular, what is normalized once is read back as the stripped value. -/
theorem unescape_undoes_normalize (raw : Text) {steps : List Step}
    (h : ∀ front, front <+: steps → front.count .unescape ≤ front.count .normalize) :
    (steps ≠ [] → afterSteps raw steps = normalize^[height steps] (strip raw))
      ∧ strip (afterSteps raw steps) = normalize^[height steps] (strip raw)
      ∧ (states raw steps = (List.range steps.length).map fun i =>
          normalize^[height (steps.take (i + 1))] (strip raw))
      ∧ unescape (normalize raw) = strip raw := by
  refine ⟨afterSteps_raw raw h, ?_, ?_, unescape_normalize raw⟩
  · by_cases hempty : steps = []
    · rw [hempty]
      rfl
    · rw [afterSteps_raw raw h hempty, strip_iterate]
  · rw [states_eq]
    apply List.map_congr_left
    intro i hi
    have hlength : i < steps.length := List.mem_range.1 hi
    apply afterSteps_raw raw
    · intro front hbegins
      exact h front (hbegins.trans (List.take_prefix (i + 1) steps))
    · intro hnil
      have hzero := congrArg List.length hnil
      rw [List.length_take, List.length_nil] at hzero
      omega

/-- Without a step a value keeps its blanks, so what holds of the other sequences does not hold of
the empty one: a blank stays a blank, and stripping leaves nothing of it. -/
theorem empty_sequence_strips_nothing :
    (∀ front, front <+: ([] : List Step) → front.count .unescape ≤ front.count .normalize)
    ∧ afterSteps " ".toList [] ≠ normalize^[height []] (strip " ".toList) := by
  constructor
  · intro front hbegins
    rw [List.prefix_nil.1 hbegins]
    exact Nat.le_refl 0
  · decide

/-- A sequence that goes up twice, and all the way down in two goes. -/
def upAndDown : List Step := [.normalize, .normalize, .unescape, .normalize, .unescape, .unescape]

theorem afterSteps_upAndDown :
    (∀ front, front <+: upAndDown → front.count .unescape ≤ front.count .normalize)
    ∧ afterSteps " \"a\n\\ ".toList upAndDown = "\"a\\".toList := by
  have hcovered : ∀ front, front <+: upAndDown →
      front.count .unescape ≤ front.count .normalize := by
    intro front hbegins
    have hall : ∀ front ∈ upAndDown.inits,
        front.count Step.unescape ≤ front.count .normalize := by decide
    exact hall front ((List.mem_inits front upAndDown).2 hbegins)
  have hsteps := (unescape_undoes_normalize " \"a\n\\ ".toList hcovered).1 (by decide)
  have hstrip : strip " \"a\n\\ ".toList = "\"a\\".toList := by decide
  refine ⟨hcovered, ?_⟩
  rw [hsteps, hstrip]
  rfl

end Field

end BookDatasets

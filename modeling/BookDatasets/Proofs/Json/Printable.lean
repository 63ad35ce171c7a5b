/-
  Dataset lines are printable ASCII.

  Whatever a value holds, its octets lie in 0x20 to 0x7E: a character outside is written as an
  escape, and an escape is a backslash and letters or digits.  Two things follow that everything
  about lines rests on.  A line feed stands at the END of a line only, and the octets of a line
  are the same text in every reading of ASCII.
-/
import BookDatasets.Proofs.Json.RoundTrip
import Mathlib.Data.Bool.AllAny

namespace BookDatasets

namespace Json

/-! ## Characters -/

/-- A printable ASCII octet: neither a control nor U+007F nor part of a longer character. -/
def IsPrintable (b : UInt8) : Prop := 0x20 ≤ b.toNat ∧ b.toNat < 0x7F

instance (b : UInt8) : Decidable (IsPrintable b) := inferInstanceAs (Decidable (_ ∧ _))

/-- A fixed text is checked octet by octet. -/
theorem isPrintable_of_all {b : Bytes} (h : b.all (fun octet => decide (IsPrintable octet)) = true) :
    ∀ octet ∈ b, IsPrintable octet :=
  List.all_iff_forall_prop.1 h

theorem isPrintable_hexDigit {d : Nat} (h : d < 16) : IsPrintable (hexDigit d) := by
  rw [IsPrintable, hexDigit]
  split_ifs <;> rw [Utf8.toNat_octet (by omega)] <;> omega

theorem isPrintable_unitEscape (unit : Nat) : ∀ b ∈ unitEscape unit, IsPrintable b := by
  intro b hb
  simp only [unitEscape, hex4, List.mem_cons, List.not_mem_nil, or_false] at hb
  rcases hb with rfl | rfl | rfl | rfl | rfl | rfl
  · exact ⟨by decide, by decide⟩
  · exact ⟨by decide, by decide⟩
  all_goals exact isPrintable_hexDigit (Nat.mod_lt _ (by decide))

theorem isPrintable_loneEscape (c : Char) : ∀ b ∈ loneEscape c, IsPrintable b := by
  intro b hb
  unfold loneEscape at hb
  split_ifs at hb
  all_goals
    first
    | exact isPrintable_unitEscape _ b hb
    | simp only [List.mem_cons, List.not_mem_nil, or_false] at hb
      rcases hb with rfl | rfl <;> exact ⟨by decide, by decide⟩

/-- Nothing but printable ASCII is written for a character. -/
theorem isPrintable_escapedChar (c : Char) : ∀ b ∈ escapedChar c, IsPrintable b := by
  intro b hb
  rw [escapedChar] at hb
  split_ifs at hb with halone
  · exact isPrintable_loneEscape c b hb
  · rw [fragmentChar] at hb
    split_ifs at hb with hverbatim
    · simp only [standsAlone, Bool.or_eq_true, decide_eq_true_eq, not_or] at halone
      simp only [isVerbatim, decide_eq_true_eq] at hverbatim
      rw [Utf8.encodeChar, if_pos (by omega), List.mem_singleton] at hb
      rw [hb, IsPrintable, Utf8.toNat_octet (by omega)]
      omega
    · obtain ⟨unit, -, hunit⟩ := List.mem_flatMap.1 hb
      exact isPrintable_unitEscape unit b hunit

/-! ## Strings and numbers -/

theorem isPrintable_stringChunks (t : Text) : ∀ b ∈ (stringChunks t).flatten, IsPrintable b := by
  have hchars : ∀ b ∈ t.flatMap escapedChar, IsPrintable b := by
    intro b hb
    obtain ⟨c, -, hc⟩ := List.mem_flatMap.1 hb
    exact isPrintable_escapedChar c b hc
  rw [stringChunks_flatten, List.forall_mem_append, List.forall_mem_cons]
  exact ⟨⟨by decide, hchars⟩, isPrintable_of_all (by decide)⟩

theorem isPrintable_number {w : Text} (hw : ∀ c ∈ w, isNumberChar c = true) :
    ∀ b ∈ Utf8.encode w, IsPrintable b := by
  intro b hb
  obtain ⟨c, hc, hmem⟩ := List.mem_flatMap.1 hb
  have hrange := toNat_of_isNumberChar (hw c hc)
  rw [Utf8.encodeChar, if_pos (by omega), List.mem_singleton] at hmem
  rw [hmem, IsPrintable, Utf8.toNat_octet (by omega)]
  exact hrange

/-! ## Values -/

mutual

/-- **Nothing but printable ASCII is written for a value.** -/
theorem isPrintable_chunks : ∀ (value : Json), ∀ b ∈ value.chunks.flatten, IsPrintable b
  | .null => isPrintable_of_all (by decide)
  | .bool true => isPrintable_of_all (by decide)
  | .bool false => isPrintable_of_all (by decide)
  | .integer n => by
    rw [chunks, List.flatten_singleton]
    exact isPrintable_number fun _ => isNumberChar_of_mem_signed
  | .number d => by
    rw [chunks, List.flatten_singleton]
    exact isPrintable_number fun _ => isNumberChar_of_mem_spelling
  | .text t => isPrintable_stringChunks t
  | .array [] => isPrintable_of_all (by decide)
  | .array (item :: items) => by
    simp only [chunks, List.flatten_append, List.flatten_cons, List.forall_mem_append]
    exact ⟨⟨isPrintable_of_all (by decide), isPrintable_chunks item⟩, isPrintable_itemChunks items⟩
  | .object [] => isPrintable_of_all (by decide)
  | .object ((key, value) :: members) => by
    simp only [chunks, List.flatten_append, List.flatten_cons, List.forall_mem_append]
    exact ⟨⟨⟨isPrintable_of_all (by decide), isPrintable_stringChunks key⟩,
      isPrintable_of_all (by decide), isPrintable_chunks value⟩, isPrintable_memberChunks members⟩

theorem isPrintable_itemChunks : ∀ (items : List Json), ∀ b ∈ (itemChunks items).flatten,
    IsPrintable b
  | [] => isPrintable_of_all (by decide)
  | item :: items => by
    simp only [itemChunks, List.flatten_append, List.flatten_cons, List.forall_mem_append]
    exact ⟨⟨isPrintable_of_all (by decide), isPrintable_chunks item⟩, isPrintable_itemChunks items⟩

theorem isPrintable_memberChunks : ∀ (members : List (Text × Json)),
    ∀ b ∈ (memberChunks members).flatten, IsPrintable b
  | [] => isPrintable_of_all (by decide)
  | (key, value) :: members => by
    simp only [memberChunks, List.flatten_append, List.flatten_cons, List.forall_mem_append]
    exact ⟨⟨⟨isPrintable_of_all (by decide), isPrintable_stringChunks key⟩,
      isPrintable_of_all (by decide), isPrintable_chunks value⟩, isPrintable_memberChunks members⟩

end

/-- The octets of a value hold no line feed. -/
theorem lineFeed_not_mem_bytes (value : Json) : 0x0A ∉ value.bytes := by
  intro h
  exact absurd (isPrintable_chunks value 0x0A h) (by decide)

/-! ## Reading octets -/

/-- **The octets of a value read back as the value.** -/
theorem read?_bytes (value : Json) : read? value.bytes = some value := by
  have hascii : ∀ b ∈ value.bytes, b.toNat < 0x80 := by
    intro b hb
    have hprintable := isPrintable_chunks value b hb
    exact Nat.lt_trans hprintable.2 (by decide)
  rw [read?, Utf8.decode_ascii hascii]
  exact ofText_bytes value

theorem bytes_injective : Function.Injective bytes := by
  intro a b h
  have hread := read?_bytes a
  rw [h, read?_bytes b] at hread
  exact (Option.some.inj hread).symm

end Json

end BookDatasets

/-
  Lines and their line feeds.

  An output is made of lines, each ended by a line feed.  `ofLines` lays them end to end; as long
  as no line holds a line feed, a cut at EVERY line feed gives exactly these lines back, in order,
  and nothing after the last one.
-/
import BookDatasets.Text.Basic

namespace BookDatasets

/-- The bytes of lines, each ended by a line feed. -/
def Bytes.ofLines (lines : List Bytes) : Bytes := lines.flatMap (· ++ [0x0A])

namespace Bytes

theorem ofLines_cons (line : Bytes) (lines : List Bytes) :
    ofLines (line :: lines) = line ++ 0x0A :: ofLines lines := by
  rw [ofLines, List.flatMap_cons, List.append_assoc]
  rfl

theorem ofLines_append (a b : List Bytes) : ofLines (a ++ b) = ofLines a ++ ofLines b :=
  List.flatMap_append

/-- **A cut at every line feed gives the lines back.**  The last piece is what follows the last
line feed, and it is empty. -/
theorem splitOn_ofLines {lines : List Bytes} (h : ∀ line ∈ lines, 0x0A ∉ line) :
    (ofLines lines).splitOn 0x0A = lines ++ [[]] := by
  induction lines with
  | nil => rfl
  | cons line lines ih =>
    obtain ⟨hline, hlines⟩ := List.forall_mem_cons.1 h
    rw [ofLines_cons, List.splitOn_append_cons_self_of_not_mem hline, ih hlines]
    rfl

end Bytes

end BookDatasets

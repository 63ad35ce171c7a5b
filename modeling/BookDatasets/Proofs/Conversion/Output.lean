/-
  What opening an output changes.

  Directories above it may come, and it takes the place of a file, or of nothing (`createOutput_ends`).
  So every other file is as it was, every path leads where it led, and what is written to the output
  is read back at its path (`readAt_written`), as long as nothing else is opened there.
-/
import BookDatasets.Conversion.Output
import BookDatasets.Proofs.Files.Tending
import BookDatasets.Proofs.Procedure

namespace BookDatasets

namespace Conversion

variable {path path' : Text} {files later : Files} {place place' : Location}

/-- The output of a path can be put at a place: no directory is there and no link, and there the path
is read. -/
structure Output (path : Text) (files : Files) (place : Location) : Prop where
  found : ∃ dir name, place = name :: dir
    ∧ files.locate .existing path = .ok (.entry dir name false)
  free : files.IsBlank place

/-- **An output is opened** under its directories, or it is not, and then nothing else has changed. -/
theorem createOutput_ends (path : Text) (files : Files) :
    ∃ other, Files.Extends files other
      ∧ ((∃ failure, (createOutput path).ends files = (other, .error failure))
        ∨ ∃ place, Output path other place
          ∧ (createOutput path).ends files = (written other place [], .ok place)) := by
  have hextends := Files.extends_of_createDirectories files (Path.parent path)
  rcases hcreate : files.createDirectories (Path.parent path) with ⟨other, error | ⟨⟨⟩⟩⟩
  · rw [hcreate] at hextends
    exact ⟨other, hextends, Or.inl ⟨_, Procedure.ends_bind_error
      (Procedure.ends_within_error (Procedure.ends_operate_error hcreate _ _) _) _⟩⟩
  rw [hcreate] at hextends
  refine ⟨other, hextends, ?_⟩
  have hparent : (makeParent path).ends files = (other, .ok ()) :=
    Procedure.ends_within_ok (Procedure.ends_operate_ok hcreate _ _) _
  rw [createOutput, Procedure.ends_bind_ok hparent]
  rcases hfile : other.create path with error | ⟨opened, place⟩
  · refine Or.inl ⟨(Failure.of (.io error)).within
      (.makingOutput path), ?_⟩
    apply Procedure.ends_within_error
    apply Procedure.ends_operate_error
    rw [hfile]
  · obtain ⟨dir, name, rfl, hlocate, hfree, rfl⟩ := Files.create_eq_ok hfile
    refine Or.inr ⟨name :: dir, ⟨⟨dir, name, rfl, hlocate⟩, hfree⟩, ?_⟩
    refine Procedure.ends_within_ok (Procedure.ends_operate_ok ?_ _ _) _
    rw [hfile]
    rfl

theorem Output.ne_nil (h : Output path files place) : place ≠ [] := by
  obtain ⟨dir, name, rfl, -⟩ := h.found
  exact List.cons_ne_nil name dir

theorem Output.grows (h : Output path files place) (octets : Bytes) :
    Files.Grows files (written files place octets) :=
  Files.Grows.put h.free nofun

theorem find?_written (h : place ≠ []) (octets : Bytes) (other : Location) :
    (written files place octets).find? other
      = if other = place then some (.file (.bytes octets)) else files.find? other :=
  Files.find?_put files h _ other

theorem written_written (files : Files) (place : Location) (octets octets' : Bytes) :
    written (written files place octets) place octets' = written files place octets' :=
  Files.put_put files place _ _

/-- **What is written** to an output is read at its path. -/
theorem Output.openRead (h : Output path files place) (octets : Bytes) :
    (written files place octets).openRead path = .ok place := by
  have hfind : (written files place octets).find? place = some (.file (.bytes octets)) := by
    rw [find?_written h.ne_nil, if_pos rfl]
  obtain ⟨dir, name, rfl, hlocate⟩ := h.found
  exact Files.openRead_of_existing ((h.grows octets).locate hlocate) hfind

theorem Output.readAt (h : Output path files place) (octets : Bytes) :
    (written files place octets).readAt path = .ok octets := by
  have hfind : (written files place octets).find? place = some (.file (.bytes octets)) := by
    rw [find?_written h.ne_nil, if_pos rfl]
  exact Files.readAt_of_openRead (h.openRead octets) hfind

/-- The directories above an output are there. -/
theorem Output.parent (h : Output path files place) :
    files.createDirectories (Path.parent path) = (files, .ok ()) := by
  obtain ⟨dir, name, rfl, hlocate⟩ := h.found
  exact Files.createDirectories_parent hlocate

/-- An output stays one as long as a file stands there. -/
theorem Output.of_grows (h : Output path files place) (hgrows : Files.Grows files later)
    (hblank : later.IsBlank place) : Output path later place := by
  obtain ⟨dir, name, rfl, hlocate⟩ := h.found
  exact ⟨⟨dir, name, rfl, hgrows.locate hlocate⟩, hblank⟩

theorem Output.isBlank_written (h : Output path files place) (octets : Bytes) :
    (written files place octets).IsBlank place := by
  intro node hfind
  rw [find?_written h.ne_nil, if_pos rfl] at hfind
  exact ⟨_, (Option.some.inj hfind).symm⟩

/-- Where an output is put any octets may stand. -/
theorem Output.stays (h : Output path files place) (octets : Bytes) :
    Output path (written files place octets) place :=
  h.of_grows (h.grows octets) (h.isBlank_written octets)

/-- Another output leaves it one, be it the same or not. -/
theorem Output.another (h : Output path files place) (h' : Output path' files place')
    (octets : Bytes) : Output path (written files place' octets) place :=
  h.of_grows (h'.grows octets) (h.free.within (Files.within_of_put files h'.ne_nil _))

/-- Where files come and go, but no links, an output stays one. -/
theorem Output.leaves {spots : Location → Prop} (h : Output path files place)
    (hleaves : Files.Leaves spots files later)
    (hlinkless : ∀ there, spots there → ∀ target, files.find? there ≠ some (.link target)) :
    Output path later place :=
  h.of_grows (hleaves.grows hlinkless) (h.free.within hleaves.within)

end Conversion

end BookDatasets

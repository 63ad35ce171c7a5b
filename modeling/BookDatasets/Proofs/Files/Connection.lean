/-
  Connecting to a file.

  1. **Lenient names** — the rules for a database's name let pass what the rules for files refuse, but
     where a path LEADS both go the same way (`looseWalk_of_leads`): on solid ground no file is in the
     way, and links are followed alike.  So a path to a file names this file.
  2. **Seats** — a name stands for a path, and the path names a place: the SEAT of the name.  A
     connection to a file is one to the file in its seat (`connect_eq_ok_iff`).
-/
import BookDatasets.Files.Connection
import BookDatasets.Proofs.Files.Operations

namespace BookDatasets

namespace Files

variable {files : Files} {links left : Nat} {place goal dir : Location} {front rest : List Text}
  {segment target name path : Text} {content : Content}

/-! ## Lenient names -/

theorem looseWalk_congr {place' : Location} {rest' : List Text}
    (h : looseSteps files place rest = looseSteps files place' rest') :
    looseWalk files links place rest = looseWalk files links place' rest' := by
  unfold looseWalk
  rw [h]

/-- No file is in the way where there is a directory. -/
theorem Grounded.content? (h : Grounded files place) : files.content? place = none := by
  rw [Files.content?, h.find?]

theorem looseSteps_name (hname : IsName segment) (hfree : files.content? place = none) :
    looseSteps files place (segment :: rest)
      = match files.find? (segment :: place) with
        | some (.link target) => .link place target rest
        | _ => looseSteps files (segment :: place) rest := by
  have hfile : ¬ (files.content? place).isSome = true := by
    rw [hfree]
    exact Bool.false_ne_true
  exact (if_neg hname.not_here).trans ((if_neg hname.not_above).trans
    ((if_neg hfile).trans (if_neg hname.not_long)))

/-- **Where a path leads** a database's name leads too. -/
theorem looseWalk_of_leads (h : Leads files links place front goal left)
    (hplace : Grounded files place) (rest : List Text) :
    looseWalk files links place (front ++ rest) = looseWalk files left goal rest := by
  induction h with
  | arrived => rfl
  | here _ ih =>
    rw [← ih hplace]
    apply looseWalk_congr
    rw [List.cons_append, looseSteps, if_pos rfl]
  | above _ ih =>
    rw [← ih hplace.tail]
    apply looseWalk_congr
    rw [List.cons_append, looseSteps, if_neg (by decide), if_pos rfl]
  | directory hname hfind _ ih =>
    rw [← ih ⟨hfind, hplace⟩]
    apply looseWalk_congr
    rw [List.cons_append, looseSteps_name hname hplace.content?, hfind]
  | @link _ _ place _ segment target front hname hfind _ ih =>
    have hstep : looseSteps files place (segment :: (front ++ rest)) = _ :=
      looseSteps_name hname hplace.content?
    rw [hfind] at hstep
    rw [List.cons_append, looseWalk, hstep, ← ih (hplace.base target), List.append_assoc]

/-- **A path to a file** names this file. -/
theorem names_of_find? (hlocate : files.locate .entry path = .ok (.entry dir name false))
    (hfind : files.find? (name :: dir) = some (.file content)) :
    files.names path = some (name :: dir) := by
  obtain ⟨front, left, hsegments, hname, hleads⟩ := leads_of_locate hlocate
  have hsteps : looseSteps files dir [name] = .arrived (name :: dir) := by
    rw [looseSteps_name hname (hleads.grounded trivial).content?, hfind]
    rfl
  rw [names, hsegments, looseWalk_of_leads hleads trivial, looseWalk, hsteps]

/-! ## Seats -/

/-- Where a name stands for a path at all, it stands for itself. -/
def IsLiteral (engine : Engine) (name : Text) : Prop :=
  ∀ path, engine.resolve name = .ok (some path) → path = name

instance (engine : Engine) (name : Text) : Decidable (IsLiteral engine name) :=
  decidable_of_iff (∀ path ∈ (engine.resolve name).toOption.join, path = name) <| by
    rw [IsLiteral]
    rcases engine.resolve name with error | _ | path
    · exact ⟨fun _ => nofun, fun _ => nofun⟩
    · exact ⟨fun _ => nofun, fun _ => nofun⟩
    · constructor
      · rintro h _ ⟨⟩
        exact h path rfl
      · rintro h _ ⟨⟩
        exact h path rfl

/-- The place of the file that the name of a database stands for. -/
def seat (engine : Engine) (files : Files) (name : Text) : Option Location :=
  match engine.resolve name with
  | .ok (some path) => files.names path
  | _ => none

variable {engine : Engine} {source : Connection}

theorem seat_eq_names (h : engine.resolve name = .ok (some path)) :
    files.seat engine name = files.names path := by
  rw [seat, h]

/-- **A connection** is to the file in the seat of a name, or it is private. -/
theorem connect_eq_ok_iff : files.connect engine name = .ok source
    ↔ (engine.resolve name = .ok none ∧ source = .detached .empty)
      ∨ ∃ place, files.seat engine name = some place ∧ (files.content? place).isSome
        ∧ source = .stored place := by
  rw [connect, seat]
  rcases engine.resolve name with error | _ | path
  · constructor
    · rintro ⟨⟩
    · rintro (⟨⟨⟩, -⟩ | ⟨_, ⟨⟩, -⟩)
  · constructor
    · rintro ⟨⟩
      exact Or.inl ⟨rfl, rfl⟩
    · rintro (⟨-, rfl⟩ | ⟨_, ⟨⟩, -⟩)
      rfl
  · dsimp only
    rcases files.names path with _ | place
    · constructor
      · rintro ⟨⟩
      · rintro (⟨⟨⟩, -⟩ | ⟨_, ⟨⟩, -⟩)
    · dsimp only
      split_ifs with hsome
      · constructor
        · rintro ⟨⟩
          exact Or.inr ⟨place, rfl, hsome, rfl⟩
        · rintro (⟨⟨⟩, -⟩ | ⟨_, ⟨⟩, -, rfl⟩)
          rfl
      · constructor
        · rintro ⟨⟩
        · rintro (⟨⟨⟩, -⟩ | ⟨_, ⟨⟩, hcontent, -⟩)
          exact absurd hcontent hsome

theorem seat_of_connect (h : files.connect engine name = .ok (.stored place)) :
    files.seat engine name = some place ∧ (files.content? place).isSome := by
  rcases connect_eq_ok_iff.1 h with ⟨-, hsource⟩ | ⟨seat, hseat, hsome, hsource⟩
  · cases hsource
  · cases hsource
    exact ⟨hseat, hsome⟩

/-- A file that a literal name connects to is the one that the name, as a path, names. -/
theorem names_of_connect (hliteral : IsLiteral engine name)
    (h : files.connect engine name = .ok (.stored place)) : files.names name = some place := by
  obtain ⟨hseat, -⟩ := seat_of_connect h
  rw [seat] at hseat
  rcases hresolve : engine.resolve name with error | _ | path
  · rw [hresolve] at hseat
    cases hseat
  · rw [hresolve] at hseat
    cases hseat
  · rw [hresolve] at hseat
    obtain rfl := hliteral path hresolve
    exact hseat

/-- **The database of a path** to a file is this file, where the path stands for itself. -/
theorem connect_eq_stored (hlocate : files.locate .entry path = .ok (.entry dir name false))
    (hfind : files.find? (name :: dir) = some (.file content))
    (hresolve : engine.resolve path = .ok (some path)) :
    files.connect engine path = .ok (.stored (name :: dir)) := by
  have hcontent : (files.content? (name :: dir)).isSome = true := by
    rw [content?, hfind]
    rfl
  exact connect_eq_ok_iff.2 (Or.inr ⟨name :: dir,
    (seat_eq_names hresolve).trans (names_of_find? hlocate hfind), hcontent, rfl⟩)

/-- **A new file is connected to** where its path stands for itself. -/
theorem connect_put (hlocate : files.locate .entry path = .ok (.entry dir name false))
    (hfree : files.find? (name :: dir) = none) (hresolve : engine.resolve path = .ok (some path)) :
    (files.put (name :: dir) (.file (.bytes []))).connect engine path = .ok (.stored (name :: dir)) :=
  connect_eq_stored (locate_put_file hlocate hfree (.bytes []))
    (find?_put_file files dir name (.bytes [])) hresolve

end Files

end BookDatasets

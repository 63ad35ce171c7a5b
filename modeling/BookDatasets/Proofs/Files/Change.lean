/-
  What a change of the tree leaves of the ways through it.

  1. **More** — a tree GROWS when its directories and links stay and no link is new.  Files may come,
     go and change.  Whatever a path led to, it leads to afterwards (`Grows.locate`): a walk looks at
     nothing but directories, links and the absence of links.
  2. **Blank places** — where there is nothing, or a file, a file may be put or dropped, and the tree has
     grown (`Grows.put`, `Grows.drop`).
-/
import BookDatasets.Proofs.Files.Following

namespace BookDatasets

namespace Files

variable {files other : Files} {purpose : Purpose} {links left : Nat} {slash : Bool}
  {place goal : Location} {segments : List Text} {target path : Text} {spot : Spot} {node : Node}

/-! ## Putting and dropping -/

theorem ne_nil_of_find? (h : files.find? place ≠ some .directory) : place ≠ [] := by
  rintro rfl
  exact h rfl

/-- A second node at a place replaces the first one. -/
theorem put_put (files : Files) (place : Location) (node node' : Node) :
    (files.put place node).put place node' = files.put place node' := by
  have hhead : ((place, node) :: files.nodes.filter fun entry => entry.1 != place).filter
      (fun entry => entry.1 != place) = files.nodes.filter fun entry => entry.1 != place := by
    rw [List.filter_cons_of_neg (by simp), List.filter_filter]
    simp only [Bool.and_self]
  rw [put, put, put, hhead]

theorem filter_of_find? (h : files.find? place = none) :
    (files.nodes.filter fun entry => entry.1 != place) = files.nodes := by
  have hplace : place ≠ [] := ne_nil_of_find? (by rw [h]; exact nofun)
  rw [find?, if_neg hplace, List.lookup_eq_none_iff] at h
  apply List.filter_eq_self.2
  intro entry hentry
  have hne := h entry hentry
  rw [bne_iff_ne]
  rintro rfl
  simp at hne

theorem drop_of_find? (h : files.find? place = none) : files.drop place = files := by
  rw [drop, filter_of_find? h]

/-- Dropping what was put where nothing stood undoes it. -/
theorem drop_put (h : files.find? place = none) (node : Node) :
    (files.put place node).drop place = files := by
  rw [put, drop, List.filter_cons_of_neg (by simp), filter_of_find? h, filter_of_find? h]

/-! ## Blank places -/

/-- There is nothing at a place, or a file. -/
def IsBlank (files : Files) (place : Location) : Prop :=
  ∀ node, files.find? place = some node → ∃ content, node = .file content

theorem isBlank_of_none (h : files.find? place = none) : files.IsBlank place := by
  intro node hfind
  cases h.symm.trans hfind

theorem isBlank_iff :
    files.IsBlank place ↔ files.find? place = none ∨ ∃ content, files.find? place = some (.file content) := by
  constructor
  · intro h
    rcases hfind : files.find? place with _ | node
    · exact Or.inl rfl
    · obtain ⟨content, rfl⟩ := h node hfind
      exact Or.inr ⟨content, rfl⟩
  · rintro (hnone | ⟨content, hfile⟩) node hfind
    · cases hnone.symm.trans hfind
    · exact ⟨content, Option.some.inj (hfind.symm.trans hfile)⟩

instance (files : Files) (place : Location) : Decidable (files.IsBlank place) :=
  decidable_of_iff (files.find? place = none ∨ (files.content? place).isSome) <| by
    rw [isBlank_iff, content?]
    rcases files.find? place with _ | content | _ | target
    · simp
    · simp
    · simp
    · simp

theorem IsBlank.directory (h : files.IsBlank place) : files.find? place ≠ some .directory := by
  intro hfind
  obtain ⟨content, hcontent⟩ := h _ hfind
  cases hcontent

theorem IsBlank.link (h : files.IsBlank place) (target : Text) :
    files.find? place ≠ some (.link target) := by
  intro hfind
  obtain ⟨content, hcontent⟩ := h _ hfind
  cases hcontent

/-! ## More -/

/-- The directories and links of a tree stand in another one too. -/
def Within (files other : Files) : Prop :=
  ∀ place node, (∀ content, node ≠ .file content) → files.find? place = some node →
    other.find? place = some node

theorem Within.trans {third : Files} (h : Within files other) (h' : Within other third) :
    Within files third :=
  fun place node hnode hfind => h' place node hnode (h place node hnode hfind)

/-- What is blank in a tree with more in it is blank. -/
theorem IsBlank.within (h : other.IsBlank place) (hwithin : Within files other) :
    files.IsBlank place := by
  intro node hfind
  cases node with
  | file content => exact ⟨content, rfl⟩
  | directory => exact absurd (hwithin _ .directory nofun hfind) h.directory
  | link target => exact absurd (hwithin _ (.link target) nofun hfind) (h.link target)

/-- The directories and links stay, and no link is new. -/
structure Grows (files other : Files) : Prop where
  within : Within files other
  links : ∀ place target, other.find? place = some (.link target) →
    files.find? place = some (.link target)

theorem Grows.trans {third : Files} (h : Grows files other) (h' : Grows other third) :
    Grows files third :=
  ⟨h.within.trans h'.within, fun place target hlink => h.links place target
    (h'.links place target hlink)⟩

theorem IsBlank.of_grows (h : other.IsBlank place) (hgrows : Grows files other) :
    files.IsBlank place :=
  h.within hgrows.within

/-- Where there is nothing, or a file, something other than a link may be put. -/
theorem Grows.put (hfree : ∀ node, files.find? place = some node → ∃ content, node = .file content)
    (hnode : ∀ target, node ≠ .link target) : Grows files (files.put place node) := by
  have hplace : place ≠ [] := by
    rintro rfl
    obtain ⟨content, hcontent⟩ := hfree .directory rfl
    cases hcontent
  constructor
  · intro there found hfound hfind
    rw [find?_put files hplace]
    split_ifs with hthere
    · subst hthere
      obtain ⟨content, rfl⟩ := hfree found hfind
      exact absurd rfl (hfound content)
    · exact hfind
  · intro there target hlink
    rw [find?_put files hplace] at hlink
    split_ifs at hlink with hthere
    · exact absurd (Option.some.inj hlink) (hnode target)
    · exact hlink

theorem Grows.put_free (hfree : files.find? place = none) (hnode : ∀ target, node ≠ .link target) :
    Grows files (files.put place node) := by
  apply Grows.put
  · intro found hfound
    rw [hfree] at hfound
    cases hfound
  · exact hnode

theorem Leads.within (h : Leads files links place segments goal left) (hwithin : Within files other) :
    Leads other links place segments goal left := by
  induction h with
  | arrived => exact .arrived
  | here _ ih => exact .here ih
  | above _ ih => exact .above ih
  | directory hname hfind _ ih => exact .directory hname (hwithin _ _ nofun hfind) ih
  | link hname hfind _ ih => exact .link hname (hwithin _ _ nofun hfind) ih

theorem Comes.grows (h : Comes files purpose links slash place segments spot)
    (hgrows : Grows files other) : Comes other purpose links slash place segments spot := by
  induction h with
  | arrived => exact .arrived
  | here _ ih => exact .here ih
  | above _ ih => exact .above ih
  | directory hname hrest hfind _ ih =>
    exact .directory hname hrest (hgrows.within _ _ nofun hfind) ih
  | link hname hrest hfind _ ih => exact .link hname hrest (hgrows.within _ _ nofun hfind) ih
  | last hname hslash hfind =>
    refine .last hname hslash (hfind.imp_right fun hnolink target hlink => ?_)
    exact hnolink target (hgrows.links _ _ hlink)
  | lastLink hname hslash hpurpose hfind _ ih =>
    exact .lastLink hname hslash hpurpose (hgrows.within _ _ nofun hfind) ih

/-- A path that is followed at all. -/
structure IsPath (path : Text) : Prop where
  nul : '\x00' ∉ path
  ne_nil : path ≠ []
  short : Path.isTooLong path = false

theorem locate_eq_ok_iff :
    files.locate purpose path = .ok spot
      ↔ IsPath path
        ∧ Comes files purpose maxLinks (Path.endsInSlash path) [] (Path.segments path) spot := by
  rw [locate]
  split_ifs with hnul hnil hlong
  · exact ⟨nofun, fun h => absurd hnul h.1.nul⟩
  · exact ⟨nofun, fun h => absurd hnil h.1.ne_nil⟩
  · exact ⟨nofun, fun h => nomatch hlong.symm.trans h.1.short⟩
  · rw [walk_eq_ok_iff]
    exact ⟨fun h => ⟨⟨hnul, hnil, Bool.not_eq_true _ ▸ hlong⟩, h⟩, fun h => h.2⟩

/-- **In a tree that has grown** a path leads to the same spot. -/
theorem Grows.locate (hgrows : Grows files other) (h : files.locate purpose path = .ok spot) :
    other.locate purpose path = .ok spot := by
  rw [locate_eq_ok_iff] at h ⊢
  exact ⟨h.1, h.2.grows hgrows⟩

/-- Whoever asks for an entry does not mind what stands there, nor what else there is. -/
theorem Comes.within (h : Comes files .entry links slash place segments spot)
    (hwithin : Within files other) : Comes other .entry links slash place segments spot := by
  induction h with
  | arrived => exact .arrived
  | here _ ih => exact .here ih
  | above _ ih => exact .above ih
  | directory hname hrest hfind _ ih => exact .directory hname hrest (hwithin _ _ nofun hfind) ih
  | link hname hrest hfind _ ih => exact .link hname hrest (hwithin _ _ nofun hfind) ih
  | last hname hslash => exact .last hname hslash (Or.inl rfl)
  | lastLink _ _ hpurpose => exact absurd rfl hpurpose

theorem Within.locate_entry (hwithin : Within files other)
    (h : files.locate .entry path = .ok spot) : other.locate .entry path = .ok spot := by
  rw [locate_eq_ok_iff] at h ⊢
  exact ⟨h.1, h.2.within hwithin⟩

/-- Whoever asks for what there is comes to the same spot as another one, if no link stands there. -/
theorem Comes.existing (h : Comes files purpose links slash place segments spot)
    (hlink : ∀ target, files.find? spot.place ≠ some (.link target)) :
    Comes files .existing links slash place segments spot := by
  induction h with
  | arrived => exact .arrived
  | here _ ih => exact .here (ih hlink)
  | above _ ih => exact .above (ih hlink)
  | directory hname hrest hfind _ ih => exact .directory hname hrest hfind (ih hlink)
  | link hname hrest hfind _ ih => exact .link hname hrest hfind (ih hlink)
  | last hname => exact .last hname (fun h => nomatch h.1) (Or.inr hlink)
  | lastLink hname _ _ hfind _ ih =>
    exact .lastLink hname (fun h => nomatch h.1) (by decide) hfind (ih hlink)

theorem locate_existing (h : files.locate purpose path = .ok spot)
    (hlink : ∀ target, files.find? spot.place ≠ some (.link target)) :
    files.locate .existing path = .ok spot := by
  rw [locate_eq_ok_iff] at h ⊢
  exact ⟨h.1, h.2.existing hlink⟩

/-! ## Less -/

theorem within_of_put (files : Files) (hplace : place ≠ []) (content : Content) :
    Within (files.put place (.file content)) files := by
  intro there node hnode hfind
  rw [find?_put files hplace] at hfind
  split_ifs at hfind with hthere
  · exact absurd (Option.some.inj hfind).symm (hnode content)
  · exact hfind

theorem within_of_drop (files : Files) (hplace : place ≠ []) : Within (files.drop place) files := by
  intro there node _ hfind
  rw [find?_drop files hplace] at hfind
  split_ifs at hfind
  exact hfind

/-- Whoever comes to a directory was led there. -/
theorem Comes.leads (h : Comes files .existing links slash place segments spot)
    (hspot : files.find? spot.place = some .directory) :
    ∃ left, Leads files links place segments spot.place left := by
  induction h with
  | arrived => exact ⟨_, .arrived⟩
  | here _ ih =>
    obtain ⟨left, hleads⟩ := ih hspot
    exact ⟨left, .here hleads⟩
  | above _ ih =>
    obtain ⟨left, hleads⟩ := ih hspot
    exact ⟨left, .above hleads⟩
  | directory hname _ hfind _ ih =>
    obtain ⟨left, hleads⟩ := ih hspot
    exact ⟨left, .directory hname hfind hleads⟩
  | link hname _ hfind _ ih =>
    obtain ⟨left, hleads⟩ := ih hspot
    exact ⟨left, .link hname hfind hleads⟩
  | last hname => exact ⟨_, .directory hname hspot .arrived⟩
  | lastLink hname _ _ hfind _ ih =>
    obtain ⟨left, hleads⟩ := ih hspot
    rw [← List.append_nil (Path.segments _)] at hleads
    exact ⟨left, .link hname hfind hleads⟩

/-- A file that is dropped is on no way. -/
theorem Grows.drop (hblank : files.IsBlank place) (hplace : place ≠ []) :
    Grows files (files.drop place) := by
  constructor
  · intro there node hnode hfind
    rw [find?_drop files hplace, if_neg]
    · exact hfind
    · rintro rfl
      obtain ⟨content, rfl⟩ := hblank node hfind
      exact hnode content rfl
  · intro there target hlink
    exact within_of_drop files hplace there _ nofun hlink

/-! ## A name in a directory -/

theorem Comes.eq_of_singleton {segment : Text} {dir : Location} {name : Text} {slash' : Bool}
    (h : Comes files .entry links slash place [segment] (.entry dir name slash')) :
    dir = place ∧ name = segment := by
  cases h with
  | here h => cases h
  | above h => cases h
  | directory _ hrest => exact absurd rfl hrest
  | link _ hrest => exact absurd rfl hrest
  | last => exact ⟨rfl, rfl⟩
  | lastLink _ _ hpurpose => exact absurd rfl hpurpose

/-- A path to an entry leads to its directory and ends in its name. -/
theorem leads_of_locate {dir : Location} {name : Text}
    (h : files.locate .entry path = .ok (.entry dir name slash)) :
    ∃ front left, Path.segments path = front ++ [name] ∧ IsName name
      ∧ Leads files maxLinks [] front dir left := by
  obtain ⟨-, hcomes⟩ := locate_eq_ok_iff.1 h
  obtain ⟨hname, -⟩ := hcomes.isName
  rcases List.eq_nil_or_concat' (Path.segments path) with hnil | ⟨front, last, hsegments⟩
  · rw [hnil] at hcomes
    cases hcomes
  · rw [hsegments] at hcomes
    obtain ⟨goal, left, hleads, hlast⟩ := hcomes.split (List.cons_ne_nil last [])
    obtain ⟨rfl, rfl⟩ := hlast.eq_of_singleton
    exact ⟨front, left, hsegments, hname, hleads⟩

/-- An entry is found where its directory is led to. -/
theorem locate_of_leads {dir : Location} {name : Text} {front : List Text} (hpath : IsPath path)
    (hsegments : Path.segments path = front ++ [name]) (hname : IsName name)
    (hleads : Leads files maxLinks [] front dir left) :
    files.locate .entry path = .ok (.entry dir name (Path.endsInSlash path)) := by
  refine locate_eq_ok_iff.2 ⟨hpath, ?_⟩
  rw [hsegments]
  exact hleads.comes (List.cons_ne_nil name [])
    (.last hname (fun h => nomatch h.1) (Or.inl rfl))

end Files

end BookDatasets

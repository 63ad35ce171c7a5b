/-
  The bundled engine keeps the laws.

  1. **What is left** — whatever is found beside a database, tending drops files and links there and puts
     an index there, and does nothing else (`leaves_tend`).
  2. **At rest** — a database at rest is refused because of a directory, or is as its file says; what
     changes then is the journal of a change that is asked for (`tend_atRest`).
  3. **Empty files** — what stands beside an empty file is swept away before a change.
  4. **Alike** — each part of tending looks at the database and at what is beside it, so trees that agree
     there are tended alike.  A link would lead elsewhere; there is none.
-/
import BookDatasets.Files.Bundled
import BookDatasets.Proofs.Files.Tending

namespace BookDatasets

namespace Engine

namespace Bundled

open Files

variable {files other : Files} {place there : Location} {access : Access} {content : Content}
  {result : Except SqlError Database}

theorem journal_mem (place : Location) : beside journalEnding place ∈ sidecars place :=
  mem_sidecars_iff.2 (Or.inr (Or.inr rfl))

theorem log_mem (place : Location) : beside logEnding place ∈ sidecars place :=
  mem_sidecars_iff.2 (Or.inl rfl)

theorem index_mem (place : Location) : beside indexEnding place ∈ sidecars place :=
  mem_sidecars_iff.2 (Or.inr (Or.inl rfl))

/-! ## Weight -/

theorem find?_of_isHeavyFile (h : isHeavyFile files there = true) :
    ∃ content, files.find? there = some (.file content) := by
  rw [isHeavyFile] at h
  rcases hfind : files.find? there with _ | content | _ | target
  · rw [hfind] at h
    cases h
  · exact ⟨content, rfl⟩
  · rw [hfind] at h
    cases h
  · rw [hfind] at h
    cases h

theorem find?_of_isHeavyLink (h : isHeavyLink files there = true) :
    ∃ target, files.find? there = some (.link target) := by
  rw [isHeavyLink] at h
  rcases hfind : files.find? there with _ | content | _ | target
  · rw [hfind] at h
    cases h
  · rw [hfind] at h
    cases h
  · rw [hfind] at h
    cases h
  · exact ⟨target, rfl⟩

/-- Where no link is, none has weight. -/
theorem isHeavyLink_eq_false (h : ∀ target, files.find? there ≠ some (.link target)) :
    isHeavyLink files there = false := by
  rw [← Bool.not_eq_true]
  intro hheavy
  obtain ⟨target, hlink⟩ := find?_of_isHeavyLink hheavy
  exact h target hlink

theorem isBlocked_iff : isBlocked files there = true ↔ files.find? there = some .directory :=
  beq_iff_eq

/-! ## What is left -/

theorem leaves_sweep (hthere : there ∈ sidecars place) (hplace : there ≠ []) (files : Files) :
    Leaves (· ∈ sidecars place) files (sweep files there) := by
  rw [sweep]
  split_ifs with hheavy
  · apply leaves_drop hthere hplace
    intro hdirectory
    rcases Bool.or_eq_true_iff.1 hheavy with hfile | hlink
    · obtain ⟨content, hfind⟩ := find?_of_isHeavyFile hfile
      cases hfind.symm.trans hdirectory
    · obtain ⟨target, hfind⟩ := find?_of_isHeavyLink hlink
      cases hfind.symm.trans hdirectory
  · exact .refl _ files

section

variable (hplace : place ≠ [])

include hplace

theorem leaves_concluded (access : Access) (files : Files) (result : Except SqlError Database) :
    Leaves (· ∈ sidecars place) files (concluded access files place result).1 := by
  unfold concluded
  split
  · rw [beginChange]
    split_ifs with hwrite
    · apply leaves_drop (journal_mem place) (beside_ne_nil hplace)
      intro hdirectory
      rw [canWrite, hdirectory] at hwrite
      cases hwrite
    · exact .refl _ files
  · exact .refl _ files

theorem leaves_sweepJournal (access : Access) (files : Files) :
    Leaves (· ∈ sidecars place) files (sweepJournal access files place) := by
  rw [sweepJournal]
  split_ifs
  · exact .refl _ files
  · exact leaves_sweep (journal_mem place) (beside_ne_nil hplace) files

theorem leaves_tendEmpty (access : Access) (files : Files) :
    Leaves (· ∈ sidecars place) files (tendEmpty access files place).1 := by
  have hfirst := leaves_sweepJournal hplace access files
  rw [tendEmpty]
  split_ifs
  · exact hfirst
  · exact (hfirst.trans (leaves_sweep (log_mem place) (beside_ne_nil hplace) _)).trans
      (leaves_concluded hplace _ _ _)

theorem leaves_tendFullLog (access : Access) (content : Content)
    (hlog : files.find? (beside logEnding place) ≠ some .directory) :
    Leaves (· ∈ sidecars place) files (tendFullLog access files place content).1 := by
  have hindex : ∀ {node}, files.find? (beside indexEnding place) = node →
      node ≠ some .directory → Leaves (· ∈ sidecars place) files
        (if access = .reading then
          (files.put (beside indexEnding place) (.file index), content.database)
        else ((files.drop (beside logEnding place)).drop (beside indexEnding place),
          content.database)).1 := by
    rintro _ rfl hdirectory
    split_ifs
    · exact leaves_put (index_mem place) (beside_ne_nil hplace) index hdirectory
    · have hdropped := leaves_drop (log_mem place) (beside_ne_nil hplace) hlog
      apply hdropped.trans (leaves_drop (index_mem place) (beside_ne_nil hplace) _)
      exact fun hfind => hdirectory (hdropped.within _ .directory nofun hfind)
  rw [tendFullLog]
  rcases hshared : files.find? (beside indexEnding place) with _ | found | _ | target
  · exact hindex hshared nofun
  · exact hindex hshared nofun
  · exact .refl _ files
  · exact .refl _ files

theorem leaves_tendLog (access : Access) (files : Files) (content : Content) :
    Leaves (· ∈ sidecars place) files (tendLog access files place content).1 := by
  rw [tendLog]
  split_ifs with hblocked
  · exact .refl _ files
  · apply leaves_tendFullLog hplace
    exact fun hdirectory => hblocked (Bool.or_eq_true_iff.2 (Or.inl (isBlocked_iff.2 hdirectory)))
  · exact leaves_concluded hplace _ _ _

theorem leaves_tendFull (access : Access) (files : Files) (content : Content) :
    Leaves (· ∈ sidecars place) files (tendFull access files place content).1 := by
  rw [tendFull]
  split_ifs with hblocked
  · exact .refl _ files
  · exact leaves_tendLog hplace _ _ _
  · exact .refl _ files
  · exact .refl _ files
  · have hdropped := leaves_drop (journal_mem place) (beside_ne_nil hplace)
      (mt isBlocked_iff.2 hblocked)
    exact hdropped.trans (leaves_tendLog hplace _ _ _)

end

theorem ne_nil_of_content? (h : files.content? place = some content) : place ≠ [] := by
  rintro rfl
  cases h

/-- **Whatever is found beside a database**, nothing else changes. -/
theorem leaves_tend (access : Access) (files : Files) (place : Location) :
    Leaves (· ∈ sidecars place) files (tend access files place).1 := by
  rw [tend]
  rcases hcontent : files.content? place with _ | content
  · exact .refl _ files
  · have hplace := ne_nil_of_content? hcontent
    dsimp only
    split_ifs
    · exact leaves_tendEmpty hplace access files
    · exact leaves_tendFull hplace access files content

/-! ## At rest -/

theorem sweep_of_light (hfile : isHeavyFile files there = false)
    (hlink : isHeavyLink files there = false) : sweep files there = files := by
  rw [sweep, hfile, hlink]
  rfl

/-- What is at rest has no weight. -/
theorem light_of_rest (h : files.find? there = none ∨ files.find? there = some (.file (.bytes []))
      ∨ files.find? there = some .directory) :
    isHeavyFile files there = false ∧ isHeavyLink files there = false
      ∧ isHot files there = false := by
  have hlink : isHeavyLink files there = false := by
    apply isHeavyLink_eq_false
    rintro target hfind
    rcases h with h | h | h
    · cases h.symm.trans hfind
    · cases h.symm.trans hfind
    · cases h.symm.trans hfind
  rw [isHot, isHeavyFile]
  rcases h with h | h | h
  · rw [h]
    exact ⟨rfl, hlink, hlink⟩
  · rw [h]
    exact ⟨rfl, hlink, rfl⟩
  · rw [h]
    exact ⟨rfl, hlink, hlink⟩

/-- A file of at most one octet is a database without tables. -/
theorem database_of_short (h : content.octets.length ≤ 1) : content.database = .ok .empty := by
  cases content with
  | bytes octets => exact if_pos h
  | tables db => exact absurd (show Content.databaseMark.length ≤ 1 from h) (by decide)

/-- **A database at rest** is refused, or it is as its file says. -/
theorem tend_atRest (access : Access) (hrest : files.AtRest place)
    (hcontent : files.content? place = some content) :
    (∃ error, tend access files place = (files, .error error))
      ∨ tend access files place = concluded access files place content.database := by
  obtain ⟨hlogFile, hlogLink, -⟩ :=
    light_of_rest (hrest (beside logEnding place) List.mem_cons_self)
  obtain ⟨hjournalFile, hjournalLink, hcold⟩ :=
    light_of_rest (hrest (beside journalEnding place) (List.mem_cons_of_mem _ List.mem_cons_self))
  rw [tend, hcontent]
  dsimp only
  split_ifs with hshort
  · have hswept : sweepJournal access files place = files := by
      rw [sweepJournal, sweep_of_light hjournalFile hjournalLink, ite_self]
    rw [tendEmpty, hswept, sweep_of_light hlogFile hlogLink, database_of_short hshort]
    split_ifs
    · exact Or.inl ⟨_, rfl⟩
    · exact Or.inr rfl
  · simp only [tendFull, hcold, tendLog, hlogLink, hlogFile, Bool.not_false, Bool.or_false, if_true,
      Bool.false_eq_true, if_false]
    split_ifs
    · exact Or.inl ⟨_, rfl⟩
    · exact Or.inl ⟨_, rfl⟩
    · exact Or.inr rfl

theorem concluded_of_ne (h : access ≠ .changing) (result : Except SqlError Database) :
    concluded access files place result = (files, result) := by
  cases access with
  | reading => rfl
  | querying => rfl
  | changing => exact absurd rfl h

/-- A change that is made possible has its database and no journal. -/
theorem beginChange_eq_ok {db db' : Database} (h : (beginChange files there db).2 = .ok db') :
    db' = db ∧ (beginChange files there db).1 = files.drop there := by
  rw [beginChange] at h ⊢
  split_ifs at h ⊢
  exact ⟨(Except.ok.inj h).symm, rfl⟩

theorem concluded_ok {db : Database} (h : (concluded access files place result).2 = .ok db) :
    result = .ok db := by
  unfold concluded at h
  split at h
  · rw [(beginChange_eq_ok h).1]
  · exact h

/-- The journal of a change is nothing that is left. -/
theorem find?_concluded (hplace : place ≠ []) (access : Access) (files : Files)
    (result : Except SqlError Database) (there : Location) :
    (concluded access files place result).1.find? there = files.find? there
      ∨ (concluded access files place result).1.find? there = none := by
  unfold concluded
  split
  · rw [beginChange]
    split_ifs
    · rw [find?_drop files (beside_ne_nil hplace)]
      split_ifs
      · exact Or.inr rfl
      · exact Or.inl rfl
    · exact Or.inl rfl
  · exact Or.inl rfl

/-! ## Empty files -/

section

variable (hcontent : files.content? place = some (.bytes []))

include hcontent

theorem tend_of_empty (access : Access) : tend access files place = tendEmpty access files place := by
  rw [tend, hcontent]
  rfl

/-- An empty file can be changed where files can be made beside it. -/
theorem tend_fresh (hsidecars : ∀ there ∈ sidecars place, there.head?.all Path.fits = true
      ∧ files.IsBlank there) :
    (tend .changing files place).2 = .ok .empty := by
  have hplace := ne_nil_of_content? hcontent
  have hfirst := leaves_sweepJournal hplace .changing files
  -- What is a file stays one while it is not swept away.
  have hfree : ∀ {later : Files}, Within later files → ∀ there ∈ sidecars place,
      ∀ node, later.find? there = some node → ∃ content, node = .file content := by
    intro later hwithin there hthere node hnode
    cases node with
    | file content => exact ⟨content, rfl⟩
    | directory => exact (hsidecars there hthere).2 _ (hwithin there _ nofun hnode)
    | link target => exact (hsidecars there hthere).2 _ (hwithin there _ nofun hnode)
  have hsecond := hfirst.trans (leaves_sweep (log_mem place) (beside_ne_nil hplace) _)
  have hblocked : ¬ isBlocked (sweepJournal .changing files place) (beside logEnding place) = true := by
    intro hblocked
    obtain ⟨content, hnode⟩ := hfree hfirst.within _ (log_mem place) _ (isBlocked_iff.1 hblocked)
    cases hnode
  have hwrite : canWrite (sweep (sweepJournal .changing files place) (beside logEnding place))
      (beside journalEnding place) = true := by
    rw [canWrite]
    rcases hfind : (sweep (sweepJournal .changing files place) (beside logEnding place)).find?
      (beside journalEnding place) with _ | node
    · exact (hsidecars _ (journal_mem place)).1
    · obtain ⟨content, rfl⟩ := hfree hsecond.within _ (journal_mem place) node hfind
      rfl
  rw [tend_of_empty hcontent, tendEmpty]
  rw [if_neg hblocked, concluded, beginChange, if_pos hwrite]

/-- An empty file that can be changed is at rest from then on. -/
theorem tend_rested {db : Database} (hlinkless : files.Linkless place)
    (h : (tend .changing files place).2 = .ok db) :
    db = .empty ∧ (tend .changing files place).1.AtRest place := by
  have hplace := ne_nil_of_content? hcontent
  have hfirst := leaves_sweepJournal hplace .changing files
  rw [tend_of_empty hcontent, tendEmpty] at h ⊢
  split_ifs at h ⊢ with hblocked
  obtain ⟨hdb, htree⟩ := beginChange_eq_ok h
  refine ⟨hdb, ?_⟩
  rw [concluded, htree]
  have hsecond := hfirst.trans (leaves_sweep (log_mem place) (beside_ne_nil hplace) _)
  intro there hthere
  rw [find?_drop _ (beside_ne_nil hplace)]
  split_ifs with hjournal
  · exact Or.inl rfl
  obtain rfl : there = beside logEnding place := by
    rcases List.mem_cons.1 hthere with hlog | hother
    · exact hlog
    · exact absurd (List.mem_singleton.1 hother) hjournal
  -- A log with something in it has been swept away.
  rcases hfind : (sweep (sweepJournal .changing files place) (beside logEnding place)).find?
    (beside logEnding place) with _ | content | _ | target
  · exact Or.inl rfl
  · rw [sweep] at hfind
    split_ifs at hfind with hheavy
    · rw [find?_drop _ (beside_ne_nil hplace), if_pos rfl] at hfind
      cases hfind
    · have hlight : ¬ isHeavyFile (sweepJournal .changing files place) (beside logEnding place) = true :=
        fun hfile => hheavy (Bool.or_eq_true_iff.2 (Or.inl hfile))
      rw [isHeavyFile, hfind] at hlight
      cases content with
      | bytes octets =>
        cases octets with
        | nil => exact Or.inr (Or.inl rfl)
        | cons octet octets => exact absurd rfl hlight
      | tables db => exact absurd rfl hlight
  · exact Or.inr (Or.inr rfl)
  · exact absurd (hsecond.within _ (.link target) nofun hfind) (hlinkless _ (log_mem place) target)

end

/-! ## Alike -/

/-- Two outcomes of tending are the same where it matters. -/
def Same (place : Location) (outcome outcome' : Files × Except SqlError Database) : Prop :=
  outcome'.2 = outcome.2 ∧ Agree outcome.1 outcome'.1 place

section

variable (hagree : Agree files other place)

include hagree

theorem agree_drop (hthere : there ≠ []) : Agree (files.drop there) (other.drop there) place := by
  intro goal hgoal
  rw [find?_drop _ hthere, find?_drop _ hthere, hagree goal hgoal]

theorem agree_put (hthere : there ≠ []) (node : Node) :
    Agree (files.put there node) (other.put there node) place := by
  intro goal hgoal
  rw [find?_put _ hthere, find?_put _ hthere, hagree goal hgoal]

theorem same_concluded (hplace : place ≠ []) (access : Access) (result : Except SqlError Database) :
    Same place (concluded access files place result) (concluded access other place result) := by
  unfold concluded
  split
  · rw [beginChange, beginChange, canWrite, canWrite, hagree _ (Or.inr (journal_mem place))]
    split_ifs
    · exact ⟨rfl, agree_drop hagree (beside_ne_nil hplace)⟩
    · exact ⟨rfl, hagree⟩
  · exact ⟨rfl, hagree⟩

variable (hlinkless : files.Linkless place)

include hlinkless

theorem isHeavyLink_eq (hthere : there ∈ sidecars place) :
    isHeavyLink files there = false ∧ isHeavyLink other there = false :=
  ⟨isHeavyLink_eq_false (hlinkless there hthere),
    isHeavyLink_eq_false (hagree.linkless hlinkless there hthere)⟩

theorem agree_sweep (hthere : there ∈ sidecars place) (hne : there ≠ []) :
    Agree (sweep files there) (sweep other there) place := by
  obtain ⟨hlink, hlink'⟩ := isHeavyLink_eq hagree hlinkless hthere
  rw [sweep, sweep, hlink, hlink', isHeavyFile, isHeavyFile, hagree there (Or.inr hthere)]
  split_ifs
  · exact agree_drop hagree hne
  · exact hagree

theorem same_tendEmpty (hplace : place ≠ []) (access : Access) :
    Same place (tendEmpty access files place) (tendEmpty access other place) := by
  have hfirst : Agree (sweepJournal access files place) (sweepJournal access other place) place := by
    rw [sweepJournal, sweepJournal]
    split_ifs
    · exact hagree
    · exact agree_sweep hagree hlinkless (journal_mem place) (beside_ne_nil hplace)
  have hlinkless' : (sweepJournal access files place).Linkless place := by
    intro there hthere target hfind
    exact hlinkless there hthere target
      ((leaves_sweepJournal hplace access files).within _ _ nofun hfind)
  rw [tendEmpty, tendEmpty, isBlocked, isBlocked, hfirst _ (Or.inr (log_mem place))]
  split_ifs
  · exact ⟨rfl, hfirst⟩
  · exact same_concluded (agree_sweep hfirst hlinkless' (log_mem place) (beside_ne_nil hplace)) hplace
      access _

omit hlinkless in
theorem same_tendFullLog (hplace : place ≠ []) (access : Access) (content : Content) :
    Same place (tendFullLog access files place content) (tendFullLog access other place content) := by
  have hdropped : Agree ((files.drop (beside logEnding place)).drop (beside indexEnding place))
      ((other.drop (beside logEnding place)).drop (beside indexEnding place)) place :=
    agree_drop (agree_drop hagree (beside_ne_nil hplace)) (beside_ne_nil hplace)
  rw [tendFullLog, tendFullLog, hagree _ (Or.inr (index_mem place))]
  rcases files.find? (beside indexEnding place) with _ | found | _ | target
  · dsimp only
    split_ifs
    · exact ⟨rfl, agree_put hagree (beside_ne_nil hplace) _⟩
    · exact ⟨rfl, hdropped⟩
  · dsimp only
    split_ifs
    · exact ⟨rfl, agree_put hagree (beside_ne_nil hplace) _⟩
    · exact ⟨rfl, hdropped⟩
  · exact ⟨rfl, hagree⟩
  · exact ⟨rfl, hagree⟩

theorem same_tendLog (hplace : place ≠ []) (access : Access) (content : Content) :
    Same place (tendLog access files place content) (tendLog access other place content) := by
  obtain ⟨hlink, hlink'⟩ := isHeavyLink_eq hagree hlinkless (log_mem place)
  rw [tendLog, tendLog, hlink, hlink', isBlocked, isBlocked, isHeavyFile, isHeavyFile,
    hagree _ (Or.inr (log_mem place))]
  split_ifs
  · exact ⟨rfl, hagree⟩
  · exact same_tendFullLog hagree hplace access content
  · exact same_concluded hagree hplace access _

theorem same_tendFull (hplace : place ≠ []) (access : Access) (content : Content) :
    Same place (tendFull access files place content) (tendFull access other place content) := by
  obtain ⟨hlink, hlink'⟩ := isHeavyLink_eq hagree hlinkless (journal_mem place)
  have hlinkless' : (files.drop (beside journalEnding place)).Linkless place := by
    intro there hthere target hfind
    exact hlinkless there hthere target
      (within_of_drop files (beside_ne_nil hplace) _ _ nofun hfind)
  rw [tendFull, tendFull, hlink, hlink', isBlocked, isBlocked, isHot, isHot, hlink, hlink',
    hagree _ (Or.inr (journal_mem place))]
  simp only [Bool.false_eq_true, if_false]
  split_ifs
  · exact ⟨rfl, hagree⟩
  · exact same_tendLog hagree hlinkless hplace access content
  · exact ⟨rfl, hagree⟩
  · exact same_tendLog (agree_drop hagree (beside_ne_nil hplace)) hlinkless' hplace access content

/-- **Trees that agree on a database and on what is beside it** are tended alike. -/
theorem same_tend (access : Access) : Same place (tend access files place) (tend access other place) := by
  have hcontent' : other.content? place = files.content? place := by
    rw [Files.content?, Files.content?, hagree place (Or.inl rfl)]
  rw [tend, tend, hcontent']
  rcases hcontent : files.content? place with _ | content
  · exact ⟨rfl, hagree⟩
  · have hplace := ne_nil_of_content? hcontent
    dsimp only
    split_ifs
    · exact same_tendEmpty hagree hlinkless hplace access
    · exact same_tendFull hagree hlinkless hplace access content

end

end Bundled

/-- **The bundled engine keeps the laws.** -/
theorem bundled_lawful : bundled.Lawful where
  leaves := fun {access files place} _ => Bundled.leaves_tend access files place
  fresh := Bundled.tend_fresh
  rested := fun hcontent hlinkless h => Bundled.tend_rested hcontent hlinkless h
  truthful := by
    intro access files place db hrest hok
    rcases hcontent : files.content? place with _ | content
    · have htend : Bundled.tend access files place = (files, .error .cannotOpen) := by
        rw [Bundled.tend, hcontent]
      cases (congrArg Prod.snd htend).symm.trans hok
    · refine ⟨content, rfl, ?_⟩
      rcases Bundled.tend_atRest access hrest hcontent with ⟨error, htend⟩ | htend
      · cases (congrArg Prod.snd htend).symm.trans hok
      · exact Bundled.concluded_ok ((congrArg Prod.snd htend).symm.trans hok)
  resting := by
    intro access files place hrest _
    have hsame : ∀ later : Files, (∀ there, later.find? there = files.find? there
        ∨ later.find? there = none) → later.AtRest place := by
      intro later hlater there hthere
      rcases hlater there with hfind | hnone
      · rw [hfind]
        exact hrest there hthere
      · exact Or.inl hnone
    apply hsame
    intro there
    rcases hcontent : files.content? place with _ | content
    · have htend : Bundled.tend access files place = (files, .error .cannotOpen) := by
        rw [Bundled.tend, hcontent]
      exact Or.inl (congrArg (fun outcome => outcome.1.find? there) htend)
    · rcases Bundled.tend_atRest access hrest hcontent with ⟨error, htend⟩ | htend
      · exact Or.inl (congrArg (fun outcome => outcome.1.find? there) htend)
      · rw [show (bundled.tend access files place) = _ from htend]
        exact Bundled.find?_concluded (Bundled.ne_nil_of_content? hcontent) access files _ there
  again := by
    intro files place db hrest _ hok
    have htree : (Bundled.tend .querying files place).1 = files := by
      rcases hcontent : files.content? place with _ | content
      · rw [Bundled.tend, hcontent]
      · rcases Bundled.tend_atRest .querying hrest hcontent with ⟨error, htend⟩ | htend
        · rw [htend]
        · rw [htend, Bundled.concluded_of_ne (show Access.querying ≠ .changing by decide)]
    exact (congrArg (fun later => (Bundled.tend .querying later place).2) htree).trans hok
  alike := fun {access files other place} _ hlinkless hagree =>
    Bundled.same_tend hagree hlinkless access

end Engine

end BookDatasets

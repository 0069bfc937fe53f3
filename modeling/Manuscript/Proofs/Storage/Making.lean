import Manuscript.Proofs.Storage.Besides
import Manuscript.Proofs.Storage.Naming

/-!
# Files that are made

An operation that makes files touches nothing that is there (`FileSystem.Makes`); one that writes
files touches some places only (`FileSystem.Spares`). Neither makes or loses a directory, so paths
lead to the same places before and after (`FileSystem.Spares.locate_eq_ok_iff`).
-/

namespace Manuscript

namespace FileSystem

variable {files files' files'' : FileSystem} {place : Location} {path : Path} {node : Node}

/-! ### Touching some places only -/

/-- The file systems are the same but for what lies at some places, and even there nothing is lost
and the directories are the same. -/
structure Spares (touched : Location → Prop) (files files' : FileSystem) : Prop where
  current : files'.current = files.current
  directories : ∀ place,
    files'.node? place = some .directory ↔ files.node? place = some .directory
  there : ∀ place, files.node? place ≠ none → files'.node? place ≠ none
  elsewhere : ∀ place, ¬ touched place → files'.node? place = files.node? place

namespace Spares

variable {touched touched' : Location → Prop}

theorem refl (files : FileSystem) : Spares touched files files :=
  ⟨rfl, fun _ ↦ .rfl, fun _ ↦ id, fun _ _ ↦ rfl⟩

theorem mono (h : Spares touched files files') (ht : ∀ place, touched place → touched' place) :
    Spares touched' files files' :=
  ⟨h.current, h.directories, h.there, fun place hp ↦ h.elsewhere place fun hm ↦ hp (ht place hm)⟩

theorem trans (h : Spares touched files files') (h' : Spares touched files' files'') :
    Spares touched files files'' where
  current := h'.current.trans h.current
  directories place := (h'.directories place).trans (h.directories place)
  there place hp := h'.there place (h.there place hp)
  elsewhere place hp := (h'.elsewhere place hp).trans (h.elsewhere place hp)

/-- Where nothing is, nothing was. -/
theorem eq_none (h : Spares touched files files') (hn : files'.node? place = none) :
    files.node? place = none := by
  cases hf : files.node? place with
  | none => rfl
  | some node => exact absurd hn (h.there place (by rw [hf]; exact nofun))

theorem follow_eq_ok_iff (h : Spares touched files files') {start : Location}
    {steps : List String} :
    files'.follow start steps = .ok place ↔ files.follow start steps = .ok place := by
  induction steps generalizing start with
  | nil => exact .rfl
  | cons step rest ih =>
    rw [follow_cons_eq_ok_iff, follow_cons_eq_ok_iff, h.directories, ih]

/-- Paths lead to the same places. -/
theorem locate_eq_ok_iff (h : Spares touched files files') :
    files'.locate path = .ok place ↔ files.locate path = .ok place := by
  have origin : files'.origin path = files.origin path := by
    rw [FileSystem.origin, FileSystem.origin, h.current]
  rw [FileSystem.locate_eq_ok_iff, FileSystem.locate_eq_ok_iff, origin, h.follow_eq_ok_iff]

/-- What has been made in two steps lies where nothing was before them. -/
theorem made_append {paths paths' : List Path} (h : Spares touched files files')
    (h' : Spares touched' files' files'')
    (made : ∀ path ∈ paths, ∃ place, files.locate path = .ok place ∧ files.node? place = none ∧
      files'.node? place ≠ none)
    (made' : ∀ path ∈ paths', ∃ place, files'.locate path = .ok place ∧
      files'.node? place = none ∧ files''.node? place ≠ none) :
    ∀ path ∈ paths ++ paths', ∃ place, files.locate path = .ok place ∧
      files.node? place = none ∧ files''.node? place ≠ none := by
  intro path hp
  rcases List.mem_append.mp hp with hp | hp
  · obtain ⟨place, located, nothing, there⟩ := made path hp
    exact ⟨place, located, nothing, h'.there place there⟩
  · obtain ⟨place, located, nothing, there⟩ := made' path hp
    exact ⟨place, h.locate_eq_ok_iff.mp located, h.eq_none nothing, there⟩

end Spares

/-- What replaces a file or nothing touches no other place. -/
theorem spares_put (h : files.node? place ≠ some .directory) (hn : node ≠ .directory) :
    Spares (· = place) files (files.put place node) where
  current := rfl
  directories other := by
    by_cases ho : other = place
    · subst ho
      have below : other ≠ [] := fun root ↦ h (by rw [root]; rfl)
      rw [node?_put _ _ below]
      exact ⟨fun same ↦ absurd (Option.some.inj same) hn, fun same ↦ absurd same h⟩
    · rw [node?_put_of_ne _ _ ho]
  there other hn := by
    by_cases ho : other = place
    · subst ho
      rw [node?_put _ _ fun root ↦ h (by rw [root]; rfl)]
      exact nofun
    · rwa [node?_put_of_ne _ _ ho]
  elsewhere other ho := node?_put_of_ne _ _ ho

/-- What is written touches the place where its path leads. -/
theorem spares_write {content : String} (h : files.write path content = .ok files') :
    Spares (files.locate path = .ok ·) files files' := by
  obtain ⟨place, located, rfl⟩ := exists_locate_of_write h
  rw [write_eq located] at h
  split at h
  · cases h
  · next file => exact (spares_put file Node.noConfusion).mono fun _ ho ↦ ho ▸ located

/-- Style sheets touch the places where their paths lead, whether all of them can be installed or
not. -/
theorem spares_installResources (directory : Path) (resources : List Resource)
    (files : FileSystem) :
    Spares (fun place ↦ ∃ resource ∈ resources,
        files.locate (directory.join resource.name) = .ok place) files
      (installResources directory resources files).2 := by
  induction resources generalizing files with
  | nil => exact .refl files
  | cons resource others ih =>
    rw [installResources]
    split
    · exact .refl files
    · dsimp only
      split
      · exact .refl files
      · next written hw =>
        have first := spares_write hw
        have rest := ih written
        have here : Spares (fun place ↦ ∃ other ∈ resource :: others,
            files.locate (directory.join other.name) = .ok place) files written :=
          first.mono fun _ hp ↦ ⟨resource, List.mem_cons_self, hp⟩
        have later (place : Location) : (∃ other ∈ others,
            written.locate (directory.join other.name) = .ok place) →
            ∃ other ∈ resource :: others, files.locate (directory.join other.name) = .ok place := by
          rintro ⟨other, ho, hl⟩
          exact ⟨other, List.mem_cons_of_mem _ ho, first.locate_eq_ok_iff.mp hl⟩
        have both := here.trans (rest.mono later)
        split <;> next hi => rw [hi] at both; exact both

/-! ### Making files -/

/-- Files have been made at the paths, where nothing was, and that is all. -/
structure Makes (paths : List Path) (files files' : FileSystem) : Prop
    extends Spares (fun place ↦ ∃ path ∈ paths, files.locate path = .ok place) files files' where
  made : ∀ path ∈ paths, ∃ place, files.locate path = .ok place ∧ files.node? place = none ∧
    files'.node? place ≠ none

namespace Makes

variable {paths paths' : List Path}

theorem refl (files : FileSystem) : Makes [] files files := ⟨.refl files, nofun⟩

/-- Nothing was where a file has been made. -/
theorem eq_none_of_mem (h : Makes paths files files') (hp : path ∈ paths)
    (hl : files.locate path = .ok place) : files.node? place = none := by
  obtain ⟨other, located, nothing, -⟩ := h.made path hp
  cases hl.symm.trans located
  exact nothing

/-- What is there stays. -/
theorem node?_eq (h : Makes paths files files') (hn : files.node? place ≠ none) :
    files'.node? place = files.node? place :=
  h.elsewhere place fun ⟨_, hp, hl⟩ ↦ hn (h.eq_none_of_mem hp hl)

theorem trans (h : Makes paths files files') (h' : Makes paths' files' files'') :
    Makes (paths ++ paths') files files'' where
  toSpares := by
    have first : Spares (fun place ↦ ∃ path ∈ paths ++ paths', files.locate path = .ok place)
        files files' :=
      h.toSpares.mono fun _ ⟨path, hp, hl⟩ ↦ ⟨path, List.mem_append_left _ hp, hl⟩
    exact first.trans (h'.toSpares.mono fun _ ⟨path, hp, hl⟩ ↦
      ⟨path, List.mem_append_right _ hp, h.toSpares.locate_eq_ok_iff.mp hl⟩)
  made := h.toSpares.made_append h'.toSpares h.made h'.made

end Makes

theorem create_eq_ok_iff : files.create path node = .ok (place, files') ↔
    files.locate path = .ok place ∧ files.node? place = none ∧ files' = files.put place node := by
  rw [create]
  cases files.locate path with
  | error error => exact ⟨fun h ↦ (by cases h), fun h ↦ (by cases h.1)⟩
  | ok there =>
    simp only [bind, Except.bind]
    split
    · next other hn =>
      refine ⟨fun h ↦ (by cases h), fun h ↦ ?_⟩
      cases h.1
      rw [hn] at h
      cases h.2.1
    · next hn =>
      constructor
      · rintro ⟨⟩
        exact ⟨rfl, hn, rfl⟩
      · rintro ⟨⟨⟩, -, rfl⟩
        rfl

/-- A file that is made lies where nothing was. -/
theorem makes_create (h : files.create path node = .ok (place, files')) (hn : node ≠ .directory) :
    Makes [path] files files' := by
  obtain ⟨located, nothing, rfl⟩ := create_eq_ok_iff.mp h
  have below : place ≠ [] := fun root ↦ by rw [root] at nothing; cases nothing
  refine ⟨(spares_put (by rw [nothing]; exact nofun) hn).mono ?_, ?_⟩
  · rintro _ rfl
    exact ⟨path, List.mem_singleton_self path, located⟩
  · intro other ho
    obtain rfl := List.mem_singleton.mp ho
    exact ⟨place, located, nothing, by rw [node?_put _ _ below]; exact nofun⟩

/-! ### Making files and writing others -/

/-- Since the files were `initial`, files have been made at the paths, where nothing was, and beside
them no more than some places, such as those of style sheets, have been written. -/
structure Accounts (sheet : Location → Prop) (initial : FileSystem) (paths : List Path)
    (files : FileSystem) : Prop
    extends Spares (fun place ↦ initial.node? place = none ∨ sheet place) initial files where
  covered : ∀ place, files.node? place ≠ none →
    initial.node? place ≠ none ∨ sheet place ∨ ∃ path ∈ paths, initial.locate path = .ok place
  made : ∀ path ∈ paths, ∃ place, initial.locate path = .ok place ∧ initial.node? place = none ∧
    files.node? place ≠ none

namespace Accounts

variable {sheet touched : Location → Prop} {initial : FileSystem} {paths paths' : List Path}

theorem refl (files : FileSystem) : Accounts sheet files [] files :=
  ⟨.refl files, fun _ ↦ .inl, nofun⟩

theorem makes (h : Accounts sheet initial paths files) (hm : files.Makes paths' files') :
    Accounts sheet initial (paths ++ paths') files' where
  toSpares := h.toSpares.trans (hm.toSpares.mono fun _ ⟨_, hp, hl⟩ ↦
    .inl (h.toSpares.eq_none (hm.eq_none_of_mem hp hl)))
  covered place hn := by
    by_cases before : files.node? place = none
    · by_cases written : ∃ path ∈ paths', files.locate path = .ok place
      · obtain ⟨path, hp, hl⟩ := written
        exact .inr (.inr ⟨path, List.mem_append_right _ hp, h.toSpares.locate_eq_ok_iff.mp hl⟩)
      · exact absurd ((hm.elsewhere place written).trans before) hn
    · refine (h.covered place before).imp_right (Or.imp_right ?_)
      exact fun ⟨path, hp, hl⟩ ↦ ⟨path, List.mem_append_left _ hp, hl⟩
  made := h.toSpares.made_append hm.toSpares h.made hm.made

/-- Style sheets may be written, and files that have been made. -/
theorem spares (h : Accounts sheet initial paths files) (hs : files.Spares touched files')
    (ht : ∀ place, touched place →
      sheet place ∨ initial.node? place = none ∧ files.node? place ≠ none) :
    Accounts sheet initial paths files' where
  toSpares := h.toSpares.trans (hs.mono fun place hp ↦ (ht place hp).symm.imp_left And.left)
  covered place hn := by
    by_cases hp : touched place
    · rcases ht place hp with sheet | ⟨-, there⟩
      · exact .inr (.inl sheet)
      · exact h.covered place there
    · rw [hs.elsewhere place hp] at hn
      exact h.covered place hn
  made path hp := by
    obtain ⟨place, located, nothing, there⟩ := h.made path hp
    exact ⟨place, located, nothing, hs.there place there⟩

end Accounts

/-! ### Files that are there already -/

/-- Following a path is no reason to say that something is there already. -/
theorem locate_ne_alreadyExists : files.locate path ≠ .error .alreadyExists := by
  have other {reason : IoError} (h : reason ≠ .alreadyExists) :
      (.error reason : Except IoError Location) ≠ .error .alreadyExists :=
    fun he ↦ h (Except.error.inj he)
  have followed (start : Location) (steps : List String) :
      files.follow start steps ≠ .error .alreadyExists := by
    induction steps generalizing start with
    | nil =>
      intro h
      cases h
    | cons step rest ih =>
      rw [follow]
      split
      · split
        · exact other (by decide)
        · exact ih _
      · exact other (by decide)
      · exact other (by decide)
  rw [locate, locateBy]
  split
  · exact other (by decide)
  · split
    · exact other (by decide)
    · split
      · exact other (by decide)
      · exact followed _ _

theorem has_iff : files.has path = true ↔
    ∃ place, files.locate path = .ok place ∧ files.node? place ≠ none := by
  rw [has, look]
  cases files.locate path with
  | error error => exact ⟨nofun, fun ⟨_, h, _⟩ ↦ nomatch h⟩
  | ok place =>
    simp only [bind, Except.bind]
    split
    · next node hn => exact ⟨fun _ ↦ ⟨place, rfl, by rw [hn]; exact nofun⟩, fun _ ↦ rfl⟩
    · next hn => exact ⟨nofun, fun ⟨_, h, there⟩ ↦ by cases h; exact absurd hn there⟩

/-- A file cannot be made because it is there already just if its path names something. -/
theorem create_eq_alreadyExists_iff :
    files.create path node = .error .alreadyExists ↔ files.has path = true := by
  rw [has_iff, create]
  cases hl : files.locate path with
  | error error =>
    constructor
    · intro h
      cases h
      exact absurd hl locate_ne_alreadyExists
    · rintro ⟨_, h, -⟩
      cases h
  | ok place =>
    simp only [bind, Except.bind]
    split
    · next node hn =>
      exact ⟨fun _ ↦ ⟨place, rfl, by rw [hn]; exact Option.some_ne_none node⟩, fun _ ↦ rfl⟩
    · next hn =>
      constructor
      · intro h
        cases h
      · rintro ⟨_, h, there⟩
        cases h
        exact absurd hn there

end FileSystem

end Manuscript

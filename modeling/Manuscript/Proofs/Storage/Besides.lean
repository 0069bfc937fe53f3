import Manuscript.Proofs.Storage.Location

/-!
# File systems that differ in one text

What a text file holds is of no concern to what is done besides it: paths lead to the same places,
and style sheets are installed or not, and the file systems go on to differ in that text alone.
-/

namespace Manuscript

namespace FileSystem

/-- The file systems hold a text each at `place`, and the same everywhere else. -/
structure Besides (place : Location) (files files' : FileSystem) : Prop where
  current : files.current = files'.current
  elsewhere : ∀ other, other ≠ place → files.node? other = files'.node? other
  text : ∃ content, files.node? place = some (.text content)
  text' : ∃ content, files'.node? place = some (.text content)

variable {place : Location} {files files' : FileSystem}

theorem besides_put (files : FileSystem) (h : place ≠ []) (content content' : String) :
    Besides place (files.put place (.text content)) (files.put place (.text content')) where
  current := rfl
  elsewhere other ho := by rw [node?_put_of_ne _ _ ho, node?_put_of_ne _ _ ho]
  text := ⟨content, node?_put _ _ h⟩
  text' := ⟨content', node?_put _ _ h⟩

/-- A text is written where its path leads, unless there is a directory. -/
theorem write_eq {path : Path} {other : Location} (h : files.locate path = .ok other)
    (content : String) :
    files.write path content =
      if files.node? other = some .directory then .error .isADirectory
      else .ok (files.put other (.text content)) := by
  simp only [write, h, bind, Except.bind]
  split
  · next hn => rw [if_pos hn]; rfl
  · next hn => rw [if_neg hn]; rfl

namespace Besides

variable (h : Besides place files files')

include h

/-- There is the same everywhere, or a text each. -/
theorem node?_cases (other : Location) : files.node? other = files'.node? other ∨
    (∃ content, files.node? other = some (.text content)) ∧
      ∃ content, files'.node? other = some (.text content) := by
  by_cases ho : other = place
  · exact .inr (ho ▸ ⟨h.text, h.text'⟩)
  · exact .inl (h.elsewhere other ho)

theorem follow_eq (start : Location) (steps : List String) :
    files.follow start steps = files'.follow start steps := by
  induction steps generalizing start with
  | nil => rfl
  | cons step rest ih =>
    rw [follow, follow]
    rcases h.node?_cases start with same | ⟨⟨content, ht⟩, ⟨content', ht'⟩⟩
    · rw [same]
      simp only [ih]
    · rw [ht, ht']

theorem locate_eq (path : Path) : files.locate path = files'.locate path := by
  have origin : files.origin path = files'.origin path := by rw [origin, origin, h.current]
  simp only [locate, locateBy, origin, h.follow_eq]

/-- The same text is put elsewhere, or in place of the one that differs. -/
theorem put (other : Location) (ho : other ≠ []) (content : String) :
    Besides place (files.put other (.text content)) (files'.put other (.text content)) := by
  have there := node?_put files (.text content) ho
  have there' := node?_put files' (.text content) ho
  refine ⟨h.current, fun further hf ↦ ?_, ?_, ?_⟩
  · by_cases he : further = other
    · rw [he, there, there']
    · rw [node?_put_of_ne _ _ he, node?_put_of_ne _ _ he, h.elsewhere further hf]
  · by_cases he : place = other
    · exact ⟨content, he ▸ there⟩
    · rw [node?_put_of_ne _ _ he]
      exact h.text
  · by_cases he : place = other
    · exact ⟨content, he ▸ there'⟩
    · rw [node?_put_of_ne _ _ he]
      exact h.text'

/-- A text is written in both or in neither. -/
theorem write (path : Path) (content : String) :
    (∃ error, files.write path content = .error error ∧ files'.write path content = .error error) ∨
      ∃ written written', files.write path content = .ok written ∧
        files'.write path content = .ok written' ∧ Besides place written written' := by
  have same := h.locate_eq path
  cases hl : files'.locate path with
  | error error =>
    rw [hl] at same
    refine .inl ⟨error, ?_, ?_⟩ <;> simp only [FileSystem.write, hl, same, bind, Except.bind]
  | ok other =>
    rw [hl] at same
    have folder : files.node? other = some .directory ↔ files'.node? other = some .directory := by
      rcases h.node?_cases other with ho | ⟨⟨_, ht⟩, ⟨_, ht'⟩⟩
      · rw [ho]
      · simp [ht, ht']
    rw [write_eq same, write_eq hl]
    simp only [folder]
    by_cases hd : files'.node? other = some .directory
    · exact .inl ⟨.isADirectory, if_pos hd, if_pos hd⟩
    · refine .inr ⟨_, _, if_neg hd, if_neg hd, h.put other (fun ho ↦ hd ?_) content⟩
      rw [node?, if_pos ho]

/-- Style sheets are installed in both or in neither. -/
theorem installResources (directory : Path) (resources : List Resource) :
    (installResources directory resources files).1 =
      (Manuscript.installResources directory resources files').1 ∧
    Besides place (Manuscript.installResources directory resources files).2
      (Manuscript.installResources directory resources files').2 := by
  induction resources generalizing files files' with
  | nil => exact ⟨rfl, h⟩
  | cons resource others ih =>
    rw [Manuscript.installResources, Manuscript.installResources]
    split
    · exact ⟨rfl, h⟩
    · next content _ =>
      dsimp only
      rcases h.write (directory.join resource.name) content with
        ⟨error, hw, hw'⟩ | ⟨written, written', hw, hw', rest⟩
      · rw [hw, hw']
        exact ⟨rfl, h⟩
      · rw [hw, hw']
        obtain ⟨answer, final⟩ := ih rest
        dsimp only
        revert answer final
        generalize Manuscript.installResources directory others written = r
        generalize Manuscript.installResources directory others written' = r'
        obtain ⟨answer, final⟩ := r
        obtain ⟨answer', final'⟩ := r'
        rintro rfl final
        cases answer <;> exact ⟨rfl, final⟩

end Besides

end FileSystem

end Manuscript

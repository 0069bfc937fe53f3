import Manuscript.Press.Context

/-!
# Where files lie

A path that ends in a letter names a location that ends in that letter, whatever the steps before
do. So style sheets are never installed in the place of a file with another ending.
-/

namespace Manuscript

namespace Path

/-- The last piece of a text that does not end in a slash ends as the text does. -/
theorem exists_last_piece {text : List Char} {c : Char} (h : text.getLast? = some c)
    (hc : c ≠ '/') :
    ∃ front piece, pieces text = front ++ [piece] ∧ piece.getLast? = some c := by
  induction text with
  | nil => cases h
  | cons first rest ih =>
    rw [pieces]
    by_cases hr : rest = []
    · subst hr
      obtain rfl : first = c := Option.some.inj h
      rw [if_neg hc]
      exact ⟨[], [first], rfl, rfl⟩
    · have last : rest.getLast? = some c := by
        rw [List.getLast?_cons, List.getLast?_eq_some_getLast hr, Option.getD_some] at h
        rw [List.getLast?_eq_some_getLast hr, Option.some.inj h]
      obtain ⟨front, piece, hp, hl⟩ := ih last
      rw [hp]
      split
      · exact ⟨[] :: front, piece, rfl, hl⟩
      · cases front with
        | nil =>
          refine ⟨[], first :: piece, rfl, ?_⟩
          rw [List.getLast?_cons, hl, Option.getD_some]
        | cons other front => exact ⟨(first :: other) :: front, piece, rfl, hl⟩

/-- The last step of a path that does not end in a slash ends as the path does. -/
theorem exists_last_step {path : Path} {c : Char} (h : path.text.toList.getLast? = some c)
    (hc : c ≠ '/') :
    ∃ front step, path.steps = front ++ [step] ∧ step.toList.getLast? = some c := by
  obtain ⟨front, piece, hp, hl⟩ := exists_last_piece h hc
  refine ⟨front.map String.ofList, String.ofList piece, ?_, ?_⟩
  · rw [steps, hp, List.map_append]
    rfl
  · rwa [String.toList_ofList]

/-- A path that is joined to a base ends as it does alone. -/
theorem getLast?_join {name : String} {c : Char} (base : Path)
    (h : name.toList.getLast? = some c) : (base.join name).text.toList.getLast? = some c := by
  rw [join]
  split
  · exact h
  · split <;> simp [String.toList_append, List.getLast?_append, List.getLast?_cons, h]

end Path

namespace FileSystem

/-- The location ends in the character. -/
def EndsIn (place : Location) (c : Char) : Prop :=
  ∃ name, place.getLast? = some name ∧ name.toList.getLast? = some c

variable {files written : FileSystem} {path : Path} {place other : Location} {c : Char}

/-- A step that ends in neither a slash nor a dot goes down. -/
theorem endsIn_follow {start : Location} {front : List String} {step : String}
    (h : files.follow start (front ++ [step]) = .ok place)
    (hs : step.toList.getLast? = some c) (hc : c ≠ '.') : EndsIn place c := by
  induction front generalizing start with
  | nil =>
    rw [List.nil_append, follow] at h
    split at h
    · split at h
      · cases h
      · have idle : Path.isIdle step = false := by
          rw [Path.isIdle, Bool.or_eq_false_iff, beq_eq_false_iff_ne, beq_eq_false_iff_ne]
          constructor <;> rintro rfl
          · cases hs
          · exact hc (Option.some.inj hs).symm
        have up : step ≠ ".." := by
          rintro rfl
          exact hc (Option.some.inj hs).symm
        rw [follow, move, idle, if_neg Bool.false_ne_true, if_neg up] at h
        cases h
        exact ⟨step, List.getLast?_concat, hs⟩
    · cases h
    · cases h
  | cons first front ih =>
    rw [List.cons_append, follow] at h
    split at h
    · split at h
      · cases h
      · exact ih h
    · cases h
    · cases h

/-- What a path names ends as the path does. -/
theorem endsIn_locate (h : files.locate path = .ok place)
    (hp : path.text.toList.getLast? = some c) (hs : c ≠ '/') (hd : c ≠ '.') :
    EndsIn place c := by
  obtain ⟨front, step, steps, last⟩ := Path.exists_last_step hp hs
  rw [locate, locateBy, steps] at h
  split at h
  · cases h
  · split at h
    · cases h
    · split at h
      · cases h
      · exact endsIn_follow h last hd

theorem EndsIn.ne_nil (h : EndsIn place c) : place ≠ [] := by
  obtain ⟨name, hn, _⟩ := h
  rintro rfl
  cases hn

theorem EndsIn.ne {c' : Char} (h : EndsIn place c) (h' : EndsIn other c') (hc : c ≠ c') :
    place ≠ other := by
  rintro rfl
  obtain ⟨name, hn, hl⟩ := h
  obtain ⟨name', hn', hl'⟩ := h'
  obtain rfl : name = name' := Option.some.inj (hn.symm.trans hn')
  exact hc (Option.some.inj (hl.symm.trans hl'))

/-- What is put somewhere is there. -/
theorem node?_put (files : FileSystem) (node : Node) (h : place ≠ []) :
    (files.put place node).node? place = some node := by
  rw [node?, put, if_neg h]
  simp

/-- What is put elsewhere is of no concern. -/
theorem node?_put_of_ne (files : FileSystem) (node : Node) (h : place ≠ other) :
    (files.put other node).node? place = files.node? place := by
  rw [node?, node?, put]
  split
  · rfl
  · rw [List.find?_cons_of_neg (by simpa using h.symm), List.find?_filter]
    congr 2
    funext entry
    by_cases he : entry.1 = place
    · simp [he, h]
    · simp [he]

/-- What is written lies where its path says. -/
theorem exists_locate_of_write {content : String} (h : files.write path content = .ok written) :
    ∃ place, files.locate path = .ok place ∧ written = files.put place (.text content) := by
  cases hl : files.locate path with
  | error error =>
    simp only [write, hl, bind, Except.bind] at h
    cases h
  | ok place =>
    simp only [write, hl, bind, Except.bind] at h
    refine ⟨place, rfl, ?_⟩
    split at h
    · cases h
    · exact (Except.ok.inj h).symm

/-- What is made lies where its path says. -/
theorem locate_of_create {node : Node} (h : files.create path node = .ok (place, written)) :
    files.locate path = .ok place := by
  cases hl : files.locate path with
  | error error =>
    simp only [create, hl, bind, Except.bind] at h
    cases h
  | ok there =>
    simp only [create, hl, bind, Except.bind] at h
    split at h
    · cases h
    · cases h
      rfl

/-- What is written to a path with another ending is of no concern. -/
theorem node?_write {c' : Char} {content : String} (h : files.write path content = .ok written)
    (hp : path.text.toList.getLast? = some c') (hs : c' ≠ '/') (hd : c' ≠ '.')
    (hl : EndsIn place c) (hc : c ≠ c') : written.node? place = files.node? place := by
  obtain ⟨there, hw, rfl⟩ := exists_locate_of_write h
  exact files.node?_put_of_ne _ (hl.ne (endsIn_locate hw hp hs hd) hc)

end FileSystem

/-- Style sheets are installed beside a file with another ending, whether all of them can be or
not. -/
theorem node?_installResources {directory : Path} {resources : List Resource} {files : FileSystem}
    {place : Location} {c c' : Char}
    (hr : ∀ resource ∈ resources, resource.name.toList.getLast? = some c') (hs : c' ≠ '/')
    (hd : c' ≠ '.') (hl : FileSystem.EndsIn place c) (hc : c ≠ c') :
    (installResources directory resources files).2.node? place = files.node? place := by
  induction resources generalizing files with
  | nil => rfl
  | cons resource others ih =>
    rw [List.forall_mem_cons] at hr
    rw [installResources]
    split
    · rfl
    · dsimp only
      split
      · rfl
      · next written hw =>
        have rest := (@ih written hr.2).trans
          (FileSystem.node?_write hw (Path.getLast?_join _ hr.1) hs hd hl hc)
        split <;> next hi => rw [hi] at rest; exact rest

/-- The output file lies where its path says. -/
theorem Context.endsIn_createDocument {context used : Context} {backend : Backend} {serial : Nat}
    {files : FileSystem} {s : Session} {c : Char}
    (h : context.createDocument backend serial files = .ok (s, used))
    (he : backend.extension.toList.getLast? = some c) (hs : c ≠ '/') (hd : c ≠ '.') :
    FileSystem.EndsIn s.document.place c := by
  rw [createDocument] at h
  split at h
  · cases h
  · dsimp only at h
    split at h
    · cases h
    · next place made hm =>
      cases h
      change FileSystem.EndsIn place c
      have ending : (context.documentPath backend).text.toList.getLast? = some c := by
        refine Path.getLast?_join _ ?_
        rw [String.toList_append, List.getLast?_append, he]
        rfl
      exact FileSystem.endsIn_locate (FileSystem.locate_of_create hm) ending hs hd

end Manuscript

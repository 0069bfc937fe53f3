import Manuscript.Proofs.Storage.Location

/-!
# Names in a directory

A plain name (`Path.IsPlain`) that is joined to the path of a directory is one more component, and
what such a path leads to bears the name. So files of different names lie at different locations,
whichever directories they are in.
-/

namespace Manuscript

namespace Path

/-! ### Pieces and components -/

theorem pieces_ne_nil (text : List Char) : pieces text ≠ [] := by
  cases text with
  | nil => exact List.cons_ne_nil _ _
  | cons c rest =>
    rw [pieces]
    split
    · exact List.cons_ne_nil _ _
    · split <;> exact List.cons_ne_nil _ _

/-- A slash parts the pieces. -/
theorem pieces_append_slash (front back : List Char) :
    pieces (front ++ '/' :: back) = pieces front ++ pieces back := by
  induction front with
  | nil => simp only [List.nil_append, pieces, if_pos, List.singleton_append]
  | cons c front ih =>
    rw [List.cons_append, pieces, ih, pieces]
    split
    · rfl
    · cases hp : pieces front with
      | nil => exact absurd hp (pieces_ne_nil front)
      | cons piece others => rfl

/-- A text without a slash is one piece. -/
theorem pieces_of_notMem {text : List Char} (h : '/' ∉ text) : pieces text = [text] := by
  induction text with
  | nil => rfl
  | cons c rest ih =>
    rw [List.mem_cons, not_or] at h
    rw [pieces, if_neg (Ne.symm h.1), ih h.2]

/-- The steps that count. -/
def components (path : Path) : List String := path.steps.filter (!isIdle ·)

/-- A name that is one step down: it has no slash of either kind, and stays nowhere and goes up
nowhere. -/
structure IsPlain (name : String) : Prop where
  slash : '/' ∉ name.toList
  backslash : '\\' ∉ name.toList
  idle : isIdle name = false
  up : name ≠ ".."

/-- A name with some character that is no dot is plain if it has no slashes. -/
theorem isPlain_of_mem {name : String} {c : Char} (slash : '/' ∉ name.toList)
    (backslash : '\\' ∉ name.toList) (h : c ∈ name.toList) (hc : c ≠ '.') : IsPlain name where
  slash
  backslash
  idle := by
    rw [isIdle, Bool.or_eq_false_iff, beq_eq_false_iff_ne, beq_eq_false_iff_ne]
    constructor <;> rintro rfl
    · cases h
    · exact hc (List.mem_singleton.mp h)
  up := by
    rintro rfl
    have dots : ∀ d ∈ "..".toList, d = '.' := by decide
    exact hc (dots c h)

variable {name : String} (base : Path)

/-- A name without a slash is the last step of the path that it is joined to, and the steps before
it count as those of the base do. -/
theorem exists_steps_join (h : '/' ∉ name.toList) :
    ∃ front, (base.join name).steps = front ++ [name] ∧
      front.filter (!isIdle ·) = base.components := by
  have relative : (Path.mk name).isAbsolute = false := by
    rw [isAbsolute, beq_eq_false_iff_ne]
    exact fun first ↦ h (List.mem_of_head? first)
  have last : (pieces name.toList).map String.ofList = [name] := by
    rw [pieces_of_notMem h, List.map_singleton, String.ofList_toList]
  have parted (front : List Char) :
      (pieces (front ++ '/' :: name.toList)).map String.ofList =
        (pieces front).map String.ofList ++ [name] := by
    rw [pieces_append_slash, List.map_append, last]
  rw [join, if_neg (relative ▸ Bool.false_ne_true)]
  split
  · next bare =>
    rcases bare with empty | slash
    · refine ⟨[], ?_, ?_⟩
      · rw [steps, empty, String.empty_append, last, List.nil_append]
      · rw [components, steps, empty]
        rfl
    · obtain ⟨front, hf⟩ := List.getLast?_eq_some_iff.mp slash
      refine ⟨(pieces front).map String.ofList, ?_, ?_⟩
      · rw [steps, String.toList_append, hf, List.append_assoc, List.singleton_append, parted]
      · rw [components, steps, hf, pieces_append_slash, List.map_append, List.filter_append]
        exact (List.append_nil _).symm
  · refine ⟨base.steps, ?_, rfl⟩
    rw [steps, String.toList_append, String.toList_append, List.append_assoc]
    exact parted base.text.toList

/-- A plain name is one more component. -/
theorem components_join (h : IsPlain name) :
    (base.join name).components = base.components ++ [name] := by
  obtain ⟨front, steps, counted⟩ := exists_steps_join base h.slash
  rw [components, steps, List.filter_append, counted,
    List.filter_cons_of_pos (by rw [h.idle]; rfl), List.filter_nil]

/-- The last component names the file. -/
theorem fileName?_join (h : IsPlain name) : (base.join name).fileName? = some name := by
  have last : ((base.join name).steps.filter (!isIdle ·)).getLast? = some name := by
    change (base.join name).components.getLast? = some name
    rw [components_join base h, List.getLast?_concat]
  rw [fileName?, last]
  split
  · next up => exact absurd (Option.some.inj up) h.up
  · rfl

/-- A path stays relative or from the root. -/
theorem isAbsolute_join (h : IsPlain name) : (base.join name).isAbsolute = base.isAbsolute := by
  have relative : (Path.mk name).isAbsolute = false := by
    rw [isAbsolute, beq_eq_false_iff_ne]
    exact fun first ↦ h.slash (List.mem_of_head? first)
  rw [join, if_neg (relative ▸ Bool.false_ne_true)]
  by_cases empty : base.text = ""
  · rw [if_pos (.inl empty), isAbsolute, isAbsolute, empty, String.empty_append]
    exact relative
  · have filled : base.text.toList ≠ [] := fun none ↦ empty (String.toList_eq_nil_iff.mp none)
    obtain ⟨c, rest, hc⟩ := List.exists_cons_of_ne_nil filled
    split <;> simp only [isAbsolute, String.toList_append, hc, List.cons_append, List.head?_cons]

/-- The path is that of the directory with one plain component more. -/
def IsChild (path directory : Path) : Prop := ∃ name, IsPlain name ∧ path = directory.join name ∧
  path.components = directory.components ++ [name] ∧ path.isAbsolute = directory.isAbsolute

theorem isChild_join (h : IsPlain name) : (base.join name).IsChild base :=
  ⟨name, h, rfl, components_join base h, isAbsolute_join base h⟩

end Path

/-! ### Where the name leads -/

namespace FileSystem

variable {files : FileSystem} {place : Location} {name : String} {base : Path}

/-- A step is made from a directory. -/
theorem follow_cons_eq_ok_iff {start : Location} {step : String} {rest : List String} :
    files.follow start (step :: rest) = .ok place ↔ files.node? start = some .directory ∧
      step.utf8ByteSize ≤ maxNameLength ∧ files.follow (move start step) rest = .ok place := by
  by_cases folder : files.node? start = some .directory
  · rw [follow, folder]
    dsimp only
    split
    · next long =>
      exact ⟨fun h ↦ (by cases h), fun h ↦ absurd h.2.1 (Nat.not_le_of_lt long)⟩
    · next short => exact ⟨fun h ↦ ⟨rfl, Nat.le_of_not_lt short, h⟩, fun h ↦ h.2.2⟩
  · refine ⟨fun h ↦ ?_, fun h ↦ absurd h.1 folder⟩
    rw [follow] at h
    split at h
    · next found => exact absurd found folder
    · cases h
    · cases h

/-- The last step is made from where the steps before it lead. -/
theorem exists_follow_of_append {start : Location} {front : List String} {step : String}
    (h : files.follow start (front ++ [step]) = .ok place) :
    ∃ way, files.follow start front = .ok way ∧ place = move way step := by
  induction front generalizing start with
  | nil =>
    obtain ⟨-, -, moved⟩ := follow_cons_eq_ok_iff.mp h
    cases moved
    exact ⟨start, rfl, rfl⟩
  | cons first front ih =>
    obtain ⟨folder, short, rest⟩ := follow_cons_eq_ok_iff.mp h
    obtain ⟨way, followed, moved⟩ := ih rest
    exact ⟨way, follow_cons_eq_ok_iff.mpr ⟨folder, short, followed⟩, moved⟩

/-- A path leads where its steps do, if it is a path. -/
theorem locate_eq_ok_iff {path : Path} : files.locate path = .ok place ↔
    (path.text.toList.contains '\x00' = false ∧ path.text.utf8ByteSize ≤ maxPathLength ∧
      path.text ≠ "") ∧ files.follow (files.origin path) path.steps = .ok place := by
  rw [locate, locateBy]
  split
  · next null =>
    exact ⟨fun h ↦ (by cases h), fun h ↦ by rw [h.1.1] at null; cases null⟩
  · next clean =>
    split
    · next long =>
      exact ⟨fun h ↦ (by cases h), fun h ↦ absurd h.1.2.1 (Nat.not_le_of_lt long)⟩
    · next short =>
      split
      · next empty => exact ⟨fun h ↦ (by cases h), fun h ↦ absurd empty h.1.2.2⟩
      · next filled =>
        exact ⟨fun h ↦ ⟨⟨eq_false_of_ne_true clean, Nat.le_of_not_lt short, filled⟩, h⟩,
          fun h ↦ h.2⟩

/-- What a path to a plain name leads to bears the name. -/
theorem getLast?_of_locate_join (h : Path.IsPlain name)
    (located : files.locate (base.join name) = .ok place) : place.getLast? = some name := by
  obtain ⟨front, steps, -⟩ := base.exists_steps_join h.slash
  obtain ⟨-, followed⟩ := locate_eq_ok_iff.mp located
  rw [steps] at followed
  obtain ⟨way, -, rfl⟩ := exists_follow_of_append followed
  rw [move, h.idle, if_neg Bool.false_ne_true, if_neg h.up, List.getLast?_concat]

end FileSystem

end Manuscript

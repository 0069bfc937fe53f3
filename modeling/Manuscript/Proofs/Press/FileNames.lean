import Manuscript.Press.Context
import Manuscript.Proofs.Document.ImageName
import Manuscript.Xhtml.Backend

/-!
# Names of the files of a context

The files of a context are its output file and its images. Their names tell the stem of the context
and the number text of the image (`Context.fileName_inj`), and none of them is a style sheet.
-/

namespace Manuscript

/-- The label of a file: of the output file, or of an image with the number text of a figure. -/
def IsFileLabel (label : Option String) : Prop := ∀ number ∈ label, ∃ n, FigureNumber n number

theorem isFileLabel_none : IsFileLabel none := nofun

theorem isFileLabel_some {n : Nat} {number : String} (h : FigureNumber n number) :
    IsFileLabel (some number) := by
  rintro _ ⟨⟩
  exact ⟨n, h⟩

namespace Context

/-- The name of the output file, or of the image with a number text. -/
def fileName (context : Context) : Option String → String
  | none => context.stem ++ "." ++ Xhtml.backend.extension
  | some number =>
    context.stem ++ "-figure" ++ number ++ "." ++ context.settings.format.extension

/-- The path of the output file, or of the image with a number text. -/
def filePath (context : Context) (label : Option String) : Path :=
  context.directory.join (context.fileName label)

variable {context context' : Context} {label label' : Option String}

theorem getLast?_fileName_none (context : Context) :
    (context.fileName none).toList.getLast? = some 'l' := by
  rw [fileName, String.toList_append, List.getLast?_append]
  rfl

theorem getLast?_fileName_some (context : Context) (number : String) :
    ∃ c, (context.fileName (some number)).toList.getLast? = some c ∧ (c = 'g' ∨ c = 'f') := by
  have ending : ∃ c, context.settings.format.extension.toList.getLast? = some c ∧
      (c = 'g' ∨ c = 'f') := by
    cases context.settings.format <;> exact ⟨_, rfl, by decide⟩
  obtain ⟨c, last, hc⟩ := ending
  refine ⟨c, ?_, hc⟩
  rw [fileName, String.toList_append, List.getLast?_append, last]
  rfl

/-- Output files and images are told apart by the ends of their names. -/
theorem fileName_none_ne (context context' : Context) (number : String) :
    context.fileName none ≠ context'.fileName (some number) := by
  intro same
  obtain ⟨c, last, hc⟩ := context'.getLast?_fileName_some number
  rw [← same, getLast?_fileName_none] at last
  cases last
  exact absurd hc (by decide)

/-- Names of files of bare stems are plain. -/
theorem isPlain_fileName (bare : Config.isBareName context.stem = true)
    (hl : IsFileLabel label) : Path.IsPlain (context.fileName label) := by
  cases label with
  | none =>
    have parts : context.fileName none = context.stem ++ ("." ++ Xhtml.backend.extension) := by
      rw [fileName, String.append_assoc]
    rw [parts]
    exact isPlain_stem_append (c := 'x') bare (by decide) (by decide) (by decide) (by decide)
  | some number =>
    obtain ⟨n, hn⟩ := hl number rfl
    exact (context.document ⟨""⟩ [] 0).isPlain_imageName bare hn

/-- A name tells the stem and what the file is. -/
theorem fileName_inj (hl : IsFileLabel label) (hl' : IsFileLabel label')
    (h : context.fileName label = context'.fileName label') :
    context.stem = context'.stem ∧ label = label' := by
  cases label with
  | none =>
    cases label' with
    | none =>
      refine ⟨?_, rfl⟩
      simp only [fileName, String.append_assoc] at h
      have chars := congrArg String.toList h
      simp only [String.toList_append] at chars
      exact String.toList_inj.mp (List.append_cancel_right chars)
    | some number' => exact absurd h (fileName_none_ne _ _ _)
  | some number =>
    cases label' with
    | none => exact absurd h.symm (fileName_none_ne _ _ _)
    | some number' =>
      obtain ⟨n, hn⟩ := hl number rfl
      obtain ⟨n', hn'⟩ := hl' number' rfl
      have word (format : ImageFormat) : '.' ∉ format.extension.toList := by
        cases format <;> decide
      obtain ⟨stem, number, -⟩ := imageName_inj h hn hn' (word _) (word _)
      exact ⟨stem, congrArg some number⟩

/-- The names of the style sheets are plain, and none of them is the name of a file. -/
theorem isPlain_resource : ∀ resource ∈ Xhtml.backend.resources,
    Path.IsPlain resource.name ∧ resource.name.toList.getLast? = some 's' := by
  intro resource hr
  have listed : resource.name = "screen.css" ∨ resource.name = "print.css" := by
    revert resource
    decide
  rcases listed with hn | hn <;> rw [hn]
  · exact ⟨⟨by decide, by decide, by decide, by decide⟩, by decide⟩
  · exact ⟨⟨by decide, by decide, by decide, by decide⟩, by decide⟩

theorem fileName_ne_resource (context : Context) (label : Option String) {resource : Resource}
    (h : resource ∈ Xhtml.backend.resources) : context.fileName label ≠ resource.name := by
  intro same
  have sheet := (isPlain_resource resource h).2
  rw [← same] at sheet
  cases label with
  | none =>
    rw [getLast?_fileName_none] at sheet
    exact absurd sheet (by decide)
  | some number =>
    obtain ⟨c, last, hc⟩ := context.getLast?_fileName_some number
    rw [last] at sheet
    cases sheet
    exact absurd hc (by decide)

variable (context)

theorem fileName?_filePath (bare : Config.isBareName context.stem = true)
    (hl : IsFileLabel label) : (context.filePath label).fileName? = some (context.fileName label) :=
  context.directory.fileName?_join (isPlain_fileName bare hl)

/-- The name of a file that the path leads to tells the stem and what the file is. -/
theorem fileName?_filePath_inj (bare : Config.isBareName context.stem = true)
    (bare' : Config.isBareName context'.stem = true) (hl : IsFileLabel label)
    (hl' : IsFileLabel label')
    (h : (context.filePath label).fileName? = (context'.filePath label').fileName?) :
    context.stem = context'.stem ∧ label = label' := by
  rw [context.fileName?_filePath bare hl, context'.fileName?_filePath bare' hl'] at h
  exact fileName_inj hl hl' (Option.some.inj h)

theorem documentPath_eq : context.documentPath Xhtml.backend = context.filePath none := rfl

/-- A document of the context stores its images under the names of files of the context. -/
theorem imagePath_eq {d : Document} (settings : d.settings = context.settings)
    (directory : d.directory = context.directory) (stem : d.stem = context.stem)
    (number : String) : d.imagePath number = context.filePath (some number) := by
  rw [Document.imagePath, Document.imageName, settings, directory, stem, filePath, fileName]

end Context

end Manuscript

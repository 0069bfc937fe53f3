import Manuscript.Config.Basic
import Manuscript.Proofs.Document.Issuing
import Manuscript.Proofs.Storage.Naming

/-!
# Names of images

The name of an image tells the stem of its document and the number of its figure, whatever the stem
is: the last dot ends the number, and the last hyphen is the one in front of `figure`. The number of
a figure tells which float it is, with or without a letter behind.
-/

namespace Manuscript

/-! ### Number texts of figures -/

/-- The number text in the name of an image of float `n`: that of a figure, or that of one of the
sub-figures of a series. -/
inductive FigureNumber (n : Nat) : String → Prop where
  | figure : FigureNumber n (toString n)
  | subFigure {index : Nat} : index < Limit.maxSubFigures →
    FigureNumber n (subFigureNumber n index)

namespace FigureNumber

variable {n n' : Nat} {number : String}

/-- The letter of a sub-figure is a letter. -/
theorem isAlpha_letter :
    ∀ index < Limit.maxSubFigures, (Char.ofNat ('a'.toNat + index)).isAlpha = true := by
  decide

theorem isAlphanum_of_mem (h : FigureNumber n number) :
    ∀ c ∈ number.toList, c.isAlphanum = true := by
  have digits : ∀ c ∈ (toString n).toList, c.isAlphanum = true := fun c hc ↦ by
    rw [Char.isAlphanum, isDigit_of_mem_toString hc, Bool.or_true]
  cases h with
  | figure => exact digits
  | @subFigure index hi =>
    intro c hc
    rw [subFigureNumber, String.toList_append, String.toList_singleton, List.mem_append] at hc
    rcases hc with hc | hc
    · exact digits c hc
    · rw [List.mem_singleton.mp hc, Char.isAlphanum, isAlpha_letter index hi, Bool.true_or]

/-- The digits of the number text are those of the float. -/
theorem takeWhile_isDigit (h : FigureNumber n number) :
    number.toList.takeWhile Char.isDigit = (toString n).toList := by
  have whole (rest : List Char) (hr : rest.takeWhile Char.isDigit = []) :
      ((toString n).toList ++ rest).takeWhile Char.isDigit = (toString n).toList := by
    rw [List.takeWhile_append_of_pos fun c hc ↦ isDigit_of_mem_toString hc, hr, List.append_nil]
  cases h with
  | figure => simpa using whole [] rfl
  | @subFigure index hi =>
    have letter : ∀ index < Limit.maxSubFigures,
        [Char.ofNat ('a'.toNat + index)].takeWhile Char.isDigit = [] := by
      decide
    rw [subFigureNumber, String.toList_append, String.toList_singleton]
    exact whole _ (letter index hi)

/-- A number text belongs to one float. -/
theorem inj (h : FigureNumber n number) (h' : FigureNumber n' number) : n = n' := by
  apply toString_injective
  rw [← String.toList_inj, ← h.takeWhile_isDigit, ← h'.takeWhile_isDigit]

end FigureNumber

/-! ### Names of files -/

/-- What stands behind the last character of some sort is determined by the text. -/
theorem append_cons_inj_last {c : Char} {front front' back back' : List Char}
    (h : front ++ c :: back = front' ++ c :: back') (hb : c ∉ back) (hb' : c ∉ back') :
    front = front' ∧ back = back' := by
  have turned := congrArg List.reverse h
  simp only [List.reverse_append, List.reverse_cons, List.append_assoc,
    List.singleton_append] at turned
  obtain ⟨back, front⟩ := Markup.append_cons_inj turned (fun hm ↦ hb (List.mem_reverse.mp hm))
    fun hm ↦ hb' (List.mem_reverse.mp hm)
  exact ⟨List.reverse_inj.mp front, List.reverse_inj.mp back⟩

/-- The stem, the number and the extension are told by the name of an image. -/
theorem imageName_inj {stem stem' number number' ending ending' : String} {n n' : Nat}
    (h : stem ++ "-figure" ++ number ++ "." ++ ending =
      stem' ++ "-figure" ++ number' ++ "." ++ ending')
    (hn : FigureNumber n number) (hn' : FigureNumber n' number') (he : '.' ∉ ending.toList)
    (he' : '.' ∉ ending'.toList) : stem = stem' ∧ number = number' ∧ ending = ending' := by
  have word {n : Nat} {number : String} (hn : FigureNumber n number) :
      '-' ∉ "figure".toList ++ number.toList := by
    rw [List.mem_append]
    rintro (hm | hm)
    · revert hm
      decide
    · exact absurd (hn.isAlphanum_of_mem _ hm) (by decide)
  have parts (stem number ending : String) :
      (stem ++ "-figure" ++ number ++ "." ++ ending).toList =
        (stem.toList ++ '-' :: ("figure".toList ++ number.toList)) ++ '.' :: ending.toList := by
    simp only [String.toList_append, List.append_assoc]
    rfl
  have chars := congrArg String.toList h
  rw [parts, parts] at chars
  obtain ⟨front, ending⟩ := append_cons_inj_last chars he he'
  obtain ⟨stem, rest⟩ := append_cons_inj_last front (word hn) (word hn')
  exact ⟨String.toList_inj.mp stem, String.toList_inj.mp (List.append_cancel_left rest),
    String.toList_inj.mp ending⟩

theorem Config.isBareName_iff {stem : String} : Config.isBareName stem = true ↔
    '/' ∉ stem.toList ∧ '\\' ∉ stem.toList ∧ stem ≠ "." ∧ stem ≠ ".." := by
  have absent (c : Char) : (∀ x ∈ stem.toList, x ≠ c) ↔ c ∉ stem.toList :=
    ⟨fun h hm ↦ h c hm rfl, fun h x hx he ↦ h (he ▸ hx)⟩
  simp only [isBareName, List.any_eq_not_all_not, Bool.not_not, Bool.and_eq_true, List.all_eq_true,
    Bool.not_or, Bool.not_eq_eq_eq_not, Bool.not_true, beq_eq_false_iff_ne, bne_iff_ne, forall_and,
    absent, and_assoc]

/-- A bare stem with an ending that has a letter is a plain name. -/
theorem isPlain_stem_append {stem ending : String} {c : Char} (bare : Config.isBareName stem = true)
    (slash : '/' ∉ ending.toList) (backslash : '\\' ∉ ending.toList) (h : c ∈ ending.toList)
    (hc : c ≠ '.') : Path.IsPlain (stem ++ ending) := by
  obtain ⟨front, front', -, -⟩ := Config.isBareName_iff.mp bare
  have inside : c ∈ (stem ++ ending).toList := by
    rw [String.toList_append]
    exact List.mem_append_right _ h
  refine Path.isPlain_of_mem ?_ ?_ inside hc <;> rw [String.toList_append, List.mem_append]
  · exact not_or.mpr ⟨front, slash⟩
  · exact not_or.mpr ⟨front', backslash⟩

namespace Document

variable (d : Document)

/-- The path of an image file. -/
def imagePath (number : String) : Path := d.directory.join (d.imageName number)

theorem imageName_eq (number : String) : d.imageName number =
    d.stem ++ ("-figure" ++ number ++ "." ++ d.settings.format.extension) := by
  simp only [imageName, String.append_assoc]

/-- The extension of an image is a word. -/
theorem isAlpha_of_mem_extension (format : ImageFormat) :
    ∀ c ∈ format.extension.toList, c.isAlpha = true := by
  cases format <;> decide

/-- The name of an image of a document with a bare stem is plain. -/
theorem isPlain_imageName {n : Nat} {number : String} (bare : Config.isBareName d.stem = true)
    (hn : FigureNumber n number) : Path.IsPlain (d.imageName number) := by
  rw [imageName_eq]
  have absent (c : Char) (hf : c ∉ "-figure".toList) (hd : c ∉ ".".toList)
      (hc : c.isAlphanum = false) :
      c ∉ ("-figure" ++ number ++ "." ++ d.settings.format.extension).toList := by
    simp only [String.toList_append, List.mem_append, not_or]
    refine ⟨⟨⟨hf, fun hm ↦ ?_⟩, hd⟩, fun hm ↦ ?_⟩
    · rw [hn.isAlphanum_of_mem c hm] at hc
      cases hc
    · rw [Char.isAlphanum, isAlpha_of_mem_extension _ c hm] at hc
      cases hc
  refine isPlain_stem_append (c := 'f') bare (absent _ (by decide) (by decide) rfl)
    (absent _ (by decide) (by decide) rfl) ?_ (by decide)
  simp only [String.toList_append, List.mem_append]
  exact .inl (.inl (.inl (by decide)))

/-- Where the document lies and how it is set decides the paths of its images. -/
theorem imagePath_congr {d d' : Document} (h : d.origin = d'.origin) :
    d.imagePath = d'.imagePath := by
  simp only [origin, Prod.mk.injEq] at h
  funext number
  rw [imagePath, imagePath, imageName, imageName, h.1, h.2.1, h.2.2.1]

end Document

end Manuscript

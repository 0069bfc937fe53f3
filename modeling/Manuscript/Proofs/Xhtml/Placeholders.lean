import Manuscript.Proofs.Xhtml.Provenance

/-!
# Placeholders in a closed file

A placeholder gives way to an argument, or to nothing, wherever it was put, but in one place: the
caption of an image becomes its description too, and there the marker is taken for text and written
as a reference (`Session.gives_storeCanvas_reference`). Without such captions no reference to a
marker is in the file, if the caller handed in no marker (`Session.references_run`).
-/

namespace Manuscript

namespace Markup

variable {marks : Nat → Prop} {esc : Prop} {text name : String}

/-- A reference as it is written. -/
def referenceTo (name : String) : List Char := '&' :: name.toList ++ [';']

/-- Every ampersand in tidy markup begins a known reference, and one to a marker only if `esc`
holds. -/
theorem Tidy.exists_reference {rest : List Char} (h : Tidy marks esc text)
    (hr : '&' :: rest <:+ text.toList) :
    ∃ name ∈ referenceNames, (name ∈ markerNames → esc) ∧
      ∃ after, rest = name.toList ++ ';' :: after := by
  have inert : ∀ name ∈ referenceNames, '&' ∉ (Piece.reference name).render.tail := by decide
  obtain ⟨pieces, ht, hp⟩ := h
  have starts : ∀ piece ∈ pieces, piece ≠ .char '&' ∧ '&' ∉ piece.render.tail := by
    intro piece hm
    have tidy := ht piece hm
    cases piece with
    | char c => exact ⟨fun same ↦ tidy.1 (Piece.char.inj same), List.not_mem_nil⟩
    | reference name => exact ⟨nofun, inert name tidy.1⟩
  rw [← hp] at hr
  obtain ⟨name, after, hm, he⟩ := exists_reference_of_ampersand starts hr
  exact ⟨name, (ht _ hm).1, (ht _ hm).2, after, he⟩

/-- No reference to a marker is written in markup that holds none. -/
theorem Tidy.not_referenceTo (h : Tidy marks False text) (hn : name ∈ markerNames) :
    ¬ referenceTo name <:+: text.toList := by
  have known : markerNames ⊆ referenceNames := by decide
  rintro ⟨before, after, hw⟩
  have written : '&' :: (name.toList ++ ';' :: after) <:+ text.toList :=
    ⟨before, by rw [← hw]; simp [referenceTo]⟩
  obtain ⟨other, ho, free, behind, he⟩ := h.exists_reference written
  have same := (append_cons_inj he (semicolon_not_mem (known hn)) (semicolon_not_mem ho)).1
  exact free (String.toList_inj.mp same ▸ hn)

end Markup

namespace Session

open Action Markup Xhtml

/-- If the caller handed in no marker, and no image has a caption that holds one when its figure or
its series is ended, then no reference to a marker is in the file, whether the document is closed or
dropped: every placeholder has given way to an argument or to nothing. -/
theorem references_run (context used : Context) (serial : Nat) (files : FileSystem) (s : Session)
    (hs : context.createDocument backend serial files = .ok (s, used)) (calls : List Call)
    (hn : Marker.Free context.stem) (hc : ∀ call ∈ calls, ∀ text ∈ call.strings, Marker.Free text)
    (hd : ∀ before kind after state, calls = before ++ .endElement kind :: after →
      (s.run backend before).document.frames.topState? = some state → state.Described False) :
    ∀ final ∈ [(s.run backend calls).settle, ((s.run backend calls).close backend).2],
      ∃ text, final.node? s.document.place = some (.text text) ∧
        ∀ name ∈ markerNames, ¬ referenceTo name <:+: text.toList := by
  have tidy : (s.run backend calls).document.Tidy (.hygienic False) (Placed backend s calls) :=
    tidy_created hs hn hc fun before kind after state he _ ht ↦
      state.described_iff.mp (hd before kind after state he ht)
  intro final hf
  obtain ⟨text, file, clean⟩ := tidy_file hs calls tidy final hf
  exact ⟨text, file, fun _ ↦ Tidy.not_referenceTo clean⟩

/-- An image without a marker in its caption, in a macro that is invoked with an argument. -/
def imageCalls : List Call :=
  [.beginElement .header, .endElement .header, .beginElement .body,
    .beginElement (.macroDefinition (unary "m")), .beginElement (.figure none),
    .beginElement (.figureBody 1 1), .paint [], .endElement .figureBody, .beginElement .caption,
    .write "c", .endElement .caption, .endElement .figure, .beginElement (.macroParameter 0),
    .endElement .macroParameter, .endElement .macroDefinition,
    .beginElement (.macroInvocation (unary "m")), .beginElement (.macroParameter 0),
    .write "x", .endElement .macroParameter, .endElement .macroInvocation, .endElement .body]

/-- The placeholder behind the image leaves no reference. -/
theorem references_run_image :
    ∃ s used, (⟨⟨"/"⟩, "index", {}, false⟩ : Context).createDocument backend 0 {} = .ok (s, used) ∧
      ∃ text, ((s.run backend imageCalls).close backend).2.node? s.document.place =
        some (.text text) ∧ ∀ name ∈ markerNames, ¬ referenceTo name <:+: text.toList := by
  obtain ⟨s, used, made, described⟩ : ∃ s used,
      (⟨⟨"/"⟩, "index", {}, false⟩ : Context).createDocument backend 0 {} = .ok (s, used) ∧
      ∀ n < imageCalls.length,
        ∀ state ∈ (s.run backend (imageCalls.take n)).document.frames.topState?,
          state.Described False := ⟨_, _, rfl, by decide +kernel⟩
  have plain : ∀ call ∈ imageCalls, ∀ text ∈ call.strings, Plain text := by decide
  have file := references_run _ used 0 {} s made imageCalls (only_of_plain (by decide))
    (fun call hc text ht ↦ only_of_plain (plain call hc text ht))
    fun before kind after state he hs ↦
      described before.length (by rw [he]; simp) state (by rw [he, List.take_left]; exact hs)
  exact ⟨s, used, made, file _ (List.mem_cons_of_mem _ (List.mem_singleton_self _))⟩

/-! ### Captions of images -/

/-- A marker is no blank. -/
theorem mem_withoutOuterBlanks {text : String} {c : Char} (hc : c ∈ text.toList)
    (hb : isBlank c = false) : c ∈ (withoutOuterBlanks text).toList := by
  have kept {l : List Char} (hl : c ∈ l) : c ∈ l.dropWhile isBlank := by
    rw [← List.takeWhile_append_dropWhile (p := isBlank) (l := l), List.mem_append] at hl
    refine hl.resolve_left fun ht ↦ ?_
    rw [List.all_eq_true.mp List.all_takeWhile c ht] at hb
    cases hb
  rw [withoutOuterBlanks, String.toList_ofList, List.mem_reverse]
  exact kept (List.mem_reverse.mpr (kept hc))

theorem isBlank_of_index? {c : Char} {index : Nat} (h : Marker.index? c = some index) :
    isBlank c = false := by
  obtain ⟨code, small⟩ := Marker.toNat_of_index? h
  simp only [Marker.base, Marker.count] at code small
  simp only [isBlank, Bool.or_eq_false_iff, Bool.and_eq_false_iff, decide_eq_false_iff_not,
    beq_eq_false_iff_ne]
  omega

/-- Escaped text holds a reference for every marker. -/
theorem exists_infix_escape {text : String} {c : Char} {index : Nat} (hc : c ∈ text.toList)
    (hi : Marker.index? c = some index) :
    ∃ name ∈ markerNames, referenceTo name <:+: (escape text).toList := by
  have marked : ∀ entry ∈ escapes, (Marker.index? entry.1).isSome → entry.2 ∈ markerNames := by
    decide
  rcases escapeChar_cases c with ⟨name, listed, he⟩ | ⟨plain, _⟩
  · refine ⟨name, marked _ listed (by rw [hi]; rfl), ?_⟩
    obtain ⟨before, after, ht⟩ := List.append_of_mem hc
    rw [toList_escape, ht, List.flatMap_append, List.flatMap_cons, he]
    exact ⟨_, _, (List.append_assoc ..).trans rfl⟩
  · rw [plain.index?] at hi
    cases hi

/-- Where the caption of an image holds a marker, the image is written with a reference, and nothing
puts an argument in its place any more. -/
theorem gives_storeCanvas_reference (canvas : Canvas) (number : String) {caption : Passage}
    {c : Char} {index : Nat} (hc : c ∈ caption.text.toList) (hi : Marker.index? c = some index) :
    Gives (fun markup ↦ ∃ name ∈ markerNames, referenceTo name <:+: markup.toList)
      (storeCanvas backend canvas number caption) := by
  refine Gives.bind fun d ↦ Gives.bind fun _ ↦ Gives.bind fun _ ↦ gives_pure ?_
  obtain ⟨name, hn, inside⟩ :=
    exists_infix_escape (mem_withoutOuterBlanks hc (isBlank_of_index? hi)) hi
  let others : List Attribute :=
    [("width", toString canvas.width), ("height", toString canvas.height)]
  have described : (image (d.imageName number) (withoutOuterBlanks caption.text) canvas.width
      canvas.height).toList = ("<img" ++ attr "src" (d.imageName number) ++ " alt=\"").toList ++
        (escape (withoutOuterBlanks caption.text)).toList ++
          ("\"" ++ attributes others ++ "/>").toList := by
    simp [others, image, emptyTag, attributes, attr, String.join_cons]
  exact ⟨name, hn, inside.trans ⟨_, _, described.symm⟩⟩

end Session

end Manuscript

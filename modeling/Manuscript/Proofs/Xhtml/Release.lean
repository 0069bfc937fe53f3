import Manuscript.Proofs.Xhtml.Containment

/-!
# Ends stay in their zone

What an element has gathered and what was captured for it comes into the zone around it when it
ends. The markers of a definition end with it: its body becomes a template, and what an invocation
writes holds the markers of the arguments alone.
-/

namespace Manuscript

open Markup Xhtml

variable {O : Orthography} {P : Nat → Nat → Prop} {definition : Option (Nat × Macro.Signature)}

namespace Session

open Action

theorem fixed_toString (number : Nat) : Fixed (toString number) :=
  fixed_of_plain (plain_toString number)

theorem fixed_sectionNumber (path : List Nat) : Fixed (sectionNumber path) := by
  refine concatenative_fixed.intercalate (fixed_of_plain (by decide)) (List.forall₂_same.mpr ?_)
  exact List.forall_mem_map.mpr fun number _ ↦ fixed_toString number

theorem plain_letter {index : Nat} {letter : Char} (h : letter? index = some letter) :
    Plain (String.singleton letter) := by
  have each : ∀ i < Limit.maxSubFigures,
      Plain (String.singleton (Char.ofNat ('a'.toNat + i))) := by decide
  unfold letter? at h
  split at h
  · next hi => exact Option.some.inj h ▸ each index hi
  · cases h

theorem contained_closeHeader : Contained O P definition (closeHeader backend) :=
  confined_current fun _ hd ↦
    (contained_change fun _ he ↦ he.emit (tidy_information hd.tidy.head)).bind fun _ _ ↦
      contained_note fun _ ↦ rfl

theorem contained_writeEntries (number : Nat) {works : List CitedWork}
    (hk : ∀ work ∈ works, ∀ c ∈ work.key.toList, isNameChar c = true)
    (h : ∀ work ∈ works, work.record.entry.Admitted O) :
    Contained O P definition (writeEntries backend number works) := by
  induction works generalizing number with
  | nil => exact confined_pure trivial
  | cons work others ih =>
    rw [List.forall_mem_cons] at h hk
    refine Confined.bind (G := fun _ ↦ True) ?_ fun _ _ ↦ ih (number + 1) hk.2 h.2
    refine (contained_change fun _ hd ↦ hd.emit ?_).bind fun _ _ ↦
      (contained_change fun _ hd ↦ hd.appendPhrase h.1).bind fun _ _ ↦
        contained_change fun _ hd ↦ hd.emit (tidy_endTag (by decide))
    exact tidy_bibliographyEntryStart (O.source_plain (plain_of_isNameChar hk.1))

theorem contained_closeBody : Contained O P definition (closeBody backend) := by
  refine Confined.bind (G := fun _ ↦ True) (confined_current fun d hd ↦ ?_) fun _ _ ↦
    (contained_change fun _ he ↦ he.emit ?_).bind fun _ _ ↦
      contained_note fun _ ↦ rfl
  · dsimp only
    split
    · exact confined_pure trivial
    · refine (contained_change fun _ he ↦ he.emitLine tidy_bibliographyStart).bind fun _ _ ↦
        (contained_writeEntries 1 (fun work hw ↦ hd.tidy.keyed.names _ (List.mem_map_of_mem hw))
          hd.tidy.entries).bind fun _ _ ↦ contained_change fun _ he ↦ he.emit ?_
      exact (tidy_endTag (by decide)).append (tidy_endTag (by decide))
  · have newline : O.markup (Macro.zone P definition) "\n" := O.markup_plain (by decide)
    exact (((newline.append (tidy_endTag (by decide))).append newline).append
      (tidy_endTag (by decide))).append newline

theorem contained_closeSectionTitle {title : Passage}
    (h : title.Tidy O (Macro.zone P definition)) :
    Contained O P definition (closeSectionTitle backend title) := by
  refine confined_current fun d _ ↦ ?_
  split
  · exact (contained_resolve (fixed_sectionNumber _)).bind fun _ _ ↦ contained_change fun _ hd ↦
      hd.emitLine (tidy_sectionHeading _ (fixed_sectionNumber _) h.markup)
  · exact confined_pure trivial

theorem contained_closeTable {table : PendingTable} {body : Passage}
    (ht : table.Tidy O (Macro.zone P definition)) (hb : body.Tidy O (Macro.zone P definition)) :
    Contained O P definition (closeTable backend table body) :=
  Confined.bind (contained_note fun _ ↦ rfl) fun _ _ ↦
    confined_current fun _ _ ↦ (contained_resolve (fixed_toString _)).bind fun _ _ ↦
      contained_change fun _ hd ↦ hd.emitLine
        (tidy_table ⟨source_key _, ht.caption.markup⟩ ht.header ht.footer hb.markup)

theorem contained_closeEquation {label : Option Label} {body : Passage}
    (hb : body.Tidy O (Macro.zone P definition)) :
    Contained O P definition (closeEquation backend label body) :=
  Confined.bind (contained_note fun _ ↦ rfl) fun _ _ ↦
    confined_current fun _ _ ↦ (contained_resolve (fixed_toString _)).bind fun _ _ ↦
      contained_change fun _ hd ↦ hd.emitLine (tidy_equation _ (source_key _) hb.markup)

end Session

/-- The plain text of the caption becomes the description of an image, so it holds markers only if
`esc` holds. -/
def PendingFigure.Described (esc : Prop) (figure : PendingFigure) : Prop :=
  ∀ canvas, figure.content = .raster canvas → Marker.Only (fun _ ↦ esc) figure.caption.text

instance (figure : PendingFigure) : Decidable (figure.Described False) :=
  match hc : figure.content with
  | .raster canvas => decidable_of_iff (Marker.Free figure.caption.text)
    ⟨fun h _ _ ↦ h, fun h ↦ h canvas hc⟩
  | .empty | .markup _ => .isTrue fun canvas h ↦ by rw [hc] at h; cases h

/-- The images of a figure or of a figure series are described without markers, unless `esc`
holds. -/
def FrameState.Described (esc : Prop) : FrameState → Prop
  | figure f => f.Described esc
  | figureSeries s => ∀ f ∈ s.groups.flatten, f.Described esc
  | _ => True

instance (state : FrameState) : Decidable (state.Described False) :=
  match state with
  | .figure f => inferInstanceAs (Decidable (f.Described False))
  | .figureSeries s => inferInstanceAs (Decidable (∀ f ∈ s.groups.flatten, f.Described False))
  | .plain | .sect .. | .subFigure .. | .figureBody .. | .table .. | .tableRow .. | .tableCell ..
  | .equation .. | .mathOp .. | .macroDefinition .. | .macroInvocation .. | .argument ..
  | .styled .. | .list .. => .isTrue trivial

/-- What becomes the description of the image that a figure shows, if it shows one. -/
def PendingFigure.descriptions (figure : PendingFigure) : List String :=
  match figure.content with
  | .raster _ => [figure.caption.text]
  | _ => []

/-- What becomes the descriptions of the images of a figure or of a figure series. -/
def FrameState.descriptions : FrameState → List String
  | figure f => f.descriptions
  | figureSeries s => s.groups.flatten.flatMap PendingFigure.descriptions
  | _ => []

theorem PendingFigure.described_iff {esc : Prop} (figure : PendingFigure) :
    figure.Described esc ↔ (Orthography.hygienic esc).Admits figure.descriptions := by
  unfold Described descriptions
  cases figure.content with
  | raster canvas =>
    exact ⟨fun h ↦ List.forall_mem_singleton.mpr (h canvas rfl),
      fun h _ _ ↦ h _ List.mem_cons_self⟩
  | empty | markup => exact ⟨fun _ ↦ List.forall_mem_nil _, fun _ _ h ↦ by cases h⟩

theorem FrameState.described_iff {esc : Prop} (state : FrameState) :
    state.Described esc ↔ (Orthography.hygienic esc).Admits state.descriptions := by
  cases state with
  | figure f => exact f.described_iff
  | figureSeries s => exact (forall₂_congr fun f _ ↦ f.described_iff).trans admits_flatMap.symm
  | _ => exact iff_of_true trivial (List.forall_mem_nil _)

/-- A description is the plain text of a caption. -/
theorem PendingFigure.descriptions_subset (figure : PendingFigure) :
    figure.descriptions ⊆ figure.texts := by
  unfold descriptions
  split
  · exact List.cons_subset.mpr ⟨List.mem_append_left _ (by simp [Passage.texts]), List.nil_subset _⟩
  · exact List.nil_subset _

theorem FrameState.descriptions_subset (state : FrameState) : state.descriptions ⊆ state.texts := by
  cases state with
  | figure f => exact f.descriptions_subset
  | figureSeries s =>
    intro text ht
    obtain ⟨f, hf, ht⟩ := List.mem_flatMap.mp ht
    exact List.mem_append_right _ (List.mem_flatMap.mpr ⟨f, hf, f.descriptions_subset ht⟩)
  | _ => exact List.nil_subset _

namespace Session

open Action

theorem source_withoutOuterBlanks {text : String} (h : O.source text) :
    O.source (withoutOuterBlanks text) := by
  refine O.source_of_subset h fun c hc ↦ ?_
  rw [withoutOuterBlanks, String.toList_ofList, List.mem_reverse] at hc
  have hc := (List.dropWhile_suffix _).subset hc
  rw [List.mem_reverse] at hc
  exact (List.dropWhile_suffix _).subset hc

theorem confined_createPicture (path : Path) (picture : Picture) :
    Contained O P definition (createPicture path picture) := by
  intro s hs
  unfold createPicture
  rw [bind_get]
  cases s.files.create path (.picture picture) with
  | error error => exact hs
  | ok made => exact ⟨trivial, hs⟩

/-- What a figure shows is markup, or an image with a description that is written as text. -/
theorem confined_figureBody {figure : PendingFigure} {number : String}
    (h : figure.Tidy O (Macro.zone P definition)) (hd : O.Admits figure.descriptions)
    (hn : Plain number) :
    Confined O P definition (O.markup (Macro.zone P definition))
      (figureBody backend figure number) := by
  unfold figureBody
  split
  · exact confined_pure O.markup_empty
  · next markup hc => exact confined_pure (h.content markup hc)
  · next canvas hc =>
    have described : O.source figure.caption.text :=
      hd _ (by rw [PendingFigure.descriptions, hc]; exact List.mem_singleton_self _)
    refine confined_current fun d inside ↦ (confined_createPicture _ _).bind fun _ _ ↦
      Confined.bind (contained_note fun _ ↦ rfl) fun _ _ ↦
        confined_pure (tidy_image ?_ (source_withoutOuterBlanks described) _ _)
    have extension : Plain d.settings.format.extension := by
      cases d.settings.format <;> decide
    exact (((inside.tidy.stem.append (O.source_plain (by decide))).append (O.source_plain hn)).append
      (O.source_plain (by decide))).append (O.source_plain extension)

theorem contained_closeFigure {figure : PendingFigure}
    (h : figure.Tidy O (Macro.zone P definition)) (hd : O.Admits figure.descriptions) :
    Contained O P definition (closeFigure backend figure) :=
  Confined.bind (contained_note fun _ ↦ rfl) fun _ _ ↦
    confined_current fun _ _ ↦ (contained_resolve (fixed_toString _)).bind fun _ _ ↦
      (confined_figureBody h hd (plain_toString _)).bind fun _ hb ↦ contained_change fun _ he ↦
        he.emitLine (tidy_figure ⟨source_key _, h.caption.markup⟩ hb)

theorem confined_seriesCell (number index : Nat) {figure : PendingFigure}
    (h : figure.Tidy O (Macro.zone P definition)) (hd : O.Admits figure.descriptions) :
    Confined O P definition (O.markup (Macro.zone P definition))
      (seriesCell backend number index figure) := by
  unfold seriesCell
  split
  · exact confined_throw
  · next letter hl =>
    have plain := (plain_toString number).append (plain_letter hl)
    exact (contained_resolve (fixed_of_plain plain)).bind fun _ _ ↦
      (confined_figureBody h hd plain).bind fun _ hb ↦
        confined_pure (tidy_subFigure ⟨source_key _, h.caption.markup⟩ (plain_letter hl) hb)

theorem confined_seriesCells (number index : Nat) {figures : List PendingFigure}
    (h : ∀ figure ∈ figures, figure.Tidy O (Macro.zone P definition))
    (hd : ∀ figure ∈ figures, O.Admits figure.descriptions) :
    Confined O P definition
      (fun cells ↦ ∀ cell ∈ cells, O.markup (Macro.zone P definition) cell)
      (seriesCells backend number index figures) := by
  induction figures generalizing index with
  | nil => exact confined_pure (List.forall_mem_nil _)
  | cons figure others ih =>
    rw [List.forall_mem_cons] at h hd
    exact (confined_seriesCell number index h.1 hd.1).bind fun _ hc ↦
      (ih (index + 1) h.2 hd.2).bind fun _ hcs ↦ confined_pure (List.forall_mem_cons.mpr ⟨hc, hcs⟩)

theorem confined_seriesPages (number index : Nat) {groups : List (List PendingFigure)}
    (h : ∀ figure ∈ groups.flatten, figure.Tidy O (Macro.zone P definition))
    (hd : ∀ figure ∈ groups.flatten, O.Admits figure.descriptions) :
    Confined O P definition
      (fun pages ↦ ∀ page ∈ pages, ∀ cell ∈ page, O.markup (Macro.zone P definition) cell)
      (seriesPages backend number index groups) := by
  induction groups generalizing index with
  | nil => exact confined_pure (List.forall_mem_nil _)
  | cons group others ih =>
    rw [List.flatten_cons, List.forall_mem_append] at h hd
    exact (confined_seriesCells number index h.1 hd.1).bind fun _ hp ↦
      (ih _ h.2 hd.2).bind fun _ hps ↦ confined_pure (List.forall_mem_cons.mpr ⟨hp, hps⟩)

theorem contained_closeSeries {series : PendingSeries}
    (h : series.Tidy O (Macro.zone P definition))
    (hd : ∀ figure ∈ series.groups.flatten, O.Admits figure.descriptions) :
    Contained O P definition (closeSeries backend series) :=
  Confined.bind (contained_note fun _ ↦ rfl) fun _ _ ↦
    confined_current fun _ _ ↦ (contained_resolve (fixed_toString _)).bind fun _ _ ↦
      (confined_seriesPages _ 0 h.figures hd).bind fun _ hp ↦ contained_change fun _ he ↦
        he.emitLine (tidy_figureSeries _ ⟨source_key _, h.caption.markup⟩ hp)

theorem contained_closeMathOp (operator : Operator) {operands : List Passage}
    (h : ∀ operand ∈ operands, operand.Tidy O (Macro.zone P definition)) :
    Contained O P definition (closeMathOp backend operator operands) := by
  refine contained_refuse.bind fun _ _ ↦ contained_change fun _ hd ↦ hd.append ⟨?_, ?_⟩
  · exact tidy_formula operator (List.forall_mem_map.mpr fun operand ho ↦ (h operand ho).markup)
  · exact (O.concatenative_text _).plainText operator (List.forall₂_same.mpr
      (List.forall_mem_map.mpr fun operand ho ↦ (h operand ho).text))

/-- The markers of the body give way to the arguments. -/
theorem contained_closeInvocation {signature : Macro.Signature}
    {arguments : List (Option Passage)}
    (h : ∀ value, some value ∈ arguments → value.Tidy O (Macro.zone P definition)) :
    Contained O P definition (closeInvocation signature arguments) := by
  refine confined_current fun d hd ↦ ?_
  split
  · next found hf =>
    obtain ⟨entry, he, rfl⟩ := Option.map_eq_some_iff.mp hf
    obtain ⟨body, hb, tidy⟩ := hd.tidy.macros entry (List.mem_of_find?_eq_some he)
    rw [hb]
    refine contained_change fun _ hw ↦ hw.append
      ⟨O.markup_expand tidy.markup fun value hv ↦ ?_, O.text_expand tidy.text fun value hv ↦ ?_⟩ <;>
      obtain ⟨argument, ha, hm⟩ := List.mem_map.mp hv <;>
      obtain ⟨passage, rfl, rfl⟩ := Option.map_eq_some_iff.mp hm
    · exact (h passage ha).markup
    · exact (h passage ha).text
  · exact confined_pure trivial

/-- A title, an author or a date is kept as it is, so it must not lie in a definition. -/
theorem contained_closePlain {kind : Kind} {captured : Passage}
    (hc : captured.Tidy O (Macro.zone P definition))
    (hr : kind = .title ∨ kind = .author ∨ kind = .date → definition = none) :
    Contained O P definition (closePlain backend kind captured) := by
  have root (hd : definition = none) : captured.Tidy O (fun _ ↦ False) :=
    hc.mono fun _ ⟨_, _, hs, _⟩ ↦ by rw [hd] at hs; cases hs
  cases kind with
  | header => exact contained_closeHeader
  | title =>
    exact contained_change fun _ hd ↦ ⟨hd.tidy.takeTitle (root (hr (.inl rfl))), hd.definition_eq⟩
  | author =>
    exact contained_change fun _ hd ↦
      ⟨hd.tidy.takeAuthor (root (hr (.inr (.inl rfl)))), hd.definition_eq⟩
  | date =>
    exact contained_change fun _ hd ↦
      ⟨hd.tidy.takeDate (root (hr (.inr (.inr rfl)))), hd.definition_eq⟩
  | body => exact contained_closeBody
  | sectionTitle => exact contained_closeSectionTitle hc
  | sectionBody | tablePage =>
    exact contained_change fun _ hd ↦ hd.emitLine (tidy_endTag (by decide))
  | paragraph | inlineMath | mathName | item =>
    exact contained_change fun _ hd ↦ hd.emit (tidy_endTag (by decide))
  | caption => exact contained_change fun _ hd ↦ hd.offer (FrameState.takesTidy_caption hc)
  | tableHeader =>
    exact contained_change fun _ hd ↦ hd.offer (FrameState.takesTidy_tableHeader hc.markup)
  | tableFooter =>
    exact contained_change fun _ hd ↦ hd.offer (FrameState.takesTidy_tableFooter hc.markup)
  | mathOpParam => exact contained_change fun _ hd ↦ hd.offer (FrameState.takesTidy_operand hc)
  | _ => exact confined_pure trivial

end Session

/-- A title, an author and a date stand directly or indirectly in the header, and no definition is
open around that. -/
theorem Frame.StandsOn.innermostDefinition?_eq_none {frame : Frame} {outer : Frames}
    (h : frame.StandsOn outer) (ho : outer.Nested)
    (hk : frame.kind = .title ∨ frame.kind = .author ∨ frame.kind = .date) :
    outer.innermostDefinition? = none := by
  have header {frames : Frames} (hn : frames.Nested) (hk : frames.innermost = some .header) :
      frames.innermostDefinition? = none := by
    cases frames with
    | nil => rfl
    | cons top below =>
      have hk : top.kind = .header := Option.some.inj hk
      rw [Frames.innermostDefinition?_cons _
        (FrameState.ne_macroDefinition_of_suits hn.1.suits (by rw [hk]; decide))]
      obtain rfl := hn.1.eq_nil hk fun _ ↦ rfl
      rfl
  rcases hk with hk | hk | hk
  · exact header ho (h.innermost_eq hk rfl fun _ ↦ rfl)
  · have authors := h.innermost_eq hk rfl fun _ ↦ rfl
    cases outer with
    | nil => rfl
    | cons top below =>
      have hk : top.kind = .authors := Option.some.inj authors
      rw [Frames.innermostDefinition?_cons _
        (FrameState.ne_macroDefinition_of_suits ho.1.suits (by rw [hk]; decide))]
      exact header ho.2 (ho.1.innermost_eq hk rfl fun _ ↦ rfl)
  · exact header ho (h.innermost_eq hk rfl fun _ ↦ rfl)

/-- What the innermost element has held back lies in the zone of the element, as does what it has
gathered, and the document is tidy when the element has been taken off. -/
theorem Document.Tidy.pop {d : Document} {frame : Frame} {outer : Frames} (h : d.Tidy O P)
    (nested : d.Nested) (hf : d.frames = frame :: outer) :
    d.held.Tidy O (Macro.zone P (Frames.innermostDefinition? (frame :: outer))) ∧
      frame.state.Tidy O (Macro.zone P (Frames.innermostDefinition? (frame :: outer))) ∧
        d.pop.Tidy O P := by
  have zones := h.zones
  rw [hf] at zones
  generalize hs : d.output.captures = all at zones
  obtain ⟨hc, held, popped⟩ | ⟨rest, hc, ho, popped⟩ := nested.pop_cases hf
  · rw [held, popped]
    cases zones with
    | within _ _ state zones => exact ⟨.empty, state, { h with zones := hs ▸ zones }⟩
    | apart held => cases hc.symm.trans held
  · rw [popped]
    cases zones with
    | within free => cases hc.symm.trans free
    | apart _ state held zones =>
      obtain ⟨rfl, rfl⟩ := List.cons.inj (hs.symm.trans ho)
      exact ⟨held, state, { h with zones }⟩

namespace Session

open Action

variable {frame : Frame} {outer : Frames} {captured : Passage}

/-- What has been taken off lies in the zone around it, unless it was a definition. -/
theorem ensures_closeFrame_tidy (hn : frame.StandsOn outer) (ho : outer.Nested)
    (hs : frame.state.Tidy O (Macro.zone P (Frames.innermostDefinition? (frame :: outer))))
    (hc : captured.Tidy O (Macro.zone P (Frames.innermostDefinition? (frame :: outer))))
    (hd : O.Admits frame.state.descriptions) :
    Ensures (fun s ↦ s.document.frames = outer ∧ s.document.Tidy O P)
      (closeFrame backend frame captured) (fun _ s ↦ s.document.Tidy O P)
      fun _ s ↦ s.document.Tidy O P := by
  have contained {act : Action Unit} (h : Contained O P outer.innermostDefinition? act) :
      Ensures (fun s ↦ s.document.frames = outer ∧ s.document.Tidy O P) act
        (fun _ s ↦ s.document.Tidy O P) fun _ s ↦ s.document.Tidy O P :=
    h.mono (fun _ h ↦ ⟨h.2, h.1 ▸ rfl⟩) (fun _ _ h ↦ h.2.tidy) fun _ _ h ↦ h.tidy
  by_cases definition : ∃ signature, frame.state = .macroDefinition signature
  · obtain ⟨signature, state⟩ := definition
    unfold closeFrame
    rw [state]
    exact ensures_change fun s h ↦ h.2.define hc signature
  rw [Frames.innermostDefinition?_cons _ fun signature state ↦ definition ⟨signature, state⟩]
    at hs hc
  have root := hn.innermostDefinition?_eq_none ho
  have allowed := hn.allowed
  have suits := hn.suits
  obtain ⟨kind, held, state⟩ := frame
  cases state with
  | plain => exact contained (contained_closePlain hc root)
  | sect label path =>
    exact contained ((contained_resolve (fixed_sectionNumber path)).bind fun _ _ ↦
      contained_change fun _ h ↦ h.emitLine (tidy_endTag (by decide)))
  | figure figure => exact contained (contained_closeFigure hs hd)
  | subFigure figure =>
    obtain rfl : kind = .subFigure := eq_of_beq suits
    refine ensures_change fun s h ↦ ?_
    obtain ⟨rfl, tidy⟩ := h
    exact tidy.offerSeries ho (FrameState.takesTidy_subFigure hs) allowed
  | figureBody width height canvas =>
    refine contained (contained_change fun _ h ↦ h.offer (FrameState.takesTidy_figureBody ?_))
    intro markup hm
    unfold figureContent at hm
    split at hm
    · cases hm
    · split at hm
      · cases hm
      · cases hm
        exact hc.markup
  | figureSeries series => exact contained (contained_closeSeries hs (admits_flatMap.mp hd))
  | table table => exact contained (contained_closeTable hs hc)
  | tableRow => exact contained (contained_change fun _ h ↦ h.emit (tidy_endTag (by decide)))
  | tableCell header =>
    exact contained (contained_change fun _ h ↦ h.emit (tidy_endTag (plain_cellName header)))
  | equation label => exact contained (contained_closeEquation hc)
  | mathOp operator operands => exact contained (contained_closeMathOp operator hs)
  | macroDefinition signature => exact absurd ⟨signature, rfl⟩ definition
  | macroInvocation signature arguments => exact contained (contained_closeInvocation hs)
  | argument index =>
    exact contained (contained_change fun _ h ↦ h.offer (FrameState.takesTidy_argument hc))
  | styled style =>
    exact contained (contained_change fun _ h ↦ h.emit (tidy_endTag (plain_inlineName style)))
  | list ordered =>
    exact contained (contained_change fun _ h ↦ h.emitLine (tidy_endTag (plain_listName ordered)))

/-- The end of an element leaves the document tidy, also if it is refused. -/
theorem ensures_endElement_tidy (kind : Kind) :
    Ensures (fun s ↦ s.document.Tidy O P ∧ s.document.Nested ∧
        ∀ state, s.document.frames.topState? = some state → O.Admits state.descriptions)
      (endElement backend kind) (fun _ s ↦ s.document.Tidy O P)
      fun _ s ↦ s.document.Tidy O P := by
  refine ensures_of_forall fun s hs ↦ ?_
  obtain ⟨tidy, nested, described⟩ := hs
  refine ensures_end nested (fun _ ↦ tidy) fun frame outer hf _ ↦ ?_
  have frames := nested.frames
  rw [hf] at frames
  obtain ⟨held, state, popped⟩ := tidy.pop nested hf
  have top : s.document.frames.topState? = some frame.state := by
    rw [hf]
    rfl
  refine (ensures_closeFrame_tidy frames.1 frames.2 state held (described _ top)).mono ?_
    (fun _ _ ht ↦ ht.stream) fun _ _ ht ↦ ht
  rintro _ rfl
  exact ⟨Document.frames_pop hf, popped⟩

end Session

end Manuscript

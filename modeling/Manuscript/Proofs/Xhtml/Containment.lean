import Manuscript.Proofs.Document.Refusal
import Manuscript.Proofs.Document.Zones
import Manuscript.Proofs.Xhtml.Hygiene

/-!
# Actions stay in their zone

What an action writes and hands over lies in the zone of the innermost definition, and it neither
opens nor ends one (`Action.Confined`). Whatever is called in a tidy document leaves it tidy, also
if it is refused; only the marker of a placeholder has to be allowed for.
-/

namespace Manuscript

open Markup Xhtml

variable {O : Orthography} {P : Nat → Nat → Prop} {definition : Option (Nat × Macro.Signature)}

/-- The names of the authors are joined with plain text. -/
theorem Markup.Concatenative.byline {R : String → String → Prop} (hR : Concatenative R)
    {head : Head} {channel : Passage → String}
    (ha : ∀ author ∈ head.authors, R (channel author) (channel author)) :
    ∀ text ∈ head.byline channel, R text text := by
  intro text ht
  unfold Head.byline at ht
  split at ht
  · cases ht
  · cases ht
    exact hR.woven.andTexts (List.forall₂_same.mpr (List.forall_mem_map.mpr ha))

/-- Runs that are admitted are written as a passage that may stand anywhere. -/
theorem exists_passage_appendPhrase {phrase : Phrase} (h : phrase.Admitted O) :
    ∃ passage, (∀ d : Document, d.appendPhrase backend phrase = d.append passage) ∧
      ∀ marks, passage.Tidy O marks := by
  refine ⟨_, fun _ ↦ rfl, fun marks ↦ ?_⟩
  induction phrase with
  | nil => exact .empty
  | cons span phrase ih =>
    obtain ⟨hs, h⟩ := List.forall_mem_cons.mp h
    refine Passage.Tidy.append ?_ (ih h)
    cases span with
    | text s =>
      have hs := hs s List.mem_cons_self
      exact ⟨O.markup_escape hs, O.text_hide hs⟩
    | space =>
      have space : Plain Span.noBreakSpace := by decide
      exact ⟨O.markup_fixed fixed_noBreakSpace, O.text_plain space⟩
    | emphasized s =>
      have hs := hs s List.mem_cons_self
      exact ⟨((tidy_startTag (by decide) tidyItems_nil).append (O.markup_escape hs)).append
        (tidy_endTag (by decide)), O.text_hide hs⟩
    | link target s =>
      obtain ⟨ht, hs⟩ := admits_cons.mp hs
      have hs := hs s List.mem_cons_self
      exact ⟨tidy_link ht (O.markup_escape hs), O.text_hide hs⟩

/-- The document is tidy, and `definition` is the innermost definition in it. -/
structure Document.Within (O : Orthography) (P : Nat → Nat → Prop)
    (definition : Option (Nat × Macro.Signature)) (d : Document) : Prop where
  tidy : d.Tidy O P
  definition_eq : d.frames.innermostDefinition? = definition

/-- What a document holds, without its counters and how far it has come. -/
def Document.holdings (d : Document) :
    Frames × Output × Head × Macro.Library × Bibliography × Registry × String :=
  (d.frames, d.output, d.head, d.macros, d.bibliography, d.labels, d.stem)

namespace Document.Within

/-- Whether a document is tidy can be told from what it holds. -/
theorem congr {d e : Document} (h : d.Within O P definition) (he : e.holdings = d.holdings) :
    e.Within O P definition := by
  obtain ⟨tidy, hd⟩ := h
  simp only [holdings, Prod.mk.injEq] at he
  obtain ⟨frames, output, head, macros, bibliography, labels, stem⟩ := he
  exact ⟨⟨frames ▸ output ▸ tidy.zones, output ▸ tidy.streamed, output ▸ tidy.root,
    head ▸ tidy.head, macros ▸ tidy.macros, bibliography ▸ tidy.keyed, bibliography ▸ tidy.entries,
    labels ▸ tidy.numbers, stem ▸ tidy.stem⟩, frames ▸ hd⟩

variable {d : Document} {markup : String} {take : FrameState → Option FrameState}

theorem append {passage : Passage} (h : d.Within O P definition)
    (hp : passage.Tidy O (Macro.zone P definition)) :
    (d.append passage).Within O P definition :=
  ⟨h.tidy.append (h.definition_eq ▸ hp), h.definition_eq⟩

theorem emit (h : d.Within O P definition)
    (hm : O.markup (Macro.zone P definition) markup) :
    (d.emit markup).Within O P definition := h.append (.of_markup hm)

/-- The indentation is plain. -/
theorem emitLine (h : d.Within O P definition)
    (hm : O.markup (Macro.zone P definition) markup) :
    (d.emitLine markup).Within O P definition := by
  have blank : Plain d.lineBreak := by
    intro c hc
    unfold lineBreak at hc
    split at hc
    · rw [String.toList_ofList, List.mem_cons, List.mem_replicate] at hc
      rcases hc with rfl | ⟨_, rfl⟩ <;> decide
    · cases hc
  exact h.emit ((O.markup_plain blank).append hm)

theorem offer (h : d.Within O P definition)
    (ht : FrameState.TakesTidy O (Macro.zone P definition) take) :
    (d.offer take).Within O P definition :=
  ⟨h.tidy.offer (h.definition_eq ▸ ht),
    (innermostDefinition?_of_outline (outline_offer ht.keepsShape d)).trans h.definition_eq⟩

theorem stream (h : d.Within O P definition) : d.stream.Within O P definition :=
  ⟨h.tidy.stream, h.definition_eq⟩

theorem appendPhrase {phrase : Phrase} (h : d.Within O P definition) (hp : phrase.Admitted O) :
    (d.appendPhrase backend phrase).Within O P definition := by
  obtain ⟨passage, written, tidy⟩ := exists_passage_appendPhrase hp
  rw [written]
  exact h.append (tidy _)

end Document.Within

namespace Action

variable {α β : Type}

/-- The action leaves a tidy document tidy and in the zone that it is in, also if it is refused, and
every answer is good. -/
def Confined (O : Orthography) (P : Nat → Nat → Prop) (definition : Option (Nat × Macro.Signature))
    (good : α → Prop) (act : Action α) : Prop :=
  Ensures (·.document.Within O P definition) act
    (fun answer s ↦ good answer ∧ s.document.Within O P definition)
    fun _ s ↦ s.document.Within O P definition

/-- The action is confined, whatever its answer is. -/
abbrev Contained (O : Orthography) (P : Nat → Nat → Prop)
    (definition : Option (Nat × Macro.Signature)) (act : Action α) : Prop :=
  Confined O P definition (fun _ ↦ True) act

variable {G : α → Prop} {H : β → Prop} {act : Action α} {next : α → Action β}

theorem Confined.bind (first : Confined O P definition G act)
    (second : ∀ answer, G answer → Confined O P definition H (next answer)) :
    Confined O P definition H (act >>= next) :=
  Ensures.bind first fun answer ↦ ensures_of_imp fun hg ↦ second answer hg

theorem confined_pure {answer : α} (h : G answer) :
    Confined O P definition G (pure answer) := ensures_pure fun _ hs ↦ ⟨h, hs⟩

theorem confined_throw {error : DocumentError} :
    Confined O P definition G (throw error : Action α) := ensures_throw fun _ hs ↦ hs

theorem confined_current {next : Document → Action β}
    (h : ∀ d : Document, d.Within O P definition → Confined O P definition H (next d)) :
    Confined O P definition H (current >>= next) :=
  fun s hs ↦ h s.document hs s hs

theorem contained_change {f : Document → Document}
    (h : ∀ d : Document, d.Within O P definition → (f d).Within O P definition) :
    Contained O P definition (change f) := ensures_change fun s hs ↦ ⟨trivial, h s.document hs⟩

theorem contained_note {f : Document → Document} (h : ∀ d, (f d).holdings = d.holdings) :
    Contained O P definition (change f) := contained_change fun d hd ↦ hd.congr (h d)

theorem contained_refuse {reason : Option DocumentError} :
    Contained O P definition (refuse reason) :=
  ensures_refuse (fun _ _ hs ↦ ⟨trivial, hs⟩) fun _ _ _ hs ↦ hs

theorem contained_of_keeps (h : Keeps id act) : Contained O P definition act := by
  refine ensures_of_forall fun s hs ↦ (h s).mono (fun _ ht ↦ ht) (fun _ t ht ↦ ?_) fun _ t ht ↦ ?_
  · exact ⟨trivial, (show t = s from ht) ▸ hs⟩
  · exact (show t = s from ht) ▸ hs

/-- What the action takes note of has no part in the zones. -/
theorem contained_resolve {label : Option Label} {number : String} (h : Fixed number) :
    Contained O P definition (resolve label number) := by
  cases label with
  | none => exact confined_pure trivial
  | some label =>
    refine confined_current fun d _ ↦ contained_refuse.bind fun _ _ ↦ contained_change fun e he ↦
      ⟨he.tidy.relabel fun _ _ hn ↦ ?_, he.definition_eq⟩
    cases hn
    exact O.source_fixed h

theorem contained_attach {kind : Kind} {label : Option Label} :
    Contained O P definition (attach kind label) := by
  cases label with
  | none => exact confined_pure trivial
  | some label =>
    exact confined_current fun d _ ↦ contained_refuse.bind fun _ _ ↦ contained_change fun e he ↦
      ⟨he.tidy.relabel fun _ _ hn ↦ (by cases hn), he.definition_eq⟩

end Action

namespace Session

open Action

variable {good : FrameState → Prop}

/-! ### Beginning an element -/

/-- A state that holds nothing yet. -/
abbrev Blank (O : Orthography) (state : FrameState) : Prop := state.Tidy O (fun _ ↦ False)

theorem confined_startLine {markup : String} {state : FrameState} (hs : good state)
    (h : O.markup (Macro.zone P definition) markup) :
    Confined O P definition good (startLine markup state) :=
  (contained_change fun _ hd ↦ hd.emitLine h).bind fun _ _ ↦ confined_pure hs

theorem confined_startInline {markup : String} {state : FrameState} (hs : good state)
    (h : O.markup (Macro.zone P definition) markup) :
    Confined O P definition good (startInline markup state) :=
  (contained_change fun _ hd ↦ hd.emit h).bind fun _ _ ↦ confined_pure hs

/-- The anchor of an element is the key of its label. -/
theorem source_key (label : Option Label) :
    ∀ id ∈ label.map Label.key, O.source id := by
  intro id hi
  obtain ⟨label, _, rfl⟩ := Option.map_eq_some_iff.mp hi
  exact O.source_plain (plain_of_isNameChar label.isNameChar_of_mem_key)

variable {marks : Nat → Prop} {head : Head}

theorem tidy_titles (h : head.Tidy O) : O.markup marks
    (titleBlock (head.title.map Passage.markup) (head.byline Passage.markup)
      (head.date.map Passage.markup)) := by
  have kept {passage : Passage} (hp : passage.Tidy O (fun _ ↦ False)) :
      O.markup marks passage.markup := hp.markup.mono fun _ ↦ False.elim
  refine tidy_titleBlock (fun text ht ↦ ?_)
    ((O.concatenative_markup marks).byline fun author ha ↦ kept (h.authors author ha))
      fun text ht ↦ ?_
  · obtain ⟨title, hm, rfl⟩ := Option.map_eq_some_iff.mp ht
    exact kept (h.title title hm)
  · obtain ⟨date, hm, rfl⟩ := Option.map_eq_some_iff.mp ht
    exact kept (h.date date hm)

theorem tidy_information (h : head.Tidy O) : O.markup marks
    (Xhtml.head (head.title.map Passage.text) (head.byline Passage.text)
      (head.date.map Passage.text)) := by
  have kept {passage : Passage} (hp : passage.Tidy O (fun _ ↦ False)) :
      O.source passage.text := O.source_of_text hp.text
  refine tidy_head (fun text ht ↦ ?_)
    (O.concatenative_source.byline fun author ha ↦ kept (h.authors author ha)) fun text ht ↦ ?_
  · obtain ⟨title, hm, rfl⟩ := Option.map_eq_some_iff.mp ht
    exact kept (h.title title hm)
  · obtain ⟨date, hm, rfl⟩ := Option.map_eq_some_iff.mp ht
    exact kept (h.date date hm)

theorem confined_startHeader : Confined O P definition (Blank O) (startHeader backend) :=
  (contained_change fun d hd ↦ Document.Within.emit (d := { d with phase := .header })
    ⟨{ hd.tidy with }, hd.definition_eq⟩ tidy_documentStart).bind fun _ _ ↦ confined_pure trivial

theorem confined_startBody : Confined O P definition (Blank O) (startBody backend) := by
  refine (contained_change fun d hd ↦ Document.Within.emit (d := { d with phase := .body })
    ⟨{ hd.tidy with }, hd.definition_eq⟩ (.append (.append ?_ ?_) ?_)).bind fun _ _ ↦
      confined_pure trivial
  · exact O.markup_plain (by decide)
  · exact tidy_startTag (by decide) tidyItems_nil
  · exact tidy_titles hd.tidy.head

theorem confined_startSection (label : Option Label) :
    Confined O P definition (Blank O) (startSection backend label) := by
  refine confined_current fun d _ ↦ ?_
  dsimp only
  split
  · exact confined_throw
  · refine (contained_change fun e he ↦ Document.Within.emitLine (d := { e with
      sectionPath := Document.nextSectionPath d.sectionPath (d.frames.sectionDepth + 1)
      sections := e.sections + 1 }) ⟨{ he.tidy with }, he.definition_eq⟩ ?_).bind fun _ _ ↦
        confined_pure trivial
    exact tidy_sectionStart (source_key label)

theorem confined_startFigureBody (width height : Float) :
    Confined O P definition (Blank O) (startFigureBody width height) := by
  have side (millimetres : Float) : Contained O P definition (side millimetres) :=
    contained_of_keeps (keeps_side millimetres)
  exact (side width).bind fun _ _ ↦ (side height).bind fun _ _ ↦ confined_pure trivial

theorem confined_startSeries (label : Option Label) (columns : Nat) :
    Confined O P definition (Blank O) (startSeries label columns) := by
  unfold startSeries
  split
  · exact confined_throw
  · exact confined_pure ⟨.empty, List.forall_mem_nil _⟩

theorem confined_startPage : Confined O P definition (Blank O) startPage :=
  (contained_change fun _ hd ↦ hd.offer FrameState.takesTidy_page).bind fun _ _ ↦
    confined_pure trivial

theorem confined_startSubFigure (label : Option Label) :
    Confined O P definition (Blank O) (startSubFigure label) := by
  refine confined_current fun d _ ↦ ?_
  split
  · exact confined_throw
  · exact confined_pure ⟨fun _ hc ↦ (by cases hc), .empty⟩

theorem confined_startCell (span : Nat) (align : Option Alignment) :
    Confined O P definition (Blank O) (startCell backend span align) :=
  confined_current fun _ _ ↦ (contained_change fun _ hd ↦
    hd.offer (FrameState.takesTidy_advance _)).bind fun _ _ ↦
      confined_startInline trivial (tidy_cellStart _ _ _)

theorem confined_startState (element : Element) :
    Confined O P definition (Blank O) (startState backend element) := by
  cases element with
  | header => exact confined_startHeader
  | body => exact confined_startBody
  | sect label => exact confined_startSection label
  | sectionBody =>
    exact confined_startLine trivial (tidy_startTag (by decide) (tidyItems_classed (by decide)))
  | paragraph | item | tablePage =>
    exact confined_startLine trivial (tidy_startTag (by decide) tidyItems_nil)
  | figure label => exact confined_pure ⟨fun _ hc ↦ (by cases hc), .empty⟩
  | figureBody width height => exact confined_startFigureBody width height
  | figureSeries label columns => exact confined_startSeries label columns
  | figureSeriesPage => exact confined_startPage
  | subFigure label => exact confined_startSubFigure label
  | table label columns =>
    exact confined_pure ⟨.empty, fun _ hr ↦ (by cases hr), fun _ hr ↦ (by cases hr)⟩
  | tableRow =>
    exact confined_current fun d _ ↦
      confined_startLine trivial (tidy_startTag (by decide) tidyItems_nil)
  | tableCell span align => exact confined_startCell span align
  | inlineMath | mathName =>
    exact confined_startInline trivial (tidy_startTag (by decide) (tidyItems_classed (by decide)))
  | mathOp operator => exact confined_pure (List.forall_mem_nil _)
  | macroInvocation signature =>
    exact confined_pure fun value hv ↦ (by cases List.eq_of_mem_replicate hv)
  | styled style =>
    exact confined_startInline trivial
      (tidy_startTag (plain_inlineName style) (tidyItems_inline style))
  | list ordered =>
    exact confined_startLine trivial (tidy_startTag (plain_listName ordered) tidyItems_nil)
  | _ => exact confined_pure trivial

/-- A placeholder writes a marker of the innermost definition, which has to be allowed for; an
argument writes none. -/
theorem ensures_startParameter_within (index : Nat) (d : Document)
    (hm : (∀ signature arguments,
        d.frames.topState? ≠ some (.macroInvocation signature arguments)) →
      ∀ height signature, definition = some (height, signature) → P height index) :
    Ensures (fun s ↦ s.document = d ∧ s.document.Within O P definition) (startParameter index)
      (fun answer s ↦ Blank O answer.1 ∧ s.document.Within O P definition) fun _ _ ↦ True := by
  refine ensures_current fun e ↦ ensures_of_forall fun s hs ↦ ?_
  obtain ⟨⟨rfl, hs⟩, rfl⟩ := hs
  have confined {act : Action (FrameState × Bool)}
      (h : Confined O P definition (fun answer ↦ Blank O answer.1) act) :
      Ensures (· = s) act (fun answer t ↦ Blank O answer.1 ∧ t.document.Within O P definition)
        fun _ _ ↦ True :=
    h.mono (fun _ ht ↦ ht ▸ hs) (fun _ _ ht ↦ ht) fun _ _ _ ↦ trivial
  split
  · exact confined (contained_refuse.bind fun _ _ ↦ confined_pure trivial)
  · next top =>
    split
    · exact confined confined_throw
    · next signature hd =>
      have zone : ∃ height, definition = some (height, signature) := by
        rw [Frames.definition?_eq, hs.definition_eq] at hd
        obtain ⟨⟨height, _⟩, rfl, rfl⟩ := Option.map_eq_some_iff.mp hd
        exact ⟨height, rfl⟩
      obtain ⟨height, zone⟩ := zone
      refine Ensures.through (fun _ t ↦ index < signature.arity ∧ t = s)
        (ensures_refuse (fun hp _ ht ↦ ⟨parameterError_eq_none.mp hp, ht⟩) fun _ _ _ _ ↦ trivial)
        fun _ ↦ ensures_of_imp fun hi ↦
          confined (Confined.bind (G := fun _ ↦ True) ?_ fun _ _ ↦ confined_pure trivial)
      unfold writeMarker
      split
      · next marker hc =>
        have marked : Macro.zone P definition index :=
          ⟨height, signature, zone, hi, hm top height signature zone⟩
        have tidy : O.markup (Macro.zone P definition) (String.singleton marker) :=
          O.markup_marker hc marked
        exact contained_change fun _ hd ↦ hd.append ⟨tidy, tidy.text⟩
      · exact confined_pure trivial

theorem ensures_start_within (element : Element) (d : Document)
    (hm : ∀ index, element = .macroParameter index →
      (∀ signature arguments, d.frames.topState? ≠ some (.macroInvocation signature arguments)) →
        ∀ height signature, definition = some (height, signature) → P height index) :
    Ensures (fun s ↦ s.document = d ∧ s.document.Within O P definition) (start backend element)
      (fun answer s ↦ Blank O answer.1 ∧ s.document.Within O P definition) fun _ _ ↦ True := by
  by_cases hp : element.kind = .macroParameter
  · obtain ⟨index, rfl⟩ := eq_macroParameter_of_kind hp
    exact ensures_startParameter_within index d (hm index rfl)
  · rw [start_eq backend hp]
    have started : Confined O P definition (fun answer : FrameState × Bool ↦ Blank O answer.1)
        (do return (← startState backend element, element.kind.captures)) :=
      Confined.bind (confined_startState element) fun _ blank ↦ confined_pure blank
    exact started.mono (fun _ hs ↦ hs.2) (fun _ _ ht ↦ ht) fun _ _ _ ↦ trivial

/-- An element that is begun leaves the document tidy if the marker of a placeholder is allowed
for. -/
theorem ensures_beginElement_tidy (element : Element) (d : Document)
    (hm : ∀ index, element = .macroParameter index →
      (∀ signature arguments, d.frames.topState? ≠ some (.macroInvocation signature arguments)) →
        ∀ height signature, d.frames.innermostDefinition? = some (height, signature) →
          P height index) :
    Ensures (fun s ↦ s.document = d ∧ s.document.Tidy O P ∧ s.document.Nested)
      (beginElement backend element) (fun _ s ↦ s.document.Tidy O P) fun _ _ ↦ True := by
  refine ensures_of_forall fun s hs ↦ ?_
  obtain ⟨rfl, tidy, nested⟩ := hs
  have inside : s.document.Within O P s.document.frames.innermostDefinition? := ⟨tidy, rfl⟩
  refine ensures_begin (fun answer t ↦
    Frame.StandsOn ⟨element.kind, answer.2, answer.1⟩ s.document.frames ∧ Blank O answer.1 ∧
      t.document.Within O P s.document.frames.innermostDefinition?) (fun _ ↦ trivial)
    (fun fits ↦ ?_) fun _ answer ↦ ensures_of_imp fun stands ↦ ensures_of_imp fun blank ↦ ?_
  · have within := ensures_start_within (O := O) element s.document hm
    refine ((ensures_start backend element s).and within).mono (fun _ ht ↦ ?_) (fun _ _ ht ↦ ?_)
      fun _ _ _ ↦ trivial
    · subst ht
      exact ⟨rfl, rfl, inside⟩
    · obtain ⟨⟨_, _, start, _⟩, blank⟩ := ht
      exact ⟨start.standsOn nested fits.allowed, blank⟩
  refine contained_attach.mono (fun _ ht ↦ ht) (fun _ t ht ↦ ?_) fun _ _ _ ↦ trivial
  refine ht.2.tidy.push blank fun signature hs ↦ ?_
  -- A frame with the state of a definition is one, and what is in a definition is captured.
  have suits := stands.suits
  dsimp only at hs suits
  rw [hs] at suits
  have hk : element.kind = .macroDefinition := eq_of_beq suits
  exact (stands.captured (by dsimp only; rw [hk]; decide)).trans (by dsimp only; rw [hk]; rfl)

end Session

end Manuscript

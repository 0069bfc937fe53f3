import Manuscript.Proofs.Document.Refusal
import Manuscript.Proofs.Xhtml.Printing

/-!
# How elements are closed

The end of an element closes what its start has opened, and writes the identifiers that it has
held. What was captured for the element is written as it is, kept, or lost.
-/

namespace Manuscript

open Markup Xhtml

/-! ### What is handed to the element around -/

namespace FrameState

variable {loose : String → Prop}

theorem takes_caption {caption : Passage} (h : Closed loose caption.markup []) :
    Takes loose [] (takeCaption? caption) where
  keepsShape := keepsShape_takeCaption? caption
  held state next ht := by
    cases state <;> simp_all only [takeCaption?, Option.some.injEq, reduceCtorEq] <;>
      (cases ht; exact .of_perm (.of_eq (List.append_nil _).symm))
  sound state next ht hs := by
    cases state <;> simp_all only [takeCaption?, Option.some.injEq, reduceCtorEq] <;> cases ht
    · exact { hs with caption := h }
    · exact { hs with caption := h }
    · exact { hs with caption := h }
    · exact { hs with caption := h }

theorem takes_figureBody {content : FigureContent}
    (h : ∀ markup, content = .markup markup → Closed loose markup []) :
    Takes loose [] (takeFigureBody? content) where
  keepsShape := keepsShape_takeFigureBody? content
  held state next ht := by
    cases state <;> simp_all only [takeFigureBody?, Option.some.injEq, reduceCtorEq] <;>
      (cases ht; exact .of_perm (.of_eq (List.append_nil _).symm))
  sound state next ht hs := by
    cases state <;> simp_all only [takeFigureBody?, Option.some.injEq, reduceCtorEq] <;> cases ht
    · exact { hs with content := h }
    · exact { hs with content := h }

/-- Rows go behind those that a table has already. -/
theorem closed_getD_append {rows : Option String} {more : String}
    (hr : ∀ text ∈ rows, Closed loose text []) (hm : Closed loose more []) :
    Closed loose (rows.getD "" ++ more) [] := by
  cases rows with
  | none => exact closed_empty.append hm
  | some rows => exact (hr rows rfl).append hm

theorem takes_tableHeader {rows : String} (h : Closed loose rows []) :
    Takes loose [] (takeTableHeader? rows) where
  keepsShape := keepsShape_takeTableHeader? rows
  held state next ht := by
    cases state <;> simp_all only [takeTableHeader?, Option.some.injEq, reduceCtorEq]
    cases ht
    exact .of_perm (.of_eq (List.append_nil _).symm)
  sound state next ht hs := by
    cases state <;> simp_all only [takeTableHeader?, Option.some.injEq, reduceCtorEq]
    cases ht
    refine { hs with header := fun text hm ↦ ?_ }
    cases hm
    exact closed_getD_append hs.header h

theorem takes_tableFooter {rows : String} (h : Closed loose rows []) :
    Takes loose [] (takeTableFooter? rows) where
  keepsShape := keepsShape_takeTableFooter? rows
  held state next ht := by
    cases state <;> simp_all only [takeTableFooter?, Option.some.injEq, reduceCtorEq]
    cases ht
    exact .of_perm (.of_eq (List.append_nil _).symm)
  sound state next ht hs := by
    cases state <;> simp_all only [takeTableFooter?, Option.some.injEq, reduceCtorEq]
    cases ht
    refine { hs with footer := fun text hm ↦ ?_ }
    cases hm
    exact closed_getD_append hs.footer h

theorem takes_operand {operand : Passage} (h : Closed loose operand.markup []) :
    Takes loose [] (takeOperand? operand) where
  keepsShape := keepsShape_takeOperand? operand
  held state next ht := by
    cases state <;> simp_all only [takeOperand?, Option.some.injEq, reduceCtorEq]
    cases ht
    exact .refl _
  sound state next ht hs := by
    cases state <;> simp_all only [takeOperand?, Option.some.injEq, reduceCtorEq]
    cases ht
    exact List.forall_mem_append.mpr ⟨hs, List.forall_mem_singleton.mpr h⟩

theorem takes_argument {index : Nat} {value : Passage} (h : Closed loose value.markup []) :
    Takes loose [] (takeArgument? index value) where
  keepsShape := keepsShape_takeArgument? index value
  held state next ht := by
    cases state <;> simp_all only [takeArgument?, reduceCtorEq]
    split at ht
    · cases ht
      exact .refl _
    · cases ht
  sound state next ht hs := by
    cases state <;> simp_all only [takeArgument?, reduceCtorEq]
    split at ht
    · cases ht
      intro other hm
      rcases List.mem_or_eq_of_mem_set hm with hm | hm
      · exact hs other hm
      · cases hm
        exact h
    · cases ht

/-- A series takes over the identifier of a sub-figure. -/
theorem takes_subFigure {figure : PendingFigure} (h : figure.Sound loose) :
    Takes loose figure.held (takeSubFigure? figure) where
  keepsShape := keepsShape_takeSubFigure? figure
  held state next ht := by
    cases state <;> simp_all only [takeSubFigure?, Option.some.injEq, reduceCtorEq]
    cases ht
    refine .of_perm (.of_eq ?_)
    simp [FrameState.held, PendingSeries.held, PendingSeries.groups, PendingSeries.add]
  sound state next ht hs := by
    cases state <;> simp_all only [takeSubFigure?, Option.some.injEq, reduceCtorEq]
    next series =>
      cases ht
      refine ⟨hs.caption, fun other ho ↦ ?_⟩
      have hm : other ∈ series.groups.flatten ∨ other = figure := by
        simpa [PendingSeries.groups, PendingSeries.add, or_assoc] using ho
      rcases hm with hm | rfl
      · exact hs.figures other hm
      · exact h

theorem takes_paint (fills : List Fill) : Takes loose [] (takePaint? fills) where
  keepsShape := keepsShape_takePaint? fills
  held state next ht := by
    cases state <;> simp_all only [takePaint?, Option.some.injEq, reduceCtorEq]
    cases ht
    exact .refl _
  sound state next ht hs := by
    cases state <;> simp_all only [takePaint?, Option.some.injEq, reduceCtorEq]
    cases ht
    trivial

end FrameState

namespace Session

open Action

variable {loose : String → Prop} {pending : List String} {captured : Passage}

/-! ### Sections, tables and equations -/

theorem closed_sectionNumber (path : List Nat) : Closed loose (sectionNumber path) [] := by
  refine closed_intercalate (closed_text (by decide)) fun text ht ↦ ?_
  obtain ⟨number, _, rfl⟩ := List.mem_map.mp ht
  exact closed_toString number

theorem finishes_closeSectionTitle (h : Closed loose captured.markup []) :
    Finishes loose [] [] (closeSectionTitle backend captured) := by
  refine prints_current fun d _ ↦ ?_
  split
  · exact (spares_resolve _ _).bind fun _ _ ↦
      prints_emitLine (closed_sectionHeading _ (closed_sectionNumber _) h)
  · exact prints_pure trivial rfl rfl

theorem finishes_closeTable {table : PendingTable} (ht : table.Sound loose)
    (h : Closed loose captured.markup []) :
    Finishes loose [] (anchorOf table.label) (closeTable backend table captured) := by
  refine Prints.bind (prints_note fun _ ↦ rfl) fun _ _ ↦ prints_current fun d _ ↦
    (spares_resolve _ _).bind fun _ _ ↦ prints_emitLine ?_
  rw [← escaped_anchor]
  exact closed_table ⟨d.tables, table.label.map Label.key, table.caption.markup⟩ ht.caption
    ht.header ht.footer h

theorem finishes_closeEquation (label : Option Label) (h : Closed loose captured.markup []) :
    Finishes loose [] (anchorOf label) (closeEquation backend label captured) := by
  refine Prints.bind (prints_note fun _ ↦ rfl) fun _ _ ↦ prints_current fun d _ ↦
    (spares_resolve _ _).bind fun _ _ ↦ prints_emitLine ?_
  rw [← escaped_anchor]
  exact closed_equation d.equations _ h

/-! ### Figures -/

theorem spares_figureBody {figure : PendingFigure} (h : figure.Sound loose) (number : String) :
    Spares loose pending (figureBody backend figure number) (Closed loose · []) := by
  unfold figureBody
  split
  · exact prints_pure closed_empty rfl rfl
  · next markup hm => exact prints_pure (h.content markup hm) rfl rfl
  · exact prints_current fun _ _ ↦ (spares_createPicture _ _).bind fun _ _ ↦
      Prints.bind (prints_note fun _ ↦ rfl) fun _ _ ↦
        prints_pure (closed_image _ _ _ _) rfl rfl

theorem finishes_closeFigure {figure : PendingFigure} (h : figure.Sound loose) :
    Finishes loose [] figure.held (closeFigure backend figure) := by
  refine Prints.bind (prints_note fun _ ↦ rfl) fun _ _ ↦ prints_current fun d _ ↦
    (spares_resolve _ _).bind fun _ _ ↦ (spares_figureBody h _).bind fun body hb ↦
      prints_emitLine ?_
  rw [PendingFigure.held, ← escaped_anchor]
  exact closed_figure ⟨d.figures, figure.label.map Label.key, figure.caption.markup⟩ h.caption hb

theorem letter?_ne {index : Nat} {letter : Char} (h : letter? index = some letter) :
    letter ≠ '<' ∧ letter ≠ '&' := by
  have apart : ∀ index < Limit.maxSubFigures,
      Char.ofNat ('a'.toNat + index) ≠ '<' ∧ Char.ofNat ('a'.toNat + index) ≠ '&' := by decide
  unfold letter? at h
  split at h
  · next hi => exact Option.some.inj h ▸ apart index hi
  · cases h

theorem spares_seriesCell (number index : Nat) {figure : PendingFigure} (h : figure.Sound loose) :
    Spares loose pending (seriesCell backend number index figure)
      (Closed loose · figure.held) := by
  unfold seriesCell
  split
  · exact prints_throw
  · next letter hl =>
    refine (spares_resolve _ _).bind fun _ _ ↦ (spares_figureBody h _).bind fun body hb ↦
      prints_pure ?_ rfl rfl
    rw [PendingFigure.held, ← escaped_anchor]
    exact closed_subFigure ⟨number, figure.label.map Label.key, figure.caption.markup⟩
      (letter?_ne hl) h.caption hb

theorem spares_seriesCells (number index : Nat) {figures : List PendingFigure}
    (h : ∀ figure ∈ figures, figure.Sound loose) :
    Spares loose pending (seriesCells backend number index figures)
      (ClosedAll loose · (figures.flatMap PendingFigure.held)) := by
  induction figures generalizing index with
  | nil => exact prints_pure .nil rfl rfl
  | cons figure others ih =>
    rw [List.forall_mem_cons] at h
    exact (spares_seriesCell number index h.1).bind fun cell hc ↦
      (ih (index + 1) h.2).bind fun cells hcs ↦ prints_pure (.cons hc hcs) rfl rfl

theorem spares_seriesPages (number index : Nat) {groups : List (List PendingFigure)}
    (h : ∀ figure ∈ groups.flatten, figure.Sound loose) :
    Spares loose pending (seriesPages backend number index groups)
      fun pages ↦ ClosedAll loose pages.flatten (groups.flatten.flatMap PendingFigure.held) := by
  induction groups generalizing index with
  | nil => exact prints_pure .nil rfl rfl
  | cons group others ih =>
    rw [List.flatten_cons, List.forall_mem_append] at h
    refine (spares_seriesCells number index h.1).bind fun cells hc ↦
      (ih _ h.2).bind fun pages hp ↦ prints_pure ?_ rfl rfl
    rw [List.flatten_cons, List.flatten_cons, List.flatMap_append]
    exact hc.append hp

theorem finishes_closeSeries {series : PendingSeries} (h : series.Sound loose) :
    Finishes loose [] series.held (closeSeries backend series) := by
  refine Prints.bind (prints_note fun _ ↦ rfl) fun _ _ ↦ prints_current fun d _ ↦
    (spares_resolve _ _).bind fun _ _ ↦ (spares_seriesPages _ _ h.figures).bind fun pages hp ↦
      prints_emitLine ?_
  rw [PendingSeries.held, ← escaped_anchor]
  exact closed_figureSeries ⟨d.figures, series.label.map Label.key, series.caption.markup⟩
    series.columns h.caption hp

/-! ### Formulas and macros -/

theorem finishes_closeMathOp (operator : Operator) {operands : List Passage}
    (h : ∀ operand ∈ operands, Closed loose operand.markup []) :
    Finishes loose [] [] (closeMathOp backend operator operands) := by
  refine spares_refuse.bind fun _ _ ↦ prints_bare fun _ _ ↦
    closed_formula (fun text ht ↦ ?_) operator
  obtain ⟨operand, hm, rfl⟩ := List.mem_map.mp ht
  exact h operand hm

theorem finishes_closeInvocation (signature : Macro.Signature) {arguments : List (Option Passage)}
    (h : ∀ value, some value ∈ arguments → Closed loose value.markup []) :
    Finishes loose [] [] (closeInvocation signature arguments) := by
  refine prints_current fun d hm ↦ ?_
  split
  · next definition hd =>
    obtain ⟨entry, he, rfl⟩ := Option.map_eq_some_iff.mp hd
    obtain ⟨body, hb, hc⟩ := hm entry (List.mem_of_find?_eq_some he)
    refine prints_bare fun _ _ ↦ ?_
    rw [hb]
    refine Leads.expand hc fun text ht ↦ ?_
    obtain ⟨argument, ha, hv⟩ := List.mem_map.mp ht
    obtain ⟨value, rfl, rfl⟩ := Option.map_eq_some_iff.mp hv
    exact h value ha
  · exact prints_pure trivial rfl rfl

/-! ### Elements that gather nothing -/

/-- What the header says is kept. -/
theorem finishes_keepHead {f : Head → Head}
    (h : ∀ head : Head, head.Sound loose → (f head).Sound loose) :
    Finishes loose [] [] (change fun d ↦ { d with head := f d.head }) :=
  fun _ _ ↦ ensures_change fun _ hs ↦
    ⟨trivial, { hs.1 with head := h _ hs.1.head }, hs.2⟩

theorem finishes_closePlain {kind : Kind} (hh : kind ≠ .header) (hb : kind ≠ .body)
    (h : Closed loose captured.markup []) :
    Finishes loose (FrameState.plain.tags kind) [] (closePlain backend kind captured) := by
  cases kind with
  | header => exact absurd rfl hh
  | body => exact absurd rfl hb
  | title =>
    exact finishes_keepHead (f := fun head ↦ { head with title := some captured }) fun head hs ↦
      { hs with title := fun title ht ↦ Option.some.inj ht ▸ h }
  | author =>
    refine finishes_keepHead (f := fun head ↦ { head with authors := head.authors ++ [captured] })
      fun head hs ↦ { hs with authors := ?_ }
    exact List.forall_mem_append.mpr ⟨hs.authors, List.forall_mem_singleton.mpr h⟩
  | date =>
    exact finishes_keepHead (f := fun head ↦ { head with date := some captured }) fun head hs ↦
      { hs with date := fun date hd ↦ Option.some.inj hd ▸ h }
  | sectionTitle => exact finishes_closeSectionTitle h
  | sectionBody | tablePage => exact prints_emitLine (leads_endTag (by decide) [])
  | paragraph | inlineMath | mathName | item =>
    exact prints_bare fun _ _ ↦ leads_endTag (by decide) []
  | caption => exact prints_offer (FrameState.takes_caption h)
  | tableHeader => exact prints_offer (FrameState.takes_tableHeader h)
  | tableFooter => exact prints_offer (FrameState.takes_tableFooter h)
  | mathOpParam => exact prints_offer (FrameState.takes_operand h)
  | _ => exact prints_pure trivial rfl rfl

/-! ### All elements -/

/-- Every element but four closes what it has opened, and is refused with nothing left open. The
header and the body change the phase, a section must know its label, and a definition may end where
nothing may be written. -/
theorem finishes_closeFrame {frame : Frame} (hh : frame.kind ≠ .header) (hb : frame.kind ≠ .body)
    (hl : ∀ label path, frame.state ≠ .sect label path)
    (hd : ∀ signature, frame.state ≠ .macroDefinition signature) (hs : frame.state.Sound loose)
    (h : Closed loose captured.markup []) :
    Finishes loose frame.tags frame.held (closeFrame backend frame captured) := by
  obtain ⟨kind, held, state⟩ := frame
  cases state with
  | plain => exact finishes_closePlain hh hb h
  | sect label path => exact absurd rfl (hl label path)
  | figure figure => exact finishes_closeFigure hs
  | subFigure figure =>
    have taken : Prints loose [] (figure.held ++ []) _ _ _ _ :=
      prints_offerSeries (FrameState.takes_subFigure hs)
    rwa [List.append_nil] at taken
  | figureBody width height canvas =>
    refine prints_offer (FrameState.takes_figureBody fun markup hm ↦ ?_)
    unfold figureContent at hm
    split at hm
    · cases hm
    · split at hm
      · cases hm
      · cases hm
        exact h
  | figureSeries series => exact finishes_closeSeries hs
  | table table => exact finishes_closeTable hs h
  | tableRow => exact prints_bare fun _ _ ↦ leads_endTag (by decide) []
  | tableCell header => exact prints_bare fun _ _ ↦ leads_endTag (isName_cellName header) []
  | equation label => exact finishes_closeEquation label h
  | mathOp operator operands => exact finishes_closeMathOp operator hs
  | macroDefinition signature => exact absurd rfl (hd signature)
  | macroInvocation signature arguments => exact finishes_closeInvocation signature hs
  | argument index => exact prints_offer (FrameState.takes_argument h)
  | styled style => exact prints_bare fun _ _ ↦ leads_endTag (isName_inlineName style) []
  | list ordered => exact prints_emitLine (leads_endTag (isName_listName ordered) [])

variable {budget : List String} {phase : Phase}

/-- A section whose label is known is never refused, so its end is always written. -/
theorem ensures_closeSection (label : Option Label) (path : List Nat) :
    Ensures (fun s ↦ (∀ l ∈ label, s.document.labels.fault l = none) ∧
        s.document.Legible loose budget phase ["div"] [] ∧ s.document.Writable)
      (closeSection backend label path)
      (fun _ s ↦ s.document.Legible loose budget phase [] []) fun _ _ ↦ False := by
  refine Ensures.through (fun _ s ↦ s.document.Legible loose budget phase ["div"] [] ∧
    s.document.Writable) ?_ fun _ ↦ ensures_change fun _ hs ↦ ?_
  · cases label with
    | none => exact ensures_pure fun _ hs ↦ hs.2
    | some label =>
      refine ensures_current fun d ↦ Ensures.through (fun _ s ↦
        s.document.Legible loose budget phase ["div"] [] ∧ s.document.Writable)
        (ensures_refuse (fun _ _ hs ↦ hs.1.2) fun error he s hs ↦ ?_) fun _ ↦
          ensures_change fun s hs ↦ ⟨hs.1.of_sight rfl, hs.2⟩
      obtain ⟨hs, rfl⟩ := hs
      rw [hs.1 label rfl] at he
      cases he
  · have ended : Leads loose (endTag "div") ["div"] [] [] := leads_endTag (by decide) []
    exact Document.Legible.emitLine (show Document.Legible loose budget phase ["div"] ([] ++ []) _
      from hs.1) hs.2 ended

/-- The body of a macro is kept. -/
theorem ensures_closeDefinition (signature : Macro.Signature)
    (h : Closed loose captured.markup []) :
    Ensures (fun s ↦ s.document.Legible loose budget phase [] [])
      (change (Document.closeDefinition signature captured))
      (fun _ s ↦ s.document.Legible loose budget phase [] []) fun _ _ ↦ False := by
  refine ensures_change fun s hs ↦ { hs with macros := fun entry he ↦ ?_ }
  rcases List.mem_cons.mp he with rfl | he
  · exact ⟨captured.markup, rfl, h⟩
  · exact hs.macros entry (List.mem_filter.mp he).1

/-- The rest of the head ends the header. -/
theorem ensures_closeHeader :
    Ensures (fun s ↦ s.document.Legible loose budget .header ["head"] []) (closeHeader backend)
      (fun _ s ↦ s.document.Legible loose budget .headerDone [] []) fun _ _ ↦ False := by
  refine ensures_current fun d ↦ Ensures.through (fun _ s ↦
    s.document.Legible loose budget .header [] []) (ensures_change fun s hs ↦ ?_) fun _ ↦
      ensures_change fun s hs ↦ hs.turn (by decide) (by decide) rfl
  exact Document.Legible.append (show Document.Legible loose budget .header ["head"] ([] ++ []) _
    from hs.1) (fun _ hp ↦ by cases hp.symm.trans hs.1.phase_eq) (leads_head _ _ _)

/-! ### The reference list -/

/-- An entry writes its key. -/
theorem prints_writeEntry (work : CitedWork) (number : Nat) (opened : List String) :
    Prints loose opened ([escape work.key] ++ pending) (writeEntry backend work number)
      (fun _ ↦ opened) (fun _ ↦ pending) fun _ ↦ True :=
  Prints.bind (prints_emit ((leads_entryStart work.key).frame opened)) fun _ _ ↦
    Prints.bind (prints_appendPhrase _) fun _ _ ↦
      prints_bare fun _ _ ↦ leads_endTag (by decide) opened

theorem prints_writeEntries (number : Nat) (works : List CitedWork) (opened : List String) :
    Prints loose opened (works.map (escape ·.key) ++ pending) (writeEntries backend number works)
      (fun _ ↦ opened) (fun _ ↦ pending) fun _ ↦ True := by
  induction works generalizing number with
  | nil => exact prints_pure trivial rfl rfl
  | cons work others ih =>
    exact Prints.bind (prints_writeEntry work number opened) fun _ _ ↦ ih (number + 1)

theorem certain_writeEntries (number : Nat) (works : List CitedWork) :
    Certain (writeEntries backend number works) := by
  induction works generalizing number with
  | nil => exact certain_pure
  | cons work others ih =>
    exact Certain.bind (certain_change.bind fun _ ↦ certain_change.bind fun _ ↦ certain_change)
      fun _ ↦ ih (number + 1)

theorem certain_writeReferences : Certain (writeReferences backend) := by
  refine certain_current fun d ↦ ?_
  dsimp only
  split
  · exact certain_pure
  · exact certain_change.bind fun _ ↦ (certain_writeEntries _ _).bind fun _ ↦ certain_change

/-- The reference list writes the keys of all works. -/
private theorem ensures_writeReferences (works : List CitedWork) :
    Ensures (fun s ↦ (s.document.Legible loose budget .body ["body"] (works.map (escape ·.key)) ∧
        s.document.Writable) ∧ s.document.bibliography.works = works)
      (writeReferences backend)
      (fun _ s ↦ s.document.Legible loose budget .body ["body"] []) fun _ _ ↦ True := by
  refine ensures_current fun d s hs ↦ ?_
  obtain ⟨⟨hs, rfl⟩, rfl⟩ := hs
  have written : Prints loose ["body"] (s.document.bibliography.works.map (escape ·.key))
      (if s.document.bibliography.works.isEmpty then pure () else do
        change (·.emitLine backend.bibliographyStart)
        writeEntries backend 1 s.document.bibliography.works
        change (·.emit backend.bibliographyEnd)) (fun _ ↦ ["body"]) (fun _ ↦ []) fun _ ↦ True := by
    split
    · next he =>
      rw [List.isEmpty_iff] at he
      exact prints_pure trivial rfl (by rw [he]; rfl)
    · have entries : Prints loose ["ol", "div", "body"]
          (s.document.bibliography.works.map (escape ·.key) ++ []) _ _ _ _ :=
        prints_writeEntries 1 s.document.bibliography.works ["ol", "div", "body"]
      rw [List.append_nil] at entries
      exact Prints.bind (prints_line_bare (leads_bibliographyStart.frame ["body"])) fun _ _ ↦
        entries.bind fun _ _ ↦ prints_bare fun _ _ ↦ leads_bibliographyEnd.frame ["body"]
  exact (written budget .body).mono (fun _ h ↦ h) (fun _ _ h ↦ h.2.1) (fun _ _ _ ↦ trivial) s hs

/-- The end of the body writes the reference list, whose keys come into the budget. -/
theorem ensures_closeBody (works : List CitedWork) :
    Ensures (fun s ↦ s.document.frames = [] ∧ s.document.bibliography.works = works ∧
        s.document.Legible loose budget .body ["body"] [])
      (closeBody backend)
      (fun _ s ↦ s.document.Legible loose (budget ++ works.map (escape ·.key)) .done [] [])
      fun _ _ ↦ False := by
  have references : Ensures (fun s ↦ ((s.document.Legible loose
        (budget ++ works.map (escape ·.key)) .body ["body"] (works.map (escape ·.key)) ∧
        s.document.Writable) ∧ s.document.bibliography.works = works) ∧
        s.document.outline.1 = [])
      (writeReferences backend)
      (fun _ s ↦ s.document.Legible loose (budget ++ works.map (escape ·.key)) .body ["body"] [] ∧
        s.document.outline.1 = []) fun _ _ ↦ False := by
    have kept := (composed_writeReferences backend).keeps.comp (·.1.outline.1) []
    exact (((ensures_writeReferences works).and kept).and certain_writeReferences).mono
      (fun _ hs ↦ ⟨hs, trivial⟩) (fun _ _ hs ↦ hs.1) fun _ _ hf ↦ hf.2
  refine Ensures.bind (references.mono (fun s hs ↦ ?_) (fun _ _ hs ↦ hs) fun _ _ hf ↦ hf)
    fun _ ↦ Ensures.through (fun _ s ↦ ∃ d : Document, d.frames = [] ∧
      d.Legible loose (budget ++ works.map (escape ·.key)) .body ["body"] [] ∧
      s.document = d.emit backend.bodyEnd) (ensures_change fun s hs ↦ ?_) fun _ ↦
        ensures_change fun s hs ↦ ?_
  · obtain ⟨hf, hw, hs⟩ := hs
    have granted := hs.grant (fun hc ↦ absurd (hs.bottom hf).1 hc)
      (.refl (budget ++ works.map (escape ·.key)))
    have shape : s.document.outline.1 = [] := congrArg Frames.shape hf
    exact ⟨⟨⟨granted, fun _ hp ↦ by cases hp.symm.trans hs.phase_eq⟩, hw⟩, shape⟩
  · exact ⟨s.document, List.map_eq_nil_iff.mp hs.2, hs.1, rfl⟩
  · obtain ⟨d, hf, hd, he⟩ := hs
    have finished := hd.finish hf
    rw [← he] at finished
    exact finished

end Session

end Manuscript

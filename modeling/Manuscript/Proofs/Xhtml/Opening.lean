import Manuscript.Proofs.Prose.Series
import Manuscript.Proofs.Xhtml.Printing

/-!
# How elements are opened

The start of an element opens what the frame of the element says, and writes the identifier of a
section; every other identifier waits for the end of its element.
-/

namespace Manuscript

open Markup Xhtml

namespace Session

open Action

variable {loose : String → Prop} {markup : String} {state : FrameState} {kind : Kind}

/-- The start of an element leaves open what the element has opened then, and leaves to be written
what the element will write. -/
abbrev Starts (loose : String → Prop) (kind : Kind) (pending : List String)
    (act : Action FrameState) : Prop :=
  Prints loose [] pending act (FrameState.tags kind) FrameState.held (FrameState.Sound loose)

theorem starts_pure {pending : List String} (hs : state.Sound loose) (ht : state.tags kind = [])
    (hh : state.held = pending) : Starts loose kind pending (pure state) := prints_pure hs ht hh

theorem starts_line (h : Leads loose markup [] (state.tags kind) []) (hs : state.Sound loose)
    (hh : state.held = []) : Starts loose kind [] (startLine markup state) :=
  (prints_emitLine h).bind fun _ _ ↦ prints_pure hs rfl hh

theorem starts_inline (h : Leads loose markup [] (state.tags kind) []) (hs : state.Sound loose)
    (hh : state.held = []) : Starts loose kind [] (startInline markup state) :=
  Prints.bind (prints_bare fun _ _ ↦ h) fun _ _ ↦ prints_pure hs rfl hh

theorem starts_section (label : Option Label) :
    Starts loose .sect (anchorOf label) (startSection backend label) := by
  refine prints_current fun d _ ↦ ?_
  dsimp only
  split
  · exact prints_throw
  · have start : Leads loose
        (startTag "div" (classed "section" ++ identified (label.map Label.key))) [] ["div"]
        (anchorOf label) := escaped_anchor label ▸ leads_sectionStart _
    refine Prints.bind (Prints.comp (f := fun e ↦ { e with
      sectionPath := Document.nextSectionPath d.sectionPath (d.frames.sectionDepth + 1)
      sections := e.sections + 1 }) (prints_note fun _ ↦ rfl) (prints_emitLine start)) fun _ _ ↦ ?_
    exact prints_pure trivial rfl rfl

theorem spares_side (millimetres : Float) :
    Spares loose [] (side millimetres) fun _ ↦ True := by
  refine prints_current fun d _ ↦ ?_
  split
  · exact prints_pure trivial rfl rfl
  · exact prints_throw

theorem takes_turnPage : FrameState.Takes loose [] FrameState.turnPage? where
  keepsShape := FrameState.keepsShape_turnPage?
  held state next h := by
    cases state <;> simp_all only [FrameState.turnPage?, Option.some.injEq, reduceCtorEq]
    next series =>
      cases h
      refine .of_perm ?_
      simp only [FrameState.held, PendingSeries.held, PendingSeries.turn, PendingSeries.groups]
      split
      · simp
      · simp
  sound state next h hs := by
    cases state <;> simp_all only [FrameState.turnPage?, Option.some.injEq, reduceCtorEq]
    next series =>
      cases h
      simp only [FrameState.Sound, PendingSeries.turn] at hs ⊢
      split
      · exact hs
      · refine ⟨hs.caption, fun figure hf ↦ hs.figures figure ?_⟩
        simpa [PendingSeries.groups] using hf

theorem takes_advance (columns : Nat) :
    FrameState.Takes loose [] (FrameState.advance? columns) where
  keepsShape := FrameState.keepsShape_advance? columns
  held state next h := by
    cases state <;> simp_all only [FrameState.advance?, Option.some.injEq, reduceCtorEq]
    cases h
    exact .refl _
  sound state next h _ := by
    cases state <;> simp_all only [FrameState.advance?, Option.some.injEq, reduceCtorEq]
    cases h
    trivial

theorem starts_cell (span : Nat) (align : Option Alignment) :
    Starts loose .tableCell [] (startCell backend span align) := by
  refine prints_current fun d _ ↦ ?_
  dsimp only
  refine Prints.bind (prints_offer (takes_advance _)) fun _ _ ↦ ?_
  exact starts_inline (leads_cellStart _ _ _) trivial rfl

theorem starts_figureBody (width height : Float) :
    Starts loose .figureBody [] (startFigureBody width height) :=
  (spares_side width).bind fun _ _ ↦ (spares_side height).bind fun _ _ ↦ starts_pure trivial rfl rfl

theorem starts_series (label : Option Label) (columns : Nat) :
    Starts loose .figureSeries (anchorOf label) (startSeries label columns) := by
  unfold startSeries
  split
  · exact prints_throw
  · refine starts_pure ⟨closed_empty, fun figure hf ↦ by cases hf⟩ rfl ?_
    exact List.append_nil _

theorem starts_subFigure (label : Option Label) :
    Starts loose .subFigure (anchorOf label) (startSubFigure label) := by
  refine prints_current fun d _ ↦ ?_
  split
  · exact prints_throw
  · exact starts_pure ⟨nofun, closed_empty⟩ rfl rfl

/-- Every element but the header and the body starts without a change of phase. -/
theorem starts_startState (element : Element) (hh : element.kind ≠ .header)
    (hb : element.kind ≠ .body) :
    Starts loose element.kind (anchorOf element.label?) (startState backend element) := by
  cases element with
  | header => exact absurd rfl hh
  | body => exact absurd rfl hb
  | sect label => exact starts_section label
  | sectionBody => exact starts_line (leads_startTag (by decide) (by simp) []) trivial rfl
  | paragraph | tablePage | item =>
    exact starts_line (leads_startTag (by decide) (by simp) []) trivial rfl
  | figure label => exact starts_pure ⟨nofun, closed_empty⟩ rfl rfl
  | figureBody width height => exact starts_figureBody width height
  | figureSeries label columns => exact starts_series label columns
  | figureSeriesPage =>
    exact Prints.bind (prints_offer takes_turnPage) fun _ _ ↦ starts_pure trivial rfl rfl
  | subFigure label => exact starts_subFigure label
  | table label columns => exact starts_pure ⟨closed_empty, nofun, nofun⟩ rfl rfl
  | tableRow =>
    exact prints_current fun _ _ ↦
      starts_line (leads_startTag (by decide) (by simp) []) trivial rfl
  | tableCell span align => exact starts_cell span align
  | equation label => exact starts_pure trivial rfl rfl
  | inlineMath | mathName =>
    exact starts_inline (leads_startTag (by decide) (by simp) []) trivial rfl
  | mathOp operator => exact starts_pure (List.forall_mem_nil _) rfl rfl
  | macroDefinition signature => exact starts_pure trivial rfl rfl
  | macroInvocation signature =>
    refine starts_pure (fun value hm ↦ ?_) rfl rfl
    cases (List.mem_replicate.mp hm).2
  | styled style => exact starts_inline (leads_inlineStart style) trivial rfl
  | list ordered =>
    exact starts_line (leads_startTag (isName_listName ordered) namesValid_nil []) trivial rfl
  | title | authors | author | date | sectionTitle | caption | tableHeader | tableFooter
  | mathOpParam | macroParameter _ => exact starts_pure trivial rfl rfl

/-- A marker is text. -/
theorem closed_marker {index : Nat} {marker : Char} (h : Marker.char? index = some marker) :
    Closed loose (String.singleton marker) [] := by
  have apart : ∀ index < Marker.count,
      Char.ofNat (Marker.base + index) ≠ '<' ∧ Char.ofNat (Marker.base + index) ≠ '&' := by decide
  refine closed_text fun c hc ↦ ?_
  rw [String.toList_singleton, List.mem_singleton] at hc
  rw [hc]
  unfold Marker.char? at h
  split at h
  · next hi => exact Option.some.inj h ▸ apart index hi
  · cases h

/-- A macro parameter starts with nothing or with its marker. -/
theorem prints_startParameter (index : Nat) :
    Prints loose [] [] (startParameter index) (fun answer ↦ answer.1.tags .macroParameter)
      (fun answer ↦ answer.1.held) fun answer ↦ answer.1.Sound loose := by
  refine prints_current fun d _ ↦ ?_
  split
  · exact Prints.bind spares_refuse fun _ _ ↦ prints_pure trivial rfl rfl
  · split
    · exact prints_throw
    · have marked : Spares loose [] (writeMarker index) fun _ ↦ True := by
        unfold writeMarker
        split
        · next hm => exact prints_bare fun _ _ ↦ closed_marker hm
        · exact prints_pure trivial rfl rfl
      exact Prints.bind spares_refuse fun _ _ ↦ marked.bind fun _ _ ↦ prints_pure trivial rfl rfl

/-- Every element but the header and the body starts without a change of phase. -/
theorem prints_start (element : Element) (hh : element.kind ≠ .header) (hb : element.kind ≠ .body) :
    Prints loose [] (anchorOf element.label?) (start backend element)
      (fun answer ↦ answer.1.tags element.kind) (fun answer ↦ answer.1.held)
      fun answer ↦ answer.1.Sound loose := by
  by_cases hp : element.kind = .macroParameter
  · obtain ⟨index, rfl⟩ := eq_macroParameter_of_kind hp
    exact prints_startParameter index
  · rw [start_eq backend hp]
    exact (starts_startState element hh hb).bind fun state sound ↦ prints_pure sound rfl rfl

/-! ### The header and the body -/

variable {budget : List String}

/-- The names of the authors are joined with text. -/
theorem closed_byline {head : Head} (h : head.Sound loose) :
    ∀ text ∈ head.byline Passage.markup, Closed loose text [] := by
  intro text ht
  unfold Head.byline at ht
  split at ht
  · cases ht
  · cases ht
    refine (closedAll_of_forall fun text ht ↦ ?_).join
    obtain ⟨span, hs, rfl⟩ := List.mem_map.mp ht
    rw [Series.andTexts_eq] at hs
    rcases Series.mem_join hs with ⟨item, hm, hi⟩ | hj
    · obtain ⟨name, hn, rfl⟩ := List.mem_map.mp hm
      obtain ⟨author, ha, rfl⟩ := List.mem_map.mp hn
      rw [List.mem_singleton.mp hi]
      exact h.authors author ha
    · have plain : ∀ span ∈ Series.joints, ∀ c ∈ span.plain.toList, c ≠ '<' ∧ c ≠ '&' := by decide
      exact closed_text (plain span hj)

/-- The header starts the document. -/
theorem ensures_startHeader :
    Ensures (fun s ↦ s.document.Legible loose budget .start [] [] ∧ s.document.frames = [])
      (startHeader backend)
      (fun state s ↦ s.document.Legible loose budget .header (state.tags .header) state.held ∧
        state.Sound loose) fun _ _ ↦ False := by
  refine Ensures.through (fun _ s ↦ s.document.Legible loose budget .header ["head"] [])
    (ensures_change fun s hs ↦ ?_) fun _ ↦ ensures_pure fun _ hs ↦ ⟨hs, trivial⟩
  obtain ⟨hs, hf⟩ := hs
  obtain ⟨hc, spent, covered, blank, _⟩ := hs.bottom hf
  have hl : s.document.output.captures.length = 0 := by rw [hc]; rfl
  have hw : (s.document.output.write ⟨documentStart, ""⟩).whole = prolog ++ opening := by
    rw [Output.whole_write, (blank rfl).1, String.empty_append, if_pos hl, documentStart_eq]
  have hn : (s.document.output.write ⟨documentStart, ""⟩).captures = [] :=
    List.length_eq_zero_iff.mp ((Output.length_captures_write _ _).trans hl)
  refine ⟨rfl, ?_, hs.frames, hs.head, hs.macros⟩
  change Sheets loose (RootReads loose budget .header
    (s.document.output.write ⟨documentStart, ""⟩).whole) ["head"] [] s.document.frames
    (s.document.output.write ⟨documentStart, ""⟩).captures
  rw [hw, hn, hf]
  refine .bottom ⟨[], .of_sublist (List.nil_sublist _), fun h ↦ (by cases h), fun _ ↦
    ⟨opening, rfl, leads_opening⟩⟩

/-- The body starts with what the header said. -/
theorem ensures_startBody :
    Ensures (fun s ↦ s.document.Legible loose budget .headerDone [] []) (startBody backend)
      (fun state s ↦ s.document.Legible loose budget .body (state.tags .body) state.held ∧
        state.Sound loose) fun _ _ ↦ False := by
  refine Ensures.through (fun _ s ↦ s.document.Legible loose budget .body ["body"] [])
    (ensures_change fun s hs ↦ ?_) fun _ ↦ ensures_pure fun _ hs ↦ ⟨hs, trivial⟩
  have turned := hs.turn (show Phase.headerDone ≠ .start by decide)
    (show Phase.body ≠ .start by decide) rfl
  have title : Closed loose (titleBlock (s.document.head.title.map Passage.markup)
      (s.document.head.byline Passage.markup) (s.document.head.date.map Passage.markup)) [] := by
    refine closed_titleBlock (fun text ht ↦ ?_) (closed_byline hs.head) fun text ht ↦ ?_
    · obtain ⟨title, hm, rfl⟩ := Option.map_eq_some_iff.mp ht
      exact hs.head.title title hm
    · obtain ⟨date, hm, rfl⟩ := Option.map_eq_some_iff.mp ht
      exact hs.head.date date hm
  have written : Leads loose _ [] ["body"] [] := leads_bodyStart.append (title.leads ["body"])
  exact turned.append (fun _ hp ↦ by cases hp) written

end Session

end Manuscript

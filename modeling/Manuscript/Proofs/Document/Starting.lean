import Manuscript.Proofs.Document.Composition

/-!
# How elements start

An element starts with a state of its frame, and some elements change the document then. What can
happen is said once (`Document.Start`), apart from what is written: everything that is to be known
of the frame of an element that begins follows from that. An element that cannot start leaves the
session as it was (`Session.ensures_start`).
-/

namespace Manuscript

/-- The state with which an element starts that is never refused and changes nothing around it. -/
def Element.ownState? : Element → Option FrameState
  | header | body | sect _ | figureBody _ _ | figureSeries _ _ | figureSeriesPage | subFigure _
  | tableRow | tableCell _ _ | macroParameter _ => none
  | figure label => some (.figure { label })
  | table label columns => some (.table { label, columns })
  | equation label => some (.equation label)
  | mathOp operator => some (.mathOp operator [])
  | macroDefinition signature => some (.macroDefinition signature)
  | macroInvocation signature =>
    some (.macroInvocation signature (List.replicate signature.arity none))
  | styled style => some (.styled style)
  | list ordered => some (.list ordered)
  | _ => some .plain

/-- How an element may start in a document, apart from what is written then: the state of its frame,
whether its content is held back, and the document afterwards. -/
inductive Document.Start (d : Document) : Element → FrameState × Bool → Document → Prop where
  | own {element : Element} {state : FrameState} :
    element.ownState? = some state → Start d element (state, element.kind.captures) d
  | header : Start d .header (.plain, Kind.header.captures) { d with phase := .header }
  | body : Start d .body (.plain, Kind.body.captures) { d with phase := .body }
  /-- A section has the next position of its depth. -/
  | sect (label : Option Label) :
    d.frames.sectionDepth < Limit.maxSectionDepth →
      Start d (.sect label)
        (.sect label (nextSectionPath d.sectionPath (d.frames.sectionDepth + 1)),
          Kind.sect.captures)
        { d with
          sectionPath := nextSectionPath d.sectionPath (d.frames.sectionDepth + 1)
          sections := d.sections + 1 }
  | figureBody {width height : Float} {columns rows : Nat} :
    pixels width d.settings.dpi = .ok columns → pixels height d.settings.dpi = .ok rows →
      Start d (.figureBody width height) (.figureBody columns rows none, Kind.figureBody.captures) d
  | figureSeries (label : Option Label) {columns : Nat} :
    0 < columns → Start d (.figureSeries label columns)
      (.figureSeries { label, columns }, Kind.figureSeries.captures) d
  | figureSeriesPage : Start d .figureSeriesPage (.plain, Kind.figureSeriesPage.captures)
      (d.offer FrameState.turnPage?)
  | subFigure (label : Option Label) :
    (∀ count ∈ d.frames.subFigureCount?, count < Limit.maxSubFigures) →
      Start d (.subFigure label) (.subFigure { label }, Kind.subFigure.captures) d
  | tableRow : Start d .tableRow
      (.tableRow (d.innermost == some .tableHeader) 0, Kind.tableRow.captures) d
  /-- A cell stands in the header if its row does. -/
  | tableCell (span : Nat) (align : Option Alignment) {header : Bool} :
    (∀ inHeader column, d.frames.topState? = some (.tableRow inHeader column) →
      header = inHeader) →
        Start d (.tableCell span align) (.tableCell header, Kind.tableCell.captures)
          (d.offer (FrameState.advance? (max span 1)))
  /-- Directly inside an invocation a parameter is an argument. -/
  | argument {index : Nat} {signature : Macro.Signature} {arguments : List (Option Passage)} :
    d.frames.topState? = some (.macroInvocation signature arguments) → index < signature.arity →
      Start d (.macroParameter index) (.argument index, true) d
  | placeholder {index : Nat} {signature : Macro.Signature} :
    (∀ signature arguments, d.frames.topState? ≠ some (.macroInvocation signature arguments)) →
      d.frames.definition? = some signature → index < signature.arity →
        Start d (.macroParameter index) (.plain, false) d

namespace Session

open Action

/-- The element has started, and something may have been written. -/
def Started (s : Session) (element : Element) (answer : FrameState × Bool) (t : Session) : Prop :=
  ∃ d output, s.document.Start element answer d ∧ t.document = { d with output }

theorem parameterError_eq_none {signature : Macro.Signature} {index : Nat} :
    parameterError signature index = none ↔ index < signature.arity := by
  rw [parameterError, ite_eq_left_iff]
  simp

/-! ### Elements that look around -/

theorem ensures_startSection (backend : Backend) (label : Option Label) (s : Session) :
    Ensures (· = s) (startSection backend label)
      (fun state ↦ s.Started (.sect label) (state, Kind.sect.captures)) fun _ t ↦ t = s := by
  refine ensures_current fun d ↦ ensures_of_forall fun t ht ↦ ?_
  obtain ⟨rfl, rfl⟩ := ht
  dsimp only
  split
  · exact ensures_throw fun _ h ↦ h
  · next hd =>
    refine Ensures.bind (ensures_change ?_) fun _ ↦ ensures_pure fun _ h ↦ h
    rintro _ rfl
    exact ⟨_, _, .sect label (by omega), rfl⟩

/-- A side of a figure has as many pixels as its length comes to. -/
theorem ensures_side (millimetres : Float) (s : Session) :
    Ensures (· = s) (side millimetres)
      (fun count t ↦ pixels millimetres s.document.settings.dpi = .ok count ∧ t = s)
      fun _ t ↦ t = s := by
  refine ensures_current fun d ↦ ensures_of_forall fun t ht ↦ ?_
  obtain ⟨rfl, rfl⟩ := ht
  split
  · next count hp => exact ensures_pure fun _ h ↦ ⟨hp, h⟩
  · exact ensures_throw fun _ h ↦ h

theorem keeps_side (millimetres : Float) : Keeps id (side millimetres) :=
  fun s ↦ (ensures_side millimetres s).mono (fun _ ht ↦ ht) (fun _ _ ht ↦ ht.2) fun _ _ ht ↦ ht

theorem ensures_startFigureBody (width height : Float) (s : Session) :
    Ensures (· = s) (startFigureBody width height)
      (fun state ↦ s.Started (.figureBody width height) (state, Kind.figureBody.captures))
      fun _ t ↦ t = s :=
  (ensures_side width s).bind fun _ ↦ ensures_of_imp fun hw ↦
    (ensures_side height s).bind fun _ ↦ ensures_of_imp fun hh ↦
      ensures_pure fun t ht ↦ ⟨_, t.document.output, .figureBody hw hh, ht ▸ rfl⟩

theorem ensures_startSeries (label : Option Label) (columns : Nat) (s : Session) :
    Ensures (· = s) (startSeries label columns)
      (fun state ↦ s.Started (.figureSeries label columns) (state, Kind.figureSeries.captures))
      fun _ t ↦ t = s := by
  unfold startSeries
  split
  · exact ensures_throw fun _ h ↦ h
  · next hc =>
    have room : 0 < columns := Nat.pos_of_ne_zero hc
    exact ensures_pure fun t ht ↦ ⟨_, t.document.output, .figureSeries label room, ht ▸ rfl⟩

theorem ensures_startSubFigure (label : Option Label) (s : Session) :
    Ensures (· = s) (startSubFigure label)
      (fun state ↦ s.Started (.subFigure label) (state, Kind.subFigure.captures))
      fun _ t ↦ t = s := by
  refine ensures_current fun d ↦ ensures_of_forall fun t ht ↦ ?_
  obtain ⟨rfl, rfl⟩ := ht
  split
  · exact ensures_throw fun _ h ↦ h
  · next hc =>
    have room : ∀ count ∈ t.document.frames.subFigureCount?, count < Limit.maxSubFigures := by
      intro count hm
      rw [Option.mem_def.mp hm] at hc
      simpa using hc
    exact ensures_pure fun u hu ↦ ⟨_, u.document.output, .subFigure label room, hu ▸ rfl⟩

theorem ensures_startCell (backend : Backend) (span : Nat) (align : Option Alignment)
    (s : Session) :
    Ensures (· = s) (startCell backend span align)
      (fun state ↦ s.Started (.tableCell span align) (state, Kind.tableCell.captures))
      fun _ t ↦ t = s := by
  refine ensures_current fun d ↦ ensures_of_forall fun t ht ↦ ?_
  obtain ⟨rfl, rfl⟩ := ht
  refine Ensures.through
    (fun _ u ↦ u = t.modifyDocument (·.offer (FrameState.advance? (max span 1))))
    (ensures_change fun _ hu ↦ hu ▸ rfl) fun _ ↦ ?_
  refine Ensures.bind (ensures_change ?_) fun _ ↦ ensures_pure fun _ h ↦ h
  rintro _ rfl
  refine ⟨_, _, .tableCell span align fun inHeader column top ↦ ?_, rfl⟩
  rw [top]

theorem ensures_startParameter (index : Nat) (s : Session) :
    Ensures (· = s) (startParameter index) (s.Started (.macroParameter index))
      fun _ t ↦ t = s := by
  refine ensures_current fun d ↦ ensures_of_forall fun t ht ↦ ?_
  obtain ⟨rfl, rfl⟩ := ht
  have check (signature : Macro.Signature) :
      Ensures (· = t) (refuse (parameterError signature index))
        (fun _ u ↦ index < signature.arity ∧ u = t) fun _ u ↦ u = t :=
    ensures_refuse (fun fits _ hu ↦ ⟨parameterError_eq_none.mp fits, hu⟩) fun _ _ _ hu ↦ hu
  split
  · next signature arguments top =>
    refine (check signature).bind fun _ ↦ ensures_of_imp fun fits ↦ ?_
    exact ensures_pure fun u hu ↦ ⟨_, u.document.output, .argument top fits, hu ▸ rfl⟩
  · next top =>
    split
    · exact ensures_throw fun _ h ↦ h
    · next signature hd =>
      refine (check signature).bind fun _ ↦ ensures_of_imp fun fits ↦ ?_
      have start := Document.Start.placeholder top hd fits
      unfold writeMarker
      split
      · refine Ensures.bind (ensures_change ?_) fun _ ↦ ensures_pure fun _ h ↦ h
        rintro _ rfl
        exact ⟨_, _, start, rfl⟩
      · exact ensures_pure fun u hu ↦ ⟨_, u.document.output, start, hu ▸ rfl⟩

/-! ### All elements -/

theorem eq_macroParameter_of_kind {element : Element} (h : element.kind = .macroParameter) :
    ∃ index, element = .macroParameter index := by
  cases element with
  | macroParameter index => exact ⟨index, rfl⟩
  | styled style => cases style <;> cases h
  | list ordered => cases ordered <;> cases h
  | _ => cases h

/-- Only a macro parameter looks where it stands to say whether its content is held back. -/
theorem start_eq (backend : Backend) {element : Element} (h : element.kind ≠ .macroParameter) :
    start backend element = (do return (← startState backend element, element.kind.captures)) := by
  cases element with
  | macroParameter index => exact absurd rfl h
  | _ => rfl

theorem ensures_startState (backend : Backend) (element : Element) (s : Session)
    (hp : element.kind ≠ .macroParameter) :
    Ensures (· = s) (startState backend element)
      (fun state ↦ s.Started element (state, element.kind.captures)) fun _ t ↦ t = s := by
  have started {state : FrameState} {d : Document} (output : Output)
      (h : s.document.Start element (state, element.kind.captures) d)
      (hs : startState backend element s =
        .ok state (s.modifyDocument fun _ ↦ { d with output })) :
      Ensures (· = s) (startState backend element)
        (fun state ↦ s.Started element (state, element.kind.captures)) fun _ t ↦ t = s := by
    rintro _ rfl
    rw [hs]
    exact ⟨d, output, h, rfl⟩
  cases element with
  | header => exact started _ .header rfl
  | body => exact started _ .body rfl
  | sect label => exact ensures_startSection backend label s
  | figureBody width height => exact ensures_startFigureBody width height s
  | figureSeries label columns => exact ensures_startSeries label columns s
  | figureSeriesPage => exact started _ .figureSeriesPage rfl
  | subFigure label => exact ensures_startSubFigure label s
  | tableRow => exact started _ .tableRow rfl
  | tableCell span align => exact ensures_startCell backend span align s
  | macroParameter index => exact absurd rfl hp
  | _ => exact started _ (.own rfl) rfl

/-- An element starts, or it leaves the session as it was. -/
theorem ensures_start (backend : Backend) (element : Element) (s : Session) :
    Ensures (· = s) (start backend element) (s.Started element) fun _ t ↦ t = s := by
  by_cases hp : element.kind = .macroParameter
  · obtain ⟨index, rfl⟩ := eq_macroParameter_of_kind hp
    exact ensures_startParameter index s
  · rw [start_eq backend hp]
    exact (ensures_startState backend element s hp).bind fun _ ↦ ensures_pure fun _ h ↦ h

end Session

end Manuscript

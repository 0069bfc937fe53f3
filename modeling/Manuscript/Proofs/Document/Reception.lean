import Manuscript.Proofs.Document.Nesting

/-!
# Reception

An element that ends hands what it gathered to an element around it, and some elements begin with a
look at those around them. Where one is missing the content would be lost without a word; in nested
documents none is ever missing (`Frame.Received`, `Frames.Prepared`).
-/

namespace Manuscript

namespace FrameState

variable {state : FrameState}

/-- What a frame of a kind that takes something has for its state. -/
theorem exists_of_suits {kind : Kind} (h : state.suits kind = true) :
    match kind with
    | .sect => ∃ label path, state = .sect label path
    | .figure => ∃ pending, state = .figure pending
    | .subFigure => ∃ pending, state = .subFigure pending
    | .figureSeries => ∃ pending, state = .figureSeries pending
    | .table => ∃ pending, state = .table pending
    | .tableRow => ∃ header column, state = .tableRow header column
    | .mathOp => ∃ operator operands, state = .mathOp operator operands
    | _ => True := by
  cases state with
  | plain => cases kind <;> trivial
  | styled style => cases eq_of_beq h; cases style <;> trivial
  | list ordered => cases eq_of_beq h; cases ordered <;> trivial
  | macroInvocation signature arguments => cases kind_of_suits_macroInvocation h; trivial
  | macroDefinition | argument | figureBody | tableCell | equation => cases eq_of_beq h; trivial
  | sect | tableRow | mathOp => cases eq_of_beq h; exact ⟨_, _, rfl⟩
  | _ => cases eq_of_beq h; exact ⟨_, rfl⟩

end FrameState

namespace Kind

variable {parent : Option Kind}

/-- A kind that may stand in one other kind only stands in that one. -/
theorem parent_eq {kind only : Kind} (hr : kind.allowedAtRoot = false)
    (hw : ∀ parent, kind.allowedWithin parent = (parent == only))
    (h : kind.allowedIn parent = true) : parent = some only := by
  cases parent with
  | none => rw [allowedIn, hr] at h; cases h
  | some parent => rw [allowedIn, hw, beq_iff_eq] at h; rw [h]

theorem allowedIn_figureBody (h : figureBody.allowedIn parent = true) :
    parent = some figure ∨ parent = some subFigure := by
  cases parent with
  | none => cases h
  | some parent => simpa [allowedIn, allowedWithin] using h

theorem allowedIn_subFigure (h : subFigure.allowedIn parent = true) :
    parent = some figureSeries ∨ parent = some figureSeriesPage := by
  cases parent with
  | none => cases h
  | some parent => simpa [allowedIn, allowedWithin] using h

theorem allowedIn_caption (h : caption.allowedIn parent = true) :
    parent = some figure ∨ parent = some subFigure ∨ parent = some figureSeries ∨
      parent = some table := by
  cases parent with
  | none => cases h
  | some parent => simpa [allowedIn, allowedWithin, or_assoc] using h

end Kind

/-- What may stand in elements of one kind only stands in one of that kind. -/
theorem Frame.StandsOn.innermost_eq {frame : Frame} {outer : Frames} (h : frame.StandsOn outer)
    {kind only : Kind} (hk : frame.kind = kind) (hr : kind.allowedAtRoot = false)
    (hw : ∀ parent, kind.allowedWithin parent = (parent == only)) : outer.innermost = some only :=
  Kind.parent_eq hr hw (hk ▸ h.allowed)

/-- What the frame hands over when it ends finds an element around it that takes it. -/
structure Frame.Received (frame : Frame) (outer : Frames) : Prop where
  sectionTitle : frame.kind = .sectionTitle →
    ∃ label path, outer.topState? = some (.sect label path)
  caption : frame.kind = .caption →
    ∀ caption, (outer.changeTop? (FrameState.takeCaption? caption)).isSome
  tableHeader : frame.kind = .tableHeader →
    ∀ rows, (outer.changeTop? (FrameState.takeTableHeader? rows)).isSome
  tableFooter : frame.kind = .tableFooter →
    ∀ rows, (outer.changeTop? (FrameState.takeTableFooter? rows)).isSome
  operand : frame.kind = .mathOpParam →
    ∀ operand, (outer.changeTop? (FrameState.takeOperand? operand)).isSome
  figureBody : frame.kind = .figureBody →
    ∀ content, (outer.changeTop? (FrameState.takeFigureBody? content)).isSome
  subFigure : frame.kind = .subFigure →
    ∀ figure, (outer.changeSeries? (FrameState.takeSubFigure? figure)).isSome
  argument : ∀ index, frame.state = .argument index →
    ∀ value, (outer.changeTop? (FrameState.takeArgument? index value)).isSome

/-- Where an element may be begun that looks at those around it, they are there. -/
structure Frames.Prepared (frames : Frames) : Prop where
  cell : Kind.tableCell.allowedIn frames.innermost = true →
    (∃ header column, frames.topState? = some (.tableRow header column)) ∧
      ∀ columns, (frames.changeTop? (FrameState.advance? columns)).isSome
  page : Kind.figureSeriesPage.allowedIn frames.innermost = true →
    (frames.changeTop? FrameState.turnPage?).isSome
  subFigure : Kind.subFigure.allowedIn frames.innermost = true → frames.subFigureCount?.isSome
  /-- There is a marker for each parameter that passes the check. -/
  marker : ∀ signature index, frames.definition? = some signature →
    Session.parameterError signature index = none → (Marker.char? index).isSome

namespace Frames

variable {frames : Frames}

theorem isSome_changeTop? {change : FrameState → Option FrameState} {state : FrameState}
    (h : frames.topState? = some state) (hc : (change state).isSome) :
    (frames.changeTop? change).isSome := by
  cases frames with
  | nil => cases h
  | cons frame outer =>
    cases h
    rwa [changeTop?, Option.isSome_map]

/-- The innermost element takes what every element of its kind takes. -/
theorem Nested.takes (h : frames.Nested) {change : FrameState → Option FrameState}
    {kind : Kind} (hk : frames.innermost = some kind)
    (takes : ∀ state : FrameState, state.suits kind = true → (change state).isSome) :
    (frames.changeTop? change).isSome := by
  obtain ⟨state, top, suits⟩ := h.exists_topState? hk
  exact Frames.isSome_changeTop? top (takes state suits)

/-- Where a sub-figure may stand, the innermost series is the innermost element, or nothing but a
page stands between the two. -/
theorem Nested.exists_series (h : frames.Nested)
    (allowed : Kind.subFigure.allowedIn frames.innermost = true) :
    ∃ (series : Frame) (outer : Frames) (pending : PendingSeries),
      series.kind = .figureSeries ∧ series.state = .figureSeries pending ∧
        (frames = series :: outer ∨
          ∃ page : Frame, page.kind = .figureSeriesPage ∧ frames = page :: series :: outer) := by
  cases frames with
  | nil => cases allowed
  | cons top outer =>
    rcases Kind.allowedIn_subFigure allowed with hk | hk
    · have series : top.kind = .figureSeries := Option.some.inj hk
      obtain ⟨pending, hs⟩ := FrameState.exists_of_suits (series ▸ h.1.suits)
      exact ⟨top, outer, pending, series, hs, .inl rfl⟩
    · have page : top.kind = .figureSeriesPage := Option.some.inj hk
      have around := h.1.innermost_eq page rfl fun _ ↦ rfl
      cases outer with
      | nil => cases around
      | cons below outer =>
        have series : below.kind = .figureSeries := Option.some.inj around
        obtain ⟨pending, hs⟩ := FrameState.exists_of_suits (series ▸ h.2.1.suits)
        exact ⟨below, outer, pending, series, hs, .inr ⟨top, page, rfl⟩⟩

/-- A sub-figure may only begin in a series, or on a page of one. -/
theorem Nested.exists_series? (h : frames.Nested)
    (allowed : Kind.subFigure.allowedIn frames.innermost = true) :
    ∃ series, frames.series? = some (.figureSeries series) ∧
      ∀ figure, (frames.changeSeries? (FrameState.takeSubFigure? figure)).isSome := by
  obtain ⟨series, outer, pending, hk, hs, hf⟩ := h.exists_series allowed
  have found : series? (series :: outer) = some (.figureSeries pending) := by
    simp only [series?, List.find?_cons, hk, beq_self_eq_true, Option.map_some, hs]
  have taken (figure : PendingFigure) :
      (changeSeries? (FrameState.takeSubFigure? figure) (series :: outer)).isSome := by
    rw [changeSeries?, if_pos hk]
    exact isSome_changeTop? (congrArg some hs) rfl
  refine ⟨pending, ?_⟩
  obtain rfl | ⟨page, hp, rfl⟩ := hf
  · exact ⟨found, taken⟩
  · have other : page.kind ≠ .figureSeries := by rw [hp]; decide
    refine ⟨?_, fun figure ↦ ?_⟩
    · rwa [series?, List.find?_cons_of_neg (by simpa using other)]
    · rw [changeSeries?, if_neg other, Option.isSome_map]
      exact taken figure

theorem Nested.prepared (h : frames.Nested) : frames.Prepared where
  cell allowed := by
    obtain ⟨state, ht, suits⟩ := h.exists_topState? (Kind.parent_eq rfl (fun _ ↦ rfl) allowed)
    obtain ⟨header, column, rfl⟩ := FrameState.exists_of_suits suits
    exact ⟨⟨header, column, ht⟩, fun columns ↦ isSome_changeTop? ht rfl⟩
  page allowed := by
    refine h.takes (Kind.parent_eq rfl (fun _ ↦ rfl) allowed) fun state suits ↦ ?_
    obtain ⟨series, rfl⟩ := FrameState.exists_of_suits suits
    rfl
  subFigure allowed := by
    obtain ⟨series, hs, _⟩ := h.exists_series? allowed
    rw [subFigureCount?, hs]
    rfl
  marker signature index _ hp := by
    have hc : index < Marker.count :=
      Nat.lt_of_lt_of_le (Session.parameterError_eq_none.mp hp) signature.arity_le
    rw [Marker.char?, if_pos hc]
    rfl

end Frames

namespace Frame.StandsOn

variable {frame : Frame} {outer : Frames}

/-- The argument of a macro parameter has a slot in the invocation around it. -/
theorem isSome_takeArgument? (h : frame.StandsOn outer) (ho : outer.Nested) {index : Nat}
    (hs : frame.state = .argument index) (value : Passage) :
    (outer.changeTop? (FrameState.takeArgument? index value)).isSome := by
  have suits := h.suits
  rw [hs] at suits
  have hk : frame.kind = .macroParameter := eq_of_beq suits
  by_cases hp : outer.innermost = some .macroInvocation
  · obtain ⟨_, place, hl, hi⟩ := h.argument hk hp
    obtain rfl : index = place := by simpa [hs] using hi
    obtain ⟨state, top, suits⟩ := ho.exists_topState? hp
    obtain ⟨signature, arguments, rfl, _⟩ := FrameState.suits_macroInvocation suits
    have hl : index < arguments.length := by rwa [Frames.slots, top] at hl
    refine Frames.isSome_changeTop? top ?_
    rw [FrameState.takeArgument?, if_pos hl]
    rfl
  · have hn := (h.placeholder hk hp).2
    rw [hs] at hn
    cases hn

/-- A frame that stands on nested ones is received by them. -/
theorem received (h : frame.StandsOn outer) (ho : outer.Nested) : frame.Received outer where
  sectionTitle hk := by
    obtain ⟨state, top, suits⟩ := ho.exists_topState? (h.innermost_eq hk rfl fun _ ↦ rfl)
    obtain ⟨label, path, rfl⟩ := FrameState.exists_of_suits suits
    exact ⟨label, path, top⟩
  caption hk caption := by
    rcases Kind.allowedIn_caption (hk ▸ h.allowed) with hp | hp | hp | hp <;>
      refine ho.takes hp fun state suits ↦ ?_ <;>
      obtain ⟨pending, rfl⟩ := FrameState.exists_of_suits suits <;> rfl
  tableHeader hk rows := by
    refine ho.takes (h.innermost_eq hk rfl fun _ ↦ rfl) fun state suits ↦ ?_
    obtain ⟨pending, rfl⟩ := FrameState.exists_of_suits suits
    rfl
  tableFooter hk rows := by
    refine ho.takes (h.innermost_eq hk rfl fun _ ↦ rfl) fun state suits ↦ ?_
    obtain ⟨pending, rfl⟩ := FrameState.exists_of_suits suits
    rfl
  operand hk operand := by
    refine ho.takes (h.innermost_eq hk rfl fun _ ↦ rfl) fun state suits ↦ ?_
    obtain ⟨operator, operands, rfl⟩ := FrameState.exists_of_suits suits
    rfl
  figureBody hk content := by
    rcases Kind.allowedIn_figureBody (hk ▸ h.allowed) with hp | hp <;>
      refine ho.takes hp fun state suits ↦ ?_ <;>
      obtain ⟨pending, rfl⟩ := FrameState.exists_of_suits suits <;> rfl
  subFigure hk := (ho.exists_series? (hk ▸ h.allowed)).choose_spec.2
  argument _ hs := h.isSome_takeArgument? ho hs

end Frame.StandsOn

namespace Session

/-- In every state that calls on a document can lead to, whether they are accepted or refused, the
open elements are nested and counted as they should be. So no element ends below the root, no
capture is left behind when everything has been ended, whatever ends is received, and whatever
begins finds what it looks for. -/
theorem nested_document_run (backend : Backend) (context : Context) (path : Path)
    (place : Location) (serial : Nat) (files : FileSystem) (calls : List Call) :
    let s := run backend calls ⟨context.document path place serial, files⟩
    let d := s.document
    (d.tagDepth = d.frames.length ∧
      d.output.captures.length = d.frames.countP Frame.captured ∧
      d.frames.Nested) ∧
    (d.frames ≠ [] → 0 < d.tagDepth) ∧
    (∀ kind, (s.perform backend (.endElement kind)).1 ≠ .error (.lifecycle .rootReleased)) ∧
    (∀ count, d.closeFault ≠ some (.capturesOpen count)) ∧
    (∀ frame outer, d.frames = frame :: outer → frame.Received outer) ∧
    d.frames.Prepared := by
  intro s d
  have h : d.Nested := nested_run backend calls (context.nested_document path place serial)
  refine ⟨⟨h.tagDepth_eq, h.captures_eq, h.frames⟩, ?_, ?_, ?_, ?_, h.frames.prepared⟩
  · intro hn
    rw [h.tagDepth_eq]
    exact List.length_pos_iff.mpr hn
  · exact fun kind ↦ (nested_perform backend _ h).2 kind rfl .rootReleased
  · intro count hc
    cases hd : d.frames with
    | cons frame outer =>
      rw [Document.closeFault, Document.innermost, hd] at hc
      cases hc
    | nil =>
      have hl : d.output.captures = [] := by
        rw [← List.length_eq_zero_iff, h.captures_eq, hd]
        rfl
      rw [Document.closeFault, Document.innermost, hd, hl] at hc
      split at hc
      · next he => cases he
      · split at hc <;> cases hc
  · intro frame outer hd
    have hf := hd ▸ h.frames
    exact hf.1.received hf.2

end Session

end Manuscript

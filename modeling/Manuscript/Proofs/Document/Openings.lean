import Manuscript.Proofs.Document.Gathering

/-!
# What happened inside the open elements

The open elements of a document, told from the history of its calls alone (`Session.openings`): with
each goes what has been begun and ended directly inside it, a sub-figure with the series around it.
The frames have gathered just that (`Opening.Agree`): a row is as far as its cells are wide, an
operator has the operands that have ended, and a series has its sub-figures and pages.
-/

namespace Manuscript

/-- What happens inside an open element. -/
inductive Opening.Event where
  | begun (element : Element)
  /-- An element has been ended with the frame that it had then and what it had held back. -/
  | ended (element : Element) (frame : Frame) (content : Passage)

/-- An open element with what has happened inside it. -/
structure Opening where
  element : Element
  inside : List Opening.Event := []

/-- What an element of a kind is whose history is told. -/
theorem Element.exists_of_kind {element : Element} {kind : Kind} (h : element.kind = kind) :
    match kind with
    | .mathOpParam => element = .mathOpParam
    | .tableRow => element = .tableRow
    | .subFigure => ∃ label, element = .subFigure label
    | .figureSeries => ∃ label columns, element = .figureSeries label columns
    | .table => ∃ label columns, element = .table label columns
    | _ => True := by
  subst h
  cases element with
  | styled style => cases style <;> trivial
  | list ordered => cases ordered <;> trivial
  | mathOpParam | tableRow => rfl
  | subFigure label => exact ⟨label, rfl⟩
  | figureSeries label columns | table label columns => exact ⟨label, columns, rfl⟩
  | _ => trivial

namespace Opening

namespace Event

/-- The number of columns of a row that a cell takes. -/
def width : Event → Nat
  | begun (.tableCell span _) => max span 1
  | _ => 0

/-- The operand that has been ended. -/
def operand? : Event → Option Passage
  | ended .mathOpParam _ content => some content
  | _ => none

/-- What the sub-figure that has been ended was begun with. -/
def label? : Event → Option (Option Label)
  | ended (.subFigure label) _ _ => some label
  | _ => none

/-- The sub-figure that has been ended. -/
def figure? : Event → Option PendingFigure
  | ended (.subFigure _) ⟨_, _, .subFigure figure⟩ _ => some figure
  | _ => none

/-- The series after what has happened inside it. -/
def gather (series : PendingSeries) : Event → PendingSeries
  | begun .figureSeriesPage => series.turn
  | ended (.subFigure _) ⟨_, _, .subFigure figure⟩ _ => series.add figure
  | _ => series

end Event

/-- The column behind the cells of a row. -/
def width (opening : Opening) : Nat :=
  opening.inside.foldl (fun column event ↦ column + event.width) 0

/-- The operands of an operator in the order in which they have been ended. -/
def operands (opening : Opening) : List Passage := opening.inside.filterMap Event.operand?

/-- The sub-figures of a series in the order in which they have been ended. -/
def figures (opening : Opening) : List PendingFigure := opening.inside.filterMap Event.figure?

/-- What the sub-figures of a series were begun with. -/
def labels (opening : Opening) : List (Option Label) := opening.inside.filterMap Event.label?

/-- What a series without a caption has gathered. -/
def series (opening : Opening) (label : Option Label) (columns : Nat) : PendingSeries :=
  opening.inside.foldl Event.gather { label, columns }

/-! ### Histories -/

/-- Take note of something that happens inside. -/
def note (event : Event) (opening : Opening) : Opening :=
  { opening with inside := opening.inside ++ [event] }

/-- Take note of something that happens in the innermost figure series. -/
def noteSeries (event : Event) : List Opening → List Opening
  | [] => []
  | opening :: around =>
    if opening.element.kind = .figureSeries then opening.note event :: around
    else opening :: noteSeries event around

/-- Take note that an element has been ended, a sub-figure in its series. -/
def noteEnd (element : Element) (frame : Frame) (content : Passage) (around : List Opening) :
    List Opening :=
  if element.kind = .subFigure then noteSeries (.ended element frame content) around
  else around.modifyHead (note (.ended element frame content))

/-- The open elements after a call on a document. An element is gone also if its end is refused. -/
def after (d : Document) (call : Call) (accepted : Bool) (openings : List Opening) :
    List Opening :=
  match call with
  | .beginElement element =>
    if accepted then { element } :: openings.modifyHead (note (.begun element)) else openings
  | .endElement kind =>
    match openings, d.frames with
    | opening :: around, frame :: _ =>
      if opening.element.kind ≠ kind then openings
      else if accepted then noteEnd opening.element frame d.held around
      else around
    | _, _ => openings
  | _ => openings

end Opening

/-- The open elements after a list of calls. -/
def Session.openings (backend : Backend) (s : Session) (openings : List Opening) :
    List Call → List Opening
  | [] => openings
  | call :: calls =>
    let (answer, next) := s.perform backend call
    next.openings backend (Opening.after s.document call answer.isOk openings) calls

namespace Opening

/-! ### What is gathered -/

/-- Whether a row directly inside the first of the elements is one of a table header. -/
def headed (around : List Element) : Bool := around.head?.any (·.kind == .tableHeader)

/-- The state of an element has what has happened inside it, as far as the element gathers it in
order. -/
def Fits (around : List Element) (opening : Opening) (state : FrameState) : Prop :=
  match opening.element with
  | .figureSeries label columns => 0 < columns ∧
    opening.figures.map PendingFigure.label = opening.labels ∧
    ∃ caption, state = .figureSeries { opening.series label columns with caption }
  | .subFigure label => ∃ figure, state = .subFigure figure ∧ figure.label = label
  | .table label columns => ∃ table, state = .table table ∧ table.label = label ∧
    table.columns = columns
  | .tableRow => state = .tableRow (headed around) opening.width
  | .tableCell _ _ => state = .tableCell (headed around.tail)
  | .mathOp operator => state = .mathOp operator opening.operands
  | _ => True

/-- The frames are those of the open elements. -/
inductive Agree : List Opening → Frames → Prop where
  | nil : Agree [] []
  | cons {opening : Opening} {around : List Opening} {frame : Frame} {outer : Frames} :
    frame.kind = opening.element.kind → opening.Fits (around.map Opening.element) frame.state →
      Agree around outer → Agree (opening :: around) (frame :: outer)

variable {opening : Opening} {openings around : List Opening} {frame : Frame}
  {frames outer : Frames} {elements : List Element} {state next : FrameState} {event : Event}
  {element : Element}

@[simp] theorem width_note : (opening.note event).width = opening.width + event.width := by
  simp [width, note]

@[simp] theorem operands_note :
    (opening.note event).operands = opening.operands ++ event.operand?.toList := by
  cases h : event.operand? <;> simp [operands, note, h]

@[simp] theorem figures_note :
    (opening.note event).figures = opening.figures ++ event.figure?.toList := by
  cases h : event.figure? <;> simp [figures, note, h]

@[simp] theorem labels_note :
    (opening.note event).labels = opening.labels ++ event.label?.toList := by
  cases h : event.label? <;> simp [labels, note, h]

@[simp] theorem series_note (label : Option Label) (columns : Nat) :
    (opening.note event).series label columns = event.gather (opening.series label columns) := by
  simp [series, note]

@[simp] theorem element_note : (opening.note event).element = opening.element := rfl

@[simp] theorem map_element_modifyHead :
    (openings.modifyHead (note event)).map Opening.element = openings.map Opening.element := by
  cases openings <;> rfl

@[simp] theorem map_element_noteSeries :
    (noteSeries event openings).map Opening.element = openings.map Opening.element := by
  induction openings with
  | nil => rfl
  | cons opening around ih =>
    rw [noteSeries]
    split
    · rfl
    · rw [List.map_cons, List.map_cons, ih]

/-- A caption has no part in what a series gathers. -/
theorem Event.gather_caption (event : Event) (series : PendingSeries) (caption : Passage) :
    event.gather { series with caption } = { event.gather series with caption } := by
  unfold gather
  split
  · unfold PendingSeries.turn
    dsimp only
    split <;> rfl
  · rfl
  · rfl

/-- An element whose history is left out gathers nothing in order. -/
theorem Fits.of_eq (h : opening.Fits elements state) (hw : event.width = 0)
    (ho : event.operand? = none) (hf : event.figure? = none) (hl : event.label? = none)
    (hs : ∀ series, event.gather series = series) :
    (opening.note event).Fits elements state := by
  unfold Fits at h ⊢
  simpa [hw, ho, hf, hl, hs] using h

/-- A page turns the series around it, and a cell moves its row on. -/
theorem Fits.begun (h : opening.Fits elements state) (element : Element) :
    (opening.note (.begun element)).Fits elements
      ((Frames.notice element state).getD state) := by
  cases element with
  | figureSeriesPage =>
    unfold Fits at h ⊢
    rw [element_note]
    split at h
    · obtain ⟨columns, labels, caption, rfl⟩ := h
      refine ⟨columns, by simpa [Event.figure?, Event.label?] using labels, caption, ?_⟩
      rw [series_note, ← Event.gather_caption]
      rfl
    · obtain ⟨figure, rfl, hl⟩ := h
      exact ⟨figure, rfl, hl⟩
    · obtain ⟨table, rfl, hl⟩ := h
      exact ⟨table, rfl, hl⟩
    all_goals simp [Event.width, Event.operand?, Frames.notice, FrameState.turnPage?, h]
  | tableCell span align =>
    unfold Fits at h ⊢
    rw [element_note]
    split at h
    · obtain ⟨columns, labels, caption, rfl⟩ := h
      exact ⟨columns, by simpa [Event.figure?, Event.label?] using labels, caption,
        by rw [series_note]; rfl⟩
    · obtain ⟨figure, rfl, hl⟩ := h
      exact ⟨figure, rfl, hl⟩
    · obtain ⟨table, rfl, hl⟩ := h
      exact ⟨table, rfl, hl⟩
    all_goals simp [Event.width, Event.operand?, Frames.notice, FrameState.advance?, h]
  | _ => exact h.of_eq rfl rfl rfl rfl fun _ ↦ rfl

/-! ### What is handed over -/

/-- Only operands are noted among what is handed over. -/
theorem Event.operand?_ended {frame : Frame} {content : Passage} (h : element.kind ≠ .mathOpParam) :
    (ended element frame content).operand? = none := by
  unfold operand?
  split
  · next he =>
    cases he
    exact absurd rfl h
  · rfl

/-- A series takes nothing but sub-figures. -/
theorem Event.gather_ended {frame : Frame} {content : Passage} (h : element.kind ≠ .subFigure)
    (series : PendingSeries) : (ended element frame content).gather series = series := by
  unfold gather
  split
  · next he => cases he
  · next he =>
    cases he
    exact absurd rfl h
  · rfl

/-- Only sub-figures are noted among those of a series. -/
theorem Event.figure?_ended (h : element.kind ≠ .subFigure) (frame : Frame) (content : Passage) :
    (ended element frame content).figure? = none ∧
      (ended element frame content).label? = none := by
  cases element with
  | subFigure label => exact absurd rfl h
  | _ => exact ⟨rfl, rfl⟩

/-- What can be handed over. -/
theorem handOver_cases (frame : Frame) (content : Passage) :
    Frames.handOver frame content = (fun _ ↦ none) ∨
    Frames.handOver frame content = FrameState.takeCaption? content ∨
    Frames.handOver frame content = FrameState.takeTableHeader? content.markup ∨
    Frames.handOver frame content = FrameState.takeTableFooter? content.markup ∨
    frame.kind = .mathOpParam ∧ Frames.handOver frame content = FrameState.takeOperand? content ∨
    (∃ shown, Frames.handOver frame content = FrameState.takeFigureBody? shown) ∨
    ∃ index, Frames.handOver frame content = FrameState.takeArgument? index content := by
  obtain ⟨kind, captured, state⟩ := frame
  cases state with
  | plain => cases kind <;> simp [Frames.handOver]
  | figureBody width height canvas => exact .inr (.inr (.inr (.inr (.inr (.inl ⟨_, rfl⟩)))))
  | argument index => exact .inr (.inr (.inr (.inr (.inr (.inr ⟨_, rfl⟩)))))
  | _ => exact .inl rfl

/-- A series that is handed something gets a caption, if anything. -/
theorem handOver_figureSeries (frame : Frame) (content : Passage) (series : PendingSeries) :
    ∃ caption, (Frames.handOver frame content (.figureSeries series)).getD (.figureSeries series) =
      .figureSeries { series with caption } := by
  rcases handOver_cases frame content with h | h | h | h | ⟨-, h⟩ | ⟨shown, h⟩ | ⟨index, h⟩ <;>
    rw [h] <;> exact ⟨_, rfl⟩

theorem handOver_subFigure (frame : Frame) (content : Passage) (figure : PendingFigure) :
    ∃ figure', (Frames.handOver frame content (.subFigure figure)).getD (.subFigure figure) =
      .subFigure figure' ∧ figure'.label = figure.label := by
  rcases handOver_cases frame content with h | h | h | h | ⟨-, h⟩ | ⟨shown, h⟩ | ⟨index, h⟩ <;>
    rw [h] <;> exact ⟨_, rfl, rfl⟩

theorem handOver_table (frame : Frame) (content : Passage) (table : PendingTable) :
    ∃ table', (Frames.handOver frame content (.table table)).getD (.table table) = .table table' ∧
      table'.label = table.label ∧ table'.columns = table.columns := by
  rcases handOver_cases frame content with h | h | h | h | ⟨-, h⟩ | ⟨shown, h⟩ | ⟨index, h⟩ <;>
    rw [h] <;> exact ⟨_, rfl, rfl, rfl⟩

/-- Rows and cells are handed nothing. -/
theorem handOver_tableRow (frame : Frame) (content : Passage) (header : Bool) (column : Nat) :
    Frames.handOver frame content (.tableRow header column) = none := by
  rcases handOver_cases frame content with h | h | h | h | ⟨-, h⟩ | ⟨shown, h⟩ | ⟨index, h⟩ <;>
    rw [h] <;> rfl

theorem handOver_tableCell (frame : Frame) (content : Passage) (header : Bool) :
    Frames.handOver frame content (.tableCell header) = none := by
  rcases handOver_cases frame content with h | h | h | h | ⟨-, h⟩ | ⟨shown, h⟩ | ⟨index, h⟩ <;>
    rw [h] <;> rfl

/-- An operator takes operands and nothing else. -/
theorem handOver_mathOp (content : Passage) (operator : Operator)
    (operands : List Passage) (hk : frame.kind = element.kind)
    (suits : frame.state.suits frame.kind = true) :
    (Frames.handOver frame content (.mathOp operator operands)).getD (.mathOp operator operands) =
      .mathOp operator
        (operands ++ (Event.ended element frame content).operand?.toList) := by
  by_cases he : element.kind = .mathOpParam
  · have plain : frame.state = .plain := by
      rw [hk, he] at suits
      exact FrameState.eq_plain_of_suits rfl (by decide) suits
    obtain rfl : element = .mathOpParam := Element.exists_of_kind he
    simp [Frames.handOver, plain, hk, he, FrameState.takeOperand?, Event.operand?]
  · rw [Event.operand?_ended he, Option.toList_none, List.append_nil]
    rcases handOver_cases frame content with h | h | h | h | ⟨param, -⟩ | ⟨shown, h⟩ | ⟨index, h⟩
    case inr.inr.inr.inr.inl => exact absurd (hk.symm.trans param) he
    all_goals rw [h]; rfl

/-- What an element hands over when it ends has happened inside the one around it. -/
theorem Fits.ended (h : opening.Fits elements state) (hk : frame.kind = element.kind)
    (suits : frame.state.suits frame.kind = true) (hs : element.kind ≠ .subFigure)
    (content : Passage) :
    (opening.note (.ended element frame content)).Fits elements
      ((Frames.handOver frame content state).getD state) := by
  unfold Fits at h ⊢
  rw [element_note]
  split at h
  · obtain ⟨columns, labels, caption, rfl⟩ := h
    obtain ⟨caption', hc⟩ := handOver_figureSeries frame content _
    obtain ⟨figure, label⟩ := Event.figure?_ended hs frame content
    refine ⟨columns, ?_, caption', by rw [hc, series_note, Event.gather_ended hs]⟩
    simpa [figure, label] using labels
  · obtain ⟨figure, rfl, hl⟩ := h
    obtain ⟨figure', hf, hl'⟩ := handOver_subFigure frame content figure
    exact ⟨figure', hf, hl'.trans hl⟩
  · obtain ⟨table, rfl, hl, hc⟩ := h
    obtain ⟨table', ht, hl', hc'⟩ := handOver_table frame content table
    exact ⟨table', ht, hl'.trans hl, hc'.trans hc⟩
  · subst h
    rw [handOver_tableRow, width_note]
    rfl
  · subst h
    rw [handOver_tableCell]
    rfl
  · subst h
    rw [handOver_mathOp content _ _ hk suits, operands_note]
  · trivial

/-- Painting is for figure bodies. -/
theorem Fits.painted (h : opening.Fits elements state) (fills : List Fill) :
    opening.Fits elements ((FrameState.takePaint? fills state).getD state) := by
  unfold Fits at h ⊢
  split at h
  · obtain ⟨columns, labels, caption, rfl⟩ := h
    exact ⟨columns, labels, caption, rfl⟩
  · obtain ⟨figure, rfl, hl⟩ := h
    exact ⟨figure, rfl, hl⟩
  · obtain ⟨table, rfl, hl⟩ := h
    exact ⟨table, rfl, hl⟩
  all_goals first | trivial | (subst h; rfl)

/-- A sub-figure that ends has happened inside its series. -/
theorem Fits.gathered {label : Option Label} {columns : Nat} {figure : PendingFigure}
    (h : opening.Fits elements state) (he : opening.element = .figureSeries label columns)
    (hs : frame.state = .subFigure figure) (content : Passage) :
    (opening.note (.ended (.subFigure figure.label) frame content)).Fits elements
      ((FrameState.takeSubFigure? figure state).getD state) := by
  obtain ⟨kind, captured, _⟩ := frame
  cases hs
  simp only [Fits, element_note, he, series_note, figures_note, labels_note] at h ⊢
  obtain ⟨positive, labels, caption, rfl⟩ := h
  exact ⟨positive, by simp [labels, Event.figure?, Event.label?], caption, rfl⟩

namespace Agree

theorem innermost (h : Agree openings frames) :
    frames.innermost = openings.head?.map fun opening ↦ opening.element.kind := by
  cases h with
  | nil => rfl
  | cons hk _ _ => exact congrArg some hk

theorem headed (h : Agree openings frames) :
    frames.headed = Opening.headed (openings.map Opening.element) := by
  cases h with
  | nil => rfl
  | cons hk _ _ =>
    simp [Frames.headed, Frames.innermost, Opening.headed, hk]

/-- The innermost element is handed something as it takes note of what happens inside it. -/
theorem changeTop {edit : Opening → Opening} {change : FrameState → Option FrameState}
    (h : Agree openings frames) (kept : ∀ opening, (edit opening).element = opening.element)
    (hc : ∀ opening state elements, opening ∈ openings.head? → opening.Fits elements state →
      (edit opening).Fits elements ((change state).getD state)) :
    Agree (openings.modifyHead edit) ((frames.changeTop? change).getD frames) := by
  cases h with
  | nil => exact .nil
  | @cons opening around frame outer hk hf ho =>
    have fits := hc opening frame.state (around.map Opening.element) rfl hf
    have kind : frame.kind = (edit opening).element.kind := by rw [hk, kept]
    rw [Frames.changeTop?]
    cases hs : change frame.state with
    | none => exact .cons kind (by simpa [hs] using fits) ho
    | some state => exact .cons kind (by simpa [hs] using fits) ho

/-- An element starts with nothing inside it. -/
theorem fits_of_starts (h : Agree openings frames) {element : Element}
    (allowed : element.kind.allowedIn frames.innermost = true)
    (starts : state.Starts frames element) :
    ({ element } : Opening).Fits (openings.map Opening.element) state := by
  cases element with
  | figureSeries label columns => exact ⟨starts.1, rfl, {}, starts.2⟩
  | subFigure label => exact ⟨_, starts, rfl⟩
  | table label columns => exact ⟨_, starts, rfl, rfl⟩
  | tableRow =>
    simp only [FrameState.Starts, h.headed] at starts
    exact starts
  | tableCell span align =>
    have row := Kind.parent_eq rfl (fun _ ↦ rfl) allowed
    cases h with
    | nil => cases row
    | @cons opening around frame outer hk hf ho =>
      have kind : opening.element.kind = .tableRow := hk.symm.trans (Option.some.inj row)
      have element : opening.element = .tableRow := Element.exists_of_kind kind
      simp only [Fits, element] at hf
      exact starts _ _ (congrArg some hf)
  | mathOp operator => exact starts
  | _ => trivial

/-- A sub-figure that ends is handed to the innermost series. -/
theorem noteSeries (h : Agree openings frames) {figure : PendingFigure}
    (hs : frame.state = .subFigure figure) (content : Passage) :
    Agree (Opening.noteSeries (.ended (.subFigure figure.label) frame content) openings)
      ((frames.changeSeries? (FrameState.takeSubFigure? figure)).getD frames) := by
  induction h with
  | nil => exact .nil
  | @cons opening around top outer hk hf ho ih =>
    rw [Opening.noteSeries, Frames.changeSeries?, hk]
    by_cases series : opening.element.kind = .figureSeries
    · obtain ⟨own, columns, he⟩ := Element.exists_of_kind series
      rw [if_pos series, if_pos series]
      refine (Agree.cons hk hf ho).changeTop (fun _ ↦ rfl) fun opening' state elements hm fits ↦ ?_
      obtain rfl : opening = opening' := Option.some.inj hm
      exact fits.gathered he hs content
    · rw [if_neg series, if_neg series]
      have fits : opening.Fits ((Opening.noteSeries (.ended (.subFigure figure.label) frame
          content) around).map Opening.element) top.state := by
        rwa [map_element_noteSeries]
      cases hc : outer.changeSeries? (FrameState.takeSubFigure? figure) with
      | none => exact .cons hk fits (by simpa [hc] using ih)
      | some outer' => exact .cons hk fits (by simpa [hc] using ih)

/-- What an element that ends hands over has happened inside the elements around it. -/
theorem noteEnd (h : Agree openings frames) (hk : frame.kind = opening.element.kind)
    (hf : opening.Fits elements frame.state) (suits : frame.state.suits frame.kind = true)
    (content : Passage) :
    Agree (Opening.noteEnd opening.element frame content openings)
      (frames.absorb frame content) := by
  rw [Opening.noteEnd]
  by_cases hs : opening.element.kind = .subFigure
  · obtain ⟨label, he⟩ := Element.exists_of_kind hs
    rw [Fits, he] at hf
    obtain ⟨figure, state, rfl⟩ := hf
    rw [if_pos hs, he, Frames.absorb, state]
    exact h.noteSeries state content
  · have other : ∀ figure, frame.state ≠ .subFigure figure := by
      intro figure state
      rw [state, hk] at suits
      exact hs (eq_of_beq suits)
    rw [if_neg hs, Frames.absorb_eq_handOver other]
    exact h.changeTop (fun _ ↦ rfl) fun _ _ _ _ fits ↦ fits.ended hk suits hs content

/-- A call that begins nothing and ends nothing is no part of the history. -/
theorem after_eq_self {d : Document} {call : Call} {accepted : Bool} (h : Agree openings d.frames)
    (hb : accepted = true → ∀ element, call ≠ .beginElement element)
    (he : ∀ kind, call = .endElement kind → d.innermost ≠ some kind) :
    Opening.after d call accepted openings = openings := by
  unfold Opening.after
  split
  · next element =>
    cases accepted with
    | true => exact absurd rfl (hb rfl element)
    | false => rfl
  · next kind =>
    split
    · next opening around frame outer hd =>
      have top : d.innermost = some opening.element.kind := h.innermost
      have other : opening.element.kind ≠ kind := by
        rintro rfl
        exact he _ rfl top
      rw [if_pos other]
    · rfl
  · rfl

/-- The open elements are those that the history tells of, after any call. -/
theorem move {d : Document} {call : Call} {accepted : Bool} (h : Agree openings d.frames)
    (nested : d.frames.Nested) (moved : Frames.Move d call accepted frames) :
    Agree (Opening.after d call accepted openings) frames := by
  cases moved with
  | none hb he =>
    rw [h.after_eq_self hb he]
    exact h
  | painted fills =>
    -- Painting is no event: it changes what a figure body holds, and no history tells of that.
    have same : Opening.after d (.paint fills) true openings = openings.modifyHead id := by
      cases openings <;> rfl
    rw [same]
    exact h.changeTop (fun _ ↦ rfl) fun _ _ _ _ fits ↦ fits.painted fills
  | @begun element frame allowed hk starts =>
    refine .cons hk ?_ (h.changeTop (fun _ ↦ rfl) fun _ _ _ _ fits ↦ fits.begun element)
    rw [map_element_modifyHead]
    exact h.fits_of_starts allowed starts
  | @ended frame outer hd =>
    rw [hd] at h nested
    cases h with
    | @cons opening around _ _ hk hf ho =>
      simp only [Opening.after, hd, hk, ne_eq, not_true_eq_false, if_false, if_true]
      -- What is on top tells what it hands over, and the elements below take it.
      exact ho.noteEnd hk hf nested.1.suits d.held
  | @failed frame outer hd =>
    rw [hd] at h
    cases h with
    | @cons opening around _ _ hk hf ho =>
      simpa [Opening.after, hd, hk] using ho

end Agree

end Opening

namespace Session

variable {backend : Backend} {s : Session} {openings : List Opening}

/-- The open elements are those that the history tells of, after any run. -/
theorem agree_run (h : Opening.Agree openings s.document.frames) (nested : s.document.Nested)
    (backend : Backend) (calls : List Call) :
    Opening.Agree (s.openings backend openings calls) (s.run backend calls).document.frames := by
  induction calls generalizing s openings with
  | nil => exact h
  | cons call calls ih =>
    exact ih (h.move nested.frames (move_perform backend call s nested))
      (nested_perform backend call nested).1

/-- The innermost element that the history tells of has the innermost frame. -/
theorem exists_frame_of_openings (backend : Backend) {context : Context} {path : Path}
    {place : Location} {serial : Nat} {files : FileSystem} {calls : List Call} {opening : Opening}
    {around : List Opening}
    (h : (⟨context.document path place serial, files⟩ : Session).openings backend [] calls =
      opening :: around) :
    let s := (⟨context.document path place serial, files⟩ : Session).run backend calls
    s.document.Nested ∧ ∃ frame outer, s.document.frames = frame :: outer ∧
      frame.kind = opening.element.kind ∧
      opening.Fits (around.map Opening.element) frame.state ∧ Opening.Agree around outer := by
  intro s
  have new := context.nested_document path place serial
  have agree : Opening.Agree (opening :: around) s.document.frames :=
    h ▸ agree_run .nil new backend calls
  refine ⟨nested_run backend calls new, ?_⟩
  cases hf : s.document.frames with
  | nil =>
    rw [hf] at agree
    cases agree
  | cons frame outer =>
    rw [hf] at agree
    cases agree with
    | cons hk fits agree => exact ⟨frame, outer, rfl, hk, fits, agree⟩

end Session

end Manuscript

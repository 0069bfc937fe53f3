import Manuscript.Document.Call

/-!
# The shape of the open elements

The shape of a frame is the frame as it was when its element began: what the element has gathered
since is left out. The shapes of all frames, their number and the number of captures make up the
outline of a document. Whatever is handed to an open element or written keeps it.
-/

namespace Manuscript

namespace FrameState

/-- The state with which the element began. -/
def shape : FrameState → FrameState
  | plain => plain
  | sect label path => sect label path
  | figure f => figure { label := f.label }
  | subFigure f => subFigure { label := f.label }
  | figureBody width height _ => figureBody width height none
  | figureSeries s => figureSeries { label := s.label, columns := s.columns }
  | table t => table { label := t.label, columns := t.columns }
  | tableRow header _ => tableRow header 0
  | tableCell header => tableCell header
  | equation label => equation label
  | mathOp operator _ => mathOp operator []
  | macroDefinition signature => macroDefinition signature
  | macroInvocation signature arguments =>
    macroInvocation signature (List.replicate arguments.length none)
  | argument index => argument index
  | styled style => styled style
  | list ordered => list ordered

/-- Whether a change of states keeps the shape where it applies. -/
def KeepsShape (change : FrameState → Option FrameState) : Prop :=
  ∀ state next, change state = some next → next.shape = state.shape

theorem keepsShape_takeCaption? (caption : Passage) : KeepsShape (takeCaption? caption) := by
  intro state next h
  cases state <;> simp_all only [takeCaption?, Option.some.injEq, reduceCtorEq] <;> (cases h; rfl)

theorem keepsShape_takeFigureBody? (content : FigureContent) :
    KeepsShape (takeFigureBody? content) := by
  intro state next h
  cases state <;> simp_all only [takeFigureBody?, Option.some.injEq, reduceCtorEq] <;>
    (cases h; rfl)

theorem keepsShape_takeTableHeader? (rows : String) : KeepsShape (takeTableHeader? rows) := by
  intro state next h
  cases state <;> simp_all only [takeTableHeader?, Option.some.injEq, reduceCtorEq]
  cases h; rfl

theorem keepsShape_takeTableFooter? (rows : String) : KeepsShape (takeTableFooter? rows) := by
  intro state next h
  cases state <;> simp_all only [takeTableFooter?, Option.some.injEq, reduceCtorEq]
  cases h; rfl

theorem keepsShape_takeOperand? (operand : Passage) : KeepsShape (takeOperand? operand) := by
  intro state next h
  cases state <;> simp_all only [takeOperand?, Option.some.injEq, reduceCtorEq]
  cases h; rfl

theorem keepsShape_takeArgument? (index : Nat) (value : Passage) :
    KeepsShape (takeArgument? index value) := by
  intro state next h
  cases state <;> simp_all only [takeArgument?, reduceCtorEq]
  split at h
  · cases h
    simp only [shape, List.length_set]
  · cases h

theorem keepsShape_takeSubFigure? (figure : PendingFigure) :
    KeepsShape (takeSubFigure? figure) := by
  intro state next h
  cases state <;> simp_all only [takeSubFigure?, Option.some.injEq, reduceCtorEq]
  cases h; rfl

theorem keepsShape_turnPage? : KeepsShape turnPage? := by
  intro state next h
  cases state <;> simp_all only [turnPage?, Option.some.injEq, reduceCtorEq]
  next series =>
    cases h
    simp only [shape, PendingSeries.turn]
    split <;> rfl

theorem keepsShape_advance? (columns : Nat) : KeepsShape (advance? columns) := by
  intro state next h
  cases state <;> simp_all only [advance?, Option.some.injEq, reduceCtorEq]
  cases h; rfl

theorem keepsShape_takePaint? (fills : List Fill) : KeepsShape (takePaint? fills) := by
  intro state next h
  cases state <;> simp_all only [takePaint?, Option.some.injEq, reduceCtorEq]
  cases h; rfl

end FrameState

/-- The frame as it was when its element began. -/
def Frame.shape (frame : Frame) : Frame := { frame with state := frame.state.shape }

namespace Frames

/-- The frames as they were when their elements began. -/
def shape (frames : Frames) : Frames := frames.map Frame.shape

@[simp] theorem length_shape (frames : Frames) : frames.shape.length = frames.length :=
  List.length_map _

variable {change : FrameState → Option FrameState} {frames next : Frames}

theorem shape_changeTop? (hc : FrameState.KeepsShape change)
    (h : frames.changeTop? change = some next) : next.shape = frames.shape := by
  cases frames with
  | nil => cases h
  | cons frame outer =>
    obtain ⟨state, hs, rfl⟩ := Option.map_eq_some_iff.mp h
    simp only [shape, List.map_cons, Frame.shape, hc _ _ hs]

theorem shape_changeSeries? (hc : FrameState.KeepsShape change)
    (h : frames.changeSeries? change = some next) : next.shape = frames.shape := by
  induction frames generalizing next with
  | nil => cases h
  | cons frame outer ih =>
    rw [changeSeries?] at h
    split at h
    · exact shape_changeTop? hc h
    · obtain ⟨rest, hr, rfl⟩ := Option.map_eq_some_iff.mp h
      simp only [shape, List.map_cons, List.cons.injEq, true_and]
      exact ih hr

end Frames

namespace Document

/-- The shapes of the open elements, their number, and the number of captures. -/
def outline (d : Document) : Frames × Nat × Nat :=
  (d.frames.shape, d.tagDepth, d.output.captures.length)

/-- What a document keeps from its beginning to its end: its settings and where it is written. -/
def origin (d : Document) : Settings × Path × String × Path × Location :=
  (d.settings, d.directory, d.stem, d.path, d.place)

@[simp] theorem outline_append (d : Document) (passage : Passage) :
    (d.append passage).outline = d.outline := by
  simp [outline, append]

@[simp] theorem outline_appendPhrase (backend : Backend) (d : Document) (phrase : Phrase) :
    (d.appendPhrase backend phrase).outline = d.outline := outline_append d _

@[simp] theorem outline_stream (d : Document) : d.stream.outline = d.outline := by
  simp [outline, stream]

theorem outline_offer {take : FrameState → Option FrameState} (h : FrameState.KeepsShape take)
    (d : Document) : (d.offer take).outline = d.outline := by
  cases hc : d.frames.changeTop? take with
  | none => simp [outline, offer, hc]
  | some frames => simp [outline, offer, hc, Frames.shape_changeTop? h hc]

theorem outline_offerSeries {take : FrameState → Option FrameState}
    (h : FrameState.KeepsShape take) (d : Document) :
    (d.offerSeries take).outline = d.outline := by
  cases hc : d.frames.changeSeries? take with
  | none => simp [outline, offerSeries, hc]
  | some frames => simp [outline, offerSeries, hc, Frames.shape_changeSeries? h hc]

end Document

/-- What stays while frames are neither opened nor taken off, as far as an action lets it. -/
structure Standing where
  outline : Frames × Nat × Nat
  origin : Settings × Path × String × Path × Location
  labels : Registry
  bibliography : Bibliography
  head : Head

namespace Standing

/-- What every action leaves. -/
def fixed (standing : Standing) :
    (Frames × Nat × Nat) × (Settings × Path × String × Path × Location) :=
  (standing.outline, standing.origin)

/-- What an action leaves that may give numbers to labels. -/
def numbered (standing : Standing) : Standing × List (Target × Bool) :=
  ({ standing with labels := { standing.labels with entries := [] } },
    standing.labels.entries.map fun entry ↦ (entry.target, entry.attached))

/-- What an action leaves that may give numbers to labels and add to the head. -/
def bound (standing : Standing) : Standing × List (Target × Bool) :=
  numbered { standing with head := {} }

end Standing

namespace Document

/-- The outline, the origin, the labels, the works and the head of a document. -/
def standing (d : Document) : Standing :=
  ⟨d.outline, d.origin, d.labels, d.bibliography, d.head⟩

@[simp] theorem standing_append (d : Document) (passage : Passage) :
    (d.append passage).standing = d.standing := by
  rw [standing, outline_append]
  rfl

theorem standing_offer {take : FrameState → Option FrameState} (h : FrameState.KeepsShape take)
    (d : Document) : (d.offer take).standing = d.standing := by
  rw [standing, outline_offer h]
  rfl

theorem standing_offerSeries {take : FrameState → Option FrameState}
    (h : FrameState.KeepsShape take) (d : Document) :
    (d.offerSeries take).standing = d.standing := by
  rw [standing, outline_offerSeries h]
  rfl

@[simp] theorem standing_stream (d : Document) : d.stream.standing = d.standing := by
  rw [standing, outline_stream]
  rfl

/-- The number of a label has no part in which elements carry labels. -/
theorem numbered_standing_resolve (d : Document) (label : Label) (number : String) :
    ({ d with labels := d.labels.resolve label number } : Document).standing.numbered =
      d.standing.numbered := by
  have he : (d.labels.resolve label number).entries.map
      (fun entry ↦ (entry.target, entry.attached)) =
      d.labels.entries.map fun entry ↦ (entry.target, entry.attached) := by
    apply List.ext_getElem?
    intro index
    simp only [Registry.resolve, Registry.update, List.getElem?_map, List.getElem?_modify]
    cases d.labels.entries[index]? with
    | none => rfl
    | some entry => dsimp only [Option.map_some, Functor.map]; split <;> rfl
  exact Prod.ext rfl he

end Document

end Manuscript

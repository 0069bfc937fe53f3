import Manuscript.Proofs.Document.Inline
import Manuscript.Proofs.Document.Reception
import Manuscript.Proofs.Document.Streaming

/-!
# The stack of open elements

The open elements stand on each other, and so do the buffers that they write into. Whatever is done
at some height is a `Stack.Step`: it goes on in the innermost element (`Stack.Continues`), opens one
on it, or takes it off. Steps that never come below the height where they started have gone on at
that height, however far they went up in between (`Stack.Over.continues_of_level`).
-/

namespace Manuscript

/-! ### Buffers -/

namespace Output

/-- Something has been appended to the innermost capture, and the captures around it, the root and
the file are as they were. Without a capture, it has been appended to what is in the file and at the
root. -/
def Extends (output output' : Output) : Prop :=
  match output.captures with
  | [] => output'.captures = [] ∧ ∃ more, output'.whole = output.whole ++ more
  | capture :: outer =>
    (∃ more, output'.captures = (capture ++ more) :: outer) ∧ output'.root = output.root ∧
      output'.streamed = output.streamed

variable {output output' output'' : Output}

theorem extends_of_captures_eq_nil (h : output.captures = []) :
    output.Extends output' ↔
      output'.captures = [] ∧ ∃ more, output'.whole = output.whole ++ more := by
  rw [Extends, h]

theorem extends_of_captures_eq_cons {capture : Passage} {outer : List Passage}
    (h : output.captures = capture :: outer) :
    output.Extends output' ↔ (∃ more, output'.captures = (capture ++ more) :: outer) ∧
      output'.root = output.root ∧ output'.streamed = output.streamed := by
  rw [Extends, h]

/-- The threshold has no part in what has been written. -/
theorem extends_of_eq (captures : output'.captures = output.captures)
    (root : output'.root = output.root) (streamed : output'.streamed = output.streamed) :
    output.Extends output' := by
  cases hc : output.captures with
  | nil =>
    refine (extends_of_captures_eq_nil hc).mpr ⟨captures.trans hc, "", ?_⟩
    rw [String.append_empty, whole, root, streamed, whole]
  | cons capture outer =>
    refine (extends_of_captures_eq_cons hc).mpr ⟨⟨{}, ?_⟩, root, streamed⟩
    rw [captures, hc, Passage.append_empty]

theorem Extends.refl (output : Output) : output.Extends output := extends_of_eq rfl rfl rfl

theorem Extends.trans (h : output.Extends output') (h' : output'.Extends output'') :
    output.Extends output'' := by
  cases hc : output.captures with
  | nil =>
    rw [extends_of_captures_eq_nil hc] at h ⊢
    rw [extends_of_captures_eq_nil h.1] at h'
    obtain ⟨_, more, hm⟩ := h
    obtain ⟨hc', more', hm'⟩ := h'
    exact ⟨hc', more ++ more', by rw [hm', hm, String.append_assoc]⟩
  | cons capture outer =>
    rw [extends_of_captures_eq_cons hc] at h ⊢
    obtain ⟨⟨more, hm⟩, root, streamed⟩ := h
    rw [extends_of_captures_eq_cons hm] at h'
    obtain ⟨⟨more', hm'⟩, root', streamed'⟩ := h'
    refine ⟨⟨more ++ more', ?_⟩, root'.trans root, streamed'.trans streamed⟩
    rw [hm', Passage.append_assoc]

theorem extends_write (output : Output) (passage : Passage) :
    output.Extends (output.write passage) := by
  cases hc : output.captures with
  | nil =>
    refine (extends_of_captures_eq_nil hc).mpr ⟨by rw [write, hc], passage.markup, ?_⟩
    rw [whole_write, hc]
    rfl
  | cons capture outer =>
    rw [extends_of_captures_eq_cons hc, write, hc]
    exact ⟨⟨passage, rfl⟩, rfl, rfl⟩

theorem extends_stream (output : Output) : output.Extends output.stream := by
  rcases output.stream_cases with h | ⟨hc, h⟩
  · rw [h]
    exact .refl output
  · rw [h]
    refine (extends_of_captures_eq_nil hc).mpr ⟨hc, "", ?_⟩
    rw [whole_drain, String.append_empty]

end Output

/-! ### Open elements -/

namespace Frames

/-- The elements around an innermost one of some kind are as they were, except that a series around
a page may have been handed sub-figures. -/
inductive Gained (kind : Kind) : Frames → Frames → Prop where
  | nothing (frames : Frames) : Gained kind frames frames
  | figures {frame : Frame} {series : PendingSeries} (outer : Frames)
    (more : List PendingFigure) :
    kind = .figureSeriesPage → frame.kind = .figureSeries → frame.state = .figureSeries series →
      Gained kind (frame :: outer)
        ({ frame with state := .figureSeries { series with page := series.page ++ more } } :: outer)

/-- The innermost element may have gathered something, and the elements around it are as they were
but for sub-figures of its series. -/
inductive Continues : Frames → Frames → Prop where
  | nothing : Continues [] []
  | innermost {top : Frame} {state : FrameState} {outer outer' : Frames} :
    state.shape = top.state.shape → Gained top.kind outer outer' →
      Continues (top :: outer) ({ top with state } :: outer')

variable {frames frames' frames'' : Frames} {kind : Kind}

theorem Gained.trans (h : Gained kind frames frames') (h' : Gained kind frames' frames'') :
    Gained kind frames frames'' := by
  cases h with
  | nothing => exact h'
  | figures outer more page hk hs =>
    cases h' with
    | nothing => exact .figures outer more page hk hs
    | figures _ more' _ _ hs' =>
      cases hs'
      rw [List.append_assoc]
      exact .figures outer (more ++ more') page hk hs

/-- What has been gained is something that the innermost of the elements around has gathered. -/
theorem Gained.continues (h : Gained kind frames frames') : frames.Continues frames' := by
  cases h with
  | nothing =>
    cases frames with
    | nil => exact .nothing
    | cons frame outer => exact .innermost rfl (.nothing outer)
  | figures outer more _ _ hs =>
    refine .innermost ?_ (.nothing outer)
    rw [hs]
    rfl

theorem Continues.refl (frames : Frames) : frames.Continues frames :=
  have same : Gained .body frames frames := .nothing frames
  same.continues

theorem Continues.trans (h : frames.Continues frames') (h' : frames'.Continues frames'') :
    frames.Continues frames'' := by
  cases h with
  | nothing => exact h'
  | innermost shape gained =>
    cases h' with
    | innermost shape' gained' => exact .innermost (shape'.trans shape) (gained.trans gained')

theorem Continues.length_eq (h : frames.Continues frames') : frames'.length = frames.length := by
  cases h with
  | nothing => rfl
  | innermost _ gained => cases gained <;> rfl

/-- What is handed to the innermost element leaves those around it. -/
theorem continues_changeTop? {change : FrameState → Option FrameState}
    (hc : FrameState.KeepsShape change) (frames : Frames) :
    frames.Continues ((frames.changeTop? change).getD frames) := by
  cases frames with
  | nil => exact .nothing
  | cons top outer =>
    rw [changeTop?]
    cases hs : change top.state with
    | none => exact .refl _
    | some state => exact .innermost (hc _ _ hs) (.nothing outer)

/-- Where a sub-figure may stand, the innermost series is the innermost element or directly around
it. -/
theorem Nested.continues_changeSeries? (h : frames.Nested)
    (allowed : Kind.subFigure.allowedIn frames.innermost = true) (figure : PendingFigure) :
    frames.Continues
      ((frames.changeSeries? (FrameState.takeSubFigure? figure)).getD frames) := by
  obtain ⟨series, outer, pending, hk, hs, rfl | ⟨page, hp, rfl⟩⟩ := h.exists_series allowed
  · rw [changeSeries?, if_pos hk]
    exact continues_changeTop? (FrameState.keepsShape_takeSubFigure? figure) _
  · have taken : changeSeries? (FrameState.takeSubFigure? figure) (page :: series :: outer) =
        some (page :: { series with state := .figureSeries (pending.add figure) } :: outer) := by
      rw [changeSeries?, if_neg (by rw [hp]; decide), changeSeries?, if_pos hk, changeTop?, hs]
      rfl
    rw [taken]
    exact .innermost rfl (.figures outer [figure] hp hk hs)

end Frames

/-! ### Stacks -/

/-- The open elements, and the buffers that they write into. -/
structure Stack where
  frames : Frames
  output : Output

/-- The stack of a document. -/
def Document.stack (d : Document) : Stack := ⟨d.frames, d.output⟩

namespace Stack

/-- What has been done since has reached nothing but what the innermost element gathers, the series
of a page, and the end of the current buffer. -/
structure Continues (a b : Stack) : Prop where
  frames : a.frames.Continues b.frames
  output : a.output.Extends b.output

/-- The second stack has one more element on the first one, with a capture of its own if its content
is held back. -/
structure Carries (a : Stack) (frame : Frame) (b : Stack) : Prop where
  frames : b.frames = frame :: a.frames
  captures : ∃ content, b.output.captures =
    if frame.captured then content :: a.output.captures else a.output.captures
  root : b.output.root = a.output.root
  streamed : b.output.streamed = a.output.streamed

/-- What a call may do to a stack. -/
inductive Step (a b : Stack) : Prop where
  | within : a.Continues b → Step a b
  | opened {frame : Frame} {middle : Stack} :
    a.Continues middle → middle.Carries frame b → Step a b
  | closed {frame : Frame} {middle : Stack} :
    middle.Carries frame a → middle.Continues b → Step a b

/-- There are so many elements open on a stack that continues the first one. -/
inductive Over (start : Stack) : Nat → Stack → Prop where
  | level {a : Stack} : start.Continues a → Over start 0 a
  | above {n : Nat} {a b : Stack} {frame : Frame} :
    Over start n a → a.Carries frame b → Over start (n + 1) b

variable {a b c start : Stack} {frame frame' : Frame} {n : Nat}

theorem Continues.refl (a : Stack) : a.Continues a := ⟨.refl _, .refl _⟩

theorem Continues.trans (h : a.Continues b) (h' : b.Continues c) : a.Continues c :=
  ⟨h.frames.trans h'.frames, h.output.trans h'.output⟩

/-- One and the same stack lies below an element. -/
theorem Carries.continues_of_carries (h : a.Carries frame c) (h' : b.Carries frame' c) :
    a.Continues b := by
  obtain ⟨rfl, same⟩ := List.cons_eq_cons.mp (h.frames.symm.trans h'.frames)
  refine ⟨same ▸ .refl _, Output.extends_of_eq ?_ (h'.root.symm.trans h.root)
    (h'.streamed.symm.trans h.streamed)⟩
  obtain ⟨content, captures⟩ := h.captures
  obtain ⟨content', captures'⟩ := h'.captures
  rw [captures] at captures'
  split at captures'
  · exact (List.cons_eq_cons.mp captures').2.symm
  · exact captures'.symm

/-- What goes on in an element goes on in the elements around it. -/
theorem Carries.exists_of_continues (h : a.Carries frame b) (hc : b.Continues c) :
    ∃ middle frame', a.Continues middle ∧ middle.Carries frame' c := by
  obtain ⟨frames, output⟩ := hc
  obtain ⟨content, captures⟩ := h.captures
  rw [h.frames] at frames
  obtain ⟨cframes, coutput⟩ := c
  cases frames with
  | @innermost _ state _ outer _ gained =>
    by_cases held : frame.captured
    · rw [if_pos held] at captures
      rw [Output.extends_of_captures_eq_cons captures] at output
      obtain ⟨⟨more, hm⟩, root, streamed⟩ := output
      refine ⟨⟨outer, a.output⟩, { frame with state }, ⟨gained.continues, .refl _⟩, rfl,
        ⟨content ++ more, ?_⟩, root.trans h.root, streamed.trans h.streamed⟩
      exact hm.trans (if_pos held).symm
    · rw [if_neg held] at captures
      refine ⟨⟨outer, coutput⟩, { frame with state }, ⟨gained.continues, ?_⟩, rfl, ⟨{}, ?_⟩, rfl,
        rfl⟩
      · exact (Output.extends_of_eq captures h.root h.streamed).trans output
      · exact (if_neg held).symm

theorem Over.continues (h : Over start n a) (hc : a.Continues b) : Over start n b := by
  induction h generalizing b with
  | level h => exact .level (h.trans hc)
  | above _ carries ih =>
    obtain ⟨middle, frame, around, on⟩ := carries.exists_of_continues hc
    exact .above (ih around) on

theorem Over.length_eq (h : Over start n a) : a.frames.length = start.frames.length + n := by
  induction h with
  | level h => exact h.frames.length_eq
  | above _ carries ih => rw [carries.frames, List.length_cons, ih, Nat.add_assoc]

/-- A step that does not come below the height where the steps started leaves the stack over it. -/
theorem Over.step (h : Over start n a) (hs : Step a b)
    (high : start.frames.length ≤ b.frames.length) : ∃ n, Over start n b := by
  cases hs with
  | within hc => exact ⟨n, h.continues hc⟩
  | opened hc carries => exact ⟨n + 1, .above (h.continues hc) carries⟩
  | closed carries hc =>
    cases h with
    | level level =>
      have up := congrArg List.length carries.frames
      rw [List.length_cons, level.frames.length_eq] at up
      have down := hc.frames.length_eq
      omega
    | above below on => exact ⟨_, (below.continues (on.continues_of_carries carries)).continues hc⟩

theorem Over.continues_of_level (h : Over start n a)
    (level : a.frames.length = start.frames.length) : start.Continues a := by
  have up := h.length_eq
  cases h with
  | level h => exact h
  | above => omega

end Stack

end Manuscript

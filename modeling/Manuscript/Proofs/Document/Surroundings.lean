import Manuscript.Proofs.Document.Ongoing
import Manuscript.Proofs.Document.Showing
import Manuscript.Proofs.Document.Stack
import Manuscript.Xhtml.Backend

/-!
# The surroundings of an element

Whatever is called inside an element, its surroundings are as they were when it ends: no call
reaches below the innermost element but into the series of a page, and no call changes what has been
written. To continue the stack is an ongoing relation (`Session.ongoing_persists`), so every call
is a step of the stack, and a run that never comes below the height where it started stays over the
stack there (`Session.over_run`).
-/

namespace Manuscript

namespace Session

open Action

/-- The stack of the first session goes on in that of the second one. -/
abbrev Persists (s t : Session) : Prop := s.document.stack.Continues t.document.stack

/-- Writing, streaming, handing over and taking note continue the stack. -/
theorem ongoing_persists : Ongoing Persists where
  refl s := .refl s.document.stack
  trans h h' := h.trans h'
  append s passage := ⟨.refl _, s.document.output.extends_write passage⟩
  stream s := ⟨.refl _, s.document.output.extends_stream⟩
  offer s _ hc := ⟨s.document.frames.continues_changeTop? hc, .refl _⟩
  note s f h := by
    simp only [Document.substance, Prod.mk.injEq] at h
    have same : (f s.document).stack = s.document.stack := by
      rw [Document.stack, h.2.1, h.2.2.1, Document.stack]
    change s.document.stack.Continues (f s.document).stack
    exact same ▸ .refl _

/-! ### Beginning -/

/-- An element that is pushed stands on the stack, with an empty capture if it has one. -/
theorem carries_push (d : Document) (frame : Frame) :
    d.stack.Carries frame (d.push frame).stack := by
  obtain ⟨kind, captured, state⟩ := frame
  cases captured with
  | true => exact ⟨rfl, ⟨{}, rfl⟩, rfl, rfl⟩
  | false => exact ⟨rfl, ⟨{}, rfl⟩, rfl, rfl⟩

/-- Beginning an element opens a frame, unless it is refused. -/
theorem ensures_beginElement_stack (backend : Backend) (element : Element) (s : Session) :
    Ensures (· = s) (beginElement backend element)
      (fun _ t ↦ s.document.stack.Step t.document.stack)
      fun _ t ↦ s.document.stack.Step t.document.stack :=
  ongoing_persists.ensures_beginElement backend element s (fun _ ht ↦ .within ht)
    fun t frame ht ↦ .opened ht (carries_push t.document frame)

/-! ### Ending -/

/-- What leaves the stack alone continues it. -/
theorem relates_persists_of_keeps {α : Type} {act : Action α} (h : Keeps (·.document.stack) act) :
    Relates Persists act := by
  intro s
  have same (t : Session) (ht : t.document.stack = s.document.stack) : s.Persists t := by
    rw [Persists, ht]
    exact .refl _
  exact (h s.document.stack).mono (fun t ht ↦ ht ▸ rfl) (fun _ ↦ same) fun _ ↦ same

/-- A sub-figure that is closed is handed to the series around it, which is not far. Everything else
reaches no more than the innermost of the elements around. -/
theorem ensures_closeFrame_stack (backend : Backend) (frame : Frame) (captured : Passage)
    (s : Session) (stands : frame.StandsOn s.document.frames)
    (nested : s.document.frames.Nested) :
    Ensures (· = s) (closeFrame backend frame captured) (fun _ t ↦ s.Persists t)
      fun _ t ↦ s.Persists t := by
  have suits := stands.suits
  have counted : Relates Persists (change fun d ↦ { d with figures := d.figures + 1 }) :=
    relates_persists_of_keeps (keeps_change fun _ ↦ rfl)
  have passes := ongoing_persists
  obtain ⟨kind, held, state⟩ := frame
  cases state with
  | subFigure figure =>
    have kind : kind = .subFigure := eq_of_beq suits
    have allowed := stands.allowed
    rw [kind] at allowed
    refine ensures_change ?_
    rintro _ rfl
    exact ⟨nested.continues_changeSeries? allowed figure, .refl _⟩
  | figure figure =>
    have closed : Relates Persists (closeFigure backend figure) :=
      passes.bind counted fun _ ↦ Ongoing.current fun _ ↦ passes.bind (passes.resolve _ _) fun _ ↦
        passes.bind (relates_persists_of_keeps
          (keeps_figureBody backend figure _ fun _ _ _ _ ↦ rfl)) fun _ ↦ passes.emitLine _
    exact closed s
  | figureSeries series =>
    have closed : Relates Persists (closeSeries backend series) :=
      passes.bind counted fun _ ↦ Ongoing.current fun _ ↦ passes.bind (passes.resolve _ _) fun _ ↦
        passes.bind (relates_persists_of_keeps
          (keeps_seriesPages backend _ 0 series.groups fun _ _ _ _ ↦ rfl)) fun _ ↦
            passes.emitLine _
    exact closed s
  | _ => exact passes.closeFrame backend _ captured rfl s

/-- An element that is taken off stood on the stack that is left, with its capture if it has one. -/
theorem carries_pop {d : Document} {frame : Frame} {outer : Frames} (nested : d.Nested)
    (hf : d.frames = frame :: outer) : d.pop.stack.Carries frame d.stack := by
  obtain ⟨hc, -, popped⟩ | ⟨rest, hc, ho, popped⟩ := nested.pop_cases hf <;> rw [popped]
  · exact ⟨hf, ⟨{}, by rw [hc]; rfl⟩, rfl, rfl⟩
  · exact ⟨hf, ⟨_, by rw [hc]; exact ho⟩, rfl, rfl⟩

/-- Ending an element takes it off, unless it is not the innermost one. -/
theorem ensures_endElement_stack (backend : Backend) (kind : Kind) (s : Session)
    (nested : s.document.Nested) :
    Ensures (· = s) (endElement backend kind)
      (fun _ t ↦ s.document.stack.Step t.document.stack)
      fun _ t ↦ s.document.stack.Step t.document.stack := by
  refine ensures_end nested (fun _ ↦ .within (.refl _)) fun frame outer hf _ ↦ ?_
  have frames := nested.frames
  have carries := carries_pop nested hf
  have popped := Document.frames_pop hf
  rw [hf] at frames
  exact (ensures_closeFrame_stack backend frame s.document.held (s.modifyDocument Document.pop)
    (popped ▸ frames.1) (popped ▸ frames.2)).mono (fun _ ht ↦ ht)
    (fun _ t ht ↦ .closed carries (ht.trans (ongoing_persists.stream t))) fun _ _ ht ↦
      .closed carries ht

/-! ### Calls and runs -/

/-- Every call is a step of the stack. -/
theorem step_stack_perform (backend : Backend) (call : Call) (s : Session)
    (nested : s.document.Nested) :
    s.document.stack.Step (s.perform backend call).2.document.stack := by
  have step (h : Ensures (· = s) (call.action backend)
      (fun _ t ↦ s.document.stack.Step t.document.stack)
      fun _ t ↦ s.document.stack.Step t.document.stack) :
      s.document.stack.Step (s.perform backend call).2.document.stack :=
    perform_of_ensures h rfl
  have within (hb : ∀ element, call ≠ .beginElement element)
      (he : ∀ kind, call ≠ .endElement kind) :
      s.document.stack.Step (s.perform backend call).2.document.stack :=
    step ((ongoing_persists.action backend call hb he s).mono (fun _ ht ↦ ht)
      (fun _ _ ht ↦ .within ht) fun _ _ ht ↦ .within ht)
  cases call with
  | beginElement element =>
    exact step ((ensures_beginElement_stack backend element s).bind fun _ ↦
      ensures_pure fun _ ht ↦ ht)
  | endElement kind =>
    exact step ((ensures_endElement_stack backend kind s nested).bind fun _ ↦
      ensures_pure fun _ ht ↦ ht)
  | _ => exact within nofun nofun

/-- A run that never comes below the height where it started is over the stack that it started
from. -/
theorem over_run (backend : Backend) (calls : List Call) {s t : Session} {n : Nat}
    (nested : s.document.Nested) (ho : t.document.stack.Over n s.document.stack)
    (high : ∀ before after, calls = before ++ after →
      t.document.frames.length ≤ (s.run backend before).document.frames.length) :
    ∃ n, t.document.stack.Over n (s.run backend calls).document.stack := by
  induction calls generalizing s n with
  | nil => exact ⟨n, ho⟩
  | cons call calls ih =>
    have up := high [call] calls rfl
    obtain ⟨m, hm⟩ := ho.step (step_stack_perform backend call s nested) up
    refine ih (nested_perform backend call nested).1 hm fun before after h ↦ ?_
    rw [← run_cons]
    exact high (call :: before) after (h ▸ rfl)

/-- The frame rule. Calls from any session that can be reached that never come below the height of
the stack there and end at that height, whether they are accepted or refused, leave what lies around
the innermost element as it was. The elements further out are the same, except that the series
around a page may have been handed sub-figures; the innermost element is the same but for what it
gathers; the captures around the current buffer are the same, with the root and the file below a
capture; and what the current buffer held is still the beginning of it. -/
theorem continues_run (backend : Backend) (context : Context) (path : Path) (place : Location)
    (serial : Nat) (files : FileSystem) (earlier calls : List Call) :
    let s := run backend earlier ⟨context.document path place serial, files⟩
    let t := s.run backend calls
    (∀ before after, calls = before ++ after →
      s.document.frames.length ≤ (s.run backend before).document.frames.length) →
    t.document.frames.length = s.document.frames.length →
    (∀ top outer, s.document.frames = top :: outer → ∃ state outer',
      t.document.frames = { top with state } :: outer' ∧ state.shape = top.state.shape ∧
      (outer' = outer ∨
        ∃ frame series rest more, top.kind = .figureSeriesPage ∧ frame.kind = .figureSeries ∧
          frame.state = .figureSeries series ∧ outer = frame :: rest ∧
          outer' = { frame with
            state := .figureSeries { series with page := series.page ++ more } } :: rest)) ∧
    (∀ capture captures, s.document.output.captures = capture :: captures →
      ∃ markup text, t.document.output.captures =
          ⟨capture.markup ++ markup, capture.text ++ text⟩ :: captures ∧
        t.document.output.root = s.document.output.root ∧
        t.document.output.streamed = s.document.output.streamed) ∧
    (s.document.output.captures = [] → t.document.output.captures = [] ∧
      ∃ more, t.document.output.streamed ++ t.document.output.root.markup =
        s.document.output.streamed ++ s.document.output.root.markup ++ more) := by
  intro s t high level
  have nested : s.document.Nested :=
    nested_run backend earlier (context.nested_document path place serial)
  obtain ⟨n, ho⟩ := over_run backend calls nested (.level (.refl s.document.stack)) high
  obtain ⟨frames, output⟩ := ho.continues_of_level level
  refine ⟨fun top outer hs ↦ ?_, fun capture captures hc ↦ ?_, fun hc ↦ ?_⟩
  · rw [show s.document.stack.frames = top :: outer from hs] at frames
    change Frames.Continues _ t.document.frames at frames
    generalize t.document.frames = later at frames
    cases frames with
    | innermost shape gained =>
      refine ⟨_, _, rfl, shape, ?_⟩
      cases gained with
      | nothing => exact .inl rfl
      | @figures frame series rest more page hk pending =>
        exact .inr ⟨frame, series, rest, more, page, hk, pending, rfl, rfl⟩
  · obtain ⟨⟨more, hm⟩, root, streamed⟩ := (Output.extends_of_captures_eq_cons hc).mp output
    exact ⟨more.markup, more.text, hm, root, streamed⟩
  · exact (Output.extends_of_captures_eq_nil hc).mp output

/-- A sub-figure that begins and ends on a page, with a refused call between, is handed to the
series around the page. -/
theorem continues_run_page :
    let fresh : Session :=
      ⟨(⟨⟨"/"⟩, "index", {}, false⟩ : Context).document ⟨"/index.xhtml"⟩ ["index.xhtml"] 0, {}⟩
    let earlier : List Call := [.beginElement .header, .endElement .header, .beginElement .body,
      .beginElement (.figureSeries none 2), .beginElement .figureSeriesPage]
    let calls : List Call := [.beginElement (.subFigure none), .beginElement .caption,
      .write "left", .endElement .caption, .endElement .body, .endElement .subFigure]
    let s := fresh.run Xhtml.backend earlier
    let t := s.run Xhtml.backend calls
    (∀ before after, calls = before ++ after →
      s.document.frames.length ≤ (s.run Xhtml.backend before).document.frames.length) ∧
    t.document.frames.length = s.document.frames.length ∧
    ∃ page state frame series rest more, s.document.frames = page :: frame :: rest ∧
      frame.state = .figureSeries series ∧ more ≠ [] ∧
      t.document.frames = { page with state } ::
        { frame with state := .figureSeries { series with page := series.page ++ more } } ::
          rest := by
  intro fresh earlier calls s t
  have heights : ∀ count < 7, s.document.frames.length ≤
      (s.run Xhtml.backend (calls.take count)).document.frames.length := by decide +kernel
  have high (before after : List Call) (h : calls = before ++ after) :
      s.document.frames.length ≤ (s.run Xhtml.backend before).document.frames.length := by
    have start : calls.take before.length = before := by rw [h, List.take_left]
    rw [← start]
    have length : 6 = before.length + after.length :=
      (congrArg List.length h).trans List.length_append
    exact heights _ (by omega)
  have level : t.document.frames.length = s.document.frames.length := by decide +kernel
  have gained : t.document.frames.tail ≠ s.document.frames.tail := by decide +kernel
  refine ⟨high, level, ?_⟩
  obtain ⟨kept, -, -⟩ := continues_run Xhtml.backend _ _ _ _ _ earlier calls high level
  cases hs : s.document.frames with
  | nil => exact absurd hs (by decide +kernel)
  | cons page outer =>
    obtain ⟨state, outer', ht, -, rfl | ⟨frame, series, rest, more, -, -, pending, rfl, rfl⟩⟩ :=
      kept page outer hs
    · exact absurd ((congrArg List.tail ht).trans (congrArg List.tail hs).symm) gained
    · refine ⟨page, state, frame, series, rest, more, rfl, pending, ?_, ht⟩
      rintro rfl
      apply gained
      rw [hs]
      refine (congrArg List.tail ht).trans ?_
      simp only [List.tail_cons, List.append_nil, ← pending]

end Session

end Manuscript

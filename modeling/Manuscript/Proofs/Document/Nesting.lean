import Manuscript.Press.Context
import Manuscript.Proofs.Document.Admission
import Manuscript.Proofs.Document.Starting

/-!
# Nesting

In every state that calls can reach, the open elements are nested as the nesting rule says, each
frame has the state and the capture that its kind is opened with, and the counts of elements and
captures agree with the frames (`Document.Nested`). So whatever ends finds the state that takes its
content, and nothing is lost on the way.
-/

namespace Manuscript

namespace FrameState

/-- Whether elements of the kind are opened with a state of this sort. An invocation has a slot for
each parameter of its macro. -/
def suits (kind : Kind) : FrameState → Bool
  | plain =>
    match kind with
    | .header | .title | .authors | .author | .date | .body | .sectionTitle | .sectionBody
    | .paragraph | .figureSeriesPage | .caption | .tablePage | .tableHeader | .tableFooter
    | .inlineMath | .mathOpParam | .mathName | .macroParameter | .item => true
    | _ => false
  | sect _ _ => kind == .sect
  | figure _ => kind == .figure
  | subFigure _ => kind == .subFigure
  | figureBody _ _ _ => kind == .figureBody
  | figureSeries _ => kind == .figureSeries
  | table _ => kind == .table
  | tableRow _ _ => kind == .tableRow
  | tableCell _ => kind == .tableCell
  | equation _ => kind == .equation
  | mathOp _ _ => kind == .mathOp
  | macroDefinition _ => kind == .macroDefinition
  | macroInvocation signature arguments =>
    kind == .macroInvocation && arguments.length == signature.arity
  | argument _ => kind == .macroParameter
  | styled style => kind == style.kind
  | list ordered => kind == .ofList ordered

/-- The number of slots for arguments. -/
def slots : FrameState → Nat
  | macroInvocation _ arguments => arguments.length
  | _ => 0

/-- The label that the element carries. -/
def label? : FrameState → Option Label
  | sect label _ | equation label => label
  | figure f | subFigure f => f.label
  | figureSeries s => s.label
  | table t => t.label
  | _ => none

@[simp] theorem label?_shape (state : FrameState) : state.shape.label? = state.label? := by
  cases state <;> rfl

@[simp] theorem suits_shape (kind : Kind) (state : FrameState) :
    state.shape.suits kind = state.suits kind := by
  cases state <;> simp [shape, suits]

@[simp] theorem slots_shape (state : FrameState) : state.shape.slots = state.slots := by
  cases state <;> simp [shape, slots]

@[simp] theorem shape_eq_plain (state : FrameState) : state.shape = plain ↔ state = plain := by
  cases state <;> simp [shape]

@[simp] theorem shape_eq_argument (state : FrameState) (index : Nat) :
    state.shape = argument index ↔ state = argument index := by
  cases state <;> simp [shape]

end FrameState

/-- The number of slots for arguments in the innermost open element. -/
def Frames.slots (frames : Frames) : Nat := (frames.topState?.map FrameState.slots).getD 0

/-- A frame is such as an element of its kind is opened with inside the elements around it. A macro
parameter is a captured argument directly inside an invocation, and nothing is held back for it
anywhere else. -/
structure Frame.StandsOn (frame : Frame) (outer : Frames) : Prop where
  allowed : frame.kind.allowedIn outer.innermost = true
  suits : frame.state.suits frame.kind = true
  captured : frame.kind ≠ .macroParameter → frame.captured = frame.kind.captures
  argument : frame.kind = .macroParameter → outer.innermost = some .macroInvocation →
    frame.captured = true ∧ ∃ index < outer.slots, frame.state = .argument index
  placeholder : frame.kind = .macroParameter → outer.innermost ≠ some .macroInvocation →
    frame.captured = false ∧ frame.state = .plain

namespace Frames

/-- Every frame stands on those around it. -/
def Nested : Frames → Prop
  | [] => True
  | frame :: outer => frame.StandsOn outer ∧ Nested outer

@[simp] theorem innermost_shape (frames : Frames) : frames.shape.innermost = frames.innermost := by
  cases frames <;> rfl

@[simp] theorem slots_shape (frames : Frames) : frames.shape.slots = frames.slots := by
  cases frames with
  | nil => rfl
  | cons frame outer => simp [slots, shape, topState?, Frame.shape]

/-- Whether a frame stands on others depends on the shapes alone. -/
theorem standsOn_shape (frame : Frame) (outer : Frames) :
    frame.shape.StandsOn outer.shape ↔ frame.StandsOn outer := by
  constructor
  · rintro ⟨allowed, suits, captured, argument, placeholder⟩
    simp only [Frame.shape, innermost_shape, slots_shape, FrameState.suits_shape,
      FrameState.shape_eq_argument, FrameState.shape_eq_plain] at *
    exact ⟨allowed, suits, captured, argument, placeholder⟩
  · rintro ⟨allowed, suits, captured, argument, placeholder⟩
    constructor <;> simp only [Frame.shape, innermost_shape, slots_shape, FrameState.suits_shape,
      FrameState.shape_eq_argument, FrameState.shape_eq_plain] <;> assumption

theorem nested_shape (frames : Frames) : frames.shape.Nested ↔ frames.Nested := by
  induction frames with
  | nil => rfl
  | cons frame outer ih =>
    change frame.shape.StandsOn (shape outer) ∧ (shape outer).Nested ↔ _
    rw [standsOn_shape, ih, Nested]

theorem countP_captured_shape (frames : Frames) :
    frames.shape.countP Frame.captured = frames.countP Frame.captured := by
  rw [shape, List.countP_map]
  rfl

end Frames

/-- The counts of a document agree with its frames, which are nested. -/
structure Document.Nested (d : Document) : Prop where
  tagDepth_eq : d.tagDepth = d.frames.length
  captures_eq : d.output.captures.length = d.frames.countP Frame.captured
  frames : d.frames.Nested

/-- Whether a document is nested can be told from its outline. -/
theorem Document.nested_iff_outline (d : Document) :
    d.Nested ↔ d.outline.2.1 = d.outline.1.length ∧
      d.outline.2.2 = d.outline.1.countP Frame.captured ∧ d.outline.1.Nested := by
  simp only [outline, Frames.countP_captured_shape, Frames.nested_shape, Frames.length_shape]
  exact ⟨fun h ↦ ⟨h.1, h.2, h.3⟩, fun h ↦ ⟨h.1, h.2.1, h.2.2⟩⟩

theorem Document.nested_of_outline {d e : Document} (h : d.Nested) (he : e.outline = d.outline) :
    e.Nested := by
  rw [nested_iff_outline] at h ⊢
  rw [he]
  exact h

/-! ### The outermost element -/

/-- A kind that stands in no other stands at the root. -/
theorem Kind.parent_eq_none {kind : Kind} {parent : Option Kind}
    (hw : ∀ parent, kind.allowedWithin parent = false) (h : kind.allowedIn parent = true) :
    parent = none := by
  cases parent with
  | none => rfl
  | some parent => cases (hw parent).symm.trans h

theorem Frames.eq_nil_of_allowedIn {frames : Frames} {kind : Kind}
    (hw : ∀ parent, kind.allowedWithin parent = false)
    (h : kind.allowedIn frames.innermost = true) : frames = [] :=
  List.head?_eq_none_iff.mp (Option.map_eq_none_iff.mp (Kind.parent_eq_none hw h))

theorem Frame.StandsOn.eq_nil {frame : Frame} {outer : Frames} {kind : Kind}
    (h : frame.StandsOn outer) (hk : frame.kind = kind)
    (hw : ∀ parent, kind.allowedWithin parent = false) : outer = [] :=
  Frames.eq_nil_of_allowedIn hw (hk ▸ h.allowed)

/-- An element that stands at the root alone and is written there is the only one open when it is
the innermost, and nothing is held back. -/
theorem Document.Nested.exists_outermost {d : Document} {kind : Kind} (h : d.Nested)
    (hi : d.innermost = some kind) (hw : ∀ parent, kind.allowedWithin parent = false)
    (hp : kind ≠ .macroParameter) (hc : kind.captures = false) :
    ∃ frame, d.frames = [frame] ∧ frame.kind = kind ∧ frame.captured = false ∧
      d.output.captures = [] := by
  obtain ⟨frame, outer, hf, rfl⟩ := exists_of_innermost hi
  have frames := h.frames
  have captures := h.captures_eq
  rw [hf] at frames captures
  obtain rfl := frames.1.eq_nil rfl hw
  have written : frame.captured = false := (frames.1.captured hp).trans hc
  rw [List.countP_singleton, written] at captures
  exact ⟨frame, hf, rfl, written, List.length_eq_zero_iff.mp captures⟩

/-! ### Beginning -/

/-- A frame that stands on the open ones may be pushed. -/
theorem Document.Nested.push {d : Document} (h : d.Nested) {frame : Frame}
    (hf : frame.StandsOn d.frames) : (d.push frame).Nested where
  tagDepth_eq := congrArg (· + 1) h.tagDepth_eq
  captures_eq := by
    rw [Document.push, List.countP_cons, ← h.captures_eq]
    cases frame.captured <;> rfl
  frames := ⟨hf, h.frames⟩

namespace Frames

variable {frames : Frames}

/-- The state of the innermost element suits its kind. -/
theorem Nested.exists_topState? (h : frames.Nested) {kind : Kind}
    (hk : frames.innermost = some kind) :
    ∃ state, frames.topState? = some state ∧ state.suits kind = true := by
  cases frames with
  | nil => cases hk
  | cons frame outer =>
    cases hk
    exact ⟨frame.state, rfl, h.1.suits⟩

theorem Nested.exists_innermost (h : frames.Nested) {state : FrameState}
    (hs : frames.topState? = some state) :
    ∃ kind, frames.innermost = some kind ∧ state.suits kind = true := by
  cases frames with
  | nil => cases hs
  | cons frame outer =>
    cases hs
    exact ⟨frame.kind, rfl, h.1.suits⟩

end Frames

namespace FrameState

variable {state : FrameState}

theorem suits_macroInvocation (h : state.suits .macroInvocation = true) :
    ∃ signature arguments, state = .macroInvocation signature arguments ∧
      arguments.length = signature.arity := by
  cases state with
  | macroInvocation signature arguments =>
    exact ⟨signature, arguments, rfl, by simpa [suits] using h⟩
  | styled style => cases style <;> cases h
  | list ordered => cases ordered <;> cases h
  | _ => cases h

/-- Only an invocation has the state of one. -/
theorem kind_of_suits_macroInvocation {kind : Kind} {signature : Macro.Signature}
    {arguments : List (Option Passage)}
    (h : (macroInvocation signature arguments).suits kind = true) : kind = .macroInvocation := by
  rw [suits, Bool.and_eq_true, beq_iff_eq] at h
  exact h.1

/-- What gathers nothing has no other state, but for a macro parameter. -/
theorem eq_plain_of_suits {kind : Kind} (hp : plain.suits kind = true)
    (hk : kind ≠ .macroParameter) (h : state.suits kind = true) : state = .plain := by
  cases state with
  | plain => rfl
  | macroInvocation signature arguments =>
    cases kind_of_suits_macroInvocation h
    cases hp
  | argument index => exact absurd (eq_of_beq h) hk
  | styled style =>
    cases eq_of_beq h
    cases style <;> cases hp
  | list ordered =>
    cases eq_of_beq h
    cases ordered <;> cases hp
  | _ =>
    cases eq_of_beq h
    cases hp

end FrameState

namespace Element

variable {element : Element} {state : FrameState}

theorem suits_of_ownState? (h : element.ownState? = some state) :
    state.suits element.kind = true := by
  cases element with
  | styled | list | macroInvocation =>
    cases h
    simp [FrameState.suits, kind]
  | _ => cases h <;> rfl

theorem label?_of_ownState? (h : element.ownState? = some state) :
    state.label? = element.label? := by
  cases element <;> cases h <;> rfl

end Element

namespace Document.Start

variable {d e : Document} {element : Element} {answer : FrameState × Bool}

theorem suits (h : d.Start element answer e) : answer.1.suits element.kind = true := by
  cases h with
  | own hs => exact Element.suits_of_ownState? hs
  | _ => rfl

/-- The state at the start of an element carries the label of the element. -/
theorem label?_eq (h : d.Start element answer e) : answer.1.label? = element.label? := by
  cases h with
  | own hs => exact Element.label?_of_ownState? hs
  | _ => rfl

theorem captured_eq (h : d.Start element answer e) (hp : element.kind ≠ .macroParameter) :
    answer.2 = element.kind.captures := by
  cases h with
  | argument | placeholder => exact absurd rfl hp
  | _ => rfl

/-- A parameter inside an invocation is an argument. -/
theorem argument_of_innermost {index : Nat} (h : d.Start (.macroParameter index) answer e)
    (hd : d.Nested) (inside : d.innermost = some .macroInvocation) :
    answer = (.argument index, true) ∧ index < d.frames.slots := by
  obtain ⟨state, top, suits⟩ := hd.frames.exists_topState? inside
  obtain ⟨signature, arguments, rfl, length⟩ := FrameState.suits_macroInvocation suits
  cases h with
  | own hs => cases hs
  | argument top' fits =>
    cases top.symm.trans top'
    have slots : d.frames.slots = signature.arity := by
      rw [Frames.slots, top]
      exact length
    exact ⟨rfl, slots ▸ fits⟩
  | placeholder apart => exact absurd top (apart signature arguments)

/-- A parameter that is not directly inside an invocation is a placeholder. -/
theorem placeholder_of_innermost {index : Nat} (h : d.Start (.macroParameter index) answer e)
    (hd : d.Nested) (outside : d.innermost ≠ some .macroInvocation) : answer = (.plain, false) := by
  cases h with
  | own hs => cases hs
  | argument top =>
    obtain ⟨kind, hk, suits⟩ := hd.frames.exists_innermost top
    cases FrameState.kind_of_suits_macroInvocation suits
    exact absurd hk outside
  | placeholder => rfl

/-- What is begun where the nesting rule allows it stands on the open elements. -/
theorem standsOn (h : d.Start element answer e) (hd : d.Nested)
    (allowed : element.kind.allowedIn d.innermost = true) :
    Frame.StandsOn ⟨element.kind, answer.2, answer.1⟩ d.frames where
  allowed
  suits := h.suits
  captured := h.captured_eq
  argument hk inside := by
    obtain ⟨index, rfl⟩ := Session.eq_macroParameter_of_kind hk
    obtain ⟨rfl, fits⟩ := h.argument_of_innermost hd inside
    exact ⟨rfl, index, fits, rfl⟩
  placeholder hk outside := by
    obtain ⟨index, rfl⟩ := Session.eq_macroParameter_of_kind hk
    obtain rfl := h.placeholder_of_innermost hd outside
    exact ⟨rfl, rfl⟩

end Document.Start

namespace Session

open Action

/-- Beginning an element keeps the elements nested, whether it is begun or refused. -/
theorem ensures_beginElement (backend : Backend) (element : Element) :
    Ensures (·.document.Nested) (beginElement backend element)
      (fun _ s ↦ s.document.Nested) fun _ s ↦ s.document.Nested := by
  refine ensures_of_forall fun s nested ↦ ?_
  refine ensures_begin (fun answer t ↦
    Frame.StandsOn ⟨element.kind, answer.2, answer.1⟩ s.document.frames ∧
      t.document.outline = s.document.outline) (fun _ ↦ nested) (fun fits ↦ ?_) fun _ answer ↦
        ensures_of_imp fun stands ↦ ?_
  · have started := (ensures_start backend element s).and
      ((free_start backend element).keeps.comp Standing.outline s.document.outline)
    refine started.mono (fun t ht ↦ ht ▸ ⟨rfl, rfl⟩) (fun _ _ ht ↦ ?_) fun _ _ ht ↦
      Document.nested_of_outline nested ht.2
    obtain ⟨⟨_, _, start, _⟩, outline⟩ := ht
    exact ⟨start.standsOn nested fits.allowed, outline⟩
  · have attached : Free Standing.fixed (attach element.kind element.label?) :=
      .attach fun _ _ ↦ trivial
    refine (attached.keeps.comp Prod.fst s.document.outline).mono (fun _ ht ↦ ht)
      (fun _ t ht ↦ (Document.nested_of_outline nested ht).push ?_) fun _ _ ht ↦
        Document.nested_of_outline nested ht
    have shape : t.document.frames.shape = s.document.frames.shape := congrArg Prod.fst ht
    rw [← Frames.standsOn_shape] at stands ⊢
    rwa [shape]

end Session

/-! ### Ending -/

namespace Document

/-- The document when its innermost element has been taken off. -/
def pop (d : Document) : Document :=
  match d.frames with
  | [] => d
  | frame :: outer =>
    { d with
      output := if frame.captured then (d.output.release?.map Prod.snd).getD d.output else d.output
      frames := outer
      tagDepth := d.tagDepth - 1 }

/-- What the innermost element has held back. -/
def held (d : Document) : Passage :=
  if d.frames.head?.any Frame.captured then (d.output.release?.map Prod.fst).getD {} else {}

variable {d : Document} {frame : Frame} {outer : Frames}

theorem frames_pop (hf : d.frames = frame :: outer) : d.pop.frames = outer := by
  simp only [pop, hf]

/-- What an element held back is there when it is taken off: it is the innermost capture if the
element has one, and nothing otherwise. -/
theorem Nested.pop_cases (h : d.Nested) (hf : d.frames = frame :: outer) :
    (frame.captured = false ∧ d.held = {} ∧
      d.pop = { d with frames := outer, tagDepth := d.tagDepth - 1 }) ∨
    ∃ rest, frame.captured = true ∧ d.output.captures = d.held :: rest ∧
      d.pop = { d with
        output := { d.output with captures := rest }
        frames := outer
        tagDepth := d.tagDepth - 1 } := by
  have captures := h.captures_eq
  rw [hf, List.countP_cons] at captures
  rw [held, pop, hf, List.head?_cons, Option.any_some]
  obtain ⟨kind, captured, state⟩ := frame
  cases captured with
  | false => exact .inl ⟨rfl, rfl, rfl⟩
  | true =>
    obtain ⟨capture, rest, ho⟩ := List.exists_cons_of_length_eq_add_one captures
    have released : d.output.release? = some (capture, { d.output with captures := rest }) := by
      rw [Output.release?, ho]
    rw [released]
    exact .inr ⟨rest, rfl, ho, rfl⟩

/-- A document without its innermost element is nested. -/
theorem Nested.pop (h : d.Nested) : d.pop.Nested := by
  cases hf : d.frames with
  | nil =>
    rw [Document.pop, hf]
    exact h
  | cons frame outer =>
    have depth := h.tagDepth_eq
    have captures := h.captures_eq
    have frames := h.frames
    rw [hf] at depth captures frames
    rw [List.countP_cons] at captures
    obtain ⟨hc, -, popped⟩ | ⟨rest, hc, ho, popped⟩ := h.pop_cases hf <;> rw [popped]
    · rw [hc] at captures
      exact ⟨congrArg (· - 1) depth, captures, frames.2⟩
    · rw [hc, ho] at captures
      exact ⟨congrArg (· - 1) depth, Nat.succ.inj captures, frames.2⟩

end Document

namespace Session

open Action

variable {backend : Backend} {kind : Kind} {s : Session} {frame : Frame} {outer : Frames}

/-- What is held back is released, and the rest is as it was. -/
theorem release_eq (hf : s.document.frames = frame :: outer) (nested : s.document.Nested) :
    release frame (s.modifyDocument ({ · with frames := outer })) =
      .ok s.document.held (s.modifyDocument fun d ↦ { d.pop with tagDepth := d.tagDepth }) := by
  obtain ⟨hc, held, popped⟩ | ⟨rest, hc, ho, popped⟩ := nested.pop_cases hf
  · rw [release, hc, held, modifyDocument, modifyDocument, popped]
    rfl
  · have released : (s.modifyDocument ({ · with frames := outer })).document.output.release? =
        some (s.document.held, { s.document.output with captures := rest }) := by
      rw [modifyDocument, Output.release?, ho]
    rw [release, if_pos hc, bind_current, released, modifyDocument, modifyDocument, popped]
    rfl

/-- The innermost element is taken off and closed with what it held back. -/
theorem endElement_eq (hf : s.document.frames = frame :: outer) (nested : s.document.Nested) :
    endElement backend frame.kind s =
      (do closeFrame backend frame s.document.held; change Document.stream : Action Unit)
        (s.modifyDocument Document.pop) := by
  rw [endElement_cons hf]
  change EStateM.bind (release frame) _ _ = _
  rw [EStateM.bind, release_eq hf nested]
  simp only [Session.modifyDocument, Document.pop, hf]
  rfl

/-- An end does what closing the innermost element does once it has been taken off. If it names
another element, it is refused at once. -/
theorem ensures_end {after : Session → Prop} {refused : DocumentError → Session → Prop}
    (nested : s.document.Nested)
    (unbalanced : s.document.innermost ≠ some kind →
      refused (.unbalancedEnd s.document.innermost kind) s)
    (closed : ∀ frame outer, s.document.frames = frame :: outer → frame.kind = kind →
      Ensures (· = s.modifyDocument Document.pop) (closeFrame backend frame s.document.held)
        (fun _ t ↦ after (t.modifyDocument Document.stream)) refused) :
    Ensures (· = s) (endElement backend kind) (fun _ ↦ after) refused := by
  rintro s rfl
  by_cases top : s.document.innermost = some kind
  · obtain ⟨frame, outer, hf, hk⟩ := Document.exists_of_innermost top
    have ended : Ensures (· = s.modifyDocument Document.pop)
        (do closeFrame backend frame s.document.held; change Document.stream)
        (fun _ ↦ after) refused :=
      (closed frame outer hf hk).bind fun _ ↦ ensures_change fun _ ht ↦ ht
    rw [← hk, endElement_eq hf nested]
    exact ended _ rfl
  · rw [endElement_of_ne top]
    exact unbalanced top

/-- Ending an element keeps the elements nested, whether it is ended or refused, and never finds the
root in place of a capture. -/
theorem ensures_endElement (backend : Backend) (kind : Kind) :
    Ensures (·.document.Nested) (endElement backend kind) (fun _ s ↦ s.document.Nested)
      fun error s ↦ s.document.Nested ∧ error.Timely := by
  refine ensures_of_forall fun s nested ↦
    ensures_end nested (fun _ ↦ ⟨nested, fun _ he ↦ by cases he⟩) fun frame outer hf _ ↦ ?_
  have popped := nested.pop
  have composed := composed_closeFrame backend frame s.document.held
  have closed := (composed.keeps.comp (·.1.outline) s.document.pop.outline).and composed.refuses
  refine closed.mono ?_ (fun _ t ht ↦ ?_) fun _ t ht ↦ ?_
  · rintro _ rfl
    exact ⟨rfl, trivial⟩
  · exact Document.nested_of_outline popped ((Document.outline_stream t.document).trans ht.1)
  · exact ⟨Document.nested_of_outline popped ht.1, ht.2.timely⟩

/-! ### Calls -/

/-- Only the innermost element can be ended. -/
theorem innermost_of_endElement
    (h : (s.perform backend (.endElement kind)).1.isOk = true) :
    s.document.innermost = some kind := by
  by_cases other : s.document.innermost = some kind
  · exact other
  rw [perform_of_error rfl (endElement_of_ne other)] at h
  cases h

/-- Whatever is called, the elements stay nested, and no element ends where the root would be taken
for a capture. -/
theorem nested_perform (backend : Backend) (call : Call) {s : Session} (h : s.document.Nested) :
    (s.perform backend call).2.document.Nested ∧
      ∀ kind, call = .endElement kind →
        ∀ fault, (s.perform backend call).1 ≠ .error (.lifecycle fault) := by
  suffices kept : Ensures (·.document.Nested) (call.action backend) (fun _ t ↦ t.document.Nested)
      fun error t ↦ t.document.Nested ∧
        ∀ kind, call = .endElement kind → ∀ fault, error ≠ .lifecycle fault from
    perform_ensures (P := fun answer t ↦ t.document.Nested ∧ ∀ kind, call = .endElement kind →
      ∀ fault, answer ≠ .error (.lifecycle fault)) (kept.mono (fun _ ht ↦ ht)
        (fun _ _ ht ↦ ⟨ht, nofun⟩) fun _ _ ht ↦ ⟨ht.1, fun kind hk fault he ↦
          ht.2 kind hk fault (Except.error.inj he)⟩) h
  obtain ⟨element, rfl⟩ | ⟨kind, rfl⟩ | ⟨begins, ends⟩ := call.begins_or_ends_or
  · exact ((ensures_beginElement backend element).mono (fun _ ht ↦ ht) (fun _ _ ht ↦ ht)
      fun _ _ ht ↦ ⟨ht, nofun⟩).bind fun _ ↦ ensures_pure fun _ ht ↦ ht
  · exact ((ensures_endElement backend kind).mono (fun _ ht ↦ ht) (fun _ _ ht ↦ ht)
      fun _ _ ht ↦ ⟨ht.1, fun _ _ ↦ ht.2⟩).bind fun _ ↦ ensures_pure fun _ ht ↦ ht
  · have keeps := (keeps_fixed_action backend call begins ends).comp Prod.fst
    exact ensures_of_forall fun s nested ↦ (keeps s.document.outline).mono (fun _ ht ↦ ht ▸ rfl)
      (fun _ t ht ↦ Document.nested_of_outline nested ht) fun _ t ht ↦
        ⟨Document.nested_of_outline nested ht, fun kind hk ↦ absurd hk (ends kind)⟩

/-- A run leaves the elements nested if they were. -/
theorem nested_run (backend : Backend) (calls : List Call) {s : Session} (h : s.document.Nested) :
    (s.run backend calls).document.Nested := by
  induction calls generalizing s with
  | nil => exact h
  | cons call calls ih => exact ih (nested_perform backend call h).1

end Session

theorem Context.nested_document (context : Context) (path : Path) (place : Location)
    (serial : Nat) : (context.document path place serial).Nested := ⟨rfl, rfl, trivial⟩

end Manuscript

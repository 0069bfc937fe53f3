import Manuscript.Proofs.Document.Admission

/-!
# Relations that go on

A relation between a session and a later one is `Ongoing` if it passes through what actions are
made of: writing at the end of the output, streaming it, handing something to the innermost element,
and taking note of something. Then it passes through every action but those that open and take off
frames, hand over sub-figures, or number figures and store their pictures.
-/

namespace Manuscript

/-- What is no part of a note: where the document lies, its output and open elements, and the
figures that have been numbered and stored. -/
def Document.substance (d : Document) :
    (Settings × Path × String × Path × Location) × Output × Frames × Nat × List Path :=
  (d.origin, d.output, d.frames, d.figures, d.images)

namespace FrameState

/-- The element is numbered as a figure when it ends. -/
def isFloat : FrameState → Bool
  | figure _ | figureSeries _ => true
  | _ => false

/-- The element is numbered as a figure or is a part of one. -/
def isFigural : FrameState → Bool
  | figure _ | figureSeries _ | subFigure _ => true
  | _ => false

end FrameState

/-- A relation that passes through writing, streaming, handing over and taking note. -/
structure Ongoing (R : Session → Session → Prop) : Prop where
  refl (s : Session) : R s s
  trans {s t u : Session} : R s t → R t u → R s u
  append (s : Session) (passage : Passage) : R s (s.modifyDocument (·.append passage))
  stream (s : Session) : R s (s.modifyDocument Document.stream)
  offer (s : Session) {take : FrameState → Option FrameState} :
    FrameState.KeepsShape take → R s (s.modifyDocument (·.offer take))
  note (s : Session) {f : Document → Document} :
    (f s.document).substance = s.document.substance → R s (s.modifyDocument f)

/-- The session that the action leaves stands in the relation to the one that it started from, also
if the action is refused. -/
def Action.Relates {α : Type} (R : Session → Session → Prop) (act : Action α) : Prop :=
  ∀ s, Ensures (· = s) act (fun _ t ↦ R s t) fun _ t ↦ R s t

/-- What holds of all sessions to which the relation leads holds after the action, too. -/
theorem Action.Relates.stays {α : Type} {R : Session → Session → Prop} {act : Action α}
    {holds : Session → Prop} (h : Relates R act) (hR : ∀ s t, R s t → holds s → holds t) :
    Ensures holds act (fun _ ↦ holds) fun _ ↦ holds :=
  ensures_of_forall fun s hs ↦ (h s).mono (fun _ ht ↦ ht) (fun _ t ht ↦ hR s t ht hs)
    fun _ t ht ↦ hR s t ht hs

namespace Ongoing

open Action Session

variable {R : Session → Session → Prop} {α β : Type} {act : Action α} {next : α → Action β}

section Rules

/-- What stood in the relation to an earlier session still does. -/
theorem ensures (h : Ongoing R) (ha : Relates R act) (s : Session) :
    Ensures (R s) act (fun _ t ↦ R s t) fun _ t ↦ R s t :=
  ensures_of_forall fun t ht ↦ (ha t).mono (fun _ hu ↦ hu) (fun _ _ hu ↦ h.trans ht hu)
    fun _ _ hu ↦ h.trans ht hu

theorem bind (h : Ongoing R) (first : Relates R act) (second : ∀ answer, Relates R (next answer)) :
    Relates R (act >>= next) :=
  fun s ↦ (first s).bind fun answer ↦ h.ensures (second answer) s

theorem keeps (h : Ongoing R) (ha : Keeps id act) : Relates R act :=
  fun s ↦ (ha s).mono (fun _ ht ↦ ht) (fun _ t ht ↦ (show t = s from ht) ▸ h.refl s)
    fun _ t ht ↦ (show t = s from ht) ▸ h.refl s

theorem pure (h : Ongoing R) {answer : α} : Relates R (pure answer) := h.keeps keeps_pure

theorem throw (h : Ongoing R) {error : DocumentError} : Relates R (throw error : Action α) :=
  h.keeps keeps_throw

theorem refuse (h : Ongoing R) {reason : Option DocumentError} : Relates R (refuse reason) :=
  h.keeps keeps_refuse

theorem current {next : Document → Action β} (ha : ∀ d, Relates R (next d)) :
    Relates R (current >>= next) := fun s t ht ↦ ha t.document s t ht

theorem change {f : Document → Document} (hf : ∀ s, R s (s.modifyDocument f)) :
    Relates R (change f) := fun _ ↦ ensures_change fun t ht ↦ ht ▸ hf t

variable (h : Ongoing R)

include h

theorem noted {f : Document → Document} (hf : ∀ d, (f d).substance = d.substance) :
    Relates R (Action.change f) := change fun s ↦ h.note s (hf s.document)

/-- What is written may tell of what has been noted before it. -/
theorem after {f : Document → Document} (hf : ∀ d, (f d).substance = d.substance)
    (passage : Document → Passage) :
    Relates R (Action.change ((fun d ↦ d.append (passage d)) ∘ f)) :=
  change fun s ↦ h.trans (h.note s (hf s.document))
    (h.append (s.modifyDocument f) (passage (f s.document)))

theorem emit (markup : String) : Relates R (Action.change (·.emit markup)) :=
  change fun s ↦ h.append s _

theorem emitLine (markup : String) : Relates R (Action.change (·.emitLine markup)) :=
  change fun s ↦ h.append s _

theorem appended (passage : Document → Passage) :
    Relates R (Action.change fun d ↦ d.append (passage d)) := change fun s ↦ h.append s _

theorem offered {take : FrameState → Option FrameState} (ht : FrameState.KeepsShape take) :
    Relates R (Action.change (·.offer take)) := change fun s ↦ h.offer s ht

theorem attach (kind : Kind) (label : Option Label) : Relates R (attach kind label) := by
  cases label with
  | none => exact h.pure
  | some label => exact current fun _ ↦ h.bind h.refuse fun _ ↦ h.noted fun _ ↦ rfl

theorem resolve (label : Option Label) (number : String) : Relates R (resolve label number) := by
  cases label with
  | none => exact h.pure
  | some label => exact current fun _ ↦ h.bind h.refuse fun _ ↦ h.noted fun _ ↦ rfl

end Rules

variable (h : Ongoing R)

include h

/-! ### Beginning -/

theorem startLine (markup : String) (state : FrameState) : Relates R (startLine markup state) :=
  h.bind (h.emitLine markup) fun _ ↦ h.pure

theorem startInline (markup : String) (state : FrameState) :
    Relates R (startInline markup state) := h.bind (h.emit markup) fun _ ↦ h.pure

theorem startSection (backend : Backend) (label : Option Label) :
    Relates R (startSection backend label) := by
  refine current fun d ↦ ?_
  dsimp only
  split
  · exact h.throw
  · refine h.bind (h.after (f := fun e ↦ { e with
      sectionPath := Document.nextSectionPath d.sectionPath (d.frames.sectionDepth + 1)
      sections := e.sections + 1 }) (fun _ ↦ rfl) fun e ↦ ⟨e.lineBreak ++
        backend.sectionStart (d.frames.sectionDepth + 1) (label.map Label.key), ""⟩) fun _ ↦ h.pure

theorem startState (backend : Backend) (element : Element) :
    Relates R (startState backend element) := by
  cases element with
  | header =>
    exact h.bind (h.after (f := fun d ↦ { d with phase := .header }) (fun _ ↦ rfl)
      fun _ ↦ ⟨backend.documentStart, ""⟩) fun _ ↦ h.pure
  | body =>
    exact h.bind (h.after (f := fun d ↦ { d with phase := .body }) (fun _ ↦ rfl)
      fun d ↦ ⟨backend.bodyStart ++
        backend.titleBlock (d.head.title.map Passage.markup) (d.head.byline Passage.markup)
          (d.head.date.map Passage.markup), ""⟩) fun _ ↦ h.pure
  | sect label => exact h.startSection backend label
  | figureBody width height =>
    have side (millimetres : Float) : Relates R (side millimetres) := by
      refine current fun d ↦ ?_
      split
      · exact h.pure
      · exact h.throw
    exact h.bind (side width) fun _ ↦ h.bind (side height) fun _ ↦ h.pure
  | figureSeries label columns =>
    change Relates R (startSeries label columns)
    unfold startSeries
    split
    · exact h.throw
    · exact h.pure
  | figureSeriesPage => exact h.bind (h.offered FrameState.keepsShape_turnPage?) fun _ ↦ h.pure
  | subFigure label =>
    refine current fun d ↦ ?_
    split
    · exact h.throw
    · exact h.pure
  | tableRow => exact current fun _ ↦ h.startLine _ _
  | tableCell span align =>
    exact current fun _ ↦ h.bind (h.offered (FrameState.keepsShape_advance? _)) fun _ ↦
      h.startInline _ _
  | sectionBody | paragraph | tablePage | list | item => exact h.startLine _ _
  | inlineMath | mathName | styled => exact h.startInline _ _
  | _ => exact h.pure

theorem startParameter (index : Nat) : Relates R (startParameter index) := by
  have marker : Relates R (writeMarker index) := by
    unfold writeMarker
    split
    · exact h.appended _
    · exact h.pure
  refine current fun d ↦ ?_
  split
  · exact h.bind h.refuse fun _ ↦ h.pure
  · split
    · exact h.throw
    · exact h.bind h.refuse fun _ ↦ h.bind marker fun _ ↦ h.pure

theorem start (backend : Backend) (element : Element) : Relates R (start backend element) := by
  unfold Session.start
  split
  · exact h.startParameter _
  · exact h.bind (h.startState backend element) fun _ ↦ h.pure

/-- Until its frame is pushed, an element that begins is in the relation. -/
theorem ensures_beginElement {after : Session → Prop} (backend : Backend) (element : Element)
    (s : Session) (refused : ∀ t, R s t → after t)
    (pushed : ∀ t frame, R s t → after (t.modifyDocument (·.push frame))) :
    Ensures (· = s) (beginElement backend element) (fun _ ↦ after) fun _ ↦ after := by
  have passes {γ : Type} {act : Action γ} (ha : Relates R act) :
      Ensures (R s) act (fun _ t ↦ R s t) fun _ ↦ after :=
    (h.ensures ha s).mono (fun _ ht ↦ ht) (fun _ _ ht ↦ ht) fun _ t ht ↦ refused t ht
  refine ensures_begin (fun _ ↦ R s) (fun _ ↦ refused s (h.refl s)) (fun _ ↦ ?_) fun _ answer ↦ ?_
  · exact (passes (h.start backend element)).mono (fun t ht ↦ ht ▸ h.refl t) (fun _ _ ht ↦ ht)
      fun _ _ ht ↦ ht
  · exact (passes (h.attach element.kind element.label?)).mono (fun _ ht ↦ ht)
      (fun _ t ht ↦ pushed t _ ht) fun _ _ ht ↦ ht

/-! ### Ending -/

theorem closeBody (backend : Backend) : Relates R (closeBody backend) := by
  have entries (number : Nat) (works : List CitedWork) :
      Relates R (writeEntries backend number works) := by
    induction works generalizing number with
    | nil => exact h.pure
    | cons work others ih =>
      have entry : Relates R (writeEntry backend work number) :=
        h.bind (h.emit _) fun _ ↦ h.bind (h.appended _) fun _ ↦ h.emit _
      exact h.bind entry fun _ ↦ ih (number + 1)
  have references : Relates R (writeReferences backend) := by
    refine current fun d ↦ ?_
    dsimp only
    split
    · exact h.pure
    · exact h.bind (h.emitLine _) fun _ ↦ h.bind (entries _ _) fun _ ↦ h.emit _
  exact h.bind references fun _ ↦ h.bind (h.emit _) fun _ ↦ h.noted fun _ ↦ rfl

theorem closeSectionTitle (backend : Backend) (title : Passage) :
    Relates R (closeSectionTitle backend title) := by
  refine current fun d ↦ ?_
  split
  · exact h.bind (h.resolve _ _) fun _ ↦ h.emitLine _
  · exact h.pure

theorem closePlain (backend : Backend) (kind : Kind) (captured : Passage) :
    Relates R (closePlain backend kind captured) := by
  cases kind with
  | header => exact current fun _ ↦ h.bind (h.emit _) fun _ ↦ h.noted fun _ ↦ rfl
  | body => exact h.closeBody backend
  | sectionTitle => exact h.closeSectionTitle backend captured
  | caption => exact h.offered (FrameState.keepsShape_takeCaption? _)
  | tableHeader => exact h.offered (FrameState.keepsShape_takeTableHeader? _)
  | tableFooter => exact h.offered (FrameState.keepsShape_takeTableFooter? _)
  | mathOpParam => exact h.offered (FrameState.keepsShape_takeOperand? _)
  | title | author | date => exact h.noted fun _ ↦ rfl
  | sectionBody | tablePage => exact h.emitLine _
  | paragraph | inlineMath | mathName | item => exact h.emit _
  | _ => exact h.pure

/-- Something other than a figure may be counted before the number is looked up. -/
theorem counted {f : Document → Document} {act : Document → Action α}
    (hf : ∀ d, (f d).substance = d.substance) (ha : ∀ d, Relates R (act d)) :
    Relates R (do Action.change f; let d ← Action.current; act d) :=
  h.bind (h.noted hf) fun _ ↦ current ha

/-- Closing an element is in the relation if it numbers no figure and hands over no sub-figure. -/
theorem closeFrame (backend : Backend) (frame : Frame) (captured : Passage)
    (other : frame.state.isFigural = false) :
    Relates R (closeFrame backend frame captured) := by
  obtain ⟨kind, held, state⟩ := frame
  cases state with
  | plain => exact h.closePlain backend kind captured
  | sect label path => exact h.bind (h.resolve _ _) fun _ ↦ h.emitLine _
  | figure _ | subFigure _ | figureSeries _ => cases other
  | figureBody _ _ canvas => exact h.offered (FrameState.keepsShape_takeFigureBody? _)
  | table table =>
    exact h.counted (fun _ ↦ rfl) fun _ ↦ h.bind (h.resolve _ _) fun _ ↦ h.emitLine _
  | equation label =>
    exact h.counted (fun _ ↦ rfl) fun _ ↦ h.bind (h.resolve _ _) fun _ ↦ h.emitLine _
  | mathOp operator operands => exact h.bind h.refuse fun _ ↦ h.appended _
  | macroDefinition signature => exact h.noted fun _ ↦ rfl
  | macroInvocation signature arguments =>
    refine current fun d ↦ ?_
    split
    · exact h.appended _
    · exact h.pure
  | argument index => exact h.offered (FrameState.keepsShape_takeArgument? _ _)
  | tableRow | tableCell | styled => exact h.emit _
  | list ordered => exact h.emitLine _

/-! ### Other calls -/

/-- Every call but the beginning and the end of elements is in the relation. -/
theorem action (backend : Backend) (call : Call) (hb : ∀ element, call ≠ .beginElement element)
    (he : ∀ kind, call ≠ .endElement kind) : Relates R (call.action backend) := by
  intro s
  have written : Ensures (R s) (call.action backend) (fun _ ↦ R s) fun _ ↦ R s := by
    apply ensures_writing _ _ _ _ _ hb he
    · intro phrase
      have wrote : Relates R (writePhrase backend phrase) :=
        current fun _ ↦ h.bind h.refuse fun _ ↦ h.appended _
      exact h.ensures wrote s
    · exact fun t ht ↦ h.trans ht (h.stream t)
    · intro fills _
      have painted : Relates R (paint fills) := by
        refine current fun d ↦ ?_
        split
        · exact h.bind (h.offered (FrameState.keepsShape_takePaint? _)) fun _ ↦ h.pure
        · exact h.throw
      exact h.ensures painted s
    · intro target _
      have created : Relates R (createLabel target) :=
        current fun _ ↦ h.bind (h.noted fun _ ↦ rfl) fun _ ↦ h.pure
      exact h.ensures created s
    · intro _ records _
      have registered : Relates R (registerWorks records) :=
        current fun _ ↦ h.bind (h.noted fun _ ↦ rfl) fun _ ↦ h.pure
      exact h.ensures registered s
  exact written.mono (fun t ht ↦ ht ▸ h.refl t) (fun _ _ ht ↦ ht) fun _ _ ht ↦ ht

end Ongoing

end Manuscript

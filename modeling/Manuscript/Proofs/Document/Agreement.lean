import Manuscript.Document.Call
import Manuscript.Proofs.Document.Alike
import Manuscript.Proofs.Document.Citing

/-!
# Actions on documents that are alike

Where a backend respects a likeness (`Likeness.Respects`), every action does the same to documents
that are alike: it comes to the same answer, or is refused with the same error, and leaves documents
that are alike (`Action.Alike`). Only a float is more than that, as it takes a number, and the number
is taken also where the float is not placed at the root or is refused (`Session.AlikeUnless`).
-/

namespace Manuscript

/-- Markup that may stand on a line of its own corresponds with the line break. -/
def Likeness.Lines (L : Likeness) (m m' : String) : Prop :=
  ∀ lineBreak lineBreak', L.lineBreak lineBreak lineBreak' →
    L.markup (lineBreak ++ m) (lineBreak' ++ m')

/-- The markup of a float corresponds with the line break. -/
def Likeness.Floats (L : Likeness) (counter : Counter) (number : Nat) (m m' : String) : Prop :=
  ∀ lineBreak lineBreak', L.lineBreak lineBreak lineBreak' →
    L.float counter number (lineBreak ++ m) (lineBreak' ++ m')

/-- What the backend writes for things that correspond corresponds. -/
structure Likeness.Respects (L : Likeness) (backend : Backend) : Prop
    extends Markup.Joining L.markup where
  /-- Nothing corresponds to nothing alone. -/
  eq_empty_iff : ∀ {m m'}, L.markup m m' → (m = "" ↔ m' = "")
  expand : ∀ {body body' : String} {arguments arguments' : List (Option String)},
    L.markup body body' → List.Forall₂ (Option.Rel L.markup) arguments arguments' →
      L.markup ((Macro.Template.parse body).expand arguments)
        ((Macro.Template.parse body').expand arguments')
  marker : ∀ {index marker}, Marker.char? index = some marker →
    L.markup (String.singleton marker) (String.singleton marker)
  byline : ∀ {names names' : List String}, List.Forall₂ L.markup names names' →
    L.markup (Series.andTexts names).plain (Series.andTexts names').plain
  escape : ∀ text, L.markup (backend.escape text) (backend.escape text)
  noBreakSpace : L.markup backend.noBreakSpace backend.noBreakSpace
  link : ∀ target text, L.markup (backend.link target (backend.escape text))
    (backend.link target (backend.escape text))
  documentStart : L.markup backend.documentStart backend.documentStart
  head : ∀ title authors date, L.markup (backend.head title authors date)
    (backend.head title authors date)
  bodyStart : L.markup backend.bodyStart backend.bodyStart
  titleBlock : ∀ {title title' authors authors' date date'}, Option.Rel L.markup title title' →
    Option.Rel L.markup authors authors' → Option.Rel L.markup date date' →
      L.markup (backend.titleBlock title authors date) (backend.titleBlock title' authors' date')
  bodyEnd : L.markup backend.bodyEnd backend.bodyEnd
  sectionStart : ∀ depth anchor, L.Lines (backend.sectionStart depth anchor)
    (backend.sectionStart depth anchor)
  sectionEnd : L.Lines backend.sectionEnd backend.sectionEnd
  sectionHeading : ∀ depth path {title title'}, L.markup title title' →
    L.Lines (backend.sectionHeading depth (Session.sectionNumber path) title)
      (backend.sectionHeading depth (Session.sectionNumber path) title')
  sectionBodyStart : L.Lines backend.sectionBodyStart backend.sectionBodyStart
  sectionBodyEnd : L.Lines backend.sectionBodyEnd backend.sectionBodyEnd
  paragraphStart : L.Lines backend.paragraphStart backend.paragraphStart
  paragraphEnd : L.markup backend.paragraphEnd backend.paragraphEnd
  inlineStart : ∀ style, L.markup (backend.inlineStart style) (backend.inlineStart style)
  inlineEnd : ∀ style, L.markup (backend.inlineEnd style) (backend.inlineEnd style)
  listStart : ∀ ordered, L.Lines (backend.listStart ordered) (backend.listStart ordered)
  listEnd : ∀ ordered, L.Lines (backend.listEnd ordered) (backend.listEnd ordered)
  itemStart : L.Lines backend.itemStart backend.itemStart
  itemEnd : L.markup backend.itemEnd backend.itemEnd
  image : ∀ source alt width height, L.markup (backend.image source alt width height)
    (backend.image source alt width height)
  figure : ∀ number anchor {caption caption' body body'}, L.markup caption caption' →
    L.markup body body' → L.Floats .figures number
      (backend.figure ⟨number, anchor, caption⟩ body)
      (backend.figure ⟨number, anchor, caption'⟩ body')
  subFigure : ∀ number anchor {index letter caption caption' body body'},
    Session.letter? index = some letter → L.markup caption caption' → L.markup body body' →
      L.markup (backend.subFigure ⟨number, anchor, caption⟩ letter body)
        (backend.subFigure ⟨number, anchor, caption'⟩ letter body')
  figureSeries : ∀ number anchor columns {caption caption' pages pages'},
    L.markup caption caption' → List.Forall₂ (List.Forall₂ L.markup) pages pages' →
      L.Floats .figures number (backend.figureSeries ⟨number, anchor, caption⟩ columns pages)
        (backend.figureSeries ⟨number, anchor, caption'⟩ columns pages')
  table : ∀ number anchor {caption caption' header header' footer footer' body body'},
    L.markup caption caption' → Option.Rel L.markup header header' →
      Option.Rel L.markup footer footer' → L.markup body body' →
        L.Floats .tables number (backend.table ⟨number, anchor, caption⟩ header footer body)
          (backend.table ⟨number, anchor, caption'⟩ header' footer' body')
  tableGroupStart : L.Lines backend.tableGroupStart backend.tableGroupStart
  tableGroupEnd : L.Lines backend.tableGroupEnd backend.tableGroupEnd
  tableRowStart : L.Lines backend.tableRowStart backend.tableRowStart
  tableRowEnd : L.markup backend.tableRowEnd backend.tableRowEnd
  tableCellStart : ∀ header span align, L.markup (backend.tableCellStart header span align)
    (backend.tableCellStart header span align)
  tableCellEnd : ∀ header, L.markup (backend.tableCellEnd header) (backend.tableCellEnd header)
  equation : ∀ number anchor {body body'}, L.markup body body' →
    L.Floats .equations number (backend.equation number anchor body)
      (backend.equation number anchor body')
  inlineMathStart : L.markup backend.inlineMathStart backend.inlineMathStart
  inlineMathEnd : L.markup backend.inlineMathEnd backend.inlineMathEnd
  mathNameStart : L.markup backend.mathNameStart backend.mathNameStart
  mathNameEnd : L.markup backend.mathNameEnd backend.mathNameEnd
  mathOperator : ∀ operator {operands operands'}, List.Forall₂ L.markup operands operands' →
    L.markup (backend.mathOperator operator operands) (backend.mathOperator operator operands')
  bibliographyStart : L.Lines backend.bibliographyStart backend.bibliographyStart
  bibliographyEntryStart : ∀ key number, L.markup (backend.bibliographyEntryStart key number)
    (backend.bibliographyEntryStart key number)
  bibliographyEntryEnd : L.markup backend.bibliographyEntryEnd backend.bibliographyEntryEnd
  bibliographyEnd : L.markup backend.bibliographyEnd backend.bibliographyEnd

/-- Sessions with documents that are alike and the same files. -/
structure Session.Alike (L : Likeness) (Q : (Counter → Nat) → String → String → Prop)
    (s s' : Session) : Prop where
  document : s.document.Alike L Q s'.document
  files : s.files = s'.files

namespace Action

variable {α β γ δ : Type}

/-- From sessions with `before` the actions come to answers with `after`, or are refused with the
same error and leave sessions with `refused`. -/
def Agree (before : Session → Session → Prop) (act : Action α) (act' : Action β)
    (after : α → β → Session → Session → Prop) (refused : Session → Session → Prop) : Prop :=
  ∀ s s', before s s' →
    match act s, act' s' with
    | .ok answer next, .ok answer' next' => after answer answer' next next'
    | .error error next, .error error' next' => error = error' ∧ refused next next'
    | _, _ => False

section Rules

variable {before refused : Session → Session → Prop} {act : Action α} {act' : Action β}
  {next : α → Action γ} {next' : β → Action δ} {middle : α → β → Session → Session → Prop}
  {after : γ → δ → Session → Session → Prop}

theorem Agree.bind (first : Agree before act act' middle refused)
    (second : ∀ answer answer', Agree (middle answer answer') (next answer) (next' answer') after
      refused) : Agree before (act >>= next) (act' >>= next') after refused := by
  intro s s' h
  have hf := first s s' h
  change match EStateM.bind act next s, EStateM.bind act' next' s' with
    | .ok answer t, .ok answer' t' => after answer answer' t t'
    | .error error t, .error error' t' => error = error' ∧ refused t t'
    | _, _ => False
  rw [EStateM.bind, EStateM.bind]
  cases he : act s with
  | ok answer t =>
    cases he' : act' s' with
    | ok answer' t' =>
      rw [he, he'] at hf
      exact second answer answer' t t' hf
    | error error' t' =>
      rw [he, he'] at hf
      exact hf.elim
  | error error t =>
    cases he' : act' s' with
    | ok answer' t' =>
      rw [he, he'] at hf
      exact hf.elim
    | error error' t' =>
      rw [he, he'] at hf
      exact hf

theorem Agree.mono {before' refused' : Session → Session → Prop}
    {middle' : α → β → Session → Session → Prop} (h : Agree before act act' middle refused)
    (hb : ∀ s s', before' s s' → before s s')
    (ha : ∀ answer answer' s s', middle answer answer' s s' → middle' answer answer' s s')
    (hr : ∀ s s', refused s s' → refused' s s') : Agree before' act act' middle' refused' := by
  intro s s' hs
  have hf := h s s' (hb s s' hs)
  revert hf
  cases act s <;> cases act' s'
  · exact ha _ _ _ _
  · exact False.elim
  · exact False.elim
  · exact And.imp_right (hr _ _)

end Rules

/-- The actions may look at the sessions that they are done to. -/
theorem agree_look {s s' : Session} {next : Document → Action α} {next' : Document → Action β}
    {after : α → β → Session → Session → Prop} {refused : Session → Session → Prop}
    (h : Agree (fun t t' ↦ t = s ∧ t' = s') (next s.document) (next' s'.document) after refused) :
    Agree (fun t t' ↦ t = s ∧ t' = s') (current >>= next) (current >>= next') after refused := by
  rintro s s' ⟨rfl, rfl⟩
  exact h s s' ⟨rfl, rfl⟩

/-- On sessions that are alike the actions come to answers with `R`, or are refused with the same
error, and the sessions stay alike. -/
def Alike (L : Likeness) (Q : (Counter → Nat) → String → String → Prop) (R : α → β → Prop)
    (act : Action α) (act' : Action β) : Prop :=
  Agree (Session.Alike L Q) act act' (fun answer answer' s s' ↦ R answer answer' ∧ s.Alike L Q s')
    (Session.Alike L Q)

section Alike

variable {L : Likeness} {Q : (Counter → Nat) → String → String → Prop} {R : α → β → Prop}
  {S : γ → δ → Prop} {act : Action α} {act' : Action β} {next : α → Action γ} {next' : β → Action δ}

theorem Alike.bind (first : Alike L Q R act act')
    (second : ∀ answer answer', R answer answer' → Alike L Q S (next answer) (next' answer')) :
    Alike L Q S (act >>= next) (act' >>= next') :=
  Agree.bind first fun answer answer' s s' hs ↦ second answer answer' hs.1 s s' hs.2

/-- What is done first is done to documents that are alike, and what it leaves when it is refused is
related in some other way. -/
theorem Alike.before {after : γ → δ → Session → Session → Prop}
    {refused : Session → Session → Prop} (first : Alike L Q R act act')
    (hr : ∀ s s', s.Alike L Q s' → refused s s')
    (second : ∀ answer answer', R answer answer' →
      Agree (Session.Alike L Q) (next answer) (next' answer') after refused) :
    Agree (Session.Alike L Q) (act >>= next) (act' >>= next') after refused :=
  (first.mono (fun _ _ hs ↦ hs) (fun _ _ _ _ hs ↦ hs) hr).bind
    fun answer answer' s s' hs ↦ second answer answer' hs.1 s s' hs.2

theorem alike_pure {answer : α} {answer' : β} (h : R answer answer') :
    Alike L Q R (pure answer) (pure answer') := fun _ _ hs ↦ ⟨h, hs⟩

theorem alike_throw (error : DocumentError) :
    Alike L Q R (throw error : Action α) (throw error : Action β) := fun _ _ hs ↦ ⟨rfl, hs⟩

theorem alike_current {next : Document → Action γ} {next' : Document → Action δ}
    (h : ∀ d d', d.Alike L Q d' → Alike L Q S (next d) (next' d')) :
    Alike L Q S (current >>= next) (current >>= next') :=
  fun s s' hs ↦ h s.document s'.document hs.document s s' hs

theorem alike_change {f f' : Document → Document}
    (h : ∀ d d', d.Alike L Q d' → (f d).Alike L Q (f' d')) :
    Alike L Q (fun _ _ ↦ True) (change f) (change f') :=
  fun s s' hs ↦ ⟨trivial, h s.document s'.document hs.document, hs.files⟩

theorem alike_refuse {reason reason' : Option DocumentError} (h : reason = reason') :
    Alike L Q (fun _ _ ↦ True) (refuse reason) (refuse reason') := by
  subst h
  cases reason with
  | none => exact alike_pure trivial
  | some error => exact alike_throw error

/-- A change that does not show the markup. -/
theorem alike_note {f : Document → Document}
    (hf : ∀ (d : Document) settings output frames head macros,
      f { d with settings, output, frames, head, macros } =
        { f d with settings, output, frames, head, macros })
    (hn : ∀ d, (f d).count = d.count) : Alike L Q (fun _ _ ↦ True) (change f) (change f) :=
  alike_change fun d _ hd ↦ hd.note hf (by rw [hn]; exact hd.root)

theorem alike_relabel {label : Label} {fault : Option LabelFault} {f : Registry → Registry} :
    Alike L Q (fun _ _ ↦ True) (relabel label fault f) (relabel label fault f) :=
  (alike_refuse rfl).bind fun _ _ _ ↦ alike_note (fun _ _ _ _ _ _ ↦ rfl) fun _ ↦ rfl

theorem alike_attach (kind : Kind) (label : Option Label) :
    Alike L Q (fun _ _ ↦ True) (attach kind label) (attach kind label) := by
  cases label with
  | none => exact alike_pure trivial
  | some label =>
    refine alike_current fun d d' hd ↦ ?_
    rw [hd.same Document.labels fun _ ↦ rfl]
    exact alike_relabel

theorem alike_resolve (label : Option Label) (number : String) :
    Alike L Q (fun _ _ ↦ True) (resolve label number) (resolve label number) := by
  cases label with
  | none => exact alike_pure trivial
  | some label =>
    refine alike_current fun d d' hd ↦ ?_
    rw [hd.same Document.labels fun _ ↦ rfl]
    exact alike_relabel

end Alike

end Action

namespace Session

open Action

variable {L : Likeness} {Q : (Counter → Nat) → String → String → Prop}
  {aside : Counter → Nat → Prop} {backend : Backend} {α β : Type}

/-- What phrases become corresponds to itself. -/
theorem alike_passage (hB : L.Respects backend) (phrase : Phrase) :
    (backend.passage phrase).Alike L (backend.passage phrase) := by
  refine ⟨?_, rfl⟩
  induction phrase with
  | nil => exact hB.empty
  | cons span phrase ih =>
    refine hB.append ?_ ih
    cases span with
    | text s => exact hB.escape s
    | space => exact hB.noBreakSpace
    | emphasized s =>
      exact hB.append (hB.append (hB.inlineStart .emphasize) (hB.escape s))
        (hB.inlineEnd .emphasize)
    | link target s => exact hB.link target s

section Writing

variable (hB : L.Respects backend) (hQ : L.Follows aside Q)

include hB hQ

theorem alike_append {passage passage' : Passage} (h : passage.Alike L passage') :
    Action.Alike L Q (fun _ _ ↦ True) (change (·.append passage)) (change (·.append passage')) :=
  alike_change fun _ _ hd ↦ hd.write hB.toJoining hQ h

theorem alike_emit {m m' : String} (h : L.markup m m') :
    Action.Alike L Q (fun _ _ ↦ True) (change (·.emit m)) (change (·.emit m')) :=
  alike_append hB hQ ⟨h, rfl⟩

theorem alike_emitLine {m m' : String} (h : L.Lines m m') :
    Action.Alike L Q (fun _ _ ↦ True) (change (·.emitLine m)) (change (·.emitLine m')) :=
  alike_change fun _ _ hd ↦ hd.write hB.toJoining hQ ⟨h _ _ hd.lineBreak, rfl⟩

theorem alike_startLine {m : String} {state : FrameState} (h : L.Lines m m)
    (hs : state.Alike L state) :
    Action.Alike L Q (FrameState.Alike L) (startLine m state) (startLine m state) :=
  (alike_emitLine hB hQ h).bind fun _ _ _ ↦ alike_pure hs

theorem alike_startInline {m : String} {state : FrameState} (h : L.markup m m)
    (hs : state.Alike L state) :
    Action.Alike L Q (FrameState.Alike L) (startInline m state) (startInline m state) :=
  (alike_emit hB hQ h).bind fun _ _ _ ↦ alike_pure hs

theorem alike_writePhrase (phrase : Phrase) :
    Action.Alike L Q (fun _ _ ↦ True) (writePhrase backend phrase) (writePhrase backend phrase) := by
  refine alike_current fun d d' hd ↦ ?_
  have error : d.textError = d'.textError := by
    unfold Document.textError
    rw [hd.innermost_eq]
  exact (alike_refuse error).bind fun _ _ _ ↦ alike_append hB hQ (alike_passage hB phrase)

theorem alike_streamedPhrase (phrase : Phrase) :
    Action.Alike L Q (fun _ _ ↦ True) (do writePhrase backend phrase; change Document.stream)
      (do writePhrase backend phrase; change Document.stream) :=
  (alike_writePhrase hB hQ phrase).bind fun _ _ _ ↦ alike_change fun _ _ hd ↦ hd.stream

end Writing

theorem alike_labelStates (labels : List Label) :
    Action.Alike L Q (· = ·) (labelStates labels) (labelStates labels) := by
  induction labels with
  | nil => exact alike_pure rfl
  | cons label others ih =>
    refine alike_current fun d d' hd ↦ ?_
    rw [Document.labelState, Document.labelState, hd.same Document.labels fun _ ↦ rfl]
    split
    · exact alike_throw _
    · refine Action.Alike.bind ih fun _ _ hs ↦ alike_pure ?_
      rw [hs]

theorem alike_registerWorks (records : List Record) :
    Action.Alike L Q (· = ·) (registerWorks records) (registerWorks records) := by
  refine alike_current fun d d' hd ↦ ?_
  rw [hd.same Document.bibliography fun _ ↦ rfl]
  obtain ⟨citations, bibliography⟩ := d'.bibliography.cite records
  dsimp only
  exact Action.Alike.bind (alike_note (fun _ _ _ _ _ _ ↦ rfl) fun _ ↦ rfl) fun _ _ _ ↦
    alike_pure rfl

theorem alike_createLabel (target : Target) :
    Action.Alike L Q (· = ·) (createLabel target) (createLabel target) := by
  refine alike_current fun d d' hd ↦ ?_
  rw [hd.same Document.labels fun _ ↦ rfl]
  obtain ⟨label, labels⟩ := d'.labels.create target
  dsimp only
  exact Action.Alike.bind (alike_note (fun _ _ _ _ _ _ ↦ rfl) fun _ ↦ rfl) fun _ _ _ ↦
    alike_pure rfl

theorem alike_paint (fills : List Fill) :
    Action.Alike L Q (· = ·) (paint fills) (paint fills) := by
  refine alike_current fun d d' hd ↦ ?_
  have top := Frames.topState?_alike hd.frames
  revert top
  generalize d.frames.topState? = state
  generalize d'.frames.topState? = state'
  rintro (⟨_ | _ | _ | _ | ⟨width, height, _⟩ | _⟩ | _)
  case some.figureBody =>
    exact (alike_change fun _ _ hd ↦ hd.offer (FrameState.takesAlike_paint fills)).bind
      fun _ _ _ ↦ alike_pure rfl
  all_goals exact alike_throw _

end Session

end Manuscript

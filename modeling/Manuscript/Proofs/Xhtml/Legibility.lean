import Manuscript.Proofs.Document.Nesting
import Manuscript.Proofs.Document.Streaming
import Manuscript.Proofs.Macro.Template
import Manuscript.Proofs.Xhtml.Sheets

/-!
# Legible documents

A document is legible if everything that it has written and everything that it keeps for later
reads as markup (`Document.Legible`). Writing, keeping, and opening and taking off frames are
followed here one by one; `Action.Prints` puts them together to actions.
-/

namespace Manuscript

open Markup Xhtml

variable {loose : String → Prop}

/-! ### What is kept for later -/

/-- A figure that waits for its number keeps closed markup. -/
structure PendingFigure.Sound (loose : String → Prop) (figure : PendingFigure) : Prop where
  content : ∀ markup, figure.content = .markup markup → Closed loose markup []
  caption : Closed loose figure.caption.markup []

/-- A figure series that waits for its number keeps closed markup. -/
structure PendingSeries.Sound (loose : String → Prop) (series : PendingSeries) : Prop where
  caption : Closed loose series.caption.markup []
  figures : ∀ figure ∈ series.groups.flatten, figure.Sound loose

/-- A table that waits for its number keeps closed markup. -/
structure PendingTable.Sound (loose : String → Prop) (table : PendingTable) : Prop where
  caption : Closed loose table.caption.markup []
  header : ∀ rows ∈ table.header, Closed loose rows []
  footer : ∀ rows ∈ table.footer, Closed loose rows []

namespace FrameState

/-- An open element keeps closed markup. -/
def Sound (loose : String → Prop) : FrameState → Prop
  | figure f | subFigure f => f.Sound loose
  | figureSeries s => s.Sound loose
  | table t => t.Sound loose
  | mathOp _ operands => ∀ operand ∈ operands, Closed loose operand.markup []
  | macroInvocation _ arguments => ∀ value, some value ∈ arguments → Closed loose value.markup []
  | _ => True

/-- The state that a change gives keeps closed markup, and takes over no more identifiers than
`new`. -/
structure Takes (loose : String → Prop) (new : List String)
    (change : FrameState → Option FrameState) : Prop where
  keepsShape : KeepsShape change
  held : ∀ state next, change state = some next → Covered loose next.held (state.held ++ new)
  sound : ∀ state next, change state = some next → state.Sound loose → next.Sound loose

end FrameState

namespace FrameState.Takes

variable {new : List String} {change : FrameState → Option FrameState} {frames next : Frames}

theorem sound_changeTop? (ht : Takes loose new change)
    (h : ∀ frame ∈ frames, frame.state.Sound loose) (hc : frames.changeTop? change = some next) :
    ∀ frame ∈ next, frame.state.Sound loose := by
  cases frames with
  | nil => cases hc
  | cons frame outer =>
    obtain ⟨state, hs, rfl⟩ := Option.map_eq_some_iff.mp hc
    rw [List.forall_mem_cons] at h ⊢
    exact ⟨ht.sound _ _ hs h.1, h.2⟩

theorem sound_changeSeries? (ht : Takes loose new change)
    (h : ∀ frame ∈ frames, frame.state.Sound loose) (hc : frames.changeSeries? change = some next) :
    ∀ frame ∈ next, frame.state.Sound loose := by
  induction frames generalizing next with
  | nil => cases hc
  | cons frame outer ih =>
    rw [Frames.changeSeries?] at hc
    split at hc
    · exact ht.sound_changeTop? h hc
    · obtain ⟨rest, hr, rfl⟩ := Option.map_eq_some_iff.mp hc
      rw [List.forall_mem_cons] at h ⊢
      exact ⟨h.1, ih h.2 hr⟩

end FrameState.Takes

/-- The header keeps closed markup. -/
structure Head.Sound (loose : String → Prop) (head : Head) : Prop where
  title : ∀ title ∈ head.title, Closed loose title.markup []
  authors : ∀ author ∈ head.authors, Closed loose author.markup []
  date : ∀ date ∈ head.date, Closed loose date.markup []

/-- The bodies of macros are closed markup. -/
def Macro.Library.Sound (loose : String → Prop) (library : Library) : Prop :=
  ∀ entry ∈ library.definitions,
    ∃ body, entry.2.markup = .parse body ∧ Closed loose body []

/-! ### The root -/

/-- The elements that are open around the header and the body. -/
def Phase.around : Phase → List String
  | .start | .done => []
  | .header | .headerDone | .body => ["html"]

/-- The root holds nothing before the document is started, and markup behind the prolog
afterwards. The identifiers that were written there and those that are pending are in the
budget. -/
def RootReads (loose : String → Prop) (budget : List String) (phase : Phase) (whole : String)
    (opened pending : List String) : Prop :=
  ∃ spent, Covered loose (spent ++ pending) budget ∧
    (phase = .start → whole = "" ∧ opened = []) ∧
    (phase ≠ .start → ∃ markup, whole = prolog ++ markup ∧
      Leads loose markup [] (opened ++ phase.around) spent)

section Root

variable {budget budget' new pending pending' opened left : List String} {phase : Phase}
  {whole text : String}

theorem RootReads.grant (hp : Covered loose pending' (pending ++ new))
    (hb : Covered loose (budget ++ new) budget')
    (h : RootReads loose budget phase whole opened pending) :
    RootReads loose budget' phase whole opened pending' := by
  obtain ⟨spent, hs, rest⟩ := h
  refine ⟨spent, ?_, rest⟩
  have behind : Covered loose (spent ++ pending') (spent ++ pending ++ new) := by
    rw [List.append_assoc]
    exact (Covered.refl spent).append hp
  exact (behind.trans (hs.append (.refl new))).trans hb

theorem RootReads.shrink (hp : Covered loose pending' pending)
    (h : RootReads loose budget phase whole opened pending) :
    RootReads loose budget phase whole opened pending' := by
  have hp' : Covered loose pending' (pending ++ []) := by rwa [List.append_nil]
  exact h.grant hp' (.of_perm (.of_eq (List.append_nil budget)))

theorem RootReads.write (hw : phase ≠ .start) (ht : Leads loose text opened left new)
    (above pending : List String)
    (h : RootReads loose budget phase whole (opened ++ above) (new ++ pending)) :
    RootReads loose budget phase (whole ++ text) (left ++ above) pending := by
  obtain ⟨spent, hs, _, hr⟩ := h
  obtain ⟨markup, rfl, hm⟩ := hr hw
  refine ⟨spent ++ new, ?_, fun h ↦ absurd h hw, fun _ ↦
    ⟨markup ++ text, String.append_assoc .., ?_⟩⟩
  · rwa [List.append_assoc]
  · rw [List.append_assoc] at hm ⊢
    exact hm.append (ht.frame _)

/-- Nothing changes at the root from one phase to another with the same elements around it. -/
theorem RootReads.turn {phase' : Phase} (hp : phase ≠ .start) (hp' : phase' ≠ .start)
    (ha : phase'.around = phase.around) (h : RootReads loose budget phase whole opened pending) :
    RootReads loose budget phase' whole opened pending := by
  obtain ⟨spent, hs, _, hr⟩ := h
  exact ⟨spent, hs, fun h ↦ absurd h hp', fun _ ↦ ha ▸ hr hp⟩

end Root

/-! ### Documents -/

/-- What the document has written reads as markup, with `opened` open above the innermost element
and `pending` still to be written there. -/
structure Document.Legible (loose : String → Prop) (budget : List String) (phase : Phase)
    (opened pending : List String) (d : Document) : Prop where
  phase_eq : d.phase = phase
  sheets : Sheets loose (RootReads loose budget phase d.output.whole) opened pending d.frames
    d.output.captures
  frames : ∀ frame ∈ d.frames, frame.state.Sound loose
  head : d.head.Sound loose
  macros : d.macros.Sound loose

/-- What a document has written and what it keeps for later. -/
def Document.sight (d : Document) : Frames × Output × Phase × Head × Macro.Library :=
  (d.frames, d.output, d.phase, d.head, d.macros)

/-- Something may be written: the document has been started, or something is held back. -/
def Document.Writable (d : Document) : Prop := d.output.captures = [] → d.phase ≠ .start

namespace Document

variable {budget budget' new pending pending' opened left : List String} {phase : Phase}
  {d : Document} {passage : Passage} {markup : String}

namespace Legible

/-- Identifiers may be promised: any at the root, loose ones elsewhere. -/
theorem grant (h : d.Legible loose budget phase opened pending)
    (hn : d.output.captures ≠ [] → ∀ id ∈ new, loose id)
    (hb : Covered loose (budget ++ new) budget') :
    d.Legible loose budget' phase opened (pending ++ new) where
  phase_eq := h.phase_eq
  sheets := h.sheets.grant hn (fun _ _ _ hp hr ↦ hr.grant hp hb) (.refl _)
  frames := h.frames
  head := h.head
  macros := h.macros

/-- Promises may be forgotten. -/
theorem shrink (h : d.Legible loose budget phase opened pending)
    (hp : Covered loose pending' pending) : d.Legible loose budget phase opened pending' :=
  { h with sheets := h.sheets.mono (fun _ _ _ hp hr ↦ hr.shrink hp) hp }

theorem forget (h : d.Legible loose budget phase opened pending) :
    d.Legible loose budget phase opened [] := h.shrink (.of_sublist (List.nil_sublist _))

theorem widen (h : d.Legible loose budget phase opened pending)
    (hb : Covered loose budget budget') : d.Legible loose budget' phase opened pending := by
  have hb' : Covered loose (budget ++ []) budget' := by rwa [List.append_nil]
  have hw := h.grant (fun _ _ hm ↦ by cases hm) hb'
  rwa [List.append_nil] at hw

/-- Without open elements nothing is held back. -/
theorem bottom (h : d.Legible loose budget phase opened pending) (hf : d.frames = []) :
    d.output.captures = [] ∧ RootReads loose budget phase d.output.whole opened pending := by
  have sheets := h.sheets
  rw [hf] at sheets
  generalize d.output.captures = captures at sheets
  cases sheets with
  | bottom hr => exact ⟨rfl, hr⟩

/-- The document comes into another phase with the same elements around it. -/
theorem turn {phase' : Phase} (h : d.Legible loose budget phase opened pending)
    (hp : phase ≠ .start) (hp' : phase' ≠ .start) (ha : phase'.around = phase.around) :
    ({ d with phase := phase' } : Document).Legible loose budget phase' opened pending := by
  have same : Covered loose pending (pending ++ []) := .of_perm (.of_eq (List.append_nil _).symm)
  refine ⟨rfl, h.sheets.grant (fun _ _ hm ↦ by cases hm) (fun _ _ _ hc hr ↦ ?_) same, h.frames,
    h.head, h.macros⟩
  rw [List.append_nil] at hc
  exact (hr.turn hp hp' ha).shrink hc

/-- What is written leads on from what is open. -/
theorem append (h : d.Legible loose budget phase opened (new ++ pending)) (hw : d.Writable)
    (ht : Leads loose passage.markup opened left new) :
    (d.append passage).Legible loose budget phase left pending := by
  refine ⟨h.phase_eq, ?_, h.frames, h.head, h.macros⟩
  have hs := h.sheets
  rw [← List.append_nil opened] at hs
  rw [← List.append_nil left]
  change Sheets loose (RootReads loose budget phase (d.output.write passage).whole) (left ++ [])
    pending d.frames (d.output.write passage).captures
  rw [Output.whole_write, Output.write]
  cases hc : d.output.captures with
  | nil =>
    rw [hc] at hs
    simp only [List.length_nil, if_pos]
    exact hs.write_root fun above pending hr ↦ hr.write (h.phase_eq ▸ hw hc) ht above pending
  | cons capture outer =>
    rw [hc] at hs
    rw [if_neg (show (capture :: outer).length ≠ 0 from Nat.succ_ne_zero _), String.append_empty]
    exact hs.write_capture ht

/-- The end of the body ends the document. -/
theorem finish (h : d.Legible loose budget .body ["body"] [])
    (hf : d.frames = []) : ({ d.emit backend.bodyEnd with phase := .done } : Document).Legible loose
      budget .done [] [] := by
  obtain ⟨hc, spent, covered, _, hr⟩ := h.bottom hf
  obtain ⟨markup, hw, hm⟩ := hr (by decide)
  have hl : d.output.captures.length = 0 := by rw [hc]; rfl
  have hw' : (d.output.write ⟨backend.bodyEnd, ""⟩).whole =
      prolog ++ (markup ++ backend.bodyEnd) := by
    rw [Output.whole_write, if_pos hl, hw, String.append_assoc]
  have hn : (d.output.write ⟨backend.bodyEnd, ""⟩).captures = [] :=
    List.length_eq_zero_iff.mp ((Output.length_captures_write _ _).trans hl)
  refine ⟨rfl, ?_, h.frames, h.head, h.macros⟩
  change Sheets loose (RootReads loose budget .done (d.output.write ⟨backend.bodyEnd, ""⟩).whole)
    [] [] d.frames (d.output.write ⟨backend.bodyEnd, ""⟩).captures
  rw [hw', hn, hf]
  have whole := hm.append leads_bodyEnd
  rw [List.append_nil] at whole
  exact .bottom ⟨spent, covered, fun h ↦ (by cases h), fun _ ↦ ⟨_, rfl, whole⟩⟩

/-- The indentation is text. -/
theorem emitLine (h : d.Legible loose budget phase opened (new ++ pending)) (hw : d.Writable)
    (ht : Leads loose markup opened left new) :
    (d.emitLine markup).Legible loose budget phase left pending := by
  have blank : Closed loose d.lineBreak [] := by
    refine closed_text fun c hm ↦ ?_
    unfold lineBreak at hm
    split at hm
    · rw [String.toList_ofList, List.mem_cons, List.mem_replicate] at hm
      rcases hm with rfl | ⟨_, rfl⟩ <;> decide
    · cases hm
  exact h.append hw ((blank.leads opened).append ht)

theorem offer {take : FrameState → Option FrameState} (ht : FrameState.Takes loose new take)
    (h : d.Legible loose budget phase opened (new ++ pending)) :
    (d.offer take).Legible loose budget phase opened pending := by
  unfold Document.offer
  cases hc : d.frames.changeTop? take with
  | none => exact h.shrink (.of_sublist (List.sublist_append_right _ _))
  | some frames =>
    have sheets := h.sheets.changeTop? (fun _ _ _ hp hr ↦ hr.shrink hp) ht.keepsShape ht.held hc
    exact ⟨h.phase_eq, sheets, ht.sound_changeTop? h.frames hc, h.head, h.macros⟩

theorem offerSeries {take : FrameState → Option FrameState} (ht : FrameState.Takes loose new take)
    (h : d.Legible loose budget phase opened (new ++ pending)) :
    (d.offerSeries take).Legible loose budget phase opened pending := by
  unfold Document.offerSeries
  cases hc : d.frames.changeSeries? take with
  | none => exact h.shrink (.of_sublist (List.sublist_append_right _ _))
  | some frames =>
    have sheets :=
      h.sheets.changeSeries? (fun _ _ _ hp hr ↦ hr.shrink hp) ht.keepsShape ht.held hc
    exact ⟨h.phase_eq, sheets, ht.sound_changeSeries? h.frames hc, h.head, h.macros⟩

/-- Whether a document is legible can be told from what it has written and what it keeps. -/
theorem congr {e : Document} (h : d.Legible loose budget phase opened pending)
    (hf : e.frames = d.frames) (hc : e.output.captures = d.output.captures)
    (hw : e.output.whole = d.output.whole) (hp : e.phase = d.phase) (hh : e.head = d.head)
    (hm : e.macros = d.macros) : e.Legible loose budget phase opened pending where
  phase_eq := hp.trans h.phase_eq
  sheets := by
    rw [hf, hc, hw]
    exact h.sheets
  frames := hf ▸ h.frames
  head := hh ▸ h.head
  macros := hm ▸ h.macros

theorem of_sight {e : Document} (h : d.Legible loose budget phase opened pending)
    (he : e.sight = d.sight) : e.Legible loose budget phase opened pending :=
  have ho : e.output = d.output := congrArg (·.2.1) he
  h.congr (congrArg (·.1) he) (congrArg _ ho) (congrArg _ ho) (congrArg (·.2.2.1) he)
    (congrArg (·.2.2.2.1) he) (congrArg (·.2.2.2.2) he)

theorem stream (h : d.Legible loose budget phase opened pending) :
    d.stream.Legible loose budget phase opened pending :=
  h.congr rfl (Output.captures_stream _) (Output.whole_stream _) rfl rfl rfl

/-- A frame is pushed when its start has been written. -/
theorem push {frame : Frame} (h : d.Legible loose budget phase frame.tags frame.held)
    (hf : frame.state.Sound loose) : (d.push frame).Legible loose budget phase [] [] := by
  refine ⟨h.phase_eq, ?_, List.forall_mem_cons.mpr ⟨hf, h.frames⟩, h.head, h.macros⟩
  unfold Document.push
  cases hc : frame.captured with
  | true => exact .apart hc (leads_empty []) (List.forall_mem_nil _) h.sheets
  | false => exact .within hc h.sheets

end Legible

end Document

end Manuscript

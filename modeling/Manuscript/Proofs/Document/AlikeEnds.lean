import Manuscript.Document.End
import Manuscript.Proofs.Document.Agreement

/-!
# Elements end alike

Where documents are alike, an element ends in both or in neither, and hands on or writes what
corresponds (`Session.agree_endElement`). A float that ends takes its number in both.
-/

namespace Manuscript

variable {L : Likeness} {Q : (Counter → Nat) → String → String → Prop}
  {aside : Counter → Nat → Prop} {backend : Backend}

/-! ### What is the same, and what corresponds -/

theorem Head.Alike.text_byline_eq {head head' : Head} (h : head.Alike L head') :
    head.byline Passage.text = head'.byline Passage.text := by
  unfold Head.byline
  rw [isEmpty_eq_of_forall₂ h.authors, map_text_eq h.authors]

/-- A macro is known in both documents or in neither. -/
theorem Macro.Library.Alike.find? {library library' : Macro.Library} (h : library.Alike L library')
    (name : String) :
    Option.Rel (Macro.Definition.Alike L) (library.find? name) (library'.find? name) := by
  have found : Option.Rel (fun entry entry' ↦ entry.1 = entry'.1 ∧ entry.2.Alike L entry'.2)
      (library.definitions.find? (·.1 = name)) (library'.definitions.find? (·.1 = name)) := by
    obtain ⟨definitions⟩ := library
    obtain ⟨definitions'⟩ := library'
    change List.Forall₂ _ definitions definitions' at h
    induction h with
    | nil => exact .none
    | cons first _ ih =>
      simp only [List.find?_cons, first.1]
      split
      · exact .some first
      · exact ih
  exact optionRel_map found fun _ _ he ↦ he.2

theorem Macro.Library.Alike.define {library library' : Macro.Library} (h : library.Alike L library')
    (name : String) {definition definition' : Macro.Definition}
    (hd : definition.Alike L definition') :
    (library.define name definition).Alike L (library'.define name definition') := by
  refine .cons ⟨rfl, hd⟩ (List.rel_filter (fun _ _ he ↦ ?_) h)
  simp [he.1]

/-- Figure bodies show what corresponds. -/
theorem alike_figureContent (hB : L.Respects backend) (canvas : Option Canvas)
    {captured captured' : Passage} (h : captured.Alike L captured') :
    (Session.figureContent canvas captured).Alike L (Session.figureContent canvas captured') := by
  cases canvas with
  | some canvas => exact .raster canvas
  | none =>
    have empty : captured.isEmpty = captured'.isEmpty := by
      unfold Passage.isEmpty
      rw [h.text, Bool.eq_iff_iff]
      simp [hB.eq_empty_iff h.markup]
    unfold Session.figureContent
    rw [empty]
    dsimp only
    split
    · exact .empty
    · exact .markup h.markup

namespace Document

/-- The document with one more of what is counted. -/
def countUp (counter : Counter) (d : Document) : Document :=
  match counter with
  | .figures => { d with figures := d.figures + 1 }
  | .tables => { d with tables := d.tables + 1 }
  | .equations => { d with equations := d.equations + 1 }

theorem count_countUp (d : Document) (counter : Counter) :
    (d.countUp counter).count = Function.update d.count counter (d.count counter + 1) := by
  funext other
  cases counter <;> cases other <;> rfl

end Document

namespace Session

open Action

section

variable (hB : L.Respects backend)

/-! ### Pictures and sub-figures -/

theorem alike_createPicture (path : Path) (picture : Picture) :
    Action.Alike L Q (fun _ _ ↦ True) (createPicture path picture) (createPicture path picture) := by
  intro s s' hs
  unfold createPicture
  rw [bind_get, bind_get, hs.files]
  cases s'.files.create path (.picture picture) with
  | error error => exact ⟨rfl, hs⟩
  | ok made => exact ⟨trivial, hs.document, rfl⟩

include hB

theorem alike_storeCanvas (canvas : Canvas) (number : String) {caption caption' : Passage}
    (h : caption.Alike L caption') :
    Action.Alike L Q L.markup (storeCanvas backend canvas number caption)
      (storeCanvas backend canvas number caption') := by
  refine alike_current fun d d' hd ↦ ?_
  have name : d.imageName number = d'.imageName number := hd.same (·.imageName number) fun _ ↦ rfl
  have directory : d.directory = d'.directory := hd.same Document.directory fun _ ↦ rfl
  have model : d.settings.model = d'.settings.model := hd.same (·.settings.model) fun _ ↦ rfl
  have format : d.settings.format = d'.settings.format := hd.same (·.settings.format) fun _ ↦ rfl
  rw [name, directory, model, format, h.text]
  exact (alike_createPicture _ _).bind fun _ _ _ ↦
    Action.Alike.bind (alike_note (fun _ _ _ _ _ _ ↦ rfl) fun _ ↦ rfl) fun _ _ _ ↦
      alike_pure (hB.image _ _ _ _)

theorem alike_figureBody {figure figure' : PendingFigure} (h : figure.Alike L figure')
    (number : String) :
    Action.Alike L Q L.markup (figureBody backend figure number)
      (figureBody backend figure' number) := by
  have content := h.content
  unfold figureBody
  revert content
  generalize figure.content = content
  generalize figure'.content = content'
  rintro (_ | hm | canvas)
  · exact alike_pure hB.empty
  · exact alike_pure hm
  · exact alike_storeCanvas hB canvas number h.caption

theorem alike_seriesCell (number index : Nat) {figure figure' : PendingFigure}
    (h : figure.Alike L figure') :
    Action.Alike L Q L.markup (seriesCell backend number index figure)
      (seriesCell backend number index figure') := by
  unfold seriesCell
  split
  · exact alike_throw _
  · next letter hl =>
    rw [h.label]
    exact (alike_resolve _ _).bind fun _ _ _ ↦ (alike_figureBody hB h _).bind
      fun _ _ hb ↦ alike_pure (hB.subFigure _ _ hl h.caption.markup hb)

theorem alike_seriesCells (number index : Nat) {figures figures' : List PendingFigure}
    (h : List.Forall₂ (PendingFigure.Alike L) figures figures') :
    Action.Alike L Q (List.Forall₂ L.markup) (seriesCells backend number index figures)
      (seriesCells backend number index figures') := by
  induction h generalizing index with
  | nil => exact alike_pure .nil
  | cons first _ ih =>
    exact (alike_seriesCell hB number index first).bind fun _ _ hc ↦
      (ih (index + 1)).bind fun _ _ hs ↦ alike_pure (.cons hc hs)

theorem alike_seriesPages (number index : Nat) {groups groups' : List (List PendingFigure)}
    (h : List.Forall₂ (List.Forall₂ (PendingFigure.Alike L)) groups groups') :
    Action.Alike L Q (List.Forall₂ (List.Forall₂ L.markup)) (seriesPages backend number index groups)
      (seriesPages backend number index groups') := by
  induction h generalizing index with
  | nil => exact alike_pure .nil
  | cons first _ ih =>
    refine (alike_seriesCells hB number index first).bind fun _ _ hc ↦ ?_
    rw [first.length_eq]
    exact (ih _).bind fun _ _ hs ↦ alike_pure (.cons hc hs)

/-! ### Floats -/

/-- The documents are alike again once the number of a float that is not at the root counts as
`aside`: it has ended in something that is held back, or has been refused. -/
def AlikeUnless (L : Likeness) (Q : (Counter → Nat) → String → String → Prop)
    (aside : Counter → Nat → Prop) (count : Counter → Nat) (refused : Prop) (t t' : Session) :
    Prop :=
  t.Alike L Q t' ∨ ∃ counter, t.document.count counter = count counter + 1 ∧
    (refused ∨ t.document.output.captures ≠ []) ∧
      (aside counter (count counter + 1) → t.Alike L Q t')

/-- The roots have stayed, and one number has been taken. -/
def Counted (s s' : Session) (counter : Counter) (count : Counter → Nat) (whole whole' : String) :
    Prop :=
  count = Function.update s.document.count counter (s.document.count counter + 1) ∧
    whole = s.document.output.whole ∧ whole' = s'.document.output.whole

end

section Floats

variable {s s' : Session} {counter : Counter}

/-- What is done to documents that are alike leaves them alike. -/
theorem agree_unless {α β : Type} {R : α → β → Prop} {act : Action α} {act' : Action β}
    (h : Action.Alike L Q R act act') (hs : s.Alike L Q s') :
    Agree (fun t t' ↦ t = s ∧ t' = s') act act'
      (fun _ _ ↦ AlikeUnless L Q aside s.document.count False)
      (AlikeUnless L Q aside s.document.count True) :=
  h.mono (by rintro _ _ ⟨rfl, rfl⟩; exact hs) (fun _ _ _ _ ht ↦ .inl ht.2) fun _ _ ht ↦ .inl ht

variable (hB : L.Respects backend) (hQ : L.Follows aside Q)

theorem agree_countUp {refused : Session → Session → Prop} (hs : s.Alike L Q s')
    (counter : Counter) :
    Agree (fun t t' ↦ t = s ∧ t' = s') (change (Document.countUp counter))
      (change (Document.countUp counter))
      (fun _ _ ↦ Session.Alike L (Counted s s' counter)) refused := by
  rintro s s' ⟨rfl, rfl⟩
  have counted : (s.document.countUp counter).Alike L (Counted s s' counter)
      (s'.document.countUp counter) := by
    refine hs.document.note (f := Document.countUp counter) (fun _ _ _ _ _ _ ↦ ?_)
      ⟨Document.count_countUp _ _, rfl, rfl⟩
    cases counter <;> rfl
  exact ⟨counted, hs.files⟩

/-- The number that has been taken is the next one. -/
theorem agree_numbered {α β : Type} {next : Document → Action α} {next' : Document → Action β}
    {after : α → β → Session → Session → Prop} {refused : Session → Session → Prop}
    (h : ∀ d d' : Document, d.count counter = s.document.count counter + 1 →
      d'.count counter = s.document.count counter + 1 →
        Agree (Session.Alike L (Counted s s' counter)) (next d) (next' d') after refused) :
    Agree (Session.Alike L (Counted s s' counter)) (current >>= next) (current >>= next') after
      refused := by
  intro t t' ht
  have number : t.document.count counter = s.document.count counter + 1 := by
    rw [ht.document.root.1, Function.update_self]
  have same := congrFun ht.document.count_eq counter
  exact h _ _ number (same ▸ number) t t' ht

include hQ

/-- A float that is refused when it has taken its number leaves the rest alike. -/
theorem Alike.unless {t t' : Session} (ht : t.Alike L (Counted s s' counter) t')
    (hs : s.Alike L Q s') : AlikeUnless L Q aside s.document.count True t t' := by
  obtain ⟨count, whole, whole'⟩ := ht.document.root
  refine .inr ⟨counter, by rw [count, Function.update_self], .inl trivial, fun ha ↦ ?_⟩
  refine ⟨ht.document.rooted ?_, ht.files⟩
  rw [count, whole, whole']
  exact hQ.skip hs.document.root ha

/-- What is done between taking the number and writing the float is done to what is alike. -/
theorem agree_counted {α β γ δ : Type} {R : α → β → Prop} {act : Action α} {act' : Action β}
    {next : α → Action γ} {next' : β → Action δ} {after : γ → δ → Session → Session → Prop}
    (hs : s.Alike L Q s') (first : Action.Alike L (Counted s s' counter) R act act')
    (second : ∀ answer answer', R answer answer' → Agree (Session.Alike L (Counted s s' counter))
      (next answer) (next' answer') after (AlikeUnless L Q aside s.document.count True)) :
    Agree (Session.Alike L (Counted s s' counter)) (act >>= next) (act' >>= next') after
      (AlikeUnless L Q aside s.document.count True) :=
  first.before (fun _ _ ht ↦ ht.unless hQ hs) second

include hB

/-- A float is written with its number, and reaches the root unless something is held back. -/
theorem agree_place {m m' : String} {refused : Session → Session → Prop} (hs : s.Alike L Q s')
    (hm : L.Floats counter (s.document.count counter + 1) m m') :
    Agree (Session.Alike L (Counted s s' counter)) (change (·.emitLine m)) (change (·.emitLine m'))
      (fun _ _ ↦ AlikeUnless L Q aside s.document.count False) refused := by
  intro t t' ht
  have line := hm _ _ ht.document.lineBreak
  obtain ⟨count, whole, whole'⟩ := ht.document.root
  by_cases hc : t.document.output.captures = []
  · refine .inl ⟨ht.document.append hB.toJoining (fun held ↦ absurd hc held) ?_, ht.files⟩
    rw [if_pos hc, if_pos hc, count, whole, whole']
    exact hQ.float hs.document.root line
  · refine .inr ⟨counter, ?_, .inr ?_, fun ha ↦ ⟨ht.document.append hB.toJoining
      (fun _ ↦ ⟨hQ.markup ha line, rfl⟩) ?_, ht.files⟩⟩
    · change t.document.count counter = _
      rw [count, Function.update_self]
    · have depth : (t.document.emitLine m).output.captures.length =
          t.document.output.captures.length := Output.length_captures_write _ _
      intro hn
      change (t.document.emitLine m).output.captures = [] at hn
      rw [hn] at depth
      exact hc (List.length_eq_zero_iff.mp depth.symm)
    · rw [if_neg hc, if_neg hc, String.append_empty, String.append_empty, count, whole, whole']
      exact hQ.skip hs.document.root ha

theorem agree_closeTable {table table' : PendingTable} {body body' : Passage}
    (hs : s.Alike L Q s') (ht : table.Alike L table') (hb : body.Alike L body') :
    Agree (fun t t' ↦ t = s ∧ t' = s') (closeTable backend table body)
      (closeTable backend table' body') (fun _ _ ↦ AlikeUnless L Q aside s.document.count False)
      (AlikeUnless L Q aside s.document.count True) := by
  refine (agree_countUp hs .tables).bind fun _ _ ↦ agree_numbered fun d d' hd hd' ↦ ?_
  change d.tables = _ at hd
  change d'.tables = _ at hd'
  rw [ht.label, hd, hd']
  refine agree_counted hQ hs (alike_resolve _ _) fun _ _ _ ↦ agree_place hB hQ hs ?_
  exact hB.table _ _ ht.caption.markup ht.header ht.footer hb.markup

theorem agree_closeEquation (label : Option Label) {body body' : Passage}
    (hs : s.Alike L Q s') (hb : body.Alike L body') :
    Agree (fun t t' ↦ t = s ∧ t' = s') (closeEquation backend label body)
      (closeEquation backend label body') (fun _ _ ↦ AlikeUnless L Q aside s.document.count False)
      (AlikeUnless L Q aside s.document.count True) := by
  refine (agree_countUp hs .equations).bind fun _ _ ↦ agree_numbered fun d d' hd hd' ↦ ?_
  change d.equations = _ at hd
  change d'.equations = _ at hd'
  rw [hd, hd']
  refine agree_counted hQ hs (alike_resolve _ _) fun _ _ _ ↦ agree_place hB hQ hs ?_
  exact hB.equation _ _ hb.markup

theorem agree_closeFigure {figure figure' : PendingFigure} (hs : s.Alike L Q s')
    (hf : figure.Alike L figure') :
    Agree (fun t t' ↦ t = s ∧ t' = s') (closeFigure backend figure)
      (closeFigure backend figure') (fun _ _ ↦ AlikeUnless L Q aside s.document.count False)
      (AlikeUnless L Q aside s.document.count True) := by
  refine (agree_countUp hs .figures).bind fun _ _ ↦ agree_numbered fun d d' hd hd' ↦ ?_
  change d.figures = _ at hd
  change d'.figures = _ at hd'
  rw [hf.label, hd, hd']
  refine agree_counted hQ hs (alike_resolve _ _) fun _ _ _ ↦
    agree_counted hQ hs (alike_figureBody hB hf _) fun _ _ hb ↦ agree_place hB hQ hs ?_
  exact hB.figure _ _ hf.caption.markup hb

theorem agree_closeSeries {series series' : PendingSeries} (hs : s.Alike L Q s')
    (hp : series.Alike L series') :
    Agree (fun t t' ↦ t = s ∧ t' = s') (closeSeries backend series)
      (closeSeries backend series') (fun _ _ ↦ AlikeUnless L Q aside s.document.count False)
      (AlikeUnless L Q aside s.document.count True) := by
  refine (agree_countUp hs .figures).bind fun _ _ ↦ agree_numbered fun d d' hd hd' ↦ ?_
  change d.figures = _ at hd
  change d'.figures = _ at hd'
  rw [hp.label, hp.columns, hd, hd']
  refine agree_counted hQ hs (alike_resolve _ _) fun _ _ _ ↦
    agree_counted hQ hs (alike_seriesPages hB _ _ hp.groups) fun _ _ hg ↦
      agree_place hB hQ hs ?_
  exact hB.figureSeries _ _ _ hp.caption.markup hg

end Floats

/-! ### The other elements -/

section Ends

variable (hB : L.Respects backend) (hQ : L.Follows aside Q)

include hB hQ

theorem alike_closeHeader :
    Action.Alike L Q (fun _ _ ↦ True) (closeHeader backend) (closeHeader backend) := by
  refine alike_current fun d d' hd ↦ ?_
  dsimp only
  rw [optionMap_text_eq hd.head.title, hd.head.text_byline_eq, optionMap_text_eq hd.head.date]
  exact (alike_emit hB hQ (hB.head _ _ _)).bind fun _ _ _ ↦
    alike_note (fun _ _ _ _ _ _ ↦ rfl) fun _ ↦ rfl

theorem alike_writeEntries (number : Nat) (works : List CitedWork) :
    Action.Alike L Q (fun _ _ ↦ True) (writeEntries backend number works)
      (writeEntries backend number works) := by
  induction works generalizing number with
  | nil => exact alike_pure trivial
  | cons work others ih =>
    have entry : Action.Alike L Q (fun _ _ ↦ True) (writeEntry backend work number)
        (writeEntry backend work number) :=
      (alike_emit hB hQ (hB.bibliographyEntryStart _ _)).bind fun _ _ _ ↦
        (alike_append hB hQ (alike_passage hB _)).bind fun _ _ _ ↦
          alike_emit hB hQ hB.bibliographyEntryEnd
    exact entry.bind fun _ _ _ ↦ ih (number + 1)

theorem alike_closeBody :
    Action.Alike L Q (fun _ _ ↦ True) (closeBody backend) (closeBody backend) := by
  have references : Action.Alike L Q (fun _ _ ↦ True) (writeReferences backend)
      (writeReferences backend) := by
    refine alike_current fun d d' hd ↦ ?_
    rw [hd.same (·.bibliography.works) fun _ ↦ rfl]
    dsimp only
    split
    · exact alike_pure trivial
    · exact (alike_emitLine hB hQ hB.bibliographyStart).bind fun _ _ _ ↦
        (alike_writeEntries hB hQ 1 _).bind fun _ _ _ ↦ alike_emit hB hQ hB.bibliographyEnd
  exact references.bind fun _ _ _ ↦ (alike_emit hB hQ hB.bodyEnd).bind fun _ _ _ ↦
    alike_note (fun _ _ _ _ _ _ ↦ rfl) fun _ ↦ rfl

theorem alike_closeSectionTitle {title title' : Passage} (ht : title.Alike L title') :
    Action.Alike L Q (fun _ _ ↦ True) (closeSectionTitle backend title)
      (closeSectionTitle backend title') := by
  refine alike_current fun d d' hd ↦ ?_
  have top := Frames.topState?_alike hd.frames
  revert top
  generalize d.frames.topState? = state
  generalize d'.frames.topState? = state'
  rintro (⟨_ | _⟩ | _)
  case some.sect label path =>
    exact (alike_resolve _ _).bind fun _ _ _ ↦
      alike_emitLine hB hQ (hB.sectionHeading _ _ ht.markup)
  all_goals exact alike_pure trivial

theorem alike_closeSection (label : Option Label) (path : List Nat) :
    Action.Alike L Q (fun _ _ ↦ True) (closeSection backend label path)
      (closeSection backend label path) :=
  (alike_resolve _ _).bind fun _ _ _ ↦ alike_emitLine hB hQ hB.sectionEnd

theorem alike_closeMathOp (operator : Operator) {operands operands' : List Passage}
    (h : List.Forall₂ (Passage.Alike L) operands operands') :
    Action.Alike L Q (fun _ _ ↦ True) (closeMathOp backend operator operands)
      (closeMathOp backend operator operands') := by
  refine (alike_refuse (by rw [h.length_eq])).bind fun _ _ _ ↦ alike_append hB hQ ⟨?_, ?_⟩
  · exact hB.mathOperator operator (forall₂_map_markup h)
  · exact congrArg operator.plainText (map_text_eq h)

theorem alike_closeInvocation (signature : Macro.Signature)
    {arguments arguments' : List (Option Passage)}
    (h : List.Forall₂ (Option.Rel (Passage.Alike L)) arguments arguments') :
    Action.Alike L Q (fun _ _ ↦ True) (closeInvocation signature arguments)
      (closeInvocation signature arguments') := by
  have markup : List.Forall₂ (Option.Rel L.markup) (arguments.map (·.map Passage.markup))
      (arguments'.map (·.map Passage.markup)) := by
    rw [List.forall₂_map_left_iff, List.forall₂_map_right_iff]
    exact h.imp fun _ _ ha ↦ optionRel_map ha fun _ _ hp ↦ hp.markup
  have text : arguments.map (·.map Passage.text) = arguments'.map (·.map Passage.text) := by
    induction h with
    | nil => rfl
    | cons first _ ih =>
      rw [List.map_cons, List.map_cons, optionMap_text_eq first, ih]
      exact (List.forall₂_cons.mp markup).2
  refine alike_current fun d d' hd ↦ ?_
  have known := hd.macros.find? signature.name
  revert known
  generalize d.macros.find? signature.name = definition
  generalize d'.macros.find? signature.name = definition'
  rintro (⟨body, body', hb, rfl, rfl⟩ | _)
  · refine alike_append hB hQ ⟨hB.expand hb.markup markup, ?_⟩
    dsimp only
    rw [hb.text, text]
  · exact alike_pure trivial

/-- Elements that gather nothing end alike. -/
theorem alike_closePlain (kind : Kind) {captured captured' : Passage}
    (h : captured.Alike L captured') :
    Action.Alike L Q (fun _ _ ↦ True) (closePlain backend kind captured)
      (closePlain backend kind captured') := by
  cases kind with
  | header => exact alike_closeHeader hB hQ
  | title => exact alike_change fun _ _ hd ↦ { hd with head := { hd.head with title := .some h } }
  | author =>
    exact alike_change fun _ _ hd ↦
      { hd with head := { hd.head with authors := List.rel_append hd.head.authors (.cons h .nil) } }
  | date => exact alike_change fun _ _ hd ↦ { hd with head := { hd.head with date := .some h } }
  | body => exact alike_closeBody hB hQ
  | sectionTitle => exact alike_closeSectionTitle hB hQ h
  | sectionBody => exact alike_emitLine hB hQ hB.sectionBodyEnd
  | paragraph => exact alike_emit hB hQ hB.paragraphEnd
  | caption => exact alike_change fun _ _ hd ↦ hd.offer (FrameState.takesAlike_caption h)
  | tablePage => exact alike_emitLine hB hQ hB.tableGroupEnd
  | tableHeader =>
    exact alike_change fun _ _ hd ↦ hd.offer (FrameState.takesAlike_tableHeader hB.toJoining h.markup)
  | tableFooter =>
    exact alike_change fun _ _ hd ↦ hd.offer (FrameState.takesAlike_tableFooter hB.toJoining h.markup)
  | inlineMath => exact alike_emit hB hQ hB.inlineMathEnd
  | mathName => exact alike_emit hB hQ hB.mathNameEnd
  | mathOpParam => exact alike_change fun _ _ hd ↦ hd.offer (FrameState.takesAlike_operand h)
  | item => exact alike_emit hB hQ hB.itemEnd
  | _ => exact alike_pure trivial

/-! ### Any element -/

theorem agree_closeFrame {s s' : Session} (hs : s.Alike L Q s') {frame frame' : Frame}
    (hf : frame.Alike L frame') {captured captured' : Passage} (hc : captured.Alike L captured') :
    Agree (fun t t' ↦ t = s ∧ t' = s') (closeFrame backend frame captured)
      (closeFrame backend frame' captured')
      (fun _ _ ↦ AlikeUnless L Q aside s.document.count False)
      (AlikeUnless L Q aside s.document.count True) := by
  obtain ⟨kind, held, state⟩ := frame
  obtain ⟨kind', held', state'⟩ := frame'
  obtain rfl : kind = kind' := hf.kind
  cases (hf.state : state.Alike L state') with
  | plain => exact agree_unless (alike_closePlain hB hQ kind hc) hs
  | sect label path => exact agree_unless (alike_closeSection hB hQ label path) hs
  | figure h => exact agree_closeFigure hB hQ hs h
  | subFigure h =>
    exact agree_unless
      (alike_change fun _ _ hd ↦ hd.offerSeries (FrameState.takesAlike_subFigure h)) hs
  | figureBody width height canvas =>
    exact agree_unless (alike_change fun _ _ hd ↦
      hd.offer (FrameState.takesAlike_figureBody (alike_figureContent hB canvas hc))) hs
  | figureSeries h => exact agree_closeSeries hB hQ hs h
  | table h => exact agree_closeTable hB hQ hs h hc
  | tableRow => exact agree_unless (alike_emit hB hQ hB.tableRowEnd) hs
  | tableCell header => exact agree_unless (alike_emit hB hQ (hB.tableCellEnd header)) hs
  | equation label => exact agree_closeEquation hB hQ label hs hc
  | mathOp operator h => exact agree_unless (alike_closeMathOp hB hQ operator h) hs
  | macroDefinition signature =>
    exact agree_unless (alike_change fun _ _ hd ↦
      { hd with
        core := hd.core
        macros := hd.macros.define signature.name ⟨_, _, hc, rfl, rfl⟩
        root := hd.root }) hs
  | macroInvocation signature h => exact agree_unless (alike_closeInvocation hB hQ signature h) hs
  | argument index =>
    exact agree_unless
      (alike_change fun _ _ hd ↦ hd.offer (FrameState.takesAlike_argument index hc)) hs
  | styled style => exact agree_unless (alike_emit hB hQ (hB.inlineEnd style)) hs
  | list ordered => exact agree_unless (alike_emitLine hB hQ (hB.listEnd ordered)) hs

end Ends

/-- What has been held back is handed over in both documents or in neither. -/
theorem alike_release (hL : L.Joins) {frame frame' : Frame} (h : frame.Alike L frame') :
    Action.Alike L Q (Passage.Alike L) (release frame) (release frame') := by
  unfold release
  rw [h.captured]
  split
  · intro s s' hs
    have released := hs.document.release?
    rw [bind_current, bind_current]
    revert released
    generalize s.document.output.release? = r
    generalize s'.document.output.release? = r'
    rintro (hr | _)
    · exact ⟨hr.1, hr.2, hs.files⟩
    · exact ⟨rfl, hs⟩
  · exact alike_pure ⟨hL.empty, rfl⟩

/-- Streaming gives documents that are alike in what the numbers say. -/
theorem AlikeUnless.stream {count : Counter → Nat} {refused : Prop} {t t' : Session}
    (h : AlikeUnless L Q aside count refused t t') :
    AlikeUnless L Q aside count refused (t.modifyDocument Document.stream)
      (t'.modifyDocument Document.stream) := by
  have streamed (ht : t.Alike L Q t') : (t.modifyDocument Document.stream).Alike L Q
      (t'.modifyDocument Document.stream) := ⟨ht.document.stream, ht.files⟩
  refine h.imp streamed fun ⟨counter, number, held, ha⟩ ↦
    ⟨counter, number, held.imp_right fun hc ↦ ?_, fun hn ↦ streamed (ha hn)⟩
  change t.document.output.stream.captures ≠ []
  rwa [Output.captures_stream]

/-- The roots are related, and nothing has been counted. -/
def Still (Q : (Counter → Nat) → String → String → Prop) (before : Counter → Nat)
    (count : Counter → Nat) (whole whole' : String) : Prop :=
  count = before ∧ Q count whole whole'

theorem Alike.of_still {before : Counter → Nat} {s s' : Session} (h : s.Alike L (Still Q before) s') :
    s.Alike L Q s' := ⟨h.document.rooted h.document.root.2, h.files⟩

section Taking

variable {s s' : Session} (hB : L.Respects backend) (hQ : L.Follows aside Q)

include hB hQ

/-- The innermost element ends in both documents. -/
theorem agree_taken {count : Counter → Nat} {frame frame' : Frame} {outer outer' : Frames}
    (first : frame.Alike L frame') (rest : List.Forall₂ (Frame.Alike L) outer outer') :
    Agree (Session.Alike L (Still Q count))
      (do
        change ({ · with frames := outer })
        let captured ← release frame
        change fun d ↦ { d with tagDepth := d.tagDepth - 1 }
        closeFrame backend frame captured
        change Document.stream)
      (do
        change ({ · with frames := outer' })
        let captured ← release frame'
        change fun d ↦ { d with tagDepth := d.tagDepth - 1 }
        closeFrame backend frame' captured
        change Document.stream)
      (fun _ _ ↦ AlikeUnless L Q aside count False)
      (AlikeUnless L Q aside count True) := by
  have refused (t t' : Session) (ht : t.Alike L (Still Q count) t') :
      AlikeUnless L Q aside count True t t' := .inl ht.of_still
  refine (alike_change fun _ _ hd ↦ hd.withFrames rest).before refused fun _ _ _ ↦
    (alike_release hB.toJoining first).before refused fun captured captured' hc ↦
      Action.Alike.before (alike_note (fun _ _ _ _ _ _ ↦ rfl) fun _ ↦ rfl) refused fun _ _ _ ↦ ?_
  intro t t' ht
  have same : t.document.count = count := ht.document.root.1
  have closed := agree_closeFrame hB hQ ht.of_still first hc
  rw [same] at closed
  refine (closed.bind fun _ _ u u' hu ↦ ?_) t t' ⟨rfl, rfl⟩
  exact hu.stream

/-- An element ends in both documents or in neither. -/
theorem agree_endElement (hs : s.Alike L Q s') (kind : Kind) :
    Agree (fun t t' ↦ t = s ∧ t' = s') (endElement backend kind) (endElement backend kind)
      (fun _ _ ↦ AlikeUnless L Q aside s.document.count False)
      (AlikeUnless L Q aside s.document.count True) := by
  refine agree_look ?_
  have frames := hs.document.frames
  revert frames
  generalize s.document.frames = frames
  generalize s'.document.frames = frames'
  rintro (_ | @⟨frame, frame', outer, outer', first, rest⟩)
  · exact agree_unless (alike_throw (R := fun _ _ ↦ True) _) hs
  · dsimp only
    rw [first.kind]
    split
    · refine (agree_taken hB hQ first rest).mono ?_ (fun _ _ _ _ ht ↦ ht) fun _ _ ht ↦ ht
      rintro _ _ ⟨rfl, rfl⟩
      exact ⟨hs.document.rooted ⟨rfl, hs.document.root⟩, hs.files⟩
    · exact agree_unless (alike_throw (R := fun _ _ ↦ True) _) hs

end Taking

end Session

end Manuscript

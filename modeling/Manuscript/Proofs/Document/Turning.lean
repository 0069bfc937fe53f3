import Manuscript.Proofs.Document.Knowledge
import Manuscript.Proofs.Document.Ledger

/-!
# How ends turn the ledger

What ends an element `Turns` the ledger into another one: the element is counted first, and then the
labels that waited for it get their numbers, one after the other. If a picture cannot be stored
between two numbers, the numbers given before stay given.
-/

namespace Manuscript

theorem Ledger.settle_nil (l : Ledger) : l.settle [] [] = l := by
  rw [Ledger.settle, List.append_nil]
  rfl

theorem Ledger.settle_settle (l : Ledger) (numbers others : List (Label × String))
    (stored more : List Path) :
    (l.settle numbers stored).settle others more =
      l.settle (numbers ++ others) (stored ++ more) := by
  rw [Ledger.settle, Ledger.settle, Ledger.settle, Registry.number_append, List.append_assoc]

theorem Registry.extends_number (registry : Registry) (numbers : List (Label × String)) :
    (registry.number numbers).Extends registry := by
  induction numbers generalizing registry with
  | nil => exact .refl registry
  | cons n numbers ih =>
    have resolved : (registry.resolve n.1 n.2).Extends registry :=
      .of_targets_eq rfl (Registry.targets_update fun _ ↦ rfl)
    exact (ih _).trans resolved

namespace Action

variable {α β : Type} {act : Action α} {next : α → Action β} {l l' : Ledger}
  {numbers others : List (Label × String)} {E : DocumentError → Prop}

/-- From one ledger the action comes to another, and then gives numbers to known labels and may
store images. If it is refused, which happens with errors of some sort only, the first of the
numbers have been given. -/
def Turns (E : DocumentError → Prop) (l l' : Ledger) (numbers : List (Label × String))
    (act : Action α) : Prop :=
  (∀ n ∈ numbers, l'.labels.fault n.1 = none) →
    Ensures (·.document.ledger = l) act
      (fun _ s ↦ ∃ stored, s.document.ledger = l'.settle numbers stored)
      fun error s ↦ E error ∧
        ∃ given stored, given <+: numbers ∧ s.document.ledger = l'.settle given stored

theorem turns_pure {answer : α} : Turns E l l [] (pure answer : Action α) :=
  fun _ ↦ ensures_pure fun _ h ↦ ⟨[], h.trans (Ledger.settle_nil l).symm⟩

theorem turns_change {f : Document → Document} (h : ∀ d, d.ledger = l → (f d).ledger = l') :
    Turns E l l' [] (change f) :=
  fun _ ↦ ensures_change fun s hs ↦ ⟨[], (h s.document hs).trans (Ledger.settle_nil l').symm⟩

/-- What is written or noted leaves the ledger. -/
theorem turns_note {f : Document → Document} (h : ∀ d, (f d).ledger = d.ledger) :
    Turns E l l [] (change f) := turns_change fun d hd ↦ (h d).trans hd

theorem turns_current {next : Document → Action β}
    (h : ∀ d, d.ledger = l → Turns E l l' numbers (next d)) :
    Turns E l l' numbers (current >>= next) := by
  intro known
  refine ensures_current fun d ↦ ensures_of_forall fun s hs ↦ ?_
  obtain ⟨hl, rfl⟩ := hs
  exact (h s.document hl known).mono (fun _ ht ↦ ht ▸ hl) (fun _ _ ht ↦ ht) fun _ _ ht ↦ ht

theorem Turns.bind (first : Turns E l l' numbers act)
    (second : ∀ answer stored,
      Turns E (l'.settle numbers stored) (l'.settle numbers stored) others (next answer)) :
    Turns E l l' (numbers ++ others) (act >>= next) := by
  intro known
  have knownFirst : ∀ n ∈ numbers, l'.labels.fault n.1 = none :=
    fun n hn ↦ known n (List.mem_append_left _ hn)
  have knownSecond (stored : List Path) :
      ∀ n ∈ others, (l'.settle numbers stored).labels.fault n.1 = none := fun n hn ↦
    (Registry.extends_number l'.labels numbers).fault (known n (List.mem_append_right _ hn))
  refine Ensures.bind ((first knownFirst).mono (fun _ h ↦ h) (fun _ _ h ↦ h) ?_) fun answer ↦ ?_
  · rintro error s ⟨io, given, stored, hp, hs⟩
    exact ⟨io, given, stored, hp.trans (List.prefix_append _ _), hs⟩
  · refine ensures_of_forall fun s hs ↦ ?_
    obtain ⟨stored, hs⟩ := hs
    refine ((second answer stored) (knownSecond stored)).mono (fun _ ht ↦ ht ▸ hs) ?_ ?_
    · rintro _ t ⟨more, ht⟩
      exact ⟨stored ++ more, ht.trans (Ledger.settle_settle ..)⟩
    · rintro error t ⟨io, given, more, hp, ht⟩
      refine ⟨io, numbers ++ given, stored ++ more, ?_, ht.trans (Ledger.settle_settle ..)⟩
      exact (List.prefix_append_right_inj numbers).mpr hp

/-- What comes last need not give any numbers. -/
theorem Turns.before (first : Turns E l l' numbers act)
    (second : ∀ answer stored,
      Turns E (l'.settle numbers stored) (l'.settle numbers stored) [] (next answer)) :
    Turns E l l' numbers (act >>= next) := by
  have both := first.bind second
  rwa [List.append_nil] at both

/-- A label that is known gets its number. -/
theorem turns_resolve (label : Option Label) (number : String) :
    Turns E l l (Label.given label number) (resolve label number) := by
  cases label with
  | none => exact turns_pure
  | some label =>
    intro known
    have fault : l.labels.fault label = none := known (label, number) (List.mem_singleton.mpr rfl)
    refine ensures_current fun d ↦ Ensures.through (fun _ s ↦ s.document.ledger = l)
      (ensures_refuse (fun _ _ hs ↦ hs.1) fun error he s hs ↦ ?_) fun _ ↦
        ensures_change fun s hs ↦ ⟨[], ?_⟩
    · obtain ⟨hs, rfl⟩ := hs
      have labels : s.document.labels = l.labels := congrArg Ledger.labels hs
      rw [labels, fault] at he
      cases he
    · subst hs
      rw [Ledger.settle, List.append_nil]
      rfl

end Action

namespace Session

open Action

/-! ### Closing an element whose frame has been taken off -/

section Closing

variable {l : Ledger} {E : DocumentError → Prop}

theorem turns_emit (markup : String) : Turns E l l [] (change (·.emit markup)) :=
  turns_note fun _ ↦ rfl

theorem turns_emitLine (markup : String) : Turns E l l [] (change (·.emitLine markup)) :=
  turns_note fun _ ↦ rfl

theorem turns_appendPhrase (backend : Backend) (phrase : Phrase) :
    Turns E l l [] (change (·.appendPhrase backend phrase)) := turns_note fun _ ↦ rfl

theorem turns_offer {take : FrameState → Option FrameState} (h : FrameState.KeepsBare take) :
    Turns E l l [] (change (·.offer take)) := turns_note fun d ↦ d.ledger_offer h

theorem turns_closeHeader (backend : Backend) : Turns E l l [] (closeHeader backend) :=
  turns_current fun _ _ ↦ (turns_emit _).bind fun _ _ ↦ turns_note fun _ ↦ rfl

theorem turns_writeEntries (backend : Backend) (number : Nat) (works : List CitedWork) :
    Turns E l l [] (writeEntries backend number works) := by
  induction works generalizing number l with
  | nil => exact turns_pure
  | cons work others ih =>
    have entry : Turns E l l [] (writeEntry backend work number) :=
      (turns_emit _).bind fun _ _ ↦ (turns_appendPhrase backend _).bind fun _ _ ↦ turns_emit _
    exact entry.bind fun _ _ ↦ ih (number + 1)

theorem turns_closeBody (backend : Backend) : Turns E l l [] (closeBody backend) := by
  have references : Turns E l l [] (writeReferences backend) := by
    refine turns_current fun d _ ↦ ?_
    dsimp only
    split
    · exact turns_pure
    · exact (turns_emitLine _).bind fun _ _ ↦
        (turns_writeEntries backend 1 d.bibliography.works).bind fun _ _ ↦ turns_emit _
  exact references.bind fun _ _ ↦ (turns_emit _).bind fun _ _ ↦ turns_note fun _ ↦ rfl

/-- A title numbers the section around it. -/
theorem turns_closeSectionTitle (backend : Backend) (title : Passage) :
    Turns E l l l.frames.titleNumbers (closeSectionTitle backend title) := by
  refine turns_current fun d hd ↦ ?_
  have numbers : l.frames.titleNumbers = d.frames.titleNumbers := by
    rw [← hd]
    exact d.frames.titleNumbers_bare
  rw [numbers, Frames.titleNumbers]
  cases d.frames.topState? with
  | none => exact turns_pure
  | some state =>
    cases state with
    | sect label path => exact (turns_resolve label _).before fun _ _ ↦ turns_emitLine _
    | _ => exact turns_pure

/-- Only a title of a section gives a number among the elements that gather nothing. -/
theorem turns_closePlain (backend : Backend) (kind : Kind) (held : Bool) (captured : Passage) :
    Turns E l l (l.numbers ⟨kind, held, .plain⟩) (closePlain backend kind captured) := by
  cases kind with
  | header => exact turns_closeHeader backend
  | body => exact turns_closeBody backend
  | sectionTitle => exact turns_closeSectionTitle backend captured
  | caption => exact turns_offer (FrameState.keepsBare_takeCaption? _)
  | tableHeader =>
    exact turns_offer ((FrameState.keepsShape_takeTableHeader? _).keepsBare_of_none fun _ ↦ rfl)
  | tableFooter =>
    exact turns_offer ((FrameState.keepsShape_takeTableFooter? _).keepsBare_of_none fun _ ↦ rfl)
  | mathOpParam =>
    exact turns_offer ((FrameState.keepsShape_takeOperand? _).keepsBare_of_none fun _ ↦ rfl)
  | sectionBody | tablePage => exact turns_emitLine _
  | paragraph | inlineMath | mathName | item => exact turns_emit _
  | title | author | date => exact turns_note fun _ ↦ rfl
  | _ => exact turns_pure

/-- A picture that cannot be stored is an I/O error. -/
theorem turns_storeCanvas (backend : Backend) (canvas : Canvas) (number : String)
    (caption : Passage) (io : ∀ error, E (.io error)) :
    Turns E l l [] (storeCanvas backend canvas number caption) := by
  refine turns_current fun d _ _ ↦ ?_
  refine Ensures.through (fun _ s ↦ s.document.ledger = l) (fun s hs ↦ ?_) fun _ ↦
    Ensures.through (fun _ s ↦ ∃ stored, s.document.ledger = l.settle [] stored)
      (ensures_change fun s hs ↦ ?_) fun _ ↦ ensures_pure fun _ hs ↦ hs
  · unfold createPicture
    rw [bind_get]
    cases s.files.create (d.directory.join (d.imageName number))
      (.picture ⟨canvas, d.settings.model, d.settings.format⟩) with
    | error error => exact ⟨io error, [], [], List.prefix_rfl, hs.trans (Ledger.settle_nil l).symm⟩
    | ok made => exact hs
  · subst hs
    exact ⟨[_], rfl⟩

theorem turns_figureBody (backend : Backend) (figure : PendingFigure) (number : String)
    (io : ∀ error, E (.io error)) : Turns E l l [] (figureBody backend figure number) := by
  unfold figureBody
  split
  · exact turns_pure
  · exact turns_pure
  · exact turns_storeCanvas backend _ number _ io

theorem turns_closeSection (backend : Backend) (label : Option Label) (path : List Nat) :
    Turns E l l (Label.given label (sectionNumber path)) (closeSection backend label path) :=
  (turns_resolve label _).before fun _ _ ↦ turns_emitLine _

/-- Between the count and the number that is taken nothing is counted. -/
theorem Turns.counted {l' : Ledger} {f : Document → Document} {numbers : List (Label × String)}
    {next : Document → Action Unit} (hf : ∀ d, d.ledger = l → (f d).ledger = l')
    (h : ∀ d, d.ledger = l' → Turns E l' l' numbers (next d)) :
    Turns E l l' numbers (do change f; let d ← current; next d) := by
  intro known
  exact Ensures.through (fun _ s ↦ s.document.ledger = l') (ensures_change fun s hs ↦ hf _ hs)
    fun _ ↦ turns_current h known

theorem turns_closeTable (backend : Backend) (table : PendingTable) (body : Passage) :
    Turns E l { l with tables := l.tables + 1 }
      (Label.given table.label (toString (l.tables + 1))) (closeTable backend table body) := by
  refine Turns.counted (fun d hd ↦ hd ▸ rfl) fun d hd ↦ ?_
  have number : d.tables = l.tables + 1 := congrArg Ledger.tables hd
  rw [number]
  exact (turns_resolve table.label _).before fun _ _ ↦ turns_emitLine _

theorem turns_closeEquation (backend : Backend) (label : Option Label) (body : Passage) :
    Turns E l { l with equations := l.equations + 1 }
      (Label.given label (toString (l.equations + 1))) (closeEquation backend label body) := by
  refine Turns.counted (fun d hd ↦ hd ▸ rfl) fun d hd ↦ ?_
  have number : d.equations = l.equations + 1 := congrArg Ledger.equations hd
  rw [number]
  exact (turns_resolve label _).before fun _ _ ↦ turns_emitLine _

theorem turns_closeFigure (backend : Backend) (figure : PendingFigure)
    (io : ∀ error, E (.io error)) :
    Turns E l { l with figures := l.figures + 1 }
      (Label.given figure.label (toString (l.figures + 1))) (closeFigure backend figure) := by
  refine Turns.counted (fun d hd ↦ hd ▸ rfl) fun d hd ↦ ?_
  have number : d.figures = l.figures + 1 := congrArg Ledger.figures hd
  rw [number]
  exact (turns_resolve figure.label _).before fun _ _ ↦
    (turns_figureBody backend figure _ io).before fun _ _ ↦ turns_emitLine _

/-- There is a letter for each of the sub-figures that a series has room for. -/
theorem letter?_eq {index : Nat} (h : index < Limit.maxSubFigures) :
    letter? index = some (Char.ofNat ('a'.toNat + index)) := if_pos h

theorem turns_seriesCell (backend : Backend) (number index : Nat) (figure : PendingFigure)
    (h : index < Limit.maxSubFigures) (io : ∀ error, E (.io error)) :
    Turns E l l (Label.given figure.label (subFigureNumber number index))
      (seriesCell backend number index figure) := by
  rw [seriesCell, letter?_eq h]
  exact (turns_resolve figure.label _).before fun _ _ ↦
    (turns_figureBody backend figure _ io).before fun _ _ ↦ turns_pure

theorem turns_seriesCells (backend : Backend) (number index : Nat) (figures : List PendingFigure)
    (h : index + figures.length ≤ Limit.maxSubFigures) (io : ∀ error, E (.io error)) :
    Turns E l l (subFigureNumbers number index (figures.map PendingFigure.label))
      (seriesCells backend number index figures) := by
  induction figures generalizing index l with
  | nil => exact turns_pure
  | cons figure others ih =>
    rw [List.length_cons] at h
    exact (turns_seriesCell backend number index figure (by omega) io).bind fun _ _ ↦
      (ih (index + 1) (by omega)).before fun _ _ ↦ turns_pure

theorem turns_seriesPages (backend : Backend) (number index : Nat)
    (groups : List (List PendingFigure))
    (h : index + groups.flatten.length ≤ Limit.maxSubFigures) (io : ∀ error, E (.io error)) :
    Turns E l l (subFigureNumbers number index (groups.flatten.map PendingFigure.label))
      (seriesPages backend number index groups) := by
  induction groups generalizing index l with
  | nil => exact turns_pure
  | cons group others ih =>
    rw [List.flatten_cons, List.length_append] at h
    rw [List.flatten_cons, List.map_append, subFigureNumbers_append, List.length_map]
    exact (turns_seriesCells backend number index group (by omega) io).bind fun _ _ ↦
      (ih (index + group.length) (by omega)).before fun _ _ ↦ turns_pure

theorem turns_closeSeries (backend : Backend) (series : PendingSeries)
    (h : series.count ≤ Limit.maxSubFigures) (io : ∀ error, E (.io error)) :
    Turns E l { l with figures := l.figures + 1 }
      (Label.given series.label (toString (l.figures + 1)) ++
        subFigureNumbers (l.figures + 1) 0 (FrameState.figureSeries series).members)
      (closeSeries backend series) := by
  refine Turns.counted (fun d hd ↦ hd ▸ rfl) fun d hd ↦ ?_
  have number : d.figures = l.figures + 1 := congrArg Ledger.figures hd
  rw [number]
  exact (turns_resolve series.label _).bind fun _ _ ↦
    (turns_seriesPages backend _ 0 series.groups ((Nat.zero_add series.count).symm ▸ h) io).before
      fun _ _ ↦ turns_emitLine _

/-- What turns the ledger and is not refused closes a frame as it should. -/
theorem Turns.closes {l' : Ledger} {numbers : List (Label × String)} {act : Action Unit}
    {fails : DocumentError → Ledger → Prop} (h : Turns (fun _ ↦ False) l l' numbers act)
    (known : ∀ n ∈ numbers, l'.labels.fault n.1 = none) :
    Ensures (·.document.ledger = l) act
      (fun _ s ↦ ∃ stored, s.document.ledger = l'.settle numbers stored)
      fun error s ↦ fails error s.document.ledger :=
  (h known).mono (fun _ hs ↦ hs) (fun _ _ hs ↦ hs) fun _ _ hf ↦ hf.1.elim

/-- A figure or series whose picture cannot be stored fails. -/
theorem Turns.draws {frame : Frame} {act : Action Unit}
    (h : Turns (∃ reason, · = .io reason) l (l.count frame.state)
      ((l.count frame.state).numbers frame) act)
    (known : ∀ n ∈ (l.count frame.state).numbers frame,
      (l.count frame.state).labels.fault n.1 = none)
    (hk : frame.kind = .figure ∨ frame.kind = .figureSeries) :
    Ensures (·.document.ledger = l) act
      (fun _ s ↦ ∃ stored, s.document.ledger =
        (l.count frame.state).settle ((l.count frame.state).numbers frame) stored)
      fun error s ↦ l.Fails frame error s.document.ledger := by
  refine (h known).mono (fun _ hs ↦ hs) (fun _ _ hs ↦ hs) ?_
  rintro error s ⟨⟨reason, rfl⟩, given, stored, hp, hs⟩
  rw [hs]
  exact .picture stored hk hp

/-- Closing an element that has been taken off counts it and gives its numbers. -/
theorem ensures_closeFrame (backend : Backend) (frame : Frame) (captured : Passage)
    (suits : frame.state.suits frame.kind = true)
    (room : frame.state.members.length ≤ Limit.maxSubFigures)
    (known : ∀ n ∈ (l.count frame.state).numbers frame,
      (l.count frame.state).labels.fault n.1 = none) :
    Ensures (·.document.ledger = l) (closeFrame backend frame captured)
      (fun _ s ↦ ∃ stored, s.document.ledger =
        (l.count frame.state).settle ((l.count frame.state).numbers frame) stored)
      fun error s ↦ l.Fails frame error s.document.ledger := by
  obtain ⟨kind, held, state⟩ := frame
  have io : ∀ error, ∃ reason, DocumentError.io error = .io reason := fun error ↦ ⟨error, rfl⟩
  cases state with
  | plain => exact Turns.closes (turns_closePlain backend kind held captured) known
  | sect label path => exact Turns.closes (turns_closeSection backend label path) known
  | figure figure =>
    exact Turns.draws (turns_closeFigure backend figure io) known (.inl (eq_of_beq suits))
  | figureSeries series =>
    rw [FrameState.length_members] at room
    exact Turns.draws (turns_closeSeries backend series room io) known (.inr (eq_of_beq suits))
  | subFigure figure =>
    refine Turns.closes (turns_change fun d hd ↦ ?_) known
    subst hd
    simp only [Document.ledger, Document.offerSeries, Ledger.count, Frames.bare_gather]
  | table table => exact Turns.closes (turns_closeTable backend table captured) known
  | equation label => exact Turns.closes (turns_closeEquation backend label captured) known
  | mathOp operator operands =>
    refine Ensures.through (fun _ s ↦ s.document.ledger = l)
      (ensures_refuse (fun _ _ hs ↦ hs) fun error he s hs ↦ ?_) fun _ ↦
        ensures_change fun s hs ↦ ⟨[], hs.trans (Ledger.settle_nil l).symm⟩
    split at he
    · cases he
    · cases he
      rw [hs]
      exact .operands (eq_of_beq suits)
  | figureBody _ _ canvas =>
    refine Turns.closes (turns_offer ?_) known
    exact (FrameState.keepsShape_takeFigureBody? _).keepsBare_of_none fun _ ↦ rfl
  | argument index =>
    refine Turns.closes (turns_offer ?_) known
    exact (FrameState.keepsShape_takeArgument? _ _).keepsBare_of_none fun _ ↦ rfl
  | macroInvocation signature arguments =>
    refine Turns.closes (turns_current fun d _ ↦ ?_) known
    split
    · exact turns_note fun _ ↦ rfl
    · exact turns_pure
  | macroDefinition | tableRow | tableCell | styled | list =>
    exact Turns.closes (turns_note fun _ ↦ rfl) known

end Closing

end Session

end Manuscript

import Manuscript.Proofs.Document.Lifecycle

/-!
# Numbers that are shown

An element that is numbered writes its number and the key of its label in one line of markup, once
it has been taken off and all that it needs has been done (`Session.shows_closeFrame`). The number
text that its label gets is the one that is shown there.
-/

namespace Manuscript

/-- The line of markup that shows a number text beside the key of a label. -/
inductive Backend.Shows (backend : Backend) (label : Label) : (number markup : String) → Prop where
  | figure (n : Nat) (caption body : String) :
    Shows backend label (toString n) (backend.figure ⟨n, some label.key, caption⟩ body)
  | series (n columns : Nat) (caption : String) (pages : List (List String)) :
    Shows backend label (toString n)
      (backend.figureSeries ⟨n, some label.key, caption⟩ columns pages)
  /-- A sub-figure shows its letter in a cell of its series. -/
  | subFigure (n columns : Nat) (anchor : Option String) (letter : Char)
    (caption caption' body : String) {cells : List String} {pages : List (List String)} :
    backend.subFigure ⟨n, some label.key, caption⟩ letter body ∈ cells → cells ∈ pages →
      Shows backend label (toString n ++ String.singleton letter)
        (backend.figureSeries ⟨n, anchor, caption'⟩ columns pages)
  | table (n : Nat) (caption body : String) (header footer : Option String) :
    Shows backend label (toString n)
      (backend.table ⟨n, some label.key, caption⟩ header footer body)
  | equation (n : Nat) (body : String) :
    Shows backend label (toString n) (backend.equation n (some label.key) body)

namespace Document

/-- What a line of markup is written into. -/
def page (d : Document) : Output × Settings × Nat := (d.output, d.settings, d.tagDepth)

/-- What a line of markup is written into, and what has been counted. -/
def margin (d : Document) : (Output × Settings × Nat) × Nat × Nat × Nat :=
  (d.page, d.figures, d.tables, d.equations)

theorem output_emitLine_congr {d e : Document} (h : d.page = e.page) (markup : String) :
    (d.emitLine markup).output = (e.emitLine markup).output := by
  simp only [page, Prod.mk.injEq] at h
  simp only [emitLine, emit, append, lineBreak, depth, h]

end Document

namespace Session

open Action

/-! ### What is done before the line -/

theorem keeps_margin_resolve (label : Option Label) (number : String) :
    Keeps (·.document.margin) (resolve label number) := keeps_resolve label number fun _ _ ↦ rfl

section Drawn

variable {γ : Type} {view : Session → γ}

/-- What tells nothing of labels, images and files is kept while the body of a figure is drawn. -/
theorem keeps_figureBody (backend : Backend) (figure : PendingFigure) (number : String)
    (h : ∀ (s : Session) (labels : Registry) (images : List Path) (files : FileSystem),
      view ⟨{ s.document with labels, images }, files⟩ = view s) :
    Keeps view (figureBody backend figure number) := by
  have imaged (s : Session) (images : List Path) :
      view (s.modifyDocument ({ · with images })) = view s := h s s.document.labels images s.files
  have stored (s : Session) (files : FileSystem) : view { s with files } = view s :=
    h s s.document.labels s.document.images files
  unfold figureBody
  split
  · exact keeps_pure
  · exact keeps_pure
  · refine keeps_current fun d ↦ Keeps.bind ?_ fun _ ↦ Keeps.bind (keeps_change ?_) fun _ ↦
      keeps_pure
    · unfold createPicture
      intro v s hs
      rw [bind_get]
      cases s.files.create (d.directory.join (d.imageName number))
        (.picture ⟨_, d.settings.model, d.settings.format⟩) with
      | error error => exact hs
      | ok made => exact (stored s made.2).trans hs
    · exact fun s ↦ imaged s _

/-- The same is kept while the sub-figures of a series are drawn. -/
theorem keeps_seriesPages (backend : Backend) (number index : Nat)
    (groups : List (List PendingFigure))
    (h : ∀ (s : Session) (labels : Registry) (images : List Path) (files : FileSystem),
      view ⟨{ s.document with labels, images }, files⟩ = view s) :
    Keeps view (seriesPages backend number index groups) := by
  have cell (index : Nat) (figure : PendingFigure) :
      Keeps view (seriesCell backend number index figure) := by
    unfold seriesCell
    split
    · exact keeps_throw
    · exact (keeps_resolve _ _ fun s labels ↦ h s labels s.document.images s.files).bind fun _ ↦
        (keeps_figureBody backend figure _ h).bind fun _ ↦ keeps_pure
  have cells (index : Nat) (figures : List PendingFigure) :
      Keeps view (seriesCells backend number index figures) := by
    induction figures generalizing index with
    | nil => exact keeps_pure
    | cons figure others ih =>
      exact (cell index figure).bind fun _ ↦ (ih (index + 1)).bind fun _ ↦ keeps_pure
  induction groups generalizing index with
  | nil => exact keeps_pure
  | cons group others ih =>
    exact (cells index group).bind fun _ ↦ (ih (index + group.length)).bind fun _ ↦ keeps_pure

end Drawn

/-! ### The cells of a series -/

theorem eq_of_letter? {index : Nat} {letter : Char} (h : letter? index = some letter) :
    letter = Char.ofNat ('a'.toNat + index) := by
  unfold letter? at h
  split at h
  · exact (Option.some.inj h).symm
  · cases h

/-- The cell shows a sub-figure of a series with its letter. -/
def IsCell (backend : Backend) (number index : Nat) (figure : PendingFigure) (cell : String) :
    Prop :=
  ∃ letter body, letter? index = some letter ∧ cell =
    backend.subFigure ⟨number, figure.label.map Label.key, figure.caption.markup⟩ letter body

theorem gives_seriesCell (backend : Backend) (number index : Nat) (figure : PendingFigure) :
    Gives (IsCell backend number index figure) (seriesCell backend number index figure) := by
  unfold seriesCell
  split
  · exact gives_throw
  · next letter hl =>
    exact Gives.bind fun _ ↦ Gives.bind fun body ↦ gives_pure ⟨letter, body, hl, rfl⟩

theorem gives_seriesCells (backend : Backend) (number index : Nat) (figures : List PendingFigure) :
    Gives (fun cells ↦ ∀ i figure, figures[i]? = some figure →
      ∃ cell ∈ cells, IsCell backend number (index + i) figure cell)
      (seriesCells backend number index figures) := by
  induction figures generalizing index with
  | nil => exact gives_pure fun _ _ h ↦ by cases h
  | cons figure others ih =>
    refine (gives_seriesCell backend number index figure).through fun cell first ↦
      (ih (index + 1)).through fun cells rest ↦ gives_pure fun i found hi ↦ ?_
    cases i with
    | zero =>
      cases hi
      exact ⟨cell, List.mem_cons_self, first⟩
    | succ i =>
      obtain ⟨cell, hc, shown⟩ := rest i found hi
      rw [Nat.add_assoc, Nat.add_comm 1] at shown
      exact ⟨cell, List.mem_cons_of_mem _ hc, shown⟩

/-- Every sub-figure of a series has its cell on one of the pages. -/
theorem gives_seriesPages (backend : Backend) (number index : Nat)
    (groups : List (List PendingFigure)) :
    Gives (fun pages ↦ ∀ i figure, groups.flatten[i]? = some figure →
      ∃ cells ∈ pages, ∃ cell ∈ cells, IsCell backend number (index + i) figure cell)
      (seriesPages backend number index groups) := by
  induction groups generalizing index with
  | nil => exact gives_pure fun _ _ h ↦ by cases h
  | cons group others ih =>
    refine (gives_seriesCells backend number index group).through fun cells first ↦
      (ih (index + group.length)).through fun pages rest ↦ gives_pure fun i found hi ↦ ?_
    rw [List.flatten_cons, List.getElem?_append] at hi
    split at hi
    · obtain ⟨cell, hc, shown⟩ := first i found hi
      exact ⟨cells, List.mem_cons_self, cell, hc, shown⟩
    · next later =>
      obtain ⟨cells, hp, cell, hc, shown⟩ := rest (i - group.length) found hi
      rw [Nat.add_assoc, Nat.add_sub_cancel' (Nat.le_of_not_lt later)] at shown
      exact ⟨cells, List.mem_cons_of_mem _ hp, cell, hc, shown⟩

/-! ### The line -/

variable {d e : Document}

/-- A line is written into the page, and counts nothing. -/
theorem ensures_emitLine (e : Document) (markup : String) :
    Ensures (·.document.margin = e.margin) (change (·.emitLine markup))
      (fun _ s ↦ s.document.output = (e.emitLine markup).output ∧
        s.document.margin.2 = e.margin.2) fun _ _ ↦ True := by
  refine ensures_change fun s hs ↦ ⟨?_, ?_⟩
  · exact Document.output_emitLine_congr (congrArg Prod.fst hs) markup
  · have counts : s.document.margin.2 = e.margin.2 := congrArg Prod.snd hs
    exact counts

theorem Keeps.ensures_margin {α : Type} {act : Action α} (h : Keeps (·.document.margin) act)
    (e : Document) : Ensures (·.document.margin = e.margin) act
      (fun _ s ↦ s.document.margin = e.margin) fun _ _ ↦ True :=
  (h e.margin).mono (fun _ hs ↦ hs) (fun _ _ hs ↦ hs) fun _ _ _ ↦ trivial

/-- Between the count and the line the page stays as it is. -/
theorem ensures_counted {f : Document → Document} {next : Document → Action Unit}
    {shown : String → Session → Prop} (hf : (f d).page = d.page)
    (h : Ensures (·.document.margin = (f d).margin) (next (f d))
      (fun _ s ↦ ∃ markup, s.document.output = ((f d).emitLine markup).output ∧ shown markup s)
      fun _ _ ↦ True) :
    Ensures (·.document = d) (do change f; let e ← current; next e)
      (fun _ s ↦ ∃ markup, s.document.output = (d.emitLine markup).output ∧ shown markup s)
      fun _ _ ↦ True := by
  refine Ensures.through (fun _ s ↦ s.document = f d) (ensures_change fun s hs ↦ congrArg f hs)
    fun _ ↦ ensures_current fun e ↦ ensures_of_forall fun s hs ↦ ?_
  obtain ⟨he, rfl⟩ := hs
  rw [← he] at h hf
  refine h.mono (fun t ht ↦ ht ▸ rfl) ?_ fun _ _ _ ↦ trivial
  rintro _ t ⟨markup, ho, hs⟩
  exact ⟨markup, ho.trans (Document.output_emitLine_congr hf markup), hs⟩

theorem shows_closeTable (backend : Backend) (table : PendingTable) (body : Passage) :
    Ensures (·.document = d) (closeTable backend table body)
      (fun _ s ↦ ∃ markup, s.document.output = (d.emitLine markup).output ∧
        ∀ label ∈ table.label, backend.Shows label (toString s.document.tables) markup)
      fun _ _ ↦ True := by
  refine ensures_counted rfl (Ensures.through _
    (Keeps.ensures_margin (keeps_margin_resolve table.label _) _) fun _ ↦
      (ensures_emitLine _ _).mono (fun _ hs ↦ hs) (fun _ s hs ↦ ⟨_, hs.1, fun label hl ↦ ?_⟩)
        fun _ _ hs ↦ hs)
  have number : s.document.tables = d.tables + 1 := congrArg (·.2.1) hs.2
  rw [Option.mem_def.mp hl, number]
  exact .table _ _ _ _ _

theorem shows_closeEquation (backend : Backend) (label : Option Label) (body : Passage) :
    Ensures (·.document = d) (closeEquation backend label body)
      (fun _ s ↦ ∃ markup, s.document.output = (d.emitLine markup).output ∧
        ∀ own ∈ label, backend.Shows own (toString s.document.equations) markup)
      fun _ _ ↦ True := by
  refine ensures_counted rfl (Ensures.through _
    (Keeps.ensures_margin (keeps_margin_resolve label _) _) fun _ ↦
      (ensures_emitLine _ _).mono (fun _ hs ↦ hs) (fun _ s hs ↦ ⟨_, hs.1, fun own hl ↦ ?_⟩)
        fun _ _ hs ↦ hs)
  have number : s.document.equations = d.equations + 1 := congrArg (·.2.2) hs.2
  rw [Option.mem_def.mp hl, number]
  exact .equation _ _

theorem shows_closeFigure (backend : Backend) (figure : PendingFigure) :
    Ensures (·.document = d) (closeFigure backend figure)
      (fun _ s ↦ ∃ markup, s.document.output = (d.emitLine markup).output ∧
        ∀ label ∈ figure.label, backend.Shows label (toString s.document.figures) markup)
      fun _ _ ↦ True := by
  refine ensures_counted rfl (Ensures.through _
    (Keeps.ensures_margin (keeps_margin_resolve figure.label _) _) fun _ ↦ Ensures.through _
      (Keeps.ensures_margin (keeps_figureBody backend figure _ fun _ _ _ _ ↦ rfl) _) fun body ↦
        (ensures_emitLine _ _).mono (fun _ hs ↦ hs) (fun _ s hs ↦ ⟨_, hs.1, fun label hl ↦ ?_⟩)
          fun _ _ hs ↦ hs)
  have number : s.document.figures = d.figures + 1 := congrArg (·.1) hs.2
  rw [Option.mem_def.mp hl, number]
  exact .figure _ _ _

/-- A series shows its own number, and with the letters those of its sub-figures. -/
theorem shows_closeSeries (backend : Backend) (series : PendingSeries) :
    Ensures (·.document = d) (closeSeries backend series)
      (fun _ s ↦ ∃ markup, s.document.output = (d.emitLine markup).output ∧
        (∀ label ∈ series.label, backend.Shows label (toString s.document.figures) markup) ∧
        ∀ i figure label, series.groups.flatten[i]? = some figure → figure.label = some label →
          backend.Shows label (subFigureNumber s.document.figures i) markup)
      fun _ _ ↦ True := by
  refine ensures_counted rfl (Ensures.through _
    (Keeps.ensures_margin (keeps_margin_resolve series.label _) _) fun _ ↦ ?_)
  have pages := (Keeps.ensures_margin (keeps_seriesPages backend (d.figures + 1) 0 series.groups
    fun _ _ _ _ ↦ rfl) { d with figures := d.figures + 1 }).and
      (gives_seriesPages backend (d.figures + 1) 0 series.groups)
  refine Ensures.bind (pages.mono (fun _ hs ↦ ⟨hs, trivial⟩) (fun _ _ hs ↦ hs) fun _ _ _ ↦ trivial)
    fun pages ↦ ensures_of_forall fun s hs ↦ ?_
  refine (ensures_emitLine _ _).mono (fun t ht ↦ ht ▸ hs.1) (fun _ t ht ↦ ⟨_, ht.1, ?_, ?_⟩)
    fun _ _ hs ↦ hs
  all_goals have number : t.document.figures = d.figures + 1 := congrArg (·.1) ht.2
  · intro label hl
    rw [Option.mem_def.mp hl, number]
    exact .series _ _ _ _
  · intro i figure label hi hl
    obtain ⟨cells, hp, cell, hc, letter, body, hletter, rfl⟩ := hs.2 i figure hi
    rw [Nat.zero_add] at hletter
    rw [number, subFigureNumber, ← eq_of_letter? hletter]
    rw [hl] at hc
    exact .subFigure _ _ _ letter _ _ body hc hp

/-- A float or an equation that carries labels shows with each of them the number text that it
gets. -/
theorem shows_closeFrame (backend : Backend) (frame : Frame) (captured : Passage)
    (suits : frame.state.suits frame.kind = true) (carries : frame.state.carried ≠ [])
    (hs : frame.kind ≠ .sect) (hf : frame.kind ≠ .subFigure) :
    Ensures (·.document = d) (closeFrame backend frame captured)
      (fun _ s ↦ ∃ markup, s.document.output = (d.emitLine markup).output ∧
        ∀ n ∈ s.document.ledger.numbers frame, backend.Shows n.1 n.2 markup)
      fun _ _ ↦ True := by
  have own {label : Option Label} {number markup : String}
      (shown : ∀ own ∈ label, backend.Shows own number markup) :
      ∀ n ∈ Label.given label number, backend.Shows n.1 n.2 markup := by
    intro n hn
    obtain ⟨hl, rfl⟩ := Label.mem_given.mp hn
    exact shown n.1 hl
  obtain ⟨kind, held, state⟩ := frame
  cases state with
  | sect => exact absurd (eq_of_beq suits) hs
  | subFigure => exact absurd (eq_of_beq suits) hf
  | figure figure =>
    refine (shows_closeFigure backend figure).mono (fun _ hd ↦ hd) ?_ fun _ _ ht ↦ ht
    exact fun _ s ⟨markup, ho, shown⟩ ↦ ⟨markup, ho, own shown⟩
  | table table =>
    refine (shows_closeTable backend table captured).mono (fun _ hd ↦ hd) ?_ fun _ _ ht ↦ ht
    exact fun _ s ⟨markup, ho, shown⟩ ↦ ⟨markup, ho, own shown⟩
  | equation label =>
    refine (shows_closeEquation backend label captured).mono (fun _ hd ↦ hd) ?_ fun _ _ ht ↦ ht
    exact fun _ s ⟨markup, ho, shown⟩ ↦ ⟨markup, ho, own shown⟩
  | figureSeries series =>
    refine (shows_closeSeries backend series).mono (fun _ hd ↦ hd) ?_ fun _ _ ht ↦ ht
    rintro _ s ⟨markup, ho, shown, cells⟩
    refine ⟨markup, ho, fun n hn ↦ ?_⟩
    rcases List.mem_append.mp hn with hn | hn
    · exact own shown n hn
    · obtain ⟨i, hi, number⟩ := exists_of_mem_subFigureNumbers hn
      rw [Nat.zero_add] at number
      rw [FrameState.members, List.getElem?_map] at hi
      obtain ⟨figure, hi, hl⟩ := Option.map_eq_some_iff.mp hi
      exact number ▸ cells i figure n.1 hi hl
  | _ => exact absurd rfl carries

/-- A title of a section is a line with the number of the section. -/
theorem shows_closeSectionTitle (backend : Backend) (title : Passage) {label : Option Label}
    {path : List Nat} (top : d.frames.topState? = some (.sect label path)) :
    Ensures (·.document = d) (closeSectionTitle backend title)
      (fun _ s ↦ s.document.output = (d.emitLine
        (backend.sectionHeading path.length (sectionNumber path) title.markup)).output)
      fun _ _ ↦ True := by
  refine ensures_current fun e ↦ ensures_of_forall fun s hs ↦ ?_
  obtain ⟨rfl, rfl⟩ := hs
  rw [top]
  refine Ensures.through (fun _ t ↦ t.document.margin = s.document.margin)
    ((Keeps.ensures_margin (keeps_margin_resolve label _) _).mono (fun _ ht ↦ ht ▸ rfl)
      (fun _ _ ht ↦ ht) fun _ _ ht ↦ ht) fun _ ↦
    (ensures_emitLine s.document _).mono (fun _ ht ↦ ht) (fun _ _ ht ↦ ht.1) fun _ _ ht ↦ ht

/-! ### Ends -/

/-- An end that is accepted takes the innermost element off and closes it with what it held back. -/
theorem exists_of_endElement {backend : Backend} {kind : Kind} {s t : Session}
    (nested : s.document.Nested) (h : endElement backend kind s = .ok () t) :
    ∃ frame outer u, s.document.frames = frame :: outer ∧ frame.kind = kind ∧
      closeFrame backend frame s.document.held (s.modifyDocument Document.pop) = .ok () u ∧
      t = u.modifyDocument Document.stream := by
  by_cases top : s.document.innermost = some kind
  · obtain ⟨frame, outer, hf, hk⟩ := Document.exists_of_innermost top
    rw [← hk, endElement_eq hf nested] at h
    obtain ⟨_, u, closed, ⟨⟩⟩ := bind_eq_ok.mp h
    exact ⟨frame, outer, u, hf, hk, closed, rfl⟩
  · rw [endElement_of_ne top] at h
    cases h

/-- An end that is accepted shows the numbers of the labels that it carries, if any. -/
theorem shows_endElement {backend : Backend} {kind : Kind} {s t : Session} {reply : Reply}
    (nested : s.document.Nested) (h : s.perform backend (.endElement kind) = (.ok reply, t)) :
    ∃ frame outer, s.document.frames = frame :: outer ∧ frame.kind = kind ∧
      (frame.state.carried ≠ [] → kind ≠ .sect → kind ≠ .subFigure →
        ∃ markup, t.document.output = (s.document.pop.emitLine markup).stream.output ∧
          ∀ n ∈ t.document.ledger.numbers frame, backend.Shows n.1 n.2 markup) ∧
      (kind = .sectionTitle → ∃ label path, Frames.topState? outer = some (.sect label path) ∧
        t.document.output = (s.document.pop.emitLine (backend.sectionHeading path.length
          (sectionNumber path) s.document.held.markup)).stream.output) := by
  obtain ⟨_, _, ended, ⟨⟩⟩ := bind_eq_ok.mp (perform_eq_ok_iff.mp h)
  obtain ⟨frame, outer, u, hd, rfl, closed, rfl⟩ := exists_of_endElement nested ended
  have frames := nested.frames
  rw [hd] at frames
  have popped := Document.frames_pop hd
  refine ⟨frame, outer, hd, rfl, fun carries hs hf ↦ ?_, fun hk ↦ ?_⟩
  · have shows := shows_closeFrame backend frame s.document.held frames.1.suits carries hs hf
      (s.modifyDocument Document.pop) rfl
    rw [closed] at shows
    obtain ⟨markup, ho, shown⟩ := shows
    exact ⟨markup, congrArg Output.stream ho, shown⟩
  · have parent := frames.1.innermost_eq hk rfl fun _ ↦ rfl
    obtain ⟨state, top, suits⟩ := frames.2.exists_topState? parent
    obtain ⟨label, path, rfl⟩ := FrameState.exists_of_suits suits
    have plain := FrameState.eq_plain_of_suits (by rw [hk]; rfl) (by rw [hk]; decide) frames.1.suits
    have shows := shows_closeSectionTitle backend s.document.held (popped.symm ▸ top)
      (s.modifyDocument Document.pop) rfl
    rw [closeFrame, plain, hk] at closed
    change closeSectionTitle backend s.document.held _ = _ at closed
    rw [closed] at shows
    exact ⟨label, path, top, congrArg Output.stream shows⟩

/-- A section that is begun has the key of its label at its start. -/
theorem ensures_beginSection (backend : Backend) (label : Option Label) (s : Session) :
    Ensures (· = s) (beginElement backend (.sect label))
      (fun _ t ↦ t.document.output = (s.document.emitLine (backend.sectionStart
        (s.document.frames.sectionDepth + 1) (label.map Label.key))).output) fun _ _ ↦ True := by
  let start := s.document.emitLine
    (backend.sectionStart (s.document.frames.sectionDepth + 1) (label.map Label.key))
  refine ensures_begin (fun answer t ↦ answer.2 = false ∧ t.document.output = start.output)
    (fun _ ↦ trivial) (fun _ ↦ ?_) fun _ answer ↦ ensures_of_imp fun open_ ↦ ?_
  · refine Ensures.through (fun _ t ↦ t.document.output = start.output) ?_ fun state ↦
      ensures_pure fun _ ht ↦ ⟨rfl, ht⟩
    refine ensures_current fun e ↦ ensures_of_forall fun t ht ↦ ?_
    obtain ⟨rfl, rfl⟩ := ht
    dsimp only
    split
    · exact ensures_throw fun _ _ ↦ trivial
    · refine Ensures.through (fun _ u ↦ u.document.output = start.output)
        (ensures_change fun u hu ↦ ?_) fun _ ↦ ensures_pure fun _ hu ↦ hu
      subst hu
      have same : ({ u.document with
          sectionPath := Document.nextSectionPath u.document.sectionPath
            (u.document.frames.sectionDepth + 1)
          sections := u.document.sections + 1 } : Document).page = u.document.page := rfl
      exact Document.output_emitLine_congr same _
  · refine (keeps_attach _ _ (fun _ _ ↦ rfl) start.output).mono (fun _ ht ↦ ht) (fun _ t ht ↦ ?_)
      fun _ _ _ ↦ trivial
    simp only [Session.modifyDocument, Document.push, open_]
    exact ht

end Session

end Manuscript

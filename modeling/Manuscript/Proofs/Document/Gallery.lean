import Manuscript.Proofs.Document.Labelling
import Manuscript.Proofs.Document.Pages

/-!
# Cells of sub-figures

A series that ends draws its sub-figures in order, each with its letter (`Document.drawn`), on the
pages that it has gathered. It has room for as many as there are letters, and the room is checked
when a sub-figure begins: where one may begin it is refused only if the series around it is full,
and the end of a series never runs out of letters.
-/

namespace Manuscript

open Opening

namespace Document

/-- The markup of what a figure shows; `number` is its number, with a letter in a series. -/
def shown (backend : Backend) (d : Document) (figure : PendingFigure) (number : String) : String :=
  match figure.content with
  | .empty => ""
  | .markup markup => markup
  | .raster canvas =>
    backend.image (d.imageName number) (withoutOuterBlanks figure.caption.text) canvas.width
      canvas.height

/-- The cell of the sub-figure that comes at a position in series `number`. -/
def drawn (backend : Backend) (d : Document) (number position : Nat) (figure : PendingFigure) :
    String :=
  backend.subFigure ⟨number, figure.label.map Label.key, figure.caption.markup⟩
    (Char.ofNat ('a'.toNat + position)) (d.shown backend figure (subFigureNumber number position))

/-- What the names of images are made of. -/
def naming (d : Document) : String × Settings := (d.stem, d.settings)

end Document

theorem Action.bind_of_error {α β : Type} {act : Action α} {next : α → Action β} {s t : Session}
    {error : DocumentError} (h : act s = .error error t) :
    (act >>= next) s = .error error t := by
  change EStateM.bind act next s = _
  rw [EStateM.bind, h]

theorem mem_subFigureNumbers {number index i : Nat} {labels : List (Option Label)} {label : Label}
    (h : labels[i]? = some (some label)) :
    (label, subFigureNumber number (index + i)) ∈ subFigureNumbers number index labels := by
  induction labels generalizing index i with
  | nil => cases h
  | cons first others ih =>
    rw [subFigureNumbers, List.mem_append, Label.mem_given]
    cases i with
    | zero => exact .inl ⟨Option.some.inj h, rfl⟩
    | succ i =>
      rw [Nat.add_comm i, ← Nat.add_assoc]
      exact .inr (ih h)

namespace Session

open Action

variable (backend : Backend) {d : Document}

/-! ### Drawing -/

/-- What is drawn for a figure is what it shows. -/
theorem ensures_figureBody_shown (figure : PendingFigure) (number : String) (d : Document) :
    Ensures (·.document.naming = d.naming) (figureBody backend figure number)
      (fun body s ↦ body = d.shown backend figure number ∧ s.document.naming = d.naming)
      fun _ _ ↦ True := by
  have named : Keeps (·.document.naming) (figureBody backend figure number) :=
    keeps_figureBody backend figure number fun _ _ _ _ ↦ rfl
  have gives : Ensures (·.document.naming = d.naming) (figureBody backend figure number)
      (fun body _ ↦ body = d.shown backend figure number) fun _ _ ↦ True := by
    unfold figureBody Document.shown
    cases figure.content with
    | empty | markup => exact ensures_pure fun _ _ ↦ rfl
    | raster canvas =>
      refine ensures_current fun e ↦ ensures_of_forall fun s hs ↦ ?_
      obtain ⟨hn, rfl⟩ := hs
      refine (Gives.bind fun _ ↦ Gives.bind fun _ ↦ gives_pure ?_).ensures
      simp only [Document.naming, Prod.mk.injEq] at hn
      simp only [Document.imageName, hn]
  exact (gives.and (named d.naming)).mono (fun _ hs ↦ ⟨hs, hs⟩) (fun _ _ hs ↦ hs)
    fun _ _ _ ↦ trivial

theorem ensures_seriesCell_drawn (number position : Nat) (figure : PendingFigure) (d : Document) :
    Ensures (·.document.naming = d.naming) (seriesCell backend number position figure)
      (fun cell s ↦ cell = d.drawn backend number position figure ∧ s.document.naming = d.naming)
      fun _ _ ↦ True := by
  unfold seriesCell
  split
  · exact ensures_throw fun _ _ ↦ trivial
  · next letter hl =>
    obtain rfl := eq_of_letter? hl
    refine Ensures.through (fun _ s ↦ s.document.naming = d.naming)
      ((keeps_resolve figure.label _ fun _ _ ↦ rfl) d.naming |>.mono (fun _ hs ↦ hs)
        (fun _ _ hs ↦ hs) fun _ _ _ ↦ trivial) fun _ ↦ ?_
    refine Ensures.bind (ensures_figureBody_shown backend figure _ d) fun body ↦
      ensures_pure fun s hs ↦ ?_
    obtain ⟨rfl, hn⟩ := hs
    exact ⟨rfl, hn⟩

theorem ensures_seriesCells_drawn (number position : Nat) (figures : List PendingFigure)
    (d : Document) :
    Ensures (·.document.naming = d.naming) (seriesCells backend number position figures)
      (fun cells s ↦ cells = figures.mapIdx (fun i ↦ d.drawn backend number (position + i)) ∧
        s.document.naming = d.naming) fun _ _ ↦ True := by
  induction figures generalizing position with
  | nil => exact ensures_pure fun _ hs ↦ ⟨rfl, hs⟩
  | cons figure others ih =>
    refine Ensures.bind (ensures_seriesCell_drawn backend number position figure d) fun cell ↦
      ensures_of_imp fun hc ↦ Ensures.bind (ih (position + 1)) fun cells ↦
        ensures_pure fun s hs ↦ ?_
    obtain ⟨rfl, hn⟩ := hs
    refine ⟨?_, hn⟩
    simp only [hc, List.mapIdx_cons, Nat.add_zero, Nat.add_assoc, Nat.add_comm 1]

/-- The cells of all pages are drawn in order, and each page has as many as it has gathered. -/
theorem ensures_seriesPages_drawn (number position : Nat) (groups : List (List PendingFigure))
    (d : Document) :
    Ensures (·.document.naming = d.naming) (seriesPages backend number position groups)
      (fun pages s ↦ (pages.flatten =
          groups.flatten.mapIdx (fun i ↦ d.drawn backend number (position + i)) ∧
          pages.map List.length = groups.map List.length) ∧ s.document.naming = d.naming)
      fun _ _ ↦ True := by
  induction groups generalizing position with
  | nil => exact ensures_pure fun _ hs ↦ ⟨⟨rfl, rfl⟩, hs⟩
  | cons group others ih =>
    refine Ensures.bind (ensures_seriesCells_drawn backend number position group d) fun cells ↦
      ensures_of_imp fun hc ↦ Ensures.bind (ih (position + group.length)) fun pages ↦
        ensures_pure fun s hs ↦ ?_
    obtain ⟨⟨flat, sizes⟩, hn⟩ := hs
    refine ⟨⟨?_, by simp [hc, sizes]⟩, hn⟩
    rw [List.flatten_cons, List.flatten_cons, hc, flat, List.mapIdx_append]
    simp only [Nat.add_assoc, Nat.add_comm group.length]

/-! ### Ends of series -/

/-- A series is written with its number and with the cells of its sub-figures in order. -/
theorem ensures_closeSeries_drawn (series : PendingSeries) (d : Document) :
    Ensures (·.document = d) (closeSeries backend series)
      (fun _ s ↦ s.document.figures = d.figures + 1 ∧ ∃ pages,
        pages.flatten = series.groups.flatten.mapIdx (d.drawn backend (d.figures + 1)) ∧
        pages.map List.length = series.groups.map List.length ∧
        s.document.output = (d.emitLine (backend.figureSeries
          ⟨d.figures + 1, series.label.map Label.key, series.caption.markup⟩ series.columns
          pages)).output) fun _ _ ↦ True := by
  refine Ensures.through (fun _ s ↦ s.document = { d with figures := d.figures + 1 })
    (ensures_change fun s hs ↦ by rw [← hs]; rfl) fun _ ↦ ensures_current fun e ↦
      ensures_of_forall fun s hs ↦ ?_
  obtain ⟨he, rfl⟩ := hs
  have number : s.document.figures = d.figures + 1 := by rw [he]
  have named : s.document.naming = d.naming := by rw [he]; rfl
  rw [number]
  have resolved : Keeps (fun t ↦ (t.document.margin, t.document.naming))
      (resolve series.label (toString (d.figures + 1))) := keeps_resolve _ _ fun _ _ ↦ rfl
  refine Ensures.through
    (fun _ t ↦ t.document.margin = s.document.margin ∧ t.document.naming = d.naming)
    ((resolved (s.document.margin, d.naming)).mono ?_ ?_ ?_) fun _ ↦ ?_
  · rintro t rfl
    exact congrArg (t.document.margin, ·) named
  · exact fun _ t ht ↦ Prod.mk.inj ht
  · exact fun _ _ _ ↦ trivial
  have pages := (Keeps.ensures_margin (keeps_seriesPages backend (d.figures + 1) 0
    series.groups fun _ _ _ _ ↦ rfl) s.document).and
      (ensures_seriesPages_drawn backend (d.figures + 1) 0 series.groups d)
  refine Ensures.bind (pages.mono (fun _ ht ↦ ht) (fun _ _ ht ↦ ht) fun _ _ _ ↦ trivial)
    fun pages ↦ ensures_of_forall fun u hu ↦ ?_
  obtain ⟨margin, ⟨flat, sizes⟩, -⟩ := hu
  refine (ensures_emitLine s.document _).mono (fun t ht ↦ ht ▸ margin) (fun _ t ht ↦ ?_)
    fun _ _ ht ↦ ht
  refine ⟨(congrArg (·.1) ht.2).trans number, pages, ?_, sizes,
    ht.1.trans (Document.output_emitLine_congr (by rw [he]; rfl) _)⟩
  simpa only [Nat.zero_add] using flat

/-- The end of a series is refused for nothing but a picture. -/
theorem exists_io_of_end {s t : Session} (orderly : s.document.Orderly) {frame : Frame}
    {outer : Frames} {error : DocumentError} (hf : s.document.frames = frame :: outer)
    (hk : frame.kind = .figureSeries)
    (he : s.perform backend (.endElement .figureSeries) = (.error error, t)) :
    ∃ reason, error = .io reason := by
  have step := orderly.step backend (.endElement .figureSeries)
  have moved := move_perform backend (.endElement .figureSeries) s orderly.nested
  rw [he] at step moved
  have top : s.document.innermost = some .figureSeries := by
    rw [Document.innermost, hf, ← hk]
    rfl
  have gone : t.document.frames.length < s.document.frames.length := by
    generalize hc : Call.endElement .figureSeries = call at moved
    generalize t.document.frames = frames at moved
    cases moved with
    | none _ other => exact absurd top (other .figureSeries hc.symm)
    | @failed frame outer hf => simp [hf]
  dsimp only at step
  -- In the ledger, too, the series is gone: the end has failed there and has not been refused.
  have left : t.document.ledger.frames.length = t.document.frames.length := List.length_map _
  generalize hc : Call.endElement .figureSeries = call at step
  generalize t.document.ledger = l' at step left
  cases step with
  | refused _ => exact absurd left (by simp [Document.ledger, Frames.bare]; omega)
  | @failed frame' outer' _ _ hf' fails =>
    cases fails with
    | picture => exact ⟨_, rfl⟩
    | operands hm => cases hc.trans (congrArg Call.endElement hm)

/-- The end of a series writes it, unless a picture cannot be stored. -/
theorem perform_end_figureSeries {s : Session} (orderly : s.document.Orderly) {frame : Frame}
    {outer : Frames} {series : PendingSeries} (hf : s.document.frames = frame :: outer)
    (kind : frame.kind = .figureSeries) (hs : frame.state = .figureSeries series) :
    let (answer, t) := s.perform backend (.endElement .figureSeries)
    (∃ reason, answer = .error (.io reason)) ∨
      answer = .ok .done ∧ t.document.figures = s.document.figures + 1 ∧ ∃ pages,
        pages.flatten =
          series.groups.flatten.mapIdx (s.document.drawn backend (s.document.figures + 1)) ∧
        pages.map List.length = series.groups.map List.length ∧
        t.document.output = (s.document.pop.emitLine (backend.figureSeries
          ⟨s.document.figures + 1, series.label.map Label.key, series.caption.markup⟩
          series.columns pages)).stream.output := by
  have closing : endElement backend .figureSeries s =
      (do closeSeries backend series; change Document.stream : Action Unit)
        (s.modifyDocument Document.pop) := by
    rw [← kind, endElement_eq hf orderly.nested, closeFrame, hs]
  have figures : s.document.pop.figures = s.document.figures := by rw [Document.pop, hf]
  have same : s.document.pop.drawn backend = s.document.drawn backend := by
    rw [Document.pop, hf]
    rfl
  have drawn := ensures_closeSeries_drawn backend series s.document.pop
    (s.modifyDocument Document.pop) rfl
  rw [figures, same] at drawn
  cases closed : closeSeries backend series (s.modifyDocument Document.pop) with
  | error error t =>
    have performed : s.perform backend (.endElement .figureSeries) = (.error error, t) :=
      perform_of_error rfl (closing.trans (bind_of_error closed))
    have refused := exists_io_of_end backend orderly hf kind performed
    rw [performed]
    obtain ⟨reason, rfl⟩ := refused
    exact .inl ⟨reason, rfl⟩
  | ok _ t =>
    rw [closed] at drawn
    obtain ⟨counted, pages, flat, sizes, written⟩ := drawn
    have performed : s.perform backend (.endElement .figureSeries) =
        (.ok .done, t.modifyDocument Document.stream) :=
      perform_of_ok rfl (closing.trans (bind_eq_ok.mpr ⟨(), t, closed, rfl⟩))
    rw [performed]
    exact .inr ⟨rfl, counted, pages, flat, sizes, congrArg Output.stream written⟩

/-- The end of a series resolves the labels of its sub-figures with its number and their letters. -/
theorem resolved_of_end_figureSeries {s t : Session} (h : s.document.Labelled) {frame : Frame}
    {outer : Frames} {series : PendingSeries} {reply : Reply}
    (hf : s.document.frames = frame :: outer) (kind : frame.kind = .figureSeries)
    (hs : frame.state = .figureSeries series)
    (he : s.perform backend (.endElement .figureSeries) = (.ok reply, t)) {k : Nat}
    {figure : PendingFigure} {own : Label} (hk : series.groups.flatten[k]? = some figure)
    (hl : figure.label = some own) :
    t.document.labels.state own =
      .ok (.resolved (subFigureNumber (s.document.figures + 1) k)) := by
  obtain ⟨-, resolved⟩ := settled_of_end h hf (kind ▸ he)
  refine resolved (own, subFigureNumber (s.document.figures + 1) k) ?_
  have member : (FrameState.figureSeries series).members[k]? = some (some own) := by
    rw [FrameState.members, List.getElem?_map, hk, Option.map_some, hl]
  have given : (own, subFigureNumber (s.document.figures + 1) (0 + k)) ∈
      subFigureNumbers (s.document.figures + 1) 0 (FrameState.figureSeries series).members :=
    mem_subFigureNumbers member
  rw [Nat.zero_add] at given
  rw [hs, Ledger.numbers, hs]
  exact List.mem_append_right _ given

end Session

/-! ### Room -/

namespace Opening

theorem Agree.subFigureCount?_eq {openings : List Opening} {frames : Frames}
    (h : Agree openings frames) :
    frames.subFigureCount? =
      (openings.find? (·.element.kind == .figureSeries)).map (·.figures.length) := by
  induction h with
  | nil => rfl
  | @cons opening around frame outer hk fits ho ih =>
    by_cases kind : opening.element.kind = .figureSeries
    · obtain ⟨label, columns, he⟩ := Element.exists_of_kind kind
      obtain ⟨-, -, series, hs, -, -, gathered⟩ := fits.exists_series he
      rw [Frames.subFigureCount?_cons (hk.trans kind) hs,
        List.find?_cons_of_pos (by simpa using kind), Option.map_some]
      exact congrArg (some ∘ List.length) gathered.flatten_groups
    · rw [Frames.subFigureCount?_cons_of_ne (hk ▸ kind), ih,
        List.find?_cons_of_neg (by simpa using kind)]

end Opening

/-- No series has more sub-figures than there are letters. -/
theorem Frames.Roomy.le {frames : Frames} (h : frames.Roomy) (nested : frames.Nested) {count : Nat}
    (hc : frames.subFigureCount? = some count) : count ≤ Limit.maxSubFigures := by
  induction frames with
  | nil => cases hc
  | cons frame outer ih =>
    by_cases hk : frame.kind = .figureSeries
    · obtain ⟨series, hs⟩ := FrameState.exists_of_suits (hk ▸ nested.1.suits)
      rw [subFigureCount?_cons hk hs] at hc
      have few := h.1
      rw [hs, FrameState.length_members] at few
      exact Option.some.inj hc ▸ few
    · rw [subFigureCount?_cons_of_ne hk] at hc
      exact ih h.2.2 nested.2 hc

namespace Session

open Action

/-- Where a sub-figure may begin, and its label can be attached, it begins unless the series around
it is full. -/
theorem perform_begin_subFigure (backend : Backend) {s : Session} {label : Option Label}
    (allowed : Kind.subFigure.allowedIn s.document.innermost = true)
    (free : s.document.attachError (.subFigure label) = none) :
    (s.perform backend (.beginElement (.subFigure label))).1 =
      if s.document.frames.subFigureCount?.any (Limit.maxSubFigures ≤ ·) then
        .error (.limitExceeded .subFigures)
      else .ok .done := by
  have begun : beginElement backend (.subFigure label) s = enter backend (.subFigure label) s :=
    beginElement_eq ⟨allowed, rfl, free⟩
  by_cases full : s.document.frames.subFigureCount?.any (Limit.maxSubFigures ≤ ·)
  · have refused : startSubFigure label s = .error (.limitExceeded .subFigures) s := by
      rw [startSubFigure, bind_current, if_pos full]
      rfl
    have unstarted : start backend (.subFigure label) s =
        .error (.limitExceeded .subFigures) s := bind_of_error refused
    rw [if_pos full]
    exact congrArg Prod.fst (perform_of_error rfl (begun.trans (bind_of_error unstarted)))
  · have started : start backend (.subFigure label) s = .ok (.subFigure { label }, false) s := by
      refine bind_eq_ok.mpr ⟨.subFigure { label }, s, ?_, rfl⟩
      change startSubFigure label s = _
      rw [startSubFigure, bind_current, if_neg full]
      rfl
    rw [if_neg full]
    have attached : ∃ t, attach .subFigure label s = .ok () t := by
      cases label with
      | none => exact ⟨s, rfl⟩
      | some label =>
        have fits : s.document.labels.attachFault label .subFigure = none :=
          Option.map_eq_none_iff.mp free
        unfold attach relabel
        dsimp only
        rw [bind_current, fits]
        exact ⟨_, rfl⟩
    obtain ⟨t, attached⟩ := attached
    exact congrArg Prod.fst (perform_of_ok rfl
      (begun.trans (bind_eq_ok.mpr ⟨_, _, started, bind_eq_ok.mpr ⟨(), t, attached, rfl⟩⟩)))

end Session

namespace Opening.Agree

variable {openings : List Opening} {s : Session}

/-- No series has more sub-figures than there are letters. -/
theorem length_figures_le (h : Agree openings s.document.frames) (orderly : s.document.Orderly)
    {series : Opening} (hs : openings.find? (·.element.kind == .figureSeries) = some series) :
    series.figures.length ≤ Limit.maxSubFigures := by
  have counted := h.subFigureCount?_eq
  rw [hs, Option.map_some] at counted
  exact orderly.lettered.roomy.le orderly.frames_nested
    (s.document.frames.subFigureCount?_bare.trans counted)

/-- A sub-figure that may begin is refused only if the series around it has one for every letter. -/
theorem begin_subFigure (h : Agree openings s.document.frames) (orderly : s.document.Orderly)
    (backend : Backend) {label : Option Label}
    (allowed : Kind.subFigure.allowedIn s.document.innermost = true)
    (free : s.document.attachError (.subFigure label) = none) :
    ∃ series, openings.find? (·.element.kind == .figureSeries) = some series ∧
      series.figures.length ≤ Limit.maxSubFigures ∧
      (s.perform backend (.beginElement (.subFigure label))).1 =
        if series.figures.length = Limit.maxSubFigures then .error (.limitExceeded .subFigures)
        else .ok .done := by
  obtain ⟨count, hc⟩ :=
    Option.isSome_iff_exists.mp (orderly.nested.frames.prepared.subFigure allowed)
  have counted := hc
  rw [h.subFigureCount?_eq] at counted
  obtain ⟨series, hs, rfl⟩ := Option.map_eq_some_iff.mp counted
  have bound := h.length_figures_le orderly hs
  have full : decide (Limit.maxSubFigures ≤ series.figures.length) = true ↔
      series.figures.length = Limit.maxSubFigures := by
    rw [decide_eq_true_iff]
    omega
  refine ⟨series, hs, bound, ?_⟩
  rw [Session.perform_begin_subFigure backend allowed free, hc, Option.any_some]
  simp only [full]

end Opening.Agree

end Manuscript

import Manuscript.Proofs.Document.Showing
import Manuscript.Xhtml.Backend

/-!
# What becomes of labels

The labels of a document, told from its calls alone: each is made once and pending, begun with at
most one element, and resolved when that element or the series around it ends, with the number text
that is shown beside its key (`Session.labels_run`).
-/

namespace Manuscript

open Relation

/-- The open elements of a document, its sections and its labels are as they should be. -/
structure Document.Labelled (d : Document) : Prop where
  orderly : d.Orderly
  sectioned : ∃ t : Sectioning, t.Agrees d.ledger
  tracked : d.ledger.Tracked

namespace Session

open Action

variable {backend : Backend} {s : Session}

/-! ### Calls -/

theorem labelled_perform (h : s.document.Labelled) {call : Call}
    (genuine : ∀ element, call = .beginElement element → ∀ label ∈ element.label?,
      label.owner = s.document.labels.owner →
        s.document.labels.label? label.index = some label) :
    (s.perform backend call).2.document.Labelled := by
  obtain ⟨t, agrees⟩ := h.sectioned
  have step := h.orderly.step backend call
  have next := h.orderly.perform backend call
  exact ⟨next, ⟨_, agrees.step h.orderly.frames_nested next.frames_nested step⟩,
    h.tracked.step h.orderly.frames_nested h.orderly.lettered.roomy agrees step genuine⟩

theorem labelled_fresh (context : Context) (path : Path) (place : Location) (serial : Nat) :
    (context.document path place serial).Labelled where
  orderly := context.orderly_document path place serial
  sectioned := ⟨{}, Sectioning.agrees_fresh context path place serial⟩
  tracked := Ledger.tracked_of_nil rfl rfl

theorem labelled_run (h : s.document.Labelled) (hk : s.document.bibliography.Keyed)
    {calls : List Call} (hg : s.Genuine backend calls) :
    (s.run backend calls).document.Labelled := by
  induction calls using List.reverseRecOn with
  | nil => exact h
  | append_singleton calls call ih =>
    rw [run_append]
    refine labelled_perform (ih hg.of_append) fun element he label hl ho ↦ ?_
    subst he
    exact (hg.made hk rfl hl ho).label? hk

/-- What an end that is accepted leaves of the labels of the elements that it concerns. -/
structure Ends (backend : Backend) (s t : Session) (frame : Frame) (outer : Frames) : Prop where
  /-- A float or an equation shows the number that each of its labels is resolved with. -/
  shown : frame.kind ≠ .sect → frame.kind ≠ .subFigure → ∀ label ∈ frame.state.carried,
    ∃ number markup, t.document.labels.state label = .ok (.resolved number) ∧
      backend.Shows label number markup ∧
      t.document.output = (s.document.pop.emitLine markup).stream.output
  /-- A title shows the number that the label of its section is resolved with. -/
  title : frame.kind = .sectionTitle → ∃ label path,
    outer.topState? = some (.sect label path) ∧
    t.document.output = (s.document.pop.emitLine (backend.sectionHeading path.length
      (sectionNumber path) s.document.held.markup)).stream.output ∧
    ∀ own ∈ label, t.document.labels.state own = .ok (.resolved (sectionNumber path))
  /-- A section that ends has its number, also without a title. -/
  sect : ∀ label path, frame.state = .sect (some label) path →
    t.document.labels.state label = .ok (.resolved (sectionNumber path))

/-- An element is begun with a label only if this is pending and fits the element. -/
theorem pending_of_begin (h : s.document.Labelled) {element : Element} {label : Label}
    {reply : Reply} {t : Session} (hl : label ∈ element.label?)
    (hb : s.perform backend (.beginElement element) = (.ok reply, t)) :
    element.kind.target? = some label.target ∧ label.owner = s.document.labels.owner ∧
      ∃ entry, s.document.labels.entries[label.index]? = some entry ∧ entry.state = .pending := by
  have step := h.orderly.step backend (.beginElement element)
  rw [hb] at step
  dsimp only at step
  generalize t.document.ledger = l' at step
  cases step with
  | written _ other _ => exact absurd rfl (other element)
  | begun admits => exact h.tracked.pending_of_attachFault (admits.attachable label hl)

/-- When an end is accepted, the element has been counted, and the labels that get numbers then are
resolved with them. -/
theorem settled_of_end (h : s.document.Labelled) {frame : Frame} {outer : Frames} {reply : Reply}
    {t : Session} (hd : s.document.frames = frame :: outer)
    (he : s.perform backend (.endElement frame.kind) = (.ok reply, t)) :
    let counted :=
      ({ s.document.ledger with frames := Frames.bare outer } : Ledger).count frame.state
    (∃ stored, t.document.ledger = counted.settle (counted.numbers frame) stored) ∧
      ∀ n ∈ counted.numbers frame, t.document.labels.state n.1 = .ok (.resolved n.2) := by
  intro counted
  have step := h.orderly.step backend (.endElement frame.kind)
  rw [he] at step
  have frames : s.document.ledger.frames = frame.bare :: Frames.bare outer := by
    rw [Document.ledger, hd]
    rfl
  dsimp only at step
  generalize hc : Call.endElement frame.kind = call at step
  generalize hl : t.document.ledger = l' at step
  cases step with
  | created | begun => cases hc
  | written _ _ other => exact absurd hc.symm (other frame.kind)
  | @ended bare outer' stored hf =>
    obtain ⟨rfl, rfl⟩ := List.cons.inj (hf.symm.trans frames)
    have taken : s.document.ledger.takeOff frame.bare (Frames.bare outer) = counted :=
      Ledger.count_bare _ frame.state
    rw [taken, Ledger.numbers_bare]
    refine ⟨⟨stored, rfl⟩, fun n hn ↦ ?_⟩
    have tracked := h.tracked.state_of_mem_numbers hf stored (n := n)
    rw [taken, Ledger.numbers_bare] at tracked
    rw [taken, Ledger.numbers_bare] at hl
    rw [show t.document.labels = _ from congrArg Ledger.labels hl]
    exact tracked hn

/-- An end that is accepted shows what it resolves. -/
theorem ends_of_end (h : s.document.Labelled) {kind : Kind} {reply : Reply} {t : Session}
    (he : s.perform backend (.endElement kind) = (.ok reply, t)) :
    ∃ frame outer, s.document.frames = frame :: outer ∧ frame.kind = kind ∧
      Ends backend s t frame outer := by
  obtain ⟨frame, outer, hd, rfl, shows, title⟩ := shows_endElement h.orderly.nested he
  obtain ⟨⟨stored, hl⟩, resolved⟩ := settled_of_end h hd he
  let l : Ledger := { s.document.ledger with frames := Frames.bare outer }
  have suits : frame.state.suits frame.kind = true := by
    have nested := h.orderly.nested.frames
    rw [hd] at nested
    exact nested.1.suits
  rw [hl] at shows
  refine ⟨frame, outer, hd, rfl, fun hs hf label hc ↦ ?_, fun ht ↦ ?_, fun label path hs ↦ ?_⟩
  · obtain ⟨n, hn, rfl⟩ := Ledger.exists_number_of_mem_carried (l := l) suits hf hc
    obtain ⟨markup, ho, shown⟩ := shows (List.ne_nil_of_mem hc) hs hf
    rw [Ledger.numbers_settle] at shown
    exact ⟨n.2, markup, resolved n hn, shown n hn, ho⟩
  · obtain ⟨label, path, top, ho⟩ := title ht
    refine ⟨label, path, top, ho, fun own hl ↦ resolved (own, sectionNumber path) ?_⟩
    have plain := FrameState.eq_plain_of_suits (by rw [ht]; rfl) (by rw [ht]; decide) suits
    have numbers : (l.count frame.state).numbers frame = Frames.titleNumbers outer := by
      rw [plain, Ledger.numbers, plain, if_pos ht]
      exact Frames.titleNumbers_bare outer
    rw [numbers, Frames.titleNumbers, top]
    exact Label.mem_given.mpr ⟨hl, rfl⟩
  · refine resolved (label, sectionNumber path) ?_
    rw [Ledger.numbers, hs]
    exact Label.mem_given.mpr ⟨rfl, rfl⟩

/-- What one call does to the labels that have been made before. -/
structure LabelStep (backend : Backend) (made : Label → Prop) (s : Session) (call : Call)
    (answer : Except DocumentError Reply) (t : Session) : Prop where
  created : ∀ target label, call = .createLabel target → answer = .ok (.label label) →
    t.document.labels.state label = .ok .pending
  moved : ∀ label, made label → ∃ state next, s.document.labels.state label = .ok state ∧
    t.document.labels.state label = .ok next ∧ state.Next next
  begun : ∀ label, made label → s.document.labels.state label = .ok .pending →
    (t.document.labels.state label ≠ .ok .pending ↔
      ∃ element, call = .beginElement element ∧ answer = .ok .done ∧ element.label? = some label)
  fitting : ∀ element label, call = .beginElement element → answer = .ok .done →
    element.label? = some label → made label ∧ label.target.fits element.kind = true ∧
      s.document.labels.state label = .ok .pending
  ended : ∀ label, made label → s.document.labels.state label = .ok .begun →
    t.document.labels.state label ≠ .ok .begun →
      ∃ frame outer, s.document.frames = frame :: outer ∧ call = .endElement frame.kind ∧
        (label ∈ frame.state.carried ∨ frame.kind = .sectionTitle ∧
          ∃ path, Frames.topState? outer = some (.sect (some label) path))
  shown : ∀ kind, call = .endElement kind → answer = .ok .done →
    ∃ frame outer, s.document.frames = frame :: outer ∧ frame.kind = kind ∧
      Ends backend s t frame outer
  anchored : ∀ label, call = .beginElement (.sect label) → answer = .ok .done →
    (∃ path, t.document.frames.topState? = some (.sect label path)) ∧
    t.document.output = (s.document.emitLine (backend.sectionStart
      (s.document.frames.sectionDepth + 1) (label.map Label.key))).output

/-- A label that has just been made is pending. -/
theorem state_createLabel {target : Target} {label : Label}
    (ha : (s.perform backend (.createLabel target)).1 = .ok (.label label)) :
    (s.perform backend (.createLabel target)).2.document.labels.state label = .ok .pending := by
  obtain rfl : (s.document.labels.create target).1 = label := Reply.label.inj (Except.ok.inj ha)
  have last : (s.document.labels.create target).2.entries[(s.document.labels.create
    target).1.index]? = some { target } := List.getElem?_concat_length
  exact Registry.state_of_label? (s.document.labels.label?_create target) last

/-- A section that is begun carries its label and shows its key. -/
theorem anchored_of_begin (h : s.document.Labelled) {label : Option Label}
    (ha : (s.perform backend (.beginElement (.sect label))).1 = .ok .done) :
    let t := (s.perform backend (.beginElement (.sect label))).2
    (∃ path, t.document.frames.topState? = some (.sect label path)) ∧
    t.document.output = (s.document.emitLine (backend.sectionStart
      (s.document.frames.sectionDepth + 1) (label.map Label.key))).output := by
  obtain ⟨path, top, _⟩ := exists_topState?_of_begin h.orderly (Prod.ext ha rfl)
  obtain ⟨_, _, begun, last⟩ := bind_eq_ok.mp (perform_eq_ok_iff.mp (Prod.ext ha rfl))
  have anchor := ensures_beginSection backend label s s rfl
  rw [begun] at anchor
  cases last
  exact ⟨⟨path, top⟩, anchor⟩

section Step

variable {made : Label → Prop} {call : Call} {label : Label} {entry entry' : LabelEntry}

/-- The entries of a label that is known before a call and behind it. -/
theorem exists_entries
    (known : s.document.labels.label? label.index = some label ∧
      (s.perform backend call).2.document.labels.label? label.index = some label) :
    ∃ entry entry', s.document.labels.entries[label.index]? = some entry ∧
      (s.perform backend call).2.document.labels.entries[label.index]? = some entry' ∧
      s.document.labels.state label = .ok entry.state ∧
      (s.perform backend call).2.document.labels.state label = .ok entry'.state := by
  obtain ⟨before, behind⟩ := known
  obtain ⟨entry, he⟩ := Registry.exists_entry_of_label? before
  obtain ⟨entry', he'⟩ := Registry.exists_entry_of_label? behind
  exact ⟨entry, entry', he, he', Registry.state_of_label? before he,
    Registry.state_of_label? behind he'⟩

/-- A call moves an entry by at most one step, and begins with its label if it is pending no more. -/
theorem next_perform (h : s.document.Labelled) {index : Nat}
    (he : s.document.labels.entries[index]? = some entry)
    (he' : (s.perform backend call).2.document.labels.entries[index]? = some entry') :
    entry.state.Next entry'.state ∧ (entry.state = .pending →
      (entry'.state ≠ .pending ↔ call.Begins (s.perform backend call).1 index)) :=
  h.tracked.next h.orderly.frames_nested h.orderly.lettered.roomy (h.orderly.step backend call)
    he he'

/-- Whoever takes a label out of its element ends that element, or the title of its section. -/
theorem exists_end_of_begun (h : s.document.Labelled)
    (known : s.document.labels.label? label.index = some label)
    (he : s.document.labels.entries[label.index]? = some entry)
    (he' : (s.perform backend call).2.document.labels.entries[label.index]? = some entry')
    (hb : entry.state = .begun) (hn : entry'.state ≠ .begun) :
    ∃ frame outer, s.document.frames = frame :: outer ∧ call = .endElement frame.kind ∧
      (label ∈ frame.state.carried ∨ frame.kind = .sectionTitle ∧
        ∃ path, Frames.topState? outer = some (.sect (some label) path)) := by
  obtain ⟨bare, outer', hf, hc, carries⟩ := h.tracked.ends_of_begun h.orderly.frames_nested
    h.orderly.lettered.roomy (h.orderly.step backend call) known he he' hb hn
  cases hd : s.document.frames with
  | nil =>
    rw [Document.ledger, hd] at hf
    cases hf
  | cons frame outer =>
    rw [Document.ledger, hd] at hf
    obtain ⟨rfl, rfl⟩ := List.cons.inj hf
    refine ⟨frame, outer, rfl, hc, carries.imp (fun hl ↦ ?_) fun titled ↦ ?_⟩
    · exact frame.state.carried_bare ▸ hl
    · obtain ⟨hk, path, top⟩ := titled
      rw [← Frames.bare, Frames.topState?_bare, Option.map_eq_some_iff] at top
      obtain ⟨state, ht, hs⟩ := top
      exact ⟨hk, path, by rw [ht, FrameState.bare_eq_sect.mp hs]⟩

/-- Each call moves the labels that have been made as it should. -/
theorem labelStep_perform (h : s.document.Labelled)
    (known : ∀ label, made label →
      s.document.labels.label? label.index = some label ∧
        (s.perform backend call).2.document.labels.label? label.index = some label)
    (genuine : ∀ element, call = .beginElement element → ∀ label ∈ element.label?,
      label.owner = s.document.labels.owner → made label) :
    LabelStep backend made s call (s.perform backend call).1 (s.perform backend call).2 := by
  have begins {element : Element} {label : Label} (hc : call = .beginElement element)
      (ha : (s.perform backend call).1 = .ok .done) (hl : element.label? = some label) :
      made label ∧ element.kind.target? = some label.target ∧
        ∃ entry, s.document.labels.entries[label.index]? = some entry ∧ entry.state = .pending := by
    subst hc
    obtain ⟨fits, owner, pending⟩ := pending_of_begin h hl (Prod.ext ha rfl)
    exact ⟨genuine element rfl label hl owner, fits, pending⟩
  refine ⟨?created, ?moved, ?begun, ?fitting, ?ended, ?shown, ?anchored⟩
  case created =>
    rintro target label rfl ha
    exact state_createLabel ha
  case moved =>
    intro label hm
    obtain ⟨entry, entry', he, he', hs, hs'⟩ := exists_entries (known label hm)
    exact ⟨entry.state, entry'.state, hs, hs', (next_perform h he he').1⟩
  case begun =>
    intro label hm hp
    obtain ⟨entry, entry', he, he', hs, hs'⟩ := exists_entries (known label hm)
    have pending : entry.state = .pending := Except.ok.inj (hs.symm.trans hp)
    rw [hs', Ne, Except.ok.injEq, ← Ne, (next_perform h he he').2 pending]
    constructor
    · rintro ⟨element, own, hc, ha, hl, hi⟩
      have same := (known own (begins hc ha hl).1).1
      obtain rfl : label = own :=
        Option.some.inj ((known label hm).1.symm.trans (hi ▸ same))
      exact ⟨element, hc, ha, hl⟩
    · rintro ⟨element, hc, ha, hl⟩
      exact ⟨element, label, hc, ha, hl, rfl⟩
  case fitting =>
    intro element label hc ha hl
    obtain ⟨hm, fits, entry, he, pending⟩ := begins hc ha hl
    exact ⟨hm, Target.fits_iff.mpr fits,
      pending ▸ Registry.state_of_label? (known label hm).1 he⟩
  case ended =>
    intro label hm hb hn
    obtain ⟨entry, entry', he, he', hs, hs'⟩ := exists_entries (known label hm)
    have begun : entry.state = .begun := Except.ok.inj (hs.symm.trans hb)
    have changed : entry'.state ≠ .begun := fun hk ↦ hn (hk ▸ hs')
    exact exists_end_of_begun h (known label hm).1 he he' begun changed
  case shown =>
    rintro kind rfl ha
    exact ends_of_end h (Prod.ext ha rfl)
  case anchored =>
    rintro label rfl ha
    exact anchored_of_begin h ha

end Step

/-! ### Runs -/

section Runs

variable {before after : List Call} (h : s.document.Labelled)
  (hk : s.document.bibliography.Keyed)

include h hk

theorem labelStep_run {call : Call} (hg : s.Genuine backend (before ++ call :: after)) :
    LabelStep backend (s.Made backend before) (s.run backend before) call
      ((s.run backend before).perform backend call).1
      ((s.run backend before).perform backend call).2 := by
  refine labelStep_perform (labelled_run h hk hg.of_append) (fun label hm ↦ ⟨hm.label? hk, ?_⟩) ?_
  · have known := (hm.append [call]).label? hk
    rwa [run_append] at known
  · rintro element rfl label hl ho
    exact hg.made hk rfl hl ho

/-- The state of a label goes on step by step. -/
theorem next_run {label : Label} (hg : s.Genuine backend (before ++ after))
    (hm : s.Made backend before label) :
    ∃ state last, (s.run backend before).document.labels.state label = .ok state ∧
      (s.run backend (before ++ after)).document.labels.state label = .ok last ∧
      ReflTransGen LabelState.Next state last := by
  induction after using List.reverseRecOn with
  | nil =>
    obtain ⟨entry, he⟩ := Registry.exists_entry_of_label? (hm.label? hk)
    have state := Registry.state_of_label? (hm.label? hk) he
    rw [List.append_nil]
    exact ⟨_, _, state, state, .refl⟩
  | append_singleton after call ih =>
    rw [← List.append_assoc] at hg ⊢
    obtain ⟨state, middle, hs, hmid, steps⟩ := ih hg.of_append
    obtain ⟨first, last, hf, hl, next⟩ := (labelStep_run h hk hg).moved label (hm.append after)
    obtain rfl := Except.ok.inj (hmid.symm.trans hf)
    rw [run_append]
    exact ⟨state, last, hs, hl, steps.tail next⟩

/-- No label is begun with twice. -/
theorem not_begun_again {element element' : Element} {label : Label} {middle : List Call}
    (hg : s.Genuine backend
      (before ++ .beginElement element :: (middle ++ .beginElement element' :: after)))
    (ha : ((s.run backend before).perform backend (.beginElement element)).1 = .ok .done)
    (ha' : ((s.run backend (before ++ .beginElement element :: middle)).perform backend
      (.beginElement element')).1 = .ok .done)
    (hl : element.label? = some label) (hl' : element'.label? = some label) : False := by
  have first := labelStep_run h hk hg
  obtain ⟨hm, _, pending⟩ := first.fitting element label rfl ha hl
  have begun := (first.begun label hm pending).mpr ⟨element, rfl, ha, hl⟩
  rw [← List.cons_append, ← List.append_assoc] at hg
  have again := ((labelStep_run h hk hg).fitting element' label rfl ha' hl').2.2
  have genuine := hg.of_append
  rw [List.append_cons] at genuine again
  obtain ⟨state, last, hs, hlast, steps⟩ := next_run h hk genuine (hm.append _)
  obtain rfl := Except.ok.inj (hlast.symm.trans again)
  refine (LabelState.keeps_of_next steps).2 (fun unbegun ↦ begun ?_) rfl
  rw [run_append] at hs
  exact unbegun ▸ hs

omit h in
/-- A label that is made later has another key. -/
theorem key_ne_of_later {target target' : Target} {label label' : Label} {middle : List Call}
    (ha : ((s.run backend before).perform backend (.createLabel target)).1 = .ok (.label label))
    (ha' : ((s.run backend (before ++ .createLabel target :: middle)).perform backend
      (.createLabel target')).1 = .ok (.label label')) : label.key ≠ label'.key := by
  intro same
  let calls := before ++ .createLabel target :: middle
  have made : s.Made backend calls label := ⟨before, target, middle, rfl, ha⟩
  have made' : s.Made backend (calls ++ [.createLabel target']) label' :=
    ⟨calls, target', [], rfl, ha'⟩
  have later := Registry.lt_of_label? (made.label? hk)
  have index := Registry.key_label?_inj ((made.append _).label? hk) (made'.label? hk) same
  obtain rfl : ((s.run backend calls).document.labels.create target').1 = label' :=
    Reply.label.inj (Except.ok.inj ha')
  exact absurd index (Nat.ne_of_lt later)

/-- No two labels with one target are resolved with one number text. -/
theorem eq_of_resolved {calls : List Call} (hg : s.Genuine backend calls) {label label' : Label}
    (hm : s.Made backend calls label) (hm' : s.Made backend calls label')
    (ht : label.target = label'.target) {number : String}
    (hr : (s.run backend calls).document.labels.state label = .ok (.resolved number))
    (hr' : (s.run backend calls).document.labels.state label' = .ok (.resolved number)) :
    label = label' := by
  have tracked := (labelled_run h hk hg).tracked
  have known := hm.label? hk
  have known' := hm'.label? hk
  obtain ⟨entry, he⟩ := Registry.exists_entry_of_label? known
  obtain ⟨entry', he'⟩ := Registry.exists_entry_of_label? known'
  have resolved := Except.ok.inj ((Registry.state_of_label? known he).symm.trans hr)
  have resolved' := Except.ok.inj ((Registry.state_of_label? known' he').symm.trans hr')
  have target := (Registry.target_of_label? known he).trans
    (ht.trans (Registry.target_of_label? known' he').symm)
  have same := tracked.distinct _ _ entry entry' number he he' target resolved resolved'
  exact Option.some.inj (known.symm.trans (same ▸ known'))

end Runs

/-- The labels of a document have their lives: each call moves the labels that have been made by at
most one step, and shows what it resolves (`LabelStep`); no label goes back, and one that is
resolved keeps its number; no label is begun with twice; labels that are made at different times
have different keys; and no two labels with one target are resolved with one number text. -/
theorem labels_run (backend : Backend) (context : Context) (path : Path) (place : Location)
    (serial : Nat) (files : FileSystem) (calls : List Call) :
    let fresh : Session := ⟨context.document path place serial, files⟩
    let final := fresh.run backend calls
    fresh.Genuine backend calls →
      (∀ before call after, calls = before ++ call :: after →
        let s := fresh.run backend before
        LabelStep backend (fresh.Made backend before) s call (s.perform backend call).1
          (s.perform backend call).2) ∧
      (∀ before after label, calls = before ++ after → fresh.Made backend before label →
        ∃ state last, (fresh.run backend before).document.labels.state label = .ok state ∧
          final.document.labels.state label = .ok last ∧
          (state ≠ .pending → last ≠ .pending) ∧
          ∀ number, state = .resolved number → last = .resolved number) ∧
      (∀ before element middle element' after label,
        calls = before ++ .beginElement element :: (middle ++ .beginElement element' :: after) →
        element.label? = some label → element'.label? = some label →
        ((fresh.run backend before).perform backend (.beginElement element)).1 = .ok .done →
        ((fresh.run backend (before ++ .beginElement element :: middle)).perform backend
          (.beginElement element')).1 ≠ .ok .done) ∧
      (∀ before target middle target' after label label',
        calls = before ++ .createLabel target :: (middle ++ .createLabel target' :: after) →
        ((fresh.run backend before).perform backend (.createLabel target)).1 =
          .ok (.label label) →
        ((fresh.run backend (before ++ .createLabel target :: middle)).perform backend
          (.createLabel target')).1 = .ok (.label label') → label.key ≠ label'.key) ∧
      ∀ label label' number, fresh.Made backend calls label → fresh.Made backend calls label' →
        label.target = label'.target →
        final.document.labels.state label = .ok (.resolved number) →
        final.document.labels.state label' = .ok (.resolved number) → label = label' := by
  intro fresh final hg
  have labelled : fresh.document.Labelled := labelled_fresh context path place serial
  have keyed : fresh.document.bibliography.Keyed := Bibliography.keyed_empty
  refine ⟨?_, ?_, ?_, ?_, ?_⟩
  · rintro before call after rfl
    exact labelStep_run labelled keyed hg
  · rintro before after label rfl hm
    obtain ⟨state, last, hs, hlast, steps⟩ := next_run labelled keyed hg hm
    obtain ⟨kept, left⟩ := LabelState.keeps_of_next steps
    exact ⟨state, last, hs, hlast, left, kept⟩
  · rintro before element middle element' after label rfl hl hl' ha ha'
    exact not_begun_again labelled keyed hg ha ha' hl hl'
  · rintro before target middle target' after label label' - ha ha'
    exact key_ne_of_later keyed ha ha'
  · intro label label' number hm hm' ht hr hr'
    exact eq_of_resolved labelled keyed hg hm hm' ht hr hr'

/-- The equation of a document that carries the first label shows the number of the label. -/
theorem labels_run_equation :
    let fresh : Session :=
      ⟨(⟨⟨"/"⟩, "index", {}, false⟩ : Context).document ⟨"/index.xhtml"⟩ ["index.xhtml"] 0, {}⟩
    let label : Label := ⟨0, 0, 1, .equation⟩
    let s := fresh.run Xhtml.backend [.createLabel .equation, .beginElement .header,
      .endElement .header, .beginElement .body, .beginElement (.equation (some label))]
    let t := (s.perform Xhtml.backend (.endElement .equation)).2
    t.document.labels.state label = .ok (.resolved "1") ∧
      ∃ markup, Xhtml.backend.Shows label "1" markup ∧
        t.document.output = (s.document.pop.emitLine markup).stream.output := by
  intro fresh label s t
  let before : List Call := [.createLabel .equation, .beginElement .header,
    .endElement .header, .beginElement .body, .beginElement (.equation (some label))]
  have genuine : fresh.Genuine Xhtml.backend (before ++ [.endElement .equation]) := by
    refine genuine_createLabel fun element hm own hl ↦ ?_
    change _ ∈ ([_, _, _, _, _] : List Call) at hm
    simp only [List.mem_cons, Call.beginElement.injEq, reduceCtorEq, List.not_mem_nil, or_false,
      false_or] at hm
    obtain rfl | rfl | rfl := hm <;> cases hl
    rfl
  have accepted : (s.perform Xhtml.backend (.endElement .equation)).1 = .ok .done := rfl
  have states : s.document.frames.map Frame.state = [.equation (some label), .plain] := by
    decide +kernel
  have resolved : t.document.labels.state label = .ok (.resolved "1") := by decide +kernel
  obtain ⟨steps, _⟩ := labels_run Xhtml.backend ⟨⟨"/"⟩, "index", {}, false⟩ ⟨"/index.xhtml"⟩
    ["index.xhtml"] 0 {} (before ++ [.endElement .equation]) genuine
  obtain ⟨frame, outer, hd, hk, ends⟩ := (steps before _ [] rfl).shown .equation rfl accepted
  rw [hd] at states
  have carried : label ∈ frame.state.carried := by
    rw [(List.cons.inj states).1]
    exact List.mem_singleton.mpr rfl
  obtain ⟨number, markup, state, shown, written⟩ :=
    ends.shown (by rw [hk]; decide) (by rw [hk]; decide) label carried
  obtain rfl := LabelState.resolved.inj (Except.ok.inj (state.symm.trans resolved))
  exact ⟨resolved, markup, shown, written⟩

end Session

end Manuscript

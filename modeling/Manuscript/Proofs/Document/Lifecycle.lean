import Manuscript.Proofs.Document.Issuing
import Mathlib.Logic.Relation

/-!
# The life of a label

A label is pending until an element is begun with it, waits for the end of this element or of the
series around it, and is resolved then. A label that waits is open, or belongs to a section that has
shown its number already (`Ledger.Tracked.waiting`); this is why resolving a label again, at the
next title of a section or at its end, changes nothing.
-/

namespace Manuscript

open scoped List

/-- How the state of a label may go on in one call. -/
inductive LabelState.Next : LabelState → LabelState → Prop where
  | stay (state : LabelState) : Next state state
  | begin : Next .pending .begun
  | number (text : String) : Next .begun (.resolved text)

/-- A label that has got its number keeps it, and none becomes pending again. -/
theorem LabelState.keeps_of_next {state last : LabelState}
    (h : Relation.ReflTransGen LabelState.Next state last) :
    (∀ number, state = .resolved number → last = .resolved number) ∧
      (state ≠ .pending → last ≠ .pending) := by
  induction h with
  | refl => exact ⟨fun _ hs ↦ hs, fun hs ↦ hs⟩
  | tail _ next ih =>
    cases next with
    | stay _ => exact ih
    | begin => exact ⟨fun number hs ↦ absurd (ih.1 number hs) nofun, fun hs ↦ absurd rfl (ih.2 hs)⟩
    | number _ => exact ⟨fun number hs ↦ absurd (ih.1 number hs) nofun, fun _ ↦ nofun⟩

/-- The call was accepted and has begun an element with the label that was made at a position. -/
def Call.Begins (call : Call) (answer : Except DocumentError Reply) (index : Nat) : Prop :=
  ∃ element label, call = .beginElement element ∧ answer = .ok .done ∧
    element.label? = some label ∧ label.index = index

/-- An entry has the target of its label. -/
theorem Registry.target_of_label? {registry : Registry} {label : Label} {index : Nat}
    {entry : LabelEntry} (hl : registry.label? index = some label)
    (he : registry.entries[index]? = some entry) : entry.target = label.target := by
  obtain ⟨target, ht, rfl⟩ := Option.map_eq_some_iff.mp hl
  rw [targets, List.getElem?_map, he] at ht
  exact Option.some.inj ht

theorem Registry.lt_of_label? {registry : Registry} {label : Label} {index : Nat}
    (hl : registry.label? index = some label) : index < registry.entries.length := by
  obtain ⟨target, ht, _⟩ := Option.map_eq_some_iff.mp hl
  rw [← length_targets]
  exact (List.getElem?_eq_some_iff.mp ht).1

theorem Registry.exists_entry_of_label? {registry : Registry} {label : Label} {index : Nat}
    (hl : registry.label? index = some label) : ∃ entry, registry.entries[index]? = some entry :=
  ⟨_, List.getElem?_eq_getElem (lt_of_label? hl)⟩

/-- The state of a label of the registry is that of its entry. -/
theorem Registry.state_of_label? {registry : Registry} {label : Label} {entry : LabelEntry}
    (hl : registry.label? label.index = some label)
    (he : registry.entries[label.index]? = some entry) :
    registry.state label = .ok entry.state := by
  obtain ⟨target, _, made⟩ := Option.map_eq_some_iff.mp hl
  have owner : label.owner = registry.owner := by rw [← made]
  rw [state, Registry.entry, if_pos owner, he]
  rfl

namespace Ledger

/-- What is known of the labels of a document: those that wait for the end of an element, and the
numbers that the others have got. -/
structure Tracked (l : Ledger) : Prop where
  genuine : ∀ label ∈ l.frames.carried, l.labels.label? label.index = some label
  nodup : l.frames.carried.Nodup
  fitting : ∀ frame ∈ l.frames, frame.Fitting
  marked : ∀ (index : Nat) (entry : LabelEntry), l.labels.entries[index]? = some entry →
    (entry.state = .pending ↔ entry.attached = false)
  /-- A label that waits is begun, or its section has shown its number. -/
  waiting : ∀ label ∈ l.frames.carried, ∀ entry, l.labels.entries[label.index]? = some entry →
    entry.state = .begun ∨ ∃ path, (some label, path) ∈ l.frames.sections ∧
      entry.state = .resolved (Session.sectionNumber path)
  issued : ∀ (index : Nat) (entry : LabelEntry) (number : String),
    l.labels.entries[index]? = some entry → entry.state = .resolved number →
      l.Issued entry.target number
  /-- The number of an open section is for its own label. -/
  reserved : ∀ label path, (label, path) ∈ l.frames.sections →
    ∀ (index : Nat) (entry : LabelEntry), l.labels.entries[index]? = some entry →
      entry.target = .sect → entry.state = .resolved (Session.sectionNumber path) →
        ∃ own, label = some own ∧ own.index = index
  distinct : ∀ (i j : Nat) (entry entry' : LabelEntry) (number : String),
    l.labels.entries[i]? = some entry → l.labels.entries[j]? = some entry' →
      entry.target = entry'.target → entry.state = .resolved number →
        entry'.state = .resolved number → i = j

variable {l l' : Ledger} {frame : Frame} {outer : Frames}

/-! ### Elements that end -/

theorem sections_takeOff (l : Ledger) (frame : Frame) (outer : Frames) :
    (l.takeOff frame outer).frames.sections = outer.sections := by
  unfold takeOff count
  split
  · rfl
  · rfl
  · exact Frames.sections_gather _ outer
  · rfl
  · rfl
  · rfl

/-- An element that gives numbers hands nothing to the elements around it. -/
theorem frames_takeOff_of_mem_numbers {n : Label × String}
    (h : n ∈ (l.takeOff frame outer).numbers frame) : (l.takeOff frame outer).frames = outer := by
  unfold takeOff count at h ⊢
  split
  · rfl
  · rfl
  · next hs =>
    rw [hs] at h
    unfold numbers at h
    rw [hs] at h
    cases h
  · rfl
  · rfl
  · rfl

/-- The labels inside an element that has ended fit still, also that of a sub-figure in its
series. -/
theorem fitting_takeOff (nested : l.frames.Nested) (fitting : ∀ frame ∈ l.frames, frame.Fitting)
    (hf : l.frames = frame :: outer) :
    ∀ other ∈ (l.takeOff frame outer).frames, other.Fitting := by
  rw [hf, List.forall_mem_cons] at fitting
  have suits := (hf ▸ nested).1.suits
  have own := fitting.1.own
  unfold takeOff count
  generalize frame.state = state at suits own
  cases state with
  | subFigure figure =>
    refine Frames.fitting_gather fitting.2 fun label hl ↦ ?_
    have target := own label hl
    rw [eq_of_beq suits] at target
    exact (Option.some.inj target).symm
  | _ => exact fitting.2

/-- A section that begins comes behind all others. -/
theorem lt_of_mem_path? {t : Sectioning} (nested : l.frames.Nested) (agrees : t.Agrees l)
    {element : Element} (admits : l.Admits element frame) {path : List Nat}
    (hp : path ∈ frame.state.path?) : l.sectionPath < path := by
  obtain ⟨_, rfl⟩ := admits.position path hp
  refine Document.lt_nextSectionPath ?_
  rw [nested.sectionDepth_eq, agrees.opened, List.length_map]
  exact agrees.length_opened_le

theorem advances_push {t : Sectioning} (nested : l.frames.Nested) (agrees : t.Agrees l)
    {element : Element} (admits : l.Admits element frame) : l.Advances (l.push frame) where
  path := by
    rw [push]
    cases hp : frame.state.path? with
    | none => exact .inl rfl
    | some path => exact .inr (lt_of_mem_path? nested agrees admits hp)
  counter target := by cases target <;> exact Nat.le_refl _

theorem sections_push (l : Ledger) (frame : Frame) :
    (l.push frame).frames.sections = frame.state.section?.toList ++ l.frames.sections := by
  have same : frame.bare.state.section? = frame.state.section? := by
    rw [Frame.bare]
    cases frame.state <;> rfl
  rw [push, ← same]
  cases h : frame.bare.state.section? with
  | none => exact List.filterMap_cons_none h
  | some own => exact List.filterMap_cons_some h

/-- Without open elements and labels all is as it should be. -/
theorem tracked_of_nil (hf : l.frames = []) (hl : l.labels.entries = []) : l.Tracked := by
  constructor <;> simp [hf, hl, Frames.carried, Frames.sections]

/-- What is settled does not change the numbers. -/
theorem numbers_settle (l : Ledger) (frame : Frame) (given : List (Label × String))
    (stored : List Path) : (l.settle given stored).numbers frame = l.numbers frame := by
  unfold numbers
  cases frame.state <;> rfl

/-- An end gives numbers to the labels that wait for it, and a title to that of the section around
it. -/
theorem carried_or_title {n : Label × String} (h : n ∈ (l.takeOff frame outer).numbers frame) :
    n.1 ∈ frame.state.carried ∨ frame.kind = .sectionTitle ∧
      ∃ path, Frames.topState? outer = some (.sect (some n.1) path) := by
  obtain ⟨kind, captured, state⟩ := frame
  have own {label : Option Label} {number : String} (hn : n ∈ Label.given label number) :
      n.1 ∈ label.toList := Option.mem_toList.mpr (Label.mem_given.mp hn).1
  cases state with
  | plain =>
    change n ∈ if kind = .sectionTitle then outer.titleNumbers else [] at h
    split at h
    · next hk =>
      obtain ⟨top, rest, path, rfl, hs, _⟩ := Frames.exists_of_mem_titleNumbers h
      exact .inr ⟨hk, path, congrArg some hs⟩
    · cases h
  | figureSeries series =>
    left
    rcases List.mem_append.mp h with h | h
    · exact List.mem_append_left _ (own h)
    · have fst := List.mem_map_of_mem (f := Prod.fst) h
      rw [map_fst_subFigureNumbers] at fst
      exact List.mem_append_right _ fst
  | sect | figure | table | equation => exact .inl (List.mem_append_left _ (own h))
  | _ => cases h

namespace Tracked

/-- An entry whose element waits is attached. -/
theorem attached_of_mem_carried (h : l.Tracked) {label : Label} (hl : label ∈ l.frames.carried)
    {entry : LabelEntry} (he : l.labels.entries[label.index]? = some entry) :
    entry.attached = true := by
  have unmarked : entry.state ≠ .pending := by
    rcases h.waiting label hl entry he with hs | ⟨path, _, hs⟩ <;> rw [hs] <;> nofun
  exact Bool.not_eq_false _ |>.mp fun ha ↦ unmarked ((h.marked label.index entry he).mpr ha)

/-- Every label that gets a number when an element ends is resolved with it. -/
theorem state_of_mem_numbers (h : l.Tracked) (hf : l.frames = frame :: outer)
    (stored : List Path) {n : Label × String} (hn : n ∈ (l.takeOff frame outer).numbers frame) :
    ((l.takeOff frame outer).settle ((l.takeOff frame outer).numbers frame) stored).labels.state
      n.1 = .ok (.resolved n.2) := by
  have nodup : (((l.takeOff frame outer).numbers frame).map Prod.fst).Nodup := by
    have waiting := h.nodup
    rw [hf] at waiting
    exact waiting.sublist (sublist_fst_numbers { l with frames := outer } frame)
  have genuine {m : Label × String} (hm : m ∈ (l.takeOff frame outer).numbers frame) :
      l.labels.label? m.1.index = some m.1 := h.genuine m.1 (mem_carried_of_mem_numbers hf hm)
  rw [settle, labels_takeOff]
  have label := (l.labels.extends_number ((l.takeOff frame outer).numbers frame)).label?
    (genuine hn)
  obtain ⟨entry, he⟩ := Registry.exists_entry_of_label? label
  refine (Registry.state_of_label? label he).trans (congrArg Except.ok ?_)
  obtain ⟨first, _, ⟨_, others⟩ | ⟨m, hm, hi, rfl⟩⟩ := Registry.exists_of_getElem?_number he
  · exact absurd rfl (others n hn)
  · have same : m.1 = n.1 := Option.some.inj ((genuine hm).symm.trans (hi ▸ genuine hn))
    rw [List.inj_on_of_nodup_map nodup hm hn same]

section Ends

variable {t : Sectioning} {given : List (Label × String)} {stored : List Path}
  (h : l.Tracked) (nested : l.frames.Nested) (roomy : l.frames.Roomy) (agrees : t.Agrees l)
  (hf : l.frames = frame :: outer) (hg : given ⊆ (l.takeOff frame outer).numbers frame)

include h nested roomy hf hg

/-- What becomes of an entry when an element has ended and some of its numbers have been given. -/
theorem exists_of_settle {index : Nat} {entry : LabelEntry}
    (he : ((l.takeOff frame outer).settle given stored).labels.entries[index]? = some entry) :
    ∃ first, l.labels.entries[index]? = some first ∧ (entry = first ∨
      ∃ label number, (label, number) ∈ (l.takeOff frame outer).numbers frame ∧
        label ∈ l.frames.carried ∧ label.index = index ∧ first.target = label.target ∧
        l.Numbered frame outer label number ∧
        entry = { first with state := .resolved number }) := by
  rw [settle, labels_takeOff] at he
  obtain ⟨first, hn, ⟨rfl, _⟩ | ⟨n, hm, hi, rfl⟩⟩ := Registry.exists_of_getElem?_number he
  · exact ⟨entry, hn, .inl rfl⟩
  · have waits := mem_carried_of_mem_numbers hf (hg hm)
    have target := Registry.target_of_label? (h.genuine n.1 waits) (hi ▸ hn)
    exact ⟨first, hn, .inr ⟨n.1, n.2, hg hm, waits, hi, target,
      (numbered_of_mem_numbers nested roomy h.fitting hf (hg hm)).1, rfl⟩⟩

/-- A label that still waits when an element has ended is not one of those of the element. -/
theorem waiting_settle : ∀ label ∈ (l.takeOff frame outer).frames.carried, ∀ entry,
    ((l.takeOff frame outer).settle given stored).labels.entries[label.index]? = some entry →
      entry.state = .begun ∨ ∃ path, (some label, path) ∈ Frames.sections outer ∧
        entry.state = .resolved (Session.sectionNumber path) := by
  intro label hl entry he
  have waits : label ∈ l.frames.carried := (carried_takeOff hf).subset hl
  have nodup := h.nodup
  rw [hf, Frames.carried, List.flatMap_cons, List.nodup_append] at nodup
  have apart (own : label ∈ frame.state.carried)
      (gone : (l.takeOff frame outer).frames = outer) : False :=
    nodup.2.2 label own label (gone ▸ hl) rfl
  -- The section of the label is around the element, so it is still open.
  have around {path : List Nat} (hm : (some label, path) ∈ Frames.sections (frame :: outer)) :
      (some label, path) ∈ Frames.sections outer := by
    simp only [Frames.mem_sections, List.mem_cons, exists_eq_or_imp] at hm
    rcases hm with hs | hm
    · refine (apart ?_ ?_).elim
      · rw [hs]
        exact List.mem_singleton.mpr rfl
      · rw [takeOff, hs]
        rfl
    · exact Frames.mem_sections.mpr hm
  obtain ⟨first, hn, rfl | ⟨owner, number, hm, hc, hi, _, numbered, rfl⟩⟩ :=
    h.exists_of_settle nested roomy hf hg he
  · rcases h.waiting label waits entry hn with hs | ⟨path, hs, hr⟩
    · exact .inl hs
    · exact .inr ⟨path, around (hf ▸ hs), hr⟩
  · obtain rfl : owner = label := by
      have same := (h.genuine owner hc).symm.trans (hi ▸ h.genuine label waits)
      exact Option.some.inj same
    have gone := frames_takeOff_of_mem_numbers hm
    rw [Numbered] at numbered
    split at numbered
    · obtain ⟨path, hs, rfl⟩ := numbered
      exact .inr ⟨path, around hs, rfl⟩
    · obtain ⟨i, _, hs, _⟩ := numbered
      exact (apart (List.mem_append_right _ (List.mem_filterMap.mpr
        ⟨_, List.mem_of_getElem? hs, rfl⟩)) gone).elim
    all_goals
      exact (apart (List.mem_append_left _ (Option.mem_toList.mpr numbered.1)) gone).elim

/-- A label that gets a number was begun, or has the number of its section already. -/
theorem next_settle {index : Nat} {entry entry' : LabelEntry}
    (he : l.labels.entries[index]? = some entry)
    (he' : ((l.takeOff frame outer).settle given stored).labels.entries[index]? = some entry') :
    entry.state.Next entry'.state ∧ (entry.state = .pending → entry'.state = .pending) := by
  obtain ⟨first, hn, rfl | ⟨label, number, _, hc, rfl, _, numbered, rfl⟩⟩ :=
    h.exists_of_settle nested roomy hf hg he'
  · cases hn.symm.trans he
    exact ⟨.stay _, fun hs ↦ hs⟩
  · cases hn.symm.trans he
    rcases h.waiting label hc entry he with hs | ⟨path, hm, hs⟩
    · rw [hs]
      exact ⟨.number number, fun hp ↦ by cases hp⟩
    · rw [hs]
      rw [Numbered, Frames.target_of_mem_sections nested h.fitting hm] at numbered
      obtain ⟨path', hm', rfl⟩ := numbered
      cases Frames.eq_of_mem_sections h.nodup hm (hf ▸ hm')
      exact ⟨.stay _, fun hp ↦ by cases hp⟩

include agrees

/-- The number of a section that is still open is for its own label. -/
theorem reserved_settle {label : Option Label} {path : List Nat}
    (hs : (label, path) ∈ Frames.sections outer) {index : Nat} {entry : LabelEntry}
    (he : ((l.takeOff frame outer).settle given stored).labels.entries[index]? = some entry)
    (ht : entry.target = .sect)
    (hr : entry.state = .resolved (Session.sectionNumber path)) :
    ∃ own, label = some own ∧ own.index = index := by
  have here : (label, path) ∈ l.frames.sections := by
    rw [Frames.mem_sections] at hs ⊢
    obtain ⟨other, hm, hs⟩ := hs
    exact ⟨other, hf ▸ List.mem_cons_of_mem _ hm, hs⟩
  obtain ⟨first, hn, rfl | ⟨owner, number, _, _, hi, target, numbered, rfl⟩⟩ :=
    h.exists_of_settle nested roomy hf hg he
  · exact h.reserved label path here index entry hn ht hr
  · rw [Numbered, ← target, show first.target = .sect from ht] at numbered
    obtain ⟨path', hs', hn'⟩ := numbered
    have same := (LabelState.resolved.inj hr).symm.trans hn'
    cases Session.sectionNumber_injective same
    have nodup := agrees.nodup_paths
    rw [Frames.paths_eq_map_sections] at nodup
    have equal : (label, path) = (some owner, path) :=
      List.inj_on_of_nodup_map nodup here (hf ▸ hs') rfl
    exact ⟨owner, congrArg Prod.fst equal, hi⟩

/-- Numbers that are given to labels with one target differ from each other, and from those given
before. -/
theorem distinct_settle {i j : Nat} {entry entry' : LabelEntry} {number : String}
    (he : ((l.takeOff frame outer).settle given stored).labels.entries[i]? = some entry)
    (he' : ((l.takeOff frame outer).settle given stored).labels.entries[j]? = some entry')
    (ht : entry.target = entry'.target) (hr : entry.state = .resolved number)
    (hr' : entry'.state = .resolved number) : i = j := by
  -- A label whose number was given before cannot share it with one that gets its number now.
  have earlier {i j : Nat} {entry : LabelEntry} {label : Label}
      (he : l.labels.entries[i]? = some entry) (hr : entry.state = .resolved number)
      (ht : entry.target = label.target) (hi : label.index = j)
      (numbered : l.Numbered frame outer label number) : i = j := by
    by_cases target : label.target = .sect
    · rw [Numbered, target] at numbered
      obtain ⟨path, hs, rfl⟩ := numbered
      obtain ⟨own, ho, rfl⟩ := h.reserved _ path (hf ▸ hs) i entry he (ht.trans target) hr
      rw [← hi, Option.some.inj ho]
    · have issued := h.issued i entry number he hr
      rw [ht] at issued
      exact absurd issued (numbered.fresh target)
  obtain ⟨first, hn, rfl | ⟨owner, text, _, _, hi, target, numbered, rfl⟩⟩ :=
    h.exists_of_settle nested roomy hf hg he
  · obtain ⟨first', hn', rfl | ⟨owner', text', _, _, hi', target', numbered', rfl⟩⟩ :=
      h.exists_of_settle nested roomy hf hg he'
    · exact h.distinct i j _ _ number hn hn' ht hr hr'
    · obtain rfl := LabelState.resolved.inj hr'
      exact earlier hn hr (ht.trans target') hi' numbered'
  · obtain rfl := LabelState.resolved.inj hr
    obtain ⟨first', hn', rfl | ⟨owner', text', _, _, hi', target', numbered', rfl⟩⟩ :=
      h.exists_of_settle nested roomy hf hg he'
    · exact (earlier hn' hr' (ht.symm.trans target) hi numbered).symm
    · obtain rfl := LabelState.resolved.inj hr'
      have same := numbered.inj (hf ▸ agrees.nodup_paths) numbered'
        (target.symm.trans (ht.trans target'))
      rw [← hi, ← hi', same]

/-- When an element has ended and some of its numbers have been given, the labels are as they should
be. -/
theorem settle : ((l.takeOff frame outer).settle given stored).Tracked where
  genuine label hl := by
    have kept := (Registry.extends_number (l.takeOff frame outer).labels given)
    rw [labels_takeOff] at kept
    rw [Ledger.settle, labels_takeOff]
    exact kept.label? (h.genuine label ((carried_takeOff hf).subset hl))
  nodup := by
    obtain ⟨labels, same, sub⟩ := carried_takeOff hf
    exact same.nodup_iff.mp (h.nodup.sublist sub)
  fitting := fitting_takeOff nested h.fitting hf
  marked index entry he := by
    obtain ⟨first, hn, rfl | ⟨owner, number, _, hc, rfl, _, _, rfl⟩⟩ :=
      h.exists_of_settle nested roomy hf hg he
    · exact h.marked index entry hn
    · have attached := h.attached_of_mem_carried hc hn
      simp [attached]
  waiting label hl := by
    have kept : ((l.takeOff frame outer).settle given stored).frames.sections =
      Frames.sections outer := sections_takeOff l frame outer
    rw [kept]
    exact h.waiting_settle nested roomy hf hg label hl
  issued index entry number he hr := by
    obtain ⟨first, hn, rfl | ⟨owner, text, hm, _, _, target, numbered, rfl⟩⟩ :=
      h.exists_of_settle nested roomy hf hg he
    · exact (l.advances_takeOff frame outer).issued (h.issued index entry number hn hr)
    · obtain rfl := LabelState.resolved.inj hr
      have counted := (numbered_of_mem_numbers nested roomy h.fitting hf hm).2
      have issued := numbered.issued (fun path hp ↦ agrees.le_of_mem_paths (hf ▸ hp)) counted
      rwa [← target] at issued
  reserved label path hs index entry he ht hr := by
    have kept : ((l.takeOff frame outer).settle given stored).frames.sections =
      Frames.sections outer := sections_takeOff l frame outer
    rw [kept] at hs
    exact h.reserved_settle nested roomy agrees hf hg hs he ht hr
  distinct i j entry entry' number he he' ht hr hr' :=
    h.distinct_settle nested roomy agrees hf hg he he' ht hr hr'

end Ends

/-! ### Elements that begin, and labels that are made -/

/-- A label that passes the check fits and is pending. -/
theorem pending_of_attachFault (h : l.Tracked) {label : Label} {kind : Kind}
    (hl : l.labels.attachFault label kind = none) :
    kind.target? = some label.target ∧ label.owner = l.labels.owner ∧
      ∃ entry, l.labels.entries[label.index]? = some entry ∧ entry.state = .pending := by
  have fits : label.target.fits kind = true := by
    rw [Registry.attachFault] at hl
    split at hl
    · assumption
    · cases hl
  obtain ⟨owner, entry, he, ha⟩ := Registry.exists_entry_of_attachFault hl
  exact ⟨Target.fits_iff.mp fits, owner, entry, he, (h.marked label.index entry he).mpr ha⟩

section Begins

variable {t : Sectioning} {element : Element} (h : l.Tracked) (admits : l.Admits element frame)

include h admits

/-- When an element begins, its label leaves the pending ones, and no other label changes. -/
theorem exists_of_push {index : Nat} {entry : LabelEntry}
    (he : (l.push frame).labels.entries[index]? = some entry) :
    ∃ first, l.labels.entries[index]? = some first ∧
      (entry = first ∧ (∀ label ∈ element.label?, label.index ≠ index) ∨
        ∃ label ∈ element.label?, label.index = index ∧ first.state = .pending ∧
          entry = { first with attached := true, state := .begun }) := by
  rw [Ledger.push, admits.label] at he
  cases hl : element.label? with
  | none =>
    rw [hl] at he
    exact ⟨entry, he, .inl ⟨rfl, fun own ho ↦ absurd ho (Option.not_mem_none own)⟩⟩
  | some label =>
    rw [hl] at he
    obtain ⟨first, hn, ⟨other, rfl⟩ | ⟨rfl, rfl⟩⟩ := Registry.exists_of_getElem?_attach he
    · refine ⟨entry, hn, .inl ⟨rfl, fun own ho ↦ ?_⟩⟩
      rwa [← Option.some.inj ho]
    · obtain ⟨_, _, entry, hp, pending⟩ := h.pending_of_attachFault (admits.attachable label hl)
      obtain rfl := Option.some.inj (hn.symm.trans hp)
      exact ⟨first, hn, .inr ⟨label, rfl, rfl, pending, rfl⟩⟩

/-- The label of an element that begins does not wait yet. -/
theorem nodup_push : (element.label?.toList ++ l.frames.carried).Nodup := by
  cases hl : element.label? with
  | none => exact h.nodup
  | some label =>
    refine List.nodup_cons.mpr ⟨fun hc ↦ ?_, h.nodup⟩
    obtain ⟨_, _, entry, he, hs⟩ := h.pending_of_attachFault (admits.attachable label hl)
    have attached := h.attached_of_mem_carried hc he
    rw [(h.marked label.index entry he).mp hs] at attached
    cases attached

theorem fitting_push : frame.Fitting := by
  refine ⟨fun label hl ↦ ?_, fun label hm ↦ ?_⟩
  · rw [admits.label] at hl
    exact admits.kind ▸ (h.pending_of_attachFault (admits.attachable label hl)).1
  · rw [FrameState.members_of_fresh admits.fresh] at hm
    cases hm

/-- The position of a section that begins has not been used yet. -/
theorem not_resolved_of_push (nested : l.frames.Nested) (agrees : t.Agrees l)
    {label : Option Label} {path : List Nat} (new : frame.state.section? = some (label, path))
    {index : Nat} {entry : LabelEntry} (he : l.labels.entries[index]? = some entry)
    (ht : entry.target = .sect) : entry.state ≠ .resolved (Session.sectionNumber path) := by
  intro hr
  rw [FrameState.section?_eq_some] at new
  have own : path ∈ frame.state.path? := by rw [new]; rfl
  have behind := lt_of_mem_path? nested agrees admits own
  obtain ⟨used, hu, same⟩ := ht ▸ h.issued index entry _ he hr
  cases Session.sectionNumber_injective same
  rcases hu with rfl | hu
  · exact List.lt_irrefl _ behind
  · exact List.lt_irrefl _ (List.lt_trans hu behind)

/-- When an element has begun, the labels are as they should be. -/
theorem push (nested : l.frames.Nested) (agrees : t.Agrees l)
    (genuine : ∀ label ∈ element.label?, label.owner = l.labels.owner →
      l.labels.label? label.index = some label) : (l.push frame).Tracked where
  genuine label hl := by
    rw [admits.carried_push, List.mem_append, Option.mem_toList] at hl
    refine (l.extends_push frame).label? ?_
    rcases hl with hl | hl
    · exact genuine label hl (h.pending_of_attachFault (admits.attachable label hl)).2.1
    · exact h.genuine label hl
  nodup := admits.carried_push ▸ h.nodup_push admits
  fitting := List.forall_mem_cons.mpr ⟨(h.fitting_push admits).bare, h.fitting⟩
  marked index entry he := by
    obtain ⟨first, hn, ⟨rfl, _⟩ | ⟨label, _, rfl, _, rfl⟩⟩ := h.exists_of_push admits he
    · exact h.marked index entry hn
    · simp
  waiting label hl entry he := by
    rw [admits.carried_push, List.mem_append, Option.mem_toList] at hl
    rw [sections_push]
    obtain ⟨first, hn, ⟨rfl, others⟩ | ⟨_, _, _, hs, rfl⟩⟩ := h.exists_of_push admits he
    · have hl := hl.resolve_left fun hl ↦ others label hl rfl
      refine (h.waiting label hl entry hn).imp_right fun ⟨path, hm, hr⟩ ↦ ?_
      exact ⟨path, List.mem_append_right _ hm, hr⟩
    · exact .inl rfl
  issued index entry number he hr := by
    obtain ⟨first, hn, ⟨rfl, _⟩ | ⟨label, _, rfl, _, rfl⟩⟩ := h.exists_of_push admits he
    · exact (advances_push nested agrees admits).issued (h.issued index entry number hn hr)
    · cases hr
  reserved label path hm index entry he ht hr := by
    rw [sections_push, List.mem_append, Option.mem_toList] at hm
    obtain ⟨first, hn, ⟨rfl, _⟩ | ⟨_, _, _, _, rfl⟩⟩ := h.exists_of_push admits he
    · rcases hm with new | hm
      · exact absurd hr (h.not_resolved_of_push admits nested agrees new hn ht)
      · exact h.reserved label path hm index entry hn ht hr
    · cases hr
  distinct i j entry entry' number he he' ht hr hr' := by
    obtain ⟨first, hn, ⟨rfl, _⟩ | ⟨label, _, rfl, _, rfl⟩⟩ := h.exists_of_push admits he
    · obtain ⟨first', hn', ⟨rfl, _⟩ | ⟨label', _, rfl, _, rfl⟩⟩ := h.exists_of_push admits he'
      · exact h.distinct i j _ _ number hn hn' ht hr hr'
      · cases hr'
    · cases hr

end Begins

theorem create (h : l.Tracked) (target : Target) :
    ({ l with labels := (l.labels.create target).2 } : Ledger).Tracked where
  genuine label hl := (l.labels.extends_create target).label? (h.genuine label hl)
  nodup := h.nodup
  fitting := h.fitting
  marked index entry he := by
    rcases Registry.exists_of_getElem?_create he with he | ⟨_, rfl⟩
    · exact h.marked index entry he
    · simp
  waiting label hl entry he := by
    rcases Registry.exists_of_getElem?_create he with he | ⟨hi, rfl⟩
    · exact h.waiting label hl entry he
    · exact absurd hi (Nat.ne_of_lt (Registry.lt_of_label? (h.genuine label hl)))
  issued index entry number he hr := by
    rcases Registry.exists_of_getElem?_create he with he | ⟨_, rfl⟩
    · exact h.issued index entry number he hr
    · cases hr
  reserved label path hs index entry he ht hr := by
    rcases Registry.exists_of_getElem?_create he with he | ⟨_, rfl⟩
    · exact h.reserved label path hs index entry he ht hr
    · cases hr
  distinct i j entry entry' number he he' ht hr hr' := by
    rcases Registry.exists_of_getElem?_create he with he | ⟨_, rfl⟩
    · rcases Registry.exists_of_getElem?_create he' with he' | ⟨_, rfl⟩
      · exact h.distinct i j entry entry' number he he' ht hr hr'
      · cases hr'
    · cases hr

/-! ### Calls -/

section Calls

variable {t : Sectioning} {call : Call} {answer : Except DocumentError Reply} (h : l.Tracked)
  (nested : l.frames.Nested) (roomy : l.frames.Roomy) (agrees : t.Agrees l)
  (hs : l.Step call answer l')

include h nested roomy hs

/-- In one call the state of a label goes on by at most one step, and it leaves the pending ones if
and only if an element is begun with it. -/
theorem next {index : Nat} {entry entry' : LabelEntry}
    (he : l.labels.entries[index]? = some entry) (he' : l'.labels.entries[index]? = some entry') :
    entry.state.Next entry'.state ∧
      (entry.state = .pending → (entry'.state ≠ .pending ↔ call.Begins answer index)) := by
  have unbegun (same : entry.state.Next entry'.state)
      (kept : entry.state = .pending → entry'.state = .pending)
      (other : ∀ element, call = .beginElement element → answer ≠ .ok .done) :
      entry.state.Next entry'.state ∧
        (entry.state = .pending → (entry'.state ≠ .pending ↔ call.Begins answer index)) := by
    refine ⟨same, fun pending ↦ ⟨fun hn ↦ absurd (kept pending) hn, ?_⟩⟩
    rintro ⟨element, _, hc, ha, _⟩
    exact absurd ha (other element hc)
  have stays (same : entry = entry')
      (other : ∀ element, call = .beginElement element → answer ≠ .ok .done) :=
    unbegun (same ▸ .stay _) (fun hp ↦ same ▸ hp) other
  cases hs with
  | refused _ => exact stays (Option.some.inj (he.symm.trans he')) fun _ _ ha ↦ by cases ha
  | written _ hb _ =>
    exact stays (Option.some.inj (he.symm.trans he')) fun element hc ↦ absurd hc (hb element)
  | created target =>
    refine stays ?_ fun _ hc ↦ by cases hc
    rcases Registry.exists_of_getElem?_create he' with hn | ⟨hi, _⟩
    · exact Option.some.inj (he.symm.trans hn)
    · exact absurd hi (Nat.ne_of_lt (List.getElem?_eq_some_iff.mp he).1)
  | @begun element frame admits =>
    obtain ⟨first, hn, ⟨rfl, others⟩ | ⟨label, hl, hi, pending, rfl⟩⟩ := h.exists_of_push admits he'
    · cases he.symm.trans hn
      refine ⟨.stay _, fun pending ↦ ⟨fun hp ↦ absurd pending hp, ?_⟩⟩
      rintro ⟨_, label, hc, _, hl, hi⟩
      cases hc
      exact absurd hi (others label hl)
    · cases he.symm.trans hn
      rw [pending]
      exact ⟨.begin, fun _ ↦ ⟨fun _ ↦ ⟨element, label, rfl, rfl, hl, hi⟩, fun _ hp ↦ by cases hp⟩⟩
  | ended stored hf =>
    obtain ⟨next, kept⟩ := h.next_settle nested roomy hf (List.Subset.refl _) he he'
    exact unbegun next kept fun _ hc ↦ by cases hc
  | @failed frame outer error l' hf fails =>
    cases fails with
    | picture stored _ hp =>
      obtain ⟨next, kept⟩ := h.next_settle nested roomy hf hp.subset he he'
      exact unbegun next kept fun _ hc ↦ by cases hc
    | operands _ => exact stays (Option.some.inj (he.symm.trans he')) fun _ hc ↦ by cases hc

/-- A label that does not stay begun is that of the element that ends, or of the section around a
title. -/
theorem ends_of_begun {label : Label} {entry entry' : LabelEntry}
    (hl : l.labels.label? label.index = some label)
    (he : l.labels.entries[label.index]? = some entry)
    (he' : l'.labels.entries[label.index]? = some entry') (hb : entry.state = .begun)
    (hn : entry'.state ≠ .begun) :
    ∃ frame outer, l.frames = frame :: outer ∧ call = .endElement frame.kind ∧
      (label ∈ frame.state.carried ∨ frame.kind = .sectionTitle ∧
        ∃ path, Frames.topState? outer = some (.sect (some label) path)) := by
  have settled {frame : Frame} {outer : Frames} {given : List (Label × String)}
      {stored : List Path} (hf : l.frames = frame :: outer)
      (hg : given ⊆ (l.takeOff frame outer).numbers frame)
      (he' : ((l.takeOff frame outer).settle given stored).labels.entries[label.index]? =
        some entry') :
      label ∈ frame.state.carried ∨ frame.kind = .sectionTitle ∧
        ∃ path, Frames.topState? outer = some (.sect (some label) path) := by
    obtain ⟨first, hfirst, rfl | ⟨owner, number, hm, hc, hi, _⟩⟩ :=
      h.exists_of_settle nested roomy hf hg he'
    · cases hfirst.symm.trans he
      exact absurd hb hn
    · obtain rfl : owner = label :=
        Option.some.inj ((h.genuine owner hc).symm.trans (hi ▸ hl))
      exact carried_or_title hm
  have stays (same : entry = entry') : False := hn (same ▸ hb)
  cases hs with
  | refused _ | written _ _ _ => exact (stays (Option.some.inj (he.symm.trans he'))).elim
  | created target =>
    rcases Registry.exists_of_getElem?_create he' with hk | ⟨hi, _⟩
    · exact (stays (Option.some.inj (he.symm.trans hk))).elim
    · exact absurd hi (Nat.ne_of_lt (Registry.lt_of_label? hl))
  | begun admits =>
    obtain ⟨first, hk, ⟨rfl, _⟩ | ⟨_, _, _, pending, _⟩⟩ := h.exists_of_push admits he'
    · exact (stays (Option.some.inj (he.symm.trans hk))).elim
    · cases he.symm.trans hk
      cases pending.symm.trans hb
  | ended stored hf =>
    exact ⟨_, _, hf, rfl, settled hf (List.Subset.refl _) he'⟩
  | @failed frame outer error l' hf fails =>
    cases fails with
    | picture stored _ hp => exact ⟨_, _, hf, rfl, settled hf hp.subset he'⟩
    | operands _ => exact (stays (Option.some.inj (he.symm.trans he'))).elim

include agrees

/-- Every call leaves the labels as they should be, if only labels of the document are attached. -/
theorem step (genuine : ∀ element, call = .beginElement element → ∀ label ∈ element.label?,
      label.owner = l.labels.owner → l.labels.label? label.index = some label) : l'.Tracked := by
  cases hs with
  | refused _ | written _ _ _ => exact h
  | created target => exact h.create target
  | begun admits => exact h.push admits nested agrees (genuine _ rfl)
  | ended stored hf => exact h.settle nested roomy agrees hf (List.Subset.refl _)
  | @failed frame outer error l' hf fails =>
    cases fails with
    | picture stored _ hp => exact h.settle nested roomy agrees hf hp.subset
    | operands hk =>
      have suits := (hf ▸ nested).1.suits
      rw [hk] at suits
      obtain ⟨operator, operands, state⟩ := FrameState.exists_of_suits suits
      have gone : l.takeOff frame outer = { l with frames := outer } := by
        rw [takeOff, state]
        rfl
      rw [← gone, ← settle_nil (l.takeOff frame outer)]
      exact h.settle nested roomy agrees hf (List.nil_subset _)

end Calls

end Tracked

end Ledger

end Manuscript

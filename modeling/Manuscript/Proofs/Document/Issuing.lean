import Manuscript.Proofs.Document.Sections

/-!
# Numbers that are issued

A number text tells what was counted: the path of a section, the number of a float, and of a
sub-figure the number of its series and its position. As counters only go up (`Ledger.Advances`), an
element that ends gets a number text that no other label of its target was given before, and no two
labels with one target get the same (`Ledger.Numbered`).
-/

namespace Manuscript

/-! ### Number texts -/

/-- The number text of a sub-figure tells its series and its position. -/
theorem subFigureNumber_injective {number number' index index' : Nat}
    (hi : index < Limit.maxSubFigures) (hi' : index' < Limit.maxSubFigures)
    (h : subFigureNumber number index = subFigureNumber number' index') :
    number = number' ∧ index = index' := by
  have letters : ∀ i < Limit.maxSubFigures, (Char.ofNat ('a'.toNat + i)).toNat = 'a'.toNat + i := by
    decide
  have chars := congrArg String.toList h
  rw [subFigureNumber, subFigureNumber, String.toList_append, String.toList_append,
    String.toList_singleton, String.toList_singleton] at chars
  obtain ⟨digits, letter⟩ := List.append_inj' chars rfl
  have same := congrArg Char.toNat (List.singleton_inj.mp letter)
  rw [letters index hi, letters index' hi'] at same
  exact ⟨toString_injective (String.toList_inj.mp digits), Nat.add_left_cancel same⟩

/-- The target of the labels that fit elements of the kind. -/
def Kind.target? : Kind → Option Target
  | sect => some .sect
  | figure | figureSeries => some .figure
  | subFigure => some .subFigure
  | table => some .table
  | equation => some .equation
  | _ => none

theorem Target.fits_iff {target : Target} {kind : Kind} :
    target.fits kind = true ↔ kind.target? = some target := by
  cases target <;> cases kind <;> simp [Target.fits, Kind.target?]

/-! ### Sections and their labels -/

/-- The label and the position of a section. -/
def FrameState.section? : FrameState → Option (Option Label × List Nat)
  | sect label path => some (label, path)
  | _ => none

theorem FrameState.section?_eq_some {state : FrameState} {label : Option Label}
    {path : List Nat} : state.section? = some (label, path) ↔ state = sect label path := by
  cases state <;> simp [section?]

namespace Frames

/-- The labels and positions of the open sections, the innermost first. -/
def sections (frames : Frames) : List (Option Label × List Nat) :=
  frames.filterMap (·.state.section?)

variable {frames : Frames} {label : Option Label} {path : List Nat}

theorem mem_sections : (label, path) ∈ frames.sections ↔
    ∃ frame ∈ frames, frame.state = .sect label path := by
  simp only [sections, List.mem_filterMap, FrameState.section?_eq_some]

theorem paths_eq_map_sections (frames : Frames) : frames.paths = frames.sections.map Prod.snd := by
  have same (state : FrameState) : state.path? = state.section?.map Prod.snd := by
    cases state <;> rfl
  rw [paths, sections, List.map_filterMap]
  exact List.filterMap_congr fun frame _ ↦ same frame.state

theorem sections_shape (frames : Frames) : frames.shape.sections = frames.sections := by
  have same (frame : Frame) : frame.shape.state.section? = frame.state.section? := by
    rw [Frame.shape]
    cases frame.state <;> rfl
  rw [sections, shape, List.filterMap_map]
  exact List.filterMap_congr fun frame _ ↦ same frame

theorem sections_gather (label : Option Label) (frames : Frames) :
    (frames.gather label).sections = frames.sections := by
  rw [gather]
  cases h : frames.changeSeries? (FrameState.takeSubFigure? { label }) with
  | none => rfl
  | some next =>
    rw [Option.getD_some, ← sections_shape,
      shape_changeSeries? (FrameState.keepsShape_takeSubFigure? _) h, sections_shape]

/-- No two sections carry one label if no two elements do. -/
theorem eq_of_mem_sections {label : Label} {path path' : List Nat} (hn : frames.carried.Nodup)
    (h : (some label, path) ∈ frames.sections) (h' : (some label, path') ∈ frames.sections) :
    path = path' := by
  induction frames with
  | nil => cases h
  | cons frame outer ih =>
    rw [carried, List.flatMap_cons, List.nodup_append] at hn
    have own {path : List Nat} (hs : frame.state = .sect (some label) path) :
        label ∈ frame.state.carried := by rw [hs]; exact List.mem_singleton.mpr rfl
    have around {path : List Nat} (hm : ∃ frame ∈ outer, frame.state = .sect (some label) path) :
        label ∈ carried outer := by
      obtain ⟨frame, hf, hs⟩ := hm
      exact List.mem_flatMap.mpr ⟨frame, hf, by rw [hs]; exact List.mem_singleton.mpr rfl⟩
    simp only [mem_sections, List.mem_cons, exists_eq_or_imp] at h h'
    rcases h with h | h <;> rcases h' with h' | h'
    · rw [h] at h'
      cases h'
      rfl
    · exact absurd rfl (hn.2.2 label (own h) label (around h'))
    · exact absurd rfl (hn.2.2 label (own h') label (around h))
    · exact ih hn.2.1 (mem_sections.mpr h) (mem_sections.mpr h')

end Frames

/-! ### Labels that fit -/

/-- The labels that wait for the end of the element fit it, or are those of its sub-figures. -/
structure Frame.Fitting (frame : Frame) : Prop where
  own : ∀ label ∈ frame.state.label?, frame.kind.target? = some label.target
  members : ∀ label, some label ∈ frame.state.members → label.target = .subFigure

theorem Frame.Fitting.bare {frame : Frame} (h : frame.Fitting) : frame.bare.Fitting where
  own label hl := h.own label (by rwa [Frame.bare, FrameState.label?_bare] at hl)
  members label hl := h.members label (by rwa [Frame.bare, FrameState.members_bare] at hl)

namespace Frames

variable {frames : Frames}

theorem Nested.suits_of_mem (hn : frames.Nested) {frame : Frame} (h : frame ∈ frames) :
    frame.state.suits frame.kind = true := by
  induction frames with
  | nil => cases h
  | cons first outer ih =>
    rcases List.mem_cons.mp h with rfl | h
    · exact hn.1.suits
    · exact ih hn.2 h

/-- A section carries a label of a section. -/
theorem target_of_mem_sections {label : Label} {path : List Nat} (hn : frames.Nested)
    (hf : ∀ frame ∈ frames, frame.Fitting) (h : (some label, path) ∈ frames.sections) :
    label.target = .sect := by
  obtain ⟨frame, hm, hs⟩ := mem_sections.mp h
  have suits := hn.suits_of_mem hm
  rw [hs] at suits
  have fits := (hf frame hm).own label (by rw [hs]; rfl)
  rw [eq_of_beq suits] at fits
  exact (Option.some.inj fits).symm

/-- The series that takes a sub-figure takes a label that fits. -/
theorem fitting_gather {label : Option Label} (hf : ∀ frame ∈ frames, frame.Fitting)
    (hl : ∀ own ∈ label, own.target = .subFigure) :
    ∀ frame ∈ frames.gather label, frame.Fitting := by
  induction frames with
  | nil => exact hf
  | cons frame outer ih =>
    by_cases hk : frame.kind = .figureSeries
    · rw [gather, changeSeries?, if_pos hk, changeTop?]
      cases hs : frame.state with
      | figureSeries series =>
        have fitting := hf frame List.mem_cons_self
        refine List.forall_mem_cons.mpr ⟨⟨fun own ho ↦ ?_, fun own ho ↦ ?_⟩, fun other ho ↦ ?_⟩
        · exact fitting.own own (by rw [hs]; exact ho)
        · rw [FrameState.members_add, List.mem_append, List.mem_singleton] at ho
          exact ho.elim (fun ho ↦ fitting.members own (by rw [hs]; exact ho))
            fun ho ↦ hl own ho.symm
        · exact hf other (List.mem_cons_of_mem _ ho)
      | _ => exact hf
    · rw [gather_cons_of_ne hk]
      rw [List.forall_mem_cons] at hf ⊢
      exact ⟨hf.1, ih hf.2⟩

end Frames

/-! ### Counting -/

namespace Ledger

/-- How many elements have been counted whose labels have the target. Sections are not counted, and
sub-figures with their series. -/
def counter (l : Ledger) : Target → Nat
  | .sect => 0
  | .figure | .subFigure => l.figures
  | .table => l.tables
  | .equation => l.equations

/-- What a ledger counts only goes up. -/
structure Advances (l l' : Ledger) : Prop where
  path : l'.sectionPath = l.sectionPath ∨ l.sectionPath < l'.sectionPath
  counter : ∀ target, l.counter target ≤ l'.counter target

/-- The number text is one that the ledger may have given to a label of the target. -/
def Issued (l : Ledger) (target : Target) (number : String) : Prop :=
  match target with
  | .sect => ∃ path, (path = l.sectionPath ∨ path < l.sectionPath) ∧
      number = Session.sectionNumber path
  | .subFigure => ∃ n ≤ l.figures, ∃ i < Limit.maxSubFigures, number = subFigureNumber n i
  | .figure | .table | .equation => ∃ n ≤ l.counter target, number = toString n

variable {l l' : Ledger} {frame : Frame} {outer : Frames} {target : Target} {number : String}

theorem Advances.issued (h : l.Advances l') (hi : l.Issued target number) :
    l'.Issued target number := by
  cases target with
  | sect =>
    obtain ⟨path, hp, hn⟩ := hi
    refine ⟨path, ?_, hn⟩
    rcases h.path with he | hl
    · rwa [he]
    · exact .inr (hp.elim (fun he ↦ he ▸ hl) fun hp ↦ List.lt_trans hp hl)
  | subFigure =>
    obtain ⟨n, hn, i, hi⟩ := hi
    exact ⟨n, hn.trans (h.counter .subFigure), i, hi⟩
  | figure | table | equation =>
    obtain ⟨n, hn, he⟩ := hi
    exact ⟨n, hn.trans (h.counter _), he⟩

/-- The number text that a label gets when an element has ended. -/
def Numbered (l : Ledger) (frame : Frame) (outer : Frames) (label : Label) (number : String) :
    Prop :=
  match label.target with
  | .sect => ∃ path, (some label, path) ∈ Frames.sections (frame :: outer) ∧
      number = Session.sectionNumber path
  | .subFigure => ∃ i < Limit.maxSubFigures, frame.state.members[i]? = some (some label) ∧
      number = subFigureNumber (l.figures + 1) i
  | .figure | .table | .equation => frame.state.label? = some label ∧
      number = toString (l.counter label.target + 1)

theorem advances_takeOff (l : Ledger) (frame : Frame) (outer : Frames) :
    l.Advances (l.takeOff frame outer) where
  path := .inl (Sectioning.sectionPath_takeOff l frame outer)
  counter target := by
    unfold takeOff count
    cases frame.state <;> cases target <;> simp [counter]

/-- Every number that is given to a label is that of the element, of one of its sub-figures or of
the section around it, and what it counts has been counted once more. -/
theorem numbered_of_mem_numbers (nested : l.frames.Nested) (roomy : l.frames.Roomy)
    (fitting : ∀ frame ∈ l.frames, frame.Fitting) (hf : l.frames = frame :: outer)
    {n : Label × String} (h : n ∈ (l.takeOff frame outer).numbers frame) :
    l.Numbered frame outer n.1 n.2 ∧ (n.1.target ≠ .sect →
      (l.takeOff frame outer).counter n.1.target = l.counter n.1.target + 1) := by
  rw [hf] at nested roomy fitting
  have suits := nested.1.suits
  have here := fitting frame List.mem_cons_self
  obtain ⟨label, number⟩ := n
  obtain ⟨kind, captured, state⟩ := frame
  have sectioned {path : List Nat}
      (hm : (some label, path) ∈ Frames.sections (⟨kind, captured, state⟩ :: outer))
      (hn : number = Session.sectionNumber path) :
      l.Numbered ⟨kind, captured, state⟩ outer label number ∧ (label.target ≠ .sect →
        (l.takeOff ⟨kind, captured, state⟩ outer).counter label.target =
          l.counter label.target + 1) := by
    have ht := Frames.target_of_mem_sections nested fitting hm
    refine ⟨?_, fun other ↦ absurd ht other⟩
    rw [Numbered, ht]
    exact ⟨path, hm, hn⟩
  cases state with
  | plain =>
    change (label, number) ∈ if kind = .sectionTitle then outer.titleNumbers else [] at h
    split at h
    · obtain ⟨top, rest, path, rfl, hs, hn⟩ := Frames.exists_of_mem_titleNumbers h
      exact sectioned (Frames.mem_sections.mpr ⟨top, by simp, hs⟩) hn
    · cases h
  | sect carried path =>
    obtain ⟨rfl, hn⟩ := Label.mem_given.mp h
    exact sectioned (Frames.mem_sections.mpr ⟨_, List.mem_cons_self, rfl⟩) hn
  | figureSeries series =>
    cases eq_of_beq suits
    rcases List.mem_append.mp h with h | h
    · obtain ⟨hl, hn⟩ := Label.mem_given.mp h
      have ht : label.target = .figure := (Option.some.inj (here.own label hl)).symm
      rw [Numbered, ht]
      exact ⟨⟨hl, hn⟩, fun _ ↦ rfl⟩
    · obtain ⟨i, hi, hn⟩ := exists_of_mem_subFigureNumbers h
      rw [Nat.zero_add] at hn
      have ht : label.target = .subFigure := here.members label (List.mem_of_getElem? hi)
      rw [Numbered, ht]
      exact ⟨⟨i, (List.getElem?_eq_some_iff.mp hi).1.trans_le roomy.1, hi, hn⟩, fun _ ↦ rfl⟩
  | figure | table | equation =>
    cases eq_of_beq suits
    obtain ⟨hl, hn⟩ := Label.mem_given.mp h
    have ht := Option.some.inj (here.own label hl)
    rw [Numbered, ← ht]
    exact ⟨⟨hl, hn⟩, fun _ ↦ rfl⟩
  | _ => cases h

/-- The number text that a label gets has been issued then. -/
theorem Numbered.issued {label : Label} (h : l.Numbered frame outer label number)
    (past : ∀ path ∈ Frames.paths (frame :: outer),
      path = l.sectionPath ∨ path < l.sectionPath)
    (counted : label.target ≠ .sect →
      (l.takeOff frame outer).counter label.target = l.counter label.target + 1) :
    (l.takeOff frame outer).Issued label.target number := by
  rw [Numbered] at h
  unfold Issued
  generalize label.target = target at h counted
  cases target with
  | sect =>
    obtain ⟨path, hm, hn⟩ := h
    rw [Sectioning.sectionPath_takeOff]
    refine ⟨path, past path ?_, hn⟩
    rw [Frames.paths_eq_map_sections]
    exact List.mem_map_of_mem (f := Prod.snd) hm
  | subFigure =>
    obtain ⟨i, hi, _, hn⟩ := h
    exact ⟨l.figures + 1, (counted (by decide)).ge, i, hi, hn⟩
  | figure | table | equation => exact ⟨_, (counted (by decide)).ge, h.2⟩

/-- The number text that a label gets was not issued before for its target, but for that of a
section. -/
theorem Numbered.fresh {label : Label} (h : l.Numbered frame outer label number)
    (other : label.target ≠ .sect) : ¬ l.Issued label.target number := by
  rw [Numbered] at h
  unfold Issued
  generalize label.target = target at h other
  intro issued
  cases target with
  | sect => exact other rfl
  | subFigure =>
    obtain ⟨i, hi, _, rfl⟩ := h
    obtain ⟨n, hn, j, hj, same⟩ := issued
    obtain ⟨rfl, _⟩ := subFigureNumber_injective hi hj same
    exact Nat.not_succ_le_self _ hn
  | figure | table | equation =>
    obtain ⟨n, hn, same⟩ := issued
    rw [toString_injective (h.2.symm.trans same).symm] at hn
    exact Nat.not_succ_le_self _ hn

/-- No two labels with one target get one number text. -/
theorem Numbered.inj {label label' : Label} (hp : (Frames.paths (frame :: outer)).Nodup)
    (h : l.Numbered frame outer label number) (h' : l.Numbered frame outer label' number)
    (ht : label.target = label'.target) : label = label' := by
  rw [Numbered, ht] at h
  rw [Numbered] at h'
  generalize label'.target = target at h h'
  cases target with
  | sect =>
    obtain ⟨path, hm, rfl⟩ := h
    obtain ⟨path', hm', same⟩ := h'
    cases Session.sectionNumber_injective same
    rw [Frames.paths_eq_map_sections] at hp
    exact Option.some.inj (congrArg Prod.fst (List.inj_on_of_nodup_map hp hm hm' rfl))
  | subFigure =>
    obtain ⟨i, hi, hl, rfl⟩ := h
    obtain ⟨j, hj, hl', same⟩ := h'
    obtain ⟨_, rfl⟩ := subFigureNumber_injective hi hj same
    exact Option.some.inj (Option.some.inj (hl.symm.trans hl'))
  | figure | table | equation => exact Option.some.inj (h.1.symm.trans h'.1)

end Ledger

end Manuscript

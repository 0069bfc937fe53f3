import Manuscript.Proofs.CrossRef.Numbering
import Manuscript.Proofs.Document.Nesting
import Manuscript.Proofs.Document.Refusal

/-!
# The ledger of a document

The ledger holds what a document counts, its labels and images, and of each open element the labels
that wait for its end. Most of what calls do leaves it alone. What they do to it otherwise is said
once, by `Ledger.Step`: an element that begins is pushed and its label attached, and an element that
ends takes a number and gives it to the labels that waited for it.
-/

namespace Manuscript

namespace FrameState

/-- The labels of the sub-figures that have ended inside the element. -/
def members : FrameState → List (Option Label)
  | figureSeries s => s.groups.flatten.map PendingFigure.label
  | _ => []

/-- A series has as many sub-figures as it has labels for. -/
theorem length_members (series : PendingSeries) :
    (figureSeries series).members.length = series.count := List.length_map _

/-- The labels that wait for the end of the element, its own and those of its sub-figures. -/
def carried (state : FrameState) : List Label := state.label?.toList ++ state.members.filterMap id

/-- The position of a section. -/
def path? : FrameState → Option (List Nat)
  | sect _ path => some path
  | _ => none

/-- The state without what the element has gathered, but for the labels of sub-figures. -/
def bare (state : FrameState) : FrameState :=
  match state.shape with
  | figureSeries s => figureSeries { s with page := state.members.map ({ label := · }) }
  | shape => shape

variable {state : FrameState}

@[simp] theorem shape_bare (state : FrameState) : state.bare.shape = state.shape := by
  cases state with
  | macroInvocation signature arguments => simp only [bare, shape, List.length_replicate]
  | _ => rfl

@[simp] theorem members_bare (state : FrameState) : state.bare.members = state.members := by
  cases state with
  | figureSeries s =>
    simp [bare, shape, members, PendingSeries.groups, Function.comp_def]
  | _ => rfl

@[simp] theorem label?_bare (state : FrameState) : state.bare.label? = state.label? := by
  rw [← label?_shape, shape_bare, label?_shape]

@[simp] theorem carried_bare (state : FrameState) : state.bare.carried = state.carried := by
  rw [carried, label?_bare, members_bare, carried]

@[simp] theorem path?_bare (state : FrameState) : state.bare.path? = state.path? := by
  cases state <;> rfl

theorem bare_eq_sect {label : Option Label} {path : List Nat} :
    state.bare = sect label path ↔ state = sect label path := by
  cases state <;> simp [bare, shape]

/-- Whether a change of states keeps them bare as they are. -/
def KeepsBare (change : FrameState → Option FrameState) : Prop :=
  ∀ state next, change state = some next → next.bare = state.bare

/-- What keeps the shape keeps the state bare if a series loses and gains no sub-figures. -/
theorem KeepsShape.keepsBare {change : FrameState → Option FrameState} (h : KeepsShape change)
    (hs : ∀ series next, change (figureSeries series) = some next →
      next.members = (figureSeries series).members) : KeepsBare change := by
  intro state next hc
  have shape := h state next hc
  have members : next.members = state.members := by
    cases state with
    | figureSeries series => exact hs series next hc
    | _ => cases next <;> first | rfl | cases shape
  rw [bare, bare, shape, members]

theorem keepsBare_takeCaption? (caption : Passage) : KeepsBare (takeCaption? caption) := by
  refine (keepsShape_takeCaption? caption).keepsBare fun series next h ↦ ?_
  cases h
  rfl

theorem keepsBare_turnPage? : KeepsBare turnPage? := by
  refine keepsShape_turnPage?.keepsBare fun series next h ↦ ?_
  cases h
  simp only [members, PendingSeries.groups, PendingSeries.turn]
  split
  · rfl
  · simp

theorem bare_takeSubFigure? (figure : PendingFigure) (state : FrameState) :
    (state.takeSubFigure? figure).map bare =
      state.bare.takeSubFigure? { label := figure.label } := by
  cases state with
  | figureSeries s =>
    simp [takeSubFigure?, bare, shape, members, PendingSeries.groups, PendingSeries.add]
  | _ => rfl

/-- What a series does not take keeps states bare if it keeps their shapes. -/
theorem KeepsShape.keepsBare_of_none {change : FrameState → Option FrameState}
    (h : KeepsShape change) (hs : ∀ series, change (figureSeries series) = none) :
    KeepsBare change :=
  h.keepsBare fun series next hc ↦ by rw [hs series] at hc; cases hc

end FrameState

/-- The frame without what the element has gathered, but for the labels of sub-figures. -/
def Frame.bare (frame : Frame) : Frame := { frame with state := frame.state.bare }

namespace Frames

/-- The frames without what the elements have gathered, but for the labels of sub-figures. -/
def bare (frames : Frames) : Frames := frames.map Frame.bare

/-- The labels that wait for the ends of the open elements. -/
def carried (frames : Frames) : List Label := frames.flatMap (·.state.carried)

/-- The frames when a sub-figure with some label has ended inside them: the innermost series has
it. -/
def gather (label : Option Label) (frames : Frames) : Frames :=
  (frames.changeSeries? (FrameState.takeSubFigure? { label })).getD frames

variable {frames : Frames}

@[simp] theorem shape_bare (frames : Frames) : frames.bare.shape = frames.shape := by
  simp [bare, shape, Frame.shape, Frame.bare, Function.comp_def]

theorem nested_bare (frames : Frames) : frames.bare.Nested ↔ frames.Nested := by
  rw [← nested_shape, shape_bare, nested_shape]

@[simp] theorem innermost_bare (frames : Frames) : frames.bare.innermost = frames.innermost := by
  rw [← innermost_shape, shape_bare, innermost_shape]

@[simp] theorem sectionDepth_bare (frames : Frames) :
    frames.bare.sectionDepth = frames.sectionDepth := by
  rw [sectionDepth, bare, List.countP_map]
  rfl

theorem topState?_bare (frames : Frames) :
    frames.bare.topState? = frames.topState?.map FrameState.bare := by
  cases frames <;> rfl

theorem subFigureCount?_bare (frames : Frames) :
    frames.bare.subFigureCount? = frames.subFigureCount? := by
  have found : frames.bare.series? = frames.series?.map FrameState.bare := by
    rw [series?, bare, List.find?_map, Option.map_map, series?, Option.map_map]
    rfl
  rw [subFigureCount?, subFigureCount?, found]
  cases frames.series? with
  | none => rfl
  | some state =>
    cases state with
    | figureSeries s =>
      have count := congrArg List.length (FrameState.members_bare (.figureSeries s))
      rw [FrameState.length_members] at count
      exact congrArg some ((FrameState.length_members _).symm.trans count)
    | _ => rfl

variable {change : FrameState → Option FrameState} {next : Frames}

theorem bare_changeTop? (hc : FrameState.KeepsBare change)
    (h : frames.changeTop? change = some next) : next.bare = frames.bare := by
  cases frames with
  | nil => cases h
  | cons frame outer =>
    obtain ⟨state, hs, rfl⟩ := Option.map_eq_some_iff.mp h
    simp only [bare, List.map_cons, Frame.bare, hc _ _ hs]

/-- A series that takes a sub-figure takes its label. -/
theorem bare_changeSeries?_takeSubFigure? (figure : PendingFigure) (frames : Frames) :
    (frames.changeSeries? (FrameState.takeSubFigure? figure)).map bare =
      frames.bare.changeSeries? (FrameState.takeSubFigure? { label := figure.label }) := by
  induction frames with
  | nil => rfl
  | cons frame outer ih =>
    rw [show bare (frame :: outer) = frame.bare :: bare outer from rfl, changeSeries?,
      changeSeries?]
    by_cases hk : frame.kind = .figureSeries
    · rw [if_pos hk, if_pos (show frame.bare.kind = _ from hk), changeTop?, changeTop?,
        show frame.bare.state = frame.state.bare from rfl, ← FrameState.bare_takeSubFigure?,
        Option.map_map, Option.map_map]
      rfl
    · rw [if_neg hk, if_neg (show ¬ frame.bare.kind = _ from hk), ← ih, Option.map_map,
        Option.map_map]
      rfl

theorem bare_gather (figure : PendingFigure) (frames : Frames) :
    ((frames.changeSeries? (FrameState.takeSubFigure? figure)).getD frames).bare =
      frames.bare.gather figure.label := by
  rw [gather, ← bare_changeSeries?_takeSubFigure?]
  cases frames.changeSeries? (FrameState.takeSubFigure? figure) <;> rfl

end Frames

/-- What a document counts, its labels and images, and the open elements without what they have
gathered, but for the labels of sub-figures. -/
structure Ledger where
  frames : Frames
  sectionPath : List Nat
  figures : Nat
  tables : Nat
  equations : Nat
  labels : Registry
  images : List Path

namespace Document

/-- The ledger of the document. -/
def ledger (d : Document) : Ledger where
  frames := d.frames.bare
  sectionPath := d.sectionPath
  figures := d.figures
  tables := d.tables
  equations := d.equations
  labels := d.labels
  images := d.images

theorem ledger_offer {take : FrameState → Option FrameState} (h : FrameState.KeepsBare take)
    (d : Document) : (d.offer take).ledger = d.ledger := by
  cases hc : d.frames.changeTop? take with
  | none => simp [ledger, offer, hc]
  | some frames => simp [ledger, offer, hc, Frames.bare_changeTop? h hc]

end Document

/-! ### Numbers for labels -/

/-- The number text of the sub-figure at some position in series `number`. -/
def subFigureNumber (number index : Nat) : String :=
  toString number ++ String.singleton (Char.ofNat ('a'.toNat + index))

/-- The numbers for the labels of the sub-figures of series `number`, of which the first is the one
at position `index`. -/
def subFigureNumbers (number index : Nat) : List (Option Label) → List (Label × String)
  | [] => []
  | label :: others =>
    Label.given label (subFigureNumber number index) ++ subFigureNumbers number (index + 1) others

theorem exists_of_mem_subFigureNumbers {number index : Nat} {labels : List (Option Label)}
    {n : Label × String} (h : n ∈ subFigureNumbers number index labels) :
    ∃ i, labels[i]? = some (some n.1) ∧ n.2 = subFigureNumber number (index + i) := by
  induction labels generalizing index with
  | nil => cases h
  | cons label others ih =>
    rw [subFigureNumbers, List.mem_append, Label.mem_given] at h
    rcases h with ⟨rfl, hn⟩ | h
    · exact ⟨0, rfl, hn⟩
    · obtain ⟨i, hl, hn⟩ := ih h
      exact ⟨i + 1, hl, by rw [hn, Nat.add_right_comm, Nat.add_assoc]⟩

theorem map_fst_subFigureNumbers (number index : Nat) (labels : List (Option Label)) :
    (subFigureNumbers number index labels).map Prod.fst = labels.filterMap id := by
  induction labels generalizing index with
  | nil => rfl
  | cons label others ih =>
    rw [subFigureNumbers, List.map_append, Label.map_fst_given, ih]
    cases label <;> rfl

theorem subFigureNumbers_append (number index : Nat) (labels others : List (Option Label)) :
    subFigureNumbers number index (labels ++ others) =
      subFigureNumbers number index labels ++
        subFigureNumbers number (index + labels.length) others := by
  induction labels generalizing index with
  | nil => rfl
  | cons label labels ih =>
    simp only [List.cons_append, subFigureNumbers, ih, List.append_assoc, List.length_cons,
      Nat.add_assoc, Nat.add_comm 1]

/-- The number that a title gives to the section in which it stands. -/
def Frames.titleNumbers (frames : Frames) : List (Label × String) :=
  match frames.topState? with
  | some (.sect label path) => Label.given label (Session.sectionNumber path)
  | _ => []

theorem Frames.exists_of_mem_titleNumbers {frames : Frames} {n : Label × String}
    (h : n ∈ frames.titleNumbers) :
    ∃ frame outer path, frames = frame :: outer ∧ frame.state = .sect (some n.1) path ∧
      n.2 = Session.sectionNumber path := by
  cases frames with
  | nil => cases h
  | cons frame outer =>
    rw [titleNumbers, topState?, List.head?_cons, Option.map_some] at h
    split at h
    · next label path top =>
      obtain ⟨rfl, hn⟩ := Label.mem_given.mp h
      exact ⟨frame, outer, path, rfl, Option.some.inj top, hn⟩
    · cases h

theorem Frames.sublist_fst_titleNumbers (frames : Frames) :
    (frames.titleNumbers.map Prod.fst).Sublist frames.carried := by
  cases frames with
  | nil => exact List.nil_sublist _
  | cons frame outer =>
    rw [titleNumbers, topState?, List.head?_cons, Option.map_some]
    split
    · next label path top =>
      rw [Label.map_fst_given, carried, List.flatMap_cons, FrameState.carried,
        show frame.state.label? = label by rw [Option.some.inj top]; rfl, List.append_assoc]
      exact List.sublist_append_left _ _
    · exact List.nil_sublist _

theorem Frames.titleNumbers_bare (frames : Frames) :
    frames.bare.titleNumbers = frames.titleNumbers := by
  rw [titleNumbers, titleNumbers, topState?_bare]
  cases frames.topState? with
  | none => rfl
  | some state => cases state <;> rfl

namespace Ledger

/-- The ledger when an element that has been taken off is counted, and a sub-figure handed to its
series. -/
def count (l : Ledger) (state : FrameState) : Ledger :=
  match state with
  | .figure _ | .figureSeries _ => { l with figures := l.figures + 1 }
  | .subFigure figure => { l with frames := l.frames.gather figure.label }
  | .table _ => { l with tables := l.tables + 1 }
  | .equation _ => { l with equations := l.equations + 1 }
  | _ => l

/-- The ledger when an element inside others has been taken off and counted. -/
def takeOff (l : Ledger) (frame : Frame) (outer : Frames) : Ledger :=
  ({ l with frames := outer } : Ledger).count frame.state

/-- The numbers that are given to labels when an element has been taken off and counted: to the own
label of the element, to those of the sub-figures of a series, and to the label of the section
around a title. -/
def numbers (l : Ledger) (frame : Frame) : List (Label × String) :=
  match frame.state with
  | .plain => if frame.kind = .sectionTitle then l.frames.titleNumbers else []
  | .sect label path => Label.given label (Session.sectionNumber path)
  | .figure figure => Label.given figure.label (toString l.figures)
  | .figureSeries series =>
    Label.given series.label (toString l.figures) ++
      subFigureNumbers l.figures 0 (FrameState.figureSeries series).members
  | .table table => Label.given table.label (toString l.tables)
  | .equation label => Label.given label (toString l.equations)
  | _ => []

/-- The ledger when labels have been numbered and images stored. -/
def settle (l : Ledger) (numbers : List (Label × String)) (stored : List Path) : Ledger :=
  { l with labels := l.labels.number numbers, images := l.images ++ stored }

/-- The ledger when an element has been begun with some frame. -/
def push (l : Ledger) (frame : Frame) : Ledger :=
  { l with
    frames := frame.bare :: l.frames
    sectionPath := frame.state.path?.getD l.sectionPath
    labels := frame.state.label?.elim l.labels l.labels.attach }

/-- The frame is one with which the element may be begun. -/
structure Admits (l : Ledger) (element : Element) (frame : Frame) : Prop where
  kind : frame.kind = element.kind
  allowed : element.kind.allowedIn l.frames.innermost = true
  fresh : frame.state.shape = frame.state
  label : frame.state.label? = element.label?
  attachable : ∀ label ∈ element.label?, l.labels.attachFault label element.kind = none
  /-- A series that a sub-figure begins in has room for it. -/
  room : element.kind = .subFigure →
    ∀ count ∈ l.frames.subFigureCount?, count < Limit.maxSubFigures
  /-- A section takes the next position at its depth. -/
  position : ∀ path ∈ frame.state.path?, l.frames.sectionDepth < Limit.maxSectionDepth ∧
    path = Document.nextSectionPath l.sectionPath (l.frames.sectionDepth + 1)

/-- The labels that get numbers wait for the end of the element, or of one around it. -/
theorem sublist_fst_numbers (l : Ledger) (frame : Frame) :
    (((l.count frame.state).numbers frame).map Prod.fst).Sublist
      (frame.state.carried ++ l.frames.carried) := by
  obtain ⟨kind, captured, state⟩ := frame
  have own {label : Option Label} {number : String} (hl : state.label? = label) :
      ((Label.given label number).map Prod.fst).Sublist (state.carried ++ l.frames.carried) := by
    rw [Label.map_fst_given, FrameState.carried, hl, List.append_assoc]
    exact List.sublist_append_left _ _
  cases state with
  | plain =>
    change ((if kind = .sectionTitle then l.frames.titleNumbers else []).map Prod.fst).Sublist _
    split
    · exact (l.frames.sublist_fst_titleNumbers).trans (List.sublist_append_right _ _)
    · exact List.nil_sublist _
  | figureSeries series =>
    change ((Label.given series.label _ ++ subFigureNumbers _ 0 _).map Prod.fst).Sublist _
    rw [List.map_append, Label.map_fst_given, map_fst_subFigureNumbers]
    exact List.sublist_append_left _ _
  | sect | figure | table | equation => exact own rfl
  | _ => exact List.nil_sublist _

/-- A label that gets a number waits for the end of the element, or of one around it. -/
theorem mem_carried_of_mem_numbers {l : Ledger} {frame : Frame} {outer : Frames}
    {n : Label × String} (hf : l.frames = frame :: outer)
    (h : n ∈ (l.takeOff frame outer).numbers frame) : n.1 ∈ l.frames.carried := by
  have waits := (sublist_fst_numbers { l with frames := outer } frame).subset
    (List.mem_map_of_mem h)
  rw [hf]
  exact waits

/-- Every label that waits for the end of an element gets a number then, but for that of a
sub-figure. -/
theorem exists_number_of_mem_carried {l : Ledger} {frame : Frame} {label : Label}
    (suits : frame.state.suits frame.kind = true) (other : frame.kind ≠ .subFigure)
    (h : label ∈ frame.state.carried) :
    ∃ n ∈ (l.count frame.state).numbers frame, n.1 = label := by
  obtain ⟨kind, captured, state⟩ := frame
  have given {numbers : List (Label × String)} (hm : numbers.map Prod.fst = state.carried) :
      ∃ n ∈ numbers, n.1 = label := List.mem_map.mp (hm ▸ h)
  cases state with
  | sect | figure | table | equation =>
    exact given ((Label.map_fst_given _ _).trans (List.append_nil _).symm)
  | figureSeries series =>
    refine given ?_
    change (Label.given series.label _ ++ subFigureNumbers _ 0 _).map Prod.fst = _
    rw [List.map_append, Label.map_fst_given, map_fst_subFigureNumbers]
    rfl
  | subFigure figure => exact absurd (eq_of_beq suits) other
  | _ => cases h

/-- How the end of an element can be refused that has been taken off. -/
inductive Fails (l : Ledger) (frame : Frame) : DocumentError → Ledger → Prop where
  /-- A picture cannot be stored: the figure has been counted, and the first of the labels have got
  their numbers. -/
  | picture {reason : IoError} {given : List (Label × String)} (stored : List Path) :
    frame.kind = .figure ∨ frame.kind = .figureSeries →
      given <+: (l.count frame.state).numbers frame →
        Fails l frame (.io reason) ((l.count frame.state).settle given stored)
  /-- An operator has a number of operands that it does not take. -/
  | operands {operator : Operator} {found : Nat} :
    frame.kind = .mathOp → Fails l frame (.operandCount operator found) l

/-- What a call can do to a ledger, with its answer. -/
inductive Step (l : Ledger) : Call → Except DocumentError Reply → Ledger → Prop where
  /-- A call that is refused leaves the ledger, if it is no end or an unbalanced one. -/
  | refused {call : Call} {error : DocumentError} :
    (∀ kind, call = .endElement kind → ∃ innermost, error = .unbalancedEnd innermost kind) →
      Step l call (.error error) l
  /-- What writes into the innermost element leaves the ledger. -/
  | written {call : Call} {reply : Reply} :
    (∀ target, call ≠ .createLabel target) → (∀ element, call ≠ .beginElement element) →
      (∀ kind, call ≠ .endElement kind) → Step l call (.ok reply) l
  | created (target : Target) :
    Step l (.createLabel target) (.ok (.label (l.labels.create target).1))
      { l with labels := (l.labels.create target).2 }
  | begun {element : Element} {frame : Frame} : l.Admits element frame →
    Step l (.beginElement element) (.ok .done) (l.push frame)
  | ended {frame : Frame} {outer : Frames} (stored : List Path) : l.frames = frame :: outer →
    Step l (.endElement frame.kind) (.ok .done)
      ((l.takeOff frame outer).settle ((l.takeOff frame outer).numbers frame) stored)
  | failed {frame : Frame} {outer : Frames} {error : DocumentError} {l' : Ledger} :
    l.frames = frame :: outer → Fails { l with frames := outer } frame error l' →
      Step l (.endElement frame.kind) (.error error) l'

end Ledger

end Manuscript

import Manuscript.Proofs.Document.Streaming
import Manuscript.Proofs.Macro.Concatenation
import Mathlib.Data.Option.Basic

/-!
# Documents that are alike

Two documents may differ in their markup and agree in everything else: a `Likeness` says which markup
corresponds. Whatever looks at a document without looking at its markup sees the same in both, and
what is handed from one element to another stays alike.
-/

namespace Manuscript

/-- What is numbered in a document. -/
inductive Counter where
  | figures
  | tables
  | equations
  deriving DecidableEq, Repr

/-- How much has been numbered. -/
def Document.count (d : Document) : Counter → Nat
  | .figures => d.figures
  | .tables => d.tables
  | .equations => d.equations

/-- How the markup of two documents may differ. -/
structure Likeness where
  /-- Markup that corresponds. -/
  markup : String → String → Prop
  /-- The start of a line in one document and in the other. -/
  lineBreak : String → String → Prop
  /-- The markup of a float with its number, on a line of its own. -/
  float : Counter → Nat → String → String → Prop

variable {L : Likeness}

/-! ### What documents are made of -/

/-- The markup corresponds, and the plain text is the same. -/
structure Passage.Alike (L : Likeness) (p p' : Passage) : Prop where
  markup : L.markup p.markup p'.markup
  text : p.text = p'.text

/-- Figures show the same picture, or markup that corresponds. -/
inductive FigureContent.Alike (L : Likeness) : FigureContent → FigureContent → Prop where
  | empty : Alike L .empty .empty
  | markup {m m' : String} : L.markup m m' → Alike L (.markup m) (.markup m')
  | raster (canvas : Canvas) : Alike L (.raster canvas) (.raster canvas)

structure PendingFigure.Alike (L : Likeness) (f f' : PendingFigure) : Prop where
  label : f.label = f'.label
  content : f.content.Alike L f'.content
  caption : f.caption.Alike L f'.caption

structure PendingSeries.Alike (L : Likeness) (s s' : PendingSeries) : Prop where
  label : s.label = s'.label
  columns : s.columns = s'.columns
  caption : s.caption.Alike L s'.caption
  pages : List.Forall₂ (List.Forall₂ (PendingFigure.Alike L)) s.pages s'.pages
  page : List.Forall₂ (PendingFigure.Alike L) s.page s'.page

structure PendingTable.Alike (L : Likeness) (t t' : PendingTable) : Prop where
  label : t.label = t'.label
  columns : t.columns = t'.columns
  caption : t.caption.Alike L t'.caption
  header : Option.Rel L.markup t.header t'.header
  footer : Option.Rel L.markup t.footer t'.footer

/-- Open elements have gathered the same, in markup that corresponds. -/
inductive FrameState.Alike (L : Likeness) : FrameState → FrameState → Prop where
  | plain : Alike L .plain .plain
  | sect (label : Option Label) (path : List Nat) : Alike L (.sect label path) (.sect label path)
  | figure {f f' : PendingFigure} : f.Alike L f' → Alike L (.figure f) (.figure f')
  | subFigure {f f' : PendingFigure} : f.Alike L f' → Alike L (.subFigure f) (.subFigure f')
  | figureBody (width height : Nat) (canvas : Option Canvas) :
    Alike L (.figureBody width height canvas) (.figureBody width height canvas)
  | figureSeries {s s' : PendingSeries} : s.Alike L s' → Alike L (.figureSeries s) (.figureSeries s')
  | table {t t' : PendingTable} : t.Alike L t' → Alike L (.table t) (.table t')
  | tableRow (header : Bool) (column : Nat) :
    Alike L (.tableRow header column) (.tableRow header column)
  | tableCell (header : Bool) : Alike L (.tableCell header) (.tableCell header)
  | equation (label : Option Label) : Alike L (.equation label) (.equation label)
  | mathOp (operator : Operator) {operands operands' : List Passage} :
    List.Forall₂ (Passage.Alike L) operands operands' →
      Alike L (.mathOp operator operands) (.mathOp operator operands')
  | macroDefinition (signature : Macro.Signature) :
    Alike L (.macroDefinition signature) (.macroDefinition signature)
  | macroInvocation (signature : Macro.Signature) {arguments arguments' : List (Option Passage)} :
    List.Forall₂ (Option.Rel (Passage.Alike L)) arguments arguments' →
      Alike L (.macroInvocation signature arguments) (.macroInvocation signature arguments')
  | argument (index : Nat) : Alike L (.argument index) (.argument index)
  | styled (style : InlineStyle) : Alike L (.styled style) (.styled style)
  | list (ordered : Bool) : Alike L (.list ordered) (.list ordered)

structure Frame.Alike (L : Likeness) (frame frame' : Frame) : Prop where
  kind : frame.kind = frame'.kind
  captured : frame.captured = frame'.captured
  state : frame.state.Alike L frame'.state

structure Head.Alike (L : Likeness) (head head' : Head) : Prop where
  title : Option.Rel (Passage.Alike L) head.title head'.title
  authors : List.Forall₂ (Passage.Alike L) head.authors head'.authors
  date : Option.Rel (Passage.Alike L) head.date head'.date

/-- Macros have bodies that are alike. -/
def Macro.Definition.Alike (L : Likeness) (definition definition' : Macro.Definition) : Prop :=
  ∃ body body' : Passage, body.Alike L body' ∧
    definition = ⟨.parse body.markup, .parse body.text⟩ ∧
    definition' = ⟨.parse body'.markup, .parse body'.text⟩

def Macro.Library.Alike (L : Likeness) (library library' : Macro.Library) : Prop :=
  List.Forall₂ (fun entry entry' ↦ entry.1 = entry'.1 ∧ entry.2.Alike L entry'.2)
    library.definitions library'.definitions

/-- The document without its markup and without the way it is laid out. -/
def Document.core (d : Document) : Document :=
  { d with
    settings := { d.settings with humanReadable := false }
    output := {}
    frames := []
    head := {}
    macros := {} }

/-- Two documents that differ in their markup alone. `Q` relates what has reached their roots, with
the numbers that have been given. -/
structure Document.Alike (L : Likeness) (Q : (Counter → Nat) → String → String → Prop)
    (d d' : Document) : Prop where
  core : d.core = d'.core
  lines : ∀ depth, L.lineBreak ({ d with tagDepth := depth } : Document).lineBreak
    ({ d' with tagDepth := depth } : Document).lineBreak
  frames : List.Forall₂ (Frame.Alike L) d.frames d'.frames
  captures : List.Forall₂ (Passage.Alike L) d.output.captures d'.output.captures
  head : d.head.Alike L d'.head
  macros : d.macros.Alike L d'.macros
  root : Q d.count d.output.whole d'.output.whole

/-- What corresponds still does when it is changed in the same way, if it is there. -/
theorem optionRel_map {α β γ δ : Type} {R : α → β → Prop} {S : γ → δ → Prop} {item : Option α}
    {item' : Option β} {f : α → γ} {g : β → δ} (h : Option.Rel R item item')
    (hf : ∀ a b, R a b → S (f a) (g b)) : Option.Rel S (item.map f) (item'.map g) := by
  cases h with
  | none => exact .none
  | some h => exact .some (hf _ _ h)

theorem map_eq_of_forall₂ {α β : Type} {R : α → α → Prop} {f : α → β} {items items' : List α}
    (h : List.Forall₂ R items items') (hf : ∀ a b, R a b → f a = f b) :
    items.map f = items'.map f := by
  rw [← List.forall₂_eq_eq_eq, List.forall₂_map_left_iff, List.forall₂_map_right_iff]
  exact h.imp hf

theorem optionMap_eq_of_rel {α β : Type} {R : α → α → Prop} {f : α → β} {item item' : Option α}
    (h : Option.Rel R item item') (hf : ∀ a b, R a b → f a = f b) : item.map f = item'.map f := by
  cases h with
  | none => rfl
  | some h => exact congrArg some (hf _ _ h)

theorem isEmpty_eq_of_forall₂ {α β : Type} {R : α → β → Prop} {items : List α} {items' : List β}
    (h : List.Forall₂ R items items') : items.isEmpty = items'.isEmpty := by
  cases h <;> rfl

theorem optionMap_text_eq {title title' : Option Passage}
    (h : Option.Rel (Passage.Alike L) title title') :
    title.map Passage.text = title'.map Passage.text :=
  optionMap_eq_of_rel h fun _ _ hp ↦ hp.text

theorem map_text_eq {passages passages' : List Passage}
    (h : List.Forall₂ (Passage.Alike L) passages passages') :
    passages.map Passage.text = passages'.map Passage.text :=
  map_eq_of_forall₂ h fun _ _ hp ↦ hp.text

theorem forall₂_map_markup {passages passages' : List Passage}
    (h : List.Forall₂ (Passage.Alike L) passages passages') :
    List.Forall₂ L.markup (passages.map Passage.markup) (passages'.map Passage.markup) := by
  rw [List.forall₂_map_left_iff, List.forall₂_map_right_iff]
  exact h.imp fun _ _ hp ↦ hp.markup

/-- Corresponding items may be put in place of corresponding ones. -/
theorem forall₂_set {α β : Type} {R : α → β → Prop} {items : List α} {items' : List β} {item : α}
    {item' : β} (h : List.Forall₂ R items items') (hi : R item item') (index : Nat) :
    List.Forall₂ R (items.set index item) (items'.set index item') := by
  induction h generalizing index with
  | nil => exact .nil
  | cons first rest ih =>
    cases index with
    | zero => exact .cons hi rest
    | succ index => exact .cons first (ih index)

/-- Markup that corresponds may be put together. -/
abbrev Likeness.Joins (L : Likeness) : Prop := Markup.Joining L.markup

theorem Likeness.Joins.getD (h : L.Joins) {m m' : Option String} (hm : Option.Rel L.markup m m') :
    L.markup (m.getD "") (m'.getD "") := by
  cases hm with
  | none => exact h.empty
  | some hm => exact hm

/-! ### Open elements -/

theorem PendingSeries.Alike.turn {s s' : PendingSeries} (h : s.Alike L s') :
    s.turn.Alike L s'.turn := by
  unfold PendingSeries.turn
  rw [isEmpty_eq_of_forall₂ h.page]
  split
  · exact h
  · exact { h with pages := List.rel_append h.pages (.cons h.page .nil), page := .nil }

theorem PendingSeries.Alike.groups {s s' : PendingSeries} (h : s.Alike L s') :
    List.Forall₂ (List.Forall₂ (PendingFigure.Alike L)) s.groups s'.groups :=
  List.rel_append h.pages (.cons h.page .nil)

theorem PendingSeries.Alike.count_eq {s s' : PendingSeries} (h : s.Alike L s') :
    s.count = s'.count := (List.rel_flatten h.groups).length_eq

namespace FrameState

/-- What is done to states that are alike leaves states that are alike, or is done to neither. -/
def TakesAlike (L : Likeness) (take take' : FrameState → Option FrameState) : Prop :=
  ∀ ⦃state state'⦄, Alike L state state' → Option.Rel (Alike L) (take state) (take' state')

variable {caption caption' content content' : Passage} {markup markup' : String}

theorem takesAlike_caption (h : caption.Alike L caption') :
    TakesAlike L (takeCaption? caption) (takeCaption? caption') := by
  rintro _ _ (_ | _ | hf | hf | _ | hf | hf | _) <;> constructor
  · exact .figure { hf with caption := h }
  · exact .subFigure { hf with caption := h }
  · exact .figureSeries { hf with caption := h }
  · exact .table { hf with caption := h }

theorem takesAlike_figureBody {content content' : FigureContent} (h : content.Alike L content') :
    TakesAlike L (takeFigureBody? content) (takeFigureBody? content') := by
  rintro _ _ (_ | _ | hf | hf | _) <;> constructor
  · exact .figure { hf with content := h }
  · exact .subFigure { hf with content := h }

theorem takesAlike_tableHeader (hL : L.Joins) (h : L.markup markup markup') :
    TakesAlike L (takeTableHeader? markup) (takeTableHeader? markup') := by
  rintro _ _ (_ | _ | _ | _ | _ | _ | ht | _) <;> constructor
  exact .table { ht with header := .some (hL.append (hL.getD ht.header) h) }

theorem takesAlike_tableFooter (hL : L.Joins) (h : L.markup markup markup') :
    TakesAlike L (takeTableFooter? markup) (takeTableFooter? markup') := by
  rintro _ _ (_ | _ | _ | _ | _ | _ | ht | _) <;> constructor
  exact .table { ht with footer := .some (hL.append (hL.getD ht.footer) h) }

theorem takesAlike_operand (h : content.Alike L content') :
    TakesAlike L (takeOperand? content) (takeOperand? content') := by
  rintro _ _ (_ | _ | _ | _ | _ | _ | _ | _ | _ | _ | ⟨operator, ho⟩ | _) <;> constructor
  exact .mathOp operator (List.rel_append ho (.cons h .nil))

theorem takesAlike_argument (index : Nat) (h : content.Alike L content') :
    TakesAlike L (takeArgument? index content) (takeArgument? index content') := by
  rintro _ _ (_ | _ | _ | _ | _ | _ | _ | _ | _ | _ | _ | _ | ⟨signature, ha⟩ | _)
  case macroInvocation =>
    simp only [takeArgument?, ha.length_eq]
    split
    · exact .some (.macroInvocation signature (forall₂_set ha (.some h) index))
    · exact .none
  all_goals constructor

theorem takesAlike_subFigure {figure figure' : PendingFigure} (h : figure.Alike L figure') :
    TakesAlike L (takeSubFigure? figure) (takeSubFigure? figure') := by
  rintro _ _ (_ | _ | _ | _ | _ | hs | _) <;> constructor
  exact .figureSeries { hs with page := List.rel_append hs.page (.cons h .nil) }

theorem takesAlike_turnPage : TakesAlike L turnPage? turnPage? := by
  rintro _ _ (_ | _ | _ | _ | _ | hs | _) <;> constructor
  exact .figureSeries hs.turn

theorem takesAlike_advance (columns : Nat) : TakesAlike L (advance? columns) (advance? columns) := by
  rintro _ _ (_ | _ | _ | _ | _ | _ | _ | _ | _) <;> constructor
  exact .tableRow _ _

theorem takesAlike_paint (fills : List Fill) : TakesAlike L (takePaint? fills) (takePaint? fills) := by
  rintro _ _ (_ | _ | _ | _ | _ | _) <;> constructor
  exact .figureBody _ _ _

end FrameState

namespace Frames

variable {frames frames' : Frames}

theorem innermost_eq (h : List.Forall₂ (Frame.Alike L) frames frames') :
    frames.innermost = frames'.innermost := by
  cases h with
  | nil => rfl
  | cons first rest => exact congrArg some first.kind

theorem topState?_alike (h : List.Forall₂ (Frame.Alike L) frames frames') :
    Option.Rel (FrameState.Alike L) frames.topState? frames'.topState? := by
  cases h with
  | nil => exact .none
  | cons first rest => exact .some first.state

theorem sectionDepth_eq (h : List.Forall₂ (Frame.Alike L) frames frames') :
    frames.sectionDepth = frames'.sectionDepth := by
  induction h with
  | nil => rfl
  | cons first rest ih =>
    simp only [sectionDepth, List.countP_cons, first.kind] at ih ⊢
    rw [ih]

theorem subFigureCount?_eq (h : List.Forall₂ (Frame.Alike L) frames frames') :
    frames.subFigureCount? = frames'.subFigureCount? := by
  have series : Option.Rel (FrameState.Alike L) frames.series? frames'.series? := by
    induction h with
    | nil => exact .none
    | cons first rest ih =>
      simp only [series?, List.find?_cons, first.kind] at ih ⊢
      split
      · exact .some first.state
      · exact ih
  unfold subFigureCount?
  revert series
  generalize frames.series? = state
  generalize frames'.series? = state'
  rintro (⟨_ | _ | _ | _ | _ | hs | _⟩ | _) <;> try rfl
  exact congrArg some hs.count_eq

theorem definition?_eq_of_alike (h : List.Forall₂ (Frame.Alike L) frames frames') :
    frames.definition? = frames'.definition? := by
  induction h with
  | nil => rfl
  | @cons frame frame' outer outer' first rest ih =>
    obtain ⟨kind, captured, state⟩ := frame
    obtain ⟨kind', captured', state'⟩ := frame'
    simp only [definition?, List.findSome?_cons] at ih ⊢
    cases (first.state : FrameState.Alike L state state') with
    | macroDefinition => rfl
    | _ => exact ih

theorem columnAlignment?_eq (h : List.Forall₂ (Frame.Alike L) frames frames') (column : Nat) :
    frames.columnAlignment? column = frames'.columnAlignment? column := by
  induction h with
  | nil => rfl
  | @cons frame frame' outer outer' first rest ih =>
    obtain ⟨kind, captured, state⟩ := frame
    obtain ⟨kind', captured', state'⟩ := frame'
    simp only [columnAlignment?, List.findSome?_cons] at ih ⊢
    cases (first.state : FrameState.Alike L state state') with
    | table ht => simp only [ht.columns, ih]
    | _ => exact ih

variable {take take' : FrameState → Option FrameState}

theorem changeTop?_alike (ht : FrameState.TakesAlike L take take')
    (h : List.Forall₂ (Frame.Alike L) frames frames') :
    Option.Rel (List.Forall₂ (Frame.Alike L)) (frames.changeTop? take)
      (frames'.changeTop? take') := by
  cases h with
  | nil => exact .none
  | cons first rest =>
    exact optionRel_map (ht first.state) fun _ _ hs ↦ .cons { first with state := hs } rest

theorem changeSeries?_alike (ht : FrameState.TakesAlike L take take')
    (h : List.Forall₂ (Frame.Alike L) frames frames') :
    Option.Rel (List.Forall₂ (Frame.Alike L)) (frames.changeSeries? take)
      (frames'.changeSeries? take') := by
  induction h with
  | nil => exact .none
  | cons first rest ih =>
    simp only [changeSeries?, first.kind]
    split
    · exact changeTop?_alike ht (.cons first rest)
    · exact optionRel_map ih fun _ _ hr ↦ .cons first hr

/-- What is handed on is lost in both documents or in neither. -/
theorem getD_alike {changed changed' : Option Frames}
    (hc : Option.Rel (List.Forall₂ (Frame.Alike L)) changed changed')
    (h : List.Forall₂ (Frame.Alike L) frames frames') :
    List.Forall₂ (Frame.Alike L) (changed.getD frames) (changed'.getD frames') := by
  cases hc with
  | none => exact h
  | some hc => exact hc

end Frames

/-! ### Documents -/

/-- `Q` stays with what reaches the root: markup that corresponds, and floats, each with the next
number. The numbers that are `aside` may be missing at the root; their floats are markup like any
other. -/
structure Likeness.Follows (L : Likeness) (aside : Counter → Nat → Prop)
    (Q : (Counter → Nat) → String → String → Prop) : Prop where
  append : ∀ {count whole whole' m m'}, Q count whole whole' → L.markup m m' →
    Q count (whole ++ m) (whole' ++ m')
  float : ∀ {count whole whole' counter m m'}, Q count whole whole' →
    L.float counter (count counter + 1) m m' →
      Q (Function.update count counter (count counter + 1)) (whole ++ m) (whole' ++ m')
  skip : ∀ {count whole whole' counter}, Q count whole whole' →
    aside counter (count counter + 1) →
      Q (Function.update count counter (count counter + 1)) whole whole'
  markup : ∀ {counter number m m'}, aside counter number → L.float counter number m m' →
    L.markup m m'

namespace Document.Alike

variable {Q Q' : (Counter → Nat) → String → String → Prop} {d d' : Document}

/-- What has reached the root may be related in another way. -/
theorem rooted (h : d.Alike L Q d') (hq : Q' d.count d.output.whole d'.output.whole) :
    d.Alike L Q' d' := { h with root := hq }

/-- What does not show the markup is the same. -/
theorem same {γ : Type} (h : d.Alike L Q d') (view : Document → γ)
    (hv : ∀ d : Document, view d.core = view d) : view d = view d' := by
  rw [← hv d, h.core, hv]

theorem count_eq (h : d.Alike L Q d') : d.count = d'.count :=
  h.same Document.count fun _ ↦ funext fun counter ↦ by cases counter <;> rfl

theorem innermost_eq (h : d.Alike L Q d') : d.innermost = d'.innermost :=
  Frames.innermost_eq h.frames

theorem lineBreak (h : d.Alike L Q d') : L.lineBreak d.lineBreak d'.lineBreak := by
  have depth : ({ d' with tagDepth := d.tagDepth } : Document) = d' := by
    rw [h.same Document.tagDepth fun _ ↦ rfl]
  have line := h.lines d.tagDepth
  rwa [depth] at line

/-- A change of what does not show the markup keeps documents alike. -/
theorem note {f : Document → Document} (h : d.Alike L Q d')
    (hf : ∀ (d : Document) settings output frames head macros,
      f { d with settings, output, frames, head, macros } =
        { f d with settings, output, frames, head, macros })
    (hq : Q' (f d).count d.output.whole d'.output.whole) : (f d).Alike L Q' (f d') := by
  have own (d : Document) : f d =
      { f d with
        settings := d.settings, output := d.output, frames := d.frames, head := d.head
        macros := d.macros } := hf d _ _ _ _ _
  have core (d : Document) : (f d).core = f d.core := by
    rw [Document.core, congrArg Document.settings (own d)]
    exact (hf d _ _ _ _ _).symm
  constructor
  case core => rw [core, core, h.core]
  case lines =>
    intro depth
    rw [own d, own d']
    exact h.lines depth
  case frames =>
    rw [own d, own d']
    exact h.frames
  case captures =>
    rw [own d, own d']
    exact h.captures
  case head =>
    rw [own d, own d']
    exact h.head
  case macros =>
    rw [own d, own d']
    exact h.macros
  case root =>
    rw [own d] at hq ⊢
    rw [own d']
    exact hq

/-- What is written reaches the root in both documents or in neither. -/
theorem append (h : d.Alike L Q d') {p p' : Passage} (hL : L.Joins)
    (hp : d.output.captures ≠ [] → p.Alike L p')
    (root : Q' d.count (d.output.whole ++ if d.output.captures = [] then p.markup else "")
      (d'.output.whole ++ if d.output.captures = [] then p'.markup else "")) :
    (d.append p).Alike L Q' (d'.append p') := by
  have captures := h.captures
  refine ⟨h.core, h.lines, h.frames, ?_, h.head, h.macros, ?_⟩
  · unfold Document.append Output.write
    cases hd : d.output.captures <;> cases hd' : d'.output.captures <;> rw [hd, hd'] at captures <;>
      cases captures
    · exact .nil
    · next first rest =>
      have held := hp (by simp [hd])
      exact .cons ⟨hL.append first.markup held.markup, congrArg₂ (· ++ ·) first.text held.text⟩ rest
  · have depth : d'.output.captures.length = d.output.captures.length := h.captures.length_eq.symm
    have whole (output : Output) (p : Passage) := output.whole_write p
    change Q' d.count (d.output.write p).whole (d'.output.write p').whole
    rw [whole, whole, depth]
    simpa only [List.length_eq_zero_iff] using root

/-- Markup that corresponds may be written into both documents. -/
theorem write (h : d.Alike L Q d') {aside : Counter → Nat → Prop} {p p' : Passage} (hL : L.Joins)
    (hQ : L.Follows aside Q) (hp : p.Alike L p') : (d.append p).Alike L Q (d'.append p') := by
  refine h.append hL (fun _ ↦ hp) (hQ.append h.root ?_)
  split
  · exact hp.markup
  · exact hL.empty

/-- Frames may be changed in both documents. -/
theorem withFrames (h : d.Alike L Q d') {frames frames' : Frames}
    (hf : List.Forall₂ (Frame.Alike L) frames frames') :
    ({ d with frames } : Document).Alike L Q { d' with frames := frames' } := { h with frames := hf }

variable {take take' : FrameState → Option FrameState}

theorem offer (h : d.Alike L Q d') (ht : FrameState.TakesAlike L take take') :
    (d.offer take).Alike L Q (d'.offer take') :=
  h.withFrames (Frames.getD_alike (Frames.changeTop?_alike ht h.frames) h.frames)

theorem offerSeries (h : d.Alike L Q d') (ht : FrameState.TakesAlike L take take') :
    (d.offerSeries take).Alike L Q (d'.offerSeries take') :=
  h.withFrames (Frames.getD_alike (Frames.changeSeries?_alike ht h.frames) h.frames)

theorem stream (h : d.Alike L Q d') : d.stream.Alike L Q d'.stream := by
  refine ⟨h.core, h.lines, h.frames, ?_, h.head, h.macros, ?_⟩
  · simpa [Document.stream] using h.captures
  · change Q d.count d.output.stream.whole d'.output.stream.whole
    simpa using h.root

/-- What has been held back is handed over in both documents or in neither. -/
theorem release? (h : d.Alike L Q d') :
    Option.Rel (fun released released' : Passage × Output ↦ released.1.Alike L released'.1 ∧
      ({ d with output := released.2 } : Document).Alike L Q { d' with output := released'.2 })
      d.output.release? d'.output.release? := by
  have captures := h.captures
  unfold Output.release?
  cases hd : d.output.captures <;> cases hd' : d'.output.captures <;> rw [hd, hd'] at captures <;>
    cases captures
  · exact .none
  · next first rest => exact .some ⟨first, { h with captures := rest, root := h.root }⟩

theorem push (h : d.Alike L Q d') (hL : L.Joins) {frame frame' : Frame} (hf : frame.Alike L frame') :
    (d.push frame).Alike L Q (d'.push frame') := by
  refine ⟨?_, h.lines, .cons hf h.frames, ?_, h.head, h.macros, ?_⟩
  · exact congrArg (fun d : Document ↦ { d with tagDepth := d.tagDepth + 1 }) h.core
  · unfold Document.push
    rw [hf.captured]
    split
    · exact .cons ⟨hL.empty, rfl⟩ h.captures
    · exact h.captures
  · unfold Document.push
    rw [hf.captured]
    split
    · exact h.root
    · exact h.root

end Document.Alike

end Manuscript

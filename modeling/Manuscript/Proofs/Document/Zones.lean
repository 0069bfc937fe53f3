import Manuscript.Proofs.Document.Reception
import Manuscript.Proofs.Document.Strings

/-!
# Zones of macro definitions

Everything that an open element has written and gathered lies in the zone of the innermost macro
definition around it, and may hold markers of the parameters of that definition; outside of all
definitions there are no markers (`Document.Tidy`). `P height index` says of which parameters a
definition with `height` elements around it may hold markers. What else may be there is up to the
orthography.
-/

namespace Manuscript

open Markup

/-- The innermost macro definition: the number of elements open around it, and its signature. -/
def Frames.innermostDefinition? : Frames → Option (Nat × Macro.Signature)
  | [] => none
  | frame :: outer =>
    match frame.state with
    | .macroDefinition signature => some (outer.length, signature)
    | _ => innermostDefinition? outer

/-- The parameters that may have markers inside a definition, if there is one. -/
def Macro.zone (P : Nat → Nat → Prop) (definition : Option (Nat × Signature)) (index : Nat) :
    Prop :=
  ∃ height signature, definition = some (height, signature) ∧ index < signature.arity ∧
    P height index

/-- Only a macro definition has the state of one. -/
theorem FrameState.ne_macroDefinition_of_suits {state : FrameState} {kind : Kind}
    (h : state.suits kind = true) (hk : kind ≠ .macroDefinition) (signature : Macro.Signature) :
    state ≠ .macroDefinition signature := by
  rintro rfl
  exact hk (eq_of_beq h)

namespace Frames

theorem innermostDefinition?_cons {frame : Frame} (outer : Frames)
    (h : ∀ signature, frame.state ≠ .macroDefinition signature) :
    innermostDefinition? (frame :: outer) = outer.innermostDefinition? := by
  rw [innermostDefinition?]
  split
  · next signature hs => exact absurd hs (h signature)
  · rfl

theorem definition?_eq (frames : Frames) :
    frames.definition? = frames.innermostDefinition?.map Prod.snd := by
  induction frames with
  | nil => rfl
  | cons frame outer ih =>
    rw [definition?, List.findSome?_cons, innermostDefinition?, ← definition?, ih]
    cases frame.state <;> rfl

@[simp] theorem innermostDefinition?_shape (frames : Frames) :
    frames.shape.innermostDefinition? = frames.innermostDefinition? := by
  induction frames with
  | nil => rfl
  | cons frame outer ih =>
    rw [innermostDefinition?, ← ih]
    change innermostDefinition? (frame.shape :: shape outer) = _
    rw [innermostDefinition?, length_shape, Frame.shape]
    cases frame.state <;> rfl

theorem lt_length_of_innermostDefinition? {frames : Frames} {height : Nat}
    {signature : Macro.Signature} (h : frames.innermostDefinition? = some (height, signature)) :
    height < frames.length := by
  induction frames with
  | nil => cases h
  | cons frame outer ih =>
    rw [innermostDefinition?] at h
    split at h
    · cases h
      exact Nat.lt_succ_self _
    · exact Nat.lt_succ_of_lt (ih h)

end Frames

variable {P Q : Nat → Nat → Prop} {O : Orthography} {marks marks' : Nat → Prop}
  {definition : Option (Nat × Macro.Signature)}

theorem Macro.zone_mono (h : ∀ height signature, definition = some (height, signature) →
    ∀ index, P height index → Q height index) {index : Nat} :
    zone P definition index → zone Q definition index := by
  rintro ⟨height, signature, hd, hi, hp⟩
  exact ⟨height, signature, hd, hi, h height signature hd index hp⟩

/-! ### What is kept for later -/

/-- Both channels of the passage may stand where `marks` may. -/
structure Passage.Tidy (O : Orthography) (marks : Nat → Prop) (passage : Passage) : Prop where
  markup : O.markup marks passage.markup
  text : O.text marks passage.text

/-- The strings of the passage. -/
def Passage.texts (passage : Passage) : List String := [passage.markup, passage.text]

namespace Passage.Tidy

variable {passage passage' : Passage}

theorem empty : Passage.Tidy O marks {} := ⟨O.markup_empty, O.text_empty⟩

theorem append (h : passage.Tidy O marks) (h' : passage'.Tidy O marks) :
    (passage ++ passage').Tidy O marks :=
  ⟨h.markup.append h'.markup, h.text.append h'.text⟩

theorem mono (h : passage.Tidy O marks) (hm : ∀ index, marks index → marks' index) :
    passage.Tidy O marks' := ⟨h.markup.mono hm, h.text.mono hm⟩

theorem of_markup {markup : String} (h : O.markup marks markup) :
    Passage.Tidy O marks ⟨markup, ""⟩ := ⟨h, O.text_empty⟩

theorem texts (h : passage.Tidy O marks) : ∀ text ∈ passage.texts, O.text marks text :=
  List.forall_mem_cons.mpr ⟨h.markup.text, List.forall_mem_singleton.mpr h.text⟩

end Passage.Tidy

/-- A figure that waits for its number is tidy. -/
structure PendingFigure.Tidy (O : Orthography) (marks : Nat → Prop) (figure : PendingFigure) :
    Prop where
  content : ∀ markup, figure.content = .markup markup → O.markup marks markup
  caption : figure.caption.Tidy O marks

/-- A figure series that waits for its number is tidy. -/
structure PendingSeries.Tidy (O : Orthography) (marks : Nat → Prop) (series : PendingSeries) :
    Prop where
  caption : series.caption.Tidy O marks
  figures : ∀ figure ∈ series.groups.flatten, figure.Tidy O marks

/-- A table that waits for its number is tidy. -/
structure PendingTable.Tidy (O : Orthography) (marks : Nat → Prop) (table : PendingTable) :
    Prop where
  caption : table.caption.Tidy O marks
  header : ∀ rows ∈ table.header, O.markup marks rows
  footer : ∀ rows ∈ table.footer, O.markup marks rows

/-- The strings that a figure has gathered. -/
def PendingFigure.texts (figure : PendingFigure) : List String :=
  figure.caption.texts ++
    match figure.content with
    | .markup markup => [markup]
    | _ => []

namespace FrameState

/-- The strings that an open element has gathered. -/
def texts : FrameState → List String
  | figure f | subFigure f => f.texts
  | figureSeries s => s.caption.texts ++ s.groups.flatten.flatMap PendingFigure.texts
  | table t => t.caption.texts ++ t.header.toList ++ t.footer.toList
  | mathOp _ operands => operands.flatMap Passage.texts
  | macroInvocation _ arguments => (arguments.filterMap id).flatMap Passage.texts
  | _ => []

/-- What an open element has gathered is tidy. -/
def Tidy (O : Orthography) (marks : Nat → Prop) : FrameState → Prop
  | figure f | subFigure f => f.Tidy O marks
  | figureSeries s => s.Tidy O marks
  | table t => t.Tidy O marks
  | mathOp _ operands => ∀ operand ∈ operands, operand.Tidy O marks
  | macroInvocation _ arguments => ∀ value, some value ∈ arguments → value.Tidy O marks
  | _ => True

end FrameState

theorem PendingFigure.Tidy.mono {figure : PendingFigure} (h : figure.Tidy O marks)
    (hm : ∀ index, marks index → marks' index) : figure.Tidy O marks' :=
  ⟨fun markup hc ↦ (h.content markup hc).mono hm, h.caption.mono hm⟩

theorem PendingFigure.Tidy.texts {figure : PendingFigure} (h : figure.Tidy O marks) :
    ∀ text ∈ figure.texts, O.text marks text := by
  refine List.forall_mem_append.mpr ⟨h.caption.texts, ?_⟩
  cases hc : figure.content with
  | markup markup => exact List.forall_mem_singleton.mpr (h.content markup hc).text
  | empty | raster => exact List.forall_mem_nil _

namespace FrameState.Tidy

variable {state : FrameState}

theorem mono (h : state.Tidy O marks) (hm : ∀ index, marks index → marks' index) :
    state.Tidy O marks' := by
  cases state with
  | figure f | subFigure f => exact PendingFigure.Tidy.mono h hm
  | figureSeries s => exact ⟨h.caption.mono hm, fun figure hf ↦ (h.figures figure hf).mono hm⟩
  | table t =>
    exact ⟨h.caption.mono hm, fun rows hr ↦ (h.header rows hr).mono hm,
      fun rows hr ↦ (h.footer rows hr).mono hm⟩
  | mathOp operator operands => exact fun operand ho ↦ (h operand ho).mono hm
  | macroInvocation signature arguments => exact fun value hv ↦ (h value hv).mono hm
  | _ => trivial

theorem texts (h : state.Tidy O marks) : ∀ text ∈ state.texts, O.text marks text := by
  cases state with
  | figure f | subFigure f => exact PendingFigure.Tidy.texts h
  | figureSeries s =>
    refine List.forall_mem_append.mpr ⟨h.caption.texts, fun text ht ↦ ?_⟩
    obtain ⟨figure, hf, ht⟩ := List.mem_flatMap.mp ht
    exact (h.figures figure hf).texts text ht
  | table t =>
    refine List.forall_mem_append.mpr ⟨List.forall_mem_append.mpr ⟨h.caption.texts, ?_⟩, ?_⟩
    · exact fun rows hr ↦ (h.header rows (Option.mem_toList.mp hr)).text
    · exact fun rows hr ↦ (h.footer rows (Option.mem_toList.mp hr)).text
  | mathOp operator operands =>
    intro text ht
    obtain ⟨operand, ho, ht⟩ := List.mem_flatMap.mp ht
    exact (h operand ho).texts text ht
  | macroInvocation signature arguments =>
    intro text ht
    obtain ⟨value, hv, ht⟩ := List.mem_flatMap.mp ht
    obtain ⟨argument, ha, rfl⟩ := List.mem_filterMap.mp hv
    exact (h value ha).texts text ht
  | _ => exact List.forall_mem_nil _

end FrameState.Tidy

/-- A change of states keeps the shape, and keeps tidy states tidy. -/
structure FrameState.TakesTidy (O : Orthography) (marks : Nat → Prop)
    (change : FrameState → Option FrameState) : Prop where
  keepsShape : KeepsShape change
  tidy : ∀ state next, change state = some next → state.Tidy O marks → next.Tidy O marks

namespace FrameState

theorem takesTidy_caption {caption : Passage} (h : caption.Tidy O marks) :
    TakesTidy O marks (takeCaption? caption) := by
  refine ⟨keepsShape_takeCaption? caption, fun state next hc hs ↦ ?_⟩
  cases state with
  | figure f | subFigure f => cases hc; exact ⟨hs.content, h⟩
  | figureSeries s => cases hc; exact ⟨h, hs.figures⟩
  | table t => cases hc; exact ⟨h, hs.header, hs.footer⟩
  | _ => cases hc

theorem takesTidy_figureBody {content : FigureContent}
    (h : ∀ markup, content = .markup markup → O.markup marks markup) :
    TakesTidy O marks (takeFigureBody? content) := by
  refine ⟨keepsShape_takeFigureBody? content, fun state next hc hs ↦ ?_⟩
  cases state with
  | figure f | subFigure f => cases hc; exact ⟨h, hs.caption⟩
  | _ => cases hc

/-- Rows come behind earlier rows. -/
theorem tidy_getD_append {earlier : Option String} {rows : String}
    (h : ∀ text ∈ earlier, O.markup marks text) (hr : O.markup marks rows) :
    ∀ text ∈ some (earlier.getD "" ++ rows), O.markup marks text := by
  rintro _ ⟨⟩
  cases earlier with
  | none => exact O.markup_empty.append hr
  | some text => exact (h text rfl).append hr

theorem takesTidy_tableHeader {rows : String} (h : O.markup marks rows) :
    TakesTidy O marks (takeTableHeader? rows) := by
  refine ⟨keepsShape_takeTableHeader? rows, fun state next hc hs ↦ ?_⟩
  cases state with
  | table t => cases hc; exact ⟨hs.caption, tidy_getD_append hs.header h, hs.footer⟩
  | _ => cases hc

theorem takesTidy_tableFooter {rows : String} (h : O.markup marks rows) :
    TakesTidy O marks (takeTableFooter? rows) := by
  refine ⟨keepsShape_takeTableFooter? rows, fun state next hc hs ↦ ?_⟩
  cases state with
  | table t => cases hc; exact ⟨hs.caption, hs.header, tidy_getD_append hs.footer h⟩
  | _ => cases hc

theorem takesTidy_operand {operand : Passage} (h : operand.Tidy O marks) :
    TakesTidy O marks (takeOperand? operand) := by
  refine ⟨keepsShape_takeOperand? operand, fun state next hc hs ↦ ?_⟩
  cases state with
  | mathOp operator operands =>
    cases hc
    exact List.forall_mem_append.mpr ⟨hs, List.forall_mem_singleton.mpr h⟩
  | _ => cases hc

theorem takesTidy_argument {index : Nat} {value : Passage} (h : value.Tidy O marks) :
    TakesTidy O marks (takeArgument? index value) := by
  refine ⟨keepsShape_takeArgument? index value, fun state next hc hs ↦ ?_⟩
  cases state with
  | macroInvocation signature arguments =>
    rw [takeArgument?] at hc
    split at hc
    · cases hc
      intro other ho
      rcases List.mem_or_eq_of_mem_set ho with ho | ho
      · exact hs other ho
      · cases ho
        exact h
    · cases hc
  | _ => cases hc

theorem takesTidy_subFigure {figure : PendingFigure} (h : figure.Tidy O marks) :
    TakesTidy O marks (takeSubFigure? figure) := by
  refine ⟨keepsShape_takeSubFigure? figure, fun state next hc hs ↦ ?_⟩
  cases state with
  | figureSeries s =>
    cases hc
    refine ⟨hs.caption, fun other ho ↦ ?_⟩
    rw [PendingSeries.groups, PendingSeries.add, List.flatten_append, List.flatten_singleton,
      ← List.append_assoc, List.mem_append, List.mem_singleton] at ho
    rcases ho with ho | rfl
    · refine hs.figures other ?_
      rwa [PendingSeries.groups, List.flatten_append, List.flatten_singleton]
    · exact h
  | _ => cases hc

theorem takesTidy_page : TakesTidy O marks turnPage? := by
  refine ⟨keepsShape_turnPage?, fun state next hc hs ↦ ?_⟩
  cases state with
  | figureSeries s =>
    cases hc
    refine ⟨?_, fun figure hf ↦ hs.figures figure ?_⟩
    · unfold PendingSeries.turn
      split <;> exact hs.caption
    · unfold PendingSeries.turn at hf
      split at hf
      · exact hf
      · simpa [PendingSeries.groups] using hf
  | _ => cases hc

theorem takesTidy_advance (columns : Nat) : TakesTidy O marks (advance? columns) := by
  refine ⟨keepsShape_advance? columns, fun state next hc hs ↦ ?_⟩
  cases state with
  | tableRow => cases hc; trivial
  | _ => cases hc

theorem takesTidy_paint (fills : List Fill) : TakesTidy O marks (takePaint? fills) := by
  refine ⟨keepsShape_takePaint? fills, fun state next hc hs ↦ ?_⟩
  cases state with
  | figureBody => cases hc; trivial
  | _ => cases hc

end FrameState

/-! ### Frames and captures -/

/-- What the frames have gathered and what is held back for them lies in the zones of the
definitions around them. What stands in a definition is held back. -/
inductive Zones (O : Orthography) (P : Nat → Nat → Prop) : Frames → List Passage → Prop where
  | bottom : Zones O P [] []
  | within {frame : Frame} {outer : Frames} {captures : List Passage} :
    frame.captured = false → (∀ signature, frame.state ≠ .macroDefinition signature) →
      frame.state.Tidy O (Macro.zone P (Frames.innermostDefinition? (frame :: outer))) →
        Zones O P outer captures → Zones O P (frame :: outer) captures
  | apart {frame : Frame} {outer : Frames} {capture : Passage} {captures : List Passage} :
    frame.captured = true →
      frame.state.Tidy O (Macro.zone P (Frames.innermostDefinition? (frame :: outer))) →
        capture.Tidy O (Macro.zone P (Frames.innermostDefinition? (frame :: outer))) →
          Zones O P outer captures → Zones O P (frame :: outer) (capture :: captures)

/-- Every open element with those around it, and the strings that are held for it: what it has
gathered, and its capture if its content is held back. -/
def Frames.held : Frames → List Passage → List (Frames × List String)
  | [], _ => []
  | frame :: outer, captures =>
    if frame.captured then
      (frame :: outer, frame.state.texts ++ (captures.head?.map Passage.texts).getD []) ::
        held outer captures.tail
    else (frame :: outer, frame.state.texts) :: held outer captures

namespace Zones

/-- Whatever is held for an element may stand in its zone. -/
theorem texts {frames : Frames} {captures : List Passage} (h : Zones O P frames captures) :
    ∀ place ∈ frames.held captures, ∀ text ∈ place.2,
      O.text (Macro.zone P place.1.innermostDefinition?) text := by
  induction h with
  | bottom => exact List.forall_mem_nil _
  | within hf _ hs _ ih =>
    rw [Frames.held, if_neg (by rw [hf]; decide)]
    exact List.forall_mem_cons.mpr ⟨hs.texts, ih⟩
  | apart hf hs hcap _ ih =>
    rw [Frames.held, if_pos hf]
    exact List.forall_mem_cons.mpr ⟨List.forall_mem_append.mpr ⟨hs.texts, hcap.texts⟩, ih⟩

variable {frames next : Frames} {captures : List Passage} {capture passage : Passage}

theorem innermostDefinition?_eq_none (h : Zones O P frames []) :
    frames.innermostDefinition? = none := by
  generalize hc : ([] : List Passage) = captures at h
  induction h with
  | bottom => rfl
  | within _ hd _ _ ih =>
    rw [Frames.innermostDefinition?_cons _ hd]
    exact ih hc
  | apart => cases hc

theorem write (h : Zones O P frames (capture :: captures))
    (hp : passage.Tidy O (Macro.zone P frames.innermostDefinition?)) :
    Zones O P frames ((capture ++ passage) :: captures) := by
  generalize hc : capture :: captures = all at h
  induction h with
  | bottom => cases hc
  | within hf hd hs _ ih =>
    rw [Frames.innermostDefinition?_cons _ hd] at hp
    exact .within hf hd hs (ih hp hc)
  | apart hf hs hcap ho =>
    cases hc
    exact .apart hf hs (hcap.append hp) ho

theorem mono (h : Zones O P frames captures)
    (hm : ∀ height < frames.length, ∀ index, P height index → Q height index) :
    Zones O Q frames captures := by
  have zone {below : Frames} (hs : below.length ≤ frames.length) (index : Nat) :
      Macro.zone P below.innermostDefinition? index →
        Macro.zone Q below.innermostDefinition? index :=
    Macro.zone_mono fun height signature hd ↦
      hm height (Nat.lt_of_lt_of_le (Frames.lt_length_of_innermostDefinition? hd) hs)
  induction h with
  | bottom => exact .bottom
  | within hf hd hs _ ih =>
    exact .within hf hd (hs.mono (zone (Nat.le_refl _)))
      (ih (fun height hh ↦ hm height (Nat.lt_succ_of_lt hh))
        fun hs ↦ zone (Nat.le_succ_of_le hs))
  | apart hf hs hcap _ ih =>
    exact .apart hf (hs.mono (zone (Nat.le_refl _))) (hcap.mono (zone (Nat.le_refl _)))
      (ih (fun height hh ↦ hm height (Nat.lt_succ_of_lt hh))
        fun hs ↦ zone (Nat.le_succ_of_le hs))

variable {change : FrameState → Option FrameState}

theorem changeTop? (h : Zones O P frames captures)
    (ht : FrameState.TakesTidy O (Macro.zone P frames.innermostDefinition?) change)
    (hc : frames.changeTop? change = some next) : Zones O P next captures := by
  have same : next.innermostDefinition? = frames.innermostDefinition? := by
    rw [← Frames.innermostDefinition?_shape, Frames.shape_changeTop? ht.keepsShape hc,
      Frames.innermostDefinition?_shape]
  cases h with
  | bottom => cases hc
  | @within frame outer _ hf hd hs ho =>
    obtain ⟨state, hn, rfl⟩ := Option.map_eq_some_iff.mp hc
    refine .within hf (fun signature he ↦ ?_) (same ▸ ht.tidy _ _ hn hs) ho
    have shape := ht.keepsShape _ _ hn
    change state = _ at he
    rw [he] at shape
    cases hfs : frame.state with
    | macroDefinition signature' => exact hd signature' hfs
    | _ => rw [hfs] at shape; cases shape
  | apart hf hs hcap ho =>
    obtain ⟨state, hn, rfl⟩ := Option.map_eq_some_iff.mp hc
    exact .apart hf (same ▸ ht.tidy _ _ hn hs) (same ▸ hcap) ho

/-- What ended in a figure series lies in the zone of the series: nothing but a page stands between
the two. -/
theorem changeSeries? (h : Zones O P frames captures) (hn : frames.Nested)
    (ht : FrameState.TakesTidy O (Macro.zone P frames.innermostDefinition?) change)
    (allowed : Kind.subFigure.allowedIn frames.innermost = true)
    (hc : frames.changeSeries? change = some next) : Zones O P next captures := by
  obtain ⟨series, outer, _, hk, -, rfl | ⟨page, hp, rfl⟩⟩ := hn.exists_series allowed
  · rw [Frames.changeSeries?, if_pos hk] at hc
    exact h.changeTop? ht hc
  · have other : ∀ signature, page.state ≠ .macroDefinition signature :=
      FrameState.ne_macroDefinition_of_suits hn.1.suits (by rw [hp]; decide)
    rw [Frames.changeSeries?, if_neg (by rw [hp]; decide)] at hc
    obtain ⟨rest, hr, rfl⟩ := Option.map_eq_some_iff.mp hc
    rw [Frames.changeSeries?, if_pos hk] at hr
    rw [Frames.innermostDefinition?_cons _ other] at ht
    have same : Frames.innermostDefinition? (page :: rest) =
        Frames.innermostDefinition? (page :: series :: outer) := by
      rw [Frames.innermostDefinition?_cons _ other, Frames.innermostDefinition?_cons _ other,
        ← Frames.innermostDefinition?_shape, Frames.shape_changeTop? ht.keepsShape hr,
        Frames.innermostDefinition?_shape]
    cases h with
    | within hf _ hs ho => exact .within hf other (same ▸ hs) (ho.changeTop? ht hr)
    | apart hf hs hcap ho => exact .apart hf (same ▸ hs) (same ▸ hcap) (ho.changeTop? ht hr)

end Zones

/-! ### Documents -/

/-- The bodies of the macros are tidy, whatever the parameters of each macro are. -/
def Macro.Library.Tidy (O : Orthography) (library : Library) : Prop :=
  ∀ entry ∈ library.definitions, ∃ body : Passage,
    entry.2 = ⟨.parse body.markup, .parse body.text⟩ ∧ body.Tidy O (fun _ ↦ True)

/-- The head is tidy, and holds no markers. -/
structure Head.Tidy (O : Orthography) (head : Head) : Prop where
  title : ∀ title ∈ head.title, title.Tidy O (fun _ ↦ False)
  authors : ∀ author ∈ head.authors, author.Tidy O (fun _ ↦ False)
  date : ∀ date ∈ head.date, date.Tidy O (fun _ ↦ False)

/-- What the document holds obeys the orthography, and markers stand in the zones of macro
definitions and nowhere else. What is kept to be written as text is text that may be handed in. -/
structure Document.Tidy (O : Orthography) (P : Nat → Nat → Prop) (d : Document) : Prop where
  zones : Zones O P d.frames d.output.captures
  streamed : O.markup (fun _ ↦ False) d.output.streamed
  root : d.output.root.Tidy O (fun _ ↦ False)
  head : d.head.Tidy O
  macros : d.macros.Tidy O
  keyed : d.bibliography.Keyed
  entries : ∀ work ∈ d.bibliography.works, work.record.entry.Admitted O
  numbers : ∀ entry ∈ d.labels.entries, ∀ number, entry.state = .resolved number →
    O.source number
  stem : O.source d.stem

namespace Document.Tidy

variable {d : Document} {passage : Passage}

theorem mono (h : d.Tidy O P)
    (hm : ∀ height < d.frames.length, ∀ index, P height index → Q height index) : d.Tidy O Q :=
  { h with zones := h.zones.mono hm }

theorem append (h : d.Tidy O P)
    (hp : passage.Tidy O (Macro.zone P d.frames.innermostDefinition?)) :
    (d.append passage).Tidy O P := by
  have zones := h.zones
  unfold Document.append Output.write
  split
  · next hc =>
    rw [hc] at zones
    rw [zones.innermostDefinition?_eq_none] at hp
    have root := h.root.append (hp.mono fun _ ⟨_, _, hn, _⟩ ↦ by cases hn)
    exact { h with root }
  · next capture captures hc =>
    rw [hc] at zones
    exact { h with zones := zones.write hp }

theorem stream (h : d.Tidy O P) : d.stream.Tidy O P := by
  unfold Document.stream Output.stream
  split
  · exact { h with streamed := h.streamed.append h.root.markup, root := .empty }
  · exact h

variable {take : FrameState → Option FrameState}

theorem offer (h : d.Tidy O P)
    (ht : FrameState.TakesTidy O (Macro.zone P d.frames.innermostDefinition?) take) :
    (d.offer take).Tidy O P := by
  unfold Document.offer
  cases hc : d.frames.changeTop? take with
  | none => exact h
  | some frames => exact { h with zones := h.zones.changeTop? ht hc }

theorem offerSeries (h : d.Tidy O P) (hn : d.frames.Nested)
    (ht : FrameState.TakesTidy O (Macro.zone P d.frames.innermostDefinition?) take)
    (allowed : Kind.subFigure.allowedIn d.frames.innermost = true) :
    (d.offerSeries take).Tidy O P := by
  unfold Document.offerSeries
  cases hc : d.frames.changeSeries? take with
  | none => exact h
  | some frames => exact { h with zones := h.zones.changeSeries? hn ht allowed hc }

/-- A new element has gathered nothing, and what a definition holds is captured. -/
theorem push {frame : Frame} (h : d.Tidy O P) (hs : frame.state.Tidy O (fun _ ↦ False))
    (hc : ∀ signature, frame.state = .macroDefinition signature → frame.captured = true) :
    (d.push frame).Tidy O P := by
  have state :
      frame.state.Tidy O (Macro.zone P (Frames.innermostDefinition? (frame :: d.frames))) :=
    hs.mono fun _ hf ↦ hf.elim
  refine { h with zones := ?_, streamed := ?_, root := ?_ } <;> unfold Document.push <;> dsimp only
  · split
    · next captured => exact .apart captured state .empty h.zones
    · next free =>
      exact .within (Bool.not_eq_true _ ▸ free) (fun signature hd ↦ free (hc signature hd)) state
        h.zones
  · split <;> exact h.streamed
  · split <;> exact h.root

/-- A definition may be made of any tidy body. -/
theorem define {body : Passage} (h : d.Tidy O P) (hb : body.Tidy O marks)
    (signature : Macro.Signature) : (d.closeDefinition signature body).Tidy O P := by
  refine { h with macros := List.forall_mem_cons.mpr ⟨⟨body, rfl, ?_⟩, fun entry he ↦ ?_⟩ }
  · exact hb.mono fun _ _ ↦ trivial
  · exact h.macros entry (List.mem_of_mem_filter he)

theorem takeTitle {title : Passage} (h : d.Tidy O P) (ht : title.Tidy O (fun _ ↦ False)) :
    (d.takeTitle title).Tidy O P :=
  { h with head := ⟨fun _ he ↦ Option.some.inj he ▸ ht, h.head.authors, h.head.date⟩ }

theorem takeAuthor {author : Passage} (h : d.Tidy O P) (ha : author.Tidy O (fun _ ↦ False)) :
    (d.takeAuthor author).Tidy O P :=
  { h with head := ⟨h.head.title, List.forall_mem_append.mpr ⟨h.head.authors,
      List.forall_mem_singleton.mpr ha⟩, h.head.date⟩ }

theorem takeDate {date : Passage} (h : d.Tidy O P) (hd : date.Tidy O (fun _ ↦ False)) :
    (d.takeDate date).Tidy O P :=
  { h with head := ⟨h.head.title, h.head.authors, fun _ he ↦ Option.some.inj he ▸ hd⟩ }

/-- The numbers of labels are unmarked after a label has been changed, if its own number is. -/
theorem relabel {label : Label} {change : LabelEntry → LabelEntry} (h : d.Tidy O P)
    (hc : ∀ entry number, (change entry).state = .resolved number →
      O.source number) :
    ({ d with labels := d.labels.update label change } : Document).Tidy O P := by
  refine { h with numbers := fun entry he number hn ↦ ?_ }
  obtain ⟨index, hi⟩ := List.mem_iff_getElem?.mp he
  rw [Registry.update, List.getElem?_modify] at hi
  obtain ⟨old, ho, rfl⟩ := Option.map_eq_some_iff.mp hi
  split at hn
  · exact hc old number hn
  · exact h.numbers old (List.mem_of_getElem? ho) number hn

end Document.Tidy

theorem Document.innermostDefinition?_of_outline {d e : Document} (h : e.outline = d.outline) :
    e.frames.innermostDefinition? = d.frames.innermostDefinition? := by
  have shape : e.frames.shape = d.frames.shape := congrArg Prod.fst h
  rw [← Frames.innermostDefinition?_shape, shape, Frames.innermostDefinition?_shape]

end Manuscript

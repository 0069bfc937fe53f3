import Manuscript.Proofs.Document.Alike

/-!
# Documents without their markup

Without markup and layout a document is its plain texts, its labels, counters and works, and all
that is decided from them. Documents that are alike are the same without their markup
(`Document.Alike.withoutMarkup_eq`).
-/

namespace Manuscript

def Passage.withoutMarkup (passage : Passage) : Passage := { passage with markup := "" }

/-- Whether there is markup is left. -/
def FigureContent.withoutMarkup : FigureContent → FigureContent
  | empty => empty
  | markup _ => markup ""
  | raster canvas => raster canvas

def PendingFigure.withoutMarkup (figure : PendingFigure) : PendingFigure :=
  { figure with
    content := figure.content.withoutMarkup
    caption := figure.caption.withoutMarkup }

def PendingSeries.withoutMarkup (series : PendingSeries) : PendingSeries :=
  { series with
    caption := series.caption.withoutMarkup
    pages := series.pages.map (·.map PendingFigure.withoutMarkup)
    page := series.page.map PendingFigure.withoutMarkup }

/-- Whether there are header and footer rows is left. -/
def PendingTable.withoutMarkup (table : PendingTable) : PendingTable :=
  { table with
    caption := table.caption.withoutMarkup
    header := table.header.map fun _ ↦ ""
    footer := table.footer.map fun _ ↦ "" }

def FrameState.withoutMarkup : FrameState → FrameState
  | figure f => figure f.withoutMarkup
  | subFigure f => subFigure f.withoutMarkup
  | figureSeries s => figureSeries s.withoutMarkup
  | table t => table t.withoutMarkup
  | mathOp operator operands => mathOp operator (operands.map Passage.withoutMarkup)
  | macroInvocation signature arguments =>
    macroInvocation signature (arguments.map (·.map Passage.withoutMarkup))
  | state => state

def Frame.withoutMarkup (frame : Frame) : Frame :=
  { frame with state := frame.state.withoutMarkup }

def Head.withoutMarkup (head : Head) : Head where
  title := head.title.map Passage.withoutMarkup
  authors := head.authors.map Passage.withoutMarkup
  date := head.date.map Passage.withoutMarkup

def Macro.Definition.withoutMarkup (definition : Macro.Definition) : Macro.Definition :=
  { definition with markup := {} }

def Macro.Library.withoutMarkup (library : Macro.Library) : Macro.Library :=
  ⟨library.definitions.map fun (name, definition) ↦ (name, definition.withoutMarkup)⟩

/-- The document without its markup, without the way it is laid out, and without what has reached
the root. -/
def Document.withoutMarkup (d : Document) : Document :=
  { d.core with
    output := { captures := d.output.captures.map Passage.withoutMarkup }
    frames := d.frames.map Frame.withoutMarkup
    head := d.head.withoutMarkup
    macros := d.macros.withoutMarkup }

/-! ### What is alike is the same without its markup -/

variable {L : Likeness}

theorem Passage.Alike.withoutMarkup_eq {p p' : Passage} (h : p.Alike L p') :
    p.withoutMarkup = p'.withoutMarkup := congrArg (Passage.mk "") h.text

theorem FigureContent.Alike.withoutMarkup_eq {content content' : FigureContent}
    (h : content.Alike L content') : content.withoutMarkup = content'.withoutMarkup := by
  cases h <;> rfl

theorem PendingFigure.Alike.withoutMarkup_eq {f f' : PendingFigure} (h : f.Alike L f') :
    f.withoutMarkup = f'.withoutMarkup := by
  rw [PendingFigure.withoutMarkup, PendingFigure.withoutMarkup, h.label, h.content.withoutMarkup_eq,
    h.caption.withoutMarkup_eq]

theorem PendingSeries.Alike.withoutMarkup_eq {s s' : PendingSeries} (h : s.Alike L s') :
    s.withoutMarkup = s'.withoutMarkup := by
  have page {page page' : List PendingFigure} (h : List.Forall₂ (PendingFigure.Alike L) page page') :
      page.map PendingFigure.withoutMarkup = page'.map PendingFigure.withoutMarkup :=
    map_eq_of_forall₂ h fun _ _ hf ↦ hf.withoutMarkup_eq
  rw [PendingSeries.withoutMarkup, PendingSeries.withoutMarkup, h.label, h.columns,
    h.caption.withoutMarkup_eq, page h.page, map_eq_of_forall₂ h.pages fun _ _ hp ↦ page hp]

theorem PendingTable.Alike.withoutMarkup_eq {t t' : PendingTable} (h : t.Alike L t') :
    t.withoutMarkup = t'.withoutMarkup := by
  rw [PendingTable.withoutMarkup, PendingTable.withoutMarkup, h.label, h.columns,
    h.caption.withoutMarkup_eq, optionMap_eq_of_rel h.header fun _ _ _ ↦ rfl,
    optionMap_eq_of_rel h.footer fun _ _ _ ↦ rfl]

theorem FrameState.Alike.withoutMarkup_eq {state state' : FrameState} (h : state.Alike L state') :
    state.withoutMarkup = state'.withoutMarkup := by
  cases h with
  | figure hf => exact congrArg FrameState.figure hf.withoutMarkup_eq
  | subFigure hf => exact congrArg FrameState.subFigure hf.withoutMarkup_eq
  | figureSeries hs => exact congrArg FrameState.figureSeries hs.withoutMarkup_eq
  | table ht => exact congrArg FrameState.table ht.withoutMarkup_eq
  | mathOp operator ho =>
    exact congrArg (FrameState.mathOp operator) (map_eq_of_forall₂ ho fun _ _ hp ↦ hp.withoutMarkup_eq)
  | macroInvocation signature ha =>
    exact congrArg (FrameState.macroInvocation signature) (map_eq_of_forall₂ ha fun _ _ hp ↦
      optionMap_eq_of_rel hp fun _ _ hv ↦ hv.withoutMarkup_eq)
  | _ => rfl

theorem Frame.Alike.withoutMarkup_eq {frame frame' : Frame} (h : frame.Alike L frame') :
    frame.withoutMarkup = frame'.withoutMarkup := by
  rw [Frame.withoutMarkup, Frame.withoutMarkup, h.kind, h.captured, h.state.withoutMarkup_eq]

theorem Head.Alike.withoutMarkup_eq {head head' : Head} (h : head.Alike L head') :
    head.withoutMarkup = head'.withoutMarkup := by
  have same (p p' : Passage) (hp : p.Alike L p') := hp.withoutMarkup_eq
  rw [Head.withoutMarkup, Head.withoutMarkup, optionMap_eq_of_rel h.title same,
    map_eq_of_forall₂ h.authors same, optionMap_eq_of_rel h.date same]

theorem Macro.Library.Alike.withoutMarkup_eq {library library' : Macro.Library}
    (h : library.Alike L library') : library.withoutMarkup = library'.withoutMarkup := by
  refine congrArg Macro.Library.mk (map_eq_of_forall₂ h ?_)
  rintro ⟨name, _⟩ ⟨_, _⟩ ⟨rfl, body, body', hb, rfl, rfl⟩
  simp only [Macro.Definition.withoutMarkup, hb.text]

/-- Documents that are alike are the same without their markup. -/
theorem Document.Alike.withoutMarkup_eq {Q : (Counter → Nat) → String → String → Prop}
    {d d' : Document} (h : d.Alike L Q d') : d.withoutMarkup = d'.withoutMarkup := by
  rw [Document.withoutMarkup, Document.withoutMarkup, h.core,
    map_eq_of_forall₂ h.captures fun _ _ hp ↦ hp.withoutMarkup_eq,
    map_eq_of_forall₂ h.frames fun _ _ hf ↦ hf.withoutMarkup_eq, h.head.withoutMarkup_eq,
    h.macros.withoutMarkup_eq]

end Manuscript

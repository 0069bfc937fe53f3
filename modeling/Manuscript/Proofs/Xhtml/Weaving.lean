import Manuscript.Proofs.Document.Agreement
import Manuscript.Proofs.Xhtml.Closing
import Manuscript.Proofs.Xhtml.Release

/-!
# The hooks of XHTML are woven from tags and texts

What relates tags and texts without tags to themselves relates what the backend writes for things
that are related (`Markup.Weaves.respects`). A float shows its number once, and what stands around
the number is related (`Markup.Bears`).
-/

namespace Manuscript

open Markup Xhtml

namespace Xhtml

/-- The title of a caption up to its number. -/
def captionStart (noun : String) (number : Nat) : String :=
  startTag "span" (classed "captionTitle") ++ (noun ++ noBreakSpace ++ toString number)

/-- What stands behind the number in the title of a caption. -/
def captionEnds : List String := [":", endTag "span"]

/-- The cell beside an equation, with its number. -/
def equationLabel (number : Nat) : String :=
  startTag "td" (classed "equationNumber") ++ ("(" ++ toString number ++ ")")

/-- The start of the title of a sub-figure, before the letter. -/
def letterStart : String := startTag "span" (classed "captionTitle") ++ "("

/-- The markup in which something shows its number, with the end of the number. -/
inductive Numeral : Counter → Nat → String → Prop where
  | figure (number : Nat) {ending : String} :
    ending ∈ captionEnds → Numeral .figures number (captionStart "Figure" number ++ ending)
  | table (number : Nat) {ending : String} :
    ending ∈ captionEnds → Numeral .tables number (captionStart "Table" number ++ ending)
  | equation (number : Nat) : Numeral .equations number (equationLabel number)

end Xhtml

namespace Markup

/-- The text starts with a tag. -/
def Opens (text : String) : Prop := text.toList.head? = some '<'

theorem Opens.append {text : String} (h : Opens text) (text' : String) : Opens (text ++ text') := by
  unfold Opens at h ⊢
  rw [String.toList_append, List.head?_append, h]
  rfl

theorem opens_startTag (name : String) (list : List Attribute) : Opens (startTag name list) := by
  simp [Opens, startTag]

theorem opens_endTag (name : String) : Opens (endTag name) := by
  simp [Opens, endTag]

theorem opens_element (name : String) (list : List Attribute) (content : String) :
    Opens (element name list content) := ((opens_startTag name list).append _).append _

/-- Both texts show the number once, and what stands around it is related. -/
def Bears (R : String → String → Prop) (counter : Counter) (number : Nat) (text text' : String) :
    Prop :=
  ∃ numeral, Numeral counter number numeral ∧ ∃ front front' back back',
    R front front' ∧ R back back' ∧ text = front ++ numeral ++ back ∧
      text' = front' ++ numeral ++ back'

section

variable {R : String → String → Prop} {counter : Counter} {number : Nat}
  {text text' extra extra' name : String} {list : List Attribute}

theorem Bears.prepend (h : Bears R counter number text text') (hR : Joining R)
    (he : R extra extra') : Bears R counter number (extra ++ text) (extra' ++ text') := by
  obtain ⟨numeral, shown, front, front', back, back', hf, hb, rfl, rfl⟩ := h
  refine ⟨numeral, shown, _, _, _, _, hR.append he hf, hb, ?_, ?_⟩ <;> simp only [String.append_assoc]

theorem Bears.append (h : Bears R counter number text text') (hR : Joining R)
    (he : R extra extra') : Bears R counter number (text ++ extra) (text' ++ extra') := by
  obtain ⟨numeral, shown, front, front', back, back', hf, hb, rfl, rfl⟩ := h
  refine ⟨numeral, shown, _, _, _, _, hf, hR.append hb he, ?_, ?_⟩ <;> simp only [String.append_assoc]

theorem bears_numeral {numeral : String} (h : Numeral counter number numeral) (hR : Joining R)
    (he : R extra extra') : Bears R counter number (numeral ++ extra) (numeral ++ extra') :=
  ⟨numeral, h, "", "", extra, extra', hR.empty, he, by simp, by simp⟩

theorem Bears.element (h : Bears R counter number text text') (hR : Woven R) (hn : IsName name)
    (hl : NamesValid list) (ho : Ordinary list)
    (hv : ∀ item ∈ list, R (escape item.2) (escape item.2)) :
    Bears R counter number (element name list text) (element name list text') :=
  (h.prepend hR.toJoining (hR.startTag hn hl ho hv)).append hR.toJoining (hR.endTag hn)

theorem Bears.row (h : Bears R counter number text text') (hR : Woven R) :
    Bears R counter number (row [text]) (row [text']) := by
  unfold Xhtml.row
  simp only [String.join_cons, String.join_nil, String.append_empty]
  exact h.element hR (by decide) namesValid_nil ordinary_nil (List.forall_mem_nil _)

end

/-- What is woven is related to itself whatever plain text it shows, and to nothing only if it is
nothing. -/
structure Weaves (R : String → String → Prop) : Prop extends Woven R where
  prolog : R prolog prolog
  letterStart : R letterStart letterStart
  escape : ∀ text, R (escape text) (escape text)
  eq_empty_iff : ∀ {text text'}, R text text' → (text = "" ↔ text' = "")

namespace Weaves

variable {R : String → String → Prop} (hR : Weaves R) {name role : String}
  {list : List Attribute} {content filled : String} {contents filleds : List String}

include hR

theorem values (list : List Attribute) : ∀ item ∈ list, R (Xhtml.escape item.2) (Xhtml.escape item.2) :=
  fun item _ ↦ hR.escape item.2

theorem opened (hn : IsName name) (hl : NamesValid list) (ho : Ordinary list) :
    R (startTag name list) (startTag name list) := hR.startTag hn hl ho (hR.values list)

theorem emptied (hn : IsName name) (hl : NamesValid list) (ho : Ordinary list) :
    R (emptyTag name list) (emptyTag name list) := hR.emptyTag hn hl ho (hR.values list)

theorem within (hn : IsName name) (hl : NamesValid list) (ho : Ordinary list)
    (hc : R content filled) : R (element name list content) (element name list filled) :=
  hR.element hn hl ho (hR.values list) hc

/-- A line break in the markup. -/
theorem newline : R "\n" "\n" := hR.bare (by decide)

/-! ### The ends of the document -/

theorem documentStart : R documentStart documentStart := by
  have html : R (startTag "html" [("xmlns", "http://www.w3.org/1999/xhtml"), ("xml:lang", "en")])
      (startTag "html" [("xmlns", "http://www.w3.org/1999/xhtml"), ("xml:lang", "en")]) :=
    hR.opened (by decide) (by simp; decide) (ordinary_cons (by decide))
  have encoding : R (emptyTag "meta" [("http-equiv", "Content-Type"),
        ("content", "application/xhtml+xml; charset=UTF-8")])
      (emptyTag "meta" [("http-equiv", "Content-Type"),
        ("content", "application/xhtml+xml; charset=UTF-8")]) :=
    hR.emptied (by decide) (by simp; decide) (ordinary_cons (by decide))
  exact hR.append (hR.append (hR.append (hR.append (hR.append hR.prolog html) hR.newline)
    (hR.opened (by decide) namesValid_nil ordinary_nil)) hR.newline) encoding

theorem metadata (value : Option String) :
    R (Xhtml.metadata name value) (Xhtml.metadata name value) := by
  cases value with
  | none => exact hR.empty
  | some value => exact hR.emptied (by decide) (by simp; decide) (ordinary_cons (by simp [numberedRoles]))

theorem head (title authors date : Option String) :
    R (head title authors date) (head title authors date) := by
  have links : R (String.join (resources.map stylesheetLink))
      (String.join (resources.map stylesheetLink)) := by
    refine hR.join (List.forall₂_same.mpr (List.forall_mem_map.mpr fun resource _ ↦ ?_))
    exact hR.emptied (by decide) (by simp; decide) (ordinary_cons (by simp [numberedRoles]))
  exact hR.append (hR.append (hR.append (hR.append (hR.append (hR.append hR.newline
    (hR.plainElement (by decide) (hR.escape _))) (hR.metadata authors)) (hR.metadata date)) links)
      hR.newline) (hR.endTag (by decide))

theorem optional (hn : IsName name) (hl : NamesValid list) (ho : Ordinary list)
    {content filled : Option String} (h : Option.Rel R content filled) :
    R (optional name list content) (optional name list filled) := by
  cases h with
  | none => exact hR.empty
  | some hc => exact hR.within hn hl ho hc

theorem titleBlock {title title' authors authors' date date' : Option String}
    (ht : Option.Rel R title title') (ha : Option.Rel R authors authors')
    (hd : Option.Rel R date date') :
    R (titleBlock title authors date) (titleBlock title' authors' date') := by
  refine hR.append (hR.append ?_ ?_) ?_
  · exact hR.optional (by decide) (namesValid_classed _) (ordinary_cons (by decide)) ht
  · exact hR.optional (by decide) (namesValid_classed _) (ordinary_cons (by decide)) ha
  · exact hR.optional (by decide) (namesValid_classed _) (ordinary_cons (by decide)) hd

/-! ### Sections and text -/

theorem numeral (number : Nat) : R (toString number) (toString number) :=
  hR.bare (bare_of_isNameChar fun _ hc ↦ isNameChar_of_isDigit (isDigit_of_mem_toString hc))

theorem sectionNumber (path : List Nat) :
    R (Session.sectionNumber path) (Session.sectionNumber path) := by
  refine hR.intercalate (hR.bare (by decide)) (List.forall₂_same.mpr ?_)
  exact List.forall_mem_map.mpr fun number _ ↦ hR.numeral number

theorem sectionHeading (depth : Nat) {number title title' : String} (hn : R number number)
    (ht : R title title') :
    R (sectionHeading depth number title) (sectionHeading depth number title') :=
  hR.within (isName_headingName depth) (namesValid_classed _) (ordinary_cons (by decide))
    (hR.append (hR.append
      (hR.within (by decide) (namesValid_classed _) (ordinary_cons (by decide)) hn)
        (hR.bare (by decide))) ht)

theorem inlineStart (style : InlineStyle) : R (inlineStart style) (inlineStart style) := by
  cases style with
  | normal => exact hR.opened (by decide) (namesValid_classed _) (ordinary_cons (by decide))
  | _ => exact hR.opened (by decide) namesValid_nil ordinary_nil

theorem cellStart (header : Bool) (span : Nat) (align : Option Alignment) :
    R (cellStart header span align) (cellStart header span align) := by
  unfold Xhtml.cellStart
  split <;> cases align
  · exact hR.opened (isName_cellName header) (by simp; decide) (ordinary_cons (by simp [numberedRoles]))
  · exact hR.opened (isName_cellName header) (by simp; decide) (ordinary_cons (by simp [numberedRoles]))
  · exact hR.opened (isName_cellName header) (by simp) ordinary_nil
  · exact hR.opened (isName_cellName header) (by simp; decide) (ordinary_cons (by simp [numberedRoles]))

/-! ### Floats -/

variable {counter : Counter} {number : Nat} {anchor : Option String} {caption caption' : String}

/-- An element of some role, with or without an identifier. -/
theorem identified (hn : IsName name) (ho : ("class", role) ∉ numberedRoles)
    (hc : R content filled) :
    R (element name (Xhtml.classed role ++ Xhtml.identified anchor) content)
      (element name (Xhtml.classed role ++ Xhtml.identified anchor) filled) :=
  hR.within hn (by simp) (ordinary_cons ho) hc

theorem bears_identified (hn : IsName name) (ho : ("class", role) ∉ numberedRoles)
    (h : Bears R counter number content filled) :
    Bears R counter number
      (element name (Xhtml.classed role ++ Xhtml.identified anchor) content)
      (element name (Xhtml.classed role ++ Xhtml.identified anchor) filled) :=
  h.element hR.toWoven hn (by simp) (ordinary_cons ho) (hR.values _)

theorem bears_captionText {noun : String}
    (hn : ∀ ending ∈ captionEnds, Numeral counter number (captionStart noun number ++ ending))
    (hc : R caption caption') :
    Bears R counter number (captionText noun ⟨number, anchor, caption⟩)
      (captionText noun ⟨number, anchor, caption'⟩) := by
  unfold captionText
  by_cases he : caption = ""
  · have shown := bears_numeral (hn (endTag "span") (by simp [captionEnds])) hR.toJoining hR.empty
    simp only [if_pos he, if_pos ((hR.eq_empty_iff hc).mp he)]
    simpa [captionStart, Xhtml.element, String.append_assoc] using shown
  · have rest : R (endTag "span" ++ (" " ++ caption)) (endTag "span" ++ (" " ++ caption')) :=
      hR.append (hR.endTag (by decide)) (hR.append (hR.bare (by decide)) hc)
    have shown := bears_numeral (hn ":" (by simp [captionEnds])) hR.toJoining rest
    simp only [if_neg he, if_neg (mt (hR.eq_empty_iff hc).mpr he)]
    simpa [captionStart, Xhtml.element, String.append_assoc] using shown

theorem bears_figure (hc : R caption caption') (hb : R content filled) :
    Bears R .figures number (figure ⟨number, anchor, caption⟩ content)
      (figure ⟨number, anchor, caption'⟩ filled) := by
  have title : Bears R .figures number (captionText "Figure" ⟨number, anchor, caption⟩)
      (captionText "Figure" ⟨number, anchor, caption'⟩) :=
    hR.bears_captionText (fun _ ↦ .figure number) hc
  have shown : R (Xhtml.row [Xhtml.cell "figureBody" content])
      (Xhtml.row [Xhtml.cell "figureBody" filled]) :=
    hR.row (.cons (hR.cell (by decide) (by decide) hb) .nil)
  refine hR.bears_identified (by decide) (by decide) (Bears.prepend ?_ hR.toJoining shown)
  exact (title.element hR.toWoven (by decide) (namesValid_classed _) (ordinary_cons (by decide))
    (hR.values _)).row hR.toWoven

theorem subFigure {index : Nat} {letter : Char} (hl : Session.letter? index = some letter)
    (hc : R caption caption') (hb : R content filled) :
    R (subFigure ⟨number, anchor, caption⟩ letter content)
      (subFigure ⟨number, anchor, caption'⟩ letter filled) := by
  have mark : Bare (String.singleton letter ++ ")") :=
    .append ⟨Session.plain_letter hl, by simp [(Session.letter?_ne hl).1.symm]⟩ (by decide)
  have title : R (Xhtml.element "span" (Xhtml.classed "captionTitle")
      ("(" ++ String.singleton letter ++ ")")) (Xhtml.element "span" (Xhtml.classed "captionTitle")
      ("(" ++ String.singleton letter ++ ")")) := by
    have shown := hR.append (hR.append hR.letterStart (hR.bare mark))
      (hR.endTag (show IsName "span" by decide))
    simpa only [Xhtml.letterStart, Xhtml.element, String.append_assoc] using shown
  have words : R (if caption = "" then "" else " " ++ caption)
      (if caption' = "" then "" else " " ++ caption') := by
    simp only [hR.eq_empty_iff hc]
    split
    · exact hR.empty
    · exact hR.append (hR.bare (by decide)) hc
  exact hR.identified (by decide) (by decide) (hR.append
    (hR.classedElement (by decide) (by decide) (by decide) hb)
    (hR.classedElement (by decide) (by decide) (by decide) (hR.append title words)))

theorem rowsOf (columns : Nat) (h : List.Forall₂ R contents filleds) :
    List.Forall₂ R ((rowsOf columns contents).map Xhtml.row)
      ((Xhtml.rowsOf columns filleds).map Xhtml.row) := by
  induction contents using rowsOf.induct columns generalizing filleds with
  | case1 =>
    cases h
    rw [Xhtml.rowsOf]
    exact .nil
  | case2 cell rest ih =>
    obtain _ | ⟨first, others⟩ := h
    rw [Xhtml.rowsOf, Xhtml.rowsOf]
    exact .cons (hR.row (.cons first (List.forall₂_take _ others)))
      (ih (List.forall₂_drop _ others))

theorem pageGroups (columns : Nat) {pages pages' : List (List String)}
    (h : List.Forall₂ (List.Forall₂ R) pages pages') :
    List.Forall₂ R ((pages.filter (!·.isEmpty)).map (pageGroup columns))
      ((pages'.filter (!·.isEmpty)).map (pageGroup columns)) := by
  rw [List.forall₂_map_left_iff, List.forall₂_map_right_iff]
  refine (List.rel_filter (fun page page' hp ↦ ?_) h).imp fun page page' hp ↦ ?_
  · cases hp <;> rfl
  · exact hR.plainElement (by decide) (hR.join (hR.rowsOf columns hp))

theorem bears_figureSeries (columns : Nat) (hc : R caption caption')
    {pages pages' : List (List String)} (hp : List.Forall₂ (List.Forall₂ R) pages pages') :
    Bears R .figures number (figureSeries ⟨number, anchor, caption⟩ columns pages)
      (figureSeries ⟨number, anchor, caption'⟩ columns pages') := by
  have title : Bears R .figures number (captionText "Figure" ⟨number, anchor, caption⟩)
      (captionText "Figure" ⟨number, anchor, caption'⟩) :=
    hR.bears_captionText (fun _ ↦ .figure number) hc
  have wide : NamesValid (Xhtml.classed "caption" ++ [("colspan", toString (max columns 1))]) := by
    simp; decide
  have cell := title.element hR.toWoven (show IsName "td" by decide) wide
    (ordinary_cons (by decide)) (hR.values _)
  refine hR.bears_identified (by decide) (by decide)
    (Bears.prepend ?_ hR.toJoining (hR.join (hR.pageGroups columns hp)))
  exact (cell.row hR.toWoven).element hR.toWoven (by decide) namesValid_nil ordinary_nil
    (hR.values _)

theorem bears_table (hc : R caption caption') {header header' footer footer' : Option String}
    (hh : Option.Rel R header header') (hf : Option.Rel R footer footer')
    (hb : R content filled) :
    Bears R .tables number (table ⟨number, anchor, caption⟩ header footer content)
      (table ⟨number, anchor, caption'⟩ header' footer' filled) := by
  have title : Bears R .tables number (captionText "Table" ⟨number, anchor, caption⟩)
      (captionText "Table" ⟨number, anchor, caption'⟩) :=
    hR.bears_captionText (fun _ ↦ .table number) hc
  have body : R (if content = "" then emptyBody else content)
      (if filled = "" then emptyBody else filled) := by
    simp only [hR.eq_empty_iff hb]
    split
    · exact hR.plainElement (by decide) (hR.row (.cons (hR.plainCell hR.empty) .nil))
    · exact hb
  have top := title.element hR.toWoven (show IsName "caption" by decide) namesValid_nil
    ordinary_nil (hR.values _)
  exact hR.bears_identified (by decide) (by decide)
    (((top.append hR.toJoining (hR.optional (by decide) namesValid_nil ordinary_nil hh)).append
      hR.toJoining (hR.optional (by decide) namesValid_nil ordinary_nil hf)).append
        hR.toJoining body)

theorem bears_equation (hb : R content filled) :
    Bears R .equations number (equation number anchor content)
      (equation number anchor filled) := by
  have label : Bears R .equations number
      (Xhtml.cell "equationNumber" ("(" ++ toString number ++ ")"))
      (Xhtml.cell "equationNumber" ("(" ++ toString number ++ ")")) :=
    bears_numeral (.equation number) hR.toJoining (hR.endTag (by decide))
  have body : R (Xhtml.cell "equationBody" content) (Xhtml.cell "equationBody" filled) :=
    hR.cell (by decide) (by decide) hb
  have shown := label.prepend hR.toJoining body
  refine hR.bears_identified (by decide) (by decide) ?_
  unfold Xhtml.row
  simp only [String.join_cons, String.join_nil, String.append_empty]
  exact shown.element hR.toWoven (by decide) namesValid_nil ordinary_nil (hR.values _)

/-! ### Everything that is written -/

omit hR in
/-- The backend writes what corresponds for things that correspond, if what is woven corresponds,
also behind line breaks and in macros. -/
theorem respects {L : Likeness} (hR : Weaves L.markup)
    (expand : ∀ {body body' : String} {arguments arguments' : List (Option String)},
      L.markup body body' → List.Forall₂ (Option.Rel L.markup) arguments arguments' →
        L.markup ((Macro.Template.parse body).expand arguments)
          ((Macro.Template.parse body').expand arguments'))
    (marker : ∀ {index marker}, Marker.char? index = some marker →
      L.markup (String.singleton marker) (String.singleton marker))
    (lines : ∀ {text text'}, L.markup text text' → Opens text → Opens text' → L.Lines text text')
    (floats : ∀ {counter number text text'}, Bears L.markup counter number text text' →
      Opens text → Opens text' → L.Floats counter number text text') :
    L.Respects backend where
  toJoining := hR.toJoining
  eq_empty_iff := hR.eq_empty_iff
  expand := expand
  marker := marker
  byline := hR.andTexts
  escape := hR.escape
  noBreakSpace := hR.text fixed_noBreakSpace (by decide)
  link _ text := hR.within (by decide) (by simp; decide) (ordinary_cons (by simp [numberedRoles]))
    (hR.escape text)
  documentStart := hR.documentStart
  head := hR.head
  bodyStart := hR.append hR.newline (hR.opened (by decide) namesValid_nil ordinary_nil)
  titleBlock := hR.titleBlock
  bodyEnd := hR.append (hR.append (hR.append (hR.append hR.newline (hR.endTag (by decide)))
    hR.newline) (hR.endTag (by decide))) hR.newline
  sectionStart _ anchor := lines
    (hR.opened (by decide) (by simp) (ordinary_cons (by decide)))
    (opens_startTag _ _) (opens_startTag _ _)
  sectionEnd := lines (hR.endTag (by decide)) (opens_endTag _) (opens_endTag _)
  sectionHeading depth path _ _ ht := lines (hR.sectionHeading depth (hR.sectionNumber path) ht)
    (opens_element _ _ _) (opens_element _ _ _)
  sectionBodyStart := lines (hR.opened (by decide) (namesValid_classed _)
    (ordinary_cons (by decide))) (opens_startTag _ _) (opens_startTag _ _)
  sectionBodyEnd := lines (hR.endTag (by decide)) (opens_endTag _) (opens_endTag _)
  paragraphStart := lines (hR.opened (by decide) namesValid_nil ordinary_nil)
    (opens_startTag _ _) (opens_startTag _ _)
  paragraphEnd := hR.endTag (by decide)
  inlineStart := hR.inlineStart
  inlineEnd style := hR.endTag (isName_inlineName style)
  listStart ordered := lines (hR.opened (isName_listName ordered) namesValid_nil ordinary_nil)
    (opens_startTag _ _) (opens_startTag _ _)
  listEnd ordered := lines (hR.endTag (isName_listName ordered)) (opens_endTag _) (opens_endTag _)
  itemStart := lines (hR.opened (by decide) namesValid_nil ordinary_nil)
    (opens_startTag _ _) (opens_startTag _ _)
  itemEnd := hR.endTag (by decide)
  image _ _ _ _ := hR.emptied (by decide) (by simp; decide)
    (ordinary_cons (by simp [numberedRoles]))
  figure _ _ _ _ _ _ hc hb := floats (hR.bears_figure hc hb) (opens_element _ _ _)
    (opens_element _ _ _)
  subFigure _ _ _ _ _ _ _ _ hl hc hb := hR.subFigure hl hc hb
  figureSeries _ _ columns _ _ _ _ hc hp := floats (hR.bears_figureSeries columns hc hp)
    (opens_element _ _ _) (opens_element _ _ _)
  table _ _ _ _ _ _ _ _ _ _ hc hh hf hb := floats (hR.bears_table hc hh hf hb)
    (opens_element _ _ _) (opens_element _ _ _)
  tableGroupStart := lines (hR.opened (by decide) namesValid_nil ordinary_nil)
    (opens_startTag _ _) (opens_startTag _ _)
  tableGroupEnd := lines (hR.endTag (by decide)) (opens_endTag _) (opens_endTag _)
  tableRowStart := lines (hR.opened (by decide) namesValid_nil ordinary_nil)
    (opens_startTag _ _) (opens_startTag _ _)
  tableRowEnd := hR.endTag (by decide)
  tableCellStart := hR.cellStart
  tableCellEnd header := hR.endTag (isName_cellName header)
  equation _ _ _ _ hb := floats (hR.bears_equation hb) (opens_element _ _ _) (opens_element _ _ _)
  inlineMathStart := hR.opened (by decide) (namesValid_classed _) (ordinary_cons (by decide))
  inlineMathEnd := hR.endTag (by decide)
  mathNameStart := hR.opened (by decide) (namesValid_classed _) (ordinary_cons (by decide))
  mathNameEnd := hR.endTag (by decide)
  mathOperator operator _ _ h := hR.formula operator h
  bibliographyStart := lines (hR.append (hR.append
      (hR.opened (by decide) (namesValid_classed _) (ordinary_cons (by decide)))
      (hR.classedElement (by decide) (by decide) (by decide) (hR.bare (by decide))))
      (hR.opened (by decide) (namesValid_classed _) (ordinary_cons (by decide))))
    (((opens_startTag _ _).append _).append _) (((opens_startTag _ _).append _).append _)
  bibliographyEntryStart _ _ := hR.opened (by decide) (by simp; decide)
    (ordinary_cons (by simp [numberedRoles]))
  bibliographyEntryEnd := hR.endTag (by decide)
  bibliographyEnd := hR.append (hR.endTag (by decide)) (hR.endTag (by decide))

end Weaves

end Markup

end Manuscript

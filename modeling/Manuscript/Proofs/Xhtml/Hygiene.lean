import Manuscript.Proofs.CrossRef.Key
import Manuscript.Proofs.Xhtml.Orthography
import Manuscript.Xhtml.Backend

/-!
# The hooks of XHTML are tidy

Hooks write fixed texts of their own, and they write what stands in the values of attributes and in
the head as escaped text. So their markup obeys an orthography if what is markup already does, and
if the plain text is text that may be handed in.
-/

namespace Manuscript

namespace Xhtml

open Markup

variable {O : Orthography} {marks : Nat → Prop} {content name role : String}
  {anchor : Option String}

/-- The attributes may be written where `marks` hold. -/
def TidyItems (O : Orthography) (marks : Nat → Prop) (list : List Attribute) : Prop :=
  ∀ item ∈ list, Plain item.1 ∧ O.markup marks (escape item.2)

theorem tidyItems_nil : TidyItems O marks [] := List.forall_mem_nil _

theorem TidyItems.cons {value : String} {list : List Attribute} (h : TidyItems O marks list)
    (hn : Plain name) (hv : O.source value) :
    TidyItems O marks ((name, value) :: list) :=
  List.forall_mem_cons.mpr ⟨⟨hn, O.markup_escape hv⟩, h⟩

theorem TidyItems.append {list list' : List Attribute} (h : TidyItems O marks list)
    (h' : TidyItems O marks list') : TidyItems O marks (list ++ list') :=
  List.forall_mem_append.mpr ⟨h, h'⟩

theorem tidyItems_classed (hr : Plain role) : TidyItems O marks (classed role) :=
  tidyItems_nil.cons (by decide) (O.source_plain hr)

theorem tidyItems_identified (h : ∀ id ∈ anchor, O.source id) :
    TidyItems O marks (identified anchor) := by
  cases anchor with
  | none => exact tidyItems_nil
  | some id => exact tidyItems_nil.cons (by decide) (h id rfl)

theorem tidy_startTag {list : List Attribute} (hn : Plain name) (h : TidyItems O marks list) :
    O.markup marks (startTag name list) := (O.concatenative_markup marks).startTag hn h

theorem tidy_emptyTag {list : List Attribute} (hn : Plain name) (h : TidyItems O marks list) :
    O.markup marks (emptyTag name list) := (O.concatenative_markup marks).emptyTag hn h

theorem tidy_endTag (hn : Plain name) : O.markup marks (endTag name) :=
  (O.concatenative_markup marks).endTag hn

theorem tidy_element {list : List Attribute} (hn : Plain name) (hl : TidyItems O marks list)
    (h : O.markup marks content) : O.markup marks (element name list content) :=
  ((tidy_startTag hn hl).append h).append (tidy_endTag hn)

theorem tidy_classed (hn : Plain name) (hr : Plain role) (h : O.markup marks content) :
    O.markup marks (element name (classed role) content) :=
  tidy_element hn (tidyItems_classed hr) h

theorem tidy_join {texts : List String} (h : ∀ text ∈ texts, O.markup marks text) :
    O.markup marks (String.join texts) :=
  (O.concatenative_markup marks).join (List.forall₂_same.mpr h)

theorem tidy_cell (hr : Plain role) (h : O.markup marks content) :
    O.markup marks (cell role content) := tidy_classed (by decide) hr h

theorem tidy_row {cells : List String} (h : ∀ cell ∈ cells, O.markup marks cell) :
    O.markup marks (row cells) := tidy_element (by decide) tidyItems_nil (tidy_join h)

theorem tidy_optional {text : Option String} (hn : Plain name) {list : List Attribute}
    (hl : TidyItems O marks list) (h : ∀ content ∈ text, O.markup marks content) :
    O.markup marks (optional name list text) := by
  cases text with
  | none => exact O.markup_empty
  | some content => exact tidy_element hn hl (h content rfl)

/-! ### The head and the ends of the document -/

theorem tidy_documentStart : O.markup marks documentStart := by
  have html : TidyItems O marks
      [("xmlns", "http://www.w3.org/1999/xhtml"), ("xml:lang", "en")] :=
    (tidyItems_nil.cons (by decide) (O.source_plain (by decide))).cons (by decide)
      (O.source_plain (by decide))
  have encoding : TidyItems O marks
      [("http-equiv", "Content-Type"), ("content", "application/xhtml+xml; charset=UTF-8")] :=
    (tidyItems_nil.cons (by decide) (O.source_plain (by decide))).cons (by decide)
      (O.source_plain (by decide))
  have declared : Plain prolog :=
    .append (.append (by decide +kernel) (by decide +kernel)) (by decide +kernel)
  have newline : O.markup marks "\n" := O.markup_plain (by decide)
  exact (((((O.markup_plain declared).append (tidy_startTag (by decide) html)).append
    newline).append (tidy_startTag (by decide) tidyItems_nil)).append newline).append
      (tidy_emptyTag (by decide) encoding)

theorem tidy_metadata {value : Option String} (hn : Plain name)
    (h : ∀ text ∈ value, O.source text) :
    O.markup marks (metadata name value) := by
  cases value with
  | none => exact O.markup_empty
  | some value =>
    exact tidy_emptyTag (by decide)
      ((tidyItems_nil.cons (by decide) (h value rfl)).cons (by decide) (O.source_plain hn))

theorem tidy_stylesheetLinks : O.markup marks (String.join (resources.map stylesheetLink)) := by
  refine tidy_join fun text ht ↦ ?_
  obtain ⟨resource, hr, rfl⟩ := List.mem_map.mp ht
  have plain : Plain resource.name ∧ Plain resource.media ∧
      Plain (MediaType.ofPath ⟨resource.name⟩) := by
    clear ht
    revert resource
    decide +kernel
  exact tidy_emptyTag (by decide)
    ((((tidyItems_nil.cons (by decide) (O.source_plain plain.2.1)).cons (by decide)
      (O.source_plain plain.1)).cons (by decide) (O.source_plain plain.2.2)).cons (by decide)
        (O.source_plain (by decide)))

/-- The head is written from plain text. -/
theorem tidy_head {title authors date : Option String}
    (ht : ∀ text ∈ title, O.source text)
    (ha : ∀ text ∈ authors, O.source text)
    (hd : ∀ text ∈ date, O.source text) :
    O.markup marks (head title authors date) := by
  have newline : O.markup marks "\n" := O.markup_plain (by decide)
  have heading : O.markup marks (element "title" [] (escape (title.getD ""))) := by
    refine tidy_element (by decide) tidyItems_nil (O.markup_escape ?_)
    cases title with
    | none => exact O.source_empty
    | some title => exact ht title rfl
  exact (((((newline.append heading).append (tidy_metadata (by decide) ha)).append
    (tidy_metadata (by decide) hd)).append tidy_stylesheetLinks).append newline).append
      (tidy_endTag (by decide))

theorem tidy_titleBlock {title authors date : Option String}
    (ht : ∀ text ∈ title, O.markup marks text) (ha : ∀ text ∈ authors, O.markup marks text)
    (hd : ∀ text ∈ date, O.markup marks text) :
    O.markup marks (titleBlock title authors date) :=
  ((tidy_optional (by decide) (tidyItems_classed (by decide)) ht).append
    (tidy_optional (by decide) (tidyItems_classed (by decide)) ha)).append
      (tidy_optional (by decide) (tidyItems_classed (by decide)) hd)

/-! ### Sections and text -/

theorem tidy_sectionStart (h : ∀ id ∈ anchor, O.source id) :
    O.markup marks (startTag "div" (classed "section" ++ identified anchor)) :=
  tidy_startTag (by decide) ((tidyItems_classed (by decide)).append (tidyItems_identified h))

theorem tidy_sectionHeading (depth : Nat) {number title : String} (hn : Fixed number)
    (ht : O.markup marks title) : O.markup marks (sectionHeading depth number title) := by
  have heading : Plain (headingName depth) :=
    Plain.append (by decide) (plain_toString (min (depth + 1) 6))
  exact tidy_classed heading (by decide)
    (((tidy_classed (by decide) (by decide) (O.markup_fixed hn)).append
      (O.markup_plain (by decide))).append ht)

theorem plain_inlineName (style : InlineStyle) : Plain (inlineName style) := by
  cases style <;> decide

theorem tidyItems_inline (style : InlineStyle) :
    TidyItems O marks (if style = .normal then classed "normal" else []) := by
  split
  · exact tidyItems_classed (by decide)
  · exact tidyItems_nil

theorem plain_listName (ordered : Bool) : Plain (listName ordered) := by
  cases ordered <;> decide

theorem plain_cellName (header : Bool) : Plain (cellName header) := by
  cases header <;> decide

theorem tidy_cellStart (header : Bool) (span : Nat) (align : Option Alignment) :
    O.markup marks (cellStart header span align) := by
  refine tidy_startTag (plain_cellName header) (TidyItems.append ?_ ?_)
  · split
    · exact tidyItems_nil.cons (by decide) (O.source_plain (plain_toString span))
    · exact tidyItems_nil
  · cases align with
    | none => exact tidyItems_nil
    | some align =>
      refine tidyItems_nil.cons (by decide) (O.source_plain ?_)
      cases align <;> decide

theorem fixed_noBreakSpace : Fixed noBreakSpace :=
  fixed_of_pieces [.reference "#160"] (by decide) (by decide)

theorem tidy_link {target : String} (ht : O.source target)
    (h : O.markup marks content) : O.markup marks (element "a" [("href", target)] content) :=
  tidy_element (by decide) (tidyItems_nil.cons (by decide) ht) h

/-! ### Floats and equations -/

/-- The description of an image is plain text. Where it holds markers they are written as
references. -/
theorem tidy_image {source alt : String} (hs : O.source source)
    (ha : O.source alt) (width height : Nat) :
    O.markup marks (image source alt width height) :=
  tidy_emptyTag (by decide)
    ((((tidyItems_nil.cons (by decide) (O.source_plain (plain_toString height))).cons (by decide)
      (O.source_plain (plain_toString width))).cons (by decide) ha).cons (by decide) hs)

/-- A float may be written where `marks` hold. -/
structure TidyFloat (O : Orthography) (marks : Nat → Prop) (float : FloatHead) : Prop where
  anchor : ∀ id ∈ float.anchor, O.source id
  caption : O.markup marks float.caption

variable {float : FloatHead}

theorem tidy_captionText {noun : String} (hn : Plain noun) (h : TidyFloat O marks float) :
    O.markup marks (captionText noun float) := by
  have title : O.markup marks (noun ++ noBreakSpace ++ toString float.number) :=
    ((O.markup_plain hn).append (O.markup_fixed fixed_noBreakSpace)).append
      (O.markup_plain (plain_toString float.number))
  unfold captionText
  dsimp only
  split
  · exact tidy_classed (by decide) (by decide) title
  · exact ((tidy_classed (by decide) (by decide)
      (title.append (O.markup_plain (by decide)))).append (O.markup_plain (by decide))).append
        h.caption

theorem tidyItems_float (hr : Plain role) (h : TidyFloat O marks float) :
    TidyItems O marks (classed role ++ identified float.anchor) :=
  (tidyItems_classed hr).append (tidyItems_identified h.anchor)

theorem tidy_figure (h : TidyFloat O marks float) (hc : O.markup marks content) :
    O.markup marks (figure float content) :=
  tidy_element (by decide) (tidyItems_float (by decide) h)
    ((tidy_row (List.forall_mem_singleton.mpr (tidy_cell (by decide) hc))).append
      (tidy_row (List.forall_mem_singleton.mpr
        (tidy_cell (by decide) (tidy_captionText (by decide) h)))))

theorem tidy_subFigure (h : TidyFloat O marks float) {letter : Char}
    (hl : Plain (String.singleton letter)) (hc : O.markup marks content) :
    O.markup marks (subFigure float letter content) := by
  have caption : O.markup marks (if float.caption = "" then "" else " " ++ float.caption) := by
    split
    · exact O.markup_empty
    · exact (O.markup_plain (by decide)).append h.caption
  have title : Plain ("(" ++ String.singleton letter ++ ")") :=
    .append (.append (by decide) hl) (by decide)
  exact tidy_element (by decide) (tidyItems_float (by decide) h)
    ((tidy_classed (by decide) (by decide) hc).append (tidy_classed (by decide) (by decide)
      ((tidy_classed (by decide) (by decide) (O.markup_plain title)).append caption)))

theorem tidy_rowsOf (columns : Nat) {cells : List String}
    (h : ∀ cell ∈ cells, O.markup marks cell) :
    ∀ text ∈ (rowsOf columns cells).map row, O.markup marks text := by
  induction cells using rowsOf.induct columns with
  | case1 =>
    rw [rowsOf]
    exact List.forall_mem_nil _
  | case2 cell rest ih =>
    rw [List.forall_mem_cons] at h
    rw [rowsOf, List.map_cons, List.forall_mem_cons]
    refine ⟨tidy_row (List.forall_mem_cons.mpr ⟨h.1, fun c hc ↦ h.2 c (List.mem_of_mem_take hc)⟩),
      ih fun c hc ↦ h.2 c (List.mem_of_mem_drop hc)⟩

theorem tidy_figureSeries (columns : Nat) {pages : List (List String)}
    (h : TidyFloat O marks float) (hp : ∀ page ∈ pages, ∀ cell ∈ page, O.markup marks cell) :
    O.markup marks (figureSeries float columns pages) := by
  have groups : ∀ group ∈ (pages.filter (!·.isEmpty)).map (pageGroup columns),
      O.markup marks group := by
    intro group hg
    obtain ⟨page, hm, rfl⟩ := List.mem_map.mp hg
    exact tidy_element (by decide) tidyItems_nil
      (tidy_join (tidy_rowsOf columns (hp page (List.mem_of_mem_filter hm))))
  have wide : TidyItems O marks
      (classed "caption" ++ [("colspan", toString (max columns 1))]) :=
    (tidyItems_classed (by decide)).append
      (tidyItems_nil.cons (by decide) (O.source_plain (plain_toString _)))
  exact tidy_element (by decide) (tidyItems_float (by decide) h)
    ((tidy_join groups).append (tidy_element (by decide) tidyItems_nil
      (tidy_row (List.forall_mem_singleton.mpr
        (tidy_element (by decide) wide (tidy_captionText (by decide) h))))))

theorem tidy_table {header footer : Option String} (h : TidyFloat O marks float)
    (hh : ∀ text ∈ header, O.markup marks text) (hf : ∀ text ∈ footer, O.markup marks text)
    (hc : O.markup marks content) : O.markup marks (table float header footer content) := by
  have body : O.markup marks (if content = "" then emptyBody else content) := by
    split
    · exact tidy_element (by decide) tidyItems_nil (tidy_row (List.forall_mem_singleton.mpr
        (tidy_element (by decide) tidyItems_nil O.markup_empty)))
    · exact hc
  exact tidy_element (by decide) (tidyItems_float (by decide) h)
    ((((tidy_element (by decide) tidyItems_nil (tidy_captionText (by decide) h)).append
      (tidy_optional (by decide) tidyItems_nil hh)).append
        (tidy_optional (by decide) tidyItems_nil hf)).append body)

theorem tidy_equation (number : Nat) (ha : ∀ id ∈ anchor, O.source id)
    (hc : O.markup marks content) : O.markup marks (equation number anchor content) := by
  have title : Plain ("(" ++ toString number ++ ")") :=
    .append (.append (by decide) (plain_toString number)) (by decide)
  exact tidy_element (by decide)
    ((tidyItems_classed (by decide)).append (tidyItems_identified ha))
    (tidy_row (List.forall_mem_cons.mpr ⟨tidy_cell (by decide) hc,
      List.forall_mem_singleton.mpr (tidy_cell (by decide) (O.markup_plain title))⟩))

theorem tidy_formula (operator : Operator) {operands : List String}
    (h : ∀ operand ∈ operands, O.markup marks operand) :
    O.markup marks (formula operator operands) :=
  (O.concatenative_markup marks).woven.formula operator (List.forall₂_same.mpr h)

/-! ### The reference list -/

theorem tidy_bibliographyStart : O.markup marks bibliographyStart :=
  ((tidy_startTag (by decide) (tidyItems_classed (by decide))).append
    (tidy_classed (by decide) (by decide) (O.markup_plain (by decide)))).append
      (tidy_startTag (by decide) (tidyItems_classed (by decide)))

theorem tidy_bibliographyEntryStart {key : String} (h : O.source key) :
    O.markup marks (startTag "li" [("id", key)]) :=
  tidy_startTag (by decide) (tidyItems_nil.cons (by decide) h)

end Xhtml

end Manuscript

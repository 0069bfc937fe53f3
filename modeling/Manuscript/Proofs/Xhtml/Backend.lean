import Manuscript.Proofs.Xhtml.Formula
import Manuscript.Xhtml.Backend

/-!
# Where the hooks of XHTML lead

Most hooks give closed markup if what they are given is closed. The others open an element or end
one, and come in pairs.
-/

namespace Manuscript

namespace Xhtml

open Markup

variable {loose : String → Prop} {content : String} {anchors : List String}

theorem closed_newline : Closed loose "\n" [] := closed_text (by decide)

theorem closed_optional {name role : String} {content : Option String} (hn : IsName name)
    (h : ∀ text ∈ content, Closed loose text []) :
    Closed loose (optional name (classed role) content) [] := by
  cases content with
  | none => exact closed_empty
  | some content => exact closed_classed hn (h content rfl)

/-! ### The head and the ends of the document -/

/-- What `documentStart` writes behind the prolog. -/
def opening : String :=
  startTag "html" [("xmlns", "http://www.w3.org/1999/xhtml"), ("xml:lang", "en")] ++ "\n" ++
  startTag "head" [] ++ "\n" ++
  emptyTag "meta"
    [("http-equiv", "Content-Type"), ("content", "application/xhtml+xml; charset=UTF-8")]

theorem documentStart_eq : documentStart = prolog ++ opening := by
  simp only [documentStart, opening, String.append_assoc]

theorem leads_opening : Leads loose opening [] ["head", "html"] [] := by
  have html : Leads loose (startTag "html"
      [("xmlns", "http://www.w3.org/1999/xhtml"), ("xml:lang", "en")]) [] ["html"] [] :=
    leads_startTag (by decide) (by simp; decide) []
  have head : Leads loose (startTag "head" []) ["html"] ["head", "html"] [] :=
    leads_startTag (by decide) namesValid_nil ["html"]
  have encoding : Closed loose (emptyTag "meta"
      [("http-equiv", "Content-Type"), ("content", "application/xhtml+xml; charset=UTF-8")]) [] :=
    closed_emptyTag (by decide) (by simp; decide)
  exact (((html.append (closed_newline.leads _)).append head).append
    (closed_newline.leads _)).append (encoding.leads _)

theorem closed_metadata (name : String) (content : Option String) :
    Closed loose (metadata name content) [] := by
  cases content with
  | none => exact closed_empty
  | some content => exact closed_emptyTag (by decide) (by simp; decide)

theorem closed_stylesheetLink (resource : Resource) :
    Closed loose (stylesheetLink resource) [] :=
  closed_emptyTag (by decide) (by simp; decide)

/-- The head ends whatever the header said. -/
theorem leads_head (title authors date : Option String) :
    Leads loose (head title authors date) ["head"] [] [] := by
  have heading : Closed loose (element "title" [] (escape (title.getD ""))) [] :=
    closed_plain (by decide) (closed_escape _)
  have links : Closed loose (String.join (resources.map stylesheetLink)) [] := by
    refine (closedAll_of_forall fun text ht ↦ ?_).join
    obtain ⟨resource, _, rfl⟩ := List.mem_map.mp ht
    exact closed_stylesheetLink resource
  have inside := ((((closed_newline.append heading).append
    (closed_metadata "author" authors)).append (closed_metadata "date" date)).append
    links).append closed_newline
  exact (inside.leads ["head"]).append (leads_endTag (by decide) [])

theorem closed_titleBlock {title authors date : Option String}
    (ht : ∀ text ∈ title, Closed loose text []) (ha : ∀ text ∈ authors, Closed loose text [])
    (hd : ∀ text ∈ date, Closed loose text []) :
    Closed loose (titleBlock title authors date) [] :=
  ((closed_optional (by decide) ht).append (closed_optional (by decide) ha)).append
    (closed_optional (by decide) hd)

theorem leads_bodyStart : Leads loose ("\n" ++ startTag "body" []) [] ["body"] [] :=
  (closed_newline.leads []).append (leads_startTag (by decide) namesValid_nil [])

theorem leads_bodyEnd :
    Leads loose ("\n" ++ endTag "body" ++ "\n" ++ endTag "html" ++ "\n") ["body", "html"] [] [] :=
  (((((closed_newline.leads _).append (leads_endTag (by decide) ["html"])).append
    (closed_newline.leads _)).append (leads_endTag (by decide) [])).append closed_newline)

/-! ### Sections and text -/

theorem leads_sectionStart (anchor : Option String) :
    Leads loose (startTag "div" (classed "section" ++ identified anchor)) [] ["div"]
      (anchor.map escape).toList := by
  have h : Leads loose (startTag "div" (classed "section" ++ identified anchor)) [] ["div"]
      (anchorsOf (classed "section" ++ identified anchor)) :=
    leads_startTag (by decide) (by simp) []
  rwa [anchorsOf_append, anchorsOf_classed, anchorsOf_identified, List.nil_append] at h

theorem isName_headingName (depth : Nat) : IsName (headingName depth) := by
  have hd : headingName depth = "h1" ∨ headingName depth = "h2" ∨ headingName depth = "h3" ∨
      headingName depth = "h4" ∨ headingName depth = "h5" ∨ headingName depth = "h6" := by
    have hm : min (depth + 1) 6 = 1 ∨ min (depth + 1) 6 = 2 ∨ min (depth + 1) 6 = 3 ∨
        min (depth + 1) 6 = 4 ∨ min (depth + 1) 6 = 5 ∨ min (depth + 1) 6 = 6 := by omega
    unfold headingName
    rcases hm with h | h | h | h | h | h <;> rw [h] <;> decide
  rcases hd with h | h | h | h | h | h <;> rw [h] <;> decide

theorem closed_sectionHeading (depth : Nat) {number title : String}
    (hn : Closed loose number []) (ht : Closed loose title []) :
    Closed loose (sectionHeading depth number title) [] := by
  have hc : Closed loose (element "span" (classed "sectionNumber") number) [] :=
    closed_classed (by decide) hn
  exact closed_classed (isName_headingName depth) ((hc.append (closed_text (by decide))).append ht)

theorem isName_inlineName (style : InlineStyle) : IsName (inlineName style) := by
  cases style <;> decide

theorem leads_inlineStart (style : InlineStyle) :
    Leads loose (inlineStart style) [] [inlineName style] [] := by
  cases style with
  | normal => exact leads_startTag (by decide) (namesValid_classed _) []
  | _ => exact leads_startTag (by decide) namesValid_nil []

theorem isName_listName (ordered : Bool) : IsName (listName ordered) := by
  cases ordered <;> decide

theorem isName_cellName (header : Bool) : IsName (cellName header) := by
  cases header <;> decide

theorem leads_cellStart (header : Bool) (span : Nat) (align : Option Alignment) :
    Leads loose (cellStart header span align) [] [cellName header] [] := by
  have h : Leads loose (cellStart header span align) [] [cellName header] (anchorsOf
      ((if 1 < span then [("colspan", toString span)] else []) ++
        (align.map fun align ↦ ("style", "text-align: " ++ align.css)).toList)) := by
    refine leads_startTag (isName_cellName header) ((namesValid_append _ _).mpr ⟨?_, ?_⟩) []
    · split
      · simp; decide
      · exact namesValid_nil
    · cases align <;> simp; decide
  have ha : anchorsOf ((if 1 < span then [("colspan", toString span)] else []) ++
      (align.map fun align ↦ ("style", "text-align: " ++ align.css)).toList) = [] := by
    rw [anchorsOf_append]
    split <;> cases align <;> rfl
  rwa [ha] at h

theorem closed_link (target : String) (h : Closed loose content []) :
    Closed loose (element "a" [("href", target)] content) [] :=
  closed_element (by decide) (by simp; decide) h

theorem closed_image (source alt : String) (width height : Nat) :
    Closed loose (image source alt width height) [] :=
  closed_emptyTag (by decide) (by simp; decide)

theorem closed_noBreakSpace : Closed loose noBreakSpace [] :=
  closed_pieces [.reference "#160"] (by decide) (by decide)

/-! ### Floats and equations -/

/-- The element of a float gives its anchor. -/
theorem closed_identified {name role : String} {anchor : Option String} (hn : IsName name)
    (h : Closed loose content anchors) :
    Closed loose (element name (classed role ++ identified anchor) content)
      ((anchor.map escape).toList ++ anchors) := by
  have hc : Closed loose (element name (classed role ++ identified anchor) content)
      (anchorsOf (classed role ++ identified anchor) ++ anchors) :=
    closed_element hn (by simp) h
  rwa [anchorsOf_append, anchorsOf_classed, anchorsOf_identified, List.nil_append] at hc

theorem closed_captionText {noun : String} (float : FloatHead)
    (hn : ∀ c ∈ noun.toList, c ≠ '<' ∧ c ≠ '&') (h : Closed loose float.caption []) :
    Closed loose (captionText noun float) [] := by
  have title : Closed loose (noun ++ noBreakSpace ++ toString float.number) [] :=
    ((closed_text hn).append closed_noBreakSpace).append (closed_toString _)
  unfold captionText
  dsimp only
  split
  · exact closed_classed (by decide) title
  · have head : Closed loose (element "span" (classed "captionTitle")
        (noun ++ noBreakSpace ++ toString float.number ++ ":")) [] :=
      closed_classed (by decide) (title.append (closed_text (by decide)))
    exact (head.append (closed_text (by decide))).append h

theorem closed_figure (float : FloatHead) (hc : Closed loose float.caption [])
    (h : Closed loose content []) :
    Closed loose (figure float content) (float.anchor.map escape).toList := by
  have inside : Closed loose (row [cell "figureBody" content] ++
      row [cell "caption" (captionText "Figure" float)]) [] :=
    (closed_row_of_forall (List.forall_mem_singleton.mpr (closed_cell h))).append
      (closed_row_of_forall (List.forall_mem_singleton.mpr
        (closed_cell (closed_captionText float (by decide) hc))))
  have hf : Closed loose (figure float content) ((float.anchor.map escape).toList ++ []) :=
    closed_identified (by decide) inside
  rwa [List.append_nil] at hf

theorem closed_subFigure (float : FloatHead) {letter : Char} (hl : letter ≠ '<' ∧ letter ≠ '&')
    (hc : Closed loose float.caption []) (h : Closed loose content []) :
    Closed loose (subFigure float letter content) (float.anchor.map escape).toList := by
  have body : Closed loose (element "div" (classed "figureBody") content) [] :=
    closed_classed (by decide) h
  have title : Closed loose ("(" ++ String.singleton letter ++ ")") [] := by
    refine ((closed_text (by decide)).append (closed_text fun c hm ↦ ?_)).append
      (closed_text (by decide))
    rw [String.toList_singleton, List.mem_singleton] at hm
    rwa [hm]
  have caption : Closed loose (if float.caption = "" then "" else " " ++ float.caption) [] := by
    split
    · exact closed_empty
    · exact (closed_text (by decide)).append hc
  have inside : Closed loose (element "div" (classed "figureBody") content ++
      element "div" (classed "caption")
        (element "span" (classed "captionTitle") ("(" ++ String.singleton letter ++ ")") ++
          if float.caption = "" then "" else " " ++ float.caption)) [] :=
    body.append (closed_classed (by decide)
      ((closed_classed (by decide) title).append caption))
  have hf : Closed loose (subFigure float letter content)
      ((float.anchor.map escape).toList ++ []) := closed_identified (by decide) inside
  rwa [List.append_nil] at hf

/-- The rows of some cells give the anchors of the cells. -/
theorem closedAll_rowsOf (columns : Nat) {cells : List String}
    (h : ClosedAll loose cells anchors) :
    ClosedAll loose ((rowsOf columns cells).map row) anchors := by
  induction cells using rowsOf.induct columns generalizing anchors with
  | case1 =>
    rw [rowsOf]
    exact h
  | case2 cell rest ih =>
    rw [rowsOf, List.map_cons]
    rw [← List.take_append_drop (columns - 1) rest, ← List.cons_append] at h
    obtain ⟨front, rear, rfl, hf, hr⟩ := h.exists_append
    exact .cons (closed_row hf) (ih hr)

theorem closed_pageGroup (columns : Nat) {cells : List String}
    (h : ClosedAll loose cells anchors) : Closed loose (pageGroup columns cells) anchors :=
  closed_plain (by decide) (closedAll_rowsOf columns h).join

/-- Pages without cells are left out, and give no anchors. -/
theorem closedAll_pageGroups (columns : Nat) {pages : List (List String)}
    (h : ClosedAll loose pages.flatten anchors) :
    ClosedAll loose ((pages.filter (!·.isEmpty)).map (pageGroup columns)) anchors := by
  induction pages generalizing anchors with
  | nil => exact h
  | cons page pages ih =>
    obtain ⟨front, rear, rfl, hf, hr⟩ := h.exists_append
    cases page with
    | nil =>
      cases hf
      exact ih hr
    | cons cell cells => exact .cons (closed_pageGroup columns hf) (ih hr)

theorem closed_figureSeries (float : FloatHead) (columns : Nat) {pages : List (List String)}
    (hc : Closed loose float.caption []) (h : ClosedAll loose pages.flatten anchors) :
    Closed loose (figureSeries float columns pages)
      ((float.anchor.map escape).toList ++ anchors) := by
  have caption : Closed loose (element "td"
      (classed "caption" ++ [("colspan", toString (max columns 1))])
      (captionText "Figure" float)) [] :=
    closed_element (by decide) (by simp; decide) (closed_captionText float (by decide) hc)
  have last : Closed loose (element "tbody" [] (row [element "td"
      (classed "caption" ++ [("colspan", toString (max columns 1))])
      (captionText "Figure" float)])) [] :=
    closed_plain (by decide) (closed_row_of_forall (List.forall_mem_singleton.mpr caption))
  have inside := (closedAll_pageGroups columns h).join.append last
  rw [List.append_nil] at inside
  exact closed_identified (by decide) inside

theorem closed_table (float : FloatHead) {header footer : Option String}
    (hc : Closed loose float.caption []) (hh : ∀ text ∈ header, Closed loose text [])
    (hf : ∀ text ∈ footer, Closed loose text []) (h : Closed loose content []) :
    Closed loose (table float header footer content) (float.anchor.map escape).toList := by
  have part {name : String} {rows : Option String} (hn : IsName name)
      (hr : ∀ text ∈ rows, Closed loose text []) : Closed loose (optional name [] rows) [] := by
    cases rows with
    | none => exact closed_empty
    | some rows => exact closed_plain hn (hr rows rfl)
  have caption : Closed loose (element "caption" [] (captionText "Table" float)) [] :=
    closed_plain (by decide) (closed_captionText float (by decide) hc)
  have body : Closed loose (if content = "" then emptyBody else content) [] := by
    split
    · exact closed_plain (by decide)
        (closed_row_of_forall (List.forall_mem_singleton.mpr (closed_plainCell closed_empty)))
    · exact h
  have inside := ((caption.append (part (show IsName "thead" by decide) hh)).append
    (part (show IsName "tfoot" by decide) hf)).append body
  have ht : Closed loose (table float header footer content)
      ((float.anchor.map escape).toList ++ []) := closed_identified (by decide) inside
  rwa [List.append_nil] at ht

theorem closed_equation (number : Nat) (anchor : Option String) (h : Closed loose content []) :
    Closed loose (equation number anchor content) (anchor.map escape).toList := by
  have title : Closed loose ("(" ++ toString number ++ ")") [] :=
    ((closed_text (by decide)).append (closed_toString _)).append (closed_text (by decide))
  have inside : Closed loose
      (row [cell "equationBody" content, cell "equationNumber" ("(" ++ toString number ++ ")")])
      [] :=
    closed_row_of_forall (List.forall_mem_cons.mpr
      ⟨closed_cell h, List.forall_mem_singleton.mpr (closed_cell title)⟩)
  have he : Closed loose (equation number anchor content) ((anchor.map escape).toList ++ []) :=
    closed_identified (by decide) inside
  rwa [List.append_nil] at he

/-! ### The reference list -/

theorem leads_bibliographyStart : Leads loose bibliographyStart [] ["ol", "div"] [] := by
  have outer : Leads loose (startTag "div" (classed "references")) [] ["div"] [] :=
    leads_startTag (by decide) (namesValid_classed _) []
  have heading : Closed loose (element "h2" (classed "sectionHead") "References") [] :=
    closed_classed (by decide) (closed_text (by decide))
  have inner : Leads loose (startTag "ol" (classed "references")) ["div"] ["ol", "div"] [] :=
    leads_startTag (by decide) (namesValid_classed _) ["div"]
  exact (outer.append (heading.leads _)).append inner

theorem leads_entryStart (key : String) :
    Leads loose (startTag "li" [("id", key)]) [] ["li"] [escape key] :=
  leads_startTag (by decide) (by simp; decide) []

theorem leads_bibliographyEnd :
    Leads loose (endTag "ol" ++ endTag "div") ["ol", "div"] [] [] :=
  (leads_endTag (by decide) ["div"]).append (leads_endTag (by decide) [])

end Xhtml

end Manuscript

import Manuscript.Proofs.Macro.Template
import Manuscript.Proofs.Xhtml.Escape
import Manuscript.Xhtml.Tag

/-!
# Tags of XHTML as tokens

Escaped text is text, whatever it was before, and may stand in the value of an attribute. So tags
are tokens for all values, and an element is closed if its content is.
-/

namespace Manuscript

namespace Xhtml

open Markup

variable {loose : String → Prop}

theorem closed_escape (text : String) : Closed loose (escape text) [] := by
  obtain ⟨pieces, hq, hr⟩ := exists_pieces_escape text
  exact closed_pieces pieces (fun piece hp ↦ (hq piece hp).1) hr

/-! ### Tags -/

/-- The names of attributes are names. -/
def NamesValid (list : List Attribute) : Prop :=
  ∀ item ∈ list, ∀ c ∈ item.1.toList, isNameChar c = true

/-- The identifiers among attributes, as they are written. -/
def anchorsOf (list : List Attribute) : List String :=
  list.filterMap fun (name, value) ↦ if name = "id" then some (escape value) else none

theorem exists_attr (name value : String) (h : ∀ c ∈ name.toList, isNameChar c = true) :
    ∃ a : Attr, a.Valid ∧ a.render = (attr name value).toList ∧
      a.id? = if name = "id" then some (escape value) else none := by
  obtain ⟨pieces, hq, hr⟩ := exists_pieces_escape value
  refine ⟨⟨name, pieces⟩, ⟨h, hq⟩, ?_, ?_⟩
  · simp [Attr.render, attr, hr]
  · rw [Attr.id?, hr, String.ofList_toList]

theorem exists_attrs {list : List Attribute} (h : NamesValid list) :
    ∃ attrs : List Attr, (∀ a ∈ attrs, a.Valid) ∧
      attrs.flatMap Attr.render = (attributes list).toList ∧
      attrs.filterMap Attr.id? = anchorsOf list := by
  induction list with
  | nil => exact ⟨[], List.forall_mem_nil _, rfl, rfl⟩
  | cons item list ih =>
    obtain ⟨name, value⟩ := item
    obtain ⟨attrs, hv, hr, hi⟩ := ih fun a ha ↦ h a (List.mem_cons_of_mem _ ha)
    obtain ⟨a, hav, har, hai⟩ := exists_attr name value (h _ List.mem_cons_self)
    refine ⟨a :: attrs, List.forall_mem_cons.mpr ⟨hav, hv⟩, ?_, ?_⟩
    · rw [List.flatMap_cons, har, hr, ← String.toList_append]
      exact congrArg String.toList String.join_cons.symm
    · rw [anchorsOf, List.filterMap_cons, List.filterMap_cons, hai, hi]
      rfl

variable {name : String} {list : List Attribute} {opened : List String}

theorem leads_startTag (hn : IsName name) (hl : NamesValid list) (opened : List String) :
    Leads loose (startTag name list) opened (name :: opened) (anchorsOf list) := by
  obtain ⟨attrs, hv, hr, hi⟩ := exists_attrs hl
  rw [← hi]
  refine Reads.leads (reads_token (.start name attrs) ⟨hn, hv⟩ ?_ rfl)
  simp [Token.render, startTag, hr]

theorem leads_endTag (hn : IsName name) (opened : List String) :
    Leads loose (endTag name) (name :: opened) opened [] := by
  refine Reads.leads (reads_token (.stop name) hn ?_ ?_)
  · simp [Token.render, endTag]
  · rw [Token.step, if_pos rfl]

theorem closed_emptyTag (hn : IsName name) (hl : NamesValid list) :
    Closed loose (emptyTag name list) (anchorsOf list) := by
  obtain ⟨attrs, hv, hr, hi⟩ := exists_attrs hl
  rw [← hi]
  refine Reads.leads (reads_token (.empty name attrs) ⟨hn, hv⟩ ?_ rfl)
  simp [Token.render, emptyTag, hr]

/-- An element gives its own identifier and those of its content. -/
theorem closed_element {content : String} {anchors : List String} (hn : IsName name)
    (hl : NamesValid list) (h : Closed loose content anchors) :
    Closed loose (element name list content) (anchorsOf list ++ anchors) := by
  have ht := ((leads_startTag hn hl []).append (h.leads [name])).append (leads_endTag hn [])
  rwa [List.append_nil] at ht

@[simp] theorem namesValid_nil : NamesValid [] := List.forall_mem_nil _

@[simp] theorem namesValid_cons (value : String) :
    NamesValid ((name, value) :: list) ↔
      (∀ c ∈ name.toList, isNameChar c = true) ∧ NamesValid list := List.forall_mem_cons

@[simp] theorem namesValid_append (list list' : List Attribute) :
    NamesValid (list ++ list') ↔ NamesValid list ∧ NamesValid list' := List.forall_mem_append

@[simp] theorem namesValid_classed (value : String) : NamesValid (classed value) :=
  List.forall_mem_singleton.mpr (show ∀ c ∈ "class".toList, isNameChar c = true by decide)

@[simp] theorem namesValid_identified (anchor : Option String) :
    NamesValid (identified anchor) := by
  cases anchor with
  | none => exact namesValid_nil
  | some anchor =>
    exact List.forall_mem_singleton.mpr (show ∀ c ∈ "id".toList, isNameChar c = true by decide)

@[simp] theorem anchorsOf_append (list list' : List Attribute) :
    anchorsOf (list ++ list') = anchorsOf list ++ anchorsOf list' := List.filterMap_append

@[simp] theorem anchorsOf_classed (value : String) : anchorsOf (classed value) = [] := rfl

@[simp] theorem anchorsOf_identified (anchor : Option String) :
    anchorsOf (identified anchor) = (anchor.map escape).toList := by
  cases anchor <;> rfl

end Xhtml

end Manuscript

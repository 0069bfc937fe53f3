import Manuscript.Macro.Template
import Manuscript.Proofs.Markup.Characters
import Manuscript.Proofs.Markup.Reading

/-!
# Expanding templates

A marker is text, and no tag or reference holds one. So whatever is put in its place, if only it is
closed, leaves the tags around it as they are.
-/

namespace Manuscript

open Markup

namespace Macro

/-- What stands for a character when a template is expanded. -/
def fill (arguments : List (Option String)) (c : Char) : List Char :=
  match Marker.index? c with
  | some index => ((arguments[index]?.join).getD "").toList
  | none => [c]

theorem flatMap_expand_ofChars (arguments : List (Option String)) (cs : List Char) :
    (Part.ofChars cs).flatMap (Part.expand arguments) = cs.flatMap (fill arguments) := by
  induction cs with
  | nil => rfl
  | cons c cs ih =>
    rw [List.flatMap_cons, ← ih, Part.ofChars, fill]
    cases Marker.index? c with
    | some index => rfl
    | none =>
      cases Part.ofChars cs with
      | nil => rfl
      | cons part parts => cases part <;> rfl

/-- Expanding a body puts the arguments in place of the markers. -/
theorem toList_expand_parse (body : String) (arguments : List (Option String)) :
    ((Template.parse body).expand arguments).toList = body.toList.flatMap (fill arguments) := by
  rw [Template.expand, String.toList_ofList]
  exact flatMap_expand_ofChars arguments body.toList

/-- What holds no marker is not changed. -/
theorem flatMap_fill_eq_self (arguments : List (Option String)) {cs : List Char}
    (h : ∀ c ∈ cs, Marker.index? c = none) : cs.flatMap (fill arguments) = cs := by
  induction cs with
  | nil => rfl
  | cons c cs ih =>
    rw [List.flatMap_cons, fill, h c List.mem_cons_self,
      ih fun d hd ↦ h d (List.mem_cons_of_mem _ hd)]
    rfl

end Macro

namespace Markup

theorem index?_eq_none_of_isNameChar {c : Char} (h : isNameChar c = true) :
    Marker.index? c = none := by
  have below : c.toNat < Marker.base :=
    Nat.lt_of_le_of_lt (toNat_of_isNameChar h).2 (by decide)
  rw [Marker.index?, if_neg fun hm ↦ Nat.not_le_of_lt below hm.1]

theorem index?_of_mem_referenceNames {name : String} (h : name ∈ referenceNames) :
    ∀ c ∈ name.toList, Marker.index? c = none := by
  revert name
  decide

theorem index?_of_mem_render_piece {piece : Piece} (h : piece.Quoted) :
    ∀ c ∈ piece.render, Marker.index? c = none := by
  intro c hc
  cases piece with
  | char d =>
    rw [List.mem_singleton.mp hc]
    exact h.2.2 d rfl
  | reference name =>
    rw [Piece.render, List.cons_append, List.mem_cons, List.mem_append, List.mem_singleton] at hc
    rcases hc with rfl | hc | rfl
    · decide
    · exact index?_of_mem_referenceNames h.1 c hc
    · decide

theorem index?_of_mem_render_attrs {attrs : List Attr} (h : ∀ attr ∈ attrs, attr.Valid) :
    ∀ c ∈ attrs.flatMap Attr.render, Marker.index? c = none := by
  intro c hc
  obtain ⟨attr, ha, hc⟩ := List.mem_flatMap.mp hc
  simp only [Attr.render, List.cons_append, List.append_assoc, List.mem_cons, List.mem_append,
    List.mem_flatMap, List.not_mem_nil, or_false] at hc
  rcases hc with rfl | hc | rfl | rfl | ⟨piece, hp, hc⟩ | rfl
  · decide
  · exact index?_eq_none_of_isNameChar ((h attr ha).name c hc)
  · decide
  · decide
  · exact index?_of_mem_render_piece ((h attr ha).value piece hp) c hc
  · decide

/-- A marker is a token of its own. -/
theorem index?_of_mem_render {token : Token} (h : token.Valid)
    (ht : ∀ c, token ≠ .text (.char c)) : ∀ c ∈ token.render, Marker.index? c = none := by
  intro c hc
  cases token with
  | text piece =>
    cases piece with
    | char d => exact absurd rfl (ht d)
    | reference name =>
      exact index?_of_mem_render_piece (Piece.quoted_reference h) c hc
  | empty name attrs =>
    simp only [Token.render, List.cons_append, List.append_assoc, List.mem_cons, List.mem_append,
      List.not_mem_nil, or_false] at hc
    rcases hc with rfl | hc | hc | rfl | rfl
    · decide
    · exact index?_eq_none_of_isNameChar (h.1.2 c hc)
    · exact index?_of_mem_render_attrs h.2 c hc
    · decide
    · decide
  | start name attrs =>
    simp only [Token.render, List.cons_append, List.append_assoc, List.mem_cons, List.mem_append,
      List.not_mem_nil, or_false] at hc
    rcases hc with rfl | hc | hc | rfl
    · decide
    · exact index?_eq_none_of_isNameChar (h.1.2 c hc)
    · exact index?_of_mem_render_attrs h.2 c hc
    · decide
  | stop name =>
    simp only [Token.render, List.cons_append, List.mem_cons, List.mem_append,
      List.not_mem_nil, or_false] at hc
    rcases hc with rfl | rfl | hc | rfl
    · decide
    · decide
    · exact index?_eq_none_of_isNameChar (h.2 c hc)
    · decide

variable {loose : String → Prop} {arguments : List (Option String)}

/-- A token leads where it did when the markers are filled with closed texts. -/
theorem leads_fill_token (ha : ∀ text, some text ∈ arguments → Closed loose text [])
    {token : Token} (h : token.Valid) {opened left : List String}
    (hs : token.step opened = some left) :
    Leads loose (String.ofList (token.render.flatMap (Macro.fill arguments))) opened left
      token.ids := by
  by_cases ht : ∃ c, token = .text (.char c) ∧ Marker.index? c ≠ none
  · obtain ⟨c, rfl, hm⟩ := ht
    cases hs
    obtain ⟨index, hi⟩ := Option.ne_none_iff_exists'.mp hm
    have hf : String.ofList ((Token.text (.char c)).render.flatMap (Macro.fill arguments)) =
        (arguments[index]?.join).getD "" := by
      rw [Token.render, Piece.render, List.flatMap_singleton, Macro.fill, hi]
      exact String.ofList_toList
    rw [hf]
    cases hj : arguments[index]?.join with
    | none => exact leads_empty _
    | some text =>
      exact (ha text (List.mem_of_getElem? (Option.join_eq_some_iff.mp hj))).leads opened
  · have hn : ∀ c ∈ token.render, Marker.index? c = none := by
      by_cases hc : ∃ c, token = .text (.char c)
      · obtain ⟨c, rfl⟩ := hc
        intro d hd
        rw [List.mem_singleton.mp hd]
        exact Classical.not_not.mp fun hm ↦ ht ⟨c, rfl, hm⟩
      · exact index?_of_mem_render h fun c hc' ↦ hc ⟨c, hc'⟩
    rw [Macro.flatMap_fill_eq_self arguments hn]
    exact (reads_token token h String.toList_ofList.symm hs).leads

/-- Expanding the body of a macro with closed arguments gives a text that leads where the body
does. -/
theorem Leads.expand {body : String} {opened left : List String}
    (h : Leads loose body opened left [])
    (ha : ∀ text, some text ∈ arguments → Closed loose text []) :
    Leads loose ((Macro.Template.parse body).expand arguments) opened left [] := by
  obtain ⟨ids, ⟨tokens, hv, hr, hb, rfl⟩, hc⟩ := h
  refine Leads.mono ?_ hc
  have hx : (Macro.Template.parse body).expand arguments =
      String.ofList ((tokens.flatMap Token.render).flatMap (Macro.fill arguments)) := by
    rw [hr, ← Macro.toList_expand_parse, String.ofList_toList]
  rw [hx]
  clear hx hr hc
  induction tokens generalizing opened with
  | nil =>
    cases hb
    exact leads_empty _
  | cons token tokens ih =>
    rw [balance, List.foldlM_cons] at hb
    obtain ⟨middle, hs, hb⟩ := Option.bind_eq_some_iff.mp hb
    rw [List.flatMap_cons, List.flatMap_append, String.ofList_append]
    exact (leads_fill_token ha (hv _ List.mem_cons_self) hs).append
      (ih (fun t ht ↦ hv t (List.mem_cons_of_mem _ ht)) hb)

end Markup

end Manuscript

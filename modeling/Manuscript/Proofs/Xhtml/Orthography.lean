import Manuscript.Proofs.Bibliography.Key
import Manuscript.Proofs.Xhtml.Concatenation

/-!
# Orthographies

An orthography says which markup and which plain text may stand where the markers of some parameters
may, and which text may be handed in. Fixed texts obey it, and it is kept by all that is done to
texts: they are put one behind the other, escaped, hidden, trimmed and expanded. So a document obeys
it if the caller does. One orthography keeps markers in their place (`Orthography.hygienic`), the
other one keeps out characters that XML does not allow (`Orthography.spelling`).
-/

namespace Manuscript

namespace Markup

theorem plain_toString (number : Nat) : Plain (toString number) :=
  plain_of_isNameChar fun _ ↦ isNameChar_of_mem_toString

theorem plain_toString_int (number : Int) : Plain (toString number) :=
  plain_of_isNameChar fun _ ↦ isNameChar_of_mem_toString_int

end Markup

open Markup

/-- Which texts may stand where. -/
structure Orthography where
  /-- The markup that may stand where the markers of the parameters `marks` may. -/
  markup : (marks : Nat → Prop) → String → Prop
  /-- The plain text that may stand where the markers of the parameters `marks` may. -/
  text : (marks : Nat → Prop) → String → Prop
  /-- The text that may be handed in. -/
  source : String → Prop
  concatenative_markup : ∀ marks, Concatenative fun s _ ↦ markup marks s
  concatenative_text : ∀ marks, Concatenative fun s _ ↦ text marks s
  concatenative_source : Concatenative fun s _ ↦ source s
  markup_mono : ∀ {marks marks' s}, markup marks s → (∀ index, marks index → marks' index) →
    markup marks' s
  text_mono : ∀ {marks marks' s}, text marks s → (∀ index, marks index → marks' index) →
    text marks' s
  text_of_markup : ∀ {marks s}, markup marks s → text marks s
  source_of_text : ∀ {s}, text (fun _ ↦ False) s → source s
  source_of_subset : ∀ {s s'}, source s → (∀ c ∈ s'.toList, c ∈ s.toList) → source s'
  markup_escape : ∀ {marks s}, source s → markup marks (Xhtml.escape s)
  text_hide : ∀ {marks s}, source s → text marks (Marker.hide s)
  markup_marker : ∀ {marks : Nat → Prop} {index marker}, Marker.char? index = some marker →
    marks index → markup marks (String.singleton marker)
  markup_expand : ∀ {marks marks' body} {arguments : List (Option String)}, markup marks' body →
    (∀ value, some value ∈ arguments → markup marks value) →
      markup marks ((Macro.Template.parse body).expand arguments)
  text_expand : ∀ {marks marks' body} {arguments : List (Option String)}, text marks' body →
    (∀ value, some value ∈ arguments → text marks value) →
      text marks ((Macro.Template.parse body).expand arguments)

namespace Orthography

/-! ### The two orthographies -/

/-- Markers stand where they may, and references to markers and text with markers only if `esc`
holds. -/
def hygienic (esc : Prop) : Orthography where
  markup marks := Tidy marks esc
  text := Marker.Only
  source := Marker.Only fun _ ↦ esc
  concatenative_markup _ := concatenative_tidy
  concatenative_text _ := concatenative_only
  concatenative_source := concatenative_only
  markup_mono h hm := h.mono hm id
  text_mono := Marker.Only.mono
  text_of_markup := Tidy.only
  source_of_text := Marker.Free.only
  source_of_subset h hs c hc := h c (hs c hc)
  markup_escape := Xhtml.tidy_escape
  text_hide _ := (Marker.free_hide _).only
  markup_marker := tidy_char?
  markup_expand := Tidy.expand
  text_expand _ := only_expand

/-- Characters that XML does not allow are given ones. -/
def spelling (given : Char → Prop) : Orthography where
  markup _ := Spelt given
  text _ := Spelt given
  source := Spelt given
  concatenative_markup _ := concatenative_spelt
  concatenative_text _ := concatenative_spelt
  concatenative_source := concatenative_spelt
  markup_mono h _ := h
  text_mono h _ := h
  text_of_markup := id
  source_of_text := id
  source_of_subset := Spelt.of_subset
  markup_escape := Xhtml.spelt_escape
  text_hide := spelt_hide
  markup_marker hc _ := spelt_char? hc
  markup_expand := spelt_expand
  text_expand := spelt_expand

/-! ### What obeys every orthography -/

section

variable {O : Orthography} {marks marks' : Nat → Prop} {s s' : String}

theorem markup.append (h : O.markup marks s) (h' : O.markup marks s') : O.markup marks (s ++ s') :=
  @Concatenative.append _ (O.concatenative_markup marks) s s' s s' h h'

theorem markup.mono (h : O.markup marks s) (hm : ∀ index, marks index → marks' index) :
    O.markup marks' s := O.markup_mono h hm

theorem markup.text (h : O.markup marks s) : O.text marks s := O.text_of_markup h

theorem text.append (h : O.text marks s) (h' : O.text marks s') : O.text marks (s ++ s') :=
  @Concatenative.append _ (O.concatenative_text marks) s s' s s' h h'

theorem text.mono (h : O.text marks s) (hm : ∀ index, marks index → marks' index) :
    O.text marks' s := O.text_mono h hm

theorem source.append (h : O.source s) (h' : O.source s') : O.source (s ++ s') :=
  @Concatenative.append _ O.concatenative_source s s' s s' h h'

end

variable (O : Orthography) {marks : Nat → Prop} {s : String}

theorem markup_fixed (h : Fixed s) : O.markup marks s := (O.concatenative_markup marks).fixed h

theorem source_fixed (h : Fixed s) : O.source s := O.concatenative_source.fixed h

theorem markup_plain (h : Plain s) : O.markup marks s := (O.concatenative_markup marks).plain h

theorem text_plain (h : Plain s) : O.text marks s := (O.concatenative_text marks).plain h

theorem source_plain (h : Plain s) : O.source s := O.concatenative_source.plain h

theorem markup_empty : O.markup marks "" := (O.concatenative_markup marks).empty

theorem text_empty : O.text marks "" := (O.concatenative_text marks).empty

theorem source_empty : O.source "" := O.concatenative_source.empty

end Orthography

end Manuscript

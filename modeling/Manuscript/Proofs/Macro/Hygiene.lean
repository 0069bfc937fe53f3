import Manuscript.Document.Output
import Manuscript.Formula.Operator
import Manuscript.Proofs.Macro.Template

/-!
# Marker hygiene

Markers stand in the same texts as everything else. `Marker.Only` says of which parameters a text
may hold markers, and `Markup.Tidy` adds for markup that every `&` starts a known reference, and
whether some of these references may stand for markers. Both pass through concatenation and through
the expansion of templates, where the markers of the body give way to those of the arguments.
-/

namespace Manuscript

variable {marks marks' : Nat → Prop} {esc esc' : Prop} {text text' : String}

namespace Marker

/-- The text holds no markers but those of the parameters `marks`. -/
def Only (marks : Nat → Prop) (text : String) : Prop :=
  ∀ c ∈ text.toList, ∀ index, index? c = some index → marks index

/-- The text holds no marker. -/
abbrev Free (text : String) : Prop := Only (fun _ ↦ False) text

theorem free_iff : Free text ↔ ∀ c ∈ text.toList, index? c = none :=
  ⟨fun h c hc ↦ Option.eq_none_iff_forall_ne_some.mpr fun index hi ↦ h c hc index hi,
    fun h c hc index hi ↦ by rw [h c hc] at hi; cases hi⟩

instance : DecidablePred Free := fun text ↦
  decidable_of_iff (∀ c ∈ text.toList, index? c = none) free_iff.symm

theorem free_of_forall (h : ∀ c ∈ text.toList, index? c = none) : Free text := free_iff.mpr h

@[simp] theorem only_empty : Only marks "" := fun _ hc ↦ by cases hc

theorem only_append : Only marks (text ++ text') ↔ Only marks text ∧ Only marks text' := by
  simp only [Only, String.toList_append, List.mem_append]
  exact ⟨fun h ↦ ⟨fun c hc ↦ h c (.inl hc), fun c hc ↦ h c (.inr hc)⟩,
    fun h c hc ↦ hc.elim (h.1 c) (h.2 c)⟩

theorem Only.mono (h : Only marks text) (hm : ∀ index, marks index → marks' index) :
    Only marks' text := fun c hc index hi ↦ hm index (h c hc index hi)

theorem Free.only (h : Free text) : Only marks text := Only.mono h fun _ hf ↦ hf.elim

theorem index?_replacement : index? replacement = none := by decide

theorem free_hide (text : String) : Free (hide text) := by
  refine free_of_forall fun c hc ↦ ?_
  rw [hide, String.toList_ofList, List.mem_map] at hc
  obtain ⟨d, _, rfl⟩ := hc
  split
  · exact index?_replacement
  · next hd => exact Option.not_isSome_iff_eq_none.mp hd

theorem index?_char? {index : Nat} {c : Char} (h : char? index = some c) :
    index? c = some index := by
  have each : ∀ i < count, index? (Char.ofNat (base + i)) = some i := by decide
  unfold char? at h
  split at h
  · next hi => exact Option.some.inj h ▸ each index hi
  · cases h

end Marker

namespace Markup

/-- Text that is written as it is: no reference starts in it, it holds no marker, and XML allows its
characters. -/
def Plain (text : String) : Prop :=
  ∀ c ∈ text.toList, c ≠ '&' ∧ Marker.index? c = none ∧ isXmlChar c = true

instance : DecidablePred Plain := fun text ↦ decidableForallMem text.toList

theorem Plain.append (h : Plain text) (h' : Plain text') : Plain (text ++ text') := by
  intro c hc
  rw [String.toList_append, List.mem_append] at hc
  exact hc.elim (h c) (h' c)

theorem plain_of_isNameChar (h : ∀ c ∈ text.toList, isNameChar c = true) : Plain text := by
  refine fun c hc ↦
    ⟨fun he ↦ ?_, index?_eq_none_of_isNameChar (h c hc), isXmlChar_of_isNameChar (h c hc)⟩
  have hn := h c hc
  rw [he] at hn
  cases hn

/-- A piece is no marker but of one of the parameters `marks`, and it stands for a marker only if
`esc` holds. -/
def Piece.Tidy (marks : Nat → Prop) (esc : Prop) : Piece → Prop
  | char c => c ≠ '&' ∧ ∀ index, Marker.index? c = some index → marks index
  | reference name => name ∈ referenceNames ∧ (name ∈ markerNames → esc)

/-- The markup holds no markers but those of the parameters `marks`, and no references to markers
unless `esc` holds. -/
def Tidy (marks : Nat → Prop) (esc : Prop) (text : String) : Prop :=
  ∃ pieces : List Piece, (∀ piece ∈ pieces, piece.Tidy marks esc) ∧
    pieces.flatMap Piece.render = text.toList

/-- The markup holds no markers and no references to markers, and XML allows its characters. -/
structure Fixed (text : String) : Prop where
  clean : Tidy (fun _ ↦ False) False text
  legal : Legal text

theorem tidy_empty : Tidy marks esc "" := ⟨[], List.forall_mem_nil _, rfl⟩

theorem Tidy.append (h : Tidy marks esc text) (h' : Tidy marks esc text') :
    Tidy marks esc (text ++ text') := by
  obtain ⟨pieces, ht, hr⟩ := h
  obtain ⟨pieces', ht', hr'⟩ := h'
  refine ⟨pieces ++ pieces', List.forall_mem_append.mpr ⟨ht, ht'⟩, ?_⟩
  rw [List.flatMap_append, hr, hr', String.toList_append]

theorem Tidy.mono (h : Tidy marks esc text) (hm : ∀ index, marks index → marks' index)
    (he : esc → esc') : Tidy marks' esc' text := by
  obtain ⟨pieces, ht, hr⟩ := h
  refine ⟨pieces, fun piece hp ↦ ?_, hr⟩
  have tidy := ht piece hp
  cases piece with
  | char c => exact ⟨tidy.1, fun index hi ↦ hm index (tidy.2 index hi)⟩
  | reference name => exact ⟨tidy.1, fun hn ↦ he (tidy.2 hn)⟩

theorem Fixed.tidy (h : Fixed text) : Tidy marks esc text :=
  h.clean.mono (fun _ ↦ False.elim) False.elim

theorem Fixed.append (h : Fixed text) (h' : Fixed text') : Fixed (text ++ text') :=
  ⟨h.clean.append h'.clean, by
    rw [Legal, String.toList_append]
    exact List.forall_mem_append.mpr ⟨h.legal, h'.legal⟩⟩

/-- References hold no markers. -/
theorem Tidy.only (h : Tidy marks esc text) : Marker.Only marks text := by
  obtain ⟨pieces, ht, hr⟩ := h
  intro c hc index hi
  rw [← hr, List.mem_flatMap] at hc
  obtain ⟨piece, hp, hc⟩ := hc
  have tidy := ht piece hp
  cases piece with
  | char d =>
    obtain rfl := List.mem_singleton.mp hc
    exact tidy.2 index hi
  | reference name =>
    rw [index?_of_mem_render_piece (Piece.quoted_reference tidy.1) c hc] at hi
    cases hi

/-- A piece that is no marker and no reference to one, and which XML allows. -/
def Piece.Fixed : Piece → Prop
  | char c => c ≠ '&' ∧ Marker.index? c = none ∧ isXmlChar c = true
  | reference name => name ∈ referenceNames ∧ name ∉ markerNames

instance : DecidablePred Piece.Fixed := fun piece ↦
  match piece with
  | .char _ | .reference _ => inferInstanceAs (Decidable (_ ∧ _))

theorem fixed_of_pieces (pieces : List Piece) (h : ∀ piece ∈ pieces, piece.Fixed)
    (hr : pieces.flatMap Piece.render = text.toList) : Fixed text := by
  refine ⟨⟨pieces, fun piece hp ↦ ?_, hr⟩, fun c hc ↦ ?_⟩
  · have fixed := h piece hp
    cases piece with
    | char c => exact ⟨fixed.1, fun index hi ↦ by rw [fixed.2.1] at hi; cases hi⟩
    | reference name => exact ⟨fixed.1, fixed.2⟩
  · have references : ∀ name ∈ referenceNames, ∀ c ∈ (Piece.reference name).render,
        isXmlChar c = true := by decide
    rw [← hr, List.mem_flatMap] at hc
    obtain ⟨piece, hp, hc⟩ := hc
    have fixed := h piece hp
    cases piece with
    | char d => exact List.mem_singleton.mp hc ▸ fixed.2.2
    | reference name => exact references name fixed.1 c hc

theorem fixed_of_plain (h : Plain text) : Fixed text := by
  refine fixed_of_pieces (text.toList.map .char) (fun piece hp ↦ ?_) ?_
  · obtain ⟨c, hc, rfl⟩ := List.mem_map.mp hp
    exact h c hc
  · rw [List.flatMap_map]
    exact List.flatMap_singleton' _

theorem Fixed.only (h : Fixed text) : Marker.Only marks text := Marker.Free.only h.clean.only

theorem only_of_plain (h : Plain text) : Marker.Only marks text := (fixed_of_plain h).only

/-- A character that starts no reference is tidy. -/
theorem tidy_singleton {c : Char} (hc : c ≠ '&')
    (h : ∀ index, Marker.index? c = some index → marks index) :
    Tidy marks esc (String.singleton c) := by
  refine ⟨[.char c], List.forall_mem_singleton.mpr ⟨hc, h⟩, ?_⟩
  rw [List.flatMap_singleton, String.toList_singleton]
  rfl

/-- A marker is tidy where its parameter may be marked. -/
theorem tidy_char? {index : Nat} {c : Char} (hc : Marker.char? index = some c)
    (h : marks index) : Tidy marks esc (String.singleton c) := by
  have hi := Marker.index?_char? hc
  refine tidy_singleton (fun ha ↦ ?_) fun other ho ↦ ?_
  · rw [ha] at hi
    cases hi
  · rw [hi] at ho
    exact Option.some.inj ho ▸ h

/-! ### Templates -/

/-- A character that is no marker joins the literal that follows it, if one does. -/
theorem literal_mem_ofChars_cons {c : Char} {cs literal : List Char} (hc : Marker.index? c = none)
    (h : Macro.Part.literal literal ∈ Macro.Part.ofChars (c :: cs)) :
    (∃ rest, literal = c :: rest ∧ (rest = [] ∨ .literal rest ∈ Macro.Part.ofChars cs)) ∨
      .literal literal ∈ Macro.Part.ofChars cs := by
  rw [Macro.Part.ofChars, hc] at h
  cases hp : Macro.Part.ofChars cs with
  | nil =>
    rw [hp] at h
    exact .inl ⟨[], Macro.Part.literal.inj (List.mem_singleton.mp h), .inl rfl⟩
  | cons part parts =>
    rw [hp] at h
    cases part with
    | slot index =>
      rcases List.mem_cons.mp h with he | h
      · exact .inl ⟨[], Macro.Part.literal.inj he, .inl rfl⟩
      · exact .inr h
    | literal rest =>
      rcases List.mem_cons.mp h with he | h
      · exact .inl ⟨rest, Macro.Part.literal.inj he, .inr List.mem_cons_self⟩
      · exact .inr (List.mem_cons_of_mem _ h)

theorem free_of_literal_mem_ofChars {cs literal : List Char}
    (h : Macro.Part.literal literal ∈ Macro.Part.ofChars cs) :
    ∀ c ∈ literal, Marker.index? c = none := by
  induction cs generalizing literal with
  | nil => cases h
  | cons d cs ih =>
    cases hd : Marker.index? d with
    | some index =>
      rw [Macro.Part.ofChars, hd] at h
      rcases List.mem_cons.mp h with he | h
      · cases he
      · exact ih h
    | none =>
      rcases literal_mem_ofChars_cons hd h with ⟨rest, rfl, rfl | hr⟩ | hr
      · exact List.forall_mem_singleton.mpr hd
      · exact List.forall_mem_cons.mpr ⟨hd, ih hr⟩
      · exact ih hr

/-- The literals of a template hold no markers, whatever it was made from. -/
theorem free_of_literal_mem_parse {body : String} {literal : List Char}
    (h : Macro.Part.literal literal ∈ (Macro.Template.parse body).parts) :
    ∀ c ∈ literal, Marker.index? c = none := free_of_literal_mem_ofChars h

variable {arguments : List (Option String)} {body : String}

/-- The markers of an expanded body are those of the arguments. -/
theorem only_expand (ha : ∀ value, some value ∈ arguments → Marker.Only marks value) :
    Marker.Only marks ((Macro.Template.parse body).expand arguments) := by
  intro c hc index hi
  rw [Macro.toList_expand_parse, List.mem_flatMap] at hc
  obtain ⟨d, _, hc⟩ := hc
  unfold Macro.fill at hc
  split at hc
  · next slot _ =>
    cases hj : arguments[slot]?.join with
    | none =>
      rw [hj] at hc
      cases hc
    | some value =>
      rw [hj] at hc
      exact ha value (List.mem_of_getElem? (Option.join_eq_some_iff.mp hj)) c hc index hi
  · next hd =>
    rw [List.mem_singleton.mp hc, hd] at hi
    cases hi

/-- Expanding tidy markup with tidy arguments gives tidy markup. -/
theorem Tidy.expand (h : Tidy marks' esc body)
    (ha : ∀ value, some value ∈ arguments → Tidy marks esc value) :
    Tidy marks esc ((Macro.Template.parse body).expand arguments) := by
  obtain ⟨pieces, ht, hr⟩ := h
  have hx : (Macro.Template.parse body).expand arguments =
      String.ofList ((pieces.flatMap Piece.render).flatMap (Macro.fill arguments)) := by
    rw [hr, ← Macro.toList_expand_parse, String.ofList_toList]
  rw [hx]
  clear hx hr
  induction pieces with
  | nil => exact tidy_empty
  | cons piece pieces ih =>
    rw [List.forall_mem_cons] at ht
    rw [List.flatMap_cons, List.flatMap_append, String.ofList_append]
    refine Tidy.append ?_ (ih ht.2)
    cases piece with
    | reference name =>
      have free := index?_of_mem_render_piece (Piece.quoted_reference ht.1.1)
      rw [Macro.flatMap_fill_eq_self arguments free]
      refine ⟨[.reference name], List.forall_mem_singleton.mpr ht.1, ?_⟩
      rw [List.flatMap_singleton, String.toList_ofList]
    | char c =>
      rw [Piece.render, List.flatMap_singleton, Macro.fill]
      cases hi : Marker.index? c with
      | none => exact tidy_singleton ht.1.1 fun index hc ↦ by rw [hi] at hc; cases hc
      | some index =>
        dsimp only
        rw [String.ofList_toList]
        cases hj : arguments[index]?.join with
        | none => exact tidy_empty
        | some value => exact ha value (List.mem_of_getElem? (Option.join_eq_some_iff.mp hj))

/-! ### Characters that XML does not allow -/

variable {given : Char → Prop}

/-- What stands for a marker in plain text is allowed. -/
theorem spelt_hide (h : Spelt given text) : Spelt given (Marker.hide text) := by
  intro c hc
  rw [Marker.hide, String.toList_ofList, List.mem_map] at hc
  obtain ⟨d, hd, rfl⟩ := hc
  split
  · exact .inl (by decide)
  · exact h d hd

/-- XML allows markers. -/
theorem spelt_char? {index : Nat} {c : Char} (hc : Marker.char? index = some c) :
    Spelt given (String.singleton c) := by
  intro d hd
  rw [String.toList_singleton, List.mem_singleton] at hd
  exact .inl (hd ▸ isXmlChar_of_index? (Marker.index?_char? hc))

/-- What an expanded body holds is in the body or in an argument. -/
theorem spelt_expand (h : Spelt given body)
    (ha : ∀ value, some value ∈ arguments → Spelt given value) :
    Spelt given ((Macro.Template.parse body).expand arguments) := by
  intro c hc
  rw [Macro.toList_expand_parse, List.mem_flatMap] at hc
  obtain ⟨d, hd, hc⟩ := hc
  unfold Macro.fill at hc
  split at hc
  · next slot _ =>
    cases hj : arguments[slot]?.join with
    | none =>
      rw [hj] at hc
      cases hc
    | some value =>
      rw [hj] at hc
      exact ha value (List.mem_of_getElem? (Option.join_eq_some_iff.mp hj)) c hc
  · exact List.mem_singleton.mp hc ▸ h d hd

end Markup

end Manuscript

import Manuscript.Proofs.CrossRef.Key
import Manuscript.Proofs.Macro.Template
import Mathlib.Data.List.Basic

/-!
# Reading numbers

A reader goes through markup and reads the numbers behind a mark: a start tag with the text behind
it. What it reads in a text does not depend on what stands around the text, if the text has all of a
tag or nothing of it (`Markup.Counts`). The body of a macro may have any number of things in place of
its markers, in which the reader finds nothing that it keeps (`Markup.Shows`).
-/

namespace Manuscript

namespace Markup

/-- The number that a text starts with. -/
def numberAt (text : List Char) : Nat := Nat.ofDigitChars 10 (text.takeWhile Char.isDigit) 0

/-- The numbers right behind a mark, in the order of the text. -/
def numbersBehind (mark : List Char) : List Char → List Nat
  | [] => []
  | c :: text =>
    if mark <+: c :: text then numberAt ((c :: text).drop mark.length) :: numbersBehind mark text
    else numbersBehind mark text

/-- Whatever follows the text, the reader finds these numbers in it, of those that it keeps. -/
def Counts (mark : List Char) (keeps : Nat → Bool) (text : List Char) (numbers : List Nat) : Prop :=
  ∀ rest, (numbersBehind mark (text ++ rest)).filter keeps =
    numbers ++ (numbersBehind mark rest).filter keeps

/-- The mark is a tag with some text behind it. -/
structure Marks (mark : List Char) (tag : Token) (word : List Char) : Prop where
  eq : mark = tag.render ++ word
  valid : tag.Valid
  opens : ∀ piece, tag ≠ .text piece
  word : '<' ∉ word

theorem numberAt_toString (number : Nat) {c : Char} (rest : List Char) (hc : c.isDigit = false) :
    numberAt ((toString number).toList ++ c :: rest) = number := by
  rw [numberAt, List.takeWhile_append_of_pos fun _ ↦ isDigit_of_mem_toString,
    List.takeWhile_cons_of_neg (by simp [hc]), List.append_nil, Nat.toString_eq_ofList_toDigits,
    String.toList_ofList, Nat.ofDigitChars_toDigits (by decide) (by decide)]

/-! ### Where tags start -/

theorem Piece.lt_notMem_render {piece : Piece} (h : piece.Valid) : '<' ∉ piece.render := by
  cases piece with
  | char c => exact fun hm ↦ h.1 (List.mem_singleton.mp hm).symm
  | reference name =>
    have names : ∀ name ∈ referenceNames, '<' ∉ name.toList := by decide
    simp [render, names name h]

theorem lt_notMem_of_isNameChar {text : List Char} (h : ∀ c ∈ text, isNameChar c = true) :
    '<' ∉ text := fun hm ↦ by cases h _ hm

theorem Attr.lt_notMem_render {attr : Attr} (h : attr.Valid) : '<' ∉ attr.render := by
  have name := lt_notMem_of_isNameChar h.name
  have value : '<' ∉ attr.value.flatMap Piece.render := fun hm ↦ by
    obtain ⟨piece, hp, hm⟩ := List.mem_flatMap.mp hm
    exact Piece.lt_notMem_render (h.value piece hp).1 hm
  simp [render, name, value]

theorem lt_notMem_toString (number : Nat) : '<' ∉ (toString number).toList :=
  lt_notMem_of_isNameChar fun _ hc ↦ isNameChar_of_isDigit (isDigit_of_mem_toString hc)

/-- In a tag no other tag starts. -/
theorem Token.exists_render_eq_cons {token : Token} (h : token.Valid)
    (ho : ∀ piece, token ≠ .text piece) : ∃ body, token.render = '<' :: body ∧ '<' ∉ body := by
  have attributes {attrs : List Attr} (h : ∀ attr ∈ attrs, attr.Valid) :
      '<' ∉ attrs.flatMap Attr.render := fun hm ↦ by
    obtain ⟨attr, ha, hm⟩ := List.mem_flatMap.mp hm
    exact Attr.lt_notMem_render (h attr ha) hm
  cases token with
  | text piece => exact absurd rfl (ho piece)
  | empty name attrs | start name attrs =>
    refine ⟨_, rfl, ?_⟩
    simp [lt_notMem_of_isNameChar h.1.2, attributes h.2]
  | stop name =>
    refine ⟨_, rfl, ?_⟩
    simp [lt_notMem_of_isNameChar h.2]

/-! ### What is read in a text -/

section

variable {mark word text text' : List Char} {tag : Token} {keeps : Nat → Bool}
  {numbers numbers' : List Nat}

theorem counts_nil : Counts mark keeps [] [] := fun _ ↦ rfl

theorem Counts.append (h : Counts mark keeps text numbers)
    (h' : Counts mark keeps text' numbers') :
    Counts mark keeps (text ++ text') (numbers ++ numbers') := by
  intro rest
  rw [List.append_assoc, h, h', List.append_assoc]

/-- The whole text is read. -/
theorem Counts.filter_eq (h : Counts mark keeps text numbers) :
    (numbersBehind mark text).filter keeps = numbers := by
  simpa [numbersBehind] using h []

/-- The start of a text can be told from a mark if neither goes on as the other. -/
theorem not_prefix_append (h : ¬ mark <+: text) (h' : ¬ text <+: mark) (rest : List Char) :
    ¬ mark <+: text ++ rest := by
  intro hp
  rcases List.prefix_or_prefix_of_prefix hp (List.prefix_append text rest) with hm | hm
  · exact h hm
  · exact h' hm

namespace Marks

variable (hm : Marks mark tag word)

include hm

theorem exists_eq_cons : ∃ body, mark = '<' :: body ∧ '<' ∉ body := by
  obtain ⟨body, hb, hn⟩ := Token.exists_render_eq_cons hm.valid hm.opens
  exact ⟨body ++ word, by rw [hm.eq, hb, List.cons_append], by simp [hn, hm.word]⟩

/-- Where no tag starts, no number is read. -/
theorem numbersBehind_append (h : '<' ∉ text) (rest : List Char) :
    numbersBehind mark (text ++ rest) = numbersBehind mark rest := by
  obtain ⟨body, rfl, _⟩ := hm.exists_eq_cons
  induction text with
  | nil => rfl
  | cons c text ih =>
    rw [List.mem_cons, not_or] at h
    rw [List.cons_append, numbersBehind, if_neg fun hp ↦ h.1 (List.cons_prefix_cons.mp hp).1]
    exact ih h.2

theorem counts_of_notMem (h : '<' ∉ text) : Counts mark keeps text [] := fun rest ↦ by
  rw [hm.numbersBehind_append h, List.nil_append]

/-- Behind another tag no number is read. -/
theorem counts_of_apart (h : '<' ∉ text) (ha : ∀ rest, ¬ mark <+: '<' :: text ++ rest) :
    Counts mark keeps ('<' :: text) [] := fun rest ↦ by
  have apart := ha rest
  rw [List.cons_append] at apart ⊢
  rw [numbersBehind, if_neg apart, hm.numbersBehind_append h, List.nil_append]

theorem counts_token {token : Token} (h : token.Valid) (hne : token ≠ tag) :
    Counts mark keeps token.render [] := by
  by_cases ho : ∃ piece, token = .text piece
  · obtain ⟨piece, rfl⟩ := ho
    exact hm.counts_of_notMem (Piece.lt_notMem_render h)
  · obtain ⟨body, hb, hn⟩ := Token.exists_render_eq_cons h (not_exists.mp ho)
    rw [hb]
    refine hm.counts_of_apart hn fun rest hp ↦ ?_
    obtain ⟨others, he⟩ := hp
    rw [← hb, hm.eq, List.append_assoc] at he
    exact hne (Token.render_append_inj he hm.valid h).1.symm

/-- Behind the mark the number is read, whatever ends it. -/
theorem counts_number (number : Nat) {ending : List Char} (he : Counts mark keeps ending [])
    (hc : ∃ c rest, ending = c :: rest ∧ c.isDigit = false) :
    Counts mark keeps (mark ++ (toString number).toList ++ ending) ([number].filter keeps) := by
  intro rest
  obtain ⟨body, hb, hn⟩ := hm.exists_eq_cons
  have shown : numberAt ((toString number).toList ++ (ending ++ rest)) = number := by
    obtain ⟨c, tail, rfl, hc⟩ := hc
    exact numberAt_toString number (tail ++ rest) hc
  have found (text : List Char) : numbersBehind mark (mark ++ text) =
      numberAt text :: numbersBehind mark text := by
    have here : mark <+: '<' :: (body ++ text) := ⟨text, by rw [hb, List.cons_append]⟩
    have behind : ('<' :: (body ++ text)).drop mark.length = text := by
      rw [← List.cons_append, ← hb, List.drop_left]
    nth_rewrite 2 [hb]
    rw [List.cons_append, numbersBehind, if_pos here, behind, hm.numbersBehind_append hn]
  rw [List.append_assoc, List.append_assoc, found, shown, hm.numbersBehind_append (lt_notMem_toString number),
    ← List.singleton_append, List.filter_append, he, List.nil_append]

end Marks

end

/-! ### Macros -/

section

variable {mark word : List Char} {tag : Token} {keeps : Nat → Bool} {text text' : String}
  {numbers numbers' : List Nat}

/-- What is put in place of markers holds no numbers that are kept, and nothing else is replaced. -/
structure Fills (mark : List Char) (keeps : Nat → Bool) (f : Char → List Char) : Prop where
  other : ∀ {c}, Marker.index? c = none → f c = [c]
  marker : ∀ {c index}, Marker.index? c = some index → Counts mark keeps (f c) []

/-- The reader finds these numbers in the text, of those that it keeps, whatever is put in place of
the markers. -/
def Shows (mark : List Char) (keeps : Nat → Bool) (text : String) (numbers : List Nat) : Prop :=
  ∀ f, Fills mark keeps f → Counts mark keeps (text.toList.flatMap f) numbers

theorem shows_empty : Shows mark keeps "" [] := fun _ _ ↦ counts_nil

theorem Shows.append (h : Shows mark keeps text numbers) (h' : Shows mark keeps text' numbers') :
    Shows mark keeps (text ++ text') (numbers ++ numbers') := by
  intro f hf
  rw [String.toList_append, List.flatMap_append]
  exact (h f hf).append (h' f hf)

/-- A text without markers is read as it is. -/
theorem shows_of_counts (h : Counts mark keeps text.toList numbers)
    (hc : ∀ c ∈ text.toList, Marker.index? c = none) : Shows mark keeps text numbers := by
  intro f hf
  rw [List.flatMap_congr fun c hm ↦ hf.other (hc c hm)]
  exact (List.flatMap_singleton' text.toList).symm ▸ h

/-- A marker is no tag. -/
theorem Marks.fills_singleton (hm : Marks mark tag word) :
    Fills mark keeps fun c ↦ [c] where
  other _ := rfl
  marker {c index} hi := hm.counts_of_notMem fun hc ↦ by
    rw [← List.mem_singleton.mp hc] at hi
    cases hi

theorem Marks.counts_of_shows (hm : Marks mark tag word) (h : Shows mark keeps text numbers) :
    Counts mark keeps text.toList numbers := by
  have read := h _ hm.fills_singleton
  rwa [List.flatMap_singleton'] at read

/-- A marker shows what stands in its place. -/
theorem shows_marker {index : Nat} {marker : Char} (h : Marker.index? marker = some index) :
    Shows mark keeps (String.singleton marker) [] := by
  intro f hf
  rw [String.toList_singleton, List.flatMap_singleton]
  exact hf.marker h

/-- What a macro writes shows what its body shows, if its arguments show nothing that is kept. -/
theorem shows_expand {body : String} {arguments : List (Option String)}
    (hb : Shows mark keeps body numbers)
    (ha : ∀ index : Nat, Shows mark keeps ((arguments[index]?.join).getD "") []) :
    Shows mark keeps ((Macro.Template.parse body).expand arguments) numbers := by
  intro f hf
  rw [Macro.toList_expand_parse, List.flatMap_assoc]
  refine hb _ ⟨fun {c} hc ↦ ?_, fun {c index} hi ↦ ?_⟩
  · rw [Macro.fill, hc]
    exact (List.flatMap_singleton _ _).trans (hf.other hc)
  · rw [Macro.fill, hi]
    exact ha index f hf

end

end Markup

end Manuscript

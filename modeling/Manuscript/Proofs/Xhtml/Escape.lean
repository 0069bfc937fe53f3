import Manuscript.Proofs.Markup.Characters
import Manuscript.Proofs.Markup.Wording
import Manuscript.Xhtml.Escape

/-!
# Escaped text

Some characters are escaped, each as one reference (`Xhtml.escapes`), and all others are copied. So
escaped text is text to a reader of markup, whatever it was before, and a reader that decodes
references gets the text back, also one that looks like references itself
(`Xhtml.escape_lossless`).
-/

namespace Manuscript

namespace Xhtml

open Markup

/-! ### One character -/

/-- The characters that are escaped, with the names of the references that stand for them: those
that start markup or end a tag or a value, and the markers. -/
def escapes : List (Char × String) :=
  [('&', "amp"), ('<', "lt"), ('>', "gt"), ('"', "quot"),
    ('\ue000', "#xE000"), ('\ue001', "#xE001"), ('\ue002', "#xE002"), ('\ue003', "#xE003"),
    ('\ue004', "#xE004"), ('\ue005', "#xE005"), ('\ue006', "#xE006"), ('\ue007', "#xE007"),
    ('\ue008', "#xE008")]

/-- The character stands for itself in escaped text. -/
def Unescaped (c : Char) : Prop := ∀ entry ∈ escapes, entry.1 ≠ c

variable {c d : Char} {index : Nat} {text name : String}

theorem mem_escapes_of_index? (h : Marker.index? c = some index) :
    (c, "#xE00" ++ String.singleton (Nat.digitChar index)) ∈ escapes := by
  have each : ∀ index < Marker.count, (Char.ofNat (Marker.base + index),
      "#xE00" ++ String.singleton (Nat.digitChar index)) ∈ escapes := by decide
  obtain ⟨code, small⟩ := Marker.toNat_of_index? h
  have listed := each index small
  rwa [← code, Char.ofNat_toNat] at listed

/-- A character is escaped as its reference, if it has one, and copied otherwise. -/
theorem escapeChar_cases (c : Char) :
    (∃ name, (c, name) ∈ escapes ∧ escapeChar c = (Piece.reference name).render) ∨
      Unescaped c ∧ escapeChar c = (Piece.char c).render := by
  unfold escapeChar
  split
  · exact .inl ⟨"amp", by decide, rfl⟩
  · exact .inl ⟨"lt", by decide, rfl⟩
  · exact .inl ⟨"gt", by decide, rfl⟩
  · exact .inl ⟨"quot", by decide, rfl⟩
  · next hamp hlt hgt hquot =>
    cases hi : Marker.index? c with
    | some index =>
      refine .inl ⟨_, mem_escapes_of_index? hi, ?_⟩
      simp [Piece.render]
    | none =>
      have keys : ∀ entry ∈ escapes, entry.1 = '&' ∨ entry.1 = '<' ∨ entry.1 = '>' ∨
          entry.1 = '"' ∨ (Marker.index? entry.1).isSome := by decide
      refine .inr ⟨?_, rfl⟩
      rintro entry listed rfl
      rcases keys entry listed with h | h | h | h | h
      · exact hamp h
      · exact hlt h
      · exact hgt h
      · exact hquot h
      · rw [hi] at h
        cases h

namespace Unescaped

theorem ne (h : Unescaped c) (listed : (d, name) ∈ escapes) : c ≠ d :=
  fun same ↦ h _ listed same.symm

/-- No character of markup stands for itself. -/
theorem ne_markup (h : Unescaped c) : c ≠ '&' ∧ c ≠ '<' ∧ c ≠ '>' ∧ c ≠ '"' :=
  ⟨h.ne (show ('&', "amp") ∈ escapes by decide), h.ne (show ('<', "lt") ∈ escapes by decide),
    h.ne (show ('>', "gt") ∈ escapes by decide), h.ne (show ('"', "quot") ∈ escapes by decide)⟩

theorem index? (h : Unescaped c) : Marker.index? c = none := by
  cases hi : Marker.index? c with
  | none => rfl
  | some index => exact absurd rfl (h.ne (mem_escapes_of_index? hi))

theorem escapeChar_eq (h : Unescaped c) : escapeChar c = [c] := by
  rcases escapeChar_cases c with ⟨name, listed, _⟩ | ⟨_, he⟩
  · exact absurd rfl (h.ne listed)
  · exact he

end Unescaped

/-- A piece of escaped text: a character that stands for itself, or a reference. -/
def Escaped : Piece → Prop
  | .char c => Unescaped c
  | .reference name => ∃ c, (c, name) ∈ escapes

/-- Escaped text may stand between quotes. -/
theorem Escaped.quoted {piece : Piece} (h : Escaped piece) : piece.Quoted := by
  cases piece with
  | char c =>
    obtain ⟨hamp, hlt, _, hquot⟩ := Unescaped.ne_markup h
    exact ⟨⟨hlt, hamp⟩, fun same ↦ hquot (Piece.char.inj same),
      fun _ same ↦ Piece.char.inj same ▸ Unescaped.index? h⟩
  | reference name =>
    have known : ∀ entry ∈ escapes, entry.2 ∈ referenceNames := by decide
    obtain ⟨c, listed⟩ := h
    exact Piece.quoted_reference (known _ listed)

/-- A character is escaped as one piece, which stands for a marker only if the character is one. -/
theorem exists_piece_escapeChar (c : Char) :
    ∃ piece : Piece, Escaped piece ∧ piece.render = escapeChar c ∧
      ∀ name ∈ markerNames, piece = .reference name → (Marker.index? c).isSome := by
  have marked : ∀ entry ∈ escapes, entry.2 ∈ markerNames → (Marker.index? entry.1).isSome := by
    decide
  rcases escapeChar_cases c with ⟨name, listed, he⟩ | ⟨plain, he⟩
  · exact ⟨.reference name, ⟨c, listed⟩, he.symm,
      fun other ho same ↦ marked _ listed (Piece.reference.inj same ▸ ho)⟩
  · exact ⟨.char c, plain, he.symm, nofun⟩

/-- A character is read from what it is escaped as. -/
theorem decode_escapeChar (c : Char) (rest : List Char) :
    decode none (escapeChar c ++ rest) = c :: decode none rest := by
  have stands : ∀ entry ∈ escapes,
      ';' ∉ entry.2.toList ∧ character? entry.2.toList = some entry.1 := by decide
  rcases escapeChar_cases c with ⟨name, listed, he⟩ | ⟨plain, he⟩
  · obtain ⟨ends, denotes⟩ := stands _ listed
    rw [he, Piece.render, List.append_assoc]
    exact decode_reference ends denotes
  · rw [he]
    change decode none (c :: rest) = _
    rw [decode, if_neg plain.ne_markup.1]

/-! ### Texts -/

theorem toList_escape (text : String) :
    (escape text).toList = text.toList.flatMap escapeChar := String.toList_ofList

theorem escape_append (text text' : String) :
    escape (text ++ text') = escape text ++ escape text' := by
  rw [← String.toList_inj, String.toList_append, toList_escape, toList_escape, toList_escape,
    String.toList_append, List.flatMap_append]

theorem exists_escaped_pieces (text : String) :
    ∃ pieces : List Piece, (∀ piece ∈ pieces, Escaped piece) ∧
      pieces.flatMap Piece.render = (escape text).toList := by
  rw [toList_escape]
  induction text.toList with
  | nil => exact ⟨[], List.forall_mem_nil _, rfl⟩
  | cons c cs ih =>
    obtain ⟨piece, he, hr, _⟩ := exists_piece_escapeChar c
    obtain ⟨pieces, hes, hrs⟩ := ih
    refine ⟨piece :: pieces, List.forall_mem_cons.mpr ⟨he, hes⟩, ?_⟩
    rw [List.flatMap_cons, List.flatMap_cons, hr, hrs]

theorem exists_pieces_escape (text : String) :
    ∃ pieces : List Piece, (∀ piece ∈ pieces, piece.Quoted) ∧
      pieces.flatMap Piece.render = (escape text).toList := by
  obtain ⟨pieces, escaped, written⟩ := exists_escaped_pieces text
  exact ⟨pieces, fun piece hp ↦ (escaped piece hp).quoted, written⟩

/-- Escaped text starts and ends no tag and no value, and holds no placeholder. -/
theorem inert_of_mem_escape (h : c ∈ (escape text).toList) :
    c ≠ '<' ∧ c ≠ '>' ∧ c ≠ '"' ∧ Marker.index? c = none := by
  have inert : ∀ entry ∈ escapes, ∀ c ∈ (Piece.reference entry.2).render,
      c ≠ '<' ∧ c ≠ '>' ∧ c ≠ '"' ∧ Marker.index? c = none := by decide
  obtain ⟨pieces, escaped, written⟩ := exists_escaped_pieces text
  rw [← written, List.mem_flatMap] at h
  obtain ⟨piece, hp, hc⟩ := h
  have he := escaped piece hp
  cases piece with
  | char d =>
    obtain rfl := List.mem_singleton.mp hc
    exact ⟨he.ne_markup.2.1, he.ne_markup.2.2.1, he.ne_markup.2.2.2, he.index?⟩
  | reference name =>
    obtain ⟨d, listed⟩ := he
    exact inert _ listed c hc

theorem notMem_escape (text : String) :
    '<' ∉ (escape text).toList ∧ '>' ∉ (escape text).toList :=
  ⟨fun h ↦ (inert_of_mem_escape h).1 rfl, fun h ↦ (inert_of_mem_escape h).2.1 rfl⟩

theorem index?_of_mem_escape (text : String) :
    ∀ c ∈ (escape text).toList, Marker.index? c = none :=
  fun _ h ↦ (inert_of_mem_escape h).2.2.2

/-- Whatever stands behind escaped text, a reader of references gets the text and reads on. -/
theorem decode_escape_append (text : String) (rest : List Char) :
    decode none ((escape text).toList ++ rest) = text.toList ++ decode none rest := by
  rw [toList_escape]
  induction text.toList with
  | nil => rfl
  | cons c cs ih =>
    rw [List.flatMap_cons, List.append_assoc, decode_escapeChar, ih, List.cons_append]

/-- Escaped text says the text. -/
theorem says_escape (text : String) : Says (escape text) text :=
  says_of_decode (notMem_escape text).1 (decode_escape_append text)

/-- Every ampersand of escaped text starts the reference of an escaped character. -/
theorem exists_escape_of_ampersand {rest : List Char} (h : '&' :: rest <:+ (escape text).toList) :
    ∃ entry ∈ escapes, entry.2.toList ++ [';'] <+: rest := by
  have inert : ∀ entry ∈ escapes, '&' ∉ (Piece.reference entry.2).render.tail := by decide
  obtain ⟨pieces, escaped, written⟩ := exists_escaped_pieces text
  have starts : ∀ piece ∈ pieces, piece ≠ .char '&' ∧ '&' ∉ piece.render.tail := by
    intro piece hp
    have he := escaped piece hp
    cases piece with
    | char c => exact ⟨fun same ↦ he.ne_markup.1 (Piece.char.inj same), List.not_mem_nil⟩
    | reference name =>
      obtain ⟨c, listed⟩ := he
      exact ⟨nofun, inert _ listed⟩
  rw [← written] at h
  obtain ⟨name, after, hm, rfl⟩ := exists_reference_of_ampersand starts h
  obtain ⟨c, listed⟩ := escaped _ hm
  exact ⟨_, listed, after, by rw [List.append_assoc, List.singleton_append]⟩

theorem escape_eq_self_of_unescaped (h : ∀ c ∈ text.toList, Unescaped c) : escape text = text := by
  rw [escape, List.flatMap_congr fun c hc ↦ (h c hc).escapeChar_eq, List.flatMap_singleton',
    String.ofList_toList]

/-- Names are written as they are. -/
theorem escape_eq_self (h : ∀ c ∈ text.toList, isNameChar c = true) : escape text = text := by
  have reserved : ∀ entry ∈ escapes, isNameChar entry.1 = false := by decide
  refine escape_eq_self_of_unescaped fun c hc entry listed same ↦ ?_
  have named := h c hc
  rw [← same, reserved entry listed] at named
  cases named

/-- What holds no references after it has been escaped was written as it is. -/
theorem escape_eq_self_of_notMem (h : '&' ∉ (escape text).toList) : escape text = text := by
  refine escape_eq_self_of_unescaped fun c hc ↦ ?_
  rcases escapeChar_cases c with ⟨name, _, he⟩ | ⟨plain, _⟩
  · rw [toList_escape, List.mem_flatMap] at h
    exact absurd ⟨c, hc, he ▸ List.mem_cons_self⟩ h
  · exact plain

/-- Escaping loses nothing and is safe. It only appends to the buffer; what it appends ends and
starts nothing, and holds no marker; every ampersand in it starts one of the references that stand
for escaped characters; a reader who decodes the references from left to right gets the text, so
different texts are escaped differently; and a text may be escaped in parts. -/
theorem escape_lossless (text : String) :
    (∀ buffer, escapeOnto buffer text = buffer ++ escape text) ∧
    (∀ c ∈ (escape text).toList,
      c ≠ '<' ∧ c ≠ '>' ∧ c ≠ '"' ∧ ¬ (0xe000 ≤ c.toNat ∧ c.toNat ≤ 0xe008)) ∧
    (∀ front rest, (escape text).toList = front ++ '&' :: rest →
      ∃ entry ∈ escapes, entry.2.toList ++ [';'] <+: rest) ∧
    decode none (escape text).toList = text.toList ∧
    (∀ other, escape other = escape text → other = text) ∧
    (∀ other, escape (text ++ other) = escape text ++ escape other) ∧
    ∀ buffer other,
      escapeOnto buffer (text ++ other) = escapeOnto (escapeOnto buffer text) other := by
  refine ⟨fun buffer ↦ escapeOnto_eq buffer text, ?_, ?_, ?_, ?_, escape_append text, ?_⟩
  · intro c hc
    obtain ⟨hlt, hgt, hquot, free⟩ := inert_of_mem_escape hc
    refine ⟨hlt, hgt, hquot, fun range ↦ ?_⟩
    rw [Marker.index?, if_pos ⟨range.1, Nat.lt_succ_of_le range.2⟩] at free
    cases free
  · exact fun front rest split ↦ exists_escape_of_ampersand ⟨front, split.symm⟩
  · simpa only [List.append_nil, decode] using decode_escape_append text []
  · intro other same
    rw [← (says_escape other).wording, same, (says_escape text).wording]
  · intro buffer other
    simp only [escapeOnto_eq, escape_append, String.append_assoc]

/-- Text that looks like references comes back as it is. -/
example : escape "&amp; &#xE000; \ue000" = "&amp;amp; &amp;#xE000; &#xE000;" ∧
    wording "&amp;amp; &amp;#xE000; &#xE000;" = "&amp; &#xE000; \ue000" := by decide

end Xhtml

end Manuscript

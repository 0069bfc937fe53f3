import Manuscript.Proofs.Macro.Concatenation
import Manuscript.Proofs.Prose.Series
import Manuscript.Proofs.Xhtml.Tag
import Manuscript.Xhtml.Formula

/-!
# Tags and formulas are put together from their parts

The markup of an element is put together from its tags and its content, and the markup of an
operator from that of its operands. So what holds between tags and themselves, and between texts
without tags and themselves (`Markup.Woven`), holds between all of it.
-/

namespace Manuscript

namespace Xhtml

open Markup

variable {marks : Nat → Prop} {esc : Prop} {R : String → String → Prop}

/-- Escaped text holds no markers, and references to markers only where the text holds markers. -/
theorem tidy_escape {text : String} (h : Marker.Only (fun _ ↦ esc) text) :
    Tidy marks esc (escape text) := by
  have each (c : Char) (hc : ∀ index, Marker.index? c = some index → esc) :
      Tidy marks esc (String.ofList (escapeChar c)) := by
    obtain ⟨piece, escaped, hr, hm⟩ := exists_piece_escapeChar c
    have hq := escaped.quoted
    refine ⟨[piece], List.forall_mem_singleton.mpr ?_, ?_⟩
    · cases piece with
      | char d =>
        refine ⟨hq.1.2, fun index hi ↦ ?_⟩
        rw [hq.2.2 d rfl] at hi
        cases hi
      | reference name =>
        refine ⟨hq.1, fun hn ↦ ?_⟩
        obtain ⟨index, hi⟩ := Option.isSome_iff_exists.mp (hm name hn rfl)
        exact hc index hi
    · rw [List.flatMap_singleton, hr, String.toList_ofList]
  unfold Marker.Only at h
  unfold escape
  revert h
  generalize text.toList = cs
  intro h
  induction cs with
  | nil => exact tidy_empty
  | cons c cs ih =>
    rw [List.forall_mem_cons] at h
    rw [List.flatMap_cons, String.ofList_append]
    exact (each c h.1).append (ih h.2)

/-- Escaping a character gives the character or characters that XML allows. -/
theorem mem_escapeChar {c d : Char} (h : d ∈ escapeChar c) : d = c ∨ isXmlChar d = true := by
  have legal : ∀ entry ∈ escapes, ∀ d ∈ (Piece.reference entry.2).render, isXmlChar d = true := by
    decide
  rcases escapeChar_cases c with ⟨name, listed, he⟩ | ⟨_, he⟩
  · rw [he] at h
    exact .inr (legal _ listed d h)
  · rw [he] at h
    exact .inl (List.mem_singleton.mp h)

theorem spelt_escape {given : Char → Prop} {text : String} (h : Spelt given text) :
    Spelt given (escape text) := by
  intro d hd
  rw [escape, String.toList_ofList, List.mem_flatMap] at hd
  obtain ⟨c, hc, hd⟩ := hd
  rcases mem_escapeChar hd with rfl | hd
  · exact h d hc
  · exact .inl hd

theorem fixed_escape {text : String} (h : Plain text) : Fixed (escape text) := by
  have legal : Spelt (fun _ ↦ False) text := fun c hc ↦ .inl (h c hc).2.2
  exact ⟨tidy_escape (only_of_plain h), fun c hc ↦ (spelt_escape legal c hc).resolve_right id⟩

/-! ### Tags -/

/-- The attributes of what is numbered in a document, and of the letters of sub-figures. -/
def numberedRoles : List Attribute := [("class", "captionTitle"), ("class", "equationNumber")]

/-- The attributes of a tag that is not for numbers. -/
def Ordinary (list : List Attribute) : Prop := ∀ item ∈ list.head?, item ∉ numberedRoles

theorem ordinary_nil : Ordinary [] := nofun

theorem ordinary_cons {item : Attribute} {list : List Attribute} (h : item ∉ numberedRoles) :
    Ordinary (item :: list) := fun _ hi ↦ Option.some.inj hi ▸ h

/-- Text in which neither a tag nor a reference starts. -/
def Bare (text : String) : Prop := Plain text ∧ '<' ∉ text.toList

instance : DecidablePred Bare := fun _ ↦ inferInstanceAs (Decidable (_ ∧ _))

variable {text text' : String}

theorem Bare.append (h : Bare text) (h' : Bare text') : Bare (text ++ text') :=
  ⟨h.1.append h'.1, by simp [h.2, h'.2]⟩

theorem bare_of_isNameChar (h : ∀ c ∈ text.toList, isNameChar c = true) : Bare text :=
  ⟨plain_of_isNameChar h, fun hm ↦ by cases h _ hm⟩

end Xhtml

namespace Markup

open Xhtml

/-- Concatenation keeps the relation, and it holds between a fixed text without tags and itself, and
between a tag and itself, but for those in which numbers stand. -/
structure Woven (R : String → String → Prop) : Prop extends Joining R where
  text : ∀ {text}, Fixed text → '<' ∉ text.toList → R text text
  startTag : ∀ {name list}, IsName name → NamesValid list → Ordinary list →
    (∀ item ∈ list, R (escape item.2) (escape item.2)) → R (startTag name list) (startTag name list)
  emptyTag : ∀ {name list}, IsName name → NamesValid list → Ordinary list →
    (∀ item ∈ list, R (escape item.2) (escape item.2)) → R (emptyTag name list) (emptyTag name list)
  endTag : ∀ {name}, IsName name → R (endTag name) (endTag name)

namespace Concatenative

variable {R : String → String → Prop} (hR : Concatenative R) {name : String} {list : List Attribute}

include hR

theorem attributes (h : ∀ item ∈ list, Plain item.1 ∧ R (escape item.2) (escape item.2)) :
    R (attributes list) (attributes list) := by
  unfold Xhtml.attributes
  induction list with
  | nil => exact hR.empty
  | cons item list ih =>
    rw [List.forall_mem_cons] at h
    rw [List.map_cons, String.join_cons]
    refine hR.append ?_ (ih h.2)
    exact hR.append (hR.append (hR.append (hR.append (hR.plain (by decide)) (hR.plain h.1.1))
      (hR.plain (by decide))) h.1.2) (hR.plain (by decide))

theorem startTag (hn : Plain name)
    (h : ∀ item ∈ list, Plain item.1 ∧ R (escape item.2) (escape item.2)) :
    R (startTag name list) (startTag name list) :=
  hR.append (hR.append (hR.append (hR.plain (by decide)) (hR.plain hn)) (hR.attributes h))
    (hR.plain (by decide))

theorem emptyTag (hn : Plain name)
    (h : ∀ item ∈ list, Plain item.1 ∧ R (escape item.2) (escape item.2)) :
    R (emptyTag name list) (emptyTag name list) :=
  hR.append (hR.append (hR.append (hR.plain (by decide)) (hR.plain hn)) (hR.attributes h))
    (hR.plain (by decide))

theorem endTag (hn : Plain name) : R (endTag name) (endTag name) :=
  hR.append (hR.append (hR.plain (by decide)) (hR.plain hn)) (hR.plain (by decide))

/-- What holds between all fixed texts and themselves holds between tags and themselves. -/
theorem woven : Woven R where
  toJoining := hR.joining
  text h _ := hR.fixed h
  startTag hn hl _ h := hR.startTag (plain_of_isNameChar hn.2) fun item hi ↦
    ⟨plain_of_isNameChar (hl item hi), h item hi⟩
  emptyTag hn hl _ h := hR.emptyTag (plain_of_isNameChar hn.2) fun item hi ↦
    ⟨plain_of_isNameChar (hl item hi), h item hi⟩
  endTag hn := hR.endTag (plain_of_isNameChar hn.2)

end Concatenative

namespace Woven

variable {R : String → String → Prop} (hR : Woven R) {name role : String}
  {list : List Attribute} {content filled : String} {contents filleds : List String}

include hR

theorem bare {text : String} (h : Bare text) : R text text := hR.text (fixed_of_plain h.1) h.2

/-- A value of plain text in an attribute. -/
theorem value {text : String} (h : Plain text) : R (escape text) (escape text) := by
  exact hR.text (fixed_escape h) (notMem_escape text).1

theorem element (hn : IsName name) (hl : NamesValid list) (ho : Ordinary list)
    (h : ∀ item ∈ list, R (escape item.2) (escape item.2)) (hc : R content filled) :
    R (element name list content) (element name list filled) :=
  hR.append (hR.append (hR.startTag hn hl ho h) hc) (hR.endTag hn)

theorem classed (hr : Plain role) :
    ∀ item ∈ classed role, R (escape item.2) (escape item.2) :=
  List.forall_mem_singleton.mpr (hR.value hr)

theorem classedElement (hn : IsName name) (hr : Plain role)
    (ho : ("class", role) ∉ numberedRoles) (hc : R content filled) :
    R (Xhtml.element name (Xhtml.classed role) content)
      (Xhtml.element name (Xhtml.classed role) filled) :=
  hR.element hn (namesValid_classed role) (ordinary_cons ho) (hR.classed hr) hc

theorem plainElement (hn : IsName name) (hc : R content filled) :
    R (Xhtml.element name [] content) (Xhtml.element name [] filled) :=
  hR.element hn namesValid_nil ordinary_nil (List.forall_mem_nil _) hc

/-- Texts are joined with plain text. -/
theorem andTexts (h : List.Forall₂ R contents filleds) :
    R (Series.andTexts contents).plain (Series.andTexts filleds).plain := by
  have joints : ∀ joint ∈ Series.joints, Bare joint.plain := by decide
  have joined : List.Forall₂ (fun span span' : Span ↦ R span.plain span'.plain)
      (Series.andTexts contents) (Series.andTexts filleds) := by
    rw [Series.andTexts_eq, Series.andTexts_eq]
    refine Series.forall₂_join (fun span hs ↦ hR.bare (joints span hs)) .and false ?_
    rw [List.forall₂_map_left_iff, List.forall₂_map_right_iff]
    exact h.imp fun _ _ hc ↦ .cons hc .nil
  refine hR.join ?_
  rw [List.forall₂_map_left_iff, List.forall₂_map_right_iff]
  exact joined

/-! ### Formulas -/

theorem enclosed {opening separator closing : String} (ho : R opening opening)
    (hs : R separator separator) (hc : R closing closing) (h : List.Forall₂ R contents filleds) :
    R (enclosed opening separator closing contents) (enclosed opening separator closing filleds) :=
  hR.append (hR.append ho (hR.intercalate hs h)) hc

theorem chained {sign : String} (hs : R sign sign) (h : List.Forall₂ R contents filleds) :
    R (chained sign contents) (chained sign filleds) := hR.enclosed hR.empty hs hR.empty h

theorem bracketed {opening closing : String} (ho : Bare opening) (hc : Bare closing)
    (h : List.Forall₂ R contents filleds) :
    R (bracketed opening closing contents) (bracketed opening closing filleds) :=
  hR.enclosed (hR.bare ho) (hR.bare (by decide)) (hR.bare hc) h

theorem cell (hr : Plain role) (ho : ("class", role) ∉ numberedRoles) (hc : R content filled) :
    R (cell role content) (cell role filled) := hR.classedElement (by decide) hr ho hc

theorem plainCell (hc : R content filled) : R (plainCell content) (plainCell filled) :=
  hR.plainElement (by decide) hc

theorem row (h : List.Forall₂ R contents filleds) : R (row contents) (row filleds) :=
  hR.plainElement (by decide) (hR.join h)

theorem layout (hr : Plain role) (ho : ("class", "math " ++ role) ∉ numberedRoles)
    (h : List.Forall₂ R contents filleds) : R (layout role contents) (layout role filleds) :=
  hR.classedElement (by decide) (.append (by decide) hr) ho (hR.join h)

theorem radical : R radical radical :=
  hR.cell (by decide) (by decide)
    (hR.text (fixed_of_pieces [.reference "#x221A"] (by decide) (by decide)) (by decide))

theorem fraction (h : List.Forall₂ R contents filleds) :
    R (fraction contents) (fraction filleds) := by
  rcases h with _ | ⟨hx, _ | ⟨hy, _ | _⟩⟩
  · exact hR.empty
  · exact hR.empty
  · exact hR.layout (by decide) (by decide)
      (.cons (hR.row (.cons (hR.cell (by decide) (by decide) hx) .nil))
        (.cons (hR.row (.cons (hR.cell (by decide) (by decide) hy) .nil)) .nil))
  · exact hR.empty

theorem power (h : List.Forall₂ R contents filleds) : R (power contents) (power filleds) := by
  rcases h with _ | ⟨hx, _ | ⟨hy, _ | _⟩⟩
  · exact hR.empty
  · exact hR.empty
  · have attrs : ∀ item ∈ [("class", "base"), ("rowspan", "2")],
        R (escape item.2) (escape item.2) :=
      List.forall_mem_cons.mpr ⟨hR.value (by decide),
        List.forall_mem_singleton.mpr (hR.value (by decide))⟩
    exact hR.layout (by decide) (by decide)
      (.cons (hR.row (.cons (hR.element (by decide) (by simp; decide) (ordinary_cons (by decide)) attrs hx)
        (.cons (hR.cell (by decide) (by decide) hy) .nil)))
        (.cons (hR.row (.cons (hR.plainCell hR.empty) .nil)) .nil))
  · exact hR.empty

theorem squareRoot (h : List.Forall₂ R contents filleds) :
    R (squareRoot contents) (squareRoot filleds) := by
  rcases h with _ | ⟨hx, _ | _⟩
  · exact hR.empty
  · exact hR.layout (by decide) (by decide)
      (.cons (hR.row (.cons hR.radical (.cons (hR.cell (by decide) (by decide) hx) .nil))) .nil)
  · exact hR.empty

theorem indexedRoot (h : List.Forall₂ R contents filleds) :
    R (indexedRoot contents) (indexedRoot filleds) := by
  rcases h with _ | ⟨hx, _ | ⟨hy, _ | _⟩⟩
  · exact hR.empty
  · exact hR.empty
  · exact hR.layout (by decide) (by decide)
      (.cons (hR.row (.cons (hR.cell (by decide) (by decide) hx)
        (.cons hR.radical (.cons (hR.cell (by decide) (by decide) hy) .nil)))) .nil)
  · exact hR.empty

theorem bigOperator {sign : String} (hs : Bare sign) (h : List.Forall₂ R contents filleds) :
    R (bigOperator sign contents) (bigOperator sign filleds) := by
  rcases h with _ | ⟨hx, _ | ⟨hy, _ | ⟨hz, _ | _⟩⟩⟩
  · exact hR.empty
  · exact hR.empty
  · exact hR.empty
  · have limit {content filled : String} (hc : R content filled) :
        R (Xhtml.row [Xhtml.cell "limit" content, Xhtml.plainCell ""])
          (Xhtml.row [Xhtml.cell "limit" filled, Xhtml.plainCell ""]) :=
      hR.row (.cons (hR.cell (by decide) (by decide) hc) (.cons (hR.plainCell hR.empty) .nil))
    exact hR.layout (by decide) (by decide)
      (.cons (limit hy) (.cons (hR.row (.cons (hR.cell (by decide) (by decide) (hR.bare hs))
        (.cons (hR.plainCell hz) .nil))) (.cons (limit hx) .nil)))
  · exact hR.empty

theorem application (h : List.Forall₂ R contents filleds) :
    R (application contents) (application filleds) := by
  cases h with
  | nil => exact hR.empty
  | cons applied others => exact hR.append applied (hR.bracketed (by decide) (by decide) others)

theorem absolute (h : List.Forall₂ R contents filleds) :
    R (absolute contents) (absolute filleds) := by
  rcases h with _ | ⟨hx, _ | _⟩
  · exact hR.empty
  · have bar : R (Xhtml.cell "bar" "|") (Xhtml.cell "bar" "|") :=
      hR.cell (by decide) (by decide) (hR.bare (by decide))
    exact hR.layout (by decide) (by decide)
      (.cons (hR.row (.cons bar (.cons (hR.plainCell hx) (.cons bar .nil)))) .nil)
  · exact hR.empty

/-- The markup of an operator is put together from that of its operands. -/
theorem formula (operator : Operator) (h : List.Forall₂ R contents filleds) :
    R (formula operator contents) (formula operator filleds) := by
  have comparison {name : String} (hn : name ∈ ["lt", "gt"]) :
      R (" &" ++ name ++ "; ") (" &" ++ name ++ "; ") := by
    refine hR.text (fixed_of_pieces [.char ' ', .reference name, .char ' '] ?_ ?_) ?_
    · revert name; decide
    · simp [Piece.render]
    · revert name; decide
  cases operator with
  | less => exact hR.chained (comparison (.head _)) h
  | greater => exact hR.chained (comparison (.tail _ (.head _))) h
  | negate | not | factorial | parentheses | brackets | braces | floor | ceil | set | tuple =>
    exact hR.bracketed (by decide) (by decide) h
  | fraction => exact hR.fraction h
  | power => exact hR.power h
  | sqrt => exact hR.squareRoot h
  | root => exact hR.indexedRoot h
  | sum | product => exact hR.bigOperator (by decide) h
  | function => exact hR.application h
  | abs => exact hR.absolute h
  | _ => exact hR.chained (hR.bare (by decide)) h

end Woven

end Markup

end Manuscript

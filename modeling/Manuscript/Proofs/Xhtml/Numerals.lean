import Manuscript.Proofs.Markup.Numbers
import Manuscript.Proofs.Xhtml.Weaving

/-!
# The numbers of floats in XHTML

Each sort of float shows its number behind a mark of its own (`Counter.mark`). Nothing else has the
mark, whatever a caller writes, since no other tag is the one that the mark starts with. So a reader
finds in the markup of a float the number of the float, and in all other markup nothing
(`Markup.Tells`).
-/

namespace Manuscript

open Markup Xhtml

namespace Xhtml

variable {name role value : String} {list : List Attribute}

/-- The attribute of a role, as it stands in a tag. -/
def roleAttr (role : String) : Attr := ⟨"class", role.toList.map .char⟩

theorem render_roleAttr (role : String) :
    (roleAttr role).render = ' ' :: "class".toList ++ '=' :: '"' :: role.toList ++ ['"'] := by
  have chars : (role.toList.map Piece.char).flatMap Piece.render = role.toList := by
    rw [List.flatMap_map]
    exact List.flatMap_singleton' _
  rw [Attr.render, roleAttr, chars]

/-- An attribute that is written as that of a role is that of the role. -/
theorem eq_of_render_roleAttr (hn : ∀ c ∈ name.toList, isNameChar c = true) (hr : '&' ∉ role.toList)
    (h : (attr name value).toList = (roleAttr role).render) : name = "class" ∧ value = role := by
  have ht : name.toList ++ '=' :: ('"' :: (escape value).toList ++ ['"']) =
      "class".toList ++ '=' :: ('"' :: role.toList ++ ['"']) := by
    rw [render_roleAttr] at h
    simpa [attr] using h
  obtain ⟨rfl, hv⟩ := name_append_cons_inj '=' '=' ht hn (by decide) rfl rfl
  simp only [List.cons_append, List.cons.injEq, true_and, List.append_cancel_right_eq] at hv
  have same : escape value = value := escape_eq_self_of_notMem (hv ▸ hr)
  exact ⟨rfl, String.toList_injective (same ▸ hv)⟩

/-- A tag that is not for numbers is none that starts with the attribute of a numbered role. -/
theorem exists_ordinary_attrs (hl : NamesValid list) (ho : Ordinary list) :
    ∃ attrs : List Attr, (∀ attr ∈ attrs, attr.Valid) ∧
      attrs.flatMap Attr.render = (attributes list).toList ∧
      ∀ role, ("class", role) ∈ numberedRoles → attrs ≠ [roleAttr role] := by
  cases list with
  | nil => exact ⟨[], List.forall_mem_nil _, rfl, fun _ _ h ↦ by cases h⟩
  | cons item list =>
    obtain ⟨name, value⟩ := item
    obtain ⟨hn, hl⟩ := List.forall_mem_cons.mp hl
    obtain ⟨first, valid, hf, _⟩ := exists_attr name value hn
    obtain ⟨others, valids, hr, _⟩ := exists_attrs hl
    refine ⟨first :: others, List.forall_mem_cons.mpr ⟨valid, valids⟩, ?_, fun role numbered h ↦ ?_⟩
    · rw [List.flatMap_cons, hf, hr, ← String.toList_append]
      exact congrArg String.toList String.join_cons.symm
    · obtain ⟨rfl, -⟩ := List.cons.inj h
      have plain : ∀ item ∈ numberedRoles, '&' ∉ item.2.toList := by decide
      obtain ⟨rfl, rfl⟩ := eq_of_render_roleAttr hn (plain _ numbered) hf.symm
      exact ho _ (Option.mem_some_self _) numbered

end Xhtml

namespace Counter

/-- What stands in front of the number of a float. -/
def mark : Counter → String
  | figures => "<span class=\"captionTitle\">Figure&#160;"
  | tables => "<span class=\"captionTitle\">Table&#160;"
  | equations => "<td class=\"equationNumber\">("

/-- The tag that the mark starts with. -/
def tag : Counter → Token
  | figures | tables => .start "span" [roleAttr "captionTitle"]
  | equations => .start "td" [roleAttr "equationNumber"]

/-- What stands between the tag and the number. -/
def word : Counter → List Char
  | figures => "Figure&#160;".toList
  | tables => "Table&#160;".toList
  | equations => ['(']

theorem marks (counter : Counter) : Marks counter.mark.toList counter.tag counter.word where
  eq := by cases counter <;> decide
  valid := by cases counter <;> decide
  opens _ h := by cases counter <;> cases h
  word := by cases counter <;> decide

/-- The tag is one for numbers. -/
theorem exists_tag_eq (counter : Counter) : ∃ name role,
    counter.tag = .start name [roleAttr role] ∧ ("class", role) ∈ numberedRoles := by
  cases counter with
  | figures | tables => exact ⟨_, _, rfl, .head _⟩
  | equations => exact ⟨_, _, rfl, .tail _ (.head _)⟩

end Counter

namespace Markup

variable {counter : Counter} {keeps : Nat → Bool} {number : Nat} {text text' name : String}
  {numbers : List Nat} {list : List Attribute}

/-- The same text, in which a reader finds these numbers of floats. -/
def Tells (counter : Counter) (keeps : Nat → Bool) (numbers : List Nat) (text text' : String) :
    Prop :=
  text = text' ∧ Shows counter.mark.toList keeps text numbers

/-! ### What shows no number -/

theorem tells_of_notMem (h : '<' ∉ text.toList) (hc : ∀ c ∈ text.toList, Marker.index? c = none) :
    Tells counter keeps [] text text :=
  ⟨rfl, shows_of_counts (counter.marks.counts_of_notMem h) hc⟩

theorem tells_token (token : Token) (h : token.Valid) (ho : ∀ piece, token ≠ .text piece)
    (hne : token ≠ counter.tag) (ht : text.toList = token.render) :
    Tells counter keeps [] text text := by
  refine ⟨rfl, shows_of_counts (ht ▸ counter.marks.counts_token h hne) ?_⟩
  rw [ht]
  exact index?_of_mem_render h fun c ↦ ho (.char c)

/-- A text with one tag shows no number if the tag and the mark differ somewhere. -/
theorem tells_of_apart (front back : List Char) (ht : text.toList = '<' :: front ++ back)
    (hf : '<' ∉ front ++ back) (hc : ∀ c ∈ text.toList, Marker.index? c = none)
    (hm : ¬ counter.mark.toList <+: '<' :: front) (hm' : ¬ '<' :: front <+: counter.mark.toList) :
    Tells counter keeps [] text text := by
  refine ⟨rfl, shows_of_counts ?_ hc⟩
  rw [ht, List.cons_append]
  refine counter.marks.counts_of_apart hf fun rest ↦ ?_
  rw [← List.cons_append, List.append_assoc]
  exact not_prefix_append hm hm' (back ++ rest)

theorem joining_tells : Joining (Tells counter keeps []) where
  empty := ⟨rfl, shows_empty⟩
  append := by
    rintro _ _ _ _ ⟨rfl, h⟩ ⟨rfl, h'⟩
    exact ⟨rfl, h.append h'⟩

theorem tells_prolog : Tells counter keeps [] prolog prolog := by
  have declared : Tells counter keeps [] "<?xml version=\"1.0\" encoding=\"UTF-8\"?>\n"
      "<?xml version=\"1.0\" encoding=\"UTF-8\"?>\n" :=
    tells_of_apart ['?'] "xml version=\"1.0\" encoding=\"UTF-8\"?>\n".toList (by decide) (by decide)
      (by decide) (by cases counter <;> decide) (by cases counter <;> decide)
  have typed : Tells counter keeps []
      ("<!DOCTYPE html PUBLIC \"-//W3C//DTD XHTML 1.1//EN\" " ++
        "\"http://www.w3.org/TR/xhtml11/DTD/xhtml11.dtd\">\n")
      ("<!DOCTYPE html PUBLIC \"-//W3C//DTD XHTML 1.1//EN\" " ++
        "\"http://www.w3.org/TR/xhtml11/DTD/xhtml11.dtd\">\n") :=
    tells_of_apart ['!'] ("DOCTYPE html PUBLIC \"-//W3C//DTD XHTML 1.1//EN\" ".toList ++
      "\"http://www.w3.org/TR/xhtml11/DTD/xhtml11.dtd\">\n".toList) (by decide) (by decide)
      (by decide) (by cases counter <;> decide) (by cases counter <;> decide)
  have both := joining_tells.append declared typed
  rwa [← String.append_assoc] at both

theorem weaves_tells : Weaves (Tells counter keeps []) where
  toJoining := joining_tells
  text h hn := tells_of_notMem hn (Marker.free_iff.mp h.only)
  startTag {name list} hn hl ho _ := by
    obtain ⟨attrs, hv, hr, other⟩ := exists_ordinary_attrs hl ho
    obtain ⟨mark, role, ht, numbered⟩ := counter.exists_tag_eq
    refine tells_token (.start name attrs) ⟨hn, hv⟩ (fun _ h ↦ by cases h) (fun h ↦ ?_) ?_
    · rw [ht] at h
      exact other role numbered (Token.start.inj h).2
    · simp [Token.render, startTag, hr]
  emptyTag {name list} hn hl _ _ := by
    obtain ⟨attrs, hv, hr, _⟩ := exists_attrs hl
    obtain ⟨mark, role, ht, _⟩ := counter.exists_tag_eq
    refine tells_token (.empty name attrs) ⟨hn, hv⟩ (fun _ h ↦ by cases h) (fun h ↦ ?_) ?_
    · rw [ht] at h
      cases h
    · simp [Token.render, emptyTag, hr]
  endTag {name} hn := by
    obtain ⟨mark, role, ht, _⟩ := counter.exists_tag_eq
    refine tells_token (.stop name) hn (fun _ h ↦ by cases h) (fun h ↦ ?_) ?_
    · rw [ht] at h
      cases h
    · simp [Token.render, endTag]
  prolog := tells_prolog
  letterStart := tells_of_apart "span class=\"captionTitle\">(".toList [] (by decide) (by decide)
    (by decide) (by cases counter <;> decide) (by cases counter <;> decide)
  escape text := tells_of_notMem (notMem_escape text).1 (index?_of_mem_escape text)
  eq_empty_iff h := by rw [h.1]

/-- A line break tells nothing. -/
theorem tells_lineBreak (d : Document) :
    Tells counter keeps [] d.lineBreak d.lineBreak := by
  unfold Document.lineBreak
  split
  · have blank : ∀ c ∈ ('\n' :: List.replicate (2 * d.depth) ' '), c ∈ ['\n', ' '] := by
      simp +contextual [List.mem_replicate]
    have plain : ∀ c ∈ ['\n', ' '], c ≠ '<' ∧ Marker.index? c = none := by decide
    refine tells_of_notMem (fun hm ↦ ?_) fun c hm ↦ ?_ <;> rw [String.toList_ofList] at hm
    · exact (plain '<' (blank _ hm)).1 rfl
    · exact (plain c (blank c hm)).2
  · exact joining_tells.empty

/-! ### What shows the number of a float -/

/-- What may stand behind the number of a float. -/
def numeralEnds : List String := ")" :: captionEnds

theorem exists_numeral_eq {sort : Counter} {numeral : String} (h : Numeral sort number numeral) :
    ∃ ending ∈ numeralEnds, numeral = sort.mark ++ toString number ++ ending := by
  have caption {sort : Counter} {noun ending : String} (he : ending ∈ captionEnds)
      (hs : startTag "span" (classed "captionTitle") ++ (noun ++ noBreakSpace) = sort.mark) :
      ∃ tail ∈ numeralEnds,
        captionStart noun number ++ ending = sort.mark ++ toString number ++ tail := by
    refine ⟨ending, .tail _ he, ?_⟩
    rw [captionStart, ← String.append_assoc, hs]
  cases h with
  | figure _ he => exact caption he (by decide)
  | table _ he => exact caption he (by decide)
  | equation =>
    have start : startTag "td" (classed "equationNumber") ++ "(" = Counter.equations.mark := by
      decide
    refine ⟨")", .head _, ?_⟩
    rw [equationLabel, ← start]
    simp only [String.append_assoc]

/-- What ends a number is no number and no mark. -/
theorem tells_numeralEnd (counter : Counter) (keeps : Nat → Bool) {ending : String}
    (h : ending ∈ numeralEnds) :
    Tells counter keeps [] ending ending ∧ (∀ c ∈ ending.toList, Marker.index? c = none) ∧
      ∃ c rest, ending.toList = c :: rest ∧ c.isDigit = false := by
  have shown : ∀ ending ∈ numeralEnds, (∀ c ∈ ending.toList, Marker.index? c = none) ∧
      ∀ c ∈ ending.toList.take 1, c.isDigit = false := by decide
  have opened : ∀ ending ∈ numeralEnds, ending.toList ≠ [] := by decide
  refine ⟨?_, (shown ending h).1, ?_⟩
  · obtain rfl | rfl | rfl : ending = ")" ∨ ending = ":" ∨ ending = endTag "span" := by
      simpa [numeralEnds, captionEnds] using h
    · exact weaves_tells.bare (by decide)
    · exact weaves_tells.bare (by decide)
    · exact weaves_tells.endTag (by decide)
  · obtain ⟨c, rest, hr⟩ := List.exists_cons_of_ne_nil (opened ending h)
    exact ⟨c, rest, hr, (shown ending h).2 c (by rw [hr]; exact List.mem_singleton_self c)⟩

theorem index?_of_mem_numeral (sort : Counter) (number : Nat) :
    ∀ c ∈ (sort.mark ++ toString number).toList, Marker.index? c = none := by
  have mark : ∀ c ∈ sort.mark.toList, Marker.index? c = none := by cases sort <;> decide
  rw [String.toList_append]
  exact List.forall_mem_append.mpr ⟨mark, fun _ hc ↦
    index?_eq_none_of_isNameChar (isNameChar_of_isDigit (isDigit_of_mem_toString hc))⟩

/-- The mark of another counter is no mark. -/
theorem tells_other {sort : Counter} (h : sort ≠ counter) (number : Nat) :
    Tells counter keeps [] (sort.mark ++ toString number) (sort.mark ++ toString number) := by
  obtain ⟨front, hf, hn⟩ := sort.marks.exists_eq_cons
  have apart : ∀ sort counter : Counter, sort ≠ counter →
      ¬ sort.mark.toList <+: counter.mark.toList := by
    intro sort counter
    cases sort <;> cases counter <;> decide
  refine tells_of_apart front (toString number).toList ?_ ?_ (index?_of_mem_numeral sort number) ?_ ?_
  · rw [String.toList_append, hf]
  · exact fun hm ↦ (List.mem_append.mp hm).elim hn (lt_notMem_toString number)
  · exact hf ▸ apart counter sort h.symm
  · exact hf ▸ apart sort counter h

/-- A reader finds the number of a float if it is a float of the sort that the reader is after. -/
theorem tells_numeral {sort : Counter} {numeral : String} (h : Numeral sort number numeral) :
    Tells counter keeps (if sort = counter then [number].filter keeps else []) numeral numeral := by
  obtain ⟨ending, he, rfl⟩ := exists_numeral_eq h
  obtain ⟨silent, free, stop⟩ := tells_numeralEnd counter keeps he
  split
  · next same =>
    subst same
    refine ⟨rfl, shows_of_counts ?_ ?_⟩
    · rw [String.toList_append, String.toList_append]
      exact sort.marks.counts_number number (sort.marks.counts_of_shows silent.2) stop
    · rw [String.toList_append]
      exact List.forall_mem_append.mpr ⟨index?_of_mem_numeral sort number, free⟩
  · next other => exact joining_tells.append (tells_other other number) silent

/-- A float tells its number, and nothing around the number tells anything. -/
theorem Bears.tells {sort : Counter} (h : Bears (Tells counter keeps []) sort number text text') :
    Tells counter keeps (if sort = counter then [number].filter keeps else []) text text' := by
  obtain ⟨numeral, shown, front, _, back, _, ⟨rfl, hf⟩, ⟨rfl, hb⟩, rfl, rfl⟩ := h
  refine ⟨rfl, ?_⟩
  have whole := (hf.append (tells_numeral shown).2).append hb
  rwa [List.nil_append, List.append_nil] at whole

/-! ### Documents in which numbers are read -/

/-- The same markup, with the numbers that a reader finds in it. -/
def numbering (counter : Counter) (keeps : Nat → Bool) : Likeness where
  markup := Tells counter keeps []
  lineBreak := Tells counter keeps []
  float sort number := Tells counter keeps (if sort = counter then [number].filter keeps else [])

/-- What a macro writes tells nothing if its body and its arguments tell nothing. -/
theorem tells_expand {body body' : String} {arguments arguments' : List (Option String)}
    (hb : Tells counter keeps [] body body')
    (ha : List.Forall₂ (Option.Rel (Tells counter keeps [])) arguments arguments') :
    Tells counter keeps [] ((Macro.Template.parse body).expand arguments)
      ((Macro.Template.parse body').expand arguments') := by
  obtain ⟨rfl, hb⟩ := hb
  have same : arguments = arguments' := by
    rw [← List.forall₂_eq_eq_eq]
    refine ha.imp fun argument argument' h ↦ ?_
    cases h with
    | none => rfl
    | some h => exact congrArg some h.1
  subst same
  exact ⟨rfl, shows_expand hb fun index ↦ (joining_tells.argument ha index).2⟩

theorem respects_numbering : (numbering counter keeps).Respects backend :=
  weaves_tells.respects tells_expand
    (fun hm ↦ ⟨rfl, shows_marker (Marker.index?_char? hm)⟩)
    (fun h _ _ _ _ hl ↦ joining_tells.append hl h)
    fun h _ _ _ _ hl ↦ (h.prepend joining_tells hl).tells

/-- In what has reached the root, all the numbers up to the count are read, of those that are
kept. -/
def ReadAtRoot (counter : Counter) (keeps : Nat → Bool) (count : Counter → Nat)
    (whole _ : String) : Prop :=
  Counts counter.mark.toList keeps whole.toList ((List.range' 1 (count counter)).filter keeps)

theorem follows_numbering :
    (numbering counter keeps).Follows (fun sort number ↦ sort = counter → keeps number = false)
      (ReadAtRoot counter keeps) where
  append {count whole whole' m m'} h hm := by
    have read := Counts.append h (counter.marks.counts_of_shows hm.2)
    rwa [List.append_nil, ← String.toList_append] at read
  float {count whole whole' sort m m'} h hm := by
    have read := Counts.append h (counter.marks.counts_of_shows hm.2)
    rw [← String.toList_append] at read
    unfold ReadAtRoot
    by_cases hs : sort = counter
    · subst hs
      rwa [if_pos rfl, ← List.filter_append, Nat.add_comm, ← List.range'_1_concat,
        ← Function.update_self sort (count sort + 1) count] at read
    · rw [if_neg hs, List.append_nil] at read
      rwa [Function.update_of_ne (Ne.symm hs)]
  skip {count whole whole' sort} h ha := by
    unfold ReadAtRoot
    by_cases hs : sort = counter
    · subst hs
      rw [Function.update_self, List.range'_1_concat, List.filter_append, Nat.add_comm 1,
        List.filter_singleton, ha rfl]
      exact (List.append_nil _).symm ▸ h
    · rwa [Function.update_of_ne (Ne.symm hs)]
  markup {sort number m m'} ha h := by
    refine ⟨h.1, ?_⟩
    have shown := h.2
    split at shown
    · next hs =>
      rw [List.filter_singleton, ha hs] at shown
      simpa using shown
    · exact shown

end Markup

end Manuscript

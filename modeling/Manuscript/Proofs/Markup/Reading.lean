import Manuscript.Proofs.Markup.Token
import Mathlib.Logic.ExistsUnique

/-!
# Reading markup

`Markup.Reads` says how a text reads as tokens: which elements it finds open, which it leaves open,
and which identifiers it gives. Texts that are read one after the other are read as a whole, and
elements around those that a text touches may be open as well. `Markup.Leads` forgets the
identifiers that are of no concern and bounds the others.
-/

namespace Manuscript

namespace Markup

/-- The text reads as valid tokens that find the elements `opened` and leave `left`, the innermost
first, with identifiers `ids`. -/
def Reads (text : String) (opened left ids : List String) : Prop :=
  ∃ tokens : List Token, (∀ token ∈ tokens, token.Valid) ∧
    tokens.flatMap Token.render = text.toList ∧ balance tokens opened = some left ∧
    tokens.flatMap Token.ids = ids

variable {text text' : String} {opened middle left ids ids' : List String}

theorem reads_empty (opened : List String) : Reads "" opened opened [] :=
  ⟨[], List.forall_mem_nil _, rfl, rfl, rfl⟩

theorem Reads.append (h : Reads text opened middle ids) (h' : Reads text' middle left ids') :
    Reads (text ++ text') opened left (ids ++ ids') := by
  obtain ⟨tokens, hv, hr, hb, hi⟩ := h
  obtain ⟨tokens', hv', hr', hb', hi'⟩ := h'
  refine ⟨tokens ++ tokens', fun token hm ↦ ?_, ?_, ?_, ?_⟩
  · rcases List.mem_append.mp hm with hm | hm
    · exact hv token hm
    · exact hv' token hm
  · rw [List.flatMap_append, hr, hr', String.toList_append]
  · rw [balance_append, hb, Option.bind_some, hb']
  · rw [List.flatMap_append, hi, hi']

theorem balance_frame {tokens : List Token} (h : balance tokens opened = some left)
    (outer : List String) : balance tokens (opened ++ outer) = some (left ++ outer) := by
  induction tokens generalizing opened with
  | nil =>
    cases h
    rfl
  | cons token tokens ih =>
    rw [balance, List.foldlM_cons] at h ⊢
    obtain ⟨middle, hs, hb⟩ := Option.bind_eq_some_iff.mp h
    have hs' : token.step (opened ++ outer) = some (middle ++ outer) := by
      cases token with
      | stop name =>
        cases opened with
        | nil => cases hs
        | cons innermost opened =>
          simp only [Token.step, List.cons_append] at hs ⊢
          split at hs
          · next hn =>
            cases hs
            rw [if_pos hn]
          · cases hs
      | _ =>
        cases hs
        rfl
    rw [hs']
    exact ih hb

/-- Elements around those that a text touches may be open. -/
theorem Reads.frame (h : Reads text opened left ids) (outer : List String) :
    Reads text (opened ++ outer) (left ++ outer) ids := by
  obtain ⟨tokens, hv, hr, hb, hi⟩ := h
  exact ⟨tokens, hv, hr, balance_frame hb outer, hi⟩

/-- A single token is read as what it is. -/
theorem reads_token (token : Token) (hv : token.Valid) (hr : token.render = text.toList)
    (hs : token.step opened = some left) : Reads text opened left token.ids := by
  refine ⟨[token], fun t ht ↦ ?_, ?_, ?_, ?_⟩
  · rw [List.mem_singleton.mp ht]
    exact hv
  · rw [List.flatMap_singleton, hr]
  · rw [balance, List.foldlM_cons, hs]
    rfl
  · exact List.flatMap_singleton ..

/-- Pieces of text are read as they are, with any elements open. -/
theorem reads_pieces (pieces : List Piece) (hv : ∀ piece ∈ pieces, piece.Valid)
    (hr : pieces.flatMap Piece.render = text.toList) (opened : List String) :
    Reads text opened opened [] := by
  refine ⟨pieces.map .text, fun token ht ↦ ?_, ?_, ?_, ?_⟩
  · obtain ⟨piece, hp, rfl⟩ := List.mem_map.mp ht
    exact hv piece hp
  · rw [List.flatMap_map, ← hr]
    rfl
  · clear hv hr
    induction pieces with
    | nil => rfl
    | cons piece pieces ih => exact ih
  · rw [List.flatMap_map, List.flatMap_eq_nil_iff]
    exact fun _ _ ↦ rfl

/-! ### Well-formed texts -/

/-- The text is written as these valid tokens. -/
def Splits (text : String) (tokens : List Token) : Prop :=
  (∀ token ∈ tokens, token.Valid) ∧ tokens.flatMap Token.render = text.toList

/-- A text can be split into valid tokens in exactly one way, and those tokens are balanced. No
value of an attribute holds a quote or a character that starts a tag. -/
structure WellFormed (text : String) : Prop where
  split : ∃! tokens, Splits text tokens
  balanced : ∀ tokens, Splits text tokens → Balanced tokens
  quoted : ∀ tokens, Splits text tokens → ∀ token ∈ tokens, ∀ attr ∈ token.attrs,
    ∀ c ∈ attr.value.flatMap Piece.render, c ≠ '<' ∧ c ≠ '"'

theorem Splits.unique {tokens tokens' : List Token} (h : Splits text tokens)
    (h' : Splits text tokens') : tokens = tokens' :=
  tokens_unique (h.2.trans h'.2.symm) h.1 h'.1

theorem referenceNames_plain {name : String} (h : name ∈ referenceNames) :
    ∀ c ∈ name.toList, c ≠ '<' ∧ c ≠ '"' := by
  revert name
  decide

/-- A piece that may stand in a value holds no quote and starts no tag. -/
theorem Piece.Quoted.plain {piece : Piece} (h : piece.Quoted) :
    ∀ c ∈ piece.render, c ≠ '<' ∧ c ≠ '"' := by
  intro c hc
  cases piece with
  | char d =>
    obtain rfl := List.mem_singleton.mp hc
    exact ⟨h.1.1, fun hd ↦ h.2.1 (congrArg Piece.char hd)⟩
  | reference name =>
    rw [render, List.mem_append, List.mem_cons, List.mem_singleton] at hc
    rcases hc with (rfl | hc) | rfl
    · decide
    · exact referenceNames_plain h.1 c hc
    · decide

theorem Token.Valid.attrs {token : Token} (h : token.Valid) : ∀ attr ∈ token.attrs, attr.Valid := by
  cases token with
  | text | stop => exact List.forall_mem_nil _
  | empty | start => exact h.2

/-- A text that leaves open what it finds open is well-formed. -/
theorem Reads.wellFormed (h : Reads text [] [] ids) : WellFormed text := by
  obtain ⟨tokens, valid, written, balanced, _⟩ := h
  have split : Splits text tokens := ⟨valid, written⟩
  refine ⟨⟨tokens, split, fun _ other ↦ other.unique split⟩, fun others other ↦ ?_, ?_⟩
  · rw [other.unique split]
    exact balanced
  · intro others other token ht attr ha c hc
    obtain ⟨piece, hp, hc⟩ := List.mem_flatMap.mp hc
    exact (((other.1 token ht).attrs attr ha).value piece hp).plain c hc

/-! ### Anchors -/

/-- No identifier comes more often in `ids` than in `anchors`, apart from `loose` ones. -/
def Covered (loose : String → Prop) (ids anchors : List String) : Prop :=
  ∀ id, ¬ loose id → ids.count id ≤ anchors.count id

variable {loose : String → Prop} {anchors anchors' : List String}

namespace Covered

theorem refl (ids : List String) : Covered loose ids ids := fun _ _ ↦ Nat.le_refl _

theorem trans (h : Covered loose ids middle) (h' : Covered loose middle anchors) :
    Covered loose ids anchors := fun id hl ↦ Nat.le_trans (h id hl) (h' id hl)

theorem append (h : Covered loose ids anchors) (h' : Covered loose ids' anchors') :
    Covered loose (ids ++ ids') (anchors ++ anchors') := by
  intro id hl
  rw [List.count_append, List.count_append]
  exact Nat.add_le_add (h id hl) (h' id hl)

/-- The order is of no concern. -/
theorem of_perm (h : ids.Perm anchors) : Covered loose ids anchors :=
  fun id _ ↦ Nat.le_of_eq (h.count_eq id)

theorem of_sublist (h : ids.Sublist anchors) : Covered loose ids anchors :=
  fun id _ ↦ h.count_le id

theorem of_forall_loose (h : ∀ id ∈ ids, loose id) : Covered loose ids anchors := by
  intro id hl
  rw [List.count_eq_zero.mpr fun hm ↦ hl (h id hm)]
  exact Nat.zero_le _

theorem forall_loose (h : Covered loose ids anchors) (ha : ∀ id ∈ anchors, loose id) :
    ∀ id ∈ ids, loose id := by
  intro id hm
  by_cases hl : loose id
  · exact hl
  · have hc := h id hl
    rw [List.count_eq_zero.mpr fun hm ↦ hl (ha id hm)] at hc
    exact absurd (List.count_pos_iff.mpr hm) (Nat.not_lt_of_le hc)

end Covered

/-- The text finds the elements `opened` and leaves `left`, and gives no more identifiers than
`anchors`, apart from `loose` ones. -/
def Leads (loose : String → Prop) (text : String) (opened left anchors : List String) : Prop :=
  ∃ ids, Reads text opened left ids ∧ Covered loose ids anchors

theorem Reads.leads (h : Reads text opened left ids) : Leads loose text opened left ids :=
  ⟨ids, h, .refl ids⟩

theorem leads_empty (opened : List String) : Leads loose "" opened opened [] :=
  (reads_empty opened).leads

theorem Leads.append (h : Leads loose text opened middle anchors)
    (h' : Leads loose text' middle left anchors') :
    Leads loose (text ++ text') opened left (anchors ++ anchors') := by
  obtain ⟨ids, hr, hc⟩ := h
  obtain ⟨ids', hr', hc'⟩ := h'
  exact ⟨ids ++ ids', hr.append hr', hc.append hc'⟩

theorem Leads.mono (h : Leads loose text opened left anchors)
    (ha : Covered loose anchors anchors') : Leads loose text opened left anchors' := by
  obtain ⟨ids, hr, hc⟩ := h
  exact ⟨ids, hr, hc.trans ha⟩

theorem Leads.frame (h : Leads loose text opened left anchors) (outer : List String) :
    Leads loose text (opened ++ outer) (left ++ outer) anchors := by
  obtain ⟨ids, hr, hc⟩ := h
  exact ⟨ids, hr.frame outer, hc⟩

/-- The text leaves open what it finds open. -/
abbrev Closed (loose : String → Prop) (text : String) (anchors : List String) : Prop :=
  Leads loose text [] [] anchors

theorem Closed.leads (h : Closed loose text anchors) (opened : List String) :
    Leads loose text opened opened anchors := h.frame opened

theorem closed_empty : Closed loose "" [] := leads_empty []

theorem Closed.append (h : Closed loose text anchors) (h' : Closed loose text' anchors') :
    Closed loose (text ++ text') (anchors ++ anchors') := Leads.append h h'

theorem closed_pieces (pieces : List Piece) (hv : ∀ piece ∈ pieces, piece.Valid)
    (hr : pieces.flatMap Piece.render = text.toList) : Closed loose text [] :=
  (reads_pieces pieces hv hr []).leads

/-- Characters that start no markup are text. -/
theorem closed_text (h : ∀ c ∈ text.toList, c ≠ '<' ∧ c ≠ '&') : Closed loose text [] := by
  refine closed_pieces (text.toList.map .char) (fun piece hp ↦ ?_) ?_
  · obtain ⟨c, hc, rfl⟩ := List.mem_map.mp hp
    exact h c hc
  · rw [List.flatMap_map]
    exact List.flatMap_singleton' _

/-- Each text leaves open what it finds open, and all of them together give `anchors`. -/
inductive ClosedAll (loose : String → Prop) : List String → List String → Prop where
  | nil : ClosedAll loose [] []
  | cons {text : String} {texts anchors anchors' : List String} :
    Closed loose text anchors → ClosedAll loose texts anchors' →
      ClosedAll loose (text :: texts) (anchors ++ anchors')

theorem closedAll_of_forall {texts : List String} (h : ∀ text ∈ texts, Closed loose text []) :
    ClosedAll loose texts [] := by
  induction texts with
  | nil => exact .nil
  | cons text texts ih =>
    exact .cons (h text List.mem_cons_self) (ih fun t ht ↦ h t (List.mem_cons_of_mem _ ht))

/-- The anchors of a list of texts are those of its parts. -/
theorem ClosedAll.exists_append {texts texts' anchors : List String}
    (h : ClosedAll loose (texts ++ texts') anchors) :
    ∃ front rear, anchors = front ++ rear ∧ ClosedAll loose texts front ∧
      ClosedAll loose texts' rear := by
  induction texts generalizing anchors with
  | nil => exact ⟨[], anchors, rfl, .nil, h⟩
  | cons text texts ih =>
    cases h with
    | cons first others =>
      obtain ⟨front, rear, rfl, hf, hr⟩ := ih others
      exact ⟨_, rear, (List.append_assoc ..).symm, .cons first hf, hr⟩

theorem ClosedAll.append {texts texts' anchors anchors' : List String}
    (h : ClosedAll loose texts anchors) (h' : ClosedAll loose texts' anchors') :
    ClosedAll loose (texts ++ texts') (anchors ++ anchors') := by
  induction h with
  | nil => exact h'
  | cons first _ ih =>
    rw [List.append_assoc]
    exact .cons first ih

theorem ClosedAll.join {texts anchors : List String} (h : ClosedAll loose texts anchors) :
    Closed loose (String.join texts) anchors := by
  induction h with
  | nil => exact closed_empty
  | cons first _ ih =>
    rw [String.join_cons]
    exact first.append ih

theorem closed_intercalate {separator : String} {texts : List String}
    (hs : Closed loose separator []) (h : ∀ text ∈ texts, Closed loose text []) :
    Closed loose (separator.intercalate texts) [] := by
  induction texts with
  | nil => exact closed_empty
  | cons text texts ih =>
    have ht := h text List.mem_cons_self
    cases texts with
    | nil => rwa [String.intercalate_singleton]
    | cons text' texts =>
      rw [String.intercalate_cons_cons]
      exact (ht.append hs).append (ih fun t ht ↦ h t (List.mem_cons_of_mem _ ht))

end Markup

end Manuscript

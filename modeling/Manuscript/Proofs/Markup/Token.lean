import Manuscript.Macro.Marker

/-!
# Tokens of markup

Markup is a row of characters, references, empty tags, start tags and end tags. A row of valid
tokens can be told from the text that it is written as (`Markup.tokens_unique`), and it is balanced
if every end tag matches the innermost start tag that is still open (`Markup.balance`).
-/

namespace Manuscript

namespace Markup

/-- The characters of a text are checked one after another. Elsewhere there is an instance that goes
through all characters there are. -/
instance decidableForallMem {p : Char → Prop} [DecidablePred p] (text : List Char) :
    Decidable (∀ c ∈ text, p c) :=
  List.decidableBAll p text

/-- The names of the references that stand for characters. -/
def referenceNames : List String :=
  ["amp", "lt", "gt", "quot", "#160", "#x221A"] ++
    (List.range Marker.count).map fun index ↦ "#xE00" ++ String.singleton (Nat.digitChar index)

/-- The names of the references that stand for markers. -/
def markerNames : List String :=
  (List.range Marker.count).map fun index ↦ "#xE00" ++ String.singleton (Nat.digitChar index)

/-- Whether a character may stand in the name of an element or an attribute. -/
def isNameChar (c : Char) : Bool := c.isAlphanum || c == ':' || c == '-'

/-- A piece of text: a character that stands for itself, or a reference. -/
inductive Piece where
  | char (c : Char)
  | reference (name : String)
  deriving DecidableEq, Repr

namespace Piece

/-- The piece as it is written. -/
def render : Piece → List Char
  | char c => [c]
  | reference name => '&' :: name.toList ++ [';']

/-- No character that starts markup stands for itself, and every reference is a known one. -/
def Valid : Piece → Prop
  | char c => c ≠ '<' ∧ c ≠ '&'
  | reference name => name ∈ referenceNames

instance : DecidablePred Valid := fun piece ↦
  match piece with
  | char _ => inferInstanceAs (Decidable (_ ∧ _))
  | reference name => inferInstanceAs (Decidable (name ∈ referenceNames))

/-- A piece that may stand in the value of an attribute: no quote, and no placeholder. -/
def Quoted (piece : Piece) : Prop :=
  piece.Valid ∧ piece ≠ char '"' ∧ ∀ c, piece = char c → Marker.index? c = none

instance : DecidablePred Quoted := fun piece ↦
  match piece with
  | char c => decidable_of_iff ((char c).Valid ∧ char c ≠ char '"' ∧ Marker.index? c = none)
    ⟨fun h ↦ ⟨h.1, h.2.1, fun _ hd ↦ char.inj hd ▸ h.2.2⟩, fun h ↦ ⟨h.1, h.2.1, h.2.2 c rfl⟩⟩
  | reference name => decidable_of_iff (reference name).Valid
    ⟨fun h ↦ ⟨h, nofun, nofun⟩, fun h ↦ h.1⟩

theorem quoted_reference {name : String} (h : name ∈ referenceNames) : (reference name).Quoted :=
  ⟨h, nofun, nofun⟩

end Piece

/-- An attribute of a tag. -/
structure Attr where
  name : String
  value : List Piece
  deriving DecidableEq, Repr

namespace Attr

/-- The attribute as it is written inside a tag. -/
def render (attr : Attr) : List Char :=
  ' ' :: attr.name.toList ++ '=' :: '"' :: attr.value.flatMap Piece.render ++ ['"']

/-- The name is a name, and the value may stand between quotes. -/
structure Valid (attr : Attr) : Prop where
  name : ∀ c ∈ attr.name.toList, isNameChar c = true
  value : ∀ piece ∈ attr.value, piece.Quoted

instance : DecidablePred Valid := fun attr ↦
  decidable_of_iff ((∀ c ∈ attr.name.toList, isNameChar c = true) ∧
    ∀ piece ∈ attr.value, piece.Quoted) ⟨fun h ↦ ⟨h.1, h.2⟩, fun h ↦ ⟨h.name, h.value⟩⟩

/-- The value as it is written, if the attribute is an identifier. -/
def id? (attr : Attr) : Option String :=
  if attr.name = "id" then some (String.ofList (attr.value.flatMap Piece.render)) else none

end Attr

/-- A token of markup. -/
inductive Token where
  | text (piece : Piece)
  | empty (name : String) (attrs : List Attr)
  | start (name : String) (attrs : List Attr)
  | stop (name : String)
  deriving DecidableEq, Repr

/-- The name of an element. -/
def IsName (name : String) : Prop := name ≠ "" ∧ ∀ c ∈ name.toList, isNameChar c = true

instance (name : String) : Decidable (IsName name) := inferInstanceAs (Decidable (_ ∧ _))

namespace Token

/-- The token as it is written. -/
def render : Token → List Char
  | text piece => piece.render
  | empty name attrs => '<' :: name.toList ++ attrs.flatMap Attr.render ++ ['/', '>']
  | start name attrs => '<' :: name.toList ++ attrs.flatMap Attr.render ++ ['>']
  | stop name => '<' :: '/' :: name.toList ++ ['>']

/-- Names are names, and what stands between them may stand there. -/
def Valid : Token → Prop
  | text piece => piece.Valid
  | empty name attrs => IsName name ∧ ∀ attr ∈ attrs, attr.Valid
  | start name attrs => IsName name ∧ ∀ attr ∈ attrs, attr.Valid
  | stop name => IsName name

instance : DecidablePred Valid := fun token ↦
  match token with
  | text piece => inferInstanceAs (Decidable piece.Valid)
  | empty name attrs | start name attrs =>
    inferInstanceAs (Decidable (IsName name ∧ ∀ attr ∈ attrs, attr.Valid))
  | stop name => inferInstanceAs (Decidable (IsName name))

/-- The attributes of the token. -/
def attrs : Token → List Attr
  | text _ | stop _ => []
  | empty _ attrs | start _ attrs => attrs

/-- The identifiers in the token. -/
def ids (token : Token) : List String := token.attrs.filterMap Attr.id?

/-- The open elements after the token, the innermost first, unless it ends one that is not the
innermost. -/
def step : Token → List String → Option (List String)
  | text _, opened | empty _ _, opened => some opened
  | start name _, opened => some (name :: opened)
  | stop _, [] => none
  | stop name, innermost :: outer => if name = innermost then some outer else none

end Token

/-- The open elements after tokens, unless an end tag does not match. -/
def balance (tokens : List Token) (opened : List String) : Option (List String) :=
  tokens.foldlM (fun opened token ↦ token.step opened) opened

/-- Every end tag matches the innermost open start tag, and nothing is left open. -/
def Balanced (tokens : List Token) : Prop := balance tokens [] = some []

theorem balance_append (first second : List Token) (opened : List String) :
    balance (first ++ second) opened = (balance first opened).bind (balance second) :=
  List.foldlM_append

/-! ### Telling tokens from text -/

/-- What stands in front of the first character of some sort is determined by the text. -/
theorem append_cons_inj {c : Char} {front front' rest rest' : List Char}
    (h : front ++ c :: rest = front' ++ c :: rest') (hf : c ∉ front) (hf' : c ∉ front') :
    front = front' ∧ rest = rest' := by
  induction front generalizing front' with
  | nil =>
    cases front' with
    | nil => exact ⟨rfl, (List.cons.inj h).2⟩
    | cons d front' =>
      have hd := (List.cons.inj h).1
      exact absurd (hd ▸ List.mem_cons_self) hf'
  | cons d front ih =>
    cases front' with
    | nil =>
      have hd := (List.cons.inj h).1
      exact absurd (hd ▸ List.mem_cons_self) hf
    | cons d' front' =>
      obtain ⟨rfl, ht⟩ := List.cons.inj h
      obtain ⟨rfl, hr⟩ := ih ht (fun hm ↦ hf (List.mem_cons_of_mem _ hm))
        fun hm ↦ hf' (List.mem_cons_of_mem _ hm)
      exact ⟨rfl, hr⟩

/-- A name goes as far as its characters do. -/
theorem name_append_cons_inj (c c' : Char) {name name' : String} {rest rest' : List Char}
    (h : name.toList ++ c :: rest = name'.toList ++ c' :: rest')
    (hn : ∀ c ∈ name.toList, isNameChar c = true) (hn' : ∀ c ∈ name'.toList, isNameChar c = true)
    (hc : isNameChar c = false) (hc' : isNameChar c' = false) :
    name = name' ∧ c :: rest = c' :: rest' := by
  have hs (name : String) (c : Char) (rest : List Char)
      (hn : ∀ c ∈ name.toList, isNameChar c = true) (hc : isNameChar c = false) :
      (name.toList ++ c :: rest).takeWhile isNameChar = name.toList := by
    rw [List.takeWhile_append_of_pos hn, List.takeWhile_cons_of_neg (by simp [hc]), List.append_nil]
  have hl := congrArg (List.takeWhile isNameChar) h
  rw [hs name c rest hn hc, hs name' c' rest' hn' hc'] at hl
  refine ⟨String.toList_inj.mp hl, ?_⟩
  rw [hl] at h
  exact List.append_cancel_left h

theorem semicolon_not_mem {name : String} (h : name ∈ referenceNames) : ';' ∉ name.toList := by
  revert name
  decide

theorem Piece.render_append_inj {piece piece' : Piece} {rest rest' : List Char}
    (h : piece.render ++ rest = piece'.render ++ rest') (hp : piece.Valid) (hp' : piece'.Valid) :
    piece = piece' ∧ rest = rest' := by
  cases piece with
  | char c =>
    cases piece' with
    | char c' =>
      obtain ⟨rfl, hr⟩ := List.cons.inj h
      exact ⟨rfl, hr⟩
    | reference name' => exact absurd (List.cons.inj h).1 hp.2
  | reference name =>
    cases piece' with
    | char c' => exact absurd (List.cons.inj h).1.symm hp'.2
    | reference name' =>
      have ht : name.toList ++ ';' :: rest = name'.toList ++ ';' :: rest' := by
        simpa [render] using h
      obtain ⟨hn, hr⟩ := append_cons_inj ht (semicolon_not_mem hp) (semicolon_not_mem hp')
      rw [String.toList_inj] at hn
      exact ⟨congrArg reference hn, hr⟩

/-- A piece is written with a first character, which is a quote only if the piece is one. -/
theorem Piece.exists_render_eq_cons (piece : Piece) :
    ∃ c rest, piece.render = c :: rest ∧ (c = '"' → piece = char '"') := by
  cases piece with
  | char c => exact ⟨c, [], rfl, fun h ↦ congrArg char h⟩
  | reference name => exact ⟨'&', _, rfl, fun h ↦ by cases h⟩

/-- Where an ampersand stands only at the start of references, each one starts a reference. -/
theorem exists_reference_of_ampersand {pieces : List Piece} {rest : List Char}
    (h : ∀ piece ∈ pieces, piece ≠ .char '&' ∧ '&' ∉ piece.render.tail)
    (hr : '&' :: rest <:+ pieces.flatMap Piece.render) :
    ∃ name after, .reference name ∈ pieces ∧ rest = name.toList ++ ';' :: after := by
  obtain ⟨before, hw⟩ := hr
  induction pieces generalizing before with
  | nil => simp at hw
  | cons piece pieces ih =>
    rw [List.forall_mem_cons] at h
    have later (before : List Char) (hw : before ++ '&' :: rest = pieces.flatMap Piece.render) :
        ∃ name after, .reference name ∈ piece :: pieces ∧ rest = name.toList ++ ';' :: after := by
      obtain ⟨name, after, hm, he⟩ := ih h.2 before hw
      exact ⟨name, after, List.mem_cons_of_mem _ hm, he⟩
    cases piece with
    | char c =>
      cases before with
      | nil => exact absurd (congrArg Piece.char (List.cons.inj hw).1.symm) h.1.1
      | cons d before => exact later before (List.cons.inj hw).2
    | reference name =>
      cases before with
      | nil =>
        refine ⟨name, pieces.flatMap Piece.render, List.mem_cons_self, ?_⟩
        simpa [Piece.render] using hw
      | cons d before =>
        have behind : before ++ '&' :: rest =
            (name.toList ++ [';']) ++ pieces.flatMap Piece.render := (List.cons.inj hw).2
        rcases List.append_eq_append_iff.mp behind with ⟨middle, hm, hs⟩ | ⟨middle, hm, hs⟩
        · cases middle with
          | nil => exact later [] hs
          | cons e middle =>
            -- The ampersand would stand inside the reference.
            have head : e = '&' := (List.cons.inj hs).1.symm
            have inside : '&' ∈ name.toList ++ [';'] := hm ▸ by simp [head]
            exact absurd inside h.1.2
        · exact later middle hs.symm

/-- The value of an attribute goes as far as the next quote. -/
theorem value_append_inj {value value' : List Piece} {rest rest' : List Char}
    (h : value.flatMap Piece.render ++ '"' :: rest = value'.flatMap Piece.render ++ '"' :: rest')
    (hv : ∀ piece ∈ value, piece.Quoted) (hv' : ∀ piece ∈ value', piece.Quoted) :
    value = value' ∧ rest = rest' := by
  induction value generalizing value' with
  | nil =>
    cases value' with
    | nil => exact ⟨rfl, (List.cons.inj h).2⟩
    | cons piece' value' =>
      obtain ⟨c, tail, hc, hq⟩ := piece'.exists_render_eq_cons
      rw [List.flatMap_cons, hc] at h
      exact absurd (hq (List.cons.inj h).1.symm) (hv' _ List.mem_cons_self).2.1
  | cons piece value ih =>
    cases value' with
    | nil =>
      obtain ⟨c, tail, hc, hq⟩ := piece.exists_render_eq_cons
      rw [List.flatMap_cons, hc] at h
      exact absurd (hq (List.cons.inj h).1) (hv _ List.mem_cons_self).2.1
    | cons piece' value' =>
      rw [List.flatMap_cons, List.flatMap_cons, List.append_assoc, List.append_assoc] at h
      obtain ⟨rfl, ht⟩ := Piece.render_append_inj h (hv _ List.mem_cons_self).1
        (hv' _ List.mem_cons_self).1
      obtain ⟨rfl, hr⟩ := ih ht (fun p hp ↦ hv p (List.mem_cons_of_mem _ hp))
        fun p hp ↦ hv' p (List.mem_cons_of_mem _ hp)
      exact ⟨rfl, hr⟩

theorem Attr.render_append_inj {attr attr' : Attr} {rest rest' : List Char}
    (h : attr.render ++ rest = attr'.render ++ rest') (ha : attr.Valid) (ha' : attr'.Valid) :
    attr = attr' ∧ rest = rest' := by
  have ht : attr.name.toList ++ '=' :: '"' :: (attr.value.flatMap Piece.render ++ '"' :: rest) =
      attr'.name.toList ++ '=' :: '"' :: (attr'.value.flatMap Piece.render ++ '"' :: rest') := by
    simpa [render] using h
  obtain ⟨hn, ht⟩ := name_append_cons_inj '=' '=' ht ha.name ha'.name rfl rfl
  obtain ⟨hv, hr⟩ := value_append_inj (List.cons.inj (List.cons.inj ht).2).2 ha.value ha'.value
  obtain ⟨name, value⟩ := attr
  obtain ⟨name', value'⟩ := attr'
  cases hn
  cases hv
  exact ⟨rfl, hr⟩

/-- The attributes of a tag go as far as what is no blank. -/
theorem attrs_append_inj {attrs attrs' : List Attr} {c c' : Char} {rest rest' : List Char}
    (h : attrs.flatMap Attr.render ++ c :: rest = attrs'.flatMap Attr.render ++ c' :: rest')
    (ha : ∀ attr ∈ attrs, attr.Valid) (ha' : ∀ attr ∈ attrs', attr.Valid)
    (hc : c ≠ ' ') (hc' : c' ≠ ' ') : attrs = attrs' ∧ c = c' ∧ rest = rest' := by
  induction attrs generalizing attrs' with
  | nil =>
    cases attrs' with
    | nil => exact ⟨rfl, List.cons.inj h⟩
    | cons attr' attrs' => exact absurd (List.cons.inj h).1 hc
  | cons attr attrs ih =>
    cases attrs' with
    | nil => exact absurd (List.cons.inj h).1.symm hc'
    | cons attr' attrs' =>
      rw [List.flatMap_cons, List.flatMap_cons, List.append_assoc, List.append_assoc] at h
      obtain ⟨rfl, ht⟩ := Attr.render_append_inj h (ha _ List.mem_cons_self)
        (ha' _ List.mem_cons_self)
      obtain ⟨rfl, hr⟩ := ih ht (fun a hm ↦ ha a (List.mem_cons_of_mem _ hm))
        fun a hm ↦ ha' a (List.mem_cons_of_mem _ hm)
      exact ⟨rfl, hr⟩

/-- The inside of a start tag or an empty tag goes as far as the attributes. -/
theorem tag_append_inj (c c' : Char) {name name' : String} {attrs attrs' : List Attr}
    {rest rest' : List Char}
    (h : name.toList ++ (attrs.flatMap Attr.render ++ c :: rest) =
      name'.toList ++ (attrs'.flatMap Attr.render ++ c' :: rest'))
    (hn : IsName name) (hn' : IsName name') (ha : ∀ attr ∈ attrs, attr.Valid)
    (ha' : ∀ attr ∈ attrs', attr.Valid) (hc : isNameChar c = false ∧ c ≠ ' ')
    (hc' : isNameChar c' = false ∧ c' ≠ ' ') :
    name = name' ∧ attrs = attrs' ∧ c = c' ∧ rest = rest' := by
  have first (attrs : List Attr) (c : Char) (rest : List Char) (hc : isNameChar c = false) :
      ∃ d tail, attrs.flatMap Attr.render ++ c :: rest = d :: tail ∧ isNameChar d = false := by
    cases attrs with
    | nil => exact ⟨c, rest, rfl, hc⟩
    | cons attr attrs => exact ⟨' ', _, rfl, rfl⟩
  obtain ⟨d, tail, hd, hdn⟩ := first attrs c rest hc.1
  obtain ⟨d', tail', hd', hdn'⟩ := first attrs' c' rest' hc'.1
  rw [hd, hd'] at h
  obtain ⟨rfl, ht⟩ := name_append_cons_inj d d' h hn.2 hn'.2 hdn hdn'
  rw [← hd, ← hd'] at ht
  exact ⟨rfl, attrs_append_inj ht ha ha' hc.2 hc'.2⟩

/-- No name starts with a slash. -/
theorem slash_ne_name {name : String} {rest rest' : List Char} (hn : IsName name) :
    name.toList ++ rest ≠ '/' :: rest' := by
  intro h
  cases hl : name.toList with
  | nil => exact hn.1 (String.toList_injective hl)
  | cons c cs =>
    rw [hl] at h
    have hc := hn.2 c (hl ▸ List.mem_cons_self)
    rw [(List.cons.inj h).1] at hc
    cases hc

/-- A valid token is determined by a text that starts with it. -/
theorem Token.render_append_inj {token token' : Token} {rest rest' : List Char}
    (h : token.render ++ rest = token'.render ++ rest') (ht : token.Valid) (ht' : token'.Valid) :
    token = token' ∧ rest = rest' := by
  -- A text never starts as a tag does.
  have apart (piece : Piece) (hp : piece.Valid) (rest tail : List Char) :
      piece.render ++ rest ≠ '<' :: tail := by
    intro h
    cases piece with
    | char c => exact hp.1 (List.cons.inj h).1
    | reference name => cases (List.cons.inj h).1
  cases token with
  | text piece =>
    cases token' with
    | text piece' =>
      obtain ⟨rfl, hr⟩ := Piece.render_append_inj h ht ht'
      exact ⟨rfl, hr⟩
    | empty | start | stop => exact absurd h (apart piece ht _ _)
  | empty name attrs =>
    cases token' with
    | text piece' => exact absurd h.symm (apart piece' ht' _ _)
    | empty name' attrs' =>
      obtain ⟨rfl, rfl, _, hr⟩ := tag_append_inj '/' '/' (by simpa [render] using h)
        ht.1 ht'.1 ht.2 ht'.2 ⟨rfl, by decide⟩ ⟨rfl, by decide⟩
      exact ⟨rfl, (List.cons.inj hr).2⟩
    | start name' attrs' =>
      obtain ⟨_, _, hc, _⟩ := tag_append_inj '/' '>' (by simpa [render] using h)
        ht.1 ht'.1 ht.2 ht'.2 ⟨rfl, by decide⟩ ⟨rfl, by decide⟩
      cases hc
    | stop name' => exact absurd (by simpa [render] using h) (slash_ne_name ht.1)
  | start name attrs =>
    cases token' with
    | text piece' => exact absurd h.symm (apart piece' ht' _ _)
    | empty name' attrs' =>
      obtain ⟨_, _, hc, _⟩ := tag_append_inj '>' '/' (by simpa [render] using h)
        ht.1 ht'.1 ht.2 ht'.2 ⟨rfl, by decide⟩ ⟨rfl, by decide⟩
      cases hc
    | start name' attrs' =>
      obtain ⟨rfl, rfl, _, hr⟩ := tag_append_inj '>' '>' (by simpa [render] using h)
        ht.1 ht'.1 ht.2 ht'.2 ⟨rfl, by decide⟩ ⟨rfl, by decide⟩
      exact ⟨rfl, hr⟩
    | stop name' => exact absurd (by simpa [render] using h) (slash_ne_name ht.1)
  | stop name =>
    cases token' with
    | text piece' => exact absurd h.symm (apart piece' ht' _ _)
    | empty name' attrs' => exact absurd (by simpa [render] using h.symm) (slash_ne_name ht'.1)
    | start name' attrs' => exact absurd (by simpa [render] using h.symm) (slash_ne_name ht'.1)
    | stop name' =>
      obtain ⟨rfl, hr⟩ := name_append_cons_inj '>' '>' (by simpa [render] using h)
        ht.2 ht'.2 rfl rfl
      exact ⟨rfl, (List.cons.inj hr).2⟩

theorem Token.render_ne_nil (token : Token) : token.render ≠ [] := by
  cases token with
  | text piece => cases piece <;> exact List.cons_ne_nil _ _
  | _ => exact List.cons_ne_nil _ _

/-- A text is written by at most one row of valid tokens. -/
theorem tokens_unique {tokens tokens' : List Token}
    (h : tokens.flatMap Token.render = tokens'.flatMap Token.render)
    (ht : ∀ token ∈ tokens, token.Valid) (ht' : ∀ token ∈ tokens', token.Valid) :
    tokens = tokens' := by
  induction tokens generalizing tokens' with
  | nil =>
    cases tokens' with
    | nil => rfl
    | cons token' tokens' =>
      rw [List.flatMap_cons] at h
      exact absurd (List.append_eq_nil_iff.mp h.symm).1 token'.render_ne_nil
  | cons token tokens ih =>
    cases tokens' with
    | nil =>
      rw [List.flatMap_cons] at h
      exact absurd (List.append_eq_nil_iff.mp h).1 token.render_ne_nil
    | cons token' tokens' =>
      rw [List.flatMap_cons, List.flatMap_cons] at h
      obtain ⟨rfl, hr⟩ := Token.render_append_inj h (ht _ List.mem_cons_self)
        (ht' _ List.mem_cons_self)
      rw [ih hr (fun t hm ↦ ht t (List.mem_cons_of_mem _ hm))
        fun t hm ↦ ht' t (List.mem_cons_of_mem _ hm)]

end Markup

end Manuscript

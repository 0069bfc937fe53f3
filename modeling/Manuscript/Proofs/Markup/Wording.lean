import Mathlib.Data.List.Basic

/-!
# The wording of markup

What markup says to a reader: its tags are dropped (`Markup.dropTags`), and the references that
remain are decoded (`Markup.decode`). A tag is over at the next `>`, and a reference at the next
semicolon, so both have to find their way back into the text. Markup that says something
(`Markup.Says`) says it whatever stands behind it.
-/

namespace Manuscript

namespace Markup

/-! ### Readers -/

/-- The markup without its tags. What comes up to the next `>` is left out `inTag`. -/
def dropTags : (inTag : Bool) → List Char → List Char
  | _, [] => []
  | false, c :: rest => if c = '<' then dropTags true rest else c :: dropTags false rest
  | true, c :: rest => dropTags (c != '>') rest

/-- The characters that have references by name. -/
def entities : List (String × Char) :=
  [("amp", '&'), ("lt", '<'), ("gt", '>'), ("quot", '"'), ("apos", Char.ofNat 0x27)]

/-- The value of a digit of a number system. -/
def digit? (base : Nat) (c : Char) : Option Nat :=
  (List.range base).find? fun value ↦ Nat.digitChar value == c.toLower

/-- The character that is numbered by a row of digits. -/
def numbered? (base : Nat) (digits : List Char) : Option Char := do
  let number ← digits.foldlM (fun value c ↦ (digit? base c).map (value * base + ·)) 0
  if digits ≠ [] ∧ number.isValidChar then some (Char.ofNat number) else none

/-- The character for which a reference of a name stands. -/
def character? : (name : List Char) → Option Char
  | '#' :: 'x' :: digits => numbered? 16 digits
  | '#' :: digits => numbered? 10 digits
  | name => entities.lookup (String.ofList name)

/-- The text with characters in place of references. `name` is what has been read of the name of a
reference. References to nothing are left as they are. -/
def decode : (name : Option (List Char)) → List Char → List Char
  | none, [] => []
  | some name, [] => '&' :: name
  | none, c :: rest => if c = '&' then decode (some []) rest else c :: decode none rest
  | some name, c :: rest =>
    if c = ';' then
      (match character? name with
        | some c => [c]
        | none => '&' :: name ++ [';']) ++ decode none rest
    else decode (some (name ++ [c])) rest

/-- What the markup says. -/
def wording (markup : String) : String :=
  String.ofList (decode none (dropTags false markup.toList))

/-! ### Reading on -/

variable {text text' rest : List Char}

/-- Characters that start no tag are kept. -/
theorem dropTags_append_of_notMem (h : '<' ∉ text) :
    dropTags false (text ++ rest) = text ++ dropTags false rest := by
  induction text with
  | nil => rfl
  | cons c text ih =>
    have parts := List.ne_and_not_mem_of_not_mem_cons h
    rw [List.cons_append, dropTags, if_neg (Ne.symm parts.1), ih parts.2, List.cons_append]

/-- A tag is over at the first `>`. -/
theorem dropTags_tag (h : '>' ∉ text) :
    dropTags false ('<' :: (text ++ '>' :: rest)) = dropTags false rest := by
  rw [dropTags, if_pos rfl]
  induction text with
  | nil => rfl
  | cons c text ih =>
    have parts := List.ne_and_not_mem_of_not_mem_cons h
    rw [List.cons_append, dropTags, bne_iff_ne.mpr (Ne.symm parts.1), ih parts.2]

/-- A reference is over at the first semicolon. -/
theorem decode_reference {c : Char} (h : ';' ∉ text) (hc : character? text = some c) :
    decode none ('&' :: (text ++ ';' :: rest)) = c :: decode none rest := by
  have read (name : List Char) : ';' ∉ text →
      decode (some name) (text ++ ';' :: rest) = decode (some (name ++ text)) (';' :: rest) := by
    clear hc h
    induction text generalizing name with
    | nil => simp
    | cons d text ih =>
      intro h
      have parts := List.ne_and_not_mem_of_not_mem_cons h
      rw [List.cons_append, decode, if_neg (Ne.symm parts.1), ih _ parts.2, List.append_assoc,
        List.singleton_append]
  rw [decode, if_pos rfl, read [] h, List.nil_append, decode, if_pos rfl, hc]
  rfl

/-! ### Markup that says something -/

/-- The markup says the text, whatever stands behind it: without tags it is `bare`, and that is
decoded as the text. -/
def Says (markup text : String) : Prop :=
  ∃ bare, (∀ rest, dropTags false (markup.toList ++ rest) = bare ++ dropTags false rest) ∧
    ∀ rest, decode none (bare ++ rest) = text.toList ++ decode none rest

theorem Says.wording {markup text : String} (h : Says markup text) : wording markup = text := by
  obtain ⟨bare, dropped, decoded⟩ := h
  have bare_eq := dropped []
  have text_eq := decoded []
  rw [List.append_nil, dropTags, List.append_nil] at bare_eq
  rw [List.append_nil, decode, List.append_nil] at text_eq
  rw [Markup.wording, bare_eq, text_eq, String.ofList_toList]

theorem says_empty : Says "" "" := ⟨[], fun _ ↦ rfl, fun _ ↦ rfl⟩

theorem Says.append {markup markup' text text' : String} (h : Says markup text)
    (h' : Says markup' text') : Says (markup ++ markup') (text ++ text') := by
  obtain ⟨bare, dropped, decoded⟩ := h
  obtain ⟨bare', dropped', decoded'⟩ := h'
  refine ⟨bare ++ bare', fun rest ↦ ?_, fun rest ↦ ?_⟩
  · rw [String.toList_append, List.append_assoc, dropped, dropped', List.append_assoc]
  · rw [String.toList_append, List.append_assoc, decoded, decoded', List.append_assoc]

/-- A tag says nothing. -/
theorem says_tag {inner : String} (h : '>' ∉ inner.toList) : Says ("<" ++ inner ++ ">") "" := by
  refine ⟨[], fun rest ↦ ?_, fun _ ↦ rfl⟩
  rw [String.toList_append, String.toList_append, List.append_assoc, List.append_assoc]
  exact dropTags_tag h

/-- What starts no tag says what it is decoded as. -/
theorem says_of_decode {markup text : String} (h : '<' ∉ markup.toList)
    (hd : ∀ rest, decode none (markup.toList ++ rest) = text.toList ++ decode none rest) :
    Says markup text := ⟨markup.toList, fun _ ↦ dropTags_append_of_notMem h, hd⟩

end Markup

end Manuscript

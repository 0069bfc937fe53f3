import Manuscript.Macro.Template
import Manuscript.Xhtml.Formula
import Mathlib.Data.List.Range

/-!
# Operators lose no operand

The markup and the plain text of an operator are made of pieces that depend on the operator and the
number of its operands alone, with every operand in one place between them (`Arranges`). That holds
for the numbers of operands that the operator takes; three tables have to agree on them, the one of
the bounds, the one of the layouts and the one of the plain-text forms.
-/

namespace Manuscript

open Macro Xhtml

/-- The operand that a piece stands for. -/
def Macro.Part.slot? : Part → Option Nat
  | literal _ => none
  | slot index => some index

/-- What is made of `count` texts is made of the same pieces whatever the texts are, with texts in
these places. -/
def Places (count : Nat) (places : List Nat) (render : List String → String) : Prop :=
  ∃ parts : List Part, parts.filterMap Part.slot? = places ∧
    ∀ operands, operands.length = count →
      render operands = Template.expand ⟨parts⟩ (operands.map some)

/-- What is made of `count` texts has each of them in one place. -/
def Arranges (count : Nat) (render : List String → String) : Prop :=
  ∃ places : List Nat, places.Perm (List.range count) ∧ Places count places render

namespace Places

variable {count : Nat} {places places' : List Nat} {render render' : List String → String}
  {all : List (List Nat)} {renders : List (List String → String)}

theorem congr (h : Places count places render)
    (he : ∀ operands, operands.length = count → render' operands = render operands) :
    Places count places render' := by
  obtain ⟨parts, hp, hr⟩ := h
  exact ⟨parts, hp, fun operands hl ↦ (he operands hl).trans (hr operands hl)⟩

theorem const (text : String) : Places count [] fun _ ↦ text :=
  ⟨[.literal text.toList], rfl, fun _ _ ↦ by simp [Template.expand, Part.expand]⟩

theorem operand (index : Nat) : Places count [index] fun operands ↦ operands[index]?.getD "" := by
  refine ⟨[.slot index], rfl, fun operands _ ↦ ?_⟩
  cases h : operands[index]? <;> simp [Template.expand, Part.expand, h]

theorem append (h : Places count places render) (h' : Places count places' render') :
    Places count (places ++ places') fun operands ↦ render operands ++ render' operands := by
  obtain ⟨parts, rfl, hr⟩ := h
  obtain ⟨parts', rfl, hr'⟩ := h'
  refine ⟨parts ++ parts', List.filterMap_append, fun operands hl ↦ ?_⟩
  dsimp only
  rw [hr operands hl, hr' operands hl]
  simp [Template.expand]

/-- What stands between two constant texts has the same operands. -/
theorem between (opening closing : String) (h : Places count places render) :
    Places count places fun operands ↦ opening ++ render operands ++ closing := by
  have framed := ((const opening).append h).append (const closing)
  rwa [List.nil_append, List.append_nil] at framed

theorem join (h : List.Forall₂ (Places count) all renders) :
    Places count all.flatten fun operands ↦ String.join (renders.map (· operands)) := by
  induction h with
  | nil => exact const ""
  | cons h _ ih =>
    refine (h.append ih).congr fun operands _ ↦ ?_
    rw [List.map_cons, String.join_cons]

theorem intercalate (separator : String) (h : List.Forall₂ (Places count) all renders) :
    Places count all.flatten fun operands ↦ separator.intercalate (renders.map (· operands)) := by
  induction h with
  | nil => exact const ""
  | cons h others ih =>
    -- A separator stands behind a piece only if another piece follows.
    cases others with
    | nil =>
      refine (h.append (const "")).congr fun operands _ ↦ ?_
      simp
    | cons _ _ =>
      have first := h.append (const separator)
      rw [List.append_nil] at first
      refine (first.append ih).congr fun operands _ ↦ ?_
      simp [String.intercalate_cons_cons]

/-- All operands from one on, with a sign between each two. -/
theorem separated (separator : String) (start : Nat) :
    Places count (List.range' start (count - start))
      fun operands ↦ separator.intercalate (operands.drop start) := by
  have each : List.Forall₂ (Places count) ((List.range' start (count - start)).map ([·]))
      ((List.range' start (count - start)).map fun index operands ↦ operands[index]?.getD "") := by
    rw [List.forall₂_map_left_iff, List.forall₂_map_right_iff]
    exact List.forall₂_same.mpr fun index _ ↦ operand index
  have flat : ((List.range' start (count - start)).map ([·])).flatten =
      List.range' start (count - start) := List.flatMap_singleton' _
  rw [← flat]
  refine (intercalate separator each).congr fun operands hl ↦ congrArg _ ?_
  rw [List.map_map]
  apply List.ext_getElem
  · simp [hl]
  · intro index hi _
    simp only [List.getElem_drop, List.getElem_map, Function.comp_apply, List.getElem_range']
    have bound : start + index < operands.length := by
      rw [List.length_drop] at hi
      omega
    rw [Nat.one_mul, List.getElem?_eq_getElem bound, Option.getD_some]

/-- All operands. -/
theorem listed (opening separator closing : String) :
    Places count (List.range count)
      fun operands ↦ opening ++ separator.intercalate operands ++ closing := by
  rw [List.range_eq_range']
  exact (separated separator 0).between opening closing

/-- The first operand in front of all others. -/
theorem applied (opening separator closing : String) (h : 0 < count) :
    Places count (List.range count) fun operands ↦
      operands[0]?.getD "" ++ (opening ++ separator.intercalate (operands.drop 1) ++ closing) := by
  obtain ⟨count, rfl⟩ := Nat.exists_eq_succ_of_ne_zero (Nat.ne_of_gt h)
  rw [List.range_eq_range', List.range'_succ]
  exact (operand 0).append ((separated separator 1).between opening closing)

/-! ### Tables -/

theorem element (name : String) (list : List Attribute) (h : Places count places render) :
    Places count places fun operands ↦ element name list (render operands) :=
  h.between (startTag name list) (endTag name)

theorem cell (role : String) (h : Places count places render) :
    Places count places fun operands ↦ cell role (render operands) := h.element "td" (classed role)

theorem plainCell (h : Places count places render) :
    Places count places fun operands ↦ plainCell (render operands) := h.element "td" []

theorem row (h : List.Forall₂ (Places count) all renders) :
    Places count all.flatten fun operands ↦ row (renders.map (· operands)) :=
  (join h).element "tr" []

theorem layout (role : String) (h : List.Forall₂ (Places count) all renders) :
    Places count all.flatten fun operands ↦ layout role (renders.map (· operands)) :=
  (join h).element "table" (classed ("math " ++ role))

theorem fraction : Places 2 [0, 1] fraction :=
  (layout "fraction" (.cons (row (.cons ((operand 0).cell "fractionTop") .nil))
    (.cons (row (.cons ((operand 1).cell "fractionBottom") .nil)) .nil))).congr fun operands h ↦ by
      obtain ⟨top, bottom, rfl⟩ := List.length_eq_two.mp h
      rfl

theorem power : Places 2 [0, 1] power :=
  (layout "power" (.cons (row (.cons
    ((operand 0).element "td" [("class", "base"), ("rowspan", "2")])
      (.cons ((operand 1).cell "exponent") .nil)))
    (.cons (row (.cons (const "").plainCell .nil)) .nil))).congr fun operands h ↦ by
      obtain ⟨base, exponent, rfl⟩ := List.length_eq_two.mp h
      rfl

theorem squareRoot : Places 1 [0] squareRoot :=
  (layout "sqrt" (.cons (row (.cons (const radical)
    (.cons ((operand 0).cell "radicand") .nil))) .nil)).congr fun operands h ↦ by
      obtain ⟨radicand, rfl⟩ := List.length_eq_one_iff.mp h
      rfl

theorem indexedRoot : Places 2 [0, 1] indexedRoot :=
  (layout "root" (.cons (row (.cons ((operand 0).cell "rootIndex") (.cons (const radical)
    (.cons ((operand 1).cell "radicand") .nil)))) .nil)).congr fun operands h ↦ by
      obtain ⟨index, radicand, rfl⟩ := List.length_eq_two.mp h
      rfl

/-- The upper limit, which is the second operand, stands first. -/
theorem bigOperator (sign : String) : Places 3 [1, 2, 0] (bigOperator sign) := by
  have limit (index : Nat) : Places 3 _ _ :=
    row (.cons ((operand index).cell "limit") (.cons (const "").plainCell .nil))
  have body : Places 3 _ _ :=
    row (.cons ((const sign).cell "bigOperator") (.cons (operand 2).plainCell .nil))
  refine (layout "bigOperator" (.cons (limit 1) (.cons body (.cons (limit 0) .nil)))).congr
    fun operands h ↦ ?_
  obtain ⟨lower, upper, body, rfl⟩ := List.length_eq_three.mp h
  rfl

theorem absolute : Places 1 [0] absolute :=
  (layout "abs" (.cons (row (.cons ((const "|").cell "bar") (.cons (operand 0).plainCell
    (.cons ((const "|").cell "bar") .nil)))) .nil)).congr fun operands h ↦ by
      obtain ⟨value, rfl⟩ := List.length_eq_one_iff.mp h
      rfl

end Places

theorem Places.arranges {count : Nat} {render : List String → String}
    (h : Places count (List.range count) render) : Arranges count render :=
  ⟨_, .refl _, h⟩

namespace Arranges

variable {count : Nat} {render : List String → String}

theorem chained {separator : String}
    (h : ∀ operands, render operands = separator.intercalate operands) : Arranges count render :=
  ((Places.listed "" separator "").congr fun operands _ ↦ by simp [h]).arranges

theorem single {opening closing : String} (hc : count = 1)
    (h : ∀ x, render [x] = opening ++ x ++ closing) : Arranges count render := by
  subst hc
  refine Places.arranges (((Places.operand 0).between opening closing).congr fun operands hl ↦ ?_)
  obtain ⟨x, rfl⟩ := List.length_eq_one_iff.mp hl
  exact h x

theorem pair {sign : String} (hc : count = 2) (h : ∀ x y, render [x, y] = x ++ sign ++ y) :
    Arranges count render := by
  subst hc
  have placed : Places 2 _ _ := ((Places.operand 0).append (.const sign)).append (.operand 1)
  refine Places.arranges (placed.congr fun operands hl ↦ ?_)
  obtain ⟨x, y, rfl⟩ := List.length_eq_two.mp hl
  exact h x y

/-- An operator with limits has the lower one, the upper one and its body behind its sign. -/
theorem limits {sign : String} (hc : count = 3)
    (h : ∀ x y z, render [x, y, z] = sign ++ x ++ "^" ++ y ++ " " ++ z) :
    Arranges count render := by
  subst hc
  have lower : Places 3 _ _ := (Places.const sign).append (.operand 0)
  have upper := (lower.append (.const "^")).append (.operand 1)
  refine Places.arranges (((upper.append (.const " ")).append (.operand 2)).congr
    fun operands hl ↦ ?_)
  obtain ⟨x, y, z, rfl⟩ := List.length_eq_three.mp hl
  exact h x y z

/-- What is applied stands in front of its arguments. -/
theorem applied {opening separator closing : String} (hc : 0 < count)
    (h : ∀ x others, render (x :: others) =
      x ++ (opening ++ separator.intercalate others ++ closing)) : Arranges count render := by
  refine Places.arranges ((Places.applied opening separator closing hc).congr fun operands hl ↦ ?_)
  obtain ⟨x, others, rfl⟩ := List.exists_cons_of_length_pos (hl ▸ hc)
  exact h x others

end Arranges

namespace Xhtml

theorem element_ne_empty (name : String) (list : List Attribute) (content : String) :
    element name list content ≠ "" := by
  simp [element, startTag]

/-- A sign is seen if it stands beside the operands, or if there are two operands around it. -/
theorem enclosed_ne_empty {opening separator closing : String} {operands : List String}
    (h : opening ≠ "" ∨ closing ≠ "" ∨ separator ≠ "" ∧ 2 ≤ operands.length) :
    enclosed opening separator closing operands ≠ "" := by
  rcases h with h | h | ⟨h, hl⟩
  · simp [enclosed, h]
  · simp [enclosed, h]
  · match operands, hl with
    | x :: y :: others, _ => simp [enclosed, String.intercalate_cons_cons, h]

end Xhtml

namespace Operator

variable {operator : Operator} {count : Nat}

theorem eq_of_accepts {number : Nat} (h : operator.accepts count = true)
    (exact : operator.arity = ⟨number, some number⟩) : count = number := by
  simp only [accepts, exact, Option.all_some, Bool.and_eq_true, decide_eq_true_eq] at h
  omega

theorem le_of_accepts (h : operator.accepts count = true) : operator.arity.fewest ≤ count := by
  simp only [accepts, Bool.and_eq_true, decide_eq_true_eq] at h
  exact h.1

/-- The markup of an operator has each operand once, if the operator takes that many. -/
theorem arranges_formula (h : operator.accepts count = true) :
    Arranges count (formula operator) := by
  cases operator with
  | fraction =>
    obtain rfl := eq_of_accepts h rfl
    exact Places.fraction.arranges
  | power =>
    obtain rfl := eq_of_accepts h rfl
    exact Places.power.arranges
  | sqrt =>
    obtain rfl := eq_of_accepts h rfl
    exact Places.squareRoot.arranges
  | root =>
    obtain rfl := eq_of_accepts h rfl
    exact Places.indexedRoot.arranges
  | sum | product =>
    obtain rfl := eq_of_accepts h rfl
    exact ⟨_, by decide, Places.bigOperator _⟩
  | function => exact .applied (le_of_accepts h) fun _ _ ↦ rfl
  | abs =>
    obtain rfl := eq_of_accepts h rfl
    exact Places.absolute.arranges
  | _ => exact (Places.listed _ _ _).arranges

/-- Its markup is never left out. -/
theorem formula_ne_empty {operands : List String} (h : operator.accepts operands.length = true) :
    formula operator operands ≠ "" := by
  have chain {sign : String} (hs : sign ≠ "") (hl : 2 ≤ operands.length) :
      chained sign operands ≠ "" := enclosed_ne_empty (.inr (.inr ⟨hs, hl⟩))
  have table (role : String) (rows : List String) : layout role rows ≠ "" :=
    element_ne_empty _ _ _
  cases operator with
  | negate | not | parentheses | brackets | braces | floor | ceil | set | tuple =>
    exact enclosed_ne_empty (.inl (by decide))
  | factorial => exact enclosed_ne_empty (.inr (.inl (by decide)))
  | fraction | power | root =>
    obtain ⟨x, y, rfl⟩ := List.length_eq_two.mp (eq_of_accepts h rfl)
    exact table _ _
  | sqrt | abs =>
    obtain ⟨x, rfl⟩ := List.length_eq_one_iff.mp (eq_of_accepts h rfl)
    exact table _ _
  | sum | product =>
    obtain ⟨x, y, z, rfl⟩ := List.length_eq_three.mp (eq_of_accepts h rfl)
    exact table _ _
  | function =>
    obtain ⟨applied, arguments, rfl⟩ :=
      List.exists_cons_of_length_pos (show 0 < operands.length from le_of_accepts h)
    have brackets : bracketed "(" ")" arguments ≠ "" := enclosed_ne_empty (.inl (by decide))
    exact fun he ↦ brackets (String.append_eq_empty_iff.mp he).2
  | _ => exact chain (by decide) (le_of_accepts h)

/-- The plain text of an operator has each operand once, if the operator takes that many. -/
theorem arranges_plainText (h : operator.accepts count = true) :
    Arranges count operator.plainText := by
  cases operator with
  | negate | not | sqrt =>
    exact .single (eq_of_accepts h rfl) fun x ↦ (String.append_empty ..).symm
  | factorial =>
    exact .single (eq_of_accepts h rfl) fun x ↦ congrArg (· ++ "!") String.empty_append.symm
  | parentheses | brackets | braces | floor | ceil | abs =>
    exact .single (eq_of_accepts h rfl) fun _ ↦ rfl
  | set | tuple => exact (Places.listed _ ", " _).arranges
  | function => exact .applied (le_of_accepts h) fun _ _ ↦ rfl
  | root | power => exact .pair (eq_of_accepts h rfl) fun _ _ ↦ rfl
  | sum | product => exact .limits (eq_of_accepts h rfl) fun _ _ _ ↦ rfl
  | _ => exact .chained fun _ ↦ rfl

end Operator

end Manuscript

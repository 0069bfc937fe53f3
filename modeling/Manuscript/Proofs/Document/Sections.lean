import Manuscript.Proofs.CrossRef.Key
import Manuscript.Proofs.Document.Bookkeeping
import Manuscript.Xhtml.Backend
import Mathlib.Data.List.GetD
import Mathlib.Data.List.Lex

/-!
# Numbers of sections

The sections of a document form a tree, told from the history of calls alone (`Sectioning`): each
section that is begun stands inside the sections that are open around it. A document counts with one
path instead, which is cut and continued when a section begins. The path tells all positions that
are still needed (`Sectioning.Agrees`), so the number of a section is its position in the tree.
-/

namespace Manuscript

/-! ### The next path -/

namespace Document

variable {path : List Nat} {depth : Nat}

/-- Under the sections that are kept, the next path counts one section more. -/
theorem nextSectionPath_eq (h : depth ≤ path.length) :
    nextSectionPath path (depth + 1) = path.take depth ++ [path.getD depth 0 + 1] := by
  rw [nextSectionPath]
  rcases Nat.lt_or_eq_of_le h with hl | rfl
  · have kept : path.take (depth + 1) = path.take depth ++ [path.getD depth 0] := by
      rw [List.take_add_one, List.getElem?_eq_getElem hl, List.getD_eq_getElem _ _ hl]
      rfl
    rw [if_pos (List.length_take_of_le hl), kept, List.dropLast_concat, List.getLastD_concat]
  · rw [List.take_of_length_le (Nat.le_succ _), List.take_length,
      if_neg (Nat.ne_of_lt (Nat.lt_succ_self _)), List.getD_eq_default _ _ (Nat.le_refl _)]

theorem length_nextSectionPath (h : depth ≤ path.length) :
    (nextSectionPath path (depth + 1)).length = depth + 1 := by
  rw [nextSectionPath_eq h, List.length_append, List.length_take_of_le h, List.length_singleton]

/-- The next path comes behind the path in lexicographic order. -/
theorem lt_nextSectionPath (h : depth ≤ path.length) : path < nextSectionPath path (depth + 1) := by
  have behind : List.Lex (· < ·) (path.drop depth) [path.getD depth 0 + 1] := by
    rcases Nat.lt_or_eq_of_le h with hl | rfl
    · rw [List.drop_eq_getElem_cons hl, List.getD_eq_getElem _ _ hl]
      exact .rel (Nat.lt_succ_self _)
    · rw [List.drop_length]
      exact .nil
  have joined := behind.append_left _ (path.take depth)
  rwa [List.take_append_drop, ← nextSectionPath_eq h] at joined

end Document

/-! ### Number texts -/

theorem toList_toString_ne_nil (n : Nat) : (toString n).toList ≠ [] := by
  rw [Nat.toString_eq_ofList_toDigits, String.toList_ofList]
  exact Nat.toDigits_ne_nil

namespace Session

/-- What stands behind the first number of a section. -/
def numberTail (path : List Nat) : List Char :=
  if path = [] then [] else '.' :: (sectionNumber path).toList

theorem toList_sectionNumber_cons (n : Nat) (path : List Nat) :
    (sectionNumber (n :: path)).toList = (toString n).toList ++ numberTail path := by
  cases path with
  | nil => exact (List.append_nil _).symm
  | cons m path =>
    rw [sectionNumber, List.map_cons, List.map_cons, String.intercalate_cons_cons,
      String.toList_append, String.toList_append, List.append_assoc]
    rfl

/-- The digits of the first number end where the tail starts. -/
theorem takeWhile_sectionNumber_cons (n : Nat) (path : List Nat) :
    (sectionNumber (n :: path)).toList.takeWhile Char.isDigit = (toString n).toList := by
  have digits : ∀ c ∈ (toString n).toList, c.isDigit = true :=
    fun c hc ↦ isDigit_of_mem_toString hc
  rw [toList_sectionNumber_cons, List.takeWhile_append_of_pos digits, numberTail]
  split
  · exact List.append_nil _
  · rw [List.takeWhile_cons_of_neg (by decide), List.append_nil]

/-- The number text of a section tells its path. -/
theorem sectionNumber_injective {path path' : List Nat}
    (h : sectionNumber path = sectionNumber path') : path = path' := by
  have filled (n : Nat) (path : List Nat) : sectionNumber [] ≠ sectionNumber (n :: path) := by
    intro he
    have none := congrArg String.toList he
    rw [toList_sectionNumber_cons] at none
    exact toList_toString_ne_nil n (List.append_eq_nil_iff.mp none.symm).1
  induction path generalizing path' with
  | nil =>
    cases path' with
    | nil => rfl
    | cons m path' => exact absurd h (filled m path')
  | cons n path ih =>
    cases path' with
    | nil => exact absurd h.symm (filled n path)
    | cons m path' =>
      have first := congrArg (·.toList.takeWhile Char.isDigit) h
      rw [takeWhile_sectionNumber_cons, takeWhile_sectionNumber_cons] at first
      obtain rfl : n = m := toString_injective (String.toList_inj.mp first)
      have rest := congrArg String.toList h
      rw [toList_sectionNumber_cons, toList_sectionNumber_cons, List.append_cancel_left_eq,
        numberTail, numberTail] at rest
      split at rest <;> split at rest
      · next hp hp' => rw [hp, hp']
      · cases rest
      · cases rest
      · rw [ih (String.toList_inj.mp (List.cons.inj rest).2)]

end Session

/-! ### The tree of sections -/

/-- The sections that have been begun, numbered from zero: for each of them those that were open
around it, the innermost first, and those that are open now. -/
structure Sectioning where
  around : List (List Nat) := []
  opened : List Nat := []

namespace Sectioning

/-- A section is begun inside the open ones. -/
def begin (t : Sectioning) : Sectioning where
  around := t.around ++ [t.opened]
  opened := t.around.length :: t.opened

/-- The innermost open section is ended. -/
def leave (t : Sectioning) : Sectioning := { t with opened := t.opened.tail }

/-- What an answered call does to the sections. -/
def after (t : Sectioning) (call : Call) (accepted : Bool) : Sectioning :=
  match call, accepted with
  | .beginElement (.sect _), true => t.begin
  | .endElement .sect, true => t.leave
  | _, _ => t

/-- The section directly around a section. -/
def parent? (t : Sectioning) (i : Nat) : Option Nat := (t.around.getD i []).head?

/-- The position of a section among those begun so far with the same parent, counted from one. -/
def position (t : Sectioning) (i : Nat) : Nat :=
  (t.around.take (i + 1)).countP (·.head? = t.parent? i)

/-- The positions of a section and of the sections around it, the outermost first. -/
def path (t : Sectioning) (i : Nat) : List Nat :=
  (i :: t.around.getD i []).reverse.map t.position

end Sectioning

/-- The sections that calls on a session begin and end, after those before. -/
def Session.sectioning (backend : Backend) (s : Session) (t : Sectioning) :
    List Call → Sectioning
  | [] => t
  | call :: calls =>
    (s.perform backend call).2.sectioning backend
      (t.after call (s.perform backend call).1.isOk) calls

/-! ### The open sections -/

theorem Element.eq_sect_of_kind {element : Element} (h : element.kind = .sect) :
    ∃ label, element = .sect label := by
  cases element with
  | sect label => exact ⟨label, rfl⟩
  | styled style => cases style <;> cases h
  | list ordered => cases ordered <;> cases h
  | _ => cases h

/-- Sections and nothing else have a position. -/
theorem FrameState.isSome_path?_of_suits {kind : Kind} {state : FrameState}
    (h : state.suits kind = true) : state.path?.isSome = (kind == .sect) := by
  cases state with
  | sect label path => rw [eq_of_beq h]; rfl
  | plain => cases kind <;> first | rfl | cases h
  | macroInvocation signature arguments => rw [kind_of_suits_macroInvocation h]; rfl
  | styled style => rw [eq_of_beq h]; cases style <;> rfl
  | list ordered => rw [eq_of_beq h]; cases ordered <;> rfl
  | _ => rw [eq_of_beq h]; rfl

namespace Frames

/-- The positions of the open sections, the innermost first. -/
def paths (frames : Frames) : List (List Nat) := frames.filterMap (·.state.path?)

theorem paths_cons (frame : Frame) (outer : Frames) :
    paths (frame :: outer) = frame.state.path?.toList ++ paths outer := by
  cases h : frame.state.path? with
  | none => exact List.filterMap_cons_none h
  | some path => exact List.filterMap_cons_some h

theorem paths_shape (frames : Frames) : frames.shape.paths = frames.paths := by
  have same (frame : Frame) : frame.shape.state.path? = frame.state.path? := by
    rw [Frame.shape]
    cases frame.state <;> rfl
  rw [paths, shape, List.filterMap_map]
  exact List.filterMap_congr fun frame _ ↦ same frame

theorem paths_bare (frames : Frames) : frames.bare.paths = frames.paths := by
  rw [← paths_shape, shape_bare, paths_shape]

theorem paths_gather (label : Option Label) (frames : Frames) :
    (frames.gather label).paths = frames.paths := by
  rw [gather]
  cases h : frames.changeSeries? (FrameState.takeSubFigure? { label }) with
  | none => rfl
  | some next =>
    rw [Option.getD_some, ← paths_shape,
      shape_changeSeries? (FrameState.keepsShape_takeSubFigure? _) h, paths_shape]

/-- As many sections are open as have a position. -/
theorem Nested.sectionDepth_eq {frames : Frames} (h : frames.Nested) :
    frames.sectionDepth = frames.paths.length := by
  induction frames with
  | nil => rfl
  | cons frame outer ih =>
    have suits := FrameState.isSome_path?_of_suits h.1.suits
    have rest := ih h.2
    rw [sectionDepth] at rest
    rw [sectionDepth, List.countP_cons, rest, ← suits, paths_cons, List.length_append,
      Nat.add_comm]
    cases frame.state.path? <;> rfl

end Frames

/-! ### The path and the tree -/

namespace Sectioning

/-- The path of a document agrees with the tree of its sections. -/
structure Agrees (t : Sectioning) (l : Ledger) : Prop where
  opened : l.frames.paths = t.opened.map t.path
  /-- Sections stand inside sections that were begun before. -/
  earlier : ∀ (i : Nat) (outer : List Nat), t.around[i]? = some outer → ∀ j ∈ outer, j < i
  /-- What is open around an open section was open when it began. -/
  chain : ∀ i rest, i :: rest <:+ t.opened → t.around[i]? = some rest
  /-- The path holds the positions of the open sections, and behind those of each of them the number
  of the sections begun in it. -/
  tally : ∀ rest, rest <:+ t.opened →
    l.sectionPath.take rest.length = rest.reverse.map t.position ∧
      l.sectionPath.getD rest.length 0 = t.around.countP (·.head? = rest.head?)
  /-- No section comes behind the path. -/
  past : ∀ i < t.around.length, t.path i = l.sectionPath ∨ t.path i < l.sectionPath
  ordered : ∀ i j, i < j → j < t.around.length → t.path i < t.path j
  deep : ∀ i < t.around.length, (t.path i).length ≤ Limit.maxSectionDepth

variable {t : Sectioning} {l l' : Ledger}

theorem path_of_around {i : Nat} {outer : List Nat} (h : t.around[i]? = some outer) :
    t.path i = (i :: outer).reverse.map t.position := by
  rw [path, List.getD_eq_getElem?_getD, h]
  rfl

theorem parent?_begin {i : Nat} (hi : i < t.around.length) : t.begin.parent? i = t.parent? i := by
  rw [parent?, parent?, begin, List.getD_append _ _ _ _ hi]

/-- A section that is begun changes no position. -/
theorem position_begin {i : Nat} (hi : i < t.around.length) :
    t.begin.position i = t.position i := by
  rw [position, position, parent?_begin hi, begin, List.take_append_of_le_length hi]

/-- A section that is begun comes behind all others with the same parent. -/
theorem position_begin_new (t : Sectioning) :
    t.begin.position t.around.length = t.around.countP (·.head? = t.opened.head?) + 1 := by
  have parent : t.begin.parent? t.around.length = t.opened.head? := by
    rw [parent?, begin, List.getD_append_right _ _ _ _ (Nat.le_refl _), Nat.sub_self]
    rfl
  rw [position, parent, begin, List.take_of_length_le (by simp), List.countP_append,
    List.countP_singleton, if_pos (by simp)]

namespace Agrees

/-- The sections around one that has been begun have been begun too. -/
theorem lt_of_mem_around (h : t.Agrees l) {i j : Nat} (hi : i < t.around.length)
    (hj : j ∈ t.around.getD i []) : j < i := by
  rw [List.getD_eq_getElem _ _ hi] at hj
  exact h.earlier i _ (List.getElem?_eq_getElem hi) j hj

theorem lt_of_mem_opened (h : t.Agrees l) {i : Nat} (hi : i ∈ t.opened) :
    i < t.around.length := by
  obtain ⟨inner, rest, ho⟩ := List.append_of_mem hi
  exact (List.getElem?_eq_some_iff.mp (h.chain i rest ⟨inner, ho.symm⟩)).1

/-- A section that is begun changes no path. -/
theorem path_begin (h : t.Agrees l) {i : Nat} (hi : i < t.around.length) :
    t.begin.path i = t.path i := by
  have same : t.begin.around.getD i [] = t.around.getD i [] := List.getD_append _ _ _ _ hi
  rw [path, path, same]
  refine List.map_congr_left fun j hj ↦ position_begin ?_
  rcases List.mem_cons.mp (List.mem_reverse.mp hj) with rfl | hj
  · exact hi
  · exact (h.lt_of_mem_around hi hj).trans hi

theorem length_opened_le (h : t.Agrees l) : t.opened.length ≤ l.sectionPath.length := by
  have length := congrArg List.length (h.tally t.opened (List.suffix_refl _)).1
  rw [List.length_take, List.length_map, List.length_reverse] at length
  omega

/-- A section that is begun gets the next path. -/
theorem path_begin_new (h : t.Agrees l) :
    t.begin.path t.around.length =
      Document.nextSectionPath l.sectionPath (t.opened.length + 1) := by
  obtain ⟨kept, count⟩ := h.tally t.opened (List.suffix_refl _)
  have inside : t.begin.around.getD t.around.length [] = t.opened := by
    rw [begin, List.getD_append_right _ _ _ _ (Nat.le_refl _), Nat.sub_self]
    rfl
  rw [Document.nextSectionPath_eq h.length_opened_le, kept, count, path, inside,
    List.reverse_cons, List.map_append, List.map_singleton, position_begin_new]
  congr 1
  exact List.map_congr_left fun i hi ↦ position_begin (h.lt_of_mem_opened (List.mem_reverse.mp hi))

/-- What is open around an open section is not the section itself. -/
theorem head?_ne (h : t.Agrees l) {i : Nat} {outer rest : List Nat} (ho : i :: outer <:+ t.opened)
    (hr : rest <:+ outer) : rest.head? ≠ some i := by
  intro hi
  have inside : i ∈ outer := hr.subset (List.mem_of_head? hi)
  exact Nat.lt_irrefl i (h.earlier i outer (h.chain i outer ho) i inside)

/-- The path of a document is continued below the open sections when a section begins. -/
theorem tally_begin (h : t.Agrees l) {rest : List Nat} (hr : rest <:+ t.opened) :
    (Document.nextSectionPath l.sectionPath (t.opened.length + 1)).take rest.length =
        rest.reverse.map t.begin.position ∧
      (Document.nextSectionPath l.sectionPath (t.opened.length + 1)).getD rest.length 0 =
        t.begin.around.countP (·.head? = rest.head?) := by
  have same : rest.reverse.map t.begin.position = rest.reverse.map t.position :=
    List.map_congr_left fun i hi ↦
      position_begin (h.lt_of_mem_opened (hr.subset (List.mem_reverse.mp hi)))
  have within : (l.sectionPath.take t.opened.length).length = t.opened.length :=
    List.length_take_of_le h.length_opened_le
  rw [Document.nextSectionPath_eq h.length_opened_le, same, ← (h.tally rest hr).1,
    Sectioning.begin, List.countP_append, List.countP_singleton, ← (h.tally rest hr).2]
  constructor
  · rw [List.take_append_of_le_length (within.symm ▸ hr.length_le), List.take_take,
      Nat.min_eq_left hr.length_le]
  rcases Nat.lt_or_eq_of_le hr.length_le with hl | hl
  · -- The new section is no child of a section further out.
    have other : t.opened.head? ≠ rest.head? := by
      obtain ⟨inner, ho⟩ := hr
      cases inner with
      | nil => rw [← ho] at hl; exact absurd hl (Nat.lt_irrefl _)
      | cons i inner =>
        have suffix : i :: (inner ++ rest) <:+ t.opened := ⟨[], ho⟩
        rw [← ho]
        exact fun he ↦ h.head?_ne suffix ⟨inner, rfl⟩ he.symm
    rw [List.getD_append _ _ _ _ (within.symm ▸ hl), if_neg (by simpa using other),
      List.getD_eq_getElem?_getD, List.getElem?_take_of_lt hl, ← List.getD_eq_getElem?_getD]
    rfl
  · obtain rfl : rest = t.opened := hr.eq_of_length hl
    rw [List.getD_append_right _ _ _ _ (within.symm ▸ Nat.le_refl _), within, Nat.sub_self,
      if_pos (by simp)]
    rfl

/-- No open section comes behind the path. -/
theorem le_of_mem_paths (h : t.Agrees l) {path : List Nat} (hp : path ∈ l.frames.paths) :
    path = l.sectionPath ∨ path < l.sectionPath := by
  rw [h.opened] at hp
  obtain ⟨i, hi, rfl⟩ := List.mem_map.mp hp
  exact h.past i (h.lt_of_mem_opened hi)

/-- No two open sections have the same position. -/
theorem nodup_paths (h : t.Agrees l) : l.frames.paths.Nodup := by
  have distinct : ∀ rest, rest <:+ t.opened → (rest.map t.path).Nodup := by
    intro rest
    induction rest with
    | nil => exact fun _ ↦ List.nodup_nil
    | cons i rest ih =>
      intro hr
      refine List.nodup_cons.mpr ⟨fun hm ↦ ?_, ih ((List.suffix_cons i rest).trans hr)⟩
      obtain ⟨j, hj, he⟩ := List.mem_map.mp hm
      have inner := h.earlier i rest (h.chain i rest hr) j hj
      have ordered := h.ordered j i inner (h.lt_of_mem_opened (hr.subset List.mem_cons_self))
      exact List.lt_irrefl _ (he ▸ ordered)
  rw [h.opened]
  exact distinct t.opened (List.suffix_refl _)

/-- A section that is begun stands inside those that are open. -/
theorem chain_begin (h : t.Agrees l) (i : Nat) (rest : List Nat)
    (hr : i :: rest <:+ t.begin.opened) : t.begin.around[i]? = some rest := by
  rcases List.suffix_cons_iff.mp hr with hr | hr
  · obtain ⟨rfl, rfl⟩ := List.cons.inj hr
    exact List.getElem?_concat_length
  · rw [Sectioning.begin, List.getElem?_append_left (h.lt_of_mem_opened (hr.subset (by simp)))]
    exact h.chain i rest hr

theorem earlier_begin (h : t.Agrees l) (i : Nat) (outer : List Nat)
    (hi : t.begin.around[i]? = some outer) : ∀ j ∈ outer, j < i := by
  rw [Sectioning.begin, List.getElem?_append] at hi
  split at hi
  · exact h.earlier i outer hi
  · next hn =>
    obtain ⟨hl, rfl⟩ := List.getElem?_eq_some_iff.mp hi
    intro j hj
    rw [List.getElem_singleton] at hj
    exact Nat.lt_of_lt_of_le (h.lt_of_mem_opened hj) (Nat.le_of_not_lt hn)

/-- A section that is begun has no sections inside it. -/
theorem childless_begin (h : t.Agrees l) :
    ∀ outer ∈ t.begin.around, outer.head? ≠ some t.around.length := by
  intro outer ho hc
  rcases List.mem_append.mp ho with ho | ho
  · obtain ⟨i, hi, he⟩ := List.getElem_of_mem ho
    have inside := h.earlier i outer (he ▸ List.getElem?_eq_getElem hi) _ (List.mem_of_head? hc)
    omega
  · rw [List.mem_singleton.mp ho] at hc
    exact Nat.lt_irrefl _ (h.lt_of_mem_opened (List.mem_of_head? hc))

/-- The tree goes on with the path when a section begins. -/
theorem begin (h : t.Agrees l) (room : t.opened.length < Limit.maxSectionDepth)
    (hf : l'.frames.paths =
      Document.nextSectionPath l.sectionPath (t.opened.length + 1) :: l.frames.paths)
    (hp : l'.sectionPath = Document.nextSectionPath l.sectionPath (t.opened.length + 1)) :
    t.begin.Agrees l' := by
  have count : t.begin.around.length = t.around.length + 1 := List.length_append
  have new : t.begin.path t.around.length = l'.sectionPath := h.path_begin_new.trans hp.symm
  have length : l'.sectionPath.length = t.opened.length + 1 :=
    hp ▸ Document.length_nextSectionPath h.length_opened_le
  have later : l.sectionPath < l'.sectionPath := hp ▸ Document.lt_nextSectionPath h.length_opened_le
  -- A section was begun before, or it is the new one.
  have cases {i : Nat} (hi : i < t.begin.around.length) :
      i < t.around.length ∨ i = t.around.length := by omega
  have below {i : Nat} (hi : i < t.around.length) : t.begin.path i < l'.sectionPath := by
    rw [h.path_begin hi]
    rcases h.past i hi with he | hl
    · exact he ▸ later
    · exact List.lt_trans hl later
  refine ⟨?opened, h.earlier_begin, h.chain_begin, ?tally, ?past, ?ordered, ?deep⟩
  case opened =>
    rw [hf, h.opened, ← hp, ← new]
    refine congrArg _ (List.map_congr_left fun i hi ↦ (h.path_begin (h.lt_of_mem_opened hi)).symm)
  case tally =>
    intro rest hr
    rcases List.suffix_cons_iff.mp hr with rfl | hr
    · have known := path_of_around (h.chain_begin _ _ (List.suffix_refl _))
      rw [List.length_cons, ← length, List.take_length, List.getD_eq_default _ _ (Nat.le_refl _)]
      exact ⟨new.symm.trans known, (List.countP_eq_zero.mpr fun outer ho hc ↦
        h.childless_begin outer ho (of_decide_eq_true hc)).symm⟩
    · rw [hp]
      exact h.tally_begin hr
  case past =>
    intro i hi
    rcases cases hi with hi | rfl
    · exact .inr (below hi)
    · exact .inl new
  case ordered =>
    intro i j hij hj
    rcases cases hj with hj | rfl
    · rw [h.path_begin hj, h.path_begin (hij.trans hj)]
      exact h.ordered i j hij hj
    · exact new ▸ below hij
  case deep =>
    intro i hi
    rcases cases hi with hi | rfl
    · rw [h.path_begin hi]
      exact h.deep i hi
    · rw [new, length]
      exact room

/-- The tree stays when the innermost open section is ended. -/
theorem leave (h : t.Agrees l) (hf : l'.frames.paths = l.frames.paths.tail)
    (hp : l'.sectionPath = l.sectionPath) : t.leave.Agrees l' where
  opened := by rw [hf, h.opened, ← List.map_tail]; rfl
  earlier := h.earlier
  chain i rest hr := h.chain i rest (hr.trans (List.tail_suffix _))
  tally rest hr := hp ▸ h.tally rest (hr.trans (List.tail_suffix _))
  past := hp ▸ h.past
  ordered := h.ordered
  deep := h.deep

/-- Nothing else has a part in the tree. -/
theorem of_eq (h : t.Agrees l) (hf : l'.frames.paths = l.frames.paths)
    (hp : l'.sectionPath = l.sectionPath) : t.Agrees l' where
  opened := hf.trans h.opened
  earlier := h.earlier
  chain := h.chain
  tally := hp ▸ h.tally
  past := hp ▸ h.past
  ordered := h.ordered
  deep := h.deep

end Agrees

/-! ### Calls -/

theorem after_false (t : Sectioning) (call : Call) : t.after call false = t := by
  unfold after
  split <;> simp_all

/-- Only sections that begin and end have a part in the tree. -/
theorem after_of_ne {call : Call} {accepted : Bool} (t : Sectioning)
    (hb : ∀ label, call ≠ .beginElement (.sect label)) (he : call ≠ .endElement .sect) :
    t.after call accepted = t := by
  unfold after
  split
  · next label => exact absurd rfl (hb label)
  · exact absurd rfl he
  · rfl

theorem paths_takeOff (l : Ledger) (frame : Frame) (outer : Frames) :
    (l.takeOff frame outer).frames.paths = outer.paths := by
  unfold Ledger.takeOff Ledger.count
  split
  · rfl
  · rfl
  · exact Frames.paths_gather _ outer
  · rfl
  · rfl
  · rfl

theorem sectionPath_takeOff (l : Ledger) (frame : Frame) (outer : Frames) :
    (l.takeOff frame outer).sectionPath = l.sectionPath := by
  unfold Ledger.takeOff Ledger.count
  split <;> rfl

section Steps

variable {frame : Frame} {outer : Frames}

/-- The tree goes on with the path when an element begins. -/
theorem Agrees.begun {element : Element} (h : t.Agrees l) (nested : l.frames.Nested)
    (nested' : (l.push frame).frames.Nested) (admits : l.Admits element frame) :
    (t.after (.beginElement element) true).Agrees (l.push frame) := by
  have suits := FrameState.isSome_path?_of_suits nested'.1.suits
  rw [show frame.bare.state = frame.state.bare from rfl, FrameState.path?_bare,
    show frame.bare.kind = frame.kind from rfl, admits.kind] at suits
  have pushed : (l.push frame).frames.paths = frame.state.path?.toList ++ l.frames.paths := by
    rw [← FrameState.path?_bare]
    exact Frames.paths_cons frame.bare l.frames
  cases hp : frame.state.path? with
  | none =>
    have other : ∀ label, Call.beginElement element ≠ .beginElement (.sect label) := by
      rintro label ⟨⟩
      rw [hp] at suits
      cases suits
    refine (after_of_ne t other fun hc ↦ by cases hc).symm ▸ h.of_eq (by rw [pushed, hp]; rfl) ?_
    rw [Ledger.push, hp]
    rfl
  | some path =>
    obtain ⟨label, rfl⟩ : ∃ label, element = .sect label := by
      rw [hp] at suits
      exact Element.eq_sect_of_kind (eq_of_beq suits.symm)
    obtain ⟨room, rfl⟩ := admits.position path hp
    have depth : l.frames.sectionDepth = t.opened.length := by
      rw [nested.sectionDepth_eq, h.opened, List.length_map]
    rw [depth] at room hp
    refine h.begin room (by rw [pushed, hp]; rfl) ?_
    rw [Ledger.push, hp]
    rfl

/-- The tree goes on with the path when an element ends. -/
theorem Agrees.ended (h : t.Agrees l) (nested : l.frames.Nested) (stored : List Path)
    (hf : l.frames = frame :: outer) : (t.after (.endElement frame.kind) true).Agrees
      ((l.takeOff frame outer).settle ((l.takeOff frame outer).numbers frame) stored) := by
  have suits := FrameState.isSome_path?_of_suits (hf ▸ nested).1.suits
  have paths : l.frames.paths = frame.state.path?.toList ++ outer.paths :=
    hf ▸ Frames.paths_cons frame outer
  have left : ((l.takeOff frame outer).settle ((l.takeOff frame outer).numbers frame)
      stored).frames.paths = outer.paths := paths_takeOff l frame outer
  have kept := sectionPath_takeOff l frame outer
  cases hp : frame.state.path? with
  | none =>
    rw [hp] at suits paths
    have other : Call.endElement frame.kind ≠ .endElement .sect := by
      intro hc
      rw [Call.endElement.inj hc] at suits
      cases suits
    rw [after_of_ne t (fun _ hc ↦ by cases hc) other]
    exact h.of_eq (left.trans paths.symm) kept
  | some path =>
    rw [hp] at suits paths
    rw [show frame.kind = .sect from eq_of_beq suits.symm]
    exact h.leave (left.trans (congrArg List.tail paths).symm) kept

/-- An end that fails takes no section out of the tree. -/
theorem Agrees.failed {error : DocumentError} (h : t.Agrees l) (nested : l.frames.Nested)
    (hf : l.frames = frame :: outer) (hs : Ledger.Fails { l with frames := outer } frame error l') :
    t.Agrees l' := by
  have suits := FrameState.isSome_path?_of_suits (hf ▸ nested).1.suits
  have gone (hk : frame.kind ≠ .sect) : outer.paths = l.frames.paths := by
    rw [beq_eq_false_iff_ne.mpr hk, Option.isSome_eq_false_iff, Option.isNone_iff_eq_none]
      at suits
    rw [hf, Frames.paths_cons, suits]
    rfl
  cases hs with
  | picture stored hk _ =>
    have other : frame.kind ≠ .sect := by rcases hk with hk | hk <;> rw [hk] <;> decide
    exact h.of_eq ((paths_takeOff l frame outer).trans (gone other))
      (sectionPath_takeOff l frame outer)
  | operands hk => exact h.of_eq (gone (by rw [hk]; decide)) rfl

end Steps

/-- The tree and the path go on together. -/
theorem Agrees.step {call : Call} {answer : Except DocumentError Reply} (h : t.Agrees l)
    (nested : l.frames.Nested) (nested' : l'.frames.Nested) (hs : l.Step call answer l') :
    (t.after call answer.isOk).Agrees l' := by
  cases hs with
  | refused _ => exact (after_false t call).symm ▸ h
  | written _ hb he => exact (after_of_ne t (fun _ ↦ hb _) (he _)).symm ▸ h
  | created target => exact h.of_eq rfl rfl
  | begun admits => exact h.begun nested nested' admits
  | ended stored hf => exact h.ended nested stored hf
  | failed hf fails => exact (after_false t _).symm ▸ h.failed nested hf fails

theorem agrees_fresh (context : Context) (path : Path) (place : Location) (serial : Nat) :
    ({} : Sectioning).Agrees (context.document path place serial).ledger := by
  refine ⟨rfl, nofun, ?_, ?_, nofun, nofun, nofun⟩
  · intro i rest hr
    cases List.suffix_nil.mp hr
  · intro rest hr
    rw [List.suffix_nil.mp hr]
    exact ⟨rfl, rfl⟩

/-- The tree and the path go on together through a run. -/
theorem Agrees.run {s : Session} (h : t.Agrees s.document.ledger) (orderly : s.document.Orderly)
    (backend : Backend) (calls : List Call) :
    (s.sectioning backend t calls).Agrees (s.run backend calls).document.ledger := by
  induction calls generalizing s t with
  | nil => exact h
  | cons call calls ih =>
    have next := orderly.perform backend call
    exact ih (h.step orderly.frames_nested next.frames_nested (orderly.step backend call)) next

theorem Agrees.path_after (h : t.Agrees l) {i : Nat} (hi : i < t.around.length) (call : Call)
    (accepted : Bool) : i < (t.after call accepted).around.length ∧
      (t.after call accepted).path i = t.path i := by
  unfold after
  split
  · refine ⟨hi.trans_le ?_, h.path_begin hi⟩
    rw [Sectioning.begin, List.length_append]
    exact Nat.le_add_right _ _
  · exact ⟨hi, rfl⟩
  · exact ⟨hi, rfl⟩

/-- The path of a section stays what it was when the section was begun. -/
theorem Agrees.path_sectioning {s : Session} (h : t.Agrees s.document.ledger)
    (orderly : s.document.Orderly) (backend : Backend) (calls : List Call) {i : Nat}
    (hi : i < t.around.length) : (s.sectioning backend t calls).path i = t.path i := by
  induction calls generalizing s t with
  | nil => rfl
  | cons call calls ih =>
    have next := orderly.perform backend call
    have after := h.path_after hi call (s.perform backend call).1.isOk
    have agrees := h.step orderly.frames_nested next.frames_nested (orderly.step backend call)
    exact (ih agrees next after.1).trans after.2

end Sectioning

namespace Session

theorem sectioning_append (backend : Backend) (s : Session) (t : Sectioning)
    (calls more : List Call) :
    s.sectioning backend t (calls ++ more) =
      (s.run backend calls).sectioning backend (s.sectioning backend t calls) more := by
  induction calls generalizing s t with
  | nil => rfl
  | cons call calls ih => exact ih _ _

/-- A section that has been begun is open with its label. -/
theorem exists_topState?_of_begin {backend : Backend} {s s' : Session} {label : Option Label}
    {reply : Reply} (orderly : s.document.Orderly)
    (h : s.perform backend (.beginElement (.sect label)) = (.ok reply, s')) :
    ∃ path, s'.document.frames.topState? = some (.sect label path) ∧
      s'.document.frames.paths = path :: s.document.frames.paths := by
  have step := orderly.step backend (.beginElement (.sect label))
  have nested := (orderly.perform backend (.beginElement (.sect label))).nested.frames
  rw [h] at step nested
  dsimp only at step nested
  generalize hl : s'.document.ledger = l' at step
  cases step with
  | written _ hb _ => exact absurd rfl (hb _)
  | @begun _ frame admits =>
    have frames : s'.document.frames.bare = frame.bare :: s.document.frames.bare :=
      congrArg Ledger.frames hl
    cases hd : s'.document.frames with
    | nil => rw [hd] at frames; cases frames
    | cons top outer =>
      rw [hd] at frames nested
      obtain ⟨same, rest⟩ := List.cons.inj frames
      have kind : top.kind = .sect := (congrArg Frame.kind same).trans admits.kind
      have labelled : top.state.label? = label := by
        rw [← FrameState.label?_bare, show top.state.bare = frame.state.bare from
          congrArg Frame.state same, FrameState.label?_bare, admits.label]
        rfl
      obtain ⟨carried, path, hs⟩ := FrameState.exists_of_suits (kind ▸ nested.1.suits)
      obtain rfl : carried = label := by rw [hs] at labelled; exact labelled
      refine ⟨path, congrArg some hs, ?_⟩
      rw [Frames.paths_cons, hs, ← Frames.paths_bare outer,
        show Frames.bare outer = s.document.frames.bare from rest, Frames.paths_bare]
      rfl

/-- The numbers of sections are their positions in the tree of sections, which the accepted calls
alone make up: the open sections carry their positions, and a section that is begun gets the
position that it has in the tree, one deeper than there are open sections, and keeps it. Sections
begun later have larger numbers in lexicographic order, no two have the same number text, and none
is too deep. -/
theorem sections_run (backend : Backend) (context : Context) (path : Path) (place : Location)
    (serial : Nat) (files : FileSystem) (calls : List Call) :
    let fresh : Session := ⟨context.document path place serial, files⟩
    let s := fresh.run backend calls
    let t := fresh.sectioning backend {} calls
    s.document.frames.paths = t.opened.map t.path ∧
    (∀ label reply s', s.perform backend (.beginElement (.sect label)) = (.ok reply, s') →
      let number := t.begin.path t.around.length
      s'.document.frames.topState? = some (.sect label number) ∧
        number.length = 1 + s.document.frames.sectionDepth) ∧
    (∀ more, ∀ i < t.around.length,
      (fresh.sectioning backend {} (calls ++ more)).path i = t.path i) ∧
    (∀ i j, i < j → j < t.around.length → t.path i < t.path j) ∧
    (∀ i j, i < t.around.length → j < t.around.length →
      sectionNumber (t.path i) = sectionNumber (t.path j) → i = j) ∧
    ∀ i < t.around.length, (t.path i).length ≤ Limit.maxSectionDepth := by
  intro fresh s t
  have start : fresh.document.Orderly := context.orderly_document path place serial
  have orderly : s.document.Orderly := start.run backend calls
  have agrees : t.Agrees s.document.ledger :=
    (Sectioning.agrees_fresh context path place serial).run start backend calls
  have opened : s.document.frames.paths = t.opened.map t.path :=
    (Frames.paths_bare _).symm.trans agrees.opened
  refine ⟨opened, ?_, ?_, agrees.ordered, ?_, agrees.deep⟩
  · intro label reply s' hp number
    obtain ⟨path, top, paths⟩ := exists_topState?_of_begin orderly hp
    have step := orderly.step backend (.beginElement (.sect label))
    have next := orderly.perform backend (.beginElement (.sect label))
    have begun := agrees.step orderly.frames_nested next.frames_nested step
    rw [hp] at begun
    have carried : path :: s.document.frames.paths = t.begin.opened.map t.begin.path :=
      paths.symm.trans ((Frames.paths_bare _).symm.trans begun.opened)
    obtain rfl : path = number := (List.cons.inj carried).1
    refine ⟨top, ?_⟩
    rw [orderly.nested.frames.sectionDepth_eq, opened, List.length_map]
    exact ((congrArg List.length agrees.path_begin_new).trans
      (Document.length_nextSectionPath agrees.length_opened_le)).trans (Nat.add_comm _ _)
  · intro more i hi
    rw [sectioning_append]
    exact agrees.path_sectioning orderly backend more hi
  · intro i j hi hj hn
    have same := sectionNumber_injective hn
    rcases Nat.lt_trichotomy i j with hl | hl | hl
    · exact absurd (same ▸ agrees.ordered i j hl hj) (List.lt_irrefl _)
    · exact hl
    · exact absurd (same ▸ agrees.ordered j i hl hi) (List.lt_irrefl _)

/-- A section with two others inside it. -/
def nestedSections : List Call :=
  [.beginElement .header, .endElement .header, .beginElement .body,
    .beginElement (.sect none), .beginElement .sectionBody,
    .beginElement (.sect none), .endElement .sect, .beginElement (.sect none), .endElement .sect,
    .endElement .sectionBody, .endElement .sect]

/-- After a section with two others inside it the next one is the second. -/
theorem sections_run_second :
    let fresh : Session :=
      ⟨(⟨⟨"/"⟩, "index", {}, false⟩ : Context).document ⟨"/index.xhtml"⟩ ["index.xhtml"] 0, {}⟩
    let s := fresh.run Xhtml.backend nestedSections
    ∃ reply s', s.perform Xhtml.backend (.beginElement (.sect none)) = (.ok reply, s') ∧
      s'.document.frames.topState? = some (.sect none [2]) := by
  intro fresh s
  obtain ⟨accepted, number⟩ :
      (s.perform Xhtml.backend (.beginElement (.sect none))).1.isOk = true ∧
      (fresh.sectioning Xhtml.backend {} nestedSections).begin.path
        (fresh.sectioning Xhtml.backend {} nestedSections).around.length = [2] :=
    ⟨by decide +kernel, by decide +kernel⟩
  cases hp : s.perform Xhtml.backend (.beginElement (.sect none)) with
  | mk answer s' =>
    rw [hp] at accepted
    cases answer with
    | error error => cases accepted
    | ok reply =>
      obtain ⟨_, begun, _⟩ := sections_run Xhtml.backend ⟨⟨"/"⟩, "index", {}, false⟩
        ⟨"/index.xhtml"⟩ ["index.xhtml"] 0 {} nestedSections
      have top := (begun none reply s' hp).1
      rw [number] at top
      exact ⟨reply, s', rfl, top⟩

end Session

end Manuscript

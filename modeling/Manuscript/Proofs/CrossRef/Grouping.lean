import Manuscript.CrossRef.Reference
import Manuscript.Proofs.Prose.Arrangement
import Mathlib.Data.List.Defs

/-!
# Nouns in references

Neighbouring labels of one target share a noun, which stands in front of the first of them and is in
the plural if there are more (`Reference.nouns_run`). In a range the two ends are each other's only
neighbours (`Reference.nouns_range`).
-/

namespace Manuscript

/-- A range shows the first and the last of several items. -/
theorem Series.join_range (bound : Bool) (first last : Phrase) (middle : List Phrase) :
    join .fromTo bound (first :: (middle ++ [last])) = join .fromTo bound [first, last] := by
  simp [join_eq, Joiner.shown, item]

namespace Reference

/-- Whether a noun stands in front of the link at a position, and whether it is in the plural. -/
def nounAt (joiner : Joiner) (labels : List Label) (index : Nat) (label : Label) : Option Bool :=
  let (previous, next) := neighbours joiner labels index
  if hasTarget label.target previous then none else some (hasTarget label.target next)

/-- The nouns in front of all links. -/
def nouns (joiner : Joiner) (labels : List Label) : List (Option Bool) :=
  labels.mapIdx (nounAt joiner labels)

/-- The link to a label whose element has come so far, behind a noun if there is one. -/
def item (noun : Option Bool) (label : Label) (state : LabelState) : Phrase :=
  (noun.elim [] fun many ↦ [.text (label.target.noun many), .space]) ++
    [.link ("#" ++ label.key) (shownState state)]

/-- A longest list of neighbours of one target. -/
structure MaximalRun (labels before run after : List Label) (target : Target) : Prop where
  eq : labels = before ++ run ++ after
  nonempty : run ≠ []
  same : ∀ label ∈ run, label.target = target
  left : ∀ label ∈ before.getLast?, label.target ≠ target
  right : ∀ label ∈ after.head?, label.target ≠ target

variable {joiner : Joiner} {labels before run after : List Label} {target : Target}

theorem hasTarget_iff {label : Option Label} :
    hasTarget target label = true ↔ ∃ found ∈ label, found.target = target := by
  cases label <;> simp [hasTarget]

theorem nounAt_eq (index : Nat) (label : Label) : nounAt joiner labels index label =
    if hasTarget label.target (neighbours joiner labels index).1 then none
    else some (hasTarget label.target (neighbours joiner labels index).2) := rfl

theorem noun_append_link (index : Nat) (label : Label) (state : LabelState) :
    noun joiner labels index label ++ [link label state] =
      item (nounAt joiner labels index label) label state := by
  rw [nounAt_eq, item]
  change (if hasTarget label.target (neighbours joiner labels index).1 then [] else
    [.text (label.target.noun (hasTarget label.target (neighbours joiner labels index).2)),
      .space]) ++ [link label state] = _
  cases hasTarget label.target (neighbours joiner labels index).1 <;> rfl

theorem mapIdx_zip (noun : Nat → Label → Option Bool) (labels : List Label)
    (states : List LabelState) :
    ((labels.zip states).mapIdx fun index pair ↦ item (noun index pair.1) pair.1 pair.2) =
      List.zipWith3 item (labels.mapIdx noun) labels states := by
  induction labels generalizing noun states with
  | nil => rfl
  | cons label others ih =>
    cases states with
    | nil =>
      rw [List.zip_nil_right, List.mapIdx_cons]
      rfl
    | cons state states =>
      rw [List.zip_cons_cons, List.mapIdx_cons, List.mapIdx_cons, ih fun index ↦ noun (index + 1)]
      rfl

/-- A phrase of references is a series of items. -/
theorem phrase_eq (joiner : Joiner) (bound : Bool) (labels : List Label)
    (states : List LabelState) :
    phrase joiner bound labels states =
      Series.join joiner bound (List.zipWith3 item (nouns joiner labels) labels states) := by
  rw [nouns, ← mapIdx_zip]
  simp only [phrase, noun_append_link]

/-! ### Runs -/

/-- Whether there is a noun depends on the labels right before and right behind. -/
theorem nounAt_length (hj : joiner ≠ .fromTo) (front back : List Label) (label : Label) :
    nounAt joiner (front ++ label :: back) front.length label =
      if hasTarget label.target front.getLast? then none
      else some (hasTarget label.target back.head?) := by
  have around : neighbours joiner (front ++ label :: back) front.length =
      (front.getLast?, back.head?) := by
    rw [neighbours, if_neg hj]
    refine Prod.ext ?_ ?_
    · rcases front.eq_nil_or_concat with rfl | ⟨others, last, rfl⟩
      · rfl
      · simp
    · simp [List.getElem?_append_right, List.head?_eq_getElem?]
  rw [nounAt_eq, around]

/-- A run has one noun, in front of its first label, in the plural if the run has more labels. -/
theorem nouns_run (hj : joiner ≠ .fromTo) (h : MaximalRun labels before run after target) :
    ((nouns joiner labels).drop before.length).take run.length =
      some (decide (1 < run.length)) :: List.replicate (run.length - 1) none := by
  obtain ⟨rfl, nonempty, same, left, right⟩ := h
  obtain ⟨first, rest, rfl⟩ := List.exists_cons_of_ne_nil nonempty
  have head : nounAt joiner (before ++ first :: rest ++ after) before.length first =
      some (decide (1 < (first :: rest).length)) := by
    have start : ¬hasTarget target before.getLast? = true := by
      rw [hasTarget_iff]
      exact fun ⟨label, hl, he⟩ ↦ left label hl he
    rw [List.append_assoc, List.cons_append, nounAt_length hj, same first List.mem_cons_self,
      if_neg start]
    refine congrArg some (Bool.eq_iff_iff.mpr ?_)
    rw [hasTarget_iff, decide_eq_true_iff]
    cases rest with
    | nil => exact ⟨fun ⟨label, hl, he⟩ ↦ absurd he (right label hl), fun h ↦ absurd h (by simp)⟩
    | cons second rest =>
      have shared := same second (List.mem_cons_of_mem _ List.mem_cons_self)
      exact ⟨fun _ ↦ by simp, fun _ ↦ ⟨second, rfl, shared⟩⟩
  have tail (front back : List Label) (label : Label) (hr : rest = front ++ label :: back) :
      nounAt joiner (before ++ first :: rest ++ after) (front.length + 1 + before.length) label =
        none := by
    subst hr
    -- What stands in front of the label ends in a label of the run.
    have split : before ++ first :: (front ++ label :: back) ++ after =
        (before ++ first :: front) ++ label :: (back ++ after) := by simp
    have position : front.length + 1 + before.length = (before ++ first :: front).length := by
      rw [List.length_append, List.length_cons, Nat.add_comm]
    have shared := same label (by simp)
    have joined : hasTarget label.target (before ++ first :: front).getLast? = true := by
      rw [hasTarget_iff, shared, List.getLast?_append]
      have last := List.getLast?_eq_some_getLast (List.cons_ne_nil first front)
      have member := List.mem_of_getLast? last
      refine ⟨_, by rw [last]; rfl, same _ ?_⟩
      exact List.mem_append_left (label :: back) member
    rw [split, position, nounAt_length hj, if_pos joined]
  rw [nouns, List.append_assoc, List.mapIdx_append, List.drop_left' List.length_mapIdx,
    List.mapIdx_append, List.take_left' List.length_mapIdx, ← List.append_assoc, List.mapIdx_cons,
    Nat.zero_add, head, List.length_cons, Nat.add_sub_cancel]
  refine congrArg _ (List.eq_replicate_iff.mpr ⟨List.length_mapIdx, fun noun hn ↦ ?_⟩)
  obtain ⟨index, hi, rfl⟩ := List.mem_mapIdx.mp hn
  have here := tail (rest.take index) (rest.drop (index + 1)) rest[index]
    (by rw [← List.drop_eq_getElem_cons hi, List.take_append_drop])
  rwa [List.length_take_of_le (Nat.le_of_lt hi)] at here

/-! ### Ranges -/

/-- The start of a range has a noun, in the plural if the end shares it; if not, the end has one of
its own. -/
theorem nouns_range (first last : Label) (middle : List Label) :
    (nouns .fromTo (first :: (middle ++ [last]))).head? =
        some (some (decide (first.target = last.target))) ∧
      (nouns .fromTo (first :: (middle ++ [last]))).getLast? =
        some (if first.target = last.target then none else some false) := by
  have several : 1 < (first :: (middle ++ [last])).length := by simp
  have ends : (first :: (middle ++ [last])).getLast? = some last := by
    rw [← List.cons_append, List.getLast?_concat]
  constructor
  · have start : neighbours .fromTo (first :: (middle ++ [last])) 0 = (none, some last) := by
      rw [neighbours, if_pos rfl, if_pos rfl, if_pos several, ends]
    rw [nouns, List.mapIdx_cons, List.head?_cons, nounAt_eq, start]
    exact congrArg (some ∘ some) (decide_eq_decide.mpr eq_comm)
  · have stop : neighbours .fromTo (first :: (middle ++ [last])) (middle.length + 1) =
        (some first, none) := rfl
    have mark : nounAt .fromTo (first :: (middle ++ [last])) (middle.length + 1) last =
        if first.target = last.target then none else some false := by
      rw [nounAt_eq, stop]
      by_cases shared : first.target = last.target
      · rw [if_pos shared, if_pos (hasTarget_iff.mpr ⟨first, rfl, shared⟩)]
      · rw [if_neg shared, if_neg fun h ↦ ?_]
        · rfl
        · obtain ⟨found, hf, he⟩ := hasTarget_iff.mp h
          cases hf
          exact shared he
    rw [nouns, List.getLast?_mapIdx, ends, Option.map_some, ← mark]
    simp

/-- Where nouns stand in front of links, and which of them are in the plural. -/
structure Grouped (joiner : Joiner) (labels : List Label) (nouns : List (Option Bool)) : Prop where
  length : nouns.length = labels.length
  /-- A run has one noun, in front of its first label. -/
  run : joiner ≠ .fromTo → ∀ before run after target, MaximalRun labels before run after target →
    (nouns.drop before.length).take run.length =
      some (decide (1 < run.length)) :: List.replicate (run.length - 1) none
  /-- The start of a range has a noun, which the end shares or not. -/
  range : joiner = .fromTo → ∀ first middle last, labels = first :: (middle ++ [last]) →
    nouns.head? = some (some (decide (first.target = last.target))) ∧
      nouns.getLast? = some (if first.target = last.target then none else some false)
  lone : ∀ label, labels = [label] → nouns = [some false]

theorem grouped_nouns (joiner : Joiner) (labels : List Label) :
    Grouped joiner labels (nouns joiner labels) where
  length := List.length_mapIdx
  run hj _ _ _ _ h := nouns_run hj h
  range hj first middle last hl := by
    subst hj hl
    exact nouns_range first last middle
  lone label hl := by
    subst hl
    cases joiner <;> rfl

end Reference

end Manuscript

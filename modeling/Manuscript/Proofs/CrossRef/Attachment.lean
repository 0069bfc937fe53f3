import Manuscript.CrossRef.Registry
import Manuscript.Proofs.CrossRef.Key
import Mathlib.Data.List.Nodup

/-!
# Labels that elements carry

The labels that a registry has made can be told from the targets of its entries, which never
change. No two of them have one key, so no two elements of a document carry one key either.
-/

namespace Manuscript

namespace Registry

/-- What the labels stand for, in the order in which they were made. -/
def targets (registry : Registry) : List Target := registry.entries.map LabelEntry.target

/-- The label that was made at a position. -/
def label? (registry : Registry) (index : Nat) : Option Label :=
  registry.targets[index]?.map fun target ↦
    ⟨registry.owner, index, (registry.targets.take index).countP (· == target) + 1, target⟩

/-- The key of the label at a position, if an element carries it. -/
def attachedKey? (registry : Registry) (index : Nat) : Option String :=
  if registry.entries[index]?.any LabelEntry.attached then (registry.label? index).map Label.key
  else none

/-- The keys of all labels that elements carry. -/
def attachedKeys (registry : Registry) : List String :=
  (List.range registry.entries.length).filterMap registry.attachedKey?

variable {registry registry' : Registry} {index : Nat} {label : Label}

@[simp] theorem length_targets (registry : Registry) :
    registry.targets.length = registry.entries.length := List.length_map _

/-- Labels with one target are counted in the order in which they were made. -/
theorem key_label?_inj {i j : Nat} {label label' : Label} (hi : registry.label? i = some label)
    (hj : registry.label? j = some label') (hk : label.key = label'.key) : i = j := by
  obtain ⟨target, ht, rfl⟩ := Option.map_eq_some_iff.mp hi
  obtain ⟨target', ht', rfl⟩ := Option.map_eq_some_iff.mp hj
  obtain ⟨hs, ho⟩ := Label.key_inj hk
  dsimp only at hs ho
  subst hs
  -- The earlier label is among those that are counted for the later one.
  have less {i j : Nat} (ht : registry.targets[i]? = some target) (hl : i < j) :
      (registry.targets.take i).countP (· == target) + 1 ≤
        (registry.targets.take j).countP (· == target) := by
    have hs : (registry.targets.take i ++ [target]).Sublist (registry.targets.take j) := by
      have hi : registry.targets.take (i + 1) = registry.targets.take i ++ [target] := by
        rw [List.take_add_one, ht]
        rfl
      rw [← hi]
      exact (List.take_prefix_take_left hl).sublist
    have hc := hs.countP_le (p := (· == target))
    rwa [List.countP_append, List.countP_singleton, if_pos (beq_self_eq_true _)] at hc
  rcases Nat.lt_trichotomy i j with hl | hl | hl
  · have := less ht hl
    omega
  · exact hl
  · have := less ht' hl
    omega

theorem exists_label_of_attachedKey? {key : String} (h : registry.attachedKey? index = some key) :
    ∃ label, registry.label? index = some label ∧ label.key = key := by
  unfold attachedKey? at h
  split at h
  · exact Option.map_eq_some_iff.mp h
  · cases h

theorem nodup_attachedKeys (registry : Registry) : registry.attachedKeys.Nodup := by
  refine List.Nodup.filterMap (fun i j key hi hj ↦ ?_) List.nodup_range
  obtain ⟨label, hl, hk⟩ := exists_label_of_attachedKey? hi
  obtain ⟨label', hl', hk'⟩ := exists_label_of_attachedKey? hj
  exact key_label?_inj hl hl' (hk.trans hk'.symm)

/-! ### Making labels -/

theorem targets_create (registry : Registry) (target : Target) :
    (registry.create target).2.targets = registry.targets ++ [target] := List.map_append

/-- Labels that are made later leave those made before as they are. -/
theorem label?_of_targets (ho : registry'.owner = registry.owner)
    (ht : registry.targets <+: registry'.targets) (hi : index < registry.entries.length) :
    registry'.label? index = registry.label? index := by
  obtain ⟨later, hl⟩ := ht
  rw [← length_targets] at hi
  rw [label?, label?, ← hl, List.getElem?_append_left hi,
    List.take_append_of_le_length (Nat.le_of_lt hi), ho]

theorem label?_create (registry : Registry) (target : Target) :
    (registry.create target).2.label? registry.entries.length =
      some (registry.create target).1 := by
  have hc : registry.targets.countP (· == target) = registry.count target := by
    rw [targets, List.countP_map]
    rfl
  rw [label?, targets_create, ← length_targets, List.getElem?_concat_length, Option.map_some,
    List.take_left, hc, length_targets]
  rfl

theorem attachedKeys_create (registry : Registry) (target : Target) :
    (registry.create target).2.attachedKeys = registry.attachedKeys := by
  have he : (registry.create target).2.entries = registry.entries ++
      [({ target } : LabelEntry)] := rfl
  have ht : registry.targets <+: (registry.create target).2.targets :=
    ⟨_, (targets_create registry target).symm⟩
  have last : (registry.create target).2.attachedKey? registry.entries.length = none := by
    rw [attachedKey?, he, List.getElem?_concat_length]
    rfl
  rw [attachedKeys, he, List.length_append, List.length_singleton, List.range_succ,
    List.filterMap_append, List.filterMap_cons_none last, List.filterMap_nil, attachedKeys]
  refine (List.append_nil _).trans (List.filterMap_congr fun index hi ↦ ?_)
  have hi := List.mem_range.mp hi
  have same : (registry.create target).2.label? index = registry.label? index :=
    label?_of_targets rfl ht hi
  rw [attachedKey?, attachedKey?, same, he, List.getElem?_append_left hi]

/-! ### Attaching and resolving labels -/

theorem targets_update {change : LabelEntry → LabelEntry}
    (h : ∀ entry, (change entry).target = entry.target) :
    (registry.update label change).targets = registry.targets := by
  refine List.ext_getElem? fun index ↦ ?_
  rw [targets, update, targets, List.getElem?_map, List.getElem?_map, List.getElem?_modify]
  cases registry.entries[index]? with
  | none => rfl
  | some entry =>
    dsimp only [Option.map_some, Functor.map]
    split
    · rw [h]
    · rfl

/-- A label that passes the check is known and not attached yet. -/
theorem exists_entry_of_attachFault {kind : Kind} (h : registry.attachFault label kind = none) :
    label.owner = registry.owner ∧
      ∃ entry, registry.entries[label.index]? = some entry ∧ entry.attached = false := by
  rw [attachFault] at h
  split at h
  · split at h
    · cases h
    · next entry he =>
      rw [Registry.entry] at he
      split at he
      · next ho =>
        refine ⟨ho, entry, ?_, ?_⟩
        · cases hi : registry.entries[label.index]? with
          | none =>
            rw [hi] at he
            cases he
          | some found =>
            rw [hi] at he
            exact congrArg some (Except.ok.inj he)
        · cases ha : entry.attached with
          | false => rfl
          | true =>
            rw [ha] at h
            cases h
      · cases he
  · cases h

theorem targets_attach (registry : Registry) (label : Label) :
    (registry.attach label).targets = registry.targets := targets_update fun _ ↦ rfl

/-- Labels are the same in registries with the same targets. -/
theorem label?_congr (ho : registry'.owner = registry.owner)
    (ht : registry'.targets = registry.targets) : registry'.label? = registry.label? := by
  funext index
  rw [label?, label?, ho, ht]

/-- What is found at one place alone is added to what is found elsewhere. -/
private theorem perm_filterMap {f g : Nat → Option String} {place : Nat} {found : String}
    {places : List Nat} (hn : places.Nodup) (hp : place ∈ places) (hf : f place = none)
    (hg : g place = some found) (h : ∀ other, other ≠ place → g other = f other) :
    (places.filterMap g).Perm (found :: places.filterMap f) := by
  induction places with
  | nil => cases hp
  | cons other places ih =>
    obtain ⟨ho, hn⟩ := List.nodup_cons.mp hn
    by_cases he : other = place
    · subst he
      rw [List.filterMap_cons_some hg, List.filterMap_cons_none hf]
      refine .cons found (.of_eq (List.filterMap_congr fun place hm ↦ h place ?_))
      rintro rfl
      exact ho hm
    · have rest := ih hn (List.mem_of_ne_of_mem (Ne.symm he) hp)
      cases hs : f other with
      | none => rwa [List.filterMap_cons_none ((h other he).trans hs), List.filterMap_cons_none hs]
      | some key =>
        rw [List.filterMap_cons_some ((h other he).trans hs), List.filterMap_cons_some hs]
        exact (rest.cons key).trans (.swap ..)

theorem any_attached_attach (registry : Registry) (label : Label) (index : Nat) :
    (registry.attach label).entries[index]?.any LabelEntry.attached =
      if index = label.index then registry.entries[index]?.isSome
      else registry.entries[index]?.any LabelEntry.attached := by
  rw [attach, update, List.getElem?_modify]
  by_cases hi : index = label.index
  · rw [if_pos hi]
    cases registry.entries[index]? with
    | none => rfl
    | some entry => simp [hi]
  · rw [if_neg hi]
    cases registry.entries[index]? with
    | none => rfl
    | some entry => simp [Ne.symm hi]

/-- Attaching a label adds its key to those that elements carry. -/
theorem attachedKeys_attach {made : Label} {entry : LabelEntry}
    (he : registry.entries[label.index]? = some entry) (ha : entry.attached = false)
    (hl : registry.label? label.index = some made) :
    (registry.attach label).attachedKeys.Perm (made.key :: registry.attachedKeys) := by
  have hs : (registry.attach label).label? = registry.label? :=
    label?_congr rfl (targets_attach registry label)
  have hn : (registry.attach label).entries.length = registry.entries.length :=
    List.length_modify ..
  rw [attachedKeys, hn, attachedKeys]
  have place : label.index ∈ List.range registry.entries.length :=
    List.mem_range.mpr (List.getElem?_eq_some_iff.mp he).1
  refine perm_filterMap List.nodup_range place ?_ ?_ fun other ho ↦ ?_
  · rw [attachedKey?, he, Option.any_some, ha, if_neg Bool.false_ne_true]
  · rw [attachedKey?, hs, hl, any_attached_attach, if_pos rfl, he]
    rfl
  · rw [attachedKey?, attachedKey?, hs, any_attached_attach, if_neg ho]

theorem targets_congr
    (hm : registry'.entries.map (fun entry ↦ (entry.target, entry.attached)) =
      registry.entries.map fun entry ↦ (entry.target, entry.attached)) :
    registry'.targets = registry.targets := by
  have ht := congrArg (List.map Prod.fst) hm
  rwa [List.map_map, List.map_map] at ht

/-- What an element carries can be told from the targets and from which labels are attached. -/
theorem attachedKeys_congr (ho : registry'.owner = registry.owner)
    (hm : registry'.entries.map (fun entry ↦ (entry.target, entry.attached)) =
      registry.entries.map fun entry ↦ (entry.target, entry.attached)) :
    registry'.attachedKeys = registry.attachedKeys := by
  have ht := targets_congr hm
  have hk : registry'.attachedKey? = registry.attachedKey? := by
    funext index
    have ha : registry'.entries[index]?.any LabelEntry.attached =
        registry.entries[index]?.any LabelEntry.attached := by
      have := congrArg (fun marks ↦ marks[index]?.any Prod.snd) hm
      simpa only [List.getElem?_map, Option.any_map] using this
    rw [attachedKey?, attachedKey?, label?_congr ho ht, ha]
  have hl : registry'.entries.length = registry.entries.length := by
    rw [← length_targets, ht, length_targets]
  rw [attachedKeys, attachedKeys, hk, hl]

end Registry

end Manuscript

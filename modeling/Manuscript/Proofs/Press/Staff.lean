import Manuscript.Proofs.Press.Work
import Manuscript.Xhtml.Backend

/-!
# The contexts of the open documents

Each open document is that of a context that has made its document, and no two are that of the same
one (`Press.Staffed`). So if the contexts have different stems, the open documents have, too.
-/

namespace Manuscript

/-- The document is one that the context makes. -/
structure Context.Owns (context : Context) (d : Document) : Prop where
  settings : d.settings = context.settings
  directory : d.directory = context.directory
  stem : d.stem = context.stem

theorem Context.Owns.of_origin_eq {context : Context} {d d' : Document} (h : context.Owns d)
    (ho : d'.origin = d.origin) : context.Owns d' := by
  simp only [Document.origin, Prod.mk.injEq] at ho
  exact ⟨ho.1.trans h.settings, ho.2.1.trans h.directory, ho.2.2.1.trans h.stem⟩

namespace Press

/-- The contexts of the press have bare stems, all of them different. -/
structure Apart (press : Press) : Prop where
  stems : (press.contexts.map Context.stem).Nodup
  bare : ∀ context ∈ press.contexts, Config.isBareName context.stem = true

variable {initial press next : Press} {order : Order} {paths made : List Path}
  {context context' : Context}

theorem Apart.eq_of_stem_eq (apart : press.Apart) (hc : context ∈ press.contexts)
    (hc' : context' ∈ press.contexts) (h : context.stem = context'.stem) : context = context' :=
  List.inj_on_of_nodup_map apart.stems hc hc' h

/-- The contexts are those that there were, and each open document is that of a context that has
made its document, no two of the same one. -/
structure Staffed (initial press : Press) : Prop where
  contexts : press.contexts.map Context.origin = initial.contexts.map Context.origin
  serials : (press.documents.map Document.serial).Nodup
  below : ∀ d ∈ press.documents, d.serial < press.made
  stems : (press.documents.map Document.stem).Nodup
  owned : ∀ d ∈ press.documents,
    ∃ context ∈ press.contexts, context.created = true ∧ context.Owns d

namespace Staffed

/-- Every context was there from the start, whether it had made its document or not. -/
theorem exists_initial (h : Staffed initial press) (hc : context ∈ press.contexts) :
    ∃ first ∈ initial.contexts, first.origin = context.origin := by
  have listed : context.origin ∈ press.contexts.map Context.origin := List.mem_map_of_mem hc
  rw [h.contexts] at listed
  exact List.mem_map.mp listed

theorem apart (h : Staffed initial press) (ha : initial.Apart) : press.Apart where
  stems := by
    have stem (press : Press) : press.contexts.map Context.stem =
        (press.contexts.map Context.origin).map (·.2.1) := by
      rw [List.map_map]
      rfl
    rw [stem, h.contexts, ← stem]
    exact ha.stems
  bare context hc := by
    obtain ⟨first, hf, same⟩ := h.exists_initial hc
    simp only [Context.origin, Prod.mk.injEq] at same
    exact same.2.1 ▸ ha.bare first hf

theorem serial_inj (h : Staffed initial press) {d d' : Document} (hd : d ∈ press.documents)
    (hd' : d' ∈ press.documents) (he : d.serial = d'.serial) : d = d' :=
  List.inj_on_of_nodup_map h.serials hd hd' he

end Staffed

theorem mem_of_document? {serial : Nat} {d : Document} (h : press.document? serial = some d) :
    d ∈ press.documents ∧ d.serial = serial :=
  ⟨List.mem_of_find?_eq_some h, by simpa using List.find?_some h⟩

theorem mem_keep {t : Session} {d : Document} (h : d ∈ (press.keep t).documents) :
    d = t.document ∨ d ∈ press.documents ∧ d.serial ≠ t.document.serial := by
  obtain ⟨e, he, rfl⟩ := List.mem_map.mp h
  split
  · exact .inl rfl
  · next hs => exact .inr ⟨he, hs⟩

theorem mem_contexts_set {position : Nat} {context used other : Context}
    (hc : press.contexts[position]? = some context) (fresh : context.created = false)
    (ho : other ∈ press.contexts) (created : other.created = true) :
    other ∈ press.contexts.set position used := by
  obtain ⟨i, hi⟩ := List.mem_iff_getElem?.mp ho
  have apart : position ≠ i := by
    rintro rfl
    cases hc.symm.trans hi
    rw [fresh] at created
    cases created
  exact List.mem_of_getElem? ((List.getElem?_set_ne apart).trans hi)

theorem Staffed.release (h : Staffed initial press) (serial : Nat) (files : FileSystem) :
    Staffed initial (press.release serial files) := by
  have fewer : (press.release serial files).documents.Sublist press.documents :=
    List.filter_sublist
  exact ⟨h.contexts, h.serials.sublist (fewer.map _), fun d hd ↦ h.below d (fewer.subset hd),
    h.stems.sublist (fewer.map _), fun d hd ↦ h.owned d (fewer.subset hd)⟩

/-- One more differs from all others in what they all differ in. -/
theorem nodup_map_concat {α β : Type} {f : α → β} {list : List α} {last : α}
    (nodup : (list.map f).Nodup) (new : ∀ a ∈ list, f a ≠ f last) :
    ((list ++ [last]).map f).Nodup := by
  rw [List.map_append, List.map_singleton, List.nodup_append]
  refine ⟨nodup, List.nodup_singleton _, fun b hb c hc ↦ ?_⟩
  obtain ⟨a, ha, rfl⟩ := List.mem_map.mp hb
  rw [List.mem_singleton.mp hc]
  exact new a ha

/-- A context that makes its document is still the context that it was. -/
theorem map_origin_set {position : Nat} (hc : press.contexts[position]? = some context)
    (created : Bool) : (press.contexts.set position { context with created }).map Context.origin =
      press.contexts.map Context.origin := by
  obtain ⟨hi, rfl⟩ := List.getElem?_eq_some_iff.mp hc
  have bound : position < (press.contexts.map Context.origin).length := by
    rwa [List.length_map]
  have same : Context.origin { press.contexts[position] with created } =
      (press.contexts.map Context.origin)[position] := by
    rw [List.getElem_map]
    rfl
  rw [List.map_set, same, List.set_getElem_self]

/-- What is the same in a document that is kept is the same in all of them. -/
theorem map_keep {α : Type} {f : Document → α} {d : Document} {t : Session}
    (only : ∀ e ∈ press.documents, e.serial = t.document.serial → e = d)
    (hf : f t.document = f d) : (press.keep t).documents.map f = press.documents.map f := by
  rw [keep, List.map_map]
  refine List.map_congr_left fun e he ↦ ?_
  rw [Function.comp_apply]
  split
  · next hs => rw [hf, only e he hs]
  · rfl

/-- A context that had not made its document is that of the new one alone. -/
theorem Staffed.created (h : Staffed initial press) (ha : initial.Apart) {position : Nat}
    {path : Path} {place : Location} {files : FileSystem}
    (hc : press.contexts[position]? = some context) (fresh : context.created = false) :
    Staffed initial { press with
      contexts := press.contexts.set position { context with created := true }
      documents := press.documents ++ [context.document path place press.made]
      made := press.made + 1
      files } where
  contexts := (map_origin_set hc true).trans h.contexts
  serials := nodup_map_concat h.serials fun d hd ↦ Nat.ne_of_lt (h.below d hd)
  below d hd := by
    rcases List.mem_append.mp hd with hd | hd
    · exact Nat.lt_succ_of_lt (h.below d hd)
    · rw [List.mem_singleton.mp hd]
      exact Nat.lt_succ_self press.made
  stems := by
    refine nodup_map_concat h.stems fun d hd same ↦ ?_
    obtain ⟨owner, ho, created, owns⟩ := h.owned d hd
    have listed := List.mem_of_getElem? hc
    rw [(h.apart ha).eq_of_stem_eq ho listed (owns.stem.symm.trans same), fresh] at created
    cases created
  owned d hd := by
    rcases List.mem_append.mp hd with hd | hd
    · obtain ⟨owner, ho, created, owns⟩ := h.owned d hd
      exact ⟨owner, mem_contexts_set hc fresh ho created, created, owns⟩
    · rw [List.mem_singleton.mp hd]
      obtain ⟨hi, rfl⟩ := List.getElem?_eq_some_iff.mp hc
      exact ⟨_, List.mem_set hi _, rfl, rfl, rfl, rfl⟩

/-- A document is that of its context after a call. -/
theorem Staffed.called (h : Staffed initial press) {d : Document} {t : Session}
    (hd : d ∈ press.documents) (serial : t.document.serial = d.serial)
    (origin : t.document.origin = d.origin) : Staffed initial (press.keep t) := by
  obtain ⟨owner, ho, created, owns⟩ := h.owned d hd
  have only (e : Document) (he : e ∈ press.documents) (hs : e.serial = t.document.serial) :
      e = d := h.serial_inj he hd (hs.trans serial)
  have owns' := owns.of_origin_eq origin
  refine ⟨h.contexts, ?_, fun e he ↦ ?_, ?_, fun e he ↦ ?_⟩
  · rw [map_keep only serial]
    exact h.serials
  · rcases mem_keep he with rfl | ⟨he, -⟩
    · rw [serial]
      exact h.below d hd
    · exact h.below e he
  · rw [map_keep only (owns'.stem.trans owns.stem.symm)]
    exact h.stems
  · rcases mem_keep he with rfl | ⟨he, -⟩
    · exact ⟨owner, ho, created, owns'⟩
    · exact h.owned e he

/-- Every step leaves the documents with contexts of their own. -/
theorem Staffed.step (h : Staffed initial press) (ha : initial.Apart)
    (hs : press.Step Xhtml.backend order paths next) : Staffed initial next := by
  cases hs with
  | idle | installed => exact ⟨h.contexts, h.serials, h.below, h.stems, h.owned⟩
  | created hc fresh _ => exact h.created ha hc fresh
  | called hd draws =>
    exact h.called (mem_of_document? hd).1 (Session.serial_perform ..) draws.origin
  | closed | dropped => exact h.release _ _

end Press

end Manuscript

import Manuscript.Press.Context
import Manuscript.Proofs.Bibliography.Catalogue
import Manuscript.Proofs.Document.Citing
import Manuscript.Xhtml.Backend

/-!
# What a citation writes

A citation names each of its works once, either by their numbers in ascending order or with their
authors in the order in which they are cited. Works that are new get the next numbers in the order
of the list. A citation that is refused registers nothing, and one of nothing is accepted anywhere
(`Session.perform_cite_names`).
-/

namespace Manuscript

namespace NumberedWork

/-- The work as it is in a citation. -/
def citation (work : NumberedWork) : Citation := ⟨work.number, work.key, work.record.citedAuthors⟩

/-- The number of the work, which leads to its place in the reference list. -/
def link (work : NumberedWork) : Span := .link ("#" ++ work.key) (toString work.number)

/-- The number in brackets behind the authors, if the work names any. -/
def withAuthors (work : NumberedWork) : Phrase :=
  (if work.record.citedAuthors = "" then [] else [.text work.record.citedAuthors, .space]) ++
    [.text "[", work.link, .text "]"]

end NumberedWork

namespace Bibliography

variable {bibliography : Bibliography} {records : List Record}

/-- The work stands in the bibliography under its number. -/
def Has (bibliography : Bibliography) (work : NumberedWork) : Prop :=
  ∃ position, bibliography.works[position]? = some work.toCitedWork ∧ work.number = position + 1

/-- The phrase names the works that are cited, each once: in the order of their numbers, or with
their authors in the order in which they are first cited. -/
def Names (bibliography : Bibliography) (style : CitationStyle) (records : List Record)
    (phrase : Phrase) : Prop :=
  ∃ works : List NumberedWork, (∀ work ∈ works, bibliography.Has work) ∧
    match style with
    | .numbers => (works.map (·.record)).Perm records.eraseDups ∧
      works.Pairwise (·.number < ·.number) ∧
      phrase = [.text "["] ++ [.text ", "].intercalate (works.map ([·.link])) ++ [.text "]"]
    | .authorsAndNumbers => works.map (·.record) = records.eraseDups ∧
      phrase = Series.arrange .and false (works.map (·.withAuthors))

/-! ### Places of works -/

theorem Has.position_unique {work other : NumberedWork} (h : bibliography.Has work)
    (h' : bibliography.Has other) (same : work.number = other.number) :
    work.record = other.record := by
  obtain ⟨m, hm, he⟩ := h
  obtain ⟨n, hn, he'⟩ := h'
  obtain rfl : m = n := by omega
  rw [hm] at hn
  exact congrArg CitedWork.record (Option.some.inj hn)

/-- A work that is in the bibliography has a place there. -/
theorem exists_citation? {record : Record} (h : record ∈ bibliography.records) :
    ∃ work, bibliography.Has work ∧ work.record = record ∧
      bibliography.citation? record = some work.citation := by
  have there : bibliography.position? record ≠ none := by
    rw [Ne, position?_eq_none_iff, not_not]
    exact h
  obtain ⟨position, hp⟩ := Option.ne_none_iff_exists'.mp there
  obtain ⟨inside, same, -⟩ := List.findIdx?_eq_some_iff_getElem.mp hp
  obtain rfl := eq_of_beq same
  have found := List.getElem?_eq_getElem inside
  refine ⟨⟨bibliography.works[position], position + 1⟩, ⟨position, found, rfl⟩, rfl, ?_⟩
  rw [citation?, hp]
  change bibliography.works[position]?.bind _ = _
  rw [found]
  rfl

theorem exists_works (h : ∀ record ∈ records, record ∈ bibliography.records) :
    ∃ works : List NumberedWork, (∀ work ∈ works, bibliography.Has work) ∧
      works.map (·.record) = records ∧
      records.filterMap bibliography.citation? = works.map (·.citation) := by
  induction records with
  | nil => exact ⟨[], List.forall_mem_nil _, rfl, rfl⟩
  | cons record records ih =>
    rw [List.forall_mem_cons] at h
    obtain ⟨work, has, rfl, found⟩ := exists_citation? h.1
    obtain ⟨works, have_, rfl, others⟩ := ih h.2
    refine ⟨work :: works, List.forall_mem_cons.mpr ⟨has, have_⟩, rfl, ?_⟩
    rw [List.filterMap_cons_some found, others, List.map_cons]

/-- Different works that are in order have ascending numbers. -/
theorem exists_ascending {works : List NumberedWork} (h : ∀ work ∈ works, bibliography.Has work)
    (nodup : (works.map (·.record)).Nodup) :
    ∃ sorted : List NumberedWork, sorted.Perm works ∧ sorted.Pairwise (·.number < ·.number) ∧
      (works.map (·.citation)).mergeSort (·.number ≤ ·.number) = sorted.map (·.citation) := by
  have perm : (works.mergeSort (·.number ≤ ·.number)).Perm works := List.mergeSort_perm _ _
  have same : (works.mergeSort (·.number ≤ ·.number)).map (·.citation) =
      (works.map (·.citation)).mergeSort (·.number ≤ ·.number) :=
    List.map_mergeSort fun _ _ _ _ ↦ rfl
  refine ⟨_, perm, ?_, same.symm⟩
  have ascending : (works.mergeSort (·.number ≤ ·.number)).Pairwise
      fun work other ↦ decide (work.number ≤ other.number) = true :=
    List.pairwise_mergeSort (fun a b c hab hbc ↦ by simp_all; omega)
      (fun a b ↦ by simp; omega) works
  have apart : (works.mergeSort (·.number ≤ ·.number)).Pairwise (·.number ≠ ·.number) := by
    refine (perm.pairwise_iff Ne.symm).mpr ?_
    refine (List.pairwise_map.mp nodup).imp_of_mem fun hm hn different same ↦ different ?_
    exact (h _ hm).position_unique (h _ hn) same
  exact (ascending.and apart).imp fun hle ↦ Nat.lt_of_le_of_ne (by simpa using hle.1) hle.2

/-- A citation names the works that are cited. -/
theorem names_cite (bibliography : Bibliography) (style : CitationStyle) (records : List Record) :
    (bibliography.cite records).2.Names style records
      (Citation.phrase style (bibliography.cite records).1) := by
  have there : ∀ record ∈ records.eraseDups, record ∈ (bibliography.cite records).2.records := by
    intro record hr
    exact (bibliography.mem_records_cite records).mpr (.inr (List.mem_eraseDups.mp hr))
  obtain ⟨works, has, named, found⟩ := exists_works there
  change _ = _ at found
  have given : (bibliography.cite records).1 = works.map (·.citation) := found
  rw [given]
  cases style with
  | numbers =>
    obtain ⟨sorted, perm, ascending, same⟩ :=
      exists_ascending has (named ▸ nodup_eraseDups records)
    refine ⟨sorted, fun work hw ↦ has work (perm.subset hw), ?_, ascending, ?_⟩
    · exact named ▸ perm.map _
    · rw [Citation.phrase, same, List.map_map]
      rfl
  | authorsAndNumbers =>
    refine ⟨works, has, named, ?_⟩
    rw [Citation.phrase, Series.join_eq_arrange _ (by decide), List.map_map]
    rfl

end Bibliography

namespace Session

/-- A citation of nothing changes nothing and is accepted everywhere. Where text is not allowed, any
other is refused and changes nothing. Where it is, the works that are new are put behind the others
in the order of the list, and a phrase is written that names every work once. -/
theorem perform_cite_names (backend : Backend) (s : Session) (style : CitationStyle)
    (records : List Record) :
    (records = [] → s.perform backend (.cite style records) = (.ok .done, s)) ∧
    (records ≠ [] → s.document.innermost.any Kind.acceptsText = false →
      s.perform backend (.cite style records) =
        (.error (.textNotAllowed s.document.innermost), s)) ∧
    (records ≠ [] → s.document.innermost.any Kind.acceptsText = true →
      ∃ bibliography new phrase,
        bibliography.works = s.document.bibliography.works ++ new ∧
        new.map (·.record) =
          (records.filter (· ∉ s.document.bibliography.records)).eraseDups ∧
        bibliography.Names style records phrase ∧
        s.perform backend (.cite style records) = (.ok .done, s.modifyDocument fun d ↦
          (({ d with bibliography }).appendPhrase backend phrase).stream)) := by
  rw [perform_cite]
  refine ⟨fun none_ ↦ if_pos none_, fun some_ outside ↦ ?_, fun some_ inside ↦ ?_⟩
  · have refused : s.document.textError = some (.textNotAllowed s.document.innermost) :=
      if_neg (Bool.eq_false_iff.mp outside)
    rw [if_neg some_, refused]
  · have free : s.document.textError = none := if_pos inside
    obtain ⟨new, grown⟩ := s.document.bibliography.works_prefix_cite records
    refine ⟨_, new, _, grown.symm, ?_, s.document.bibliography.names_cite style records, ?_⟩
    · have all := s.document.bibliography.records_cite_eq records
      rw [Bibliography.records, ← grown, List.map_append] at all
      exact List.append_cancel_left all
    · rw [if_neg some_, free]
      simp only [modifyDocument, Document.citing]

/-- In a paragraph two new works are cited, one of them twice. In front of the body nothing can be
cited but nothing. -/
theorem perform_cite_names_twice :
    let context : Context := ⟨⟨"/"⟩, "index", {}, false⟩
    let start : Session := ⟨context.document ⟨"/index.xhtml"⟩ ["index.xhtml"] 0, {}⟩
    let plato : Record := ⟨[⟨"", "Plato"⟩], "Laws", none, none, none, .website none⟩
    let weise : Record := ⟨[⟨"Thomas", "Weise"⟩], "Pages", none, none, none, .website none⟩
    let s := start.run Xhtml.backend [.beginElement .header, .endElement .header,
      .beginElement .body, .beginElement .paragraph]
    start.perform Xhtml.backend (.cite .numbers []) = (.ok .done, start) ∧
    start.perform Xhtml.backend (.cite .numbers [plato]) =
      (.error (.textNotAllowed none), start) ∧
    ∃ bibliography new phrase, bibliography.works = s.document.bibliography.works ++ new ∧
      new.map (·.record) = [weise, plato] ∧
      bibliography.Names .authorsAndNumbers [weise, plato, weise] phrase ∧
      s.perform Xhtml.backend (.cite .authorsAndNumbers [weise, plato, weise]) =
        (.ok .done, s.modifyDocument fun d ↦
          (({ d with bibliography }).appendPhrase Xhtml.backend phrase).stream) := by
  intro context start plato weise s
  have outside : start.document.innermost.any Kind.acceptsText = false := by decide +kernel
  have inside : s.document.innermost.any Kind.acceptsText = true := by decide +kernel
  have unknown : ([weise, plato, weise].filter
      (· ∉ s.document.bibliography.records)).eraseDups = [weise, plato] := by decide +kernel
  obtain ⟨none_, -, -⟩ := perform_cite_names Xhtml.backend start .numbers []
  obtain ⟨-, refused, -⟩ := perform_cite_names Xhtml.backend start .numbers [plato]
  obtain ⟨-, -, written⟩ :=
    perform_cite_names Xhtml.backend s .authorsAndNumbers [weise, plato, weise]
  rw [unknown] at written
  exact ⟨none_ rfl, refused (List.cons_ne_nil _ _) outside, written (List.cons_ne_nil _ _) inside⟩

end Session

end Manuscript

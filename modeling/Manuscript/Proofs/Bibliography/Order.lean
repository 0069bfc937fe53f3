import Manuscript.Proofs.Bibliography.Key
import Manuscript.Proofs.Prose.Series

/-!
# The order of cited works

The works of a bibliography stand in the order of their first citation (`records_cite`), and a work
that is in it keeps its place and its key (`works_prefix_cite`). A citation links the works that are
cited to their places, and nothing else (`links_cite`).
-/

namespace Manuscript

/-- A list without its repetitions repeats nothing. -/
theorem nodup_eraseDups {α : Type} [BEq α] [LawfulBEq α] (list : List α) :
    list.eraseDups.Nodup := by
  cases list with
  | nil => exact List.nodup_nil
  | cons first rest =>
    rw [List.eraseDups_cons, List.nodup_cons]
    constructor
    · simp
    · exact nodup_eraseDups (rest.filter fun other ↦ !other == first)
termination_by list.length
decreasing_by exact Nat.lt_succ_of_le (List.length_filter_le ..)

namespace Bibliography

variable {bibliography : Bibliography} {record : Record} {cited : List Record}

/-- The works without their keys. -/
def records (bibliography : Bibliography) : List Record := bibliography.works.map CitedWork.record

theorem getElem?_records {n : Nat} {work : CitedWork} (h : bibliography.works[n]? = some work) :
    bibliography.records[n]? = some work.record := by simp [records, h]

/-- A bibliography is empty until something is cited. -/
theorem works_eq_nil_iff (h : bibliography.records = cited.eraseDups) :
    bibliography.works = [] ↔ cited = [] := by
  rw [← List.map_eq_nil_iff, ← records, h]
  simp only [List.eq_nil_iff_forall_not_mem, List.mem_eraseDups]

/-! ### Registering -/

theorem position?_eq_none_iff :
    bibliography.position? record = none ↔ record ∉ bibliography.records := by
  simp [position?, records]

/-- A work is put behind the others when it is cited for the first time. -/
theorem records_register (bibliography : Bibliography) (record : Record) :
    (bibliography.register record).records =
      if record ∈ bibliography.records then bibliography.records
      else bibliography.records ++ [record] := by
  by_cases hr : record ∈ bibliography.records
  · have there : bibliography.position? record ≠ none := by simpa [position?_eq_none_iff] using hr
    obtain ⟨position, hp⟩ := Option.ne_none_iff_exists'.mp there
    simp [register, hp, hr]
  · have new := position?_eq_none_iff.mpr hr
    rw [if_neg hr]
    simp [register, new, records]

/-- Works that are new are put behind the others in the order in which they are first cited. -/
theorem records_cite_eq (bibliography : Bibliography) (records : List Record) :
    (bibliography.cite records).2.records = bibliography.records ++
      (records.filter (· ∉ bibliography.records)).eraseDups := by
  change (records.foldl register bibliography).records = _
  induction records generalizing bibliography with
  | nil => simp
  | cons record records ih =>
    rw [List.foldl_cons, ih, records_register]
    by_cases hr : record ∈ bibliography.records
    · simp [hr]
    · have others : (fun other ↦ !other == record && decide (other ∉ bibliography.records)) =
          fun other ↦ decide (other ∉ bibliography.records ++ [record]) := by
        funext other
        by_cases ho : other = record <;> simp [ho]
      rw [if_neg hr, List.filter_cons_of_pos (by simpa using hr), List.eraseDups_cons,
        List.filter_filter, others, List.append_assoc]
      rfl

/-- Works stand in the order in which they were cited for the first time. -/
theorem records_cite (h : bibliography.records = cited.eraseDups) (records : List Record) :
    (bibliography.cite records).2.records = (cited ++ records).eraseDups := by
  rw [records_cite_eq, List.eraseDups_append, List.removeAll, h]
  simp

/-- Everything that is cited is in the bibliography afterwards. -/
theorem mem_records_cite (bibliography : Bibliography) (records : List Record) :
    record ∈ (bibliography.cite records).2.records ↔
      record ∈ bibliography.records ∨ record ∈ records := by
  rw [records_cite_eq, List.mem_append, List.mem_eraseDups, List.mem_filter, decide_eq_true_eq]
  tauto

theorem works_prefix_register (bibliography : Bibliography) (record : Record) :
    bibliography.works <+: (bibliography.register record).works := by
  unfold register
  split
  · exact List.prefix_rfl
  · exact List.prefix_append _ _

/-- What has been cited keeps its place and its key. -/
theorem works_prefix_cite (bibliography : Bibliography) (records : List Record) :
    bibliography.works <+: (bibliography.cite records).2.works := by
  change bibliography.works <+: (records.foldl register bibliography).works
  induction records generalizing bibliography with
  | nil => exact List.prefix_rfl
  | cons record records ih => exact (works_prefix_register bibliography record).trans (ih _)

/-! ### Places -/

/-- A work is at one position only. -/
theorem position_unique (h : bibliography.records.Nodup) {m n : Nat} {work other : CitedWork}
    (hm : bibliography.works[m]? = some work) (hn : bibliography.works[n]? = some other)
    (same : work.record = other.record) : m = n := by
  have first := getElem?_records hm
  have second := getElem?_records hn
  rw [← same, ← first] at second
  have inside := (List.getElem?_eq_some_iff.mp first).1
  exact ((List.getElem?_inj inside h).mp second.symm)

/-- The place of a work is its position, counted from one, with its key. -/
theorem citation?_eq_some_iff (h : bibliography.records.Nodup) {citation : Citation} :
    bibliography.citation? record = some citation ↔
      ∃ n work, bibliography.works[n]? = some work ∧ work.record = record ∧
        citation = ⟨n + 1, work.key, record.citedAuthors⟩ := by
  have found {n : Nat} (hn : bibliography.position? record = some n) :
      ∃ work, bibliography.works[n]? = some work ∧ work.record = record := by
    obtain ⟨inside, same, _⟩ := List.findIdx?_eq_some_iff_getElem.mp hn
    exact ⟨_, List.getElem?_eq_getElem inside, eq_of_beq same⟩
  constructor
  · intro hc
    obtain ⟨n, hn, hc⟩ := Option.bind_eq_some_iff.mp hc
    obtain ⟨work, hw, same⟩ := found hn
    rw [hw] at hc
    exact ⟨n, work, hw, same, (Option.some.inj hc).symm⟩
  · rintro ⟨n, work, hw, rfl, rfl⟩
    have there : bibliography.position? work.record ≠ none := by
      rw [Ne, position?_eq_none_iff, not_not]
      exact List.mem_of_getElem? (getElem?_records hw)
    obtain ⟨m, hm⟩ := Option.ne_none_iff_exists'.mp there
    obtain ⟨other, ho, same⟩ := found hm
    obtain rfl := position_unique h ho hw same
    rw [citation?, hm]
    change bibliography.works[m]?.bind _ = _
    rw [hw]
    rfl

/-- The works that are cited are given with their places, which are the same in every bibliography
that goes on from there. -/
theorem mem_cite {records : List Record} {later : Bibliography}
    (hp : (bibliography.cite records).2.works <+: later.works) (h : later.records.Nodup)
    {citation : Citation} :
    citation ∈ (bibliography.cite records).1 ↔
      ∃ n work, later.works[n]? = some work ∧ work.record ∈ records ∧
        citation = ⟨n + 1, work.key, work.record.citedAuthors⟩ := by
  have nodup : (bibliography.cite records).2.records.Nodup := h.sublist (hp.map _).sublist
  have stays {n : Nat} {work : CitedWork}
      (hw : (bibliography.cite records).2.works[n]? = some work) : later.works[n]? = some work := by
    rw [List.getElem?_eq_some_iff] at hw
    obtain ⟨inside, rfl⟩ := hw
    exact List.prefix_iff_getElem?.mp hp n inside
  change citation ∈ records.eraseDups.filterMap (bibliography.cite records).2.citation? ↔ _
  simp only [List.mem_filterMap, List.mem_eraseDups, citation?_eq_some_iff nodup]
  constructor
  · rintro ⟨record, hr, n, work, hw, rfl, rfl⟩
    exact ⟨n, work, stays hw, hr, rfl⟩
  · rintro ⟨n, work, hw, hr, rfl⟩
    have there := (bibliography.mem_records_cite records).mpr (.inr hr)
    obtain ⟨m, hm⟩ := List.mem_iff_getElem?.mp there
    rw [Bibliography.records, List.getElem?_map, Option.map_eq_some_iff] at hm
    obtain ⟨other, ho, same⟩ := hm
    obtain rfl := position_unique h (stays ho) hw same
    obtain rfl := Option.some.inj ((stays ho).symm.trans hw)
    exact ⟨other.record, hr, m, other, ho, rfl, rfl⟩

end Bibliography

/-! ### Links -/

namespace Citation

variable {citation : Citation} {citations : List Citation} {target text : String}

theorem link_mem_withAuthors :
    Span.link target text ∈ citation.withAuthors ↔ Span.link target text = citation.link := by
  unfold withAuthors link
  split <;> simp

/-- A citation holds the links to the places that are cited, and no others. -/
theorem link_mem_phrase (style : CitationStyle) :
    Span.link target text ∈ phrase style citations ↔
      ∃ citation ∈ citations, Span.link target text = citation.link := by
  cases style with
  | numbers =>
    have sorted (citation : Citation) :
        citation ∈ citations.mergeSort (·.number ≤ ·.number) ↔ citation ∈ citations :=
      List.mem_mergeSort
    simp [phrase, Series.link_mem_intercalate, sorted]
  | authorsAndNumbers => simp [phrase, Series.link_mem_join, link_mem_withAuthors]

end Citation

/-- The phrase links the works to their places in the list, and links nothing else. -/
def Bibliography.Links (bibliography : Bibliography) (records : List Record) (phrase : Phrase) :
    Prop :=
  ∀ target text, Span.link target text ∈ phrase ↔
    ∃ n work, bibliography.works[n]? = some work ∧ work.record ∈ records ∧
      target = "#" ++ work.key ∧ text = toString (n + 1)

/-- The links of a citation are right in every bibliography that goes on from there. -/
theorem Bibliography.links_cite {bibliography later : Bibliography} {records : List Record}
    (hp : (bibliography.cite records).2.works <+: later.works) (h : later.records.Nodup)
    (style : CitationStyle) :
    later.Links records (Citation.phrase style (bibliography.cite records).1) := by
  intro target text
  simp only [Citation.link_mem_phrase, mem_cite hp h, Citation.link, Span.link.injEq]
  constructor
  · rintro ⟨_, ⟨n, work, hw, hr, rfl⟩, rfl, rfl⟩
    exact ⟨n, work, hw, hr, rfl, rfl⟩
  · rintro ⟨n, work, hw, hr, rfl, rfl⟩
    exact ⟨_, ⟨n, work, hw, hr, rfl⟩, rfl, rfl⟩

end Manuscript

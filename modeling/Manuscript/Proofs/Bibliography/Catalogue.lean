import Manuscript.Proofs.Bibliography.Order
import Mathlib.Data.Finmap

/-!
# Catalogues

A catalogue writes down what a bibliography lets one work out: the numbers of the works, an index of
where they are, and the keys in use; and it finds a new key by trying one after another. Its three
parts go on to agree with each other and with the bibliography, whatever is cited, and the search
for a key always ends (`Catalogue.runs_consistent`).
-/

namespace Manuscript

/-- An entry of a list with one more behind it is one of the list or that one. -/
theorem getElem?_concat_eq_some_iff {α : Type} {list : List α} {last a : α} {n : Nat} :
    (list ++ [last])[n]? = some a ↔ list[n]? = some a ∨ n = list.length ∧ last = a := by
  grind

/-! ### The first free key -/

/-- Keys are tried until one is free; behind a key that is taken comes the base with the next serial
number. -/
inductive FindsKey (taken : Finset String) (base : String) : String → Nat → String → Prop where
  | free {key : String} {serial : Nat} : key ∉ taken → FindsKey taken base key serial key
  | taken {key found : String} {serial : Nat} : key ∈ taken →
      FindsKey taken base (Bibliography.numberedKey base serial) (serial + 1) found →
      FindsKey taken base key serial found

namespace FindsKey

variable {taken : Finset String} {base key found found' : String} {serial : Nat}

theorem not_mem (h : FindsKey taken base key serial found) : found ∉ taken := by
  induction h with
  | free hk => exact hk
  | taken _ _ ih => exact ih

theorem unique (h : FindsKey taken base key serial found)
    (h' : FindsKey taken base key serial found') : found = found' := by
  induction h with
  | free hk =>
    cases h' with
    | free => rfl
    | taken hk' => exact absurd hk' hk
  | taken hk _ ih =>
    cases h' with
    | free hk' => exact absurd hk hk'
    | taken _ next => exact ih next

/-- Behind serial numbers that are taken comes one that is free. -/
theorem of_least {free : Nat} (hf : Bibliography.numberedKey base free ∉ taken) :
    ∀ start ≤ free,
      (∀ n, start ≤ n → n < free → Bibliography.numberedKey base n ∈ taken) →
      FindsKey taken base (Bibliography.numberedKey base start) (start + 1)
        (Bibliography.numberedKey base free) := by
  intro start hs before
  induction hd : free - start generalizing start with
  | zero =>
    obtain rfl : start = free := by omega
    exact .free hf
  | succ distance ih =>
    refine .taken (before start (Nat.le_refl start) (by omega)) ?_
    exact ih (start + 1) (by omega) (fun n hn ↦ before n (by omega)) (by omega)

end FindsKey

namespace Bibliography

/-- The key that a new work gets: its base, or else the base with the least serial number from two
on that is free. -/
def IsNewKey (taken : List String) (base key : String) : Prop :=
  (base ∉ taken → key = base) ∧
    (base ∈ taken → ∃ serial, 2 ≤ serial ∧ key = numberedKey base serial ∧ key ∉ taken ∧
      ∀ n, 2 ≤ n → n < serial → numberedKey base n ∈ taken)

/-- A key that is to be new is the first that is free. -/
theorem isNewKey_freshKey (taken : List String) (base : String) :
    IsNewKey taken base (freshKey taken base) := by
  constructor
  · exact fun hb ↦ if_neg hb
  · intro hb
    rw [freshKey, if_pos hb, List.find?_map]
    cases hf : (List.range' 2 (taken.length + 1)).find?
        ((fun key ↦ decide (key ∉ taken)) ∘ numberedKey base) with
    | none =>
      obtain ⟨key, hk, free⟩ := exists_numberedKey_not_mem taken base
      obtain ⟨serial, hs, rfl⟩ := List.mem_map.mp hk
      exact absurd (List.find?_eq_none.mp hf serial hs) (by simpa using free)
    | some serial =>
      obtain ⟨free, inside, least⟩ := List.find?_range'_eq_some.mp hf
      exact ⟨serial, (List.mem_range'_1.mp inside).1, rfl, by simpa using free,
        fun n hn hs ↦ by simpa using least n hn hs⟩

/-- Trying keys one after another finds the new key. -/
theorem finds_freshKey (taken : List String) (base : String) :
    FindsKey taken.toFinset base base 2 (freshKey taken base) := by
  obtain ⟨hn, hb⟩ := isNewKey_freshKey taken base
  by_cases hm : base ∈ taken
  · obtain ⟨serial, hs, he, free, before⟩ := hb hm
    rw [he] at free ⊢
    exact .taken (by simpa using hm)
      (.of_least (by simpa using free) 2 hs fun n hn hf ↦ by simpa using before n hn hf)
  · rw [hn hm]
    exact .free (by simpa using hm)

end Bibliography

/-! ### Citing one work -/

/-- A cited work with its number. -/
structure NumberedWork extends CitedWork where
  number : Nat
  deriving DecidableEq, Repr

/-- A reference list with an index of its works and the keys in use. -/
structure Catalogue where
  entries : List NumberedWork := []
  index : Finmap fun _ : Record ↦ Nat := ∅
  taken : Finset String := ∅

namespace Catalogue

variable {catalogue next next' : Catalogue} {record : Record} {key : String}
  {entry entry' : NumberedWork} {bibliography : Bibliography}

/-- The works in the catalogue. -/
def records (catalogue : Catalogue) : List Record := catalogue.entries.map (·.record)

/-- The keys of the works. -/
def keys (catalogue : Catalogue) : List String := catalogue.entries.map (·.key)

/-- The entry that a work gets behind the others. -/
def entryFor (catalogue : Catalogue) (record : Record) (key : String) : NumberedWork :=
  ⟨⟨record, key⟩, catalogue.entries.length + 1⟩

/-- The catalogue with a work behind the others. -/
def add (catalogue : Catalogue) (record : Record) (key : String) : Catalogue where
  entries := catalogue.entries ++ [catalogue.entryFor record key]
  index := catalogue.index.insert record catalogue.entries.length
  taken := insert key catalogue.taken

/-- A work that the index knows is looked up, and any other is added with the first key that is
found to be free. -/
inductive Cites (catalogue : Catalogue) (record : Record) : NumberedWork → Catalogue → Prop where
  | known {position : Nat} {entry : NumberedWork} :
      catalogue.index.lookup record = some position →
      catalogue.entries[position]? = some entry → Cites catalogue record entry catalogue
  | new {key : String} : catalogue.index.lookup record = none →
      FindsKey catalogue.taken record.baseKey record.baseKey 2 key →
      Cites catalogue record (catalogue.entryFor record key) (catalogue.add record key)

theorem Cites.unique (h : catalogue.Cites record entry next)
    (h' : catalogue.Cites record entry' next') : entry' = entry ∧ next' = next := by
  cases h with
  | known hp he =>
    cases h' with
    | known hp' he' =>
      cases hp.symm.trans hp'
      exact ⟨Option.some.inj (he'.symm.trans he), rfl⟩
    | new hn => simp [hn] at hp
  | new hn hk =>
    cases h' with
    | known hp => simp [hn] at hp
    | new _ hk' =>
      obtain rfl := hk.unique hk'
      exact ⟨rfl, rfl⟩

theorem Cites.entries_prefix (h : catalogue.Cites record entry next) :
    catalogue.entries <+: next.entries := by
  cases h with
  | known => exact List.prefix_rfl
  | new => exact List.prefix_append _ _

/-! ### What the three parts have to do with each other -/

/-- The entries are numbered in order, hold different works under different keys, and the index and
the keys in use are those of the entries. -/
structure Consistent (catalogue : Catalogue) : Prop where
  number : ∀ position entry, catalogue.entries[position]? = some entry →
    entry.number = position + 1
  distinct : catalogue.records.Nodup
  index : ∀ record position, catalogue.index.lookup record = some position ↔
    catalogue.records[position]? = some record
  taken : ∀ key, key ∈ catalogue.taken ↔ key ∈ catalogue.keys
  nodup : catalogue.keys.Nodup

theorem consistent_empty : Consistent {} where
  number := by simp
  distinct := List.nodup_nil
  index := by simp [records]
  taken := by simp [keys]
  nodup := List.nodup_nil

theorem records_add (catalogue : Catalogue) (record : Record) (key : String) :
    (catalogue.add record key).records = catalogue.records ++ [record] := List.map_append

theorem keys_add (catalogue : Catalogue) (record : Record) (key : String) :
    (catalogue.add record key).keys = catalogue.keys ++ [key] := List.map_append

namespace Consistent

theorem lookup_eq_none_iff (h : catalogue.Consistent) :
    catalogue.index.lookup record = none ↔ record ∉ catalogue.records := by
  rw [Option.eq_none_iff_forall_not_mem, List.mem_iff_getElem?, not_exists]
  exact forall_congr' fun position ↦ not_congr (h.index record position)

/-- A new work with a free key fits in. -/
theorem add (h : catalogue.Consistent) (new : catalogue.index.lookup record = none)
    (free : key ∉ catalogue.taken) : (catalogue.add record key).Consistent := by
  have absent : record ∉ catalogue.records := h.lookup_eq_none_iff.mp new
  constructor
  · intro position entry he
    rcases getElem?_concat_eq_some_iff.mp he with he | ⟨rfl, rfl⟩
    · exact h.number position entry he
    · rfl
  · rw [records_add, ← List.concat_eq_append]
    exact h.distinct.concat absent
  · intro other position
    rw [records_add, getElem?_concat_eq_some_iff, records, List.length_map]
    by_cases ho : other = record
    · subst ho
      have nowhere : catalogue.records[position]? ≠ some other :=
        fun hp ↦ absent (List.mem_of_getElem? hp)
      rw [Catalogue.add, Finmap.lookup_insert, Option.some_inj, eq_comm]
      exact ⟨fun hp ↦ .inr ⟨hp, rfl⟩, fun hp ↦ (hp.resolve_left nowhere).1⟩
    · rw [Catalogue.add, Finmap.lookup_insert_of_ne _ ho, h.index]
      exact ⟨.inl, fun hp ↦ hp.resolve_right fun hl ↦ ho hl.2.symm⟩
  · intro other
    rw [keys_add, List.mem_append, List.mem_singleton, ← h.taken]
    exact Finset.mem_insert.trans or_comm
  · rw [keys_add, ← List.concat_eq_append]
    exact h.nodup.concat fun hk ↦ free ((h.taken key).mpr hk)

/-- A citation keeps the three parts together. -/
theorem cites (h : catalogue.Consistent) (hc : catalogue.Cites record entry next) :
    next.Consistent := by
  cases hc with
  | known => exact h
  | new hn hk => exact h.add hn hk.not_mem

/-- A work of an entry is cited by giving that entry, and nothing changes. -/
theorem cites_known (h : catalogue.Consistent) (he : entry ∈ catalogue.entries) :
    catalogue.Cites entry.record entry catalogue := by
  obtain ⟨position, hp⟩ := List.mem_iff_getElem?.mp he
  refine .known ((h.index _ position).mpr ?_) hp
  rw [records, List.getElem?_map, hp]
  rfl

/-- Every work can be cited, and the entry that is given is its own. -/
theorem exists_cites (h : catalogue.Consistent) (record : Record) : ∃ entry next,
    catalogue.Cites record entry next ∧ entry ∈ next.entries ∧ entry.record = record := by
  by_cases hr : record ∈ catalogue.records
  · obtain ⟨entry, he, rfl⟩ := List.mem_map.mp hr
    exact ⟨entry, catalogue, h.cites_known he, he, rfl⟩
  · have found := Bibliography.finds_freshKey catalogue.taken.toList record.baseKey
    rw [Finset.toList_toFinset] at found
    exact ⟨_, _, .new (h.lookup_eq_none_iff.mpr hr) found,
      List.mem_append_right _ List.mem_cons_self, rfl⟩

end Consistent

/-! ### Catalogues and bibliographies -/

/-- The catalogue writes down what the bibliography lets one work out. -/
structure Describes (catalogue : Catalogue) (bibliography : Bibliography) : Prop where
  works : catalogue.entries.map (·.toCitedWork) = bibliography.works
  index : ∀ record, catalogue.index.lookup record = bibliography.position? record
  taken : catalogue.taken = bibliography.keys.toFinset

theorem describes_empty : Describes {} {} where
  works := rfl
  index _ := Finmap.lookup_empty _
  taken := rfl

/-- A citation does to the catalogue what it does to the bibliography. -/
theorem Describes.cites (h : catalogue.Describes bibliography)
    (hc : catalogue.Cites record entry next) : next.Describes (bibliography.register record) := by
  cases hc with
  | known hp =>
    rw [h.index] at hp
    rwa [Bibliography.register, hp]
  | new hn hk =>
    rw [h.index] at hn
    rw [h.taken] at hk
    obtain rfl := (Bibliography.finds_freshKey bibliography.keys record.baseKey).unique hk
    have length : catalogue.entries.length = bibliography.works.length := by
      rw [← h.works, List.length_map]
    rw [Bibliography.register, hn]
    constructor
    · rw [add, List.map_append, h.works]
      rfl
    · intro other
      by_cases ho : other = record
      · subst ho
        rw [Bibliography.position?] at hn
        simp [add, Bibliography.position?, List.findIdx?_append, hn, length, Finmap.lookup_insert]
      · have apart : ¬(record == other) = true := fun he ↦ ho (eq_of_beq he).symm
        rw [add, Finmap.lookup_insert_of_ne _ ho, h.index]
        simp [Bibliography.position?, List.findIdx?_append, apart]
    · rw [add, h.taken]
      simp [Bibliography.keys, List.toFinset_append]

namespace Describes

theorem records_eq (h : catalogue.Describes bibliography) :
    catalogue.records = bibliography.records := by
  rw [Bibliography.records, ← h.works, List.map_map]
  rfl

theorem keys_eq (h : catalogue.Describes bibliography) : catalogue.keys = bibliography.keys := by
  rw [Bibliography.keys, ← h.works, List.map_map]
  rfl

/-- The place of a work in the bibliography is what its entry says. -/
theorem citation?_eq (h : catalogue.Describes bibliography) (hc : catalogue.Consistent)
    (he : entry ∈ catalogue.entries) : bibliography.citation? entry.record =
      some ⟨entry.number, entry.key, entry.record.citedAuthors⟩ := by
  obtain ⟨position, hp⟩ := List.mem_iff_getElem?.mp he
  have nodup : bibliography.records.Nodup := h.records_eq ▸ hc.distinct
  refine (Bibliography.citation?_eq_some_iff nodup).mpr ⟨position, entry.toCitedWork, ?_, rfl, ?_⟩
  · rw [← h.works, List.getElem?_map, hp]
    rfl
  · rw [hc.number position entry hp]

theorem register_known (h : catalogue.Describes bibliography) (hc : catalogue.Consistent)
    (he : entry ∈ catalogue.entries) : bibliography.register entry.record = bibliography := by
  have there : catalogue.index.lookup entry.record ≠ none := by
    rw [Ne, hc.lookup_eq_none_iff, not_not]
    exact List.mem_map_of_mem he
  obtain ⟨position, hp⟩ := Option.ne_none_iff_exists'.mp there
  rw [h.index] at hp
  rw [Bibliography.register, hp]

theorem register_new (h : catalogue.Describes bibliography)
    (new : catalogue.index.lookup record = none) : (bibliography.register record).works =
      bibliography.works ++ [⟨record, Bibliography.freshKey bibliography.keys record.baseKey⟩] := by
  rw [h.index] at new
  rw [Bibliography.register, new]

end Describes

/-! ### Citing works one after another -/

/-- Works are cited one after another, and each is answered with its entry. -/
inductive Runs : Catalogue → List Record → List NumberedWork → Catalogue → Prop where
  | nil {catalogue : Catalogue} : Runs catalogue [] [] catalogue
  | cons {catalogue next last : Catalogue} {record : Record} {cited : List Record}
      {entry : NumberedWork} {answers : List NumberedWork} :
      catalogue.Cites record entry next → Runs next cited answers last →
      Runs catalogue (record :: cited) (entry :: answers) last

variable {last last' : Catalogue} {cited : List Record} {answers answers' : List NumberedWork}

namespace Runs

theorem unique (h : Runs catalogue cited answers last) (h' : Runs catalogue cited answers' last') :
    answers' = answers ∧ last' = last := by
  induction h generalizing answers' with
  | nil =>
    cases h'
    exact ⟨rfl, rfl⟩
  | cons hc _ ih =>
    cases h' with
    | cons hc' rest =>
      obtain ⟨rfl, rfl⟩ := hc.unique hc'
      obtain ⟨rfl, same⟩ := ih rest
      exact ⟨rfl, same⟩

theorem entries_prefix (h : Runs catalogue cited answers last) :
    catalogue.entries <+: last.entries := by
  induction h with
  | nil => exact List.prefix_rfl
  | cons hc _ ih => exact hc.entries_prefix.trans ih

theorem consistent (h : Runs catalogue cited answers last) (hc : catalogue.Consistent) :
    last.Consistent := by
  induction h with
  | nil => exact hc
  | cons step _ ih => exact ih (hc.cites step)

theorem describes (h : Runs catalogue cited answers last)
    (hd : catalogue.Describes bibliography) :
    last.Describes (bibliography.cite cited).2 := by
  induction h generalizing bibliography with
  | nil => exact hd
  | cons step _ ih => exact ih (hd.cites step)

end Runs

/-- Any works can be cited, and each is answered with its entry in the final list. -/
theorem Consistent.exists_runs (h : catalogue.Consistent) (cited : List Record) :
    ∃ answers last, Runs catalogue cited answers last ∧
      List.Forall₂ (fun record entry ↦ entry ∈ last.entries ∧ entry.record = record)
        cited answers := by
  induction cited generalizing catalogue with
  | nil => exact ⟨[], catalogue, .nil, .nil⟩
  | cons record cited ih =>
    obtain ⟨entry, next, step, there, own⟩ := h.exists_cites record
    obtain ⟨answers, last, run, rest⟩ := ih (h.cites step)
    exact ⟨_, last, .cons step run, .cons ⟨run.entries_prefix.subset there, own⟩ rest⟩

/-- Whatever works are cited, there is one run of a catalogue and it comes to an end. Then the
numbers, the index and the keys in use agree with the entries and with the bibliography, and the
entries hold the works in the order of their first citation. A work that was cited is answered with
the one entry it has, now as before, and nothing changes; any other work gets the next number and
its base key or, where that is in use, the base with the least serial number that is free. -/
theorem runs_consistent (cited : List Record) :
    let bibliography := (({} : Bibliography).cite cited).2
    ∃ answers catalogue,
      (∀ answers' catalogue', Runs {} cited answers' catalogue' ↔
        answers' = answers ∧ catalogue' = catalogue) ∧
      catalogue.Consistent ∧ catalogue.Describes bibliography ∧
      catalogue.records = cited.eraseDups ∧
      List.Forall₂ (fun record entry ↦ entry ∈ catalogue.entries ∧ entry.record = record)
        cited answers ∧
      (∀ entry ∈ catalogue.entries, bibliography.register entry.record = bibliography ∧
        bibliography.citation? entry.record =
          some ⟨entry.number, entry.key, entry.record.citedAuthors⟩ ∧
        ∀ answer next, catalogue.Cites entry.record answer next ↔
          answer = entry ∧ next = catalogue) ∧
      ∀ record ∉ cited, ∃ key,
        FindsKey catalogue.taken record.baseKey record.baseKey 2 key ∧
        Bibliography.IsNewKey catalogue.keys record.baseKey key ∧
        (bibliography.register record).works = bibliography.works ++ [⟨record, key⟩] ∧
        ∀ answer next, catalogue.Cites record answer next ↔
          answer = catalogue.entryFor record key ∧ next = catalogue.add record key := by
  intro bibliography
  obtain ⟨answers, catalogue, run, answered⟩ := consistent_empty.exists_runs cited
  have consistent := run.consistent consistent_empty
  have describes : catalogue.Describes bibliography := run.describes describes_empty
  have nothing : ({} : Bibliography).records = ([] : List Record).eraseDups := rfl
  have records : catalogue.records = cited.eraseDups :=
    describes.records_eq.trans (Bibliography.records_cite nothing cited)
  refine ⟨answers, catalogue, fun answers' catalogue' ↦ ⟨run.unique, ?_⟩, consistent, describes,
    records, answered, fun entry he ↦ ?_, fun record hr ↦ ?_⟩
  · rintro ⟨rfl, rfl⟩
    exact run
  · have step := consistent.cites_known he
    refine ⟨describes.register_known consistent he, describes.citation?_eq consistent he,
      fun answer next ↦ ⟨step.unique, ?_⟩⟩
    rintro ⟨rfl, rfl⟩
    exact step
  · have absent : record ∉ catalogue.records := by rwa [records, List.mem_eraseDups]
    have new := consistent.lookup_eq_none_iff.mpr absent
    have found := describes.taken ▸
      Bibliography.finds_freshKey bibliography.keys record.baseKey
    refine ⟨_, found, describes.keys_eq ▸ Bibliography.isNewKey_freshKey _ _,
      describes.register_new new, fun answer next ↦ ⟨(Cites.new new found).unique, ?_⟩⟩
    rintro ⟨rfl, rfl⟩
    exact .new new found

/-- The numbered key of one work may be the base key of another, here of the year -2. -/
example :
    let work (title : String) (date : Option Date) : Record :=
      ⟨[⟨"Thomas", "Weise"⟩], title, date, none, none, .website none⟩
    (({} : Bibliography).cite [work "A" none, work "B" none,
      work "C" (some ⟨-2, .year⟩)]).2.keys = ["weise", "weise-2", "weise-2-2"] := by
  decide +kernel

end Catalogue

end Manuscript

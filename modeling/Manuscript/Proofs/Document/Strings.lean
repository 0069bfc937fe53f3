import Manuscript.Document.Call
import Manuscript.Proofs.Bibliography.Key
import Manuscript.Proofs.CrossRef.Key
import Manuscript.Proofs.Prose.Series
import Manuscript.Proofs.Xhtml.Orthography

/-!
# The strings that a caller hands in

Besides numbers and labels a call hands in strings: text, the runs of phrases, what is known of
cited works, and names of macros (`Call.strings`). If an orthography admits them, then it admits
every run that is written for the call (`Phrase.Admitted`), now or in the reference list.
-/

namespace Manuscript

open Markup

/-! ### What is handed in -/

/-- The strings of a run. -/
def Span.strings : Span → List String
  | .text s | .emphasized s => [s]
  | .space => []
  | .link target s => [target, s]

/-- The strings of the names of a person. -/
def Person.strings (person : Person) : List String := [person.given, person.family]

/-- The strings of a publisher. -/
def Publisher.strings (publisher : Publisher) : List String :=
  publisher.name :: publisher.address.toList

/-- The strings of a book. -/
def BookFacts.strings (facts : BookFacts) : List String :=
  facts.editors.flatMap Person.strings ++ facts.series.toList ++ facts.volume.toList ++
    facts.edition.toList ++ facts.publisher.toList.flatMap Publisher.strings

/-- The strings of an event. -/
def EventFacts.strings (facts : EventFacts) : List String :=
  facts.book.strings ++ facts.location.toList

/-- The strings of a kind of work. -/
def WorkKind.strings : WorkKind → List String
  | article journal volume issue _ => journal :: (volume.toList ++ issue.toList)
  | book facts => facts.strings
  | proceedings facts => facts.strings
  | inProceedings bookTitle facts _ => bookTitle :: facts.strings
  | inCollection bookTitle facts chapter _ => bookTitle :: (facts.strings ++ chapter.toList)
  | techReport number series institute =>
    number.toList ++ series.toList ++ institute.toList.flatMap Publisher.strings
  | thesis _ school => school.strings
  | website publisher => publisher.toList

/-- The strings of a record. -/
def Record.strings (record : Record) : List String :=
  record.authors.flatMap Person.strings ++ [record.title] ++ record.doi.toList ++
    record.uri.toList ++ record.kind.strings

/-- The strings of an element: the name of its macro. -/
def Element.strings : Element → List String
  | macroDefinition signature | macroInvocation signature => [signature.name]
  | _ => []

/-- The strings that a call hands in. -/
def Call.strings : Call → List String
  | write text => [text]
  | writeSeries _ _ items => items.flatten.flatMap Span.strings
  | cite _ records => records.flatMap Record.strings
  | beginElement element => element.strings
  | _ => []

/-! ### Runs that are admitted -/

variable {O : Orthography}

/-- The strings are texts that may be handed in. -/
def Orthography.Admits (O : Orthography) (strings : List String) : Prop :=
  ∀ text ∈ strings, O.source text

theorem admits_append {strings strings' : List String} :
    O.Admits (strings ++ strings') ↔ O.Admits strings ∧ O.Admits strings' :=
  List.forall_mem_append

theorem admits_cons {text : String} {strings : List String} :
    O.Admits (text :: strings) ↔ O.source text ∧ O.Admits strings :=
  List.forall_mem_cons

theorem admits_toList {text : Option String} :
    O.Admits text.toList ↔ ∀ s ∈ text, O.source s := by
  simp only [Orthography.Admits, Option.mem_toList, Option.mem_def]

theorem admits_flatMap {α : Type} {strings : α → List String} {values : List α} :
    O.Admits (values.flatMap strings) ↔ ∀ value ∈ values, O.Admits (strings value) :=
  List.forall_mem_flatMap

/-- The runs of the phrase are texts that may be handed in. -/
def Phrase.Admitted (O : Orthography) (phrase : Phrase) : Prop :=
  ∀ span ∈ phrase, O.Admits span.strings

namespace Phrase

variable {phrase phrase' : Phrase} {text target : String}

theorem admitted_nil : Phrase.Admitted O [] := List.forall_mem_nil _

theorem Admitted.append (h : phrase.Admitted O) (h' : phrase'.Admitted O) :
    (phrase ++ phrase').Admitted O := List.forall_mem_append.mpr ⟨h, h'⟩

theorem admitted_text (h : O.source text) : Phrase.Admitted O [.text text] :=
  List.forall_mem_singleton.mpr (List.forall_mem_singleton.mpr h)

theorem admitted_emphasized (h : O.source text) :
    Phrase.Admitted O [.emphasized text] :=
  List.forall_mem_singleton.mpr (List.forall_mem_singleton.mpr h)

theorem admitted_space : Phrase.Admitted O [.space] :=
  List.forall_mem_singleton.mpr (List.forall_mem_nil _)

theorem admitted_link (ht : O.source target) (h : O.source text) :
    Phrase.Admitted O [.link target text] :=
  List.forall_mem_singleton.mpr
    (List.forall_mem_cons.mpr ⟨ht, List.forall_mem_singleton.mpr h⟩)

/-- A series holds what its items hold. -/
theorem admitted_join (joiner : Joiner) (bound : Bool) {items : List Phrase}
    (h : ∀ item ∈ items, item.Admitted O) : (Series.join joiner bound items).Admitted O := by
  intro span hs
  rcases Series.mem_join hs with ⟨item, hi, hs⟩ | hj
  · exact h item hi span hs
  · have plain : ∀ joint ∈ Series.joints, ∀ text ∈ joint.strings, Plain text := by decide
    exact fun text ht ↦ O.source_plain (plain span hj text ht)

theorem admitted_andTexts {texts : List String} (h : O.Admits texts) :
    (Series.andTexts texts).Admitted O := by
  rw [Series.andTexts_eq]
  exact admitted_join _ _ <| List.forall_mem_map.mpr fun text ht ↦ admitted_text (h text ht)

theorem admitted_flatMap {α : Type} {values : List α} {part : α → Phrase}
    (h : ∀ value ∈ values, (part value).Admitted O) : Phrase.Admitted O (values.flatMap part) :=
  List.forall_mem_flatMap.mpr h

end Phrase

/-- The phrases are made of texts that may be handed in. -/
def AdmittedFields (O : Orthography) (fields : List Phrase) : Prop :=
  ∀ field ∈ fields, field.Admitted O

namespace AdmittedFields

variable {fields fields' : List Phrase} {field : Phrase}

theorem nil : AdmittedFields O [] := List.forall_mem_nil _

theorem cons (h : field.Admitted O) (h' : AdmittedFields O fields) :
    AdmittedFields O (field :: fields) := List.forall_mem_cons.mpr ⟨h, h'⟩

theorem append (h : AdmittedFields O fields) (h' : AdmittedFields O fields') :
    AdmittedFields O (fields ++ fields') := List.forall_mem_append.mpr ⟨h, h'⟩

/-- A field that is there if something is known. -/
theorem of_option {α : Type} {value : Option α} {text : α → String}
    (h : ∀ known ∈ value, O.source (text known)) :
    AdmittedFields O (value.map fun known ↦ [.text (text known)]).toList := by
  cases value with
  | none => exact nil
  | some known => exact cons (Phrase.admitted_text (h known rfl)) nil

end AdmittedFields

/-! ### Dates and pages -/

namespace Date

theorem plain_name (month : Month) : Plain month.name := by
  cases month <;> decide

theorem plain_part (part : DatePart) : Plain part.text := by
  cases part with
  | year => decide
  | quarter q => exact .append (by decide) (plain_toString q)
  | month m => exact plain_name m
  | day m d => exact .append (.append (plain_name m) (by decide)) (plain_toString d)

theorem plain_yearText (part : DatePart) (year : Int) : Plain (yearText part year) := by
  refine .append ?_ (plain_toString_int year)
  split <;> decide

theorem plain_exactText (date : Date) : Plain date.exactText := by
  unfold exactText
  split
  · exact plain_toString_int _
  · exact .append (plain_part _) (plain_yearText _ _)

theorem plain_dash : Plain dash := by decide

/-- Two parts with a dash between them, and the year behind. -/
theorem plain_range (first last : DatePart) (year : Int) :
    Plain (first.text ++ dash ++ last.text ++ yearText last year) :=
  .append (.append (.append (plain_part first) plain_dash) (plain_part last))
    (plain_yearText last year)

theorem plain_sharedYearText (year : Int) (first last : DatePart) :
    Plain (sharedYearText year first last) := by
  have days (m : Month) (d e : Nat) :
      Plain (m.name ++ " " ++ toString d ++ dash ++ toString e) :=
    .append (.append (.append (.append (plain_name m) (by decide)) (plain_toString d)) plain_dash)
      (plain_toString e)
  unfold sharedYearText
  split
  · exact plain_exactText _
  · exact plain_exactText _
  · split
    · exact plain_exactText _
    · exact plain_range _ _ _
  · split
    · exact plain_exactText _
    · exact plain_range _ _ _
  · split
    · exact .append (days _ _ _) (plain_yearText _ _)
    · exact plain_range _ _ _
  · exact plain_range _ _ _

/-- The text of a date is made of digits, names of months and signs. -/
theorem plain_spanText (first : Date) (last : Option Date) : Plain (first.spanText last) := by
  unfold spanText
  dsimp only
  split
  · exact plain_exactText _
  · split
    · exact plain_exactText _
    · split
      · exact plain_sharedYearText _ _ _
      · exact .append (.append (plain_exactText _) plain_dash) (plain_exactText _)

end Date

namespace PageRange

theorem plain_numbers (pages : PageRange) : Plain pages.numbers := by
  unfold numbers
  split
  · exact plain_toString _
  · exact .append (.append (plain_toString _) (by decide)) (plain_toString _)

theorem plain_text (pages : PageRange) : Plain pages.text := by
  refine .append ?_ pages.plain_numbers
  split <;> decide

theorem admitted_fields (pages : Option PageRange) : AdmittedFields O (fields pages) :=
  .of_option fun known _ ↦ O.source_plain known.plain_text

end PageRange

/-! ### Entries of the reference list -/

theorem Person.source_fullName {person : Person} (h : O.Admits person.strings) :
    O.source person.fullName := by
  obtain ⟨hg, hf⟩ := admits_cons.mp h
  have hf := (admits_cons.mp hf).1
  unfold fullName
  split
  · exact hf
  · exact .append (.append hg (O.source_plain (by decide))) hf

theorem Person.admitted_listing {people : List Person}
    (h : O.Admits (people.flatMap Person.strings)) : (listing people).Admitted O :=
  Phrase.admitted_andTexts <| List.forall_mem_map.mpr fun person hp ↦
    person.source_fullName (admits_flatMap.mp h person hp)

theorem Publisher.source_text {publisher : Publisher} (h : O.Admits publisher.strings) :
    O.source publisher.text := by
  obtain ⟨hn, ha⟩ := admits_cons.mp h
  unfold text
  split
  · next address he =>
    exact .append (.append (admits_toList.mp ha address he) (O.source_plain (by decide))) hn
  · exact hn

theorem Publisher.admitted_fields {publisher : Option Publisher}
    (h : O.Admits (publisher.toList.flatMap Publisher.strings)) :
    AdmittedFields O (publisher.map fun publisher ↦ [.text publisher.text]).toList :=
  .of_option fun known hk ↦ known.source_text (admits_flatMap.mp h known (Option.mem_toList.mpr hk))

namespace BookFacts

variable {facts : BookFacts}

theorem admitted_publisherFields (h : O.Admits facts.strings) :
    AdmittedFields O facts.publisherFields := by
  simp only [strings, admits_append] at h
  exact Publisher.admitted_fields h.2

theorem admitted_fields (h : O.Admits facts.strings) : AdmittedFields O facts.fields := by
  simp only [strings, admits_append, admits_toList] at h
  obtain ⟨⟨⟨⟨editors, series⟩, volume⟩, edition⟩, _⟩ := h
  refine .append (.append ?_ ?_) ?_
  · unfold editorFields
    split
    · exact .nil
    · exact .cons ((Phrase.admitted_text (O.source_plain (by decide))).append
        (Person.admitted_listing editors)) .nil
  · have numbered (v : String) (hv : v ∈ facts.volume) : O.source ("volume " ++ v) :=
      .append (O.source_plain (by decide)) (volume v hv)
    unfold volumeFields
    split
    · next v s hv hs =>
      exact .cons (Phrase.admitted_text (.append (.append (numbered v hv)
        (O.source_plain (by decide))) (series s hs))) .nil
    · next v hv _ => exact .cons (Phrase.admitted_text (numbered v hv)) .nil
    · next s _ hs => exact .cons (Phrase.admitted_text (series s hs)) .nil
    · exact .nil
  · exact .of_option fun e he ↦ .append (edition e he) (O.source_plain (by decide))

end BookFacts

theorem EventFacts.admitted_fields {facts : EventFacts} (h : O.Admits facts.strings) :
    AdmittedFields O facts.fields := by
  simp only [strings, admits_append, admits_toList] at h
  exact .append (.append (.append (BookFacts.admitted_fields h.1) (.of_option h.2))
    (.of_option fun start _ ↦ O.source_plain (start.plain_spanText facts.finish)))
      (BookFacts.admitted_publisherFields h.1)

namespace WorkKind

theorem admitted_issueText {volume issue : Option String} (pages : Option PageRange)
    (hv : ∀ s ∈ volume, O.source s) (hi : ∀ s ∈ issue, O.source s) :
    (issueText volume issue pages).Admitted O := by
  have spaced {s : String} (hs : s ∈ volume) : Phrase.Admitted O [.text (" " ++ s)] :=
    Phrase.admitted_text (.append (O.source_plain (by decide)) (hv s hs))
  have enclosed {opening s : String} (ho : Plain opening) (hs : s ∈ issue) :
      Phrase.Admitted O [.text (opening ++ s ++ ")")] :=
    Phrase.admitted_text
      (.append (.append (O.source_plain ho) (hi s hs)) (O.source_plain (by decide)))
  refine Phrase.Admitted.append ?_ ?_
  · split
    · exact (spaced rfl).append (enclosed (by decide) rfl)
    · exact spaced rfl
    · exact enclosed (by decide) rfl
    · exact Phrase.admitted_nil
  · split
    · split
      · exact Phrase.admitted_text
          (O.source_plain (Plain.append (by decide) (PageRange.plain_numbers _)))
      · exact Phrase.admitted_nil
    · exact Phrase.admitted_nil

theorem admitted_fields {kind : WorkKind} (h : O.Admits kind.strings) :
    AdmittedFields O kind.fields := by
  have within {title : String} (ht : O.source title) :
      Phrase.Admitted O [.text "in ", .emphasized title] :=
    Phrase.Admitted.append (Phrase.admitted_text (O.source_plain (by decide)))
      (Phrase.admitted_emphasized ht)
  cases kind with
  | article journal volume issue pages =>
    simp only [strings, admits_cons, admits_append, admits_toList] at h
    refine .cons (.append (Phrase.admitted_emphasized h.1)
      (admitted_issueText pages h.2.1 h.2.2)) ?_
    split
    · exact .nil
    · exact PageRange.admitted_fields pages
  | book facts =>
    exact .append (BookFacts.admitted_fields h) (BookFacts.admitted_publisherFields h)
  | proceedings facts => exact EventFacts.admitted_fields h
  | inProceedings bookTitle facts pages =>
    obtain ⟨ht, hf⟩ := admits_cons.mp h
    exact .cons (within ht) (.append (EventFacts.admitted_fields hf)
      (PageRange.admitted_fields pages))
  | inCollection bookTitle facts chapter pages =>
    simp only [strings, admits_cons, admits_append, admits_toList] at h
    obtain ⟨ht, hf, hc⟩ := h
    exact .cons (within ht) (.append (.append (.append (BookFacts.admitted_fields hf)
      (.of_option fun c hm ↦ .append (O.source_plain (by decide)) (hc c hm)))
        (PageRange.admitted_fields pages)) (BookFacts.admitted_publisherFields hf))
  | techReport number series institute =>
    simp only [strings, admits_append, admits_toList] at h
    obtain ⟨⟨hn, hs⟩, hi⟩ := h
    refine .cons ?_ (.append (.of_option hs) (Publisher.admitted_fields hi))
    split
    · exact Phrase.admitted_text (.append (O.source_plain (by decide)) (hn _ rfl))
    · exact Phrase.admitted_text (O.source_plain (by decide))
  | thesis kind school =>
    refine .cons (Phrase.admitted_text (O.source_plain ?_))
      (.cons (Phrase.admitted_text (Publisher.source_text h)) .nil)
    cases kind <;> decide
  | website publisher => exact .of_option (admits_toList.mp h)

end WorkKind

namespace Record

variable {record : Record}

/-- An entry of the reference list holds what its record holds. -/
theorem admitted_entry (h : O.Admits record.strings) : record.entry.Admitted O := by
  simp only [strings, admits_append, admits_toList, admits_cons] at h
  obtain ⟨⟨⟨⟨authors, title, _⟩, doi⟩, uri⟩, kind⟩ := h
  have plain {text : String} (ht : Plain text) : Phrase.Admitted O [.text text] :=
    Phrase.admitted_text (O.source_plain ht)
  refine .append (.append (.append (.append ?_ ?_) ?_) (plain (by decide))) (.append ?_ ?_)
  · unfold byline
    split
    · exact Phrase.admitted_nil
    · exact .append (.append (plain (by decide)) (Person.admitted_listing authors))
        (plain (by decide))
  · exact Phrase.admitted_text
      (.append (.append (O.source_plain (by decide)) title) (O.source_plain (by decide)))
  · refine Phrase.admitted_flatMap fun field hf ↦ .append (plain (by decide)) ?_
    have fields : AdmittedFields O record.fields := by
      refine .append (WorkKind.admitted_fields kind) ?_
      split
      · exact .nil
      · exact .of_option fun date _ ↦ O.source_plain (date.plain_spanText none)
    exact fields field hf
  · split
    · next d hd =>
      exact .append (plain (by decide)) (Phrase.admitted_link
        (.append (O.source_plain (by decide)) (doi d hd))
        (.append (O.source_plain (by decide)) (doi d hd)))
    · exact Phrase.admitted_nil
  · split
    · next u hu =>
      exact .append (plain (by decide)) (Phrase.admitted_link (uri u hu) (uri u hu))
    · exact Phrase.admitted_nil

theorem source_citedAuthors (h : O.Admits record.strings) :
    O.source record.citedAuthors := by
  have family (person : Person) (hp : person ∈ record.authors) :
      O.source person.family := by
    simp only [strings, admits_append] at h
    exact admits_flatMap.mp h.1.1.1.1 person hp _
      (List.mem_cons_of_mem _ (List.mem_singleton_self _))
  unfold citedAuthors
  split
  · exact O.source_empty
  · next only he => exact family only (he ▸ List.mem_singleton_self only)
  · next first second he =>
    exact .append
      (.append (family first (he ▸ List.mem_cons_self)) (O.source_plain (by decide)))
      (family second (he ▸ List.mem_cons_of_mem _ (List.mem_singleton_self _)))
  · next first rest _ _ he =>
    exact .append (family first (he ▸ List.mem_cons_self)) (O.source_plain (by decide))

end Record

/-! ### Citations and references -/

theorem plain_anchor {key : String} (h : ∀ c ∈ key.toList, isNameChar c = true) :
    Plain ("#" ++ key) :=
  .append (by decide) (plain_of_isNameChar h)

/-- A place in the reference list whose key is a name. -/
structure Citation.Admitted (O : Orthography) (citation : Citation) : Prop where
  key : ∀ c ∈ citation.key.toList, isNameChar c = true
  authors : O.source citation.authors

theorem Citation.admitted_phrase (style : CitationStyle) {citations : List Citation}
    (h : ∀ citation ∈ citations, citation.Admitted O) :
    (phrase style citations).Admitted O := by
  have plain {text : String} (ht : Plain text) : Phrase.Admitted O [.text text] :=
    Phrase.admitted_text (O.source_plain ht)
  have link (citation : Citation) (hc : citation ∈ citations) :
      Phrase.Admitted O [citation.link] :=
    Phrase.admitted_link (O.source_plain (plain_anchor (h citation hc).key))
      (O.source_plain (plain_toString citation.number))
  cases style with
  | numbers =>
    refine .append (.append (plain (by decide)) fun span hs ↦ ?_) (plain (by decide))
    rcases Series.mem_intercalate hs with ⟨item, hi, hs⟩ | hs
    · obtain ⟨citation, hc, rfl⟩ := List.mem_map.mp hi
      exact link citation (List.mem_mergeSort.mp hc) span hs
    · have comma : Phrase.Admitted O [.text ", "] := plain (by decide)
      exact comma span hs
  | authorsAndNumbers =>
    refine Phrase.admitted_join _ _ (List.forall_mem_map.mpr fun citation hc ↦ .append ?_ ?_)
    · split
      · exact Phrase.admitted_nil
      · exact .append (Phrase.admitted_text (h citation hc).authors) Phrase.admitted_space
    · exact .append (plain (by decide)) (.append (link citation hc) (plain (by decide)))

/-- What is cited has a key of the bibliography, and the authors of one of the records. -/
theorem Bibliography.admitted_cite {bibliography : Bibliography} {records : List Record}
    (hk : bibliography.Keyed) (h : O.Admits (records.flatMap Record.strings)) :
    ∀ citation ∈ (bibliography.cite records).1, citation.Admitted O := by
  intro citation hc
  obtain ⟨record, hr, hc⟩ := List.mem_filterMap.mp hc
  have hr : record ∈ records := List.mem_eraseDups.mp hr
  obtain ⟨position, _, hc⟩ := Option.bind_eq_some_iff.mp hc
  obtain ⟨work, hw, hc⟩ := Option.bind_eq_some_iff.mp hc
  cases hc
  exact ⟨(hk.cite records).names work.key (List.mem_map_of_mem (List.mem_of_getElem? hw)),
    record.source_citedAuthors (admits_flatMap.mp h record hr)⟩

/-- A work in the bibliography was there before, or is one of the records. -/
theorem Bibliography.mem_works_cite {bibliography : Bibliography} {records : List Record}
    {work : CitedWork} (h : work ∈ (bibliography.cite records).2.works) :
    work ∈ bibliography.works ∨ work.record ∈ records := by
  change work ∈ (records.foldl Bibliography.register bibliography).works at h
  induction records generalizing bibliography with
  | nil => exact .inl h
  | cons record records ih =>
    rcases ih h with h | h
    · unfold Bibliography.register at h
      split at h
      · exact .inl h
      · rcases List.mem_append.mp h with h | h
        · exact .inl h
        · rw [List.mem_singleton.mp h]
          exact .inr List.mem_cons_self
    · exact .inr (List.mem_cons_of_mem _ h)

theorem Reference.admitted_phrase (joiner : Joiner) (bound : Bool) (labels : List Label)
    {states : List LabelState}
    (h : ∀ number, .resolved number ∈ states → O.source number) :
    (phrase joiner bound labels states).Admitted O := by
  refine Phrase.admitted_join _ _ fun item hi ↦ ?_
  obtain ⟨index, hl, rfl⟩ := List.mem_mapIdx.mp hi
  refine .append ?_ ?_
  · unfold noun
    dsimp only
    split
    · exact Phrase.admitted_nil
    · refine .append (Phrase.admitted_text (O.source_plain ?_)) Phrase.admitted_space
      generalize (labels.zip states)[index].1.target = target
      unfold Target.noun
      split <;> cases target <;> decide
  · refine Phrase.admitted_link (O.source_plain (plain_anchor (Label.isNameChar_of_mem_key _))) ?_
    have state : (labels.zip states)[index].2 ∈ states :=
      (List.of_mem_zip (List.getElem_mem hl)).2
    generalize (labels.zip states)[index].2 = shown at state
    cases shown with
    | resolved number => exact h number state
    | begun | pending => exact O.source_plain (by decide)

end Manuscript

import Manuscript.Bibliography.Entry
import Manuscript.Proofs.Prose.Series
import Mathlib.Data.List.Nodup

/-!
# What an entry tells

Each thing that is known of a work has one place behind its title. The genre of the work says in
which order they stand and which of them share a field, and an entry writes the fields of what is
known with a comma in front of each (`Record.entry_eq_layout`).
-/

namespace Manuscript

/-! ### What may be known of a work -/

/-- What something known of a work is about. -/
inductive Topic where
  | journal
  | volume
  | issue
  | pages
  | bookTitle
  | editors
  | bookVolume
  | series
  | edition
  | publisher
  | location
  | event
  | chapter
  | report
  | institute
  | degree
  | school
  | site
  | date
  deriving DecidableEq, Repr

/-- Whether the topic is a time. -/
def Topic.tellsDate : Topic → Bool
  | event | date => true
  | _ => false

/-- Something known of a work besides its authors and its title. -/
inductive Fact where
  | journal (name : String)
  | volume (volume : String)
  | issue (issue : String)
  | pages (pages : PageRange)
  | bookTitle (title : String)
  | editors (people : List Person)
  | bookVolume (volume : String)
  | series (name : String)
  | edition (edition : String)
  | publisher (publisher : Publisher)
  | location (place : String)
  | event (start : Date) (finish : Option Date)
  | chapter (chapter : String)
  | report (number : Option String)
  | institute (institute : Publisher)
  | degree (kind : ThesisKind)
  | school (school : Publisher)
  | site (publisher : String)
  | date (date : Date)
  deriving DecidableEq, Repr

namespace Fact

/-- What the fact is about. -/
def topic : Fact → Topic
  | journal _ => .journal
  | volume _ => .volume
  | issue _ => .issue
  | pages _ => .pages
  | bookTitle _ => .bookTitle
  | editors _ => .editors
  | bookVolume _ => .bookVolume
  | series _ => .series
  | edition _ => .edition
  | publisher _ => .publisher
  | location _ => .location
  | event _ _ => .event
  | chapter _ => .chapter
  | report _ => .report
  | institute _ => .institute
  | degree _ => .degree
  | school _ => .school
  | site _ => .site
  | date _ => .date

/-- The fact in a field of its own or behind the name of a journal. -/
def words : Fact → Phrase
  | journal name => [.emphasized name]
  | volume number => [.text (" " ++ number)]
  | issue number => [.text (" (" ++ number ++ ")")]
  | pages range => [.text range.text]
  | bookTitle title => [.text "in ", .emphasized title]
  | editors people =>
    .text "edited by " :: Series.arrange .and false (people.map fun person ↦ [.text person.fullName])
  | bookVolume number => [.text ("volume " ++ number)]
  | edition number => [.text (number ++ " edition")]
  | event start finish => [.text (start.spanText finish)]
  | chapter number => [.text ("chapter " ++ number)]
  | report (some number) => [.text ("Technical Report " ++ number)]
  | report none => [.text "Technical Report"]
  | degree kind => [.text kind.text]
  | series text | location text | site text => [.text text]
  | publisher house | institute house | school house => [.text house.text]
  | date day => [.text (day.spanText none)]

/-- What stands behind the name of a journal in one field with it. -/
def details : List Fact → Phrase
  | [] => []
  | .volume number :: .issue part :: rest =>
    [.text (" " ++ number), .text ("(" ++ part ++ ")")] ++ details rest
  | .pages range :: rest => .text (":" ++ range.numbers) :: details rest
  | fact :: rest => fact.words ++ details rest

/-- A field of facts. -/
def phrase : List Fact → Phrase
  | [.bookVolume number, .series name] => [.text ("volume " ++ number ++ " of " ++ name)]
  | .journal name :: rest => .emphasized name :: details rest
  | facts => facts.flatMap words

/-- The fields of what is known, in the order in which the topics are listed. -/
def arrange (fact? : Topic → Option Fact) (order : List (List Topic)) : List (List Fact) :=
  (order.map (·.filterMap fact?)).filter (· ≠ [])

end Fact

/-! ### Where it stands -/

/-- A kind of works without what is special to one of them. -/
inductive Genre where
  | article
  | book
  | proceedings
  | inProceedings
  | inCollection
  | techReport
  | thesis
  | website
  deriving DecidableEq, Repr

namespace Genre

/-- What is told of any book, each list in one field. -/
def bookFields : List (List Topic) := [[.editors], [.bookVolume, .series], [.edition]]

/-- What is told of an event and of who published its proceedings. -/
def eventFields : List (List Topic) := [[.location], [.event], [.publisher]]

/-- What is told of a work of the genre besides its date, each list in one field. The pages share
the field of the journal if a volume or an issue does. -/
def fields (genre : Genre) (known : Topic → Bool) : List (List Topic) :=
  match genre with
  | article =>
    if known .volume || known .issue then [[.journal, .volume, .issue, .pages]]
    else [[.journal], [.pages]]
  | book => bookFields ++ [[.publisher]]
  | proceedings => bookFields ++ eventFields
  | inProceedings => [.bookTitle] :: (bookFields ++ eventFields ++ [[.pages]])
  | inCollection => [.bookTitle] :: (bookFields ++ [[.chapter], [.pages], [.publisher]])
  | techReport => [[.report], [.series], [.institute]]
  | thesis => [[.degree], [.school]]
  | website => [[.site]]

/-- The order of what is told of a work. Its date is left out where that of an event is told. -/
def layout (genre : Genre) (known : Topic → Bool) : List (List Topic) :=
  genre.fields known ++ if known .event then [] else [[.date]]

end Genre

/-- What is known of the book about a topic. -/
def BookFacts.fact? (facts : BookFacts) : Topic → Option Fact
  | .editors => if facts.editors = [] then none else some (.editors facts.editors)
  | .bookVolume => facts.volume.map .bookVolume
  | .series => facts.series.map .series
  | .edition => facts.edition.map .edition
  | .publisher => facts.publisher.map .publisher
  | _ => none

/-- What is known of the event and the book about a topic. -/
def EventFacts.fact? (facts : EventFacts) : Topic → Option Fact
  | .location => facts.location.map .location
  | .event => facts.start.map (.event · facts.finish)
  | topic => facts.book.fact? topic

namespace WorkKind

/-- The genre of works of the kind. -/
def genre : WorkKind → Genre
  | article _ _ _ _ => .article
  | book _ => .book
  | proceedings _ => .proceedings
  | inProceedings _ _ _ => .inProceedings
  | inCollection _ _ _ _ => .inCollection
  | techReport _ _ _ => .techReport
  | thesis _ _ => .thesis
  | website _ => .website

/-- What is special to works of the kind about a topic. -/
def fact? : WorkKind → Topic → Option Fact
  | article journal _ _ _, .journal => some (.journal journal)
  | article _ volume _ _, .volume => volume.map .volume
  | article _ _ issue _, .issue => issue.map .issue
  | article _ _ _ pages, .pages => pages.map .pages
  | article _ _ _ _, _ => none
  | book facts, topic => facts.fact? topic
  | proceedings facts, topic => facts.fact? topic
  | inProceedings title _ _, .bookTitle => some (.bookTitle title)
  | inProceedings _ _ pages, .pages => pages.map .pages
  | inProceedings _ facts _, topic => facts.fact? topic
  | inCollection title _ _ _, .bookTitle => some (.bookTitle title)
  | inCollection _ _ chapter _, .chapter => chapter.map .chapter
  | inCollection _ _ _ pages, .pages => pages.map .pages
  | inCollection _ facts _ _, topic => facts.fact? topic
  | techReport number _ _, .report => some (.report number)
  | techReport _ series _, .series => series.map .series
  | techReport _ _ institute, .institute => institute.map .institute
  | techReport _ _ _, _ => none
  | thesis kind _, .degree => some (.degree kind)
  | thesis _ school, .school => some (.school school)
  | thesis _ _, _ => none
  | website publisher, .site => publisher.map .site
  | website _, _ => none

end WorkKind

namespace Record

/-- What is known of the work about a topic. -/
def fact? (record : Record) : Topic → Option Fact
  | .date => record.date.map .date
  | topic => record.kind.fact? topic

/-- Whether anything is known of the work about a topic. -/
def knows (record : Record) (topic : Topic) : Bool := (record.fact? topic).isSome

/-- The fact that says when: the time of the event if its start is known, or else the date of the
work. -/
def when? (record : Record) : Option Fact :=
  match record.kind with
  | .proceedings facts | .inProceedings _ facts _ =>
    (facts.start.map (.event · facts.finish)).or (record.date.map .date)
  | _ => record.date.map .date

/-- The fields of the entry: what is known of the work in the order of its genre. -/
def layout (record : Record) : List (List Fact) :=
  Fact.arrange record.fact? (record.kind.genre.layout record.knows)

end Record

/-! ### Arranging facts -/

namespace Fact

variable (fact? : Topic → Option Fact)

theorem arrange_append (order more : List (List Topic)) :
    arrange fact? (order ++ more) = arrange fact? order ++ arrange fact? more := by
  simp [arrange]

variable {fact?} in
/-- A topic that has a field for itself. -/
theorem toList_map_phrase {α : Type} {topic : Topic} (value : Option α) (make : α → Fact)
    (h : fact? topic = value.map make) :
    (value.map fun a ↦ phrase [make a]).toList = (arrange fact? [[topic]]).map phrase := by
  cases value <;> simp [arrange, h]

variable {fact?} in
theorem arrange_congr {other? : Topic → Option Fact} {order : List (List Topic)}
    (h : ∀ topics ∈ order, ∀ topic ∈ topics, fact? topic = other? topic) :
    arrange fact? order = arrange other? order := by
  have same : order.map (·.filterMap fact?) = order.map (·.filterMap other?) :=
    List.map_congr_left fun topics ht ↦ List.filterMap_congr (h topics ht)
  rw [arrange, same, arrange]

theorem flatten_arrange (order : List (List Topic)) :
    (arrange fact? order).flatten = order.flatten.filterMap fact? := by
  rw [arrange, List.flatten_filter_ne_nil, List.filterMap_flatten]

section

variable {fact?} (own : ∀ topic fact, fact? topic = some fact → fact.topic = topic)

include own

theorem map_topic_filterMap (topics : List Topic) :
    (topics.filterMap fact?).map topic = topics.filter fun topic ↦ (fact? topic).isSome := by
  induction topics with
  | nil => rfl
  | cons first topics ih =>
    cases h : fact? first with
    | none => simp [h, ih]
    | some fact => simp [h, ih, own first fact h]

/-- Which topics are told in which field depends on what is known alone. -/
theorem map_topic_arrange (order : List (List Topic)) :
    (arrange fact? order).map (·.map topic) =
      (order.map (·.filter fun topic ↦ (fact? topic).isSome)).filter (· ≠ []) := by
  simp only [arrange, ← map_topic_filterMap own, List.filter_map, List.map_map]
  congr 1
  simp [Function.comp_def]

theorem filter_filterMap_topic (topics : List Topic) (p : Topic → Bool) :
    (topics.filterMap fact?).filter (p ·.topic) = (topics.filter p).filterMap fact? := by
  induction topics with
  | nil => rfl
  | cons first topics ih =>
    cases h : fact? first with
    | none => cases hp : p first <;> simp [h, hp, ih]
    | some fact =>
      have ht := own first fact h
      cases hp : p first <;> simp [h, hp, ih, ht]

end

end Fact

/-! ### Topics of a work -/

theorem BookFacts.topic_of_fact? {facts : BookFacts} {topic : Topic} {fact : Fact}
    (h : facts.fact? topic = some fact) : fact.topic = topic := by
  unfold fact? at h
  split at h <;> grind [Fact.topic, Option.map_eq_some_iff]

theorem EventFacts.topic_of_fact? {facts : EventFacts} {topic : Topic} {fact : Fact}
    (h : facts.fact? topic = some fact) : fact.topic = topic := by
  unfold fact? at h
  split at h <;> grind [Fact.topic, Option.map_eq_some_iff, BookFacts.topic_of_fact?]

theorem WorkKind.topic_of_fact? {kind : WorkKind} {topic : Topic} {fact : Fact}
    (h : kind.fact? topic = some fact) : fact.topic = topic := by
  unfold fact? at h
  split at h <;>
    grind [Fact.topic, Option.map_eq_some_iff, BookFacts.topic_of_fact?, EventFacts.topic_of_fact?]

namespace Genre

variable (genre : Genre) (known : Topic → Bool)

theorem nodup_layout : (genre.layout known).flatten.Nodup := by
  cases genre <;> simp only [layout, fields] <;> split_ifs <;> decide

theorem date_not_mem_fields : .date ∉ (genre.fields known).flatten := by
  cases genre with
  | article => rw [fields]; split_ifs <;> decide
  | _ => exact of_decide_eq_true rfl

end Genre

namespace WorkKind

variable {kind : WorkKind} {topic : Topic}

/-- What is special to a work has a place among the fields of its genre. -/
theorem mem_fields (h : (kind.fact? topic).isSome) :
    topic ∈ (kind.genre.fields fun other ↦ (kind.fact? other).isSome).flatten := by
  cases kind with
  | article journal volume issue pages =>
    -- Which fields there are depends on whether a volume or an issue is known.
    cases volume <;> cases issue <;> cases topic <;>
      first | contradiction | exact of_decide_eq_true rfl
  | _ => cases topic <;> first | contradiction | exact of_decide_eq_true rfl

theorem isSome_fact?_event (kind : WorkKind) : (kind.fact? .event).isSome = kind.tellsDate := by
  cases kind with
  | proceedings | inProceedings => exact Option.isSome_map
  | _ => rfl

end WorkKind

namespace Record

variable (record : Record) {topic : Topic}

theorem fact?_of_ne_date (h : topic ≠ .date) : record.fact? topic = record.kind.fact? topic := by
  cases topic <;> first | rfl | contradiction

theorem topic_of_fact? (topic : Topic) (fact : Fact) (h : record.fact? topic = some fact) :
    fact.topic = topic := by
  by_cases ht : topic = .date
  · subst ht
    obtain ⟨date, -, rfl⟩ := Option.map_eq_some_iff.mp h
    rfl
  · exact WorkKind.topic_of_fact? (record.fact?_of_ne_date ht ▸ h)

/-- What is known of a work has a place in its layout, but its date where that of an event is
told. -/
theorem mem_layout (known : record.knows topic)
    (h : ¬(topic = .date ∧ record.knows .event)) :
    topic ∈ (record.kind.genre.layout record.knows).flatten := by
  rw [Genre.layout, List.flatten_append, List.mem_append]
  by_cases ht : topic = .date
  · rw [if_neg fun he ↦ h ⟨ht, he⟩, ht]
    exact .inr (by decide)
  · rw [knows, record.fact?_of_ne_date ht] at known
    exact .inl (WorkKind.mem_fields known)

theorem date_not_mem_layout (h : record.knows .event) :
    .date ∉ (record.kind.genre.layout record.knows).flatten := by
  rw [Genre.layout, if_pos h, List.append_nil]
  exact Genre.date_not_mem_fields _ _

/-- Each thing that is known of the work is told once, and the date of the work is not where that
of an event is. -/
theorem filter_layout (topic : Topic) : record.layout.flatten.filter (·.topic = topic) =
    if topic = .date ∧ record.knows .event then [] else (record.fact? topic).toList := by
  have nodup := record.kind.genre.nodup_layout record.knows
  rw [layout, Fact.flatten_arrange,
    Fact.filter_filterMap_topic record.topic_of_fact? _ (· = topic), List.filter_eq]
  split
  · next h =>
    rw [h.1, List.count_eq_zero.mpr (record.date_not_mem_layout h.2)]
    rfl
  · next h =>
    cases known : record.fact? topic with
    | none =>
      refine List.filterMap_eq_nil_iff.mpr fun other ho ↦ ?_
      rw [List.eq_of_mem_replicate ho, known]
    | some fact =>
      have there := record.mem_layout (by rw [knows, known]; rfl) h
      rw [List.count_eq_one_of_mem nodup there, List.replicate_one, List.filterMap_cons_some known]
      rfl

theorem filter_tellsDate : record.layout.flatten.filter (·.topic.tellsDate) =
    record.when?.toList := by
  rw [layout, Fact.flatten_arrange, Fact.filter_filterMap_topic record.topic_of_fact?]
  rcases record with ⟨authors, title, date, doi, uri, kind⟩
  cases kind with
  | article journal volume issue pages => cases volume <;> cases issue <;> cases date <;> rfl
  | proceedings facts | inProceedings bookTitle facts =>
    rcases facts with ⟨book, location, start, finish⟩
    cases start <;> cases date <;> rfl
  | _ => cases date <;> rfl

end Record

/-! ### What is written -/

theorem Person.listing_eq (people : List Person) : listing people =
    Series.arrange .and false (people.map fun person ↦ [.text person.fullName]) := by
  rw [listing, Series.andTexts_eq, Series.join_eq_arrange _ (by decide), List.map_map]
  rfl

namespace BookFacts

variable (facts : BookFacts)

theorem editorFields_eq :
    facts.editorFields = (Fact.arrange facts.fact? [[.editors]]).map Fact.phrase := by
  rw [editorFields, Person.listing_eq]
  cases h : facts.editors <;> simp [Fact.arrange, fact?, h, Fact.phrase, Fact.words]

theorem volumeFields_eq : facts.volumeFields =
    (Fact.arrange facts.fact? [[.bookVolume, .series]]).map Fact.phrase := by
  cases hv : facts.volume <;> cases hs : facts.series <;>
    simp [volumeFields, Fact.arrange, fact?, hv, hs, Fact.phrase, Fact.words]

theorem editionFields_eq :
    facts.editionFields = (Fact.arrange facts.fact? [[.edition]]).map Fact.phrase :=
  Fact.toList_map_phrase facts.edition .edition rfl

theorem publisherFields_eq :
    facts.publisherFields = (Fact.arrange facts.fact? [[.publisher]]).map Fact.phrase :=
  Fact.toList_map_phrase facts.publisher .publisher rfl

theorem fields_eq :
    facts.fields = (Fact.arrange facts.fact? Genre.bookFields).map Fact.phrase := by
  rw [fields, editorFields_eq, volumeFields_eq, editionFields_eq, ← List.map_append,
    ← List.map_append, ← Fact.arrange_append, ← Fact.arrange_append]
  rfl

end BookFacts

theorem EventFacts.fields_eq (facts : EventFacts) : facts.fields =
    (Fact.arrange facts.fact? (Genre.bookFields ++ Genre.eventFields)).map Fact.phrase := by
  have book : Fact.arrange facts.book.fact? Genre.bookFields =
      Fact.arrange facts.fact? Genre.bookFields :=
    Fact.arrange_congr (by simp [Genre.bookFields, fact?])
  have place : (facts.location.map fun place ↦ [.text place]).toList =
      (Fact.arrange facts.fact? [[.location]]).map Fact.phrase :=
    Fact.toList_map_phrase facts.location .location rfl
  have time : facts.spanFields = (Fact.arrange facts.fact? [[.event]]).map Fact.phrase :=
    Fact.toList_map_phrase facts.start (.event · facts.finish) rfl
  have house : facts.book.publisherFields =
      (Fact.arrange facts.fact? [[.publisher]]).map Fact.phrase :=
    Fact.toList_map_phrase facts.book.publisher .publisher rfl
  rw [fields, BookFacts.fields_eq, book, place, time, house]
  simp only [← List.map_append, ← Fact.arrange_append]
  rfl

namespace WorkKind

theorem fields_eq (kind : WorkKind) : kind.fields =
    (Fact.arrange kind.fact?
      (kind.genre.fields fun topic ↦ (kind.fact? topic).isSome)).map Fact.phrase := by
  cases kind with
  | article journal volume issue pages =>
    cases volume <;> cases issue <;> cases pages <;> rfl
  | book facts =>
    change facts.fields ++ facts.publisherFields = _
    rw [facts.fields_eq, facts.publisherFields_eq, ← List.map_append, ← Fact.arrange_append]
    rfl
  | proceedings facts => exact facts.fields_eq
  | inProceedings bookTitle facts pages =>
    have event : Fact.arrange facts.fact? (Genre.bookFields ++ Genre.eventFields) =
        Fact.arrange (inProceedings bookTitle facts pages).fact?
          (Genre.bookFields ++ Genre.eventFields) :=
      Fact.arrange_congr (by simp [Genre.bookFields, Genre.eventFields, fact?])
    have range : PageRange.fields pages =
        (Fact.arrange (inProceedings bookTitle facts pages).fact? [[.pages]]).map Fact.phrase :=
      Fact.toList_map_phrase pages .pages rfl
    change [.text "in ", .emphasized bookTitle] :: (facts.fields ++ PageRange.fields pages) = _
    rw [facts.fields_eq, event, range, ← List.map_append, ← Fact.arrange_append]
    rfl
  | inCollection bookTitle facts chapter pages =>
    let work := inCollection bookTitle facts chapter pages
    have book : Fact.arrange facts.fact? Genre.bookFields =
        Fact.arrange work.fact? Genre.bookFields :=
      Fact.arrange_congr (by simp [Genre.bookFields, work, fact?])
    have part : (chapter.map fun chapter ↦ [.text ("chapter " ++ chapter)]).toList =
        (Fact.arrange work.fact? [[.chapter]]).map Fact.phrase :=
      Fact.toList_map_phrase chapter .chapter rfl
    have range : PageRange.fields pages =
        (Fact.arrange work.fact? [[.pages]]).map Fact.phrase :=
      Fact.toList_map_phrase pages .pages rfl
    have house : facts.publisherFields =
        (Fact.arrange work.fact? [[.publisher]]).map Fact.phrase :=
      Fact.toList_map_phrase facts.publisher .publisher rfl
    rw [fields, facts.fields_eq, book, part, range, house]
    simp only [← List.map_append, ← Fact.arrange_append]
    rfl
  | techReport number series institute =>
    cases number <;> cases series <;> cases institute <;> rfl
  | thesis kind school => rfl
  | website publisher => exact Fact.toList_map_phrase publisher .site rfl

end WorkKind

namespace Record

variable (record : Record)

theorem fields_eq : record.fields = record.layout.map Fact.phrase := by
  have special : record.kind.fields =
      (Fact.arrange record.fact? (record.kind.genre.fields record.knows)).map Fact.phrase := by
    rw [record.kind.fields_eq]
    refine congrArg _ (Fact.arrange_congr fun topics hts topic ht ↦ ?_)
    refine (record.fact?_of_ne_date fun he ↦ ?_).symm
    exact Genre.date_not_mem_fields _ _ (List.mem_flatten.mpr ⟨topics, hts, he ▸ ht⟩)
  have day : (record.date.map fun date ↦ [.text (date.spanText none)]).toList =
      (Fact.arrange record.fact? [[.date]]).map Fact.phrase :=
    Fact.toList_map_phrase record.date .date rfl
  have tells : record.kind.tellsDate = record.knows .event := record.kind.isSome_fact?_event.symm
  rw [fields, special, day, tells, layout, Genre.layout, Fact.arrange_append, List.map_append]
  split <;> rfl

/-- The links to the work, as far as they are known. -/
def addresses (record : Record) : List Span :=
  [record.doi.map fun doi ↦ .link ("https://doi.org/" ++ doi) ("doi:" ++ doi),
    record.uri.map fun uri ↦ .link uri uri].reduceOption

theorem links_eq : record.links = record.addresses.flatMap fun address ↦ [.text " ", address] := by
  rw [links, addresses]
  cases record.doi <;> cases record.uri <;> rfl

theorem byline_eq : record.byline =
    if record.authors = [] then [] else [.text "by "] ++
      Series.arrange .and false (record.authors.map fun person ↦ [.text person.fullName]) ++
      [.text ": "] := by
  rw [byline, Person.listing_eq]
  simp only [List.isEmpty_iff]

/-- An entry is the authors, the title in quotation marks, a field behind a comma for each list of
the layout, a full stop, and the links, each behind a space. Which topics share a field, and in
which order they stand, depends on the genre and on what is known alone. Each thing that is known
is told once, and there is one date if any is known: that of the event or else that of the work. -/
theorem entry_eq_layout :
    record.entry =
      (if record.authors = [] then [] else [.text "by "] ++
        Series.arrange .and false (record.authors.map fun person ↦ [.text person.fullName]) ++
        [.text ": "]) ++
      [.text ("\u201c" ++ record.title ++ "\u201d")] ++
      record.layout.flatMap (fun field ↦ .text ", " :: Fact.phrase field) ++
      [.text "."] ++ record.addresses.flatMap (fun address ↦ [.text " ", address]) ∧
    record.layout.map (·.map Fact.topic) =
      ((record.kind.genre.layout record.knows).map (·.filter record.knows)).filter (· ≠ []) ∧
    (∀ topic, record.layout.flatten.filter (·.topic = topic) =
      if topic = .date ∧ record.knows .event then [] else (record.fact? topic).toList) ∧
    record.layout.flatten.filter (·.topic.tellsDate) = record.when?.toList := by
  refine ⟨?_, Fact.map_topic_arrange record.topic_of_fact? _, record.filter_layout,
    record.filter_tellsDate⟩
  rw [entry, record.byline_eq, record.links_eq, record.fields_eq, List.flatMap_map]

/-- Without a volume or an issue the pages of an article are a field of their own. -/
example (title journal : String) (range : PageRange) :
    (⟨[], title, none, none, none, .article journal none none (some range)⟩ : Record).layout =
      [[.journal journal], [.pages range]] := rfl

end Record

end Manuscript

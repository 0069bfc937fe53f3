import Manuscript.Bibliography.Record
import Manuscript.Prose.Series

/-!
# Entries of the reference list

An entry names the authors, quotes the title, lists what is known of the work as fields with
commas between them, and ends with a full stop and the links. `Record.fields` says which fields a
work has and in what order; `Record.entry` adds the punctuation.
-/

namespace Manuscript

/-- The names of people, joined with commas and `and`. -/
def Person.listing (people : List Person) : Phrase := Series.andTexts (people.map Person.fullName)

namespace BookFacts

/-- The editors as a field, if there are any. -/
def editorFields (facts : BookFacts) : List Phrase :=
  if facts.editors.isEmpty then [] else [.text "edited by " :: Person.listing facts.editors]

/-- The volume and the series as one field, if either is known. -/
def volumeFields (facts : BookFacts) : List Phrase :=
  match facts.volume, facts.series with
  | some volume, some series => [[.text ("volume " ++ volume ++ " of " ++ series)]]
  | some volume, none => [[.text ("volume " ++ volume)]]
  | none, some series => [[.text series]]
  | none, none => []

/-- The edition as a field, if it is known. -/
def editionFields (facts : BookFacts) : List Phrase :=
  (facts.edition.map fun edition ↦ [.text (edition ++ " edition")]).toList

/-- The publisher as a field, if it is known. -/
def publisherFields (facts : BookFacts) : List Phrase :=
  (facts.publisher.map fun publisher ↦ [.text publisher.text]).toList

/-- Editors, volume and series, and edition. -/
def fields (facts : BookFacts) : List Phrase :=
  facts.editorFields ++ facts.volumeFields ++ facts.editionFields

end BookFacts

namespace EventFacts

/-- When the event took place, as a field, if its start is known. -/
def spanFields (facts : EventFacts) : List Phrase :=
  (facts.start.map fun start ↦ [.text (start.spanText facts.finish)]).toList

/-- The fields of the book, the place and time of the event, and the publisher. -/
def fields (facts : EventFacts) : List Phrase :=
  facts.book.fields ++ (facts.location.map fun place ↦ [.text place]).toList ++
    facts.spanFields ++ facts.book.publisherFields

end EventFacts

/-- Pages as a field, if they are known. -/
def PageRange.fields (pages : Option PageRange) : List Phrase :=
  (pages.map fun pages ↦ [.text pages.text]).toList

namespace WorkKind

/-- What follows the name of a journal in the same field: volume, issue in parentheses, and the
pages after a colon if a volume or an issue is known. -/
def issueText (volume issue : Option String) (pages : Option PageRange) : Phrase :=
  (match volume, issue with
    | some volume, some issue => [.text (" " ++ volume), .text ("(" ++ issue ++ ")")]
    | some volume, none => [.text (" " ++ volume)]
    | none, some issue => [.text (" (" ++ issue ++ ")")]
    | none, none => []) ++
  (match pages with
    | some pages =>
      if volume.isSome || issue.isSome then [.text (":" ++ pages.numbers)] else []
    | none => [])

/-- The fields of a work of the kind, in order. -/
def fields : WorkKind → List Phrase
  | article journal volume issue pages =>
    (.emphasized journal :: issueText volume issue pages) ::
      (if volume.isSome || issue.isSome then [] else PageRange.fields pages)
  | book facts => facts.fields ++ facts.publisherFields
  | proceedings facts => facts.fields
  | inProceedings bookTitle facts pages =>
    [.text "in ", .emphasized bookTitle] :: (facts.fields ++ PageRange.fields pages)
  | inCollection bookTitle facts chapter pages =>
    [.text "in ", .emphasized bookTitle] ::
      (facts.fields ++ (chapter.map fun chapter ↦ [.text ("chapter " ++ chapter)]).toList ++
        PageRange.fields pages ++ facts.publisherFields)
  | techReport number series institute =>
    (match number with
      | some number => [.text ("Technical Report " ++ number)]
      | none => [.text "Technical Report"]) ::
      ((series.map fun series ↦ [.text series]).toList ++
        (institute.map fun institute ↦ [.text institute.text]).toList)
  | thesis kind school => [[.text kind.text], [.text school.text]]
  | website publisher => (publisher.map fun publisher ↦ [.text publisher]).toList

/-- Whether the fields of the kind already say when the work appeared. -/
def tellsDate : WorkKind → Bool
  | proceedings facts | inProceedings _ facts _ => facts.start.isSome
  | _ => false

end WorkKind

namespace Record

/-- The fields of the work; its own date comes last unless they tell a date already. -/
def fields (record : Record) : List Phrase :=
  record.kind.fields ++
    if record.kind.tellsDate then []
    else (record.date.map fun date ↦ [.text (date.spanText none)]).toList

/-- The authors in front of the title, if there are any. -/
def byline (record : Record) : Phrase :=
  if record.authors.isEmpty then []
  else [.text "by "] ++ Person.listing record.authors ++ [.text ": "]

/-- The links behind the full stop, each after a space. -/
def links (record : Record) : Phrase :=
  (match record.doi with
    | some doi => [.text " ", .link ("https://doi.org/" ++ doi) ("doi:" ++ doi)]
    | none => []) ++
  (match record.uri with
    | some uri => [.text " ", .link uri uri]
    | none => [])

/-- The entry of the work in the reference list. -/
def entry (record : Record) : Phrase :=
  record.byline ++ [.text ("\u201c" ++ record.title ++ "\u201d")] ++
    record.fields.flatMap (.text ", " :: ·) ++ [.text "."] ++ record.links

/-- The authors as a citation names them: both of two, the first of more. -/
def citedAuthors (record : Record) : String :=
  match record.authors with
  | [] => ""
  | [only] => only.family
  | [first, second] => first.family ++ " and " ++ second.family
  | first :: _ => first.family ++ " et al."

end Record

end Manuscript

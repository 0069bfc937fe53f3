import Manuscript.Bibliography.Date

/-!
# Bibliographic records

A record describes a citable work. Equal records are the same work.
-/

namespace Manuscript

/-- A person named in a record. -/
structure Person where
  given : String
  family : String
  deriving DecidableEq, Repr

namespace Person

/-- The given names and the family name, or the family name alone if no given name is known. -/
def fullName (person : Person) : String :=
  if person.given = "" then person.family else person.given ++ " " ++ person.family

end Person

/-- A range of pages, both ends included. -/
structure PageRange where
  first : Nat
  last : Nat
  deriving DecidableEq, Repr

namespace PageRange

/-- The numbers of the range: `17–23` or `17`. -/
def numbers (pages : PageRange) : String :=
  if pages.first = pages.last then toString pages.first
  else toString pages.first ++ "\u2013" ++ toString pages.last

/-- The range with its noun: `pages 17–23` or `page 17`. -/
def text (pages : PageRange) : String :=
  (if pages.first = pages.last then "page " else "pages ") ++ pages.numbers

end PageRange

/-- A publisher, institute or school, and where it is. -/
structure Publisher where
  name : String
  address : Option String := none
  deriving DecidableEq, Repr

namespace Publisher

/-- The address, a colon and the name; the name alone without an address. -/
def text (publisher : Publisher) : String :=
  match publisher.address with
  | some address => address ++ ": " ++ publisher.name
  | none => publisher.name

end Publisher

/-- The degree that a thesis is written for. -/
inductive ThesisKind where
  | bachelor
  | master
  | diploma
  | phd
  deriving DecidableEq, Repr

namespace ThesisKind

/-- Every kind of thesis. -/
def all : List ThesisKind := [bachelor, master, diploma, phd]

/-- The name of the degree. -/
def name : ThesisKind → String
  | bachelor => "Bachelor"
  | master => "Master"
  | diploma => "Diploma"
  | phd => "PhD"

/-- What a thesis of the kind is called in a reference list. -/
def text : ThesisKind → String
  | bachelor => "Bachelor's thesis"
  | master => "Master's thesis"
  | diploma => "Diploma thesis"
  | phd => "Ph.D. thesis"

end ThesisKind

/-- What is known of a book, or of the book that holds a cited part. -/
structure BookFacts where
  editors : List Person := []
  series : Option String := none
  volume : Option String := none
  edition : Option String := none
  publisher : Option Publisher := none
  deriving DecidableEq, Repr

/-- What is known of proceedings: the book, and where and when the event took place. -/
structure EventFacts where
  book : BookFacts := {}
  location : Option String := none
  start : Option Date := none
  finish : Option Date := none
  deriving DecidableEq, Repr

/-- The kind of a work with what is special to it. -/
inductive WorkKind where
  | article (journal : String) (volume issue : Option String) (pages : Option PageRange)
  | book (facts : BookFacts)
  | proceedings (facts : EventFacts)
  | inProceedings (bookTitle : String) (facts : EventFacts) (pages : Option PageRange)
  | inCollection (bookTitle : String) (facts : BookFacts) (chapter : Option String)
      (pages : Option PageRange)
  | techReport (number series : Option String) (institute : Option Publisher)
  | thesis (kind : ThesisKind) (school : Publisher)
  | website (publisher : Option String)
  deriving DecidableEq, Repr

/-- A citable work. -/
structure Record where
  authors : List Person := []
  title : String
  date : Option Date := none
  doi : Option String := none
  uri : Option String := none
  kind : WorkKind
  deriving DecidableEq, Repr

namespace Record

/-- The year of the work: of its date, or else of the start of its event. -/
def year? (record : Record) : Option Int :=
  match record.date, record.kind with
  | some date, _ => some date.year
  | none, .proceedings facts | none, .inProceedings _ facts _ => facts.start.map Date.year
  | none, _ => none

end Record

end Manuscript

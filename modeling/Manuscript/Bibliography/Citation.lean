import Manuscript.Bibliography.Entry

/-!
# Citations

Works are numbered from one in the order in which they are first cited, and each gets a key of its
own: the family name of the first author with the year, and a serial number where that is taken.
A work keeps its number and key when it is cited again.
-/

namespace Manuscript

/-- How a citation in running text looks. -/
inductive CitationStyle where
  /-- `[1, 3]` -/
  | numbers
  /-- `Weise et al. [1]` -/
  | authorsAndNumbers
  deriving DecidableEq, Repr

namespace CitationStyle

/-- Every style of citation. -/
def all : List CitationStyle := [numbers, authorsAndNumbers]

/-- The name of the style. -/
def name : CitationStyle → String
  | numbers => "Id"
  | authorsAndNumbers => "AuthorsAndId"

end CitationStyle

namespace Record

/-- The lower-case letters and digits of the ASCII range in a name. -/
def keyLetters (name : String) : String :=
  String.ofList ((name.toList.filter Char.isAlphanum).map Char.toLower)

/-- The key of the work before it is made unique: letters of the first author, or `ref`, and the
year. -/
def baseKey (record : Record) : String :=
  let letters := (record.authors.head?.map fun author ↦ keyLetters author.family).getD ""
  (if letters = "" then "ref" else letters) ++ (record.year?.map toString).getD ""

end Record

/-- A cited work with its key. -/
structure CitedWork where
  record : Record
  key : String
  deriving DecidableEq, Repr

/-- A place in the reference list. -/
structure Citation where
  number : Nat
  key : String
  authors : String
  deriving DecidableEq, Repr

/-- The works cited so far, in the order of their first citation. -/
structure Bibliography where
  works : List CitedWork := []
  deriving DecidableEq, Repr

namespace Bibliography

/-- The keys in use. -/
def keys (bibliography : Bibliography) : List String := bibliography.works.map CitedWork.key

/-- The base with a serial number from two on. -/
def numberedKey (base : String) (serial : Nat) : String := base ++ "-" ++ toString serial

/-- A key that is not in use: the base, or the base with the least serial number from two on that
is free. Among one more serial numbers than there are keys, one is free. -/
def freshKey (taken : List String) (base : String) : String :=
  if base ∈ taken then
    (((List.range' 2 (taken.length + 1)).map (numberedKey base)).find? (· ∉ taken)).getD base
  else base

/-- The position of a work that was cited before. -/
def position? (bibliography : Bibliography) (record : Record) : Option Nat :=
  bibliography.works.findIdx? (·.record == record)

/-- The bibliography with the work in it. -/
def register (bibliography : Bibliography) (record : Record) : Bibliography :=
  match bibliography.position? record with
  | some _ => bibliography
  | none => ⟨bibliography.works ++ [⟨record, freshKey bibliography.keys record.baseKey⟩]⟩

/-- The place of a registered work. -/
def citation? (bibliography : Bibliography) (record : Record) : Option Citation := do
  let position ← bibliography.position? record
  let work ← bibliography.works[position]?
  return ⟨position + 1, work.key, record.citedAuthors⟩

/-- Register works and give the places of the distinct ones, in the order of the list. -/
def cite (bibliography : Bibliography) (records : List Record) : List Citation × Bibliography :=
  let registered := records.foldl register bibliography
  (records.eraseDups.filterMap registered.citation?, registered)

end Bibliography

namespace Citation

/-- The link to the place in the reference list. -/
def link (citation : Citation) : Span := .link ("#" ++ citation.key) (toString citation.number)

/-- The citation with its authors in front, if it has any. -/
def withAuthors (citation : Citation) : Phrase :=
  (if citation.authors = "" then [] else [.text citation.authors, .space]) ++
    [.text "[", citation.link, .text "]"]

/-- Citations in running text: the numbers in ascending order in one pair of brackets, or each with
its authors, joined with commas and `and`. -/
def phrase (style : CitationStyle) (citations : List Citation) : Phrase :=
  match style with
  | .numbers =>
    let sorted := citations.mergeSort (·.number ≤ ·.number)
    [.text "["] ++ [.text ", "].intercalate (sorted.map ([·.link])) ++ [.text "]"]
  | .authorsAndNumbers => Series.join .and false (citations.map withAuthors)

end Citation

end Manuscript

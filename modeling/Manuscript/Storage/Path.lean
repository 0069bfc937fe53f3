/-!
# Paths

A path is the text that names a file, with slashes between the steps. Nothing is normalised: joining
and taking parents keep the text as it was written.
-/

namespace Manuscript

/-- The text that names a file or directory. -/
structure Path where
  text : String
  deriving DecidableEq, Repr

namespace Path

/-- The pieces of a text between slashes. -/
def pieces : List Char → List (List Char)
  | [] => [[]]
  | c :: rest =>
    if c = '/' then [] :: pieces rest
    else
      match pieces rest with
      | [] => [[c]]
      | piece :: others => (c :: piece) :: others

/-- The steps of the path, where `""` and `.` stay and `..` goes up. -/
def steps (path : Path) : List String := (pieces path.text.toList).map String.ofList

/-- Whether the path starts at the root. -/
def isAbsolute (path : Path) : Bool := path.text.toList.head? == some '/'

/-- The path `name` seen from `base`. An absolute name stands for itself, and a slash is put between
the two unless the base is empty or ends in one. -/
def join (base : Path) (name : String) : Path :=
  if (Path.mk name).isAbsolute then ⟨name⟩
  else if base.text = "" ∨ base.text.toList.getLast? = some '/' then ⟨base.text ++ name⟩
  else ⟨base.text ++ "/" ++ name⟩

/-- Whether a step stays where it is. -/
def isIdle (step : String) : Bool := step == "" || step == "."

/-- The steps without the idle ones at the end. -/
def dropIdle (steps : List String) : List String := (steps.reverse.dropWhile isIdle).reverse

/-- The steps that lead to what holds the end of the way, unless the way has no step that counts. -/
def above? (steps : List String) : Option (List String) :=
  match dropIdle steps with
  | [] => none
  | way => some (dropIdle way.dropLast)

/-- The path of the directory that holds what the path names, seen from the steps alone. The root
and the empty path lie in no directory, and `.` lies in the empty path. -/
def parent? (path : Path) : Option Path :=
  match path.steps with
  | "" :: step :: rest => (above? (step :: rest)).map fun way ↦ ⟨"/" ++ "/".intercalate way⟩
  | "." :: rest =>
    match above? rest with
    | some way => some ⟨"/".intercalate ("." :: way)⟩
    | none => some ⟨""⟩
  | steps => (above? steps).map fun way ↦ ⟨"/".intercalate way⟩

/-- The last step of the path, unless it goes up or there is none. -/
def fileName? (path : Path) : Option String :=
  match (path.steps.filter (!isIdle ·)).getLast? with
  | some ".." => none
  | name => name

/-- What follows the last dot of the file name, unless the name starts with it. -/
def extension? (path : Path) : Option String := do
  let name ← path.fileName?
  let (ending, stem) := name.toList.reverse.span (· ≠ '.')
  if stem.length ≤ 1 then none else return String.ofList ending.reverse

end Path

end Manuscript

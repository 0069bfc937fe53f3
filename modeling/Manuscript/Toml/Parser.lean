import Manuscript.Toml.Scalar

/-!
# TOML documents

A document is read line by line: headers choose the table that the lines below fill.
-/

namespace Manuscript

namespace Toml

/-- Whether the character may stand in a key without quotes. -/
def isBareKeyChar (c : Char) : Bool := c.isAlphanum || c == '_' || c == '-'

/-- One part of a key. -/
def keyPart : Reader String := fun text ↦
  match text.takeWhile isBareKeyChar with
  | [] => keyString text
  | bare => some (String.ofList bare, text.dropWhile isBareKeyChar)

/-- Up to `count` key parts with dots between them, and the text behind the blanks after them. -/
def keyParts : (count : Nat) → Reader (List String)
  | 0, _ => none
  | count + 1, text => do
    let (part, rest) ← keyPart (skipBlanks text)
    match skipBlanks rest with
    | '.' :: rest => do
      let (parts, rest) ← keyParts count rest
      return (part :: parts, rest)
    | rest => return ([part], rest)

/-- How many parts a key may have. -/
def maxKeyParts : Nat := 80

/-- A key, and the text behind the blanks after it. -/
def key : Reader (List String) := keyParts maxKeyParts

/-- A key, an equals sign and a value, with room around the sign. -/
def field (skipRoom : List Char → Option (List Char)) (value : Reader Value) :
    Reader (List String × Value) := fun text ↦ do
  let (path, rest) ← key text
  match ← skipRoom rest with
  | '=' :: rest => do
    let (value, rest) ← value (← skipRoom rest)
    return ((path, value), rest)
  | _ => none

/-- A key and a value on one line. -/
def lineField (value : Reader Value) : Reader (List String × Value) :=
  field (some ∘ skipBlanks) value

/-- A key and a value in braces, where they may lie on different lines. -/
def inlineField (value : Reader Value) : Reader (List String × Value) := field skipLines value

/-- Things with commas between them up to a closing bracket; a comma may stand behind the last. -/
def listUntil {α : Type} (closing : Char) (one : Reader α) : (fuel : Nat) → Reader (List α)
  | 0, _ => none
  | fuel + 1, text => do
    match ← skipLines text with
    | [] => none
    | c :: rest =>
      if c = closing then return ([], rest)
      else
        let (first, rest) ← one (c :: rest)
        match ← skipLines rest with
        | ',' :: rest => do
          let (others, rest) ← listUntil closing one fuel rest
          return (first :: others, rest)
        | d :: rest => if d = closing then return ([first], rest) else none
        | [] => none

/-- How deep arrays and tables in braces may lie in each other. -/
def maxNesting : Nat := 80

/-- A value; `nesting` is how many arrays and tables may still be opened. -/
def value : (nesting : Nat) → Reader Value
  | nesting, text =>
    match nesting, text with
    | _, [] => none
    | 0, c :: rest =>
      if c = '[' ∨ c = '\x7b' then none
      else if c = '"' ∨ c = '\'' then (valueString (c :: rest)).map fun (s, r) ↦ (.string s, r)
      else wordValue (c :: rest)
    | nesting + 1, c :: rest =>
      if c = '[' then do
        let (items, rest) ← listUntil ']' (value nesting) (rest.length + 1) rest
        return (.array items, rest)
      else if c = '\x7b' then do
        let (entries, rest) ← listUntil '\x7d' (inlineField (value nesting)) (rest.length + 1) rest
        let fields ← entries.foldlM (fun fields (path, value) ↦ Fields.insert value path fields) []
        return (.table .inline fields, rest)
      else if c = '"' ∨ c = '\'' then (valueString (c :: rest)).map fun (s, r) ↦ (.string s, r)
      else wordValue (c :: rest)

/-- What has been read: all fields, and the path of the table that the next lines fill. -/
structure Progress where
  fields : Fields := []
  current : List String := []

/-- Read a line that is not empty: a header or a field. -/
def line (progress : Progress) (text : List Char) : Option (Progress × List Char) :=
  match text with
  | '[' :: '[' :: rest => do
    match ← key rest with
    | (path, ']' :: ']' :: rest) => do
      let fields ← progress.fields.openItem path
      return (⟨fields, path⟩, rest)
    | _ => none
  | '[' :: rest => do
    match ← key rest with
    | (path, ']' :: rest) => do
      let fields ← progress.fields.openTable path
      return (⟨fields, path⟩, rest)
    | _ => none
  | text => do
    let ((path, value), rest) ← lineField (value maxNesting) text
    let fields ← progress.fields.modifyAt (Fields.insert value path) progress.current
    return ({ progress with fields }, rest)

/-- Read the lines of a text. -/
def lines : (fuel : Nat) → Progress → List Char → Option Fields
  | 0, _, _ => none
  | fuel + 1, progress, text => do
    match ← skipLines text with
    | [] => return progress.fields
    | c :: rest => do
      let (progress, rest) ← line progress (c :: rest)
      lines fuel progress (← endLine rest)

/-- The fields of a document. A byte order mark may stand in front of it. -/
def parse (text : String) : Option Fields :=
  let chars :=
    match text.toList with
    | '\ufeff' :: rest => rest
    | chars => chars
  lines (chars.length + 1) {} chars

end Toml

end Manuscript

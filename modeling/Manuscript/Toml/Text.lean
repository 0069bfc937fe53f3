/-!
# Blanks, comments and strings of TOML

A reader takes what it can from the front of a text and gives the rest, or nothing if the text does
not start as it must.
-/

namespace Manuscript

namespace Toml

/-- A value read from the front of a text, and the rest. -/
abbrev Reader (α : Type) := List Char → Option (α × List Char)

/-- Whether the character may stand in a comment or, apart from its delimiters, in a string. -/
def isTextChar (c : Char) : Bool := c == '\t' || (' ' ≤ c && c != '\x7f')

/-- Whether the character is a blank within a line. -/
def isLineBlank (c : Char) : Bool := c == ' ' || c == '\t'

/-- The text behind the blanks at its front. -/
def skipBlanks (text : List Char) : List Char := text.dropWhile isLineBlank

/-- The text behind a line break at its front. -/
def lineBreak? : List Char → Option (List Char)
  | '\n' :: rest => some rest
  | '\r' :: '\n' :: rest => some rest
  | _ => none

/-- The text behind the comment at its front, if there is one; a comment reaches to the end of its
line. -/
def skipComment (text : List Char) : Option (List Char) :=
  match text with
  | '#' :: rest =>
    let behind := rest.dropWhile isTextChar
    if behind.isEmpty || (lineBreak? behind).isSome then some behind else none
  | text => some text

/-- The text of the next line, if nothing but blanks and a comment are left on this one. -/
def endLine (text : List Char) : Option (List Char) := do
  let rest ← skipComment (skipBlanks text)
  if rest.isEmpty then return [] else lineBreak? rest

/-- The text behind blanks, comments and line breaks. -/
def skipLines (text : List Char) : Option (List Char) := go false text
where
  /-- Skips on, inside a comment or outside. -/
  go (inComment : Bool) : List Char → Option (List Char)
    | [] => some []
    | '\n' :: rest => go false rest
    | '\r' :: '\n' :: rest => go false rest
    | c :: rest =>
      if inComment then if isTextChar c then go true rest else none
      else if isLineBlank c then go false rest
      else if c = '#' then go true rest
      else some (c :: rest)

/-- The value of digits in some base. -/
def digitsValue (base : Nat) (digits : List Char) : Nat :=
  digits.foldl (fun value c ↦
    base * value +
      if c.isDigit then c.toNat - '0'.toNat else c.toLower.toNat - 'a'.toNat + 10) 0

/-- Whether the character is a hexadecimal digit. -/
def isHexDigit (c : Char) : Bool := c.isDigit || ('a' ≤ c.toLower && c.toLower ≤ 'f')

/-- The character whose code point is written with `count` hexadecimal digits. -/
def codePoint (count : Nat) : Reader Char := fun text ↦
  let (digits, rest) := text.splitAt count
  let code := digitsValue 16 digits
  if digits.length = count ∧ digits.all isHexDigit ∧ code.isValidChar then
    some (Char.ofNat code, rest)
  else none

/-- The character that stands behind a backslash. -/
def escaped : Reader Char
  | 'b' :: rest => some ('\x08', rest)
  | 't' :: rest => some ('\t', rest)
  | 'n' :: rest => some ('\n', rest)
  | 'f' :: rest => some ('\x0c', rest)
  | 'r' :: rest => some ('\r', rest)
  | 'e' :: rest => some ('\x1b', rest)
  | '"' :: rest => some ('"', rest)
  | '\\' :: rest => some ('\\', rest)
  | 'x' :: rest => codePoint 2 rest
  | 'u' :: rest => codePoint 4 rest
  | 'U' :: rest => codePoint 8 rest
  | _ => none

/-- The text behind a line break that a backslash takes away, with all blanks and breaks after
it. -/
def joinedLine? (text : List Char) : Option (List Char) :=
  (lineBreak? (skipBlanks text)).map fun next ↦ go (next.length + 1) next
where
  /-- Skips line by line; every line is shorter than the text in front of it. -/
  go : Nat → List Char → List Char
    | 0, text => text
    | fuel + 1, text =>
      match lineBreak? (skipBlanks text) with
      | some next => go fuel next
      | none => skipBlanks text

/-- The rest of a string on one line, up to the delimiter. Backslashes matter between double
quotes. -/
def lineString (delimiter : Char) : (fuel : Nat) → Reader (List Char)
  | 0, _ => none
  | _ + 1, [] => none
  | fuel + 1, c :: rest =>
    if c = delimiter then some ([], rest)
    else if c = '\\' ∧ delimiter = '"' then do
      let (char, rest) ← escaped rest
      let (text, rest) ← lineString delimiter fuel rest
      return (char :: text, rest)
    else if isTextChar c then do
      let (text, rest) ← lineString delimiter fuel rest
      return (c :: text, rest)
    else none

/-- The rest of a string over several lines, up to three delimiters. One or two more delimiters
belong to the string. -/
def linesString (delimiter : Char) : (fuel : Nat) → Reader (List Char)
  | 0, _ => none
  | _ + 1, [] => none
  | fuel + 1, c :: rest =>
    if c = delimiter then
      let run := (c :: rest).takeWhile (· = delimiter)
      let behind := (c :: rest).dropWhile (· = delimiter)
      if 3 ≤ run.length then
        some (List.replicate (min run.length 5 - 3) c, run.drop 5 ++ behind)
      else do
        let (text, rest) ← linesString delimiter fuel behind
        return (run ++ text, rest)
    else if c = '\\' ∧ delimiter = '"' then
      match joinedLine? rest with
      | some rest => linesString delimiter fuel rest
      | none => do
        let (char, rest) ← escaped rest
        let (text, rest) ← linesString delimiter fuel rest
        return (char :: text, rest)
    else if c = '\n' ∨ isTextChar c then do
      let (text, rest) ← linesString delimiter fuel rest
      return (c :: text, rest)
    else
      match c, rest with
      | '\r', '\n' :: rest => do
        let (text, rest) ← linesString delimiter fuel rest
        return ('\r' :: '\n' :: text, rest)
      | _, _ => none

/-- A string on one line. -/
def keyString : Reader String
  | c :: rest =>
    if c = '"' ∨ c = '\'' then do
      let (text, rest) ← lineString c (rest.length + 1) rest
      return (String.ofList text, rest)
    else none
  | [] => none

/-- A string, which goes over several lines if it starts with three delimiters. A line break right
behind these is no part of it. -/
def valueString : Reader String
  | a :: b :: c :: rest =>
    if (a = '"' ∨ a = '\'') ∧ a = b ∧ b = c then do
      let start := (lineBreak? rest).getD rest
      let (text, rest) ← linesString a (start.length + 1) start
      return (String.ofList text, rest)
    else keyString (a :: b :: c :: rest)
  | text => keyString text

end Toml

end Manuscript

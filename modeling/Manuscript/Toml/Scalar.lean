import Manuscript.Toml.Text
import Manuscript.Toml.Value

/-!
# Numbers, truth values and dates of TOML

Each is one word, which may have blanks within it. Underscores may stand between digits.
-/

namespace Manuscript

namespace Toml

/-- The text without its underscores, each of which must stand between two digits. -/
def ungrouped? (isDigit : Char → Bool) : List Char → Option (List Char)
  | '_' :: _ => none
  | c :: '_' :: d :: rest =>
    if isDigit c && isDigit d then (ungrouped? isDigit (d :: rest)).map (c :: ·) else none
  | c :: rest => (ungrouped? isDigit rest).map (c :: ·)
  | [] => some []

/-- Decimal digits, at least one, with underscores between them. -/
def digits? (text : List Char) : Option (List Char) := do
  let digits ← ungrouped? Char.isDigit text
  if digits.isEmpty || !digits.all Char.isDigit then none else return digits

/-- A sign in front of a text, true for a minus. -/
def sign : List Char → Bool × List Char
  | '+' :: rest => (false, rest)
  | '-' :: rest => (true, rest)
  | rest => (false, rest)

/-- Whether digits start with a zero that could be left out. -/
def hasNeedlessZero (digits : List Char) : Bool := digits.head? == some '0' && 1 < digits.length

/-- The base that the start of a word names, with its digits. -/
def based? : List Char → Option (Nat × (Char → Bool) × List Char)
  | '0' :: 'x' :: rest => some (16, isHexDigit, rest)
  | '0' :: 'o' :: rest => some (8, fun c ↦ '0' ≤ c && c ≤ '7', rest)
  | '0' :: 'b' :: rest => some (2, fun c ↦ c == '0' || c == '1', rest)
  | _ => none

/-- Whether a number fits into a word of 128 bits, with or without a sign. -/
def integerInRange (number : Int) : Bool := -Nat.pow 2 127 ≤ number && number < Nat.pow 2 128

/-- The whole number with these digits in some base, if they stand for one. -/
def wholeNumber (word : List Char) (negative : Bool) (base : Nat) (isDigit : Char → Bool)
    (digits : List Char) : Value :=
  let value : Int := digitsValue base digits
  let number := if negative then -value else value
  if !digits.isEmpty && digits.all isDigit && integerInRange number then .integer number
  else .unreadable (String.ofList word)

/-- Whether a word without its sign has the form of a whole number: it starts with digits, and
behind them comes an underscore if anything. -/
def isWhole (magnitude : List Char) : Bool :=
  let digits := magnitude.takeWhile Char.isDigit
  let behind := magnitude.dropWhile Char.isDigit
  !digits.isEmpty && !hasNeedlessZero magnitude &&
    (behind.isEmpty || behind.head? == some '_') &&
    !behind.any fun c ↦ c == ' ' || c == '.' || c == 'e' || c == 'E'

/-- A whole number. In other bases than ten all digits must fit the base; in base ten only the
digits around underscores are looked at, and other characters among them make it unreadable. -/
def integer? (word : List Char) : Option Value :=
  match based? word with
  | some (base, isDigit, rest) => do
    let digits ← ungrouped? isDigit rest
    if digits.all isDigit then return wholeNumber word false base isDigit digits else none
  | none => do
    let (negative, magnitude) := sign word
    let digits ← ungrouped? isHexDigit magnitude
    if isWhole magnitude then return wholeNumber word negative 10 Char.isDigit digits else none

/-- Whether `digits * 10 ^ exponent` rounds to a finite number of 64 bits. -/
def isFinite (digits : Nat) (exponent : Int) : Bool :=
  let length : Int := (Nat.toDigits 10 digits).length
  if digits = 0 ∨ length + exponent < 300 then true
  else if 320 < length + exponent then false
  else
    digits * Nat.pow 10 exponent.toNat <
      (Nat.pow 2 1024 - Nat.pow 2 970) * Nat.pow 10 (-exponent).toNat

/-- A number with a fraction or an exponent, infinite or not a number. What would round to infinity
is unreadable. -/
def float? (word : List Char) : Option Value :=
  let (_, magnitude) := sign word
  if magnitude = ['i', 'n', 'f'] ∨ magnitude = ['n', 'a', 'n'] then
    some (.float (String.ofList word))
  else
    let (mantissa, power) := magnitude.span fun c ↦ c ≠ 'e' ∧ c ≠ 'E'
    let (whole, fraction) := mantissa.span (· ≠ '.')
    if fraction.isEmpty && power.isEmpty then none
    else do
      let wholeDigits ← digits? whole
      let fractionDigits ← if fraction.isEmpty then some [] else digits? fraction.tail
      let (negative, powerText) := sign power.tail
      let powerDigits ← if power.isEmpty then some [] else digits? powerText
      let value : Int := digitsValue 10 powerDigits
      let exponent := (if negative then -value else value) - fractionDigits.length
      if hasNeedlessZero wholeDigits then none
      else if isFinite (digitsValue 10 (wholeDigits ++ fractionDigits)) exponent then
        return .float (String.ofList word)
      else return .unreadable (String.ofList word)

/-- The value of `count` decimal digits at the front of a text. -/
def fixedDigits (count : Nat) : Reader Nat := fun text ↦
  let (digits, rest) := text.splitAt count
  if digits.length = count ∧ digits.all Char.isDigit then some (digitsValue 10 digits, rest)
  else none

/-- The number of days of a month. -/
def daysOfMonth (year month : Nat) : Nat :=
  if month = 2 then
    if year % 4 = 0 ∧ (year % 100 ≠ 0 ∨ year % 400 = 0) then 29 else 28
  else if month = 4 ∨ month = 6 ∨ month = 9 ∨ month = 11 then 30
  else 31

/-- The text behind a calendar date. -/
def afterDate? (text : List Char) : Option (List Char) := do
  match ← fixedDigits 4 text with
  | (year, '-' :: rest) =>
    match ← fixedDigits 2 rest with
    | (month, '-' :: rest) =>
      let (day, rest) ← fixedDigits 2 rest
      if 1 ≤ month ∧ month ≤ 12 ∧ 1 ≤ day ∧ day ≤ daysOfMonth year month then return rest
      else none
    | _ => none
  | _ => none

/-- The text behind a time of day; seconds and their fraction may be left out. -/
def afterTime? (text : List Char) : Option (List Char) := do
  match ← fixedDigits 2 text with
  | (hour, ':' :: rest) =>
    let (minute, rest) ← fixedDigits 2 rest
    if 23 < hour ∨ 59 < minute then none
    else
      match rest with
      | ':' :: rest =>
        let (second, rest) ← fixedDigits 2 rest
        if 60 < second then none
        else
          match rest with
          | '.' :: rest =>
            if (rest.takeWhile Char.isDigit).isEmpty then none
            else return rest.dropWhile Char.isDigit
          | rest => return rest
      | rest => return rest
  | _ => none

/-- Whether the text is an offset from universal time. -/
def isOffset : List Char → Bool
  | ['Z'] | ['z'] => true
  | c :: rest =>
    let checked : Option Bool := do
      match ← fixedDigits 2 rest with
      | (hour, ':' :: rest) =>
        let (minute, rest) ← fixedDigits 2 rest
        pure (hour ≤ 23 && minute ≤ 59 && rest.isEmpty)
      | _ => none
    (c == '+' || c == '-') && checked.getD false
  | [] => false

/-- Whether the word is a time of day, a date, or both with or without an offset. -/
def isDatetime (word : List Char) : Bool :=
  match afterDate? word with
  | some [] => true
  | some (c :: rest) =>
    (c == 'T' || c == 't' || c == ' ') &&
      match afterTime? rest with
      | some rest => rest.isEmpty || isOffset rest
      | none => false
  | none => afterTime? word == some []

/-- The value of a word. -/
def scalar? (word : List Char) : Option Value :=
  if word = ['t', 'r', 'u', 'e'] then some (.boolean true)
  else if word = ['f', 'a', 'l', 's', 'e'] then some (.boolean false)
  else
    match integer? word with
    | some value => some value
    | none =>
      if isDatetime word then some (.datetime (String.ofList word)) else float? word

/-- Whether the character ends a word, unless it is a blank within the word. -/
def endsWord (c : Char) : Bool := "=,[]\x7b\x7d#\r\n".toList.contains c

/-- Whether a word goes on with the text behind blanks. A string or a comment is no part of it. -/
def goesOn : List Char → Bool
  | [] => false
  | c :: _ => !endsWord c && c != '"' && c != '\''

/-- The word in front of a text, with the blanks within it, and the rest. -/
def splitWord : List Char → List Char × List Char
  | [] => ([], [])
  | c :: rest =>
    if endsWord c || isLineBlank c && !goesOn (skipBlanks rest) then ([], c :: rest)
    else
      let (word, behind) := splitWord rest
      (c :: word, behind)

/-- A word as a value. -/
def wordValue : Reader Value := fun text ↦
  let (word, rest) := splitWord text
  (scalar? word).map (·, rest)

end Toml

end Manuscript

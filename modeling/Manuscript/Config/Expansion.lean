import Manuscript.Text.Alphanumeric

/-!
# Variables in settings

A setting may name environment variables: `$NAME`, `${NAME}` and `${NAME:-DEFAULT}` stand for their
values, `$$` for one dollar sign, and a tilde at the start for the home directory. Values and
defaults are taken as they are, without looking for variables in them.
-/

namespace Manuscript

/-- The environment variables that are set, with their values. -/
abbrev Environment := List (String × String)

namespace Environment

/-- The value of a variable. The variables are lines `NAME=VALUE`, and the first line counts that
starts with the name and an equals sign; a name may so take in the front of a value. No variable
has the empty name. -/
def value? (environment : Environment) (name : String) : Option String :=
  if name = "" then none
  else
    let front := name.toList ++ ['=']
    environment.findSome? fun (key, value) ↦
      let line := key.toList ++ '=' :: value.toList
      if front.isPrefixOf line then some (String.ofList (line.drop front.length)) else none

end Environment

namespace Expansion

/-- Whether the character may stand in a name without braces. -/
def isNameChar (c : Char) : Bool := isAlphanumeric c || c == '_'

/-- A name and the default behind the first `:-`. At the very start that is no separator. -/
def splitDefault (body : List Char) : List Char × Option (List Char) :=
  let rec go (name : List Char) : List Char → List Char × Option (List Char)
    | ':' :: '-' :: rest => if name.isEmpty then (body, none) else (name.reverse, some rest)
    | c :: rest => go (c :: name) rest
    | [] => (body, none)
  go [] body

/-- The value of a variable, or the default; the error is the name of the variable. -/
def value (environment : Environment) (name : List Char) (default : Option (List Char)) :
    Except String (List Char) :=
  match environment.value? (String.ofList name), default with
  | some value, _ => .ok value.toList
  | none, some default => .ok default
  | none, none => .error (String.ofList name)

/-- Replace the variables in a text; the error is the name of the first one that is not set. -/
def substitute (environment : Environment) (text : List Char) : Except String (List Char) :=
  match text with
  | [] => .ok []
  | '$' :: '\x7b' :: rest =>
    if rest.contains '\x7d' then do
      let (name, default) := splitDefault (rest.takeWhile (· ≠ '\x7d'))
      let value ← value environment name default
      let others ← substitute environment (rest.dropWhile (· ≠ '\x7d')).tail
      return value ++ others
    else (substitute environment rest).map (['$', '\x7b'] ++ ·)
  | '$' :: '$' :: rest => (substitute environment rest).map ('$' :: ·)
  | '$' :: c :: rest =>
    if isNameChar c then do
      let value ← value environment (c :: rest.takeWhile isNameChar) none
      let others ← substitute environment (rest.dropWhile isNameChar)
      return value ++ others
    else (substitute environment (c :: rest)).map ('$' :: ·)
  | c :: rest => (substitute environment rest).map (c :: ·)
  termination_by text.length
  decreasing_by
    all_goals simp only [List.length_cons, List.length_tail]
    all_goals first
      | omega
      | have := (List.dropWhile_sublist (l := rest) (· ≠ '\x7d')).length_le; omega
      | have := (List.dropWhile_sublist (l := rest) isNameChar).length_le; omega

/-- Whether the text is a tilde alone or in front of a slash. -/
def startsAtHome : List Char → Bool
  | ['~'] => true
  | '~' :: '/' :: _ => true
  | _ => false

/-- Replace the variables in a text and then the tilde, if the text had one at the start from the
beginning. -/
def expand (environment : Environment) (text : String) : Except String String := do
  let expanded ← substitute environment text.toList
  if text.toList.head? = some '~' ∧ startsAtHome expanded then
    match environment.value? "HOME" with
    | some home => return home ++ String.ofList expanded.tail
    | none => return String.ofList expanded
  else return String.ofList expanded

end Expansion

end Manuscript

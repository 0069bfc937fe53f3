import Manuscript.Config.Basic
import Manuscript.Toml.Parser

/-!
# Configuration files

What a configuration file says, before paths are resolved. Settings that are left out are absent,
and keys that are not known are passed over.
-/

namespace Manuscript

/-- What a configuration file sets. -/
structure ConfigFile where
  dpi : Option Nat := none
  format : Option ImageFormat := none
  model : Option ColorModel := none
  directory : Option String := none
  stem : Option String := none
  humanReadable : Option Bool := none
  deriving DecidableEq, Repr

namespace ConfigFile

open Toml (Value)

/-- The value of a setting in a group of settings. A group is a table, or an array that lists the
settings in order. A date has no settings. -/
def setting (group : Option Value) (index : Nat) (name : String) : Option (Option Value) :=
  match group with
  | none => some none
  | some (.table _ fields) => some (fields.lookup name)
  | some (.array items) => some items[index]?
  | some (.tables items) => some (items[index]?.map (.table .header))
  | some (.datetime _) => some none
  | some _ => none

/-- A number of 32 bits. -/
def number : Value → Option Nat
  | .integer n => if 0 ≤ n ∧ n < Nat.pow 2 32 then some n.toNat else none
  | _ => none

/-- A text. -/
def text : Value → Option String
  | .string s => some s
  | _ => none

/-- A truth value. -/
def truth : Value → Option Bool
  | .boolean b => some b
  | _ => none

/-- Whether a value is an array or a table with nothing in it. -/
def isEmpty : Value → Bool
  | .array [] | .table _ [] => true
  | _ => false

/-- One of the named things: by its name, or by a table that has it as its only key. -/
def named {α : Type} (all : List α) (name : α → String) : Value → Option α
  | .string s => all.find? (name · == s)
  | .table _ [(key, value)] => if isEmpty value then all.find? (name · == key) else none
  | _ => none

/-- Read a setting if it is there. -/
def read {α : Type} (group : Option Value) (index : Nat) (name : String)
    (decode : Value → Option α) : Option (Option α) :=
  match setting group index name with
  | none => none
  | some none => some none
  | some (some value) => (decode value).map some

/-- How many settings a group has. -/
def groupSize : Nat := 3

/-- Whether the numbers in a group of settings can be read. Where the settings are listed in order,
nothing behind the last one is read. -/
def isGroupReadable : Value → Bool
  | .array items => Value.areReadable (items.take groupSize)
  | group => group.isReadable

/-- Whether the numbers in a document can be read. -/
def isReadable (fields : Toml.Fields) : Bool :=
  fields.all fun (key, value) ↦
    if key = "images" ∨ key = "output" then isGroupReadable value else value.isReadable

/-- The settings in a document. -/
def ofFields (fields : Toml.Fields) : Option ConfigFile := do
  let images := fields.lookup "images"
  let output := fields.lookup "output"
  if !isReadable fields then none
  return {
    dpi := ← read images 0 "dpi" number
    format := ← read images 1 "format" (named ImageFormat.all ImageFormat.name)
    model := ← read images 2 "color_model" (named ColorModel.all ColorModel.name)
    directory := ← read output 0 "directory" text
    stem := ← read output 1 "file_stem" text
    humanReadable := ← read output 2 "human_readable" truth }

/-- The settings in a text. -/
def parse (text : String) : Except ConfigError ConfigFile :=
  match Toml.parse text >>= ofFields with
  | some file => .ok file
  | none => .error .parse

end ConfigFile

end Manuscript

/-!
# TOML values

A table remembers how it came about, because that decides what later lines may add to it.
-/

namespace Manuscript

namespace Toml

/-- How a table came about. -/
inductive Origin where
  /-- A header names the table. -/
  | header
  /-- The table lies on the way to one that a header names. -/
  | implied
  /-- A dotted key leads through the table, and no header names it. -/
  | dotted
  /-- The table is written in braces. -/
  | inline
  deriving DecidableEq, Repr

/-- A value. Numbers with a fraction and dates are kept as they were written. -/
inductive Value where
  | string (text : String)
  | integer (number : Int)
  | float (text : String)
  /-- What has the form of a number but stands for none: digits are missing, or it is too large. -/
  | unreadable (text : String)
  | boolean (truth : Bool)
  | datetime (text : String)
  | array (items : List Value)
  /-- The tables under double-bracket headers of one name. -/
  | tables (items : List (List (String × Value)))
  | table (origin : Origin) (fields : List (String × Value))
  deriving Repr, Inhabited

/-- The fields of a table in the order in which they were written. -/
abbrev Fields := List (String × Value)

mutual

/-- Whether all numbers in the value can be read. -/
def Value.isReadable : Value → Bool
  | .unreadable _ => false
  | .array items => Value.areReadable items
  | .tables items => Fields.areAllReadable items
  | .table _ fields => Fields.areReadable fields
  | _ => true

/-- Whether all numbers in the values can be read. -/
def Value.areReadable : List Value → Bool
  | [] => true
  | value :: rest => value.isReadable && Value.areReadable rest

/-- Whether all numbers in the fields can be read. -/
def Fields.areReadable : List (String × Value) → Bool
  | [] => true
  | (_, value) :: rest => value.isReadable && Fields.areReadable rest

/-- Whether all numbers in the tables can be read. -/
def Fields.areAllReadable : List (List (String × Value)) → Bool
  | [] => true
  | fields :: rest => Fields.areReadable fields && Fields.areAllReadable rest

end

namespace Fields

/-- The fields with another value for a key. -/
def replace (fields : Fields) (key : String) (value : Value) : Fields :=
  fields.map fun field ↦ if field.1 = key then (key, value) else field

/-- Change the table that a header path leads to. The way goes through the last table of a list of
tables. -/
def modifyAt (change : Fields → Option Fields) : List String → Fields → Option Fields
  | [], fields => change fields
  | key :: path, fields =>
    match fields.lookup key with
    | some (.table origin inner) =>
      (modifyAt change path inner).map fun inner ↦ fields.replace key (.table origin inner)
    | some (.tables items) =>
      (modifyAt change path (items.getLastD [])).map fun last ↦
        fields.replace key (.tables (items.dropLast ++ [last]))
    | _ => none

/-- Add a value under a dotted key. Dotted keys may go through tables that no header names, which
then count as their own, and through lists of tables, but not end in one. -/
def insert (value : Value) : List String → Fields → Option Fields
  | [], _ => none
  | [key], fields =>
    if (fields.lookup key).isSome then none else some (fields ++ [(key, value)])
  | key :: path, fields =>
    match fields.lookup key with
    | none => (insert value path []).map fun inner ↦ fields ++ [(key, .table .dotted inner)]
    | some (.table origin inner) =>
      if origin = .dotted ∨ origin = .implied then
        (insert value path inner).map fun inner ↦ fields.replace key (.table .dotted inner)
      else none
    | some (.tables items) =>
      if 1 < path.length then
        (insert value path (items.getLastD [])).map fun last ↦
          fields.replace key (.tables (items.dropLast ++ [last]))
      else none
    | some _ => none

/-- Follow a header path, making tables on the way, and change the fields of the last but one table
with the last key. -/
def alongHeader (change : String → Fields → Option Fields) : List String → Fields → Option Fields
  | [], _ => none
  | [key], fields => change key fields
  | key :: path, fields =>
    match fields.lookup key with
    | none => (alongHeader change path []).map fun inner ↦ fields ++ [(key, .table .implied inner)]
    | some (.table origin inner) =>
      if origin = .inline then none
      else (alongHeader change path inner).map fun inner ↦ fields.replace key (.table origin inner)
    | some (.tables items) =>
      (alongHeader change path (items.getLastD [])).map fun last ↦
        fields.replace key (.tables (items.dropLast ++ [last]))
    | some _ => none

/-- Open the table that a header names. A table can be named once. -/
def openTable : List String → Fields → Option Fields :=
  alongHeader fun key fields ↦
    match fields.lookup key with
    | none => some (fields ++ [(key, .table .header [])])
    | some (.table .implied inner) => some (fields.replace key (.table .header inner))
    | some _ => none

/-- Open one more table under a double-bracket header. -/
def openItem : List String → Fields → Option Fields :=
  alongHeader fun key fields ↦
    match fields.lookup key with
    | none => some (fields ++ [(key, .tables [[]])])
    | some (.tables items) => some (fields.replace key (.tables (items ++ [[]])))
    | some _ => none

end Fields

end Toml

end Manuscript

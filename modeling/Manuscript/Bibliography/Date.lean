/-!
# Dates of publications and events

A date has the precision of a year, a quarter, a month or a day. A span of two dates is printed
with what both ends share written once: `June 24–26, 1985`, `February–March 2002`.
-/

namespace Manuscript

/-- A month of the year. -/
inductive Month where
  | january
  | february
  | march
  | april
  | may
  | june
  | july
  | august
  | september
  | october
  | november
  | december
  deriving DecidableEq, Repr

namespace Month

/-- The months in order. -/
def all : List Month :=
  [january, february, march, april, may, june, july, august, september, october, november,
    december]

/-- The month with a number from 1 to 12. -/
def ofNumber? (number : Nat) : Option Month := if number = 0 then none else all[number - 1]?

/-- The English name of the month. -/
def name : Month → String
  | january => "January"
  | february => "February"
  | march => "March"
  | april => "April"
  | may => "May"
  | june => "June"
  | july => "July"
  | august => "August"
  | september => "September"
  | october => "October"
  | november => "November"
  | december => "December"

/-- Whether February of the year has 29 days. -/
def isLeapYear (year : Int) : Bool :=
  year % 4 == 0 && (year % 100 != 0 || year % 400 == 0)

/-- The number of days of the month in a year. -/
def days (month : Month) (year : Int) : Nat :=
  match month with
  | february => if isLeapYear year then 29 else 28
  | april | june | september | november => 30
  | _ => 31

end Month

/-- What a date says below the year. -/
inductive DatePart where
  | year
  | quarter (number : Nat)
  | month (month : Month)
  | day (month : Month) (number : Nat)
  deriving DecidableEq, Repr

namespace DatePart

/-- Whether the part is a day. -/
def isDay : DatePart → Bool
  | day _ _ => true
  | _ => false

/-- The part without the year: `June 1`, `June`, `Q2`, or nothing. -/
def text : DatePart → String
  | .year => ""
  | .quarter q => "Q" ++ toString q
  | .month m => m.name
  | .day m d => m.name ++ " " ++ toString d

end DatePart

/-- A date of some precision. -/
structure Date where
  year : Int
  part : DatePart := .year
  deriving DecidableEq, Repr

namespace Date

/-- Whether the part names a real quarter or day of the year. -/
def isValid (date : Date) : Bool :=
  match date.part with
  | .year | .month _ => true
  | .quarter number => 1 ≤ number && number ≤ 4
  | .day month number => 1 ≤ number && number ≤ month.days date.year

/-- The quarter of a year, if there is one of that number. -/
def quarter? (year : Int) (number : Nat) : Option Date :=
  let date : Date := ⟨year, .quarter number⟩
  if date.isValid then some date else none

/-- The day of a month, if the month has one of that number. -/
def day? (year : Int) (month : Month) (number : Nat) : Option Date :=
  let date : Date := ⟨year, .day month number⟩
  if date.isValid then some date else none

/-- Drop a quarter that does not exist to its year and a day that does not exist to its month. -/
def coarsened (date : Date) : Date :=
  if date.isValid then date
  else
    match date.part with
    | .day month _ => ⟨date.year, .month month⟩
    | _ => ⟨date.year, .year⟩

/-- The year as it follows a part: after a comma if the part is a day. -/
def yearText (part : DatePart) (year : Int) : String :=
  (if part.isDay then ", " else " ") ++ toString year

/-- The text of a date whose part exists. -/
def exactText (date : Date) : String :=
  match date.part with
  | .year => toString date.year
  | part => part.text ++ yearText part date.year

/-- The text of a date: `June 1, 1996`, `June 1996`, `Q2 1996` or `1996`. -/
def text (date : Date) : String := date.coarsened.exactText

/-- The sign between the ends of a span. -/
def dash : String := "\u2013"

/-- The text of two different dates of one year whose parts exist. -/
def sharedYearText (year : Int) (first last : DatePart) : String :=
  match first, last with
  | .year, part => exactText ⟨year, part⟩
  | part, .year => exactText ⟨year, part⟩
  | .day m _, .month n =>
    if m = n then exactText ⟨year, first⟩
    else first.text ++ dash ++ last.text ++ yearText last year
  | .month m, .day n _ =>
    if m = n then exactText ⟨year, last⟩
    else first.text ++ dash ++ last.text ++ yearText last year
  | .day m d, .day n e =>
    if m = n then
      m.name ++ " " ++ toString d ++ dash ++ toString e ++ yearText last year
    else first.text ++ dash ++ last.text ++ yearText last year
  | first, last => first.text ++ dash ++ last.text ++ yearText last year

/-- The text of the span from `first` to `last`. Without an end, or with an equal one, it is the
text of the start. -/
def spanText (first : Date) (last : Option Date) : String :=
  let first := first.coarsened
  match last.map coarsened with
  | none => first.exactText
  | some last =>
    if first = last then first.exactText
    else if first.year = last.year then sharedYearText first.year first.part last.part
    else first.exactText ++ dash ++ last.exactText

end Date

end Manuscript

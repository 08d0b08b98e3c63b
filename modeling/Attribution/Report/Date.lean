/-!
The day a report is made.
-/

namespace Attribution.Report

/-- A day of the calendar. -/
structure Date where
  year : Nat
  month : Nat
  day : Nat
  deriving DecidableEq, Repr

namespace Date

/-- A number with two places at least. -/
def twoPlaces (n : Nat) : String := if n < 10 then "0" ++ toString n else toString n

/-- Month and day have two places, the year has as many as it needs. -/
def text (d : Date) : String :=
  toString d.year ++ "-" ++ twoPlaces d.month ++ "-" ++ twoPlaces d.day

end Date

end Attribution.Report

import Conform.Calendar.DateTime
import Conform.Value.Order

/-
  Checks of times against moments: before, after, between, on the same day, in the past or in the
  future. A time with an offset from universal time and one without cannot be compared, nor can a
  time and a mere day, and then the check rejects.
-/

namespace Conform

/-- What a time is checked against. -/
inductive Moment where
  | time (t : DateTime)
  | day (d : Date)
deriving DecidableEq, Repr

namespace Moment

def ofValue? : Value → Option Moment
  | .datetime t => some (.time t)
  | .date d => some (.day d)
  | _ => none

/-- The moment in the standard form. -/
def text : Moment → String
  | .time t => t.text
  | .day d => d.text

/-- The order of a time and the moment, if they can be compared. -/
def compareTo? (t : DateTime) : Moment → Option Ordering
  | .time moment => t.compare? moment
  | .day _ => none

end Moment

inductive DateCheck where
  | before (moment : Moment) (inclusive : Bool)
  | after (moment : Moment) (inclusive : Bool)
  | between (start finish : Moment) (inclusiveStart inclusiveEnd : Bool)
  | sameDay (moment : DateTime)
  /-- In the past of what the clock shows where the time is taken. -/
  | inPast (now : Option TimeZone → DateTime) (allowNow : Bool)
  | inFuture (now : Option TimeZone → DateTime) (allowNow : Bool)

namespace DateCheck

/-- Whether a relation holds between a time and a moment; false if they cannot be compared. -/
def holds (r : Relation) (t : DateTime) (moment : Moment) : Bool :=
  match moment.compareTo? t with
  | some o => r.holdsFor o
  | none => false

/-- The relation of a check that may allow equality. -/
def relation (strict loose : Relation) (inclusive : Bool) : Relation :=
  if inclusive then loose else strict

/-- Whether a time passes the check. -/
def accepts (check : DateCheck) (t : DateTime) : Bool :=
  match check with
  | .before moment inclusive => holds (relation .lt .le inclusive) t moment
  | .after moment inclusive => holds (relation .gt .ge inclusive) t moment
  | .between start finish inclusiveStart inclusiveEnd =>
    holds (relation .gt .ge inclusiveStart) t start
      && holds (relation .lt .le inclusiveEnd) t finish
  | .sameDay moment => t.date == moment.date
  | .inPast now allowNow => holds (relation .lt .le allowNow) t (.time (now t.zone))
  | .inFuture now allowNow => holds (relation .gt .ge allowNow) t (.time (now t.zone))

/-- What the check expects. -/
def message : DateCheck → String
  | .before moment _ => "a date before " ++ moment.text
  | .after moment _ => "a date after " ++ moment.text
  | .between start finish _ _ => "a date between " ++ start.text ++ " and " ++ finish.text
  | .sameDay moment => "a date on " ++ moment.date.text
  | .inPast _ _ => "a date in the past"
  | .inFuture _ _ => "a date in the future"

/-- The named values of the check. -/
def details : DateCheck → List (String × Value)
  | .before moment inclusive => [("before", .str moment.text), ("inclusive", .bool inclusive)]
  | .after moment inclusive => [("after", .str moment.text), ("inclusive", .bool inclusive)]
  | .between start finish inclusiveStart inclusiveEnd =>
    [("start", .str start.text), ("end", .str finish.text),
      ("inclusive_start", .bool inclusiveStart), ("inclusive_end", .bool inclusiveEnd)]
  | .sameDay moment => [("day", .str moment.date.text)]
  | .inPast _ allowNow => [("allow_now", .bool allowNow)]
  | .inFuture _ allowNow => [("allow_now", .bool allowNow)]

end DateCheck
end Conform

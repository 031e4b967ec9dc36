/-
  Time zones. The distance from universal time is the same at any time, or it depends on what the
  wall clock shows. Where such a zone puts its clocks back, the same readings come twice, and where
  it puts them forward, some never come; what a reading there stands for depends on whether it is
  taken for the earlier or for the later one of the two.
-/

namespace Conform

/-- Distances from universal time by the microseconds that the wall clock shows: the first one, and
those that come in from some reading on, in order. -/
structure OffsetTable where
  first : Int
  changes : List (Int × Int)
deriving DecidableEq, Repr, Inhabited

/-- The distance at a reading. -/
def OffsetTable.at (table : OffsetTable) (clock : Int) : Int :=
  table.changes.foldl (fun offset change => if change.1 ≤ clock then change.2 else offset)
    table.first

/-- A zone whose distance from universal time changes. -/
structure Zone where
  name : String
  /-- Zones with the same name and distances can still be two. -/
  id : Nat
  /-- The distances at readings that are taken for the earlier one. -/
  earlier : OffsetTable
  /-- The distances at readings that are taken for the later one. -/
  later : OffsetTable
  /-- Two readings that can be taken in one way only do not stand for the same instant. -/
  eq_of_same_instant : ∀ c d : Int, earlier.at c = later.at c → earlier.at d = later.at d →
    c - earlier.at c = d - earlier.at d → c = d
deriving DecidableEq, Repr

/-- Where a time is taken. -/
inductive TimeZone where
  /-- At a distance from universal time in microseconds. -/
  | fixed (offset : Int)
  /-- In a zone, for the later reading or for the earlier one. -/
  | ruled (zone : Zone) (later : Bool)
deriving DecidableEq, Repr

namespace TimeZone

/-- The distance from universal time when the wall clock has a reading. -/
def offsetAt (z : TimeZone) (clock : Int) : Int :=
  match z with
  | .fixed offset => offset
  | .ruled zone later => (if later then zone.later else zone.earlier).at clock

/-- Whether a reading of the wall clock can be taken in two ways. -/
def isAmbiguousAt (z : TimeZone) (clock : Int) : Bool :=
  match z with
  | .fixed _ => false
  | .ruled zone _ => zone.earlier.at clock != zone.later.at clock

/-- The zone whose distance from universal time changes, if it is one. -/
def zone? : TimeZone → Option Zone
  | .fixed _ => none
  | .ruled zone _ => some zone

end TimeZone
end Conform

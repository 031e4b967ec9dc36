import Conform.Calendar.Date
import Conform.Calendar.Zone

/-
  A time of day on a calendar day, with or without the distance from universal time. Two times
  that both have the distance are compared as instants and two that both lack it as they are
  written; others cannot be compared. Times in one zone are compared as they are written, whatever
  their distances.
-/

namespace Conform

/-- A calendar day with a time of day and, if known, where it is taken. -/
structure DateTime where
  date : Date
  hour : Nat
  minute : Nat
  second : Nat
  microsecond : Nat
  zone : Option TimeZone
deriving DecidableEq, Repr, Inhabited

namespace DateTime

def dayLength : Int := 86400000000

/-- The microseconds from the start of the count of days to the time as it is written. -/
def wallClock (t : DateTime) : Int :=
  (((t.date.ordinal * 24 + t.hour) * 60 + t.minute) * 60 + t.second : Nat) * (1000000 : Int)
    + t.microsecond

/-- The distance from universal time in microseconds, if it is known. -/
def offset (t : DateTime) : Option Int := t.zone.map fun z => z.offsetAt t.wallClock

/-- The microseconds by which times with an offset are compared. -/
def instant (t : DateTime) : Int := t.wallClock - t.offset.getD 0

/-- Whether two times can be compared: both have an offset or neither has one. -/
def comparable (s t : DateTime) : Bool := s.offset.isSome == t.offset.isSome

/-- Whether two times are taken in the same zone of changing distance. -/
def sharesZone (s t : DateTime) : Bool :=
  match s.zone.bind TimeZone.zone?, t.zone.bind TimeZone.zone? with
  | some y, some z => y == z
  | _, _ => false

/-- Whether the time as it is written can be taken in two ways. -/
def isAmbiguous (t : DateTime) : Bool := t.zone.any fun z => z.isAmbiguousAt t.wallClock

/-- The order of two times, if they can be compared. -/
def compare? (s t : DateTime) : Option Ordering :=
  if s.sharesZone t then some (compare s.wallClock t.wallClock)
  else if s.comparable t then some (compare s.instant t.instant)
  else none

/-- Whether two times are equal. A time that can be taken in two ways is equal to none in another
zone. -/
def equals (s t : DateTime) : Bool :=
  s.compare? t == some .eq && (s.sharesZone t || !s.isAmbiguous && !t.isAmbiguous)

def ofDate (d : Date) : DateTime := ⟨d, 0, 0, 0, 0, none⟩

/-- Midnight at the start of the same day. -/
def atMidnight (t : DateTime) : DateTime := ⟨t.date, 0, 0, 0, 0, t.zone⟩

/-- The time with these numbers, the first number that is out of range being reported. -/
def make (date : Except CalendarError Date) (hour minute second microsecond : Nat)
    (offset : Option Int) : Except CalendarError DateTime := do
  if let some o := offset then
    if o.natAbs ≥ dayLength.natAbs then throw (.offset o)
  let day ← date
  if 23 < hour then throw .hour
  if 59 < minute then throw .minute
  if 59 < second then throw .second
  pure ⟨day, hour, minute, second, microsecond, offset.map .fixed⟩

theorem refuse_eq_ok_iff {α : Type} (p : Prop) [Decidable p] (e : CalendarError)
    (rest : Except CalendarError α) (a : α) :
    (do
      if p then throw e
      rest) = .ok a ↔ ¬ p ∧ rest = .ok a := by
  by_cases hp : p
  · rw [if_pos hp]
    exact iff_of_false nofun fun h => h.1 hp
  · rw [if_neg hp]
    exact (and_iff_right hp).symm

theorem make_eq_ok_iff {date : Except CalendarError Date} {hour minute second microsecond : Nat}
    {offset : Option Int} {t : DateTime} :
    make date hour minute second microsecond offset = .ok t ↔
      (∀ o ∈ offset, o.natAbs < dayLength.natAbs) ∧
        ∃ day, date = .ok day ∧ (hour ≤ 23 ∧ minute ≤ 59 ∧ second ≤ 59) ∧
          t = ⟨day, hour, minute, second, microsecond, offset.map .fixed⟩ := by
  have hclock : (do
      let day ← date
      if 23 < hour then throw CalendarError.hour
      if 59 < minute then throw .minute
      if 59 < second then throw .second
      pure ⟨day, hour, minute, second, microsecond, offset.map .fixed⟩ :
        Except CalendarError DateTime) = .ok t ↔
        ∃ day, date = .ok day ∧ (hour ≤ 23 ∧ minute ≤ 59 ∧ second ≤ 59) ∧
          t = ⟨day, hour, minute, second, microsecond, offset.map .fixed⟩ := by
    cases date with
    | error e => exact iff_of_false nofun fun ⟨_, hday, _⟩ => nomatch hday
    | ok day =>
      refine ((refuse_eq_ok_iff (23 < hour) .hour _ t).trans (and_congr_right fun _ =>
        (refuse_eq_ok_iff (59 < minute) .minute _ t).trans (and_congr_right fun _ =>
          refuse_eq_ok_iff (59 < second) .second _ t))).trans ?_
      rw [Nat.not_lt, Nat.not_lt, Nat.not_lt]
      constructor
      · rintro ⟨hhour, hminute, hsecond, hbuilt⟩
        exact ⟨day, rfl, ⟨hhour, hminute, hsecond⟩, (Except.ok.inj hbuilt).symm⟩
      · rintro ⟨_, hday, ⟨hhour, hminute, hsecond⟩, rfl⟩
        obtain rfl := Except.ok.inj hday
        exact ⟨hhour, hminute, hsecond, rfl⟩
  cases offset with
  | none => exact hclock.trans (and_iff_right nofun).symm
  | some o =>
    refine (refuse_eq_ok_iff (o.natAbs ≥ dayLength.natAbs) (.offset o) _ t).trans
      (and_congr ?_ hclock)
    rw [ge_iff_le, Nat.not_le]
    exact ⟨fun hnear o' ho' => Option.some.inj ho' ▸ hnear, fun hall => hall o rfl⟩

/-- The fraction of a second, left out if there is none. -/
def fractionText (microsecond : Nat) : String :=
  if microsecond = 0 then "" else "." ++ Text.paddedDecimal 6 microsecond

/-- The offset as hours and minutes, with seconds and a fraction only where there are some. -/
def offsetText (offset : Int) : String :=
  let size := offset.natAbs
  let seconds := size / 1000000
  let fraction := size % 1000000
  (if offset < 0 then "-" else "+") ++ Text.paddedDecimal 2 (seconds / 3600) ++ ":"
    ++ Text.paddedDecimal 2 (seconds / 60 % 60)
    ++ (if seconds % 60 = 0 ∧ fraction = 0 then ""
      else ":" ++ Text.paddedDecimal 2 (seconds % 60) ++ fractionText fraction)

/-- The time in the standard form with the given text between day and time of day. -/
def textWith (separator : String) (t : DateTime) : String :=
  t.date.text ++ separator ++ Text.paddedDecimal 2 t.hour ++ ":" ++ Text.paddedDecimal 2 t.minute
    ++ ":" ++ Text.paddedDecimal 2 t.second ++ fractionText t.microsecond
    ++ (t.offset.map offsetText).getD ""

/-- The time in the standard form. -/
def text (t : DateTime) : String := t.textWith "T"

theorem instant_ofOffset (t : DateTime) {o : Int} (h : t.offset = some o) :
    t.instant = t.wallClock - o := by
  simp [instant, h]

theorem offset_fixed {t : DateTime} {o : Int} (h : t.zone = some (.fixed o)) :
    t.offset = some o := by
  rw [offset, h]
  rfl

theorem sharesZone_comm (s t : DateTime) : s.sharesZone t = t.sharesZone s := by
  unfold sharesZone
  cases s.zone.bind TimeZone.zone? <;> cases t.zone.bind TimeZone.zone? <;>
    first | rfl | exact Bool.beq_comm

/-- Only a zone of changing distance can be shared. -/
theorem sharesZone_fixed {s : DateTime} {o : Int} (h : s.zone = some (.fixed o)) (t : DateTime) :
    s.sharesZone t = false := by
  rw [sharesZone, h]
  rfl

theorem isSome_offset (t : DateTime) : t.offset.isSome = t.zone.isSome := Option.isSome_map

/-- Times that share a zone both have an offset. -/
theorem comparable_of_sharesZone {s t : DateTime} (h : s.sharesZone t = true) :
    s.comparable t = true := by
  rw [comparable, isSome_offset, isSome_offset]
  unfold sharesZone at h
  cases hs : s.zone with
  | none => simp [hs] at h
  | some y =>
    cases ht : t.zone with
    | none => simp [ht] at h
    | some z => rfl

theorem compare?_isSome_iff (s t : DateTime) :
    (s.compare? t).isSome = true ↔ s.offset.isSome = t.offset.isSome := by
  rw [compare?]
  cases hshares : s.sharesZone t with
  | true => simpa [comparable] using comparable_of_sharesZone hshares
  | false => cases h : s.offset.isSome == t.offset.isSome <;> simp_all [comparable]

end DateTime
end Conform

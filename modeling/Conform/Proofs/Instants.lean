import Conform.Proofs.CalendarDays
import Conform.Proofs.EqualTimes
import Conform.Proofs.LeafAnswers
import Conform.Proofs.Ranges

/-
  Times of day at different places. `DateTime.atOffset` writes the instant of a time down with
  another distance from universal time, which may carry it over the end of a day, a month or a year
  (`instant_atOffset`), and a time with that distance that is the same instant is no other
  (`eq_atOffset`).

  Main result: `compared_as_instants`. Before, after and between reject where the time and the
  moment do not both have a distance or both lack it. Of a time that has one they look at the
  instant only, unless it is in one zone with the moment: there they look at the wall clock only,
  which differs from the order of the instants where clocks are put back. On the same day compares
  the days as they are written, so it is different there (`sameDay_sees_no_offset`).
-/

namespace Conform

namespace DateTime

/-- The numbers are those of a day, a time of day and a distance from universal time. -/
def IsTime (t : DateTime) : Prop :=
  make (Date.make t.date.year t.date.month t.date.day) t.hour t.minute t.second t.microsecond
    t.offset = .ok { t with zone := t.offset.map .fixed } ∧ t.microsecond ≤ 999999

theorem isTime_iff {t : DateTime} :
    t.IsTime ↔ (∀ o ∈ t.offset, o.natAbs < dayLength.natAbs) ∧ t.date.IsDay ∧
      (t.hour ≤ 23 ∧ t.minute ≤ 59 ∧ t.second ≤ 59) ∧ t.microsecond ≤ 999999 := by
  rw [IsTime, make_eq_ok_iff]
  constructor
  · rintro ⟨⟨hoffset, day, hday, hclock, hbuilt⟩, hmicrosecond⟩
    obtain rfl : t.date = day := congrArg date hbuilt
    exact ⟨hoffset, hday, hclock, hmicrosecond⟩
  · rintro ⟨hoffset, hday, hclock, hmicrosecond⟩
    exact ⟨⟨hoffset, t.date, hday, hclock, rfl⟩, hmicrosecond⟩

/-! ## Wall clocks -/

/-- The time with the given microseconds since the count of days began. -/
def ofWallClock (clock : Int) (zone : Option TimeZone) : DateTime :=
  let rest := (clock % dayLength).toNat
  ⟨.ofOrdinal (clock / dayLength).toNat, rest / 3600000000, rest / 60000000 % 60,
    rest / 1000000 % 60, rest % 1000000, zone⟩

/-- The clock shows a time on one of the days of the calendar. -/
def IsOnCalendar (clock : Int) : Prop :=
  dayLength ≤ clock ∧ clock < (Date.lastOrdinal + 1) * dayLength

theorem wallClock_ofWallClock {clock : Int} (h : dayLength ≤ clock) (zone : Option TimeZone) :
    (ofWallClock clock zone).wallClock = clock := by
  have hday : 1 ≤ (clock / dayLength).toNat := by
    unfold dayLength at h ⊢
    omega
  simp only [wallClock, ofWallClock, Date.ordinal_ofOrdinal hday]
  unfold dayLength at h ⊢
  omega

theorem isTime_ofWallClock {clock : Int} (h : IsOnCalendar clock) {zone : Option TimeZone}
    (hoffset : ∀ o ∈ (ofWallClock clock zone).offset, o.natAbs < dayLength.natAbs) :
    (ofWallClock clock zone).IsTime := by
  obtain ⟨hfirst, hlast⟩ := h
  have hday : 1 ≤ (clock / dayLength).toNat ∧ (clock / dayLength).toNat ≤ Date.lastOrdinal := by
    unfold dayLength Date.lastOrdinal at *
    omega
  refine isTime_iff.mpr ⟨hoffset, Date.isDay_ofOrdinal hday.1 hday.2, ?_⟩
  simp only [ofWallClock, dayLength]
  omega

theorem IsTime.isOnCalendar {t : DateTime} (h : t.IsTime) : IsOnCalendar t.wallClock := by
  obtain ⟨-, hday, hclock, hmicrosecond⟩ := isTime_iff.mp h
  have hbounds := hday.ordinal_bounds
  unfold IsOnCalendar wallClock dayLength Date.lastOrdinal at *
  omega

/-- A time is found by what its clock shows. -/
theorem ofWallClock_wallClock {t : DateTime} (h : t.IsTime) :
    ofWallClock t.wallClock t.zone = t := by
  obtain ⟨-, hday, ⟨hhour, hminute, hsecond⟩, hmicrosecond⟩ := isTime_iff.mp h
  have hdate : (t.wallClock / dayLength).toNat = t.date.ordinal := by
    unfold wallClock dayLength
    omega
  obtain ⟨rest, hrest⟩ : ∃ rest, (t.wallClock % dayLength).toNat = rest := ⟨_, rfl⟩
  have hsum : rest = ((t.hour * 60 + t.minute) * 60 + t.second) * 1000000 + t.microsecond := by
    rw [← hrest]
    unfold wallClock dayLength
    omega
  have hparts : rest / 3600000000 = t.hour ∧ rest / 60000000 % 60 = t.minute ∧
      rest / 1000000 % 60 = t.second ∧ rest % 1000000 = t.microsecond := by
    omega
  obtain ⟨hhour, hminute, hsecond, hmicrosecond⟩ := hparts
  simp only [ofWallClock, hdate, hrest, Date.ofOrdinal_ordinal hday, hhour, hminute, hsecond,
    hmicrosecond]

/-! ## The same instant elsewhere -/

/-- The instant of a time, written with the given distance from universal time. -/
def atOffset (t : DateTime) (o : Int) : DateTime :=
  ofWallClock (t.instant + o) (some (.fixed o))

theorem instant_atOffset {t : DateTime} {o : Int} (h : IsOnCalendar (t.instant + o)) :
    (t.atOffset o).instant = t.instant := by
  rw [instant_ofOffset (t.atOffset o) (offset_fixed rfl), atOffset, wallClock_ofWallClock h.1,
    Int.add_sub_cancel]

theorem isTime_atOffset {t : DateTime} {o : Int} (h : IsOnCalendar (t.instant + o))
    (ho : o.natAbs < dayLength.natAbs) : (t.atOffset o).IsTime := by
  refine isTime_ofWallClock h fun o' ho' => ?_
  obtain rfl : o = o' := Option.some.inj ho'
  exact ho

/-- The same instant with a given distance from universal time is written in one way only. -/
theorem eq_atOffset {s t : DateTime} (hs : s.IsTime) {o : Int} (ho : s.zone = some (.fixed o))
    (h : s.instant = t.instant) : s = t.atOffset o := by
  have hclock : s.wallClock = t.instant + o := by
    rw [← h, instant_ofOffset s (offset_fixed ho), Int.sub_add_cancel]
  rw [atOffset, ← hclock, ← ho, ofWallClock_wallClock hs]

example : (⟨⟨2023, 12, 31⟩, 22, 30, 0, 0, some (.fixed 0)⟩ : DateTime).atOffset 7200000000 =
    ⟨⟨2024, 1, 1⟩, 0, 30, 0, 0, some (.fixed 7200000000)⟩ := by decide +kernel

end DateTime

namespace DateCheck

variable {s t moment : DateTime}

theorem holds_time_of_sharesZone (h : t.sharesZone moment = true) (r : Relation) :
    holds r t (.time moment) = r.holdsFor (compare t.wallClock moment.wallClock) := by
  rw [holds, Moment.compareTo?, DateTime.compare?_of_sharesZone h]

theorem holds_time_of_not_sharesZone (h : t.sharesZone moment = false) (r : Relation) :
    holds r t (.time moment) =
      (t.comparable moment && r.holdsFor (compare t.instant moment.instant)) := by
  rw [holds, Moment.compareTo?, DateTime.compare?_of_not_sharesZone h]
  cases t.comparable moment <;> rfl

/-- A time is not compared with a moment if one of the two has an offset and the other has none. -/
theorem holds_of_mixed (h : moment.offset.isSome ≠ t.offset.isSome) (r : Relation) :
    holds r t (.time moment) = false := by
  have hother : t.comparable moment = false := beq_false_of_ne h.symm
  have hshares : t.sharesZone moment = false := Bool.eq_false_iff.mpr fun hshares =>
    Bool.eq_false_iff.mp hother (DateTime.comparable_of_sharesZone hshares)
  rw [holds_time_of_not_sharesZone hshares, hother, Bool.false_and]

/-- What the comparison with the moment sees of both times is the same: the wall clock in the zone
of the moment, and elsewhere the instant. -/
def SeenAlike (s t moment : DateTime) : Prop :=
  s.offset.isSome = t.offset.isSome ∧ s.sharesZone moment = t.sharesZone moment ∧
    if t.sharesZone moment then s.wallClock = t.wallClock else s.instant = t.instant

theorem holds_of_seenAlike (h : SeenAlike s t moment) (r : Relation) :
    holds r s (.time moment) = holds r t (.time moment) := by
  obtain ⟨hoffset, hshares, hsame⟩ := h
  cases ht : t.sharesZone moment with
  | true =>
    rw [ht] at hshares
    rw [ht, if_pos rfl] at hsame
    rw [holds_time_of_sharesZone hshares, holds_time_of_sharesZone ht, hsame]
  | false =>
    rw [ht] at hshares
    rw [ht, if_neg Bool.false_ne_true] at hsame
    rw [holds_time_of_not_sharesZone hshares, holds_time_of_not_sharesZone ht, hsame,
      DateTime.comparable, DateTime.comparable, hoffset]

end DateCheck

namespace Validator

/-- The validator compares times with the moments. -/
inductive ComparesWith (message : Option Value) : List DateTime → Validator → Prop
  | before (moment : DateTime) (inclusive : Bool) :
    ComparesWith message [moment] (isDate (.before (.time moment) inclusive) message)
  | after (moment : DateTime) (inclusive : Bool) :
    ComparesWith message [moment] (isDate (.after (.time moment) inclusive) message)
  | between {start finish : DateTime} {inclusiveStart inclusiveEnd : Bool} {v : Validator}
      (h : isDateBetween (.datetime start) (.datetime finish) inclusiveStart inclusiveEnd message =
        .ok v) :
    ComparesWith message [start, finish] v

variable {message : Option Value} {moments : List DateTime} {v : Validator}

/-- What a check of times decides at an entry point. -/
theorem verdict?_isDate (check : DateCheck) (message : Option Value) (awaiting : Bool)
    (t : DateTime) (present : Bool) :
    ((isDate check message).validated awaiting (.datetime t) present).verdict? =
      some (check.accepts t) :=
  verdict?_ofPredicate (isTotal_dated check) rfl message awaiting present

/-- A check that compares asks one relation of the time for each of its moments. -/
theorem ComparesWith.exists_relations (h : ComparesWith message moments v) :
    ∃ check : DateCheck, v = isDate check message ∧ ∃ rs : List Relation,
      rs.length = moments.length ∧ ∀ t, check.accepts t =
        (rs.zip moments).all fun asked => DateCheck.holds asked.1 t (.time asked.2) := by
  cases h with
  | before moment inclusive =>
    exact ⟨_, rfl, [DateCheck.relation .lt .le inclusive], rfl,
      fun t => (Bool.and_true _).symm⟩
  | after moment inclusive =>
    exact ⟨_, rfl, [DateCheck.relation .gt .ge inclusive], rfl,
      fun t => (Bool.and_true _).symm⟩
  | @between start finish inclusiveStart inclusiveEnd _ h =>
    refine ⟨_, eq_of_isDateBetween_times h, [DateCheck.relation .gt .ge inclusiveStart,
      DateCheck.relation .lt .le inclusiveEnd], rfl, fun t => ?_⟩
    simp [DateCheck.accepts]

/-- Before, after and between reject a time without an offset where a moment has one, and the other
way round. Two times with offsets that are the same instant they treat alike if neither is in a zone
with a moment, so the offset that an instant is written with makes no difference there; and two
times that are in one zone with all the moments if their wall clocks show the same. On the same day
compares what is written and nothing else. -/
theorem compared_as_instants (h : ComparesWith message moments v) (awaiting present : Bool)
    (t : DateTime) :
    ((∃ moment ∈ moments, moment.offset.isSome ≠ t.offset.isSome) →
      (v.validated awaiting (.datetime t) present).verdict? = some false) ∧
    (∀ s : DateTime, s.offset.isSome = true → t.offset.isSome = true → s.instant = t.instant →
      (∀ moment ∈ moments, s.sharesZone moment = false ∧ t.sharesZone moment = false) →
      (v.validated awaiting (.datetime s) present).verdict? =
        (v.validated awaiting (.datetime t) present).verdict?) ∧
    (∀ o : Int, t.offset.isSome = true → DateTime.IsOnCalendar (t.instant + o) →
      (∀ moment ∈ moments, t.sharesZone moment = false) →
      (v.validated awaiting (.datetime (t.atOffset o)) present).verdict? =
        (v.validated awaiting (.datetime t) present).verdict?) ∧
    (∀ s : DateTime, s.wallClock = t.wallClock →
      (∀ moment ∈ moments, s.sharesZone moment = true ∧ t.sharesZone moment = true) →
      (v.validated awaiting (.datetime s) present).verdict? =
        (v.validated awaiting (.datetime t) present).verdict?) ∧
    ∀ moment : DateTime,
      ((isDate (.sameDay moment) message).validated awaiting (.datetime t) present).verdict? =
        some (decide (t.date = moment.date)) := by
  obtain ⟨check, rfl, rs, hlength, haccepts⟩ := h.exists_relations
  have hsame : ∀ s : DateTime, (∀ moment ∈ moments, DateCheck.SeenAlike s t moment) →
      check.accepts s = check.accepts t := by
    intro s hseen
    rw [haccepts, haccepts, Bool.eq_iff_iff, List.all_eq_true, List.all_eq_true]
    refine forall₂_congr fun asked hasked => ?_
    rw [DateCheck.holds_of_seenAlike (hseen asked.2 (List.of_mem_zip hasked).2)]
  have hinstants : ∀ s : DateTime, s.offset.isSome = true → t.offset.isSome = true →
      s.instant = t.instant →
      (∀ moment ∈ moments, s.sharesZone moment = false ∧ t.sharesZone moment = false) →
      check.accepts s = check.accepts t := by
    intro s hs ht hinstant hzones
    refine hsame s fun moment hmoment => ⟨hs.trans ht.symm, ?_⟩
    obtain ⟨hszone, htzone⟩ := hzones moment hmoment
    rw [hszone, htzone]
    exact ⟨rfl, hinstant⟩
  simp only [verdict?_isDate, Option.some.injEq]
  refine ⟨?_, hinstants, fun o ht hcalendar hzones => ?_, fun s hclock hzones => ?_,
    fun moment => rfl⟩
  · rintro ⟨moment, hmoment, hmixed⟩
    obtain ⟨i, hi, rfl⟩ := List.getElem_of_mem hmoment
    rw [haccepts, List.all_eq_false]
    refine ⟨(rs[i], moments[i]), ?_, ?_⟩
    · rw [List.mem_iff_getElem]
      exact ⟨i, by rw [List.length_zip, hlength, Nat.min_self]; exact hi, List.getElem_zip⟩
    · rw [DateCheck.holds_of_mixed hmixed]
      exact Bool.false_ne_true
  · exact hinstants _ rfl ht (DateTime.instant_atOffset hcalendar) fun moment hmoment =>
      ⟨DateTime.sharesZone_fixed rfl moment, hzones moment hmoment⟩
  · refine hsame s fun moment hmoment => ?_
    obtain ⟨hszone, htzone⟩ := hzones moment hmoment
    have hboth : s.offset.isSome = t.offset.isSome :=
      (eq_of_beq (DateTime.comparable_of_sharesZone hszone)).trans
        (eq_of_beq (DateTime.comparable_of_sharesZone htzone)).symm
    refine ⟨hboth, hszone.trans htzone.symm, ?_⟩
    rw [htzone]
    exact hclock

/-- A zone two hours ahead whose clocks go back from three to two on the last Sunday of October. -/
def autumnZone : Zone where
  name := "autumn"
  id := 0
  earlier := ⟨7200000000, [((⟨⟨2024, 10, 27⟩, 3, 0, 0, 0, none⟩ : DateTime).wallClock, 3600000000)]⟩
  later := ⟨7200000000, [((⟨⟨2024, 10, 27⟩, 2, 0, 0, 0, none⟩ : DateTime).wallClock, 3600000000)]⟩
  eq_of_same_instant c d hc hd h := by
    have hthree : (⟨⟨2024, 10, 27⟩, 3, 0, 0, 0, none⟩ : DateTime).wallClock =
      63865681200000000 := by decide +kernel
    have htwo : (⟨⟨2024, 10, 27⟩, 2, 0, 0, 0, none⟩ : DateTime).wallClock =
      63865677600000000 := by decide +kernel
    simp only [OffsetTable.at, List.foldl_cons, List.foldl_nil, hthree, htwo] at hc hd h
    omega

/-- A quarter to three comes before the clocks go back, half past two after that. In their zone the
one is not before the other, but with universal time it is. -/
example :
    let early : DateTime := ⟨⟨2024, 10, 27⟩, 2, 45, 0, 0, some (.ruled autumnZone false)⟩
    let moment : DateTime := ⟨⟨2024, 10, 27⟩, 2, 30, 0, 0, some (.ruled autumnZone true)⟩
    (DateCheck.before (.time moment) false).accepts early = false ∧
      (DateCheck.before (.time moment) false).accepts (early.atOffset 0) = true := by
  decide +kernel

/-- Half past ten in the last night of a year, two hours behind universal time. -/
def lastNight : DateTime := ⟨⟨2023, 12, 31⟩, 23, 30, 0, 0, some (.fixed (-7200000000))⟩

/-- Universal time has the new year already, and so has the check, but not without an offset. -/
theorem compared_as_instants_over_new_year :
    ∃ v, isDateBetween (.datetime ⟨⟨2024, 1, 1⟩, 0, 0, 0, 0, some (.fixed 0)⟩)
        (.datetime ⟨⟨2024, 12, 31⟩, 0, 0, 0, 0, some (.fixed 0)⟩) true true none = .ok v ∧
      lastNight.atOffset 0 = ⟨⟨2024, 1, 1⟩, 1, 30, 0, 0, some (.fixed 0)⟩ ∧
      (v.validated true (.datetime (lastNight.atOffset 0)) true).verdict? =
        (v.validated true (.datetime lastNight) true).verdict? ∧
      (v.validated true (.datetime { lastNight.atOffset 0 with zone := none }) true).verdict? =
        some false := by
  have hforward : (Value.datetime ⟨⟨2024, 12, 31⟩, 0, 0, 0, 0, some (.fixed 0)⟩).related .lt
      (.datetime ⟨⟨2024, 1, 1⟩, 0, 0, 0, 0, some (.fixed 0)⟩) = some false := by decide +kernel
  refine ⟨_, by rw [isDateBetween, hforward]; rfl, by decide +kernel, ?_, ?_⟩
  · exact (compared_as_instants (.between (by rw [isDateBetween, hforward]; rfl)) true true
      lastNight).2.2.1 0 rfl (by unfold DateTime.IsOnCalendar; decide +kernel)
      fun moment _ => DateTime.sharesZone_fixed rfl moment
  · exact (compared_as_instants (.between (by rw [isDateBetween, hforward]; rfl)) true true
      _).1 ⟨_, List.mem_cons_self, by decide⟩

/-- A check of the day accepts a time without an offset for a moment with one. -/
theorem sameDay_sees_no_offset :
    ¬ ∀ (moment t : DateTime), moment.offset.isSome ≠ t.offset.isSome →
      ((isDate (.sameDay moment) none).validated false (.datetime t) true).verdict? =
        some false := by
  intro hrejects
  have h := hrejects ⟨⟨2024, 1, 15⟩, 10, 30, 0, 0, none⟩
    ⟨⟨2024, 1, 15⟩, 10, 30, 0, 0, some (.fixed 0)⟩ (by decide)
  rw [verdict?_isDate] at h
  cases h

end Validator
end Conform

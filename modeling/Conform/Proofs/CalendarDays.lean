import Conform.Calendar.DateTime
import Mathlib.Order.Monotone.Basic

/-
  Days by number. `Date.ordinal` counts the days of the calendar and `Date.ofOrdinal` finds the day
  with a number: first the year, by the years that begin before the day (`daysBeforeYear` grows from
  year to year), then the month, by taking the lengths of the months off. The two are inverse
  (`ordinal_ofOrdinal`, `ofOrdinal_ordinal`) between the first day of year 1 and the last of year
  9999, so that a time is the same as its day's number with its hours, minutes and so on.
-/

namespace Conform

namespace Date

/-- The numbers are those of a day. -/
def IsDay (d : Date) : Prop := Date.make d.year d.month d.day = .ok d

theorem isDay_iff {d : Date} :
    d.IsDay ↔ (1 ≤ d.year ∧ d.year ≤ 9999) ∧ (1 ≤ d.month ∧ d.month ≤ 12) ∧
      1 ≤ d.day ∧ d.day ≤ daysIn d.year d.month := by
  unfold IsDay make
  split
  · exact iff_of_false nofun (by omega)
  · split
    · exact iff_of_false nofun (by omega)
    · split
      · exact iff_of_false nofun (by omega)
      · exact iff_of_true rfl (by omega)

/-! ## Years -/

def daysOf (year : Nat) : Nat := if isLeap year then 366 else 365

theorem daysBeforeYear_succ {year : Nat} (h : 1 ≤ year) :
    daysBeforeYear (year + 1) = daysBeforeYear year + daysOf year := by
  obtain ⟨past, rfl⟩ := Nat.exists_eq_add_of_le' h
  have hleap : isLeap (past + 1) = true ↔
      (past + 1) % 4 = 0 ∧ ((past + 1) % 100 ≠ 0 ∨ (past + 1) % 400 = 0) := by
    simp [isLeap]
  have hfour : (past + 1) / 4 = past / 4 + if (past + 1) % 4 = 0 then 1 else 0 := by
    split <;> omega
  have hcentury : (past + 1) / 100 = past / 100 + if (past + 1) % 100 = 0 then 1 else 0 := by
    split <;> omega
  have hcycle : (past + 1) / 400 = past / 400 + if (past + 1) % 400 = 0 then 1 else 0 := by
    split <;> omega
  have hcenturies : (past + 1) % 100 = 0 → (past + 1) % 4 = 0 := by omega
  have hcycles : (past + 1) % 400 = 0 → (past + 1) % 100 = 0 := by omega
  have hnonneg : past / 100 ≤ past * 365 + past / 4 := by omega
  simp only [daysBeforeYear, daysOf, hleap, Nat.add_sub_cancel, hfour, hcentury, hcycle]
  -- From here on the quotients and the three conditions are all that matters.
  generalize past / 4 = fours, past / 100 = centuries, past / 400 = cycles at hnonneg ⊢
  generalize (past + 1) % 4 = four, (past + 1) % 100 = century, (past + 1) % 400 = cycle at *
  clear hfour hcentury hcycle hleap h
  split <;> split <;> split <;> split <;> omega

theorem daysBeforeYear_mono {first last : Nat} (hfirst : 1 ≤ first) (h : first ≤ last) :
    daysBeforeYear first ≤ daysBeforeYear last := by
  have hstep : ∀ year ≥ 1, daysBeforeYear year ≤ daysBeforeYear (year + 1) := by
    intro year hyear
    rw [daysBeforeYear_succ hyear]
    exact Nat.le_add_right _ _
  exact monotoneOn_nat_Ici_of_le_succ hstep hfirst (Nat.le_trans hfirst h) h

theorem daysBeforeYear_bounds (past : Nat) :
    past * 365 ≤ daysBeforeYear (past + 1) ∧ daysBeforeYear (past + 1) ≤ past * 366 := by
  simp only [daysBeforeYear]
  omega

/-- Of a condition that holds up to some number the count is that number. -/
theorem lt_length_filter_range {p : Nat → Bool} (hdown : ∀ i, p (i + 1) = true → p i = true)
    {k i : Nat} (hi : i < k) : i < ((List.range k).filter p).length ↔ p i = true := by
  have hbelow : ∀ {j m}, j ≤ m → p m = true → p j = true := by
    intro j m hjm
    induction hjm with
    | refl => exact id
    | step _ ih => exact fun hm => ih (hdown _ hm)
  have hall : ∀ {m}, p m = true → (List.range m).filter p = List.range m := fun hm =>
    List.filter_eq_self.mpr fun j hj => hbelow (Nat.le_of_lt (List.mem_range.mp hj)) hm
  induction k with
  | zero => cases hi
  | succ k ih =>
    rw [List.range_succ, List.filter_append, List.length_append]
    cases hk : p k with
    | true =>
      rw [hall hk, List.length_range, List.filter_cons, hk]
      exact iff_of_true (by simpa using hi) (hbelow (Nat.lt_succ_iff.mp hi) hk)
    | false =>
      rw [List.filter_cons, hk]
      rcases Nat.lt_succ_iff_lt_or_eq.mp hi with hlt | rfl
      · exact ih hlt
      · refine iff_of_false ?_ (by rw [hk]; exact Bool.false_ne_true)
        have hshort := List.length_filter_le p (List.range i)
        rw [List.length_range] at hshort
        exact Nat.not_lt.mpr hshort

/-- The year that holds the day with the given number. -/
def yearOf (n : Nat) : Nat :=
  let guess := (n - 1) / 366 + 1
  guess + ((List.range ((n - 1) / 365 + 1 - guess)).filter fun i =>
    daysBeforeYear (guess + i + 1) < n).length

theorem ofOrdinal_eq (n : Nat) :
    ofOrdinal n = ⟨yearOf n, (monthFrom (yearOf n) 1 (n - daysBeforeYear (yearOf n)) 12).1,
      (monthFrom (yearOf n) 1 (n - daysBeforeYear (yearOf n)) 12).2⟩ :=
  rfl

theorem one_le_yearOf (n : Nat) : 1 ≤ yearOf n :=
  Nat.le_trans (Nat.le_add_left 1 _) (Nat.le_add_right _ _)

/-- The year of a day begins before it and the next one does not. -/
theorem yearOf_spec {n : Nat} (h : 1 ≤ n) :
    daysBeforeYear (yearOf n) < n ∧ n ≤ daysBeforeYear (yearOf n + 1) := by
  obtain ⟨guess, hguess⟩ : ∃ guess, guess = (n - 1) / 366 := ⟨_, rfl⟩
  obtain ⟨tries, htries⟩ : ∃ tries, tries = (n - 1) / 365 + 1 - (guess + 1) := ⟨_, rfl⟩
  obtain ⟨count, hcount⟩ : ∃ count, count = ((List.range tries).filter fun i =>
    decide (daysBeforeYear (guess + 1 + i + 1) < n)).length := ⟨_, rfl⟩
  have hyear : yearOf n = guess + 1 + count := by
    rw [hcount, htries, hguess]
    rfl
  have hbegun : ∀ i < tries, i < count ↔ daysBeforeYear (guess + 1 + i + 1) < n := by
    intro i hi
    rw [hcount, lt_length_filter_range (fun j hj => ?_) hi, decide_eq_true_eq]
    rw [decide_eq_true_eq] at hj ⊢
    exact Nat.lt_of_le_of_lt (daysBeforeYear_mono (Nat.le_add_left 1 _) (by omega)) hj
  have hshort : count ≤ tries := by
    rw [hcount]
    exact Nat.le_trans (List.length_filter_le _ _) (Nat.le_of_eq List.length_range)
  rw [hyear]
  constructor
  · cases count with
    | zero =>
      -- No year but the guessed one has begun, and that is found from years of 366 days.
      have hlatest := (daysBeforeYear_bounds guess).2
      rw [Nat.add_zero]
      omega
    | succ last => exact (hbegun last (by omega)).mp (Nat.lt_succ_self last)
  · rcases Nat.lt_or_eq_of_le hshort with hfewer | hall
    · exact Nat.le_of_not_lt fun hlt => Nat.lt_irrefl _ ((hbegun count hfewer).mpr hlt)
    · have hearliest := (daysBeforeYear_bounds (guess + 1 + count)).1
      omega

def lastOrdinal : Nat := 3652059

theorem yearOf_le {n : Nat} (h : 1 ≤ n) (hlast : n ≤ lastOrdinal) : yearOf n ≤ 9999 := by
  refine Nat.le_of_not_lt fun hlate => ?_
  have hbefore := daysBeforeYear_mono (Nat.le_add_left 1 9999) hlate
  have hend : daysBeforeYear (9999 + 1) = lastOrdinal := rfl
  have hbegun := (yearOf_spec h).1
  omega

/-! ## Months -/

theorem daysBeforeMonth_succ (year : Nat) {month : Nat} (h : 1 ≤ month) :
    daysBeforeMonth year (month + 1) = daysBeforeMonth year month + daysIn year month := by
  obtain ⟨past, rfl⟩ := Nat.exists_eq_add_of_le' h
  simp only [daysBeforeMonth, Nat.add_sub_cancel, List.range_succ, List.foldl_append,
    List.foldl_cons, List.foldl_nil]

theorem daysBeforeMonth_mono (year : Nat) {first last : Nat} (hfirst : 1 ≤ first)
    (h : first ≤ last) : daysBeforeMonth year first ≤ daysBeforeMonth year last := by
  have hstep : ∀ month ≥ 1, daysBeforeMonth year month ≤ daysBeforeMonth year (month + 1) := by
    intro month hmonth
    rw [daysBeforeMonth_succ year hmonth]
    exact Nat.le_add_right _ _
  exact monotoneOn_nat_Ici_of_le_succ hstep hfirst (Nat.le_trans hfirst h) h

/-- Twelve months make a year. -/
theorem daysBeforeMonth_end (year : Nat) : daysBeforeMonth year 13 = daysOf year := by
  unfold daysOf
  cases hleap : isLeap year <;> simp [daysBeforeMonth, List.range_succ, daysIn, hleap]

/-- Going on by a month takes its days off, so that the day stays the same. -/
theorem monthFrom_spec {year month day fuel : Nat} (hmonth : 1 ≤ month) (hday : 1 ≤ day)
    (hfuel : month + fuel = 13)
    (hfits : daysBeforeMonth year month + day ≤ daysBeforeMonth year 13) :
    (1 ≤ (monthFrom year month day fuel).1 ∧ (monthFrom year month day fuel).1 ≤ 12) ∧
    (1 ≤ (monthFrom year month day fuel).2 ∧
      (monthFrom year month day fuel).2 ≤ daysIn year (monthFrom year month day fuel).1) ∧
    daysBeforeMonth year (monthFrom year month day fuel).1 + (monthFrom year month day fuel).2 =
      daysBeforeMonth year month + day := by
  induction fuel generalizing month day with
  | zero =>
    obtain rfl : month = 13 := hfuel
    omega
  | succ fuel ih =>
    rw [monthFrom]
    by_cases hin : day ≤ daysIn year month
    · rw [if_pos hin]
      exact ⟨⟨hmonth, by omega⟩, ⟨hday, hin⟩, rfl⟩
    · rw [if_neg hin]
      have hnext := daysBeforeMonth_succ year hmonth
      have hlater : 1 ≤ day - daysIn year month := by omega
      obtain ⟨hmonths, hdays, hsame⟩ :=
        ih (Nat.le_add_left 1 month) hlater (by omega) (by omega)
      exact ⟨hmonths, hdays, by omega⟩

/-! ## Days -/

theorem ofOrdinal_spec {n : Nat} (h : 1 ≤ n) :
    (ofOrdinal n).ordinal = n ∧ (n ≤ lastOrdinal → (ofOrdinal n).IsDay) := by
  obtain ⟨hbegun, hends⟩ := yearOf_spec h
  have hyear := daysBeforeYear_succ (one_le_yearOf n)
  have hfirst : daysBeforeMonth (yearOf n) 1 = 0 := rfl
  have hlater : 1 ≤ n - daysBeforeYear (yearOf n) := by omega
  have hfits : daysBeforeMonth (yearOf n) 1 + (n - daysBeforeYear (yearOf n)) ≤
      daysBeforeMonth (yearOf n) 13 := by
    rw [daysBeforeMonth_end]
    omega
  obtain ⟨hmonth, hday, hsame⟩ := monthFrom_spec (Nat.le_refl 1) hlater (Nat.add_comm 1 12) hfits
  rw [ofOrdinal_eq]
  generalize monthFrom (yearOf n) 1 (n - daysBeforeYear (yearOf n)) 12 = found at *
  refine ⟨?_, fun hlast => isDay_iff.mpr ⟨⟨one_le_yearOf n, yearOf_le h hlast⟩, hmonth, hday⟩⟩
  change daysBeforeYear (yearOf n) + daysBeforeMonth (yearOf n) found.1 + found.2 = n
  omega

/-- The day that is found has the number. -/
theorem ordinal_ofOrdinal {n : Nat} (h : 1 ≤ n) : (ofOrdinal n).ordinal = n := (ofOrdinal_spec h).1

theorem isDay_ofOrdinal {n : Nat} (h : 1 ≤ n) (hlast : n ≤ lastOrdinal) : (ofOrdinal n).IsDay :=
  (ofOrdinal_spec h).2 hlast

section

variable {d e : Date}

theorem IsDay.within_month (h : d.IsDay) :
    daysBeforeMonth d.year d.month < daysBeforeMonth d.year d.month + d.day ∧
      daysBeforeMonth d.year d.month + d.day ≤ daysBeforeMonth d.year (d.month + 1) := by
  obtain ⟨-, hmonth, hday⟩ := isDay_iff.mp h
  rw [daysBeforeMonth_succ d.year hmonth.1]
  omega

theorem IsDay.within_year (h : d.IsDay) :
    daysBeforeYear d.year < d.ordinal ∧ d.ordinal ≤ daysBeforeYear (d.year + 1) := by
  obtain ⟨hyear, hmonth, hday⟩ := isDay_iff.mp h
  have hmonths : daysBeforeMonth d.year (d.month + 1) ≤ daysBeforeMonth d.year 13 :=
    daysBeforeMonth_mono d.year (Nat.le_add_left 1 _) (by omega)
  have hwithin := h.within_month
  rw [daysBeforeMonth_end] at hmonths
  rw [daysBeforeYear_succ hyear.1, ordinal]
  omega

theorem IsDay.ordinal_bounds (h : d.IsDay) : 1 ≤ d.ordinal ∧ d.ordinal ≤ lastOrdinal := by
  obtain ⟨hyear, -, -⟩ := isDay_iff.mp h
  have hwithin := h.within_year
  have hend : daysBeforeYear (d.year + 1) ≤ daysBeforeYear (9999 + 1) :=
    daysBeforeYear_mono (Nat.le_add_left 1 _) (by omega)
  have hlast : daysBeforeYear (9999 + 1) = lastOrdinal := rfl
  omega

/-- Two days have two numbers. -/
theorem IsDay.eq_of_ordinal_eq (hd : d.IsDay) (he : e.IsDay) (h : d.ordinal = e.ordinal) :
    d = e := by
  have hyear : d.year = e.year := by
    obtain ⟨hyear, -, -⟩ := isDay_iff.mp hd
    obtain ⟨hyear', -, -⟩ := isDay_iff.mp he
    have hwithin := hd.within_year
    have hwithin' := he.within_year
    rcases Nat.lt_trichotomy d.year e.year with hlt | heq | hgt
    · have := daysBeforeYear_mono (Nat.le_add_left 1 d.year) (Nat.succ_le_of_lt hlt)
      omega
    · exact heq
    · have := daysBeforeYear_mono (Nat.le_add_left 1 e.year) (Nat.succ_le_of_lt hgt)
      omega
  have hrest : daysBeforeMonth d.year d.month + d.day = daysBeforeMonth d.year e.month + e.day := by
    unfold ordinal at h
    rw [← hyear] at h
    omega
  have hwithin := hd.within_month
  have hwithin' := he.within_month
  rw [← hyear] at hwithin'
  have hmonth : d.month = e.month := by
    rcases Nat.lt_trichotomy d.month e.month with hlt | heq | hgt
    · have := daysBeforeMonth_mono d.year (Nat.le_add_left 1 d.month)
        (Nat.succ_le_of_lt hlt)
      omega
    · exact heq
    · have := daysBeforeMonth_mono d.year (Nat.le_add_left 1 e.month)
        (Nat.succ_le_of_lt hgt)
      omega
  have hday : d.day = e.day := by
    rw [← hmonth] at hrest
    exact Nat.add_left_cancel hrest
  cases d
  cases e
  simp_all

/-- A day is found by its number. -/
theorem ofOrdinal_ordinal (h : d.IsDay) : ofOrdinal d.ordinal = d := by
  obtain ⟨hfirst, hlast⟩ := h.ordinal_bounds
  exact (isDay_ofOrdinal hfirst hlast).eq_of_ordinal_eq h (ordinal_ofOrdinal hfirst)

end

end Date
end Conform

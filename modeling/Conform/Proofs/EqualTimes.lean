import Conform.Calendar.DateTime

/-
  Equality of times. Times in one zone are equal if the wall clock shows the same, also where it can
  be taken in two ways; others are equal if they are the same instant and neither can be taken in
  two ways. Both together are symmetric and transitive (`equals_symm`, `equals_trans`), because in
  one zone two readings that can be taken in one way only are never the same instant.
-/

namespace Conform

namespace DateTime

variable {r s t : DateTime}

theorem sharesZone_iff :
    s.sharesZone t = true ↔
      ∃ zone later later',
        s.zone = some (.ruled zone later) ∧ t.zone = some (.ruled zone later') := by
  constructor
  · intro h
    unfold sharesZone at h
    split at h
    · next y z hy hz =>
      obtain rfl := eq_of_beq h
      obtain ⟨a, ha, hay⟩ := Option.bind_eq_some_iff.mp hy
      obtain ⟨b, hb, hby⟩ := Option.bind_eq_some_iff.mp hz
      cases a with
      | fixed => cases hay
      | ruled zone later =>
        cases b with
        | fixed => cases hby
        | ruled zone' later' =>
          obtain rfl := Option.some.inj (hay.trans hby.symm)
          exact ⟨zone, later, later', ha, hb⟩
    · cases h
  · rintro ⟨zone, later, later', hs, ht⟩
    rw [sharesZone, hs, ht]
    exact beq_self_eq_true zone

theorem sharesZone_trans (h : r.sharesZone s = true) (h' : s.sharesZone t = true) :
    r.sharesZone t = true := by
  obtain ⟨zone, later, later', hr, hs⟩ := sharesZone_iff.mp h
  obtain ⟨_, _, later'', hs', ht⟩ := sharesZone_iff.mp h'
  obtain ⟨rfl, rfl⟩ := TimeZone.ruled.inj (Option.some.inj (hs.symm.trans hs'))
  exact sharesZone_iff.mpr ⟨zone, later, later'', hr, ht⟩

theorem compare?_swap (s t : DateTime) : (s.compare? t).map Ordering.swap = t.compare? s := by
  have hswap : ∀ a b : Int, (compare a b).swap = compare b a := fun a b =>
    Std.OrientedCmp.eq_swap.symm
  rw [compare?, compare?, sharesZone_comm s t, comparable, comparable, Bool.beq_comm]
  split
  · exact congrArg some (hswap _ _)
  · split
    · exact congrArg some (hswap _ _)
    · rfl

theorem compare?_of_sharesZone (h : s.sharesZone t = true) :
    s.compare? t = some (compare s.wallClock t.wallClock) := if_pos h

theorem compare?_of_not_sharesZone (h : s.sharesZone t = false) :
    s.compare? t = if s.comparable t then some (compare s.instant t.instant) else none :=
  if_neg (Bool.eq_false_iff.mp h)

/-- Times in one zone are equal if the wall clock shows the same, others if they are the same
instant and each can be taken in one way only. -/
theorem equals_iff :
    s.equals t = true ↔
      (s.sharesZone t = true ∧ s.wallClock = t.wallClock) ∨
      (s.sharesZone t = false ∧ s.offset.isSome = t.offset.isSome ∧ s.instant = t.instant ∧
        s.isAmbiguous = false ∧ t.isAmbiguous = false) := by
  have heq : ∀ a b : Int, (some (compare a b) == some .eq) = true ↔ a = b := fun a b => by
    rw [beq_iff_eq, Option.some.injEq, Int.compare_eq_eq]
  rw [equals, Bool.and_eq_true]
  cases h : s.sharesZone t with
  | true =>
    rw [compare?_of_sharesZone h, heq]
    simp only [Bool.true_or, and_true, true_and, Bool.true_eq_false, false_and, or_false]
  | false =>
    rw [compare?_of_not_sharesZone h, comparable]
    by_cases hsome : s.offset.isSome = t.offset.isSome
    · rw [if_pos (beq_iff_eq.mpr hsome), heq]
      simp [hsome]
    · rw [if_neg fun hboth => hsome (eq_of_beq hboth)]
      simp [hsome]

theorem equals_symm (h : s.equals t = true) : t.equals s = true := by
  rw [equals_iff] at h ⊢
  rw [sharesZone_comm t s]
  obtain ⟨hshares, hclock⟩ | ⟨hshares, hsome, hinstant, hs, ht⟩ := h
  · exact .inl ⟨hshares, hclock.symm⟩
  · exact .inr ⟨hshares, hsome.symm, hinstant.symm, ht, hs⟩

/-- The same reading in the same zone stands for the same instant if it can be taken in one way
only. -/
theorem instant_eq_of_sharesZone (hshares : s.sharesZone t = true)
    (hclock : s.wallClock = t.wallClock) (h : s.isAmbiguous = false) :
    t.isAmbiguous = false ∧ s.instant = t.instant := by
  obtain ⟨zone, later, later', hs, ht⟩ := sharesZone_iff.mp hshares
  rw [isAmbiguous, hs, Option.any_some, TimeZone.isAmbiguousAt, bne_eq_false_iff_eq] at h
  rw [isAmbiguous, ht, Option.any_some, TimeZone.isAmbiguousAt, ← hclock, bne_eq_false_iff_eq]
  refine ⟨h, ?_⟩
  rw [instant, instant, offset, offset, hs, ht, ← hclock]
  cases later <;> cases later' <;> simp [TimeZone.offsetAt, h]

/-- In one zone, two readings that can be taken in one way only are the same if they stand for the
same instant. -/
theorem wallClock_eq_of_sharesZone (hshares : s.sharesZone t = true)
    (hinstant : s.instant = t.instant) (hs : s.isAmbiguous = false) (ht : t.isAmbiguous = false) :
    s.wallClock = t.wallClock := by
  obtain ⟨zone, later, later', hzone, hzone'⟩ := sharesZone_iff.mp hshares
  rw [isAmbiguous, hzone, Option.any_some, TimeZone.isAmbiguousAt, bne_eq_false_iff_eq] at hs
  rw [isAmbiguous, hzone', Option.any_some, TimeZone.isAmbiguousAt, bne_eq_false_iff_eq] at ht
  refine zone.eq_of_same_instant _ _ hs ht ?_
  rw [instant, instant, offset, offset, hzone, hzone'] at hinstant
  cases later <;> cases later' <;> simpa [TimeZone.offsetAt, hs, ht] using hinstant

theorem equals_trans (h : r.equals s = true) (h' : s.equals t = true) : r.equals t = true := by
  rw [equals_iff] at h h'
  obtain ⟨hrs, hclock⟩ | ⟨hrs, hsome, hinstant, hr, hs⟩ := h
  · obtain ⟨hst, hclock'⟩ | ⟨hst, hsome', hinstant', hs', ht⟩ := h'
    · exact equals_iff.mpr (.inl ⟨sharesZone_trans hrs hst, hclock.trans hclock'⟩)
    · have hsr : s.sharesZone r = true := (sharesZone_comm s r).trans hrs
      obtain ⟨hr, hinstant⟩ := instant_eq_of_sharesZone hsr hclock.symm hs'
      have hrt : r.sharesZone t = false := Bool.eq_false_iff.mpr fun hrt =>
        Bool.eq_false_iff.mp hst (sharesZone_trans hsr hrt)
      have hboth : r.offset.isSome = s.offset.isSome := eq_of_beq (comparable_of_sharesZone hrs)
      exact equals_iff.mpr
        (.inr ⟨hrt, hboth.trans hsome', hinstant.symm.trans hinstant', hr, ht⟩)
  · obtain ⟨hst, hclock'⟩ | ⟨hst, hsome', hinstant', hs', ht⟩ := h'
    · obtain ⟨ht, hinstant'⟩ := instant_eq_of_sharesZone hst hclock' hs
      have hrt : r.sharesZone t = false := Bool.eq_false_iff.mpr fun hrt =>
        Bool.eq_false_iff.mp hrs (sharesZone_trans hrt ((sharesZone_comm t s).trans hst))
      have hboth : s.offset.isSome = t.offset.isSome := eq_of_beq (comparable_of_sharesZone hst)
      exact equals_iff.mpr (.inr ⟨hrt, hsome.trans hboth, hinstant.trans hinstant', hr, ht⟩)
    · cases hrt : r.sharesZone t with
      | true =>
        exact equals_iff.mpr
          (.inl ⟨hrt, wallClock_eq_of_sharesZone hrt (hinstant.trans hinstant') hr ht⟩)
      | false =>
        exact equals_iff.mpr
          (.inr ⟨hrt, hsome.trans hsome', hinstant.trans hinstant', hr, ht⟩)

end DateTime

end Conform

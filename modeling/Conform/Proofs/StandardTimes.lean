import Conform.Proofs.StandardForm

/-
  Times in the standard form. A time of day is a clock in front of the first sign of an offset
  (`exists_splitOffset`), and a clock does not pass over such a sign. So universal time behind a
  time of day is its offset, and the only one (`readTime_append_universal`). `readDateTime_eq` and
  `exists_of_readDateTime` take the reading of a time apart into that of the day and what is read
  behind it; `readParts_colon`, `readParts_end` and `readParts_point` say how a clock goes on behind
  two digits.
-/

namespace Conform.Iso

open Text

/-! ## Times of day -/

/-- The byte of the sign in front of an offset to the east. -/
def plus : Nat := 0x2B

/-- Universal time as an offset. -/
def universal : List Nat := [plus, 0x30, 0x30, 0x3A, 0x30, 0x30]

theorem plus_not_isDigit : ¬ IsDigit plus := fun h => absurd h.1 (by decide)

theorem plus_mem_of_digits? {count n : Nat} {bytes rest : List Nat}
    (h : digits? count bytes = some (n, rest)) (hplus : plus ∈ bytes) : plus ∈ rest := by
  obtain ⟨digits, rfl, -, hall, -⟩ := exists_of_digits? h
  exact (List.mem_append.mp hplus).resolve_left fun hmem => plus_not_isDigit (hall plus hmem)

theorem unread_of_readFraction {followed : Bool} {bytes : List Nat} {fraction : Nat × Bool}
    (h : readFraction followed bytes = some fraction) (hplus : plus ∈ bytes) :
    fraction.2 = true := by
  obtain ⟨⟨n, rest⟩, hdigits, rfl⟩ := Option.map_eq_some_iff.mp h
  have hrest := plus_mem_of_digits? hdigits hplus
  have hkept : plus ∈ rest.dropWhile fun b => (digit? b).isSome := by
    rw [← List.takeWhile_append_dropWhile (p := fun b => (digit? b).isSome) (l := rest),
      List.mem_append] at hrest
    refine hrest.resolve_left fun hcut => ?_
    exact absurd (List.all_eq_true.mp List.all_takeWhile plus hcut) (by decide)
  have hne : (rest.dropWhile fun b => (digit? b).isSome).isEmpty = false := by
    rw [List.isEmpty_eq_false_iff]
    exact List.ne_nil_of_mem hkept
  dsimp only
  rw [hne]
  exact Bool.or_true followed

/-- A clock does not pass over a sign: it leaves something unread. -/
theorem unread_of_readParts {followed : Bool} {count : Nat} {colons? : Option Bool}
    {bytes parts : List Nat} {tail : Nat × Bool}
    (h : readParts followed count colons? bytes = some (parts, tail)) (hplus : plus ∈ bytes) :
    tail.2 = true := by
  induction count generalizing colons? bytes parts tail with
  | zero =>
    obtain ⟨⟨fraction, unread⟩, hfraction, heq⟩ := Option.map_eq_some_iff.mp h
    obtain ⟨-, rfl⟩ := Prod.mk.inj heq
    exact unread_of_readFraction hfraction hplus
  | succ count ih =>
    have hfurther : ∀ {colons : Option Bool} {bytes : List Nat} {n : Nat}, plus ∈ bytes →
        ((readParts followed count colons bytes).map fun part => (n :: part.1, part.2)) =
          some (parts, tail) → tail.2 = true := by
      intro colons bytes n hmem hread
      obtain ⟨⟨parts', tail'⟩, hparts, heq⟩ := Option.map_eq_some_iff.mp hread
      obtain ⟨-, rfl⟩ := Prod.mk.inj heq
      exact ih hparts hmem
    rw [readParts] at h
    split at h
    · cases h
    · next n hdigits => cases plus_mem_of_digits? hdigits hplus
    · next n c hdigits =>
      obtain ⟨-, rfl⟩ := Prod.mk.inj (Option.some.inj h)
      rfl
    · next n c rest _ hdigits =>
      have hrest := plus_mem_of_digits? hdigits hplus
      dsimp only at h
      split at h
      · next hcolon =>
        refine hfurther ((List.mem_cons.mp hrest).resolve_left ?_) h
        rintro rfl
        simp [plus] at hcolon
      · split at h
        · next hpoint =>
          obtain ⟨⟨fraction, unread⟩, hfraction, heq⟩ := Option.map_eq_some_iff.mp h
          obtain ⟨-, rfl⟩ := Prod.mk.inj heq
          refine unread_of_readFraction hfraction ((List.mem_cons.mp hrest).resolve_left ?_)
          rintro rfl
          simp [plus] at hpoint
        · split at h
          · exact hfurther hrest h
          · cases h

theorem unread_of_readClock {followed : Bool} {bytes : List Nat} {clock : Clock}
    (h : readClock followed bytes = some clock) (hplus : plus ∈ bytes) : clock.unread = true := by
  obtain ⟨⟨parts, fraction, unread⟩, hparts, rfl⟩ := Option.map_eq_some_iff.mp h
  exact unread_of_readParts hparts hplus

theorem readClock_nil (followed : Bool) : readClock followed [] = none := rfl

/-- A clock with the offset that follows it, if one does. -/
def withOffset (clock? : Option Clock) (signed : List Nat) : Option (Clock × Option Int) :=
  match clock?, signed with
  | none, _ => none
  | some clock, [] => if clock.unread then none else some (clock, none)
  | some clock, sign :: rest =>
    if sign = 0x5A then if rest.isEmpty then some (clock, some 0) else none
    else match readClock false rest with
      | some size =>
        let length : Int := size.length
        if size.unread then none
        else if length < 1000000 then some (clock, some 0)
        else some (clock, some (if sign = hyphen then -length else length))
      | none => none

/-- The bytes in front of an offset and those from its sign on. -/
def splitOffset (bytes : List Nat) : List Nat × List Nat :=
  if (bytes.take 1).any startsOffset then ([], bytes)
  else (bytes.take 1 ++ (bytes.drop 1).takeWhile (!startsOffset ·),
    (bytes.drop 1).dropWhile (!startsOffset ·))

theorem readTime_eq (bytes : List Nat) :
    readTime bytes = withOffset
      (readClock (!(splitOffset bytes).2.isEmpty) (splitOffset bytes).1) (splitOffset bytes).2 :=
  rfl

/-- The first byte that can start an offset does. -/
theorem splitOffset_append {before signed : List Nat}
    (hbefore : ∀ b ∈ before, startsOffset b = false)
    (hsigned : ∀ b ∈ signed.head?, startsOffset b = true) :
    splitOffset (before ++ signed) = (before, signed) := by
  cases before with
  | nil =>
    cases signed with
    | nil => rfl
    | cons b signed => simp [splitOffset, hsigned b rfl]
  | cons b before =>
    obtain ⟨hb, hrest⟩ := List.forall_mem_cons.mp hbefore
    have hpass : ∀ c ∈ before, (!startsOffset c) = true := fun c hc => by rw [hrest c hc]; rfl
    have hstop : signed.takeWhile (!startsOffset ·) = [] ∧
        signed.dropWhile (!startsOffset ·) = signed := by
      cases signed with
      | nil => exact ⟨rfl, rfl⟩
      | cons c signed => simp [hsigned c rfl]
    rw [List.cons_append, splitOffset]
    simp [hb, List.takeWhile_append_of_pos hpass, List.dropWhile_append_of_pos hpass, hstop]

/-- Any bytes fall into those without the start of an offset and those from there on. -/
theorem exists_splitOffset (bytes : List Nat) :
    ∃ before signed, bytes = before ++ signed ∧ (∀ b ∈ before, startsOffset b = false) ∧
      ∀ b ∈ signed.head?, startsOffset b = true := by
  induction bytes with
  | nil => exact ⟨[], [], rfl, nofun, nofun⟩
  | cons b bytes ih =>
    cases hb : startsOffset b with
    | true => exact ⟨[], b :: bytes, rfl, nofun, fun c hc => Option.some.inj hc ▸ hb⟩
    | false =>
      obtain ⟨before, signed, rfl, hbefore, hsigned⟩ := ih
      exact ⟨b :: before, signed, rfl, List.forall_mem_cons.mpr ⟨hb, hbefore⟩, hsigned⟩

/-- Universal time behind a time of day is its offset, and the only one. -/
theorem readTime_append_universal {bytes : List Nat} {clock : Clock} {offset : Option Int}
    (h : readTime (bytes ++ universal) = some (clock, offset)) :
    readClock true bytes = some clock ∧ offset = some 0 := by
  obtain ⟨before, signed, rfl, hbefore, hsigned⟩ := exists_splitOffset bytes
  have hsigned' : ∀ b ∈ (signed ++ universal).head?, startsOffset b = true := by
    cases signed with
    | nil => exact fun b hb => by obtain rfl := Option.some.inj hb; rfl
    | cons c signed => exact hsigned
  rw [readTime_eq, List.append_assoc, splitOffset_append hbefore hsigned'] at h
  dsimp only at h
  cases signed with
  | nil =>
    rw [List.append_nil]
    rw [List.nil_append] at h
    change withOffset (readClock true before) universal = _ at h
    cases hclock : readClock true before with
    | none =>
      rw [hclock] at h
      cases h
    | some clock' =>
      rw [hclock] at h
      have hoffset : withOffset (some clock') universal = some (clock', some 0) := rfl
      rw [hoffset] at h
      obtain ⟨rfl, rfl⟩ := Prod.mk.inj (Option.some.inj h)
      exact ⟨rfl, rfl⟩
  | cons sign signed =>
    exfalso
    have hplus : plus ∈ signed ++ universal := List.mem_append_right _ List.mem_cons_self
    cases hclock : readClock (!((sign :: signed) ++ universal).isEmpty) before with
    | none =>
      rw [hclock] at h
      cases h
    | some clock' =>
      rw [hclock, List.cons_append, withOffset] at h
      split at h
      · split at h
        · next hempty =>
          rw [List.isEmpty_iff] at hempty
          rw [hempty] at hplus
          cases hplus
        · cases h
      · split at h
        · next size hsize =>
          rw [unread_of_readClock hsize hplus] at h
          cases h
        · cases h

/-! ## Clocks of digits and marks -/

section

variable {a b : Char} {more : List Char} {followed : Bool} {count : Nat} {colons? : Option Bool}

theorem encoded_cons_of_isDigit (ha : a.isDigit = true) :
    encoded (a :: more) = a.toNat :: encoded more := by
  rw [encoded_cons, charBytes_of_isDigit ha]
  rfl

theorem encoded_of_isDigit {digits : List Char} (h : ∀ c ∈ digits, c.isDigit = true) :
    encoded digits = digits.map Char.toNat :=
  encoded_ascii fun c hc => Nat.lt_of_le_of_lt (isDigit_toNat_iff.mpr (h c hc)).2 (by decide)

theorem digits?_two_encoded (ha : a.isDigit = true) (hb : b.isDigit = true) :
    digits? 2 (encoded (a :: b :: more)) = some (valueOf [a.toNat, b.toNat], encoded more) := by
  rw [encoded_cons_of_isDigit ha, encoded_cons_of_isDigit hb]
  exact digits?_two (isDigit_toNat_iff.mpr ha) (isDigit_toNat_iff.mpr hb) _

/-- A part of a clock starts with two digits. -/
theorem exists_of_readParts {cs : List Char} {parts : List Nat} {tail : Nat × Bool}
    (h : readParts followed (count + 1) colons? (encoded cs) = some (parts, tail)) :
    ∃ a b more, cs = a :: b :: more ∧ a.isDigit = true ∧ b.isDigit = true := by
  cases hdigits : digits? 2 (encoded cs) with
  | none =>
    rw [readParts, hdigits] at h
    cases h
  | some number =>
    obtain ⟨x, y, hbytes, hx, hy, -⟩ := exists_of_digits?_two hdigits
    have hascii : ∀ z ∈ [x, y], z < 0x80 := by
      have := hx.2
      have := hy.2
      simp only [List.forall_mem_cons]
      exact ⟨by omega, by omega, nofun⟩
    have hparts : encoded cs = [x, y] ++ number.2 := hbytes
    obtain ⟨start, more, rfl, hstart, -⟩ := exists_of_encoded_eq hparts hascii
    obtain ⟨a, rest, rfl, rfl, hrest⟩ := List.map_eq_cons_iff.mp hstart
    obtain ⟨b, rfl, rfl⟩ := List.map_eq_singleton_iff.mp hrest
    exact ⟨a, b, more, rfl, isDigit_toNat_iff.mp hx, isDigit_toNat_iff.mp hy⟩

theorem exists_encoded_cons {c : Char} (hc : c.toNat < 0x80) (hmore : more ≠ []) :
    ∃ x rest, encoded (c :: more) = c.toNat :: x :: rest ∧ encoded more = x :: rest := by
  cases more with
  | nil => exact absurd rfl hmore
  | cons d more =>
    obtain ⟨x, rest, hbytes, -⟩ := characterLength_charBytes d
    refine ⟨x, rest ++ encoded more, ?_, ?_⟩
    · rw [encoded_cons, encoded_cons, charBytes_ascii hc, hbytes]
      rfl
    · rw [encoded_cons, hbytes]
      rfl

/-- Behind a colon the clock goes on. -/
theorem readParts_colon (ha : a.isDigit = true) (hb : b.isDigit = true) (hmore : more ≠ [])
    (hcolons : colons?.getD true = true) :
    readParts followed (count + 1) colons? (encoded (a :: b :: ':' :: more)) =
      (readParts followed count (some true) (encoded more)).map fun (parts, tail) =>
        (valueOf [a.toNat, b.toNat] :: parts, tail) := by
  have hcolon : ':'.toNat < 0x80 := by decide
  obtain ⟨x, rest, hbytes, hrest⟩ := exists_encoded_cons hcolon hmore
  have hcode : (':'.toNat == 0x3A) = true := rfl
  rw [readParts, digits?_two_encoded ha hb, hbytes, hrest]
  dsimp only
  rw [hcode, hcolons, Bool.true_and, if_pos rfl]

theorem readParts_end (ha : a.isDigit = true) (hb : b.isDigit = true) :
    readParts followed (count + 1) colons? (encoded [a, b]) =
      some ([valueOf [a.toNat, b.toNat]], 0, followed) := by
  rw [readParts, digits?_two_encoded ha hb]
  rfl

/-- Behind a point comes the fraction of a second. -/
theorem readParts_point (ha : a.isDigit = true) (hb : b.isDigit = true) (hmore : more ≠ []) :
    readParts followed (count + 1) (some true) (encoded (a :: b :: '.' :: more)) =
      (readFraction followed (encoded more)).map fun (fraction, unread) =>
        ([valueOf [a.toNat, b.toNat]], fraction, unread) := by
  have hpoint : '.'.toNat < 0x80 := by decide
  obtain ⟨x, rest, hbytes, hrest⟩ := exists_encoded_cons hpoint hmore
  have hcode : ('.'.toNat == 0x3A) = false ∧ ('.'.toNat == 0x2E) = true := ⟨rfl, rfl⟩
  rw [readParts, digits?_two_encoded ha hb, hbytes, hrest]
  dsimp only
  rw [hcode.1, hcode.2, Bool.and_false, if_neg Bool.false_ne_true, Bool.true_or, if_pos rfl]

theorem readFraction_encoded {digits : List Char} (h : ∀ c ∈ digits, c.isDigit = true)
    (hlength : digits.length ≤ 6) :
    readFraction followed (encoded digits) =
      some (valueOf (digits.map Char.toNat) * Nat.pow 10 (6 - digits.length), followed) := by
  have hdigits : ∀ b ∈ digits.map Char.toNat, IsDigit b := by
    intro b hb
    obtain ⟨c, hc, rfl⟩ := List.mem_map.mp hb
    exact isDigit_toNat_iff.mpr (h c hc)
  have hread := digits?_append (digits.map Char.toNat) [] hdigits
  rw [List.length_map, List.append_nil] at hread
  have hcount : min (digits.map Char.toNat).length 6 = digits.length := by
    rw [List.length_map]
    omega
  rw [readFraction, encoded_of_isDigit h]
  dsimp only
  rw [hcount, hread]
  simp

end

/-! ## Days with times -/

/-- The time of a day, a clock and an offset, if the numbers are in range. -/
def timeAt (date : Except CalendarError Date) (clock : Clock) (offset : Option Int) :
    Except Problem DateTime :=
  (DateTime.make date clock.hour clock.minute clock.second clock.microsecond offset).mapError
    .outOfRange

/-- The time of a day from the bytes behind it: a character of any kind and a time of day, or
nothing for midnight. -/
def readBehindDay (date : Except CalendarError Date) (rest : List Nat) : Except Problem DateTime :=
  match rest with
  | [] => timeAt date ⟨0, 0, 0, 0, false⟩ none
  | separator :: _ =>
    match readTime (rest.drop (characterLength separator)) with
    | none => .error .malformed
    | some (clock, offset) => timeAt date clock offset

theorem readDateTime_eq (text : String) :
    readDateTime text =
      if (bytesOf text).length < 7 then .error .malformed
      else (readDate ((bytesOf text).take (dateLength (bytesOf text)))).bind fun date =>
        readBehindDay date ((bytesOf text).drop (dateLength (bytesOf text))) := by
  unfold readDateTime readBehindDay
  rfl

theorem readBehindDay_charBytes (date : Except CalendarError Date) (c : Char) (more : List Nat) :
    readBehindDay date (charBytes c ++ more) =
      match readTime more with
      | none => .error .malformed
      | some (clock, offset) => timeAt date clock offset := by
  obtain ⟨b, rest, hbytes, hlength⟩ := characterLength_charBytes c
  have hdrop : (charBytes c ++ more).drop (characterLength b) = more := by
    rw [hlength, List.drop_left]
  rw [hbytes] at hdrop ⊢
  rw [List.cons_append] at hdrop ⊢
  rw [readBehindDay, hdrop]

theorem timeAt_eq_ok_iff {date : Except CalendarError Date} {clock : Clock} {offset : Option Int}
    {t : DateTime} :
    timeAt date clock offset = .ok t ↔
      (∀ o ∈ offset, o.natAbs < DateTime.dayLength.natAbs) ∧
        ∃ day, date = .ok day ∧ (clock.hour ≤ 23 ∧ clock.minute ≤ 59 ∧ clock.second ≤ 59) ∧
          t = ⟨day, clock.hour, clock.minute, clock.second, clock.microsecond,
            offset.map .fixed⟩ := by
  rw [← DateTime.make_eq_ok_iff, timeAt]
  cases DateTime.make date clock.hour clock.minute clock.second clock.microsecond offset with
  | error e => constructor <;> rintro ⟨⟩
  | ok t' =>
    constructor <;> intro h <;> exact congrArg Except.ok (Except.ok.inj h)

/-- A time is read from a day that is written, and what is read behind it. -/
theorem exists_of_readDateTime {cs : List Char} {t : DateTime}
    (h : readDateTime (String.ofList cs) = .ok t) :
    ∃ hyphens date, WritesDay hyphens ((encoded cs).take (dateLength (encoded cs))) [] date ∧
      readBehindDay date ((encoded cs).drop (dateLength (encoded cs))) = .ok t := by
  rw [readDateTime_eq, bytesOf_ofList] at h
  split at h
  · cases h
  · obtain ⟨date, hdate, hrest⟩ := exists_of_bind_eq_ok h
    obtain ⟨hyphens, hwrites⟩ := writesDay_take_dateLength hdate
    exact ⟨hyphens, date, hwrites, hrest⟩

end Conform.Iso

import Conform.Proofs.EncodedTexts

/-
  Days in the standard form, as bytes and as characters. `WritesDay` lists the forms of a day, a
  month or a week with hyphens or without, with the day that each one writes.

  Main results: `exists_writesDay` and `readDate_of_writesDay`, a day is read exactly where one is
  written, and `writesDay_take_dateLength`, where a time is read, the bytes that count as its day
  are the whole of one.
-/

namespace Conform.Iso

open Text

/-! ## Days -/

/-- The hyphen between the parts of a day, if hyphens are used. -/
def hyphenIf (hyphens : Bool) : List Nat := if hyphens then [hyphen] else []

theorem skipHyphen?_eq_some_iff {hyphens : Bool} {bytes rest : List Nat} :
    skipHyphen? hyphens bytes = some rest ↔ bytes = hyphenIf hyphens ++ rest := by
  cases hyphens with
  | false => cases bytes <;> simp [skipHyphen?, hyphenIf, eq_comm]
  | true =>
    cases bytes with
    | nil => simp [skipHyphen?, hyphenIf]
    | cons b bytes =>
      by_cases hb : b = hyphen
      · simp [skipHyphen?, hyphenIf, hb, eq_comm]
      · simp [skipHyphen?, hyphenIf, hb]

/-- The day of a year from the bytes after the letter for a week. -/
def readWeek (year : Nat) (hyphens : Bool) (bytes : List Nat) :
    Except Problem (Except CalendarError Date) := do
  let some (week, rest) := digits? 2 bytes | throw .malformed
  if rest.isEmpty then ofWeek year week 1
  else
    let some rest := skipHyphen? hyphens rest | throw .malformed
    let some (weekday, _) := digits? 1 rest | throw .malformed
    ofWeek year week weekday

/-- The day of a year from the bytes of a month and a day of the month. -/
def readMonth (year : Nat) (hyphens : Bool) (bytes : List Nat) :
    Except Problem (Except CalendarError Date) := do
  let some (month, rest) := digits? 2 bytes | throw .malformed
  let some rest := skipHyphen? hyphens rest | throw .malformed
  let some (day, _) := digits? 2 rest | throw .malformed
  pure (Date.make year month day)

/-- The day of a year from the bytes behind the year. -/
def readInYear (year : Nat) (bytes : List Nat) : Except Problem (Except CalendarError Date) :=
  let hyphens := bytes.head? == some hyphen
  let bytes := if hyphens then bytes.tail else bytes
  if bytes.head? = some weekMark then readWeek year hyphens bytes.tail
  else readMonth year hyphens bytes

theorem readDate_eq (bytes : List Nat) :
    readDate bytes = (do
      let some (year, rest) := digits? 4 bytes | throw .malformed
      readInYear year rest) :=
  rfl

/-- The first bytes write a day, and the last ones may follow them where a day is read. -/
inductive WritesDay (hyphens : Bool) : List Nat → List Nat → Except CalendarError Date → Prop where
  | month {y₀ y₁ y₂ y₃ m₀ m₁ d₀ d₁ : Nat} {date : Except CalendarError Date}
      (h : ∀ b ∈ [y₀, y₁, y₂, y₃, m₀, m₁, d₀, d₁], IsDigit b) (rest : List Nat)
      (hdate : date = Date.make (valueOf [y₀, y₁, y₂, y₃]) (valueOf [m₀, m₁]) (valueOf [d₀, d₁])) :
      WritesDay hyphens
        ([y₀, y₁, y₂, y₃] ++ (hyphenIf hyphens ++ ([m₀, m₁] ++ (hyphenIf hyphens ++ [d₀, d₁]))))
        rest date
  | week {y₀ y₁ y₂ y₃ w₀ w₁ : Nat} {date : Except CalendarError Date}
      (h : ∀ b ∈ [y₀, y₁, y₂, y₃, w₀, w₁], IsDigit b)
      (hdate : ofWeek (valueOf [y₀, y₁, y₂, y₃]) (valueOf [w₀, w₁]) 1 = .ok date) :
      WritesDay hyphens ([y₀, y₁, y₂, y₃] ++ (hyphenIf hyphens ++ [weekMark, w₀, w₁])) [] date
  | weekday {y₀ y₁ y₂ y₃ w₀ w₁ d : Nat} {date : Except CalendarError Date}
      (h : ∀ b ∈ [y₀, y₁, y₂, y₃, w₀, w₁, d], IsDigit b) (rest : List Nat)
      (hdate : ofWeek (valueOf [y₀, y₁, y₂, y₃]) (valueOf [w₀, w₁]) (valueOf [d]) = .ok date) :
      WritesDay hyphens
        ([y₀, y₁, y₂, y₃]
          ++ (hyphenIf hyphens ++ ([weekMark, w₀, w₁] ++ (hyphenIf hyphens ++ [d]))))
        rest date

/-- A day is read behind the year as its first byte tells, be there a hyphen or not. -/
theorem readInYear_hyphenIf {b : Nat} (h : b ≠ hyphen) (year : Nat) (hyphens : Bool)
    (bytes : List Nat) :
    readInYear year (hyphenIf hyphens ++ b :: bytes) =
      if b = weekMark then readWeek year hyphens bytes
      else readMonth year hyphens (b :: bytes) := by
  cases hyphens with
  | false => simp [readInYear, hyphenIf, beq_false_of_ne h]
  | true => simp [readInYear, hyphenIf]

theorem exists_of_readInYear {year : Nat} {bytes : List Nat} {date : Except CalendarError Date}
    (h : readInYear year bytes = .ok date) :
    ∃ hyphens rest, bytes = hyphenIf hyphens ++ rest ∧
      ((∃ weeks, rest = weekMark :: weeks ∧ readWeek year hyphens weeks = .ok date) ∨
        readMonth year hyphens rest = .ok date) := by
  obtain ⟨hyphens, rest, hbytes, hread⟩ : ∃ hyphens rest, bytes = hyphenIf hyphens ++ rest ∧
      readInYear year bytes =
        if rest.head? = some weekMark then readWeek year hyphens rest.tail
        else readMonth year hyphens rest := by
    cases bytes with
    | nil => exact ⟨false, [], rfl, rfl⟩
    | cons b bytes =>
      by_cases hb : b = hyphen
      · exact ⟨true, bytes, by rw [hb]; rfl, by simp [readInYear, hb]⟩
      · exact ⟨false, b :: bytes, rfl, by simp [readInYear, beq_false_of_ne hb]⟩
  refine ⟨hyphens, rest, hbytes, ?_⟩
  rw [h] at hread
  split at hread
  · next hmark =>
    cases rest with
    | nil => cases hmark
    | cons b rest =>
      obtain rfl := Option.some.inj hmark
      exact .inl ⟨rest, rfl, hread.symm⟩
  · exact .inr hread.symm

theorem exists_of_readMonth {year : Nat} {hyphens : Bool} {bytes : List Nat}
    {date : Except CalendarError Date} (h : readMonth year hyphens bytes = .ok date) :
    ∃ m₀ m₁ d₀ d₁ rest, bytes = [m₀, m₁] ++ (hyphenIf hyphens ++ ([d₀, d₁] ++ rest)) ∧
      (∀ b ∈ [m₀, m₁, d₀, d₁], IsDigit b) ∧
      date = Date.make year (valueOf [m₀, m₁]) (valueOf [d₀, d₁]) := by
  unfold readMonth at h
  split at h
  · next month rest hmonth =>
    split at h
    · next rest' hskip =>
      split at h
      · next day rest'' hday =>
        obtain ⟨m₀, m₁, rfl, hm₀, hm₁, rfl⟩ := exists_of_digits?_two hmonth
        obtain ⟨d₀, d₁, rfl, hd₀, hd₁, rfl⟩ := exists_of_digits?_two hday
        refine ⟨m₀, m₁, d₀, d₁, rest'', ?_, ?_, (Except.ok.inj h).symm⟩
        · rw [skipHyphen?_eq_some_iff.mp hskip]
          rfl
        · simp only [List.forall_mem_cons]
          exact ⟨hm₀, hm₁, hd₀, hd₁, nofun⟩
      · cases h
    · cases h
  · cases h

theorem exists_of_readWeek {year : Nat} {hyphens : Bool} {bytes : List Nat}
    {date : Except CalendarError Date} (h : readWeek year hyphens bytes = .ok date) :
    ∃ w₀ w₁, (IsDigit w₀ ∧ IsDigit w₁) ∧
      ((bytes = [w₀, w₁] ∧ ofWeek year (valueOf [w₀, w₁]) 1 = .ok date) ∨
        ∃ d rest, bytes = [w₀, w₁] ++ (hyphenIf hyphens ++ (d :: rest)) ∧ IsDigit d ∧
          ofWeek year (valueOf [w₀, w₁]) (valueOf [d]) = .ok date) := by
  unfold readWeek at h
  split at h
  · next week rest hweek =>
    obtain ⟨w₀, w₁, rfl, hw₀, hw₁, rfl⟩ := exists_of_digits?_two hweek
    refine ⟨w₀, w₁, ⟨hw₀, hw₁⟩, ?_⟩
    split at h
    · next hempty =>
      rw [List.isEmpty_iff] at hempty
      exact .inl ⟨by rw [hempty], h⟩
    · split at h
      · next rest' hskip =>
        split at h
        · next weekday rest'' hday =>
          obtain ⟨digits, rfl, hlength, hall, rfl⟩ := exists_of_digits? hday
          match digits, hlength with
          | [d], _ =>
            refine .inr ⟨d, rest'', ?_, hall d (by simp), h⟩
            rw [skipHyphen?_eq_some_iff.mp hskip]
            rfl
        · cases h
      · cases h
  · cases h

/-- Where a day is read, one is written. -/
theorem exists_writesDay {bytes : List Nat} {date : Except CalendarError Date}
    (h : readDate bytes = .ok date) :
    ∃ hyphens front rest, bytes = front ++ rest ∧ WritesDay hyphens front rest date := by
  rw [readDate_eq] at h
  split at h
  · next year rest hyear =>
    obtain ⟨years, rfl, hlength, hyears, rfl⟩ := exists_of_digits? hyear
    obtain ⟨hyphens, day, rfl, hday⟩ := exists_of_readInYear h
    match years, hlength with
    | [y₀, y₁, y₂, y₃], _ =>
      refine ⟨hyphens, ?_⟩
      obtain ⟨weeks, rfl, hweek⟩ | hmonth := hday
      · obtain ⟨w₀, w₁, ⟨hw₀, hw₁⟩, hforms⟩ := exists_of_readWeek hweek
        obtain ⟨rfl, hdate⟩ | ⟨d, rest, rfl, hd, hdate⟩ := hforms
        · refine ⟨_, [], (List.append_nil _).symm, .week ?_ hdate⟩
          simp only [List.forall_mem_cons] at hyears ⊢
          exact ⟨hyears.1, hyears.2.1, hyears.2.2.1, hyears.2.2.2.1, hw₀, hw₁, nofun⟩
        · refine ⟨_, rest, ?_, .weekday ?_ rest hdate⟩
          · simp only [List.append_assoc, List.cons_append, List.nil_append]
          · simp only [List.forall_mem_cons] at hyears ⊢
            exact ⟨hyears.1, hyears.2.1, hyears.2.2.1, hyears.2.2.2.1, hw₀, hw₁, hd, nofun⟩
      · obtain ⟨m₀, m₁, d₀, d₁, rest, rfl, hall, hdate⟩ := exists_of_readMonth hmonth
        refine ⟨_, rest, ?_, .month ?_ rest hdate⟩
        · simp only [List.append_assoc, List.cons_append, List.nil_append]
        · simp only [List.forall_mem_cons] at hyears hall ⊢
          exact ⟨hyears.1, hyears.2.1, hyears.2.2.1, hyears.2.2.2.1, hall⟩
  · cases h

theorem digits?_two {a b : Nat} (ha : IsDigit a) (hb : IsDigit b) (rest : List Nat) :
    digits? 2 (a :: b :: rest) = some (valueOf [a, b], rest) :=
  digits?_append [a, b] rest (by simp [ha, hb])

theorem not_hyphen_of_isDigit {b : Nat} (h : IsDigit b) : b ≠ hyphen := by
  rintro rfl
  exact absurd h.1 (by decide)

theorem not_weekMark_of_isDigit {b : Nat} (h : IsDigit b) : b ≠ weekMark := by
  rintro rfl
  exact absurd h.2 (by decide)

/-- Where a day is written, it is read. -/
theorem readDate_of_writesDay {hyphens : Bool} {front rest : List Nat}
    {date : Except CalendarError Date} (h : WritesDay hyphens front rest date) :
    readDate (front ++ rest) = .ok date := by
  have hyear : ∀ {y₀ y₁ y₂ y₃ : Nat} (bytes : List Nat),
      IsDigit y₀ → IsDigit y₁ → IsDigit y₂ → IsDigit y₃ →
      readDate ([y₀, y₁, y₂, y₃] ++ bytes) = readInYear (valueOf [y₀, y₁, y₂, y₃]) bytes := by
    intro y₀ y₁ y₂ y₃ bytes h₀ h₁ h₂ h₃
    have hdigits : digits? 4 ([y₀, y₁, y₂, y₃] ++ bytes) =
        some (valueOf [y₀, y₁, y₂, y₃], bytes) :=
      digits?_append [y₀, y₁, y₂, y₃] bytes (by simp [h₀, h₁, h₂, h₃])
    rw [readDate_eq, hdigits]
  have hweekMark : weekMark ≠ hyphen := by decide
  cases h with
  | month h _ hdate =>
    simp only [List.forall_mem_cons] at h
    obtain ⟨h₀, h₁, h₂, h₃, hm₀, hm₁, hd₀, hd₁, -⟩ := h
    simp only [List.append_assoc]
    rw [hyear _ h₀ h₁ h₂ h₃, List.cons_append, readInYear_hyphenIf (not_hyphen_of_isDigit hm₀),
      if_neg (not_weekMark_of_isDigit hm₀), readMonth]
    simp only [List.cons_append, List.nil_append]
    rw [digits?_two hm₀ hm₁]
    dsimp only
    rw [skipHyphen?_eq_some_iff.mpr rfl]
    dsimp only
    rw [digits?_two hd₀ hd₁, hdate]
    rfl
  | week h hdate =>
    simp only [List.forall_mem_cons] at h
    obtain ⟨h₀, h₁, h₂, h₃, hw₀, hw₁, -⟩ := h
    rw [List.append_nil, hyear _ h₀ h₁ h₂ h₃, readInYear_hyphenIf hweekMark, if_pos rfl, readWeek,
      digits?_two hw₀ hw₁]
    exact hdate
  | @weekday y₀ y₁ y₂ y₃ w₀ w₁ d _ h _ hdate =>
    simp only [List.forall_mem_cons] at h
    obtain ⟨h₀, h₁, h₂, h₃, hw₀, hw₁, hd, -⟩ := h
    have hmore : (hyphenIf hyphens ++ d :: rest).isEmpty = false := by cases hyphens <;> rfl
    have hday : digits? 1 (d :: rest) = some (valueOf [d], rest) :=
      digits?_append [d] rest (by simp [hd])
    simp only [List.append_assoc]
    rw [hyear _ h₀ h₁ h₂ h₃, List.cons_append, readInYear_hyphenIf hweekMark, if_pos rfl, readWeek]
    simp only [List.cons_append, List.nil_append]
    rw [digits?_two hw₀ hw₁]
    dsimp only
    rw [hmore, if_neg Bool.false_ne_true, skipHyphen?_eq_some_iff.mpr rfl]
    dsimp only
    rw [hday]
    exact hdate

/-! ## Where the day ends -/

/-- The number of digits that the bytes start with. -/
def leadingDigits (bytes : List Nat) : Nat :=
  (bytes.takeWhile fun b => (digit? b).isSome).length

theorem dateLength_le (bytes : List Nat) : dateLength bytes ≤ 10 := by
  unfold dateLength
  dsimp only
  repeat' split
  all_goals omega

/-- Behind a year without a hyphen a month takes two bytes, and so does its day. -/
theorem dateLength_month {y₀ y₁ y₂ y₃ m : Nat} {more : List Nat} (hm : IsDigit m)
    (hlength : more.length ≠ 2) : dateLength ([y₀, y₁, y₂, y₃] ++ m :: more) = 8 := by
  simp [dateLength, hlength, not_hyphen_of_isDigit hm, not_weekMark_of_isDigit hm]

/-- Behind a week without a hyphen the digits tell whether there is a day of the week. -/
theorem dateLength_week (y₀ y₁ y₂ y₃ w₀ w₁ : Nat) (more : List Nat) :
    dateLength ([y₀, y₁, y₂, y₃, weekMark, w₀, w₁] ++ more) =
      if leadingDigits more < 2 then 7 + leadingDigits more
      else if leadingDigits more % 2 = 0 then 8 else 7 := by
  cases more with
  | nil => rfl
  | cons b more =>
    have hmark : weekMark ≠ hyphen := by decide
    have hlength : ([y₀, y₁, y₂, y₃, weekMark, w₀, w₁] ++ b :: more).length ≠ 7 := by
      simp
    have hfourth : ([y₀, y₁, y₂, y₃, weekMark, w₀, w₁] ++ b :: more)[4]? = some weekMark := rfl
    have hdrop : ([y₀, y₁, y₂, y₃, weekMark, w₀, w₁] ++ b :: more).drop 7 = b :: more := rfl
    unfold dateLength
    dsimp only
    rw [if_neg hlength, hfourth, if_neg (by simpa using hmark), if_pos rfl, hdrop, leadingDigits]
    repeat' split
    all_goals omega

/-- Where a day is written with hyphens, its form tells its length. -/
theorem dateLength_hyphens {y₀ y₁ y₂ y₃ b : Nat} {more : List Nat} (hb : b ≠ weekMark)
    (hlength : more.length ≠ 1) : dateLength ([y₀, y₁, y₂, y₃, hyphen, b] ++ more) = 10 := by
  simp [dateLength, hlength, hb]

theorem leadingDigits_of_not_isDigit {b : Nat} (hb : ¬ IsDigit b) (more : List Nat) :
    leadingDigits (b :: more) = 0 := by
  have hnone : digit? b = none := if_neg hb
  rw [leadingDigits, List.takeWhile_cons, hnone]
  rfl

theorem leadingDigits_cons {d : Nat} (hd : IsDigit d) (more : List Nat) :
    leadingDigits (d :: more) = leadingDigits more + 1 := by
  rw [leadingDigits, List.takeWhile_cons, digit?_of_isDigit hd]
  rfl

/-- A time is read where the whole of what counts as the day is written as one. -/
theorem writesDay_take_dateLength {bytes : List Nat} {date : Except CalendarError Date}
    (h : readDate (bytes.take (dateLength bytes)) = .ok date) :
    ∃ hyphens, WritesDay hyphens (bytes.take (dateLength bytes)) [] date := by
  obtain ⟨hyphens, front, rest, htake, hwrites⟩ := exists_writesDay h
  have hbytes : bytes = front ++ (rest ++ bytes.drop (dateLength bytes)) := by
    rw [← List.append_assoc, ← htake, List.take_append_drop]
  have hlength : front.length + rest.length ≤ dateLength bytes := by
    rw [← List.length_append, ← htake]
    exact List.length_take_le _ _
  have hle := dateLength_le bytes
  have hnil : rest = [] := by
    rw [← List.length_eq_zero_iff]
    cases hwrites with
    | week => rfl
    | @month y₀ y₁ y₂ y₃ m₀ m₁ d₀ d₁ _ hall =>
      simp only [List.forall_mem_cons] at hall
      cases hyphens with
      | true =>
        have : 10 + rest.length ≤ dateLength bytes := hlength
        omega
      | false =>
        have hsize : 8 + rest.length ≤ dateLength bytes := hlength
        have height : dateLength bytes = 8 := by
          rw [hbytes]
          exact dateLength_month hall.2.2.2.2.1 (by simp; omega)
        omega
    | @weekday y₀ y₁ y₂ y₃ w₀ w₁ d _ hall =>
      simp only [List.forall_mem_cons] at hall
      cases hyphens with
      | true =>
        have : 10 + rest.length ≤ dateLength bytes := hlength
        omega
      | false =>
        have hsize : 8 + rest.length ≤ dateLength bytes := hlength
        have height : dateLength bytes ≤ 8 := by
          have hweek : dateLength bytes = _ := (congrArg dateLength hbytes).trans
            (dateLength_week y₀ y₁ y₂ y₃ w₀ w₁ (d :: (rest ++ bytes.drop (dateLength bytes))))
          rw [hweek]
          repeat' split
          all_goals omega
        omega
  refine ⟨hyphens, ?_⟩
  rw [htake, hnil, List.append_nil]
  rwa [hnil] at hwrites

/-- What follows a day makes no difference to it. -/
theorem WritesDay.alone {hyphens : Bool} {front rest : List Nat} {date : Except CalendarError Date}
    (h : WritesDay hyphens front rest date) : WritesDay hyphens front [] date := by
  cases h with
  | month h _ hdate => exact .month h [] hdate
  | week h hdate => exact .week h hdate
  | weekday h _ hdate => exact .weekday h [] hdate

/-- The bytes of a day are digits, hyphens and the letter for a week. -/
theorem WritesDay.mem {hyphens : Bool} {front rest : List Nat} {date : Except CalendarError Date}
    (h : WritesDay hyphens front rest date) {b : Nat} (hb : b ∈ front) :
    IsDigit b ∨ b = hyphen ∨ b = weekMark := by
  have hmark : b ∈ hyphenIf hyphens → b = hyphen := by
    cases hyphens <;> simp [hyphenIf]
  have hcases : ∀ digits : List Nat, (∀ b ∈ digits, IsDigit b) →
      (b ∈ digits ∨ b ∈ hyphenIf hyphens ∨ b = weekMark) →
      IsDigit b ∨ b = hyphen ∨ b = weekMark := by
    rintro digits hall (hdigit | hhyphen | hweek)
    · exact .inl (hall b hdigit)
    · exact .inr (.inl (hmark hhyphen))
    · exact .inr (.inr hweek)
  cases h with
  | month hall | week hall | weekday hall =>
    refine hcases _ hall ?_
    simp only [List.mem_append, List.mem_cons, List.not_mem_nil, or_false] at hb ⊢
    grind

theorem length_of_writesDay {hyphens : Bool} {front rest : List Nat}
    {date : Except CalendarError Date} (h : WritesDay hyphens front rest date) :
    7 ≤ front.length := by
  cases h <;> cases hyphens <;> exact Nat.le_of_ble_eq_true rfl

/-- The letter for universal time is no part of a day. -/
theorem not_mem_of_encoded {cs : List Char} {front rest : List Nat} {hyphens : Bool}
    {date : Except CalendarError Date} (h : WritesDay hyphens front rest date)
    (hmem : ∀ c ∈ cs, ∀ b ∈ charBytes c, b ∈ front) : 'Z' ∉ cs := by
  intro hz
  have hb : 0x5A ∈ front := hmem 'Z' hz 0x5A (by decide)
  obtain hdigit | hhyphen | hweek := h.mem hb
  · exact absurd hdigit.2 (by decide)
  · exact absurd hhyphen (by decide)
  · exact absurd hweek (by decide)

/-- The characters of a day, and those behind it. -/
theorem WritesDay.exists_text {cs : List Char} {hyphens : Bool} {front rest : List Nat}
    {date : Except CalendarError Date} (h : WritesDay hyphens front rest date) {more : List Nat}
    (hbytes : encoded cs = front ++ more) :
    ∃ start ending, cs = start ++ ending ∧ start.map Char.toNat = front ∧ encoded start = front ∧
      encoded ending = more ∧ 'Z' ∉ start := by
  have hascii : ∀ b ∈ front, b < 0x80 := by
    intro b hb
    obtain hdigit | rfl | rfl := h.mem hb
    · exact Nat.lt_of_le_of_lt hdigit.2 (by decide)
    · decide
    · decide
  obtain ⟨start, ending, rfl, hstart, hending⟩ := exists_of_encoded_eq hbytes hascii
  have hencoded : encoded start = front := by
    rw [encoded_append, hending] at hbytes
    exact List.append_cancel_right hbytes
  refine ⟨start, ending, rfl, hstart, hencoded, hending, not_mem_of_encoded h fun c hc b hb => ?_⟩
  rw [← hencoded]
  exact List.mem_flatMap.mpr ⟨c, hc, hb⟩

end Conform.Iso

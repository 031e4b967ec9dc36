import Conform.Predicate.Format
import Conform.Proofs.StandardTimes

/-
  Days with two bytes after them. The check for a day looks at the length of a text and at the day
  that it starts with, and the forms of a day differ in length. So what passes for a day is the
  whole of one, or a day of eight bytes without hyphens and two bytes more (`cases_of_isDate`).

  Main result: `readDateTime_iff_endsInTime`. With the letter for universal time written as an
  offset, such a text is read as a time in two cases only: the two bytes are that letter twice, of
  which the first one separates the day from an offset and the second one is the offset; or the day
  is one of a week, and its last digit separates the first day of that week from an hour. Texts in
  neither case are the overlong days (`isOverlongDay`).
-/

namespace Conform

namespace Iso

open Text

/-! ## Days with two bytes after them -/

theorem isDate_iff {cs : List Char} :
    isDate (String.ofList cs) = true ↔
      ((encoded cs).length = 7 ∨ (encoded cs).length = 8 ∨ (encoded cs).length = 10) ∧
        ∃ day, readDate (encoded cs) = .ok (.ok day) := by
  unfold isDate
  rw [bytesOf_ofList]
  dsimp only
  split
  · next hlength =>
    rw [and_iff_right hlength]
    split
    · next day hread => exact ⟨fun _ => ⟨day, hread⟩, fun _ => rfl⟩
    · next hother =>
      exact ⟨fun h => absurd h Bool.false_ne_true, fun ⟨day, hday⟩ => absurd hday (hother day)⟩
  · next hlength => exact ⟨fun h => absurd h Bool.false_ne_true, fun h => absurd h.1 hlength⟩

/-- A whole day has the length of its form. -/
theorem dateLength_of_writesDay {hyphens : Bool} {front : List Nat}
    {date : Except CalendarError Date} (h : WritesDay hyphens front [] date) :
    dateLength front = front.length := by
  generalize hrest : ([] : List Nat) = rest at h
  cases h with
  | @month y₀ y₁ y₂ y₃ m₀ m₁ d₀ d₁ _ hall =>
    simp only [List.forall_mem_cons] at hall
    cases hyphens with
    | true =>
      change dateLength ([y₀, y₁, y₂, y₃, hyphen, m₀] ++ [m₁, hyphen, d₀, d₁]) = 10
      exact dateLength_hyphens (not_weekMark_of_isDigit hall.2.2.2.2.1) (by simp)
    | false =>
      change dateLength ([y₀, y₁, y₂, y₃] ++ m₀ :: [m₁, d₀, d₁]) = 8
      exact dateLength_month hall.2.2.2.2.1 (by simp)
  | week => cases hyphens <;> rfl
  | @weekday y₀ y₁ y₂ y₃ w₀ w₁ d _ hall =>
    cases hyphens with
    | true => rfl
    | false =>
      have hone : leadingDigits [d] = 1 := leadingDigits_cons (hall d (by simp)) []
      change dateLength ([y₀, y₁, y₂, y₃, weekMark, w₀, w₁] ++ [d]) = 8
      rw [dateLength_week, hone]
      rfl

/-- A day that is the whole text is midnight of that day. -/
theorem readDateTime_of_writesDay {cs : List Char} {hyphens : Bool} {day : Date}
    (h : WritesDay hyphens (encoded cs) [] (.ok day)) :
    readDateTime (String.ofList (Format.withUniversalOffset cs)) = .ok (.ofDate day) := by
  have hz : 'Z' ∉ cs := not_mem_of_encoded h fun c hc b hb => List.mem_flatMap.mpr ⟨c, hc, hb⟩
  have hread := readDate_of_writesDay h
  have hlong : ¬ (encoded cs).length < 7 := Nat.not_lt.mpr (length_of_writesDay h)
  rw [List.append_nil] at hread
  rw [Format.withUniversalOffset_of_not_mem hz, readDateTime_eq, bytesOf_ofList, if_neg hlong,
    dateLength_of_writesDay h, List.take_length, List.drop_length, hread]
  rfl

theorem readTime_singleton (b : Nat) : readTime [b] = none := by
  cases hb : startsOffset b with
  | true => simp [readTime_eq, splitOffset, hb, readClock_nil, withOffset]
  | false =>
    have hshort : readClock false [b] = none := by
      simp [readClock, readParts, digits?]
    simp [readTime_eq, splitOffset, hb, hshort, withOffset]

theorem length_charBytes (c : Char) :
    if c.toNat < 0x80 then (charBytes c).length = 1 else 2 ≤ (charBytes c).length := by
  split
  · next h =>
    rw [charBytes_ascii h]
    rfl
  · next h =>
    obtain ⟨b, rest, -, hlarge, hlength⟩ := charBytes_beyond h
    rw [← hlength, characterLength, if_neg (by omega)]
    repeat' split
    all_goals omega

/-- Two bytes are one character from beyond ASCII or two of ASCII. -/
theorem cases_of_length_encoded {cs : List Char} (h : (encoded cs).length = 2) :
    (∃ c, cs = [c] ∧ ¬ c.toNat < 0x80) ∨ ∃ a b, cs = [a, b] ∧ a.toNat < 0x80 ∧ b.toNat < 0x80 := by
  have hone : ∀ c, 1 ≤ (charBytes c).length := by
    intro c
    have := length_charBytes c
    split at this <;> omega
  cases cs with
  | nil => cases h
  | cons a cs =>
    have ha := length_charBytes a
    rw [encoded_cons, List.length_append] at h
    cases cs with
    | nil =>
      refine .inl ⟨a, rfl, fun hascii => ?_⟩
      rw [if_pos hascii] at ha
      rw [ha] at h
      cases h
    | cons b cs =>
      have hb := length_charBytes b
      rw [encoded_cons, List.length_append] at h
      have ha' := hone a
      have hb' := hone b
      have hnil : cs = [] := by
        cases cs with
        | nil => rfl
        | cons c cs =>
          have := hone c
          rw [encoded_cons, List.length_append] at h
          omega
      refine .inr ⟨a, b, by rw [hnil], ?_, ?_⟩
      · split at ha
        · assumption
        · omega
      · split at hb
        · assumption
        · omega

/-- The bytes of a text with universal time written as an offset. -/
def standardBytes (cs : List Char) : List Nat := encoded (Format.withUniversalOffset cs)

theorem standardBytes_letter (cs : List Char) :
    standardBytes ('Z' :: cs) = universal ++ standardBytes cs := by
  have huniversal : encoded "+00:00".toList = universal := by decide
  rw [standardBytes, Format.withUniversalOffset_letter, encoded_append, huniversal]
  rfl

theorem standardBytes_cons {c : Char} (h : c ≠ 'Z') (cs : List Char) :
    standardBytes (c :: cs) = charBytes c ++ standardBytes cs := by
  rw [standardBytes, Format.withUniversalOffset_cons h, encoded_cons]
  rfl

theorem ne_letter_of_beyond {c : Char} (h : ¬ c.toNat < 0x80) : c ≠ 'Z' := by
  rintro rfl
  exact h (by decide)

/-- Two more bytes behind a day make a time of it if they are the letter for universal time twice:
the first one separates the time of day that the second one is the offset of. -/
theorem readBehindDay_two {ending : List Char} (h : (encoded ending).length = 2) (day : Date) :
    (∃ t, readBehindDay (.ok day) (standardBytes ending) = .ok t) ↔ ending = ['Z', 'Z'] := by
  have hfails : ∀ c more, readTime more = none →
      ¬ ∃ t, readBehindDay (.ok day) (charBytes c ++ more) = .ok t := by
    rintro c more hmore ⟨t, ht⟩
    rw [readBehindDay_charBytes, hmore] at ht
    cases ht
  obtain ⟨c, rfl, hc⟩ | ⟨a, b, rfl, ha, hb⟩ := cases_of_length_encoded h
  · rw [standardBytes_cons (ne_letter_of_beyond hc)]
    exact iff_of_false (hfails c [] rfl) (by simp)
  · by_cases haz : a = 'Z'
    · have hsign : universal = charBytes '+' ++ [0x30, 0x30, 0x3A, 0x30, 0x30] := by decide
      subst haz
      rw [standardBytes_letter, hsign, List.append_assoc]
      by_cases hbz : b = 'Z'
      · subst hbz
        refine iff_of_true ⟨⟨day, 0, 0, 0, 0, some (.fixed 0)⟩, ?_⟩ rfl
        rw [readBehindDay_charBytes, standardBytes_letter]
        rfl
      · rw [standardBytes_cons hbz, charBytes_ascii hb]
        have hnone : ∀ n < 0x80, n ≠ 0x5A →
            (readTime ([0x30, 0x30, 0x3A, 0x30, 0x30] ++ [n])).isNone = true := by decide +kernel
        have hcode : b.toNat ≠ 'Z'.toNat := fun hsame => hbz (Char.toNat_inj.mp hsame)
        exact iff_of_false (hfails '+' _ (Option.isNone_iff_eq_none.mp (hnone _ hb hcode)))
          (by simp [hbz])
    · rw [standardBytes_cons haz]
      refine iff_of_false (hfails a _ ?_) (by simp [haz])
      by_cases hbz : b = 'Z'
      · rw [hbz, standardBytes_letter]
        rfl
      · rw [standardBytes_cons hbz, charBytes_ascii hb]
        exact readTime_singleton _

/-- Where the day ends, the rest of the text is read behind it. -/
theorem readDateTime_of_dateLength {cs : List Char} {front rest : List Nat}
    (hbytes : encoded cs = front ++ rest) (hlength : dateLength (front ++ rest) = front.length)
    (hlong : 7 ≤ front.length) :
    readDateTime (String.ofList cs) =
      (readDate front).bind fun date => readBehindDay date rest := by
  have hlong' : ¬ (front ++ rest).length < 7 := by
    rw [List.length_append]
    omega
  rw [readDateTime_eq, bytesOf_ofList, hbytes, if_neg hlong', hlength, List.take_left,
    List.drop_left]

/-- The two characters are the digits of an hour. -/
def isHour : List Char → Bool
  | [a, b] => a.isDigit && b.isDigit && (a.toNat - 0x30) * 10 + (b.toNat - 0x30) ≤ 23
  | _ => false

/-- Whether a day without hyphens and two more bytes are read as a time: the letter for universal
time twice, or an hour behind a week, whose day of the week separates them. -/
def endsInTime (text : List Char) : Bool :=
  text.drop 8 == ['Z', 'Z']
    || text[4]? == some 'W' && isDate (String.ofList (text.take 7)) && isHour (text.drop 8)

/-- A week, the digit that separates, and two digits: an hour of the first day of the week. -/
theorem readBehindDay_hour {d a b : Nat} (hd : IsDigit d) (ha : IsDigit a) (hb : IsDigit b)
    (date : Except CalendarError Date) :
    (∃ t, readBehindDay date [d, a, b] = .ok t) ↔
      (∃ day, date = .ok day) ∧ valueOf [a, b] ≤ 23 := by
  have hascii : d < 0x80 := by
    have := hd.2
    omega
  have hsign : startsOffset a = false ∧ startsOffset b = false := by
    unfold IsDigit at ha hb
    simp only [startsOffset, hyphen, Bool.or_eq_false_iff, beq_eq_false_iff_ne]
    omega
  have hclock : readClock false [a, b] = some ⟨valueOf [a, b], 0, 0, 0, false⟩ := by
    rw [readClock, readParts, digits?_two ha hb]
    rfl
  have htime : readTime [a, b] = some (⟨valueOf [a, b], 0, 0, 0, false⟩, none) := by
    have hsplit : splitOffset ([a, b] ++ []) = ([a, b], []) :=
      splitOffset_append (by simp [hsign]) (fun b hb => by cases hb)
    rw [List.append_nil] at hsplit
    rw [readTime_eq, hsplit]
    change withOffset (readClock false [a, b]) [] = _
    rw [hclock]
    rfl
  have hread : readBehindDay date [d, a, b] =
      timeAt date ⟨valueOf [a, b], 0, 0, 0, false⟩ none := by
    have hdrop : [d, a, b].drop (characterLength d) = [a, b] := by
      rw [characterLength, if_pos hascii]
      rfl
    rw [readBehindDay, hdrop, htime]
  rw [hread]
  simp only [timeAt_eq_ok_iff]
  constructor
  · rintro ⟨t, -, day, hday, hhour, -⟩
    exact ⟨⟨day, hday⟩, hhour.1⟩
  · rintro ⟨⟨day, hday⟩, hhour⟩
    exact ⟨_, (fun o ho => by cases ho), day, hday, ⟨hhour, Nat.zero_le _, Nat.zero_le _⟩, rfl⟩

/-- Of two bytes both are digits, or the digits end before the second one. -/
theorem leadingDigits_two {ending : List Char} (h : (encoded ending).length = 2) :
    (∃ a b, ending = [a, b] ∧ a.isDigit = true ∧ b.isDigit = true) ∨
      isHour ending = false ∧ leadingDigits (standardBytes ending) ≤ 1 := by
  have hnone : ∀ b more, ¬ IsDigit b → leadingDigits (b :: more) ≤ 1 := fun b more hb => by
    rw [leadingDigits_of_not_isDigit hb]
    exact Nat.zero_le 1
  obtain ⟨c, rfl, hc⟩ | ⟨a, b, rfl, ha, hb⟩ := cases_of_length_encoded h
  · obtain ⟨first, rest, hbytes, hlarge, -⟩ := charBytes_beyond hc
    refine .inr ⟨rfl, ?_⟩
    rw [standardBytes_cons (ne_letter_of_beyond hc), hbytes, List.cons_append]
    exact hnone _ _ fun hdigit => by have := hdigit.2; omega
  · by_cases hda : a.isDigit = true
    · by_cases hdb : b.isDigit = true
      · exact .inl ⟨a, b, rfl, hda, hdb⟩
      · refine .inr ⟨by rw [isHour, Bool.eq_false_iff.mpr hdb, Bool.and_false]; rfl, ?_⟩
        have hne : a ≠ 'Z' := by
          rintro rfl
          cases hda
        have hlast : leadingDigits (standardBytes [b]) = 0 := by
          by_cases hbz : b = 'Z'
          · rw [hbz, standardBytes_letter]
            rfl
          · rw [standardBytes_cons hbz, charBytes_ascii hb]
            exact leadingDigits_of_not_isDigit (mt isDigit_toNat_iff.mp hdb) _
        have hone : leadingDigits (a.toNat :: standardBytes [b]) = 0 + 1 := by
          rw [← hlast]
          exact leadingDigits_cons (isDigit_toNat_iff.mpr hda) _
        rw [standardBytes_cons hne, charBytes_ascii ha, List.singleton_append]
        exact Nat.le_of_eq hone
    · refine .inr ⟨by rw [isHour, Bool.eq_false_iff.mpr hda, Bool.false_and]; rfl, ?_⟩
      by_cases haz : a = 'Z'
      · rw [haz, standardBytes_letter]
        exact hnone plus _ plus_not_isDigit
      · rw [standardBytes_cons haz, charBytes_ascii ha]
        exact hnone _ _ (mt isDigit_toNat_iff.mp hda)

/-- A day of a week takes its one digit, unless two more digits follow it. -/
theorem dateLength_weekday {d : Nat} (hd : IsDigit d) {more : List Nat}
    (hmore : leadingDigits more ≤ 1) (y₀ y₁ y₂ y₃ w₀ w₁ : Nat) :
    dateLength ([y₀, y₁, y₂, y₃, weekMark, w₀, w₁] ++ d :: more) = 8 := by
  rw [dateLength_week, leadingDigits_cons hd]
  split
  · omega
  · rw [if_pos (by omega)]

/-- A week, and behind it a digit to separate the two digits of an hour. -/
theorem readDateTime_week_hour {week : List Char} {y₀ y₁ y₂ y₃ w₀ w₁ : Nat}
    (hweek : encoded week = [y₀, y₁, y₂, y₃, weekMark, w₀, w₁]) {c a b : Char}
    (hc : c.isDigit = true) (ha : a.isDigit = true) (hb : b.isDigit = true) :
    (∃ t, readDateTime (String.ofList (week ++ [c, a, b])) = .ok t) ↔
      isDate (String.ofList week) = true ∧ isHour [a, b] = true := by
  have hbytes : encoded (week ++ [c, a, b]) =
      [y₀, y₁, y₂, y₃, weekMark, w₀, w₁] ++ [c.toNat, a.toNat, b.toNat] := by
    simp [encoded_append, encoded_cons, hweek, charBytes_of_isDigit hc, charBytes_of_isDigit ha,
      charBytes_of_isDigit hb]
  have hdigits : leadingDigits [c.toNat, a.toNat, b.toNat] = 3 := by
    rw [leadingDigits_cons (isDigit_toNat_iff.mpr hc),
      leadingDigits_cons (isDigit_toNat_iff.mpr ha), leadingDigits_cons (isDigit_toNat_iff.mpr hb)]
    rfl
  have hsize :
      dateLength ([y₀, y₁, y₂, y₃, weekMark, w₀, w₁] ++ [c.toNat, a.toNat, b.toNat]) = 7 := by
    rw [dateLength_week, hdigits]
    rfl
  have hhour : isHour [a, b] = true ↔ valueOf [a.toNat, b.toNat] ≤ 23 := by
    have hvalue : valueOf [a.toNat, b.toNat] = (a.toNat - 0x30) * 10 + (b.toNat - 0x30) := by
      simp [valueOf, numberOf]
    rw [hvalue, isHour, ha, hb, Bool.true_and, Bool.true_and, decide_eq_true_eq]
  have hbehind : ∀ date, (∃ t, readBehindDay date [c.toNat, a.toNat, b.toNat] = .ok t) ↔
      (∃ day, date = .ok day) ∧ isHour [a, b] = true := by
    intro date
    rw [hhour]
    exact readBehindDay_hour (isDigit_toNat_iff.mpr hc) (isDigit_toNat_iff.mpr ha)
      (isDigit_toNat_iff.mpr hb) date
  rw [readDateTime_of_dateLength hbytes hsize (Nat.le_refl 7), isDate_iff, hweek]
  constructor
  · rintro ⟨t, ht⟩
    obtain ⟨date, hdate, ht⟩ := exists_of_bind_eq_ok ht
    obtain ⟨⟨day, rfl⟩, hhour⟩ := (hbehind date).mp ⟨t, ht⟩
    exact ⟨⟨.inl rfl, day, hdate⟩, hhour⟩
  · rintro ⟨⟨-, day, hday⟩, hhour⟩
    rw [hday]
    exact (hbehind (.ok day)).mpr ⟨⟨day, rfl⟩, hhour⟩

/-- The fifth character of a text that starts with a day tells the forms of days apart. -/
theorem WritesDay.exists_fifth {cs : List Char} {hyphens : Bool} {front rest : List Nat}
    {date : Except CalendarError Date} (h : WritesDay hyphens front rest date) {more : List Nat}
    (hbytes : encoded cs = front ++ more) :
    ∃ c, cs[4]? = some c ∧ front[4]? = some c.toNat := by
  obtain ⟨start, ending, rfl, hstart, -⟩ := h.exists_text hbytes
  have hlong := length_of_writesDay h
  have hlength : start.length = front.length := by rw [← hstart, List.length_map]
  have hfour : 4 < start.length := by omega
  refine ⟨start[4], ?_, ?_⟩
  · rw [List.getElem?_append_left hfour, List.getElem?_eq_getElem hfour]
  · rw [← hstart, List.getElem?_map, List.getElem?_eq_getElem hfour]
    rfl

section

variable {start ending : List Char} {front : List Nat} {day : Date}

/-- Where the eight bytes of a day count as the day, two more make a time of it if they are the
letter for universal time twice. -/
theorem readDateTime_iff_letters (h : WritesDay false front [] (.ok day))
    (hstart : encoded start = front) (hz : 'Z' ∉ start) (hending : (encoded ending).length = 2)
    (hsize : dateLength (front ++ standardBytes ending) = front.length) :
    (∃ t, readDateTime (String.ofList (Format.withUniversalOffset (start ++ ending))) = .ok t) ↔
      ending = ['Z', 'Z'] := by
  have hwhole : encoded (Format.withUniversalOffset (start ++ ending)) =
      front ++ standardBytes ending := by
    rw [Format.withUniversalOffset_append, Format.withUniversalOffset_of_not_mem hz, encoded_append,
      hstart, standardBytes]
  have hday := readDate_of_writesDay h
  rw [List.append_nil] at hday
  rw [readDateTime_of_dateLength hwhole hsize (length_of_writesDay h), hday]
  exact readBehindDay_two hending day

/-- Where two digits follow a day of a week, they are the hour of the first day of that week. -/
theorem readDateTime_iff_hour {y₀ y₁ y₂ y₃ w₀ w₁ d : Nat} {a b : Char}
    (hstart : start.map Char.toNat = [y₀, y₁, y₂, y₃, weekMark, w₀, w₁] ++ [d])
    (hencoded : encoded start = [y₀, y₁, y₂, y₃, weekMark, w₀, w₁] ++ [d]) (hz : 'Z' ∉ start)
    (hd : IsDigit d) (ha : a.isDigit = true) (hb : b.isDigit = true) :
    (∃ t, readDateTime (String.ofList (Format.withUniversalOffset (start ++ [a, b]))) = .ok t) ↔
      isDate (String.ofList (start.take 7)) = true ∧ isHour [a, b] = true := by
  obtain ⟨week, tail, rfl, hweek, htail⟩ := List.map_eq_append_iff.mp hstart
  obtain ⟨c, rfl, rfl⟩ := List.map_eq_singleton_iff.mp htail
  have hc := isDigit_toNat_iff.mp hd
  have hseven : week.length = 7 := by
    rw [← List.length_map Char.toNat, hweek]
    rfl
  have hweek' : encoded week = [y₀, y₁, y₂, y₃, weekMark, w₀, w₁] := by
    rw [encoded_append, encoded_cons, charBytes_of_isDigit hc] at hencoded
    exact (List.append_left_inj [c.toNat]).mp hencoded
  have hkept : Format.withUniversalOffset ((week ++ [c]) ++ [a, b]) = week ++ [c, a, b] := by
    rw [List.append_assoc]
    refine Format.withUniversalOffset_of_not_mem fun hmem => ?_
    obtain hweek | hdigits := List.mem_append.mp hmem
    · exact hz (List.mem_append_left _ hweek)
    · have hall : ∀ e ∈ [c, a, b], e.isDigit = true := by simp [hc, ha, hb]
      exact absurd (hall 'Z' hdigits) (by decide)
  rw [hkept, readDateTime_week_hour hweek' hc ha hb, ← hseven, List.take_left]

end

/-- A day without hyphens and two more bytes are read as a time where they end in one. -/
theorem readDateTime_iff_endsInTime {cs : List Char} {front rest : List Nat} {day : Date}
    (hbytes : encoded cs = front ++ rest) (hrest : rest.length = 2) (height : front.length = 8)
    (h : WritesDay false front rest (.ok day)) :
    (∃ t, readDateTime (String.ofList (Format.withUniversalOffset cs)) = .ok t) ↔
      endsInTime cs = true := by
  obtain ⟨start, ending, rfl, hstart, hencoded, hending, hz⟩ := h.exists_text hbytes
  have hrest' : (encoded ending).length = 2 := by rw [hending, hrest]
  have hlength : start.length = 8 := by rw [← height, ← hstart, List.length_map]
  have hlast : (start ++ ending).drop 8 = ending := by rw [← hlength, List.drop_left]
  have hfirst : (start ++ ending).take 7 = start.take 7 :=
    List.take_append_of_le_length (by omega)
  obtain ⟨c, hc, hfront⟩ := h.exists_fifth hbytes
  have hfifth : ∀ b, front[4]? = some b →
      ((start ++ ending)[4]? == some 'W') = (b == weekMark) := by
    intro b hb
    obtain rfl := Option.some.inj (hfront.symm.trans hb)
    rw [hc]
    change (c == 'W') = (c.toNat == 'W'.toNat)
    rw [Bool.eq_iff_iff, beq_iff_eq, beq_iff_eq]
    exact Char.toNat_inj.symm
  have hletters := readDateTime_iff_letters h.alone hencoded hz hrest'
  rw [endsInTime, hlast, hfirst]
  cases h with
  | @month y₀ y₁ y₂ y₃ m₀ m₁ d₀ d₁ _ hall =>
    simp only [List.forall_mem_cons] at hall
    have hmonth := hall.2.2.2.2.1
    have hsize : dateLength ([y₀, y₁, y₂, y₃] ++ m₀ ::
        ([m₁, d₀, d₁] ++ standardBytes ending)) = 8 :=
      dateLength_month hmonth (by simp)
    rw [hletters hsize, hfifth m₀ rfl, beq_false_of_ne (not_weekMark_of_isDigit hmonth),
      Bool.false_and, Bool.false_and, Bool.or_false, beq_iff_eq]
  | week => cases hrest
  | @weekday y₀ y₁ y₂ y₃ w₀ w₁ d _ hall =>
    simp only [List.forall_mem_cons] at hall
    have hd := hall.2.2.2.2.2.2.1
    rw [hfifth weekMark rfl, beq_self_eq_true, Bool.true_and]
    obtain ⟨a, b, rfl, hda, hdb⟩ | ⟨hhour, hcount⟩ := leadingDigits_two hrest'
    · have hnoletters : ([a, b] == ['Z', 'Z']) = false := by
        refine beq_false_of_ne fun heq => ?_
        rw [(List.cons.inj heq).1] at hda
        cases hda
      rw [readDateTime_iff_hour hstart hencoded hz hd hda hdb, hnoletters, Bool.false_or,
        Bool.and_eq_true]
    · have hsize := dateLength_weekday hd hcount y₀ y₁ y₂ y₃ w₀ w₁
      rw [hletters hsize, hhour, Bool.and_false, Bool.or_false, beq_iff_eq]

/-- What counts as a day is the whole of one, or a day without hyphens and two more bytes, which
are not looked at. -/
theorem cases_of_isDate {cs : List Char} (h : isDate (String.ofList cs) = true) :
    ∃ hyphens day front rest, encoded cs = front ++ rest ∧ WritesDay hyphens front rest (.ok day) ∧
      (rest = [] ∨ hyphens = false ∧ front.length = 8 ∧ rest.length = 2) := by
  obtain ⟨hlength, day, hread⟩ := isDate_iff.mp h
  obtain ⟨hyphens, front, rest, hbytes, hwrites⟩ := exists_writesDay hread
  refine ⟨hyphens, day, front, rest, hbytes, hwrites, ?_⟩
  rw [hbytes, List.length_append] at hlength
  have hnil : rest.length = 0 → rest = [] := List.length_eq_zero_iff.mp
  cases hwrites with
  | week => exact .inl rfl
  | month | weekday =>
    cases hyphens with
    | true =>
      have hlength' : 10 + rest.length = 7 ∨ 10 + rest.length = 8 ∨ 10 + rest.length = 10 := hlength
      exact .inl (hnil (by omega))
    | false =>
      have hlength' : 8 + rest.length = 7 ∨ 8 + rest.length = 8 ∨ 8 + rest.length = 10 := hlength
      by_cases hrest : rest.length = 0
      · exact .inl (hnil hrest)
      · exact .inr ⟨rfl, rfl, by omega⟩

/-- A text of ten bytes that counts as a day though the day is written in the first eight of them,
without hyphens, and the last two bytes do not make a time of it. -/
def isOverlongDay (text : List Char) : Bool :=
  (encoded text).length == 10 && text[4]? != some '-' && isDate (String.ofList text)
    && !endsInTime text

theorem isOverlongDay_of_whole {cs : List Char} {hyphens : Bool} {day : Date}
    (h : WritesDay hyphens (encoded cs) [] (.ok day)) : isOverlongDay cs = false := by
  obtain ⟨c, hc, hfifth⟩ := h.exists_fifth (List.append_nil _).symm
  have hten : hyphens = true ∨ (encoded cs).length ≠ 10 := by
    cases hyphens with
    | true => exact .inl rfl
    | false =>
      refine .inr ?_
      generalize encoded cs = front at h
      cases h <;> exact Nat.ne_of_beq_eq_false rfl
  obtain rfl | hlength := hten
  · have hmark : c = '-' := by
      have hbyte : (encoded cs)[4]? = some hyphen := by
        generalize encoded cs = front at h
        cases h <;> rfl
      exact Char.toNat_inj.mp (Option.some.inj (hfifth.symm.trans hbyte))
    rw [isOverlongDay, hc, hmark, bne_self_eq_false, Bool.and_false, Bool.false_and, Bool.false_and]
  · rw [isOverlongDay, beq_false_of_ne hlength, Bool.false_and, Bool.false_and, Bool.false_and]

/-- Behind eight bytes without hyphens the fifth character is no separator. -/
theorem exists_fifth_of_eight {cs : List Char} {front rest : List Nat}
    {date : Except CalendarError Date} (h : WritesDay false front rest date)
    (hbytes : encoded cs = front ++ rest) : ∃ c, cs[4]? = some c ∧ c ≠ '-' ∧ c ≠ '/' := by
  obtain ⟨c, hc, hfifth⟩ := h.exists_fifth hbytes
  have hbyte : IsDigit c.toNat ∨ c.toNat = weekMark := by
    cases h with
    | month hall => exact .inl (Option.some.inj hfifth ▸ hall _ (by simp))
    | week | weekday => exact .inr (Option.some.inj hfifth).symm
  refine ⟨c, hc, ?_, ?_⟩ <;> rintro rfl <;> revert hbyte <;> decide

theorem isOverlongDay_of_eight {cs : List Char} {front rest : List Nat} {day : Date}
    (h : WritesDay false front rest (.ok day)) (hbytes : encoded cs = front ++ rest)
    (hfront : front.length = 8) (hrest : rest.length = 2)
    (hdate : isDate (String.ofList cs) = true) : isOverlongDay cs = !endsInTime cs := by
  obtain ⟨c, hc, hhyphen, -⟩ := exists_fifth_of_eight h hbytes
  have hlength : (encoded cs).length = 10 := by rw [hbytes, List.length_append, hfront, hrest]
  have hmark : (some c != some '-') = true :=
    bne_iff_ne.mpr fun heq => hhyphen (Option.some.inj heq)
  rw [isOverlongDay, hlength, hc, hmark, hdate, beq_self_eq_true, Bool.true_and, Bool.true_and,
    Bool.true_and]

end Iso

end Conform

import Conform.Proofs.ConvertedTexts
import Conform.Proofs.LayoutTexts
import Conform.Proofs.StandardTimes

/-
  Universal time as an offset and as a letter. A text with the offset behind it has a plus sign,
  which no layout reads, so it is read in the standard form. With the letter behind it the text may
  fit a layout, where the letter is a mark and nothing more; else it is read in the standard form,
  the letter being written as the offset first.

  Main result: `both_spellings_of_universal_time`. Where a layout and the standard form both read a
  text, they read the same numbers (`eq_of_lettered_reads`): a day by `exists_of_reads_day`, a clock
  by `eq_of_reads_clock`, one part after another. The two differ in the offset, which the layout
  leaves out.
-/

namespace Conform

namespace Iso

open Text

/-! ## Universal time behind a text -/

theorem encoded_append_universal (u : List Char) :
    encoded (u ++ "+00:00".toList) = encoded u ++ universal := by
  have huniversal : encoded "+00:00".toList = universal := by decide
  rw [encoded_append, huniversal]

theorem plus_not_mem_of_writesDay {hyphens : Bool} {front rest : List Nat}
    {date : Except CalendarError Date} (h : WritesDay hyphens front rest date) : plus ∉ front := by
  intro hplus
  obtain hdigit | hhyphen | hweek := h.mem hplus
  · exact plus_not_isDigit hdigit
  · exact absurd hhyphen (by decide)
  · exact absurd hweek (by decide)

/-- A day is written before the offset behind a text. -/
theorem exists_of_append_universal {bytes front rest : List Nat}
    (h : bytes ++ universal = front ++ rest) (hplus : plus ∉ front) :
    ∃ more, bytes = front ++ more ∧ rest = more ++ universal := by
  obtain ⟨more, rfl, hmore⟩ | ⟨more, hbytes, hrest⟩ := List.append_eq_append_iff.mp h
  · cases more with
    | nil => exact ⟨[], by simp, by rw [hmore]; rfl⟩
    | cons b more =>
      have hb : plus = b := (List.cons.inj hmore).1
      exact absurd (List.mem_append_right _ (hb ▸ List.mem_cons_self)) hplus
  · exact ⟨more, hbytes, hrest⟩

/-- With universal time behind it a text is a day, of which it is midnight, or a day and a clock
that are read with this offset. -/
theorem exists_of_readDateTime_universal {u : List Char} {d : DateTime}
    (h : readDateTime (String.ofList (u ++ "+00:00".toList)) = .ok d) :
    ∃ hyphens date start ending, u = start ++ ending ∧
      WritesDay hyphens (start.map Char.toNat) [] date ∧
      ((ending = [] ∧ d = .ofDate d.date) ∨ ∃ c w clock, ending = c :: w ∧
        readClock true (encoded w) = some clock ∧ timeAt date clock (some 0) = .ok d) := by
  obtain ⟨hyphens, date, hwrites, hread⟩ := exists_of_readDateTime h
  rw [encoded_append_universal] at hwrites hread
  have hparts := (List.take_append_drop (dateLength (encoded u ++ universal))
    (encoded u ++ universal)).symm
  obtain ⟨more, hbytes, hmore⟩ :=
    exists_of_append_universal hparts (plus_not_mem_of_writesDay hwrites)
  obtain ⟨start, ending, rfl, hstart, -, hending, -⟩ := hwrites.exists_text hbytes
  rw [← hstart] at hwrites
  rw [hmore, ← hending] at hread
  refine ⟨hyphens, date, start, ending, rfl, hwrites, ?_⟩
  cases ending with
  | nil =>
    have hmidnight : timeAt date ⟨0, 0, 0, 0, false⟩ none = .ok d := hread
    obtain ⟨-, day, -, -, rfl⟩ := timeAt_eq_ok_iff.mp hmidnight
    exact .inl ⟨rfl, rfl⟩
  | cons c w =>
    rw [encoded_cons, List.append_assoc, readBehindDay_charBytes] at hread
    split at hread
    · cases hread
    · next clock offset htime =>
      obtain ⟨hclock, rfl⟩ := readTime_append_universal htime
      exact .inr ⟨c, w, clock, rfl, hclock, hread⟩

end Iso

namespace Conversion

open Text Layout

/-! ## Clocks that a layout reads as well -/

theorem pairValue_eq_valueOf (a b : Char) : pairValue a b = Iso.valueOf [a.toNat, b.toNat] := by
  simp [pairValue, Iso.valueOf, numberOf]

theorem not_mayUse_letter {item : Item} (h : item.isPair = true) : item.mayUse 'Z' = false := by
  have hletter : ∀ item ∈ [Item.month, .day, .hour, .minute, .second], item.mayUse 'Z' = false := by
    decide
  cases item with
  | month | day | hour | minute | second => exact hletter _ (by simp)
  | year | fraction | blanks | mark => cases h

section

variable {item : Item} {w : List Char} {count : Nat} {parts : List Nat} {tail : Nat × Bool}
  {f f' : Fields}

/-- Where a clock is read in the standard form and by a layout, both read the same two digits and
go on behind the colon. -/
theorem exists_of_reads_colon {next : Item} (hitem : item.isPair = true)
    (hnext : next.isPair = true) {colons? : Option Bool} (hcolons : colons?.getD true = true)
    {items : List Item}
    (hclock : Iso.readParts true (count + 1) colons? (Iso.encoded w) = some (parts, tail))
    (hread : (f', []) ∈ readItems (item :: .mark ':' :: next :: items) f (w ++ ['Z'])) :
    ∃ n w' parts', parts = n :: parts' ∧
      Iso.readParts true count (some true) (Iso.encoded w') = some (parts', tail) ∧
      (f', []) ∈ readItems (next :: items) (item.store f n) (w' ++ ['Z']) := by
  obtain ⟨a, b, more, rfl, ha, hb⟩ := Iso.exists_of_readParts hclock
  obtain ⟨c, more', hmore, hc, hitems⟩ := exists_of_readItems_pair hitem (by decide) ha hb hread
  obtain rfl := eq_of_matchesMark (by decide) hc
  cases more with
  | nil => cases hmore
  | cons c w' =>
    obtain ⟨rfl, rfl⟩ := List.cons.inj hmore
    have hne : w' ≠ [] := by
      rintro rfl
      exact not_mem_readItems (not_mayUse_letter hnext) _ _ _ _ hitems
    rw [Iso.readParts_colon ha hb hne hcolons] at hclock
    obtain ⟨⟨parts', tail'⟩, hparts, heq⟩ := Option.map_eq_some_iff.mp hclock
    obtain ⟨rfl, rfl⟩ := Prod.mk.inj heq
    rw [pairValue_eq_valueOf] at hitems
    exact ⟨_, w', parts', rfl, hparts, hitems⟩

/-- The last two digits, with nothing between them and the letter. -/
theorem eq_of_reads_end (hitem : item.isPair = true)
    (hclock : Iso.readParts true (count + 1) (some true) (Iso.encoded w) = some (parts, tail))
    (hread : (f', []) ∈ readItems [item, .mark 'Z'] f (w ++ ['Z'])) :
    ∃ n, parts = [n] ∧ tail = (0, true) ∧ f' = item.store f n := by
  obtain ⟨a, b, more, rfl, ha, hb⟩ := Iso.exists_of_readParts hclock
  obtain ⟨c, more', hmore, -, hitems⟩ := exists_of_readItems_pair hitem (by decide) ha hb hread
  obtain ⟨rfl, rfl⟩ := Prod.mk.inj (List.mem_singleton.mp hitems)
  have hlast : more ++ ['Z'] = [] ++ [c] := hmore
  obtain ⟨rfl, -⟩ := List.append_inj' hlast rfl
  rw [Iso.readParts_end ha hb] at hclock
  obtain ⟨rfl, rfl⟩ := Prod.mk.inj (Option.some.inj hclock)
  exact ⟨_, rfl, rfl, by rw [pairValue_eq_valueOf]⟩

/-- The last two digits with a fraction between them and the letter. -/
theorem eq_of_reads_fraction (hitem : item.isPair = true)
    (hclock : Iso.readParts true (count + 1) (some true) (Iso.encoded w) = some (parts, tail))
    (hread : (f', []) ∈ readItems [item, .mark '.', .fraction, .mark 'Z'] f (w ++ ['Z'])) :
    ∃ n micro, parts = [n] ∧ tail = (micro, true) ∧
      f' = { item.store f n with microsecond := micro } := by
  obtain ⟨a, b, more, rfl, ha, hb⟩ := Iso.exists_of_readParts hclock
  obtain ⟨c, more', hmore, hc, hitems⟩ := exists_of_readItems_pair hitem (by decide) ha hb hread
  obtain rfl := eq_of_matchesMark (by decide) hc
  cases more with
  | nil => cases hmore
  | cons c digits' =>
    obtain ⟨rfl, rfl⟩ := List.cons.inj hmore
    obtain ⟨f₁, rest, hfraction, hitems⟩ := mem_readItems_cons.mp hitems
    obtain ⟨⟨n, rest⟩, hn, heq⟩ := List.mem_map.mp hfraction
    obtain ⟨rfl, rfl⟩ := Prod.mk.inj heq
    obtain ⟨f₂, rest', hmark, hnil⟩ := mem_readItems_cons.mp hitems
    obtain ⟨rfl, rfl⟩ := Prod.mk.inj (List.mem_singleton.mp hnil)
    obtain ⟨c, rfl, -, rfl⟩ := Item.exists_of_read_mark hmark
    obtain ⟨digits, htext, hne, hlength, hall, hmicro⟩ := exists_of_mem_fractions hn
    have hsame : digits' ++ ['Z'] = digits ++ [c] := htext
    obtain ⟨rfl, -⟩ := List.append_inj' hsame rfl
    rw [Iso.readParts_point ha hb hne, Iso.readFraction_encoded hall hlength] at hclock
    obtain ⟨rfl, rfl⟩ := Prod.mk.inj (Option.some.inj hclock)
    have hvalue : n = Iso.valueOf (digits'.map Char.toNat) * Nat.pow 10 (6 - digits'.length) := by
      rw [hmicro, Iso.valueOf, List.map_map]
      rfl
    rw [← pairValue_eq_valueOf, ← hvalue]
    exact ⟨_, n, rfl, rfl, rfl⟩

end

/-- What closes the layouts that end in the letter: nothing, or a fraction. -/
def closings : List (List Item) := [[.mark 'Z'], [.mark '.', .fraction, .mark 'Z']]

/-- Where a clock is read in the standard form and by a layout, the numbers are the same. -/
theorem eq_of_reads_clock {closing : List Item} (hclosing : closing ∈ closings) {f f' : Fields}
    (hzero : f.microsecond = 0) {w : List Char} {time : Iso.Clock}
    (hclock : Iso.readClock true (Iso.encoded w) = some time)
    (hread : (f', []) ∈ readItems (clock ++ closing) f (w ++ ['Z'])) :
    f' = { f with
      hour := time.hour, minute := time.minute, second := time.second,
      microsecond := time.microsecond } := by
  obtain ⟨⟨parts, fraction, unread⟩, hparts, rfl⟩ := Option.map_eq_some_iff.mp hclock
  obtain ⟨hour, w₁, parts₁, rfl, hparts₁, hread₁⟩ :=
    exists_of_reads_colon rfl rfl rfl hparts hread
  obtain ⟨minute, w₂, parts₂, rfl, hparts₂, hread₂⟩ :=
    exists_of_reads_colon rfl rfl rfl hparts₁ hread₁
  obtain rfl | rfl : closing = [.mark 'Z'] ∨ closing = [.mark '.', .fraction, .mark 'Z'] := by
    simpa [closings] using hclosing
  · obtain ⟨second, rfl, htail, rfl⟩ := eq_of_reads_end rfl hparts₂ hread₂
    obtain ⟨rfl, -⟩ := Prod.mk.inj htail
    cases f with
    | mk _ _ _ _ _ _ micro =>
      obtain rfl : micro = 0 := hzero
      rfl
  · obtain ⟨second, micro, rfl, htail, rfl⟩ := eq_of_reads_fraction rfl hparts₂ hread₂
    obtain ⟨rfl, -⟩ := Prod.mk.inj htail
    rfl

/-! ## Days that a layout reads as well -/

theorem eq_map_ofNat {start : List Char} {front : List Nat} (h : start.map Char.toNat = front) :
    start = front.map Char.ofNat := by
  rw [← h, List.map_map]
  refine (List.map_id start).symm.trans (List.map_congr_left fun c _ => ?_)
  exact (Char.ofNat_toNat c).symm

theorem isDigit_ofNat {b : Nat} (h : Iso.IsDigit b) : (Char.ofNat b).isDigit = true := by
  have hall : ∀ b < 0x80, Iso.IsDigit b → (Char.ofNat b).isDigit = true := by decide
  exact hall b (Nat.lt_of_le_of_lt h.2 (by decide)) h

theorem toNat_ofNat_of_isDigit {b : Nat} (h : Iso.IsDigit b) : (Char.ofNat b).toNat = b := by
  have hall : ∀ b < 0x80, (Char.ofNat b).toNat = b := by decide
  exact hall b (Nat.lt_of_le_of_lt h.2 (by decide))

/-- A layout with hyphens reads the four digits of a year, and the hyphen behind them. -/
theorem exists_of_reads_year {y₀ y₁ y₂ y₃ : Nat} {text : List Char} {items : List Item}
    {f' : Fields} (h₀ : Iso.IsDigit y₀) (h₁ : Iso.IsDigit y₁) (h₂ : Iso.IsDigit y₂)
    (h₃ : Iso.IsDigit y₃)
    (hread : (f', []) ∈ readItems (.year :: .mark '-' :: items) {}
      (Char.ofNat y₀ :: Char.ofNat y₁ :: Char.ofNat y₂ :: Char.ofNat y₃ :: text)) :
    ∃ more, text = '-' :: more ∧
      (f', []) ∈ readItems items { year := Iso.valueOf [y₀, y₁, y₂, y₃] } more := by
  obtain ⟨more, htext, hmore⟩ := exists_of_readItems_year (by decide) (isDigit_ofNat h₀)
    (isDigit_ofNat h₁) (isDigit_ofNat h₂) (isDigit_ofNat h₃) hread
  refine ⟨more, htext, ?_⟩
  have hvalue : pairValue (Char.ofNat y₀) (Char.ofNat y₁) * 100 +
      pairValue (Char.ofNat y₂) (Char.ofNat y₃) = Iso.valueOf [y₀, y₁, y₂, y₃] := by
    simp only [pairValue, toNat_ofNat_of_isDigit h₀, toNat_ofNat_of_isDigit h₁,
      toNat_ofNat_of_isDigit h₂, toNat_ofNat_of_isDigit h₃, Iso.valueOf, numberOf, List.map_cons,
      List.map_nil, List.foldl_cons, List.foldl_nil]
    omega
  rw [← hvalue]
  exact hmore

/-- Where a day is written in the standard form and read by a layout with hyphens, it is the same
day, and the mark follows it. -/
theorem exists_of_reads_day {start rest : List Char} {hyphens : Bool}
    {date : Except CalendarError Date} (h : Iso.WritesDay hyphens (start.map Char.toNat) [] date)
    {items : List Item} {f' : Fields}
    (hread : (f', []) ∈ readItems (hyphenDate ++ .mark 'T' :: items) {} (start ++ rest)) :
    ∃ c w, ∃ f : Fields, rest = c :: w ∧ matchesMark 'T' c = true ∧
      date = Date.make f.year f.month f.day ∧ f.microsecond = 0 ∧
        (f', []) ∈ readItems items f w := by
  generalize hfront : start.map Char.toNat = front at h
  obtain rfl := eq_map_ofNat hfront
  generalize hnil : ([] : List Nat) = none' at h
  -- The year is followed by a hyphen, so hyphens are used, and that by a digit, so it is no week.
  cases h with
  | @month y₀ y₁ y₂ y₃ m₀ m₁ d₀ d₁ _ hall _ hdate =>
    simp only [List.forall_mem_cons] at hall
    obtain ⟨h₀, h₁, h₂, h₃, hm₀, hm₁, hd₀, hd₁, -⟩ := hall
    obtain ⟨more, hhyphen, hmore⟩ := exists_of_reads_year h₀ h₁ h₂ h₃ hread
    cases hyphens with
    | false =>
      have hdigit := isDigit_ofNat hm₀
      rw [(List.cons.inj hhyphen).1] at hdigit
      cases hdigit
    | true =>
      obtain ⟨-, rfl⟩ := List.cons.inj hhyphen
      obtain ⟨c₁, more₁, hmonth, hc₁, hread₁⟩ :=
        exists_of_readItems_pair rfl (by decide) (isDigit_ofNat hm₀) (isDigit_ofNat hm₁) hmore
      obtain ⟨-, rfl⟩ := List.cons.inj hmonth
      obtain ⟨c, w, hday, hc, hread₂⟩ :=
        exists_of_readItems_pair rfl (by decide) (isDigit_ofNat hd₀) (isDigit_ofNat hd₁) hread₁
      refine ⟨c, w, _, hday, hc, ?_, ?_, hread₂⟩
      · rw [hdate]
        change _ = Date.make _ (pairValue (Char.ofNat m₀) (Char.ofNat m₁))
          (pairValue (Char.ofNat d₀) (Char.ofNat d₁))
        rw [pairValue_eq_valueOf, pairValue_eq_valueOf, toNat_ofNat_of_isDigit hm₀,
          toNat_ofNat_of_isDigit hm₁, toNat_ofNat_of_isDigit hd₀, toNat_ofNat_of_isDigit hd₁]
        rfl
      · rfl
  | @week y₀ y₁ y₂ y₃ w₀ w₁ _ hall hdate =>
    simp only [List.forall_mem_cons] at hall
    obtain ⟨more, hhyphen, hmore⟩ :=
      exists_of_reads_year hall.1 hall.2.1 hall.2.2.1 hall.2.2.2.1 hread
    cases hyphens with
    | false => cases hhyphen
    | true =>
      obtain ⟨-, rfl⟩ := List.cons.inj hhyphen
      exact absurd hmore (not_mem_readItems (by decide) _ _ _ _)
  | @weekday y₀ y₁ y₂ y₃ w₀ w₁ d _ hall _ hdate =>
    simp only [List.forall_mem_cons] at hall
    obtain ⟨more, hhyphen, hmore⟩ :=
      exists_of_reads_year hall.1 hall.2.1 hall.2.2.1 hall.2.2.2.1 hread
    cases hyphens with
    | false => cases hhyphen
    | true =>
      obtain ⟨-, rfl⟩ := List.cons.inj hhyphen
      exact absurd hmore (not_mem_readItems (by decide) _ _ _ _)

theorem exists_closing {layout : List Item} (h : layout ∈ lettered) :
    ∃ closing ∈ closings, layout = hyphenDate ++ .mark 'T' :: (clock ++ closing) := by
  have hall : ∀ layout ∈ lettered,
      ∃ closing ∈ closings, layout = hyphenDate ++ .mark 'T' :: (clock ++ closing) := by decide
  exact hall layout h

/-- What a layout reads in front of the letter is what the standard form reads in front of the
offset, without the offset. -/
theorem eq_of_lettered_reads {layout : List Item} (hlayout : layout ∈ lettered) {u : List Char}
    {d d' : DateTime} (hread : read? layout (u ++ ['Z']) = some d')
    (hiso : Iso.readDateTime (String.ofList (u ++ "+00:00".toList)) = .ok d) :
    d' = { d with zone := none } := by
  obtain ⟨closing, hclosing, rfl⟩ := exists_closing hlayout
  obtain ⟨f, hitems, hmake⟩ := exists_of_read? hread
  obtain ⟨hyphens, date, start, ending, rfl, hwrites, hending⟩ :=
    Iso.exists_of_readDateTime_universal hiso
  rw [List.append_assoc] at hitems
  obtain ⟨c, w, f₁, hrest, hc, hdate, hzero, htime⟩ := exists_of_reads_day hwrites hitems
  obtain ⟨rfl, -⟩ | ⟨c', w', time, rfl, hclock, hbuild⟩ := hending
  · obtain ⟨rfl, -⟩ := List.cons.inj hrest
    exact absurd hc (by decide)
  · obtain ⟨rfl, rfl⟩ := List.cons.inj hrest
    obtain rfl := eq_of_reads_clock hclosing hzero hclock htime
    obtain ⟨-, day, hday, -, rfl⟩ := Iso.timeAt_eq_ok_iff.mp hbuild
    obtain ⟨-, day', hday', -, rfl⟩ := DateTime.make_eq_ok_iff.mp hmake
    have hsame : day' = day := by
      rw [hdate] at hday
      exact Except.ok.inj (hday'.symm.trans hday)
    rw [hsame]
    rfl

/-! ## Both spellings of universal time -/

/-- The time is universal time, or the text was a day only and then is its midnight. -/
theorem zone_of_readDateTime {u : List Char} {d : DateTime}
    (h : Iso.readDateTime (String.ofList (u ++ "+00:00".toList)) = .ok d) :
    d.zone = some (.fixed 0) ∨ d = .ofDate d.date := by
  obtain ⟨_, _, _, _, _, _, ⟨_, hmidnight⟩ | ⟨_, _, _, _, _, hbuild⟩⟩ :=
    Iso.exists_of_readDateTime_universal h
  · exact .inr hmidnight
  · obtain ⟨-, -, -, -, rfl⟩ := Iso.timeAt_eq_ok_iff.mp hbuild
    exact .inl rfl

theorem bareText_append (t : String) {spelling : String} (hne : spelling.toList ≠ [])
    (h : (spelling.toList.all fun c => !isBlank c) = true) :
    bareText (t ++ spelling) = trimStart t.toList ++ spelling.toList := by
  rw [bareText, String.toList_append]
  refine trim_append hne (fun c hc => ?_) t.toList
  exact (Bool.not_eq_true' _).mp (List.all_eq_true.mp h c hc)

theorem bareText_offset (t : String) :
    bareText (t ++ "+00:00") = trimStart t.toList ++ "+00:00".toList :=
  bareText_append t (by decide) (by decide)

theorem bareText_letter (t : String) : bareText (t ++ "Z") = trimStart t.toList ++ ['Z'] :=
  bareText_append t (by decide) (by decide)

section

variable {t : String}

theorem not_mem_trimStart (h : 'Z' ∉ t.toList) : 'Z' ∉ trimStart t.toList := by
  intro hmem
  exact h ((List.dropWhile_sublist _).subset hmem)

/-- The text of both spellings in the standard form. -/
theorem standard_offset (h : 'Z' ∉ t.toList) :
    Format.withUniversalOffset (bareText (t ++ "+00:00")) =
      trimStart t.toList ++ "+00:00".toList := by
  rw [bareText_offset, Format.withUniversalOffset_of_not_mem]
  intro hmem
  obtain hmem | hmem := List.mem_append.mp hmem
  · exact not_mem_trimStart h hmem
  · exact absurd hmem (by decide)

theorem standard_letter (h : 'Z' ∉ t.toList) :
    Format.withUniversalOffset (bareText (t ++ "Z")) = trimStart t.toList ++ "+00:00".toList := by
  rw [bareText_letter, Format.withUniversalOffset_append,
    Format.withUniversalOffset_of_not_mem (not_mem_trimStart h)]
  rfl

theorem layoutTime?_offset (t : String) : layoutTime? (bareText (t ++ "+00:00")) = none := by
  rw [Option.eq_none_iff_forall_not_mem]
  intro d hd
  obtain ⟨layout, hlayout, hread⟩ := exists_of_layoutTime? hd
  refine not_plus_of_layout_reads hlayout hread ?_
  rw [bareText_offset]
  exact List.mem_append_right _ (by decide)

/-- The time of the spelling with an offset is read in the standard form. -/
theorem timeOfText_offset_iff (h : 'Z' ∉ t.toList) {d : DateTime} :
    timeOfText (t ++ "+00:00") = .ok d ↔
      Iso.readDateTime (String.ofList (trimStart t.toList ++ "+00:00".toList)) = .ok d := by
  rw [timeOfText_eq_ok_iff, layoutTime?_offset, standard_offset h]
  simp

/-- Where no layout fits, both spellings are the same text in the standard form. -/
theorem timeOfText_letter_of_none (h : 'Z' ∉ t.toList)
    (hnone : layoutTime? (bareText (t ++ "Z")) = none) {d : DateTime} :
    timeOfText (t ++ "Z") = .ok d ↔ timeOfText (t ++ "+00:00") = .ok d := by
  rw [timeOfText_offset_iff h, timeOfText_eq_ok_iff, hnone, standard_letter h]
  simp

/-- The time of the spelling with the letter, where the one with an offset has the given time: a
layout that fits leaves the offset out. -/
def letterTime (t : String) (d : DateTime) : DateTime :=
  if (layoutTime? (bareText (t ++ "Z"))).isSome then { d with zone := none } else d

theorem timeOfText_letter (h : 'Z' ∉ t.toList) {d : DateTime}
    (hd : timeOfText (t ++ "+00:00") = .ok d) : timeOfText (t ++ "Z") = .ok (letterTime t d) := by
  cases hlayout : layoutTime? (bareText (t ++ "Z")) with
  | none =>
    rw [letterTime, hlayout]
    exact (timeOfText_letter_of_none h hlayout).mpr hd
  | some d' =>
    obtain ⟨layout, hmem, hread⟩ := exists_of_layoutTime? hlayout
    rw [bareText_letter] at hread
    have hlettered := lettered_of_layout_reads hmem hread
    have hsame := eq_of_lettered_reads hlettered hread ((timeOfText_offset_iff h).mp hd)
    rw [letterTime, hlayout, ← hsame]
    exact timeOfText_eq_ok_iff.mpr (.inl hlayout)

theorem atMidnight_letterTime (t : String) (d : DateTime) :
    (letterTime t d).atMidnight = letterTime t d.atMidnight := by
  unfold letterTime
  split <;> rfl

/-- What the conversions to times make of one text, they make of another that spells the same
times. -/
theorem makes_congr {s s' : String} (h : ∀ d, timeOfText s = .ok d ↔ timeOfText s' = .ok d)
    {c : Conversion} (hc : c ∈ [Conversion.datetime, .dateOnly]) (y : Value) :
    c.Makes (.str s) y ↔ c.Makes (.str s') y := by
  obtain rfl | rfl : c = .datetime ∨ c = .dateOnly := by simpa using hc
  · rw [datetime_makes_iff, datetime_makes_iff]
    simp only [h]
  · rw [dateOnly_makes_iff, dateOnly_makes_iff]
    simp only [h]

end

end Conversion
end Conform

import Conform.Proofs.ConvertedTexts
import Conform.Proofs.LayoutTexts
import Conform.Proofs.OverlongDays

/-
  Formats of texts and conversions. A check of a format and the conversion to the same type are made
  apart, the one from a pattern and the other from the readers of numbers and times. They agree on
  numbers and on truth values (`int_agreesWith`, `float_agreesWith`, `number_agreesWith`,
  `bool_agreesWith`): the conversion takes the texts with the format and no others. Whole numbers
  are read from texts of at most 4300 characters, as longer ones can have too many digits.

  On days and times the check lets more texts pass than the conversion: the overlong days, which
  begin with a day and go on for two bytes that are not looked at (`datetime_text`). Nothing is said
  of texts that fail the check of a day or a time, of which the conversion takes many.
-/

namespace Conform

/-! ## Conversions of texts with a format -/

namespace Conversion

open Text Validator

/-- A day with two bytes after it is read by no layout. -/
theorem layoutTime?_of_eight {cs : List Char} {front rest : List Nat}
    {date : Except CalendarError Date} (h : Iso.WritesDay false front rest date)
    (hbytes : Iso.encoded cs = front ++ rest) : layoutTime? cs = none := by
  rw [Option.eq_none_iff_forall_not_mem]
  intro t ht
  obtain ⟨layout, hlayout, hread⟩ := exists_of_layoutTime? ht
  obtain ⟨c, hc, hhyphen, hslash⟩ := Iso.exists_fifth_of_eight h hbytes
  obtain ⟨_, _, _, _, m, _, rfl, hm⟩ := exists_of_layout_reads hlayout hread
  obtain rfl : m = c := Option.some.inj hc
  exact absurd hm (not_or.mpr ⟨hhyphen, hslash⟩)

/-- What can be said of a text that counts as a day or a time. -/
theorem cases_of_isDateText {text : List Char} (h : Format.isDateText text = true) :
    (∃ t, Iso.readDateTime (String.ofList (Format.withUniversalOffset (trim text))) = .ok t) ∨
      Iso.isDate (String.ofList (trim text)) = true := by
  unfold Format.isDateText at h
  dsimp only at h
  split at h
  · next t ht => exact .inl ⟨t, ht⟩
  · exact .inr h

/-- A text that counts as a day or a time is read as a time, unless it is an overlong day. -/
theorem exists_timeOfText_iff {s : String} (h : Format.isDateText s.toList = true) :
    (∃ t, timeOfText s = .ok t) ↔ Iso.isOverlongDay (bareText s) = false := by
  have hstandard : (∃ t, Iso.readDateTime
      (String.ofList (Format.withUniversalOffset (bareText s))) = .ok t) →
      ∃ t, timeOfText s = .ok t := by
    rintro ⟨t, ht⟩
    cases hlayout : layoutTime? (bareText s) with
    | some t' => exact ⟨t', timeOfText_eq_ok_iff.mpr (.inl hlayout)⟩
    | none => exact ⟨t, timeOfText_eq_ok_iff.mpr (.inr ⟨hlayout, ht⟩)⟩
  cases hdate : Iso.isDate (String.ofList (bareText s)) with
  | false =>
    have hnot : Iso.isOverlongDay (bareText s) = false := by
      rw [Iso.isOverlongDay, hdate, Bool.and_false, Bool.false_and]
    refine iff_of_true (hstandard ((cases_of_isDateText h).resolve_right fun hother => ?_)) hnot
    exact Bool.false_ne_true (hdate.symm.trans hother)
  | true =>
    obtain ⟨hyphens, day, front, rest, hbytes, hwrites, hform⟩ := Iso.cases_of_isDate hdate
    obtain rfl | ⟨rfl, hfront, hrest⟩ := hform
    · rw [List.append_nil] at hbytes
      rw [← hbytes] at hwrites
      exact iff_of_true (hstandard ⟨_, Iso.readDateTime_of_writesDay hwrites⟩)
        (Iso.isOverlongDay_of_whole hwrites)
    · rw [Iso.isOverlongDay_of_eight hwrites hbytes hfront hrest hdate, Bool.not_eq_false',
        ← Iso.readDateTime_iff_endsInTime hbytes hrest hfront hwrites]
      refine ⟨?_, hstandard⟩
      rintro ⟨t, ht⟩
      obtain hread | ⟨-, hread⟩ := timeOfText_eq_ok_iff.mp ht
      · rw [layoutTime?_of_eight hwrites hbytes] at hread
        cases hread
      · exact ⟨t, hread⟩

/-! ### Agreement of a conversion and a format -/

/-- The conversion takes the texts with the format and no others, and fails on none of them. -/
def AgreesWith (c : Conversion) (format : Validator) (s : String) : Prop :=
  ((∃ z, c.Makes (.str s) z) ↔ format.Accepts (.str s) (.str s)) ∧
    (format.Accepts (.str s) (.str s) → ¬ c.Fails (.str s))

theorem agreesWith_of_converts {c : Conversion} {format : Validator} {s : String}
    (hinner : c.inner .valid = .valid)
    (hformat : (format.evaluate .plain (.str s)).Judges (.str s) (c.admitsText s))
    (hconverts : c.admitsText s = true → ∃ z, c.convert (.str s) = .ok z) :
    c.AgreesWith format s := by
  have haccepts : format.Accepts (.str s) (.str s) ↔ c.admitsText s = true :=
    (hformat.accepts_iff _).trans (and_iff_left rfl)
  have hmakes : format.Accepts (.str s) (.str s) → ∃ z, c.Makes (.str s) z := by
    intro h
    obtain ⟨z, hz⟩ := hconverts (haccepts.mp h)
    exact ⟨z, (makes_text_iff hinner s z).mpr ⟨haccepts.mp h, hz⟩⟩
  refine ⟨⟨?_, hmakes⟩, fun h => ?_⟩
  · rintro ⟨z, hz⟩
    exact haccepts.mpr ((makes_text_iff hinner s z).mp hz).1
  · obtain ⟨z, hz⟩ := hmakes h
    exact not_fails_of_makes hz

theorem exists_intOfText {s : String} (hlength : s.length ≤ maxDigits)
    (h : Format.isIntText s.toList = true) : ∃ n, intOfText s = .ok (.int n) := by
  obtain ⟨negative, digits, hread, hdigits⟩ := Numeral.exists_wholeNumber?_trim h
  rw [String.length_toList] at hdigits
  have hread' : Numeral.wholeNumber? (bareText s) = some (negative, digits) := hread
  rw [intOfText, hread']
  dsimp only
  rw [if_neg (by omega)]
  exact ⟨_, rfl⟩

theorem exists_floatOfText {s : String} (h : Format.isFloatText s.toList = true) :
    ∃ z, floatOfText s = .ok (.float z) := by
  have hsome : (Numeral.float? (bareText s)).isSome = true := by
    rw [bareText, Numeral.float?_trim h]
    exact h
  obtain ⟨z, hz⟩ := Option.isSome_iff_exists.mp hsome
  exact ⟨z, by rw [floatOfText, hz]⟩

/-- A text is cut at the blanks before it is looked at, and once is enough. -/
theorem isIntText_bareText (s : String) :
    Format.isIntText (bareText s) = Format.isIntText s.toList := by
  rw [Format.isIntText, Format.isIntText, bareText, trim_trim]

section

variable {s : String}

theorem int_agreesWith (hlength : s.length ≤ maxDigits) {c : Conversion}
    (hc : c ∈ [Conversion.int, .intStrict]) : c.AgreesWith (hasFormat .int none) s := by
  have hconverts : Format.isIntText s.toList = true → ∃ z, intOfText s = .ok z := fun h =>
    let ⟨n, hn⟩ := exists_intOfText hlength h
    ⟨.int n, hn⟩
  obtain rfl | rfl : c = .int ∨ c = .intStrict := by simpa using hc
  · exact agreesWith_of_converts rfl (run_judges_hasFormat .int s) hconverts
  · exact agreesWith_of_converts rfl (run_judges_hasFormat .int s) hconverts

theorem float_agreesWith : Conversion.float.AgreesWith (hasFormat .float none) s :=
  agreesWith_of_converts rfl (run_judges_hasFormat .float s) fun h =>
    let ⟨z, hz⟩ := exists_floatOfText h
    ⟨.float z, hz⟩

theorem bool_agreesWith : Conversion.bool.AgreesWith (hasFormat .bool none) s :=
  agreesWith_of_converts rfl (run_judges_hasFormat .bool s) fun _ => ⟨_, rfl⟩

/-- A text that spells a whole number becomes one, other numbers have a fraction. -/
theorem convert_number_text (hlength : s.length ≤ maxDigits)
    (h : Conversion.number.admitsText s = true) :
    (Format.isIntText s.toList = true ∧ ∃ n, toNumber (.str s) = .ok (.int n)) ∨
      Format.isIntText s.toList = false ∧ ∃ z, toNumber (.str s) = .ok (.float z) := by
  rw [admitsText] at h
  rw [toNumber, isIntText_bareText]
  cases hint : Format.isIntText s.toList with
  | true =>
    rw [if_pos rfl]
    exact .inl ⟨rfl, exists_intOfText hlength hint⟩
  | false =>
    rw [hint, Bool.false_or] at h
    rw [if_neg Bool.false_ne_true]
    exact .inr ⟨rfl, exists_floatOfText h⟩

theorem number_agreesWith (hlength : s.length ≤ maxDigits) :
    Conversion.number.AgreesWith (isNumberString none) s := by
  refine agreesWith_of_converts rfl (run_judges_isNumberString s) fun h => ?_
  obtain ⟨-, n, hn⟩ | ⟨-, z, hz⟩ := convert_number_text hlength h
  · exact ⟨_, hn⟩
  · exact ⟨_, hz⟩

theorem number_makes_int_iff (hlength : s.length ≤ maxDigits) {z : Value}
    (h : Conversion.number.Makes (.str s) z) :
    (∃ n, z = .int n) ↔ (hasFormat .int none).Accepts (.str s) (.str s) := by
  obtain ⟨hadmits, hconvert⟩ := (makes_text_iff rfl s z).mp h
  rw [accepts_hasFormat_iff, TextFormat.holds]
  obtain ⟨hint, n, hn⟩ | ⟨hint, y, hy⟩ := convert_number_text hlength hadmits
  · exact iff_of_true ⟨n, Except.ok.inj (hconvert.symm.trans hn)⟩ hint
  · refine iff_of_false ?_ (by rw [hint]; exact Bool.false_ne_true)
    rintro ⟨n, rfl⟩
    cases hconvert.symm.trans hy

/-- A text that counts as a day or a time becomes a time, unless it is an overlong day: then the
conversion fails. -/
theorem datetime_text (h : (hasFormat .date none).Accepts (.str s) (.str s)) :
    ((∃ z, Conversion.datetime.Makes (.str s) z) ↔ Iso.isOverlongDay (bareText s) = false) ∧
      (Conversion.datetime.Fails (.str s) ↔ Iso.isOverlongDay (bareText s) = true) := by
  have hoverlong := exists_timeOfText_iff ((accepts_hasFormat_iff .date s).mp h)
  have hmakes : (∃ z, Conversion.datetime.Makes (.str s) z) ↔ ∃ t, timeOfText s = .ok t := by
    simp only [datetime_makes_iff]
    exact ⟨fun ⟨_, t, ht, _⟩ => ⟨t, ht⟩, fun ⟨t, ht⟩ => ⟨_, t, ht, rfl⟩⟩
  refine ⟨hmakes.trans hoverlong, ⟨fun hfails => ?_, fun hlong => ?_⟩⟩
  · rw [← Bool.not_eq_false, ← hoverlong, ← hmakes]
    rintro ⟨z, hz⟩
    exact not_fails_of_makes hz hfails
  · cases ht : timeOfText s with
    | ok t =>
      rw [hoverlong.mp ⟨t, ht⟩] at hlong
      cases hlong
    | error problem =>
      exact fails_of_admitsText rfl (congrArg (Except.map Value.datetime) ht)

end

end Conversion
end Conform

import Conform.Predicate.Format

/-
  Numbers as text, with the blanks around them and without. The checks of a format look at a text as
  it stands or cut at the blanks, and the readers cut off a smaller class of characters, the
  padding: blanks of other scripts count as the space, but the four information separators are
  blanks and no padding.

  Main results: a text with the format of a whole number, cut at the blanks, is read as one whose
  digits are no more than its characters (`exists_wholeNumber?_trim`), and what is read as a
  floating-point number is read as the same one when it is cut at the blanks (`float?_trim`).
-/

namespace Conform

namespace Text

/-- The digits of all scripts and the blanks have no character in common. -/
theorem not_isBlank_of_digitValue? {c : Char} {n : Nat} (h : digitValue? c = some n) :
    isBlank c = false := by
  have hranges : ∀ range ∈ blankRanges, range.2 < 0x30 ∨ 0x39 < range.1 := by decide
  have hzeros : ∀ first ∈ digitZeros, ∀ range ∈ blankRanges,
      range.2 < first ∨ first + 10 ≤ range.1 := by decide
  rw [Bool.eq_false_iff]
  intro hblank
  obtain ⟨range, hrange, hlow, hhigh⟩ := CodeRanges.contains_iff.mp hblank
  unfold digitValue? at h
  split at h
  · split at h
    · next hdigit =>
      have hlow' : 0x30 ≤ c.toNat := hdigit.1
      have hhigh' : c.toNat ≤ 0x39 := hdigit.2
      have := hranges range hrange
      omega
    · cases h
  · obtain ⟨first, hfirst, -⟩ := Option.map_eq_some_iff.mp h
    have hmem := List.mem_of_find?_eq_some hfirst
    have hin := List.find?_some hfirst
    rw [Bool.and_eq_true, decide_eq_true_eq, decide_eq_true_eq] at hin
    have := hzeros first hmem range hrange
    omega

theorem digitValue?_lt {c : Char} {n : Nat} (h : digitValue? c = some n) : n < 10 := by
  unfold digitValue? at h
  split at h
  · split at h
    · next hdigit =>
      have hlow : 0x30 ≤ c.toNat := hdigit.1
      have hhigh : c.toNat ≤ 0x39 := hdigit.2
      obtain rfl := Option.some.inj h
      omega
    · cases h
  · obtain ⟨first, hfirst, rfl⟩ := Option.map_eq_some_iff.mp h
    have hin := List.find?_some hfirst
    rw [Bool.and_eq_true, decide_eq_true_eq, decide_eq_true_eq] at hin
    omega

end Text

namespace Numeral

open Text

/-- The character that stands for another one in a normalized text. -/
def normalChar (c : Char) : Char :=
  if c.toNat < 0x80 then c
  else if isBlank c then ' '
  else match digitValue? c with
    | some n => Nat.digitChar n
    | none => '?'

theorem normalize_eq_map (text : List Char) : normalize text = text.map normalChar := rfl

theorem digitChar_sub {c : Char} (hlow : '0' ≤ c) (hhigh : c ≤ '9') :
    Nat.digitChar (c.toNat - 0x30) = c := by
  have hchars : ∀ d < 10, Nat.digitChar d = Char.ofNat (0x30 + d) := by decide
  have hlow' : 0x30 ≤ c.toNat := hlow
  have hhigh' : c.toNat ≤ 0x39 := hhigh
  rw [hchars _ (by omega), Nat.add_sub_cancel' hlow', Char.ofNat_toNat]

theorem normalChar_of_digitValue? {c : Char} {n : Nat} (h : digitValue? c = some n) :
    normalChar c = Nat.digitChar n := by
  unfold normalChar
  split
  · next hascii =>
    rw [digitValue?_ascii hascii] at h
    split at h
    · next hdigit =>
      obtain rfl := Option.some.inj h
      exact (digitChar_sub hdigit.1 hdigit.2).symm
    · cases h
  · rw [not_isBlank_of_digitValue? h, h]
    rfl

/-- What is no blank stands for no padding. -/
theorem not_isPadding_normalChar {c : Char} (h : isBlank c = false) :
    isPadding (normalChar c) = false := by
  unfold normalChar
  split
  · rw [Bool.eq_false_iff]
    intro hpadding
    refine Bool.eq_false_iff.mp h (CodeRanges.contains_iff.mpr ?_)
    rw [isPadding, Bool.or_eq_true, Bool.and_eq_true, decide_eq_true_eq, decide_eq_true_eq,
      beq_iff_eq] at hpadding
    cases hpadding with
    | inl hspace => exact ⟨(0x1C, 0x20), by decide, by rw [hspace]; decide⟩
    | inr hrange => exact ⟨(0x09, 0x0D), by decide, hrange⟩
  · rw [h]
    split
    · next hfalse => exact absurd hfalse Bool.false_ne_true
    · split
      · next n hn =>
        have hdigits : ∀ d < 10, isPadding (Nat.digitChar d) = false := by decide
        exact hdigits n (digitValue?_lt hn)
      · decide

/-- A text that does not start or end with padding is bare. -/
theorem bare_eq_normalize {text : List Char} (hhead : ∀ c ∈ text.head?, isBlank c = false)
    (hlast : ∀ c ∈ text.getLast?, isBlank c = false) : bare text = normalize text := by
  have hstrip : ∀ cs : List Char, (∀ c ∈ cs.head?, isPadding c = false) →
      cs.dropWhile isPadding = cs := by
    intro cs hcs
    cases cs with
    | nil => rfl
    | cons c rest => rw [List.dropWhile_cons, hcs c rfl]; rfl
  have hfirst : ∀ c ∈ (normalize text).head?, isPadding c = false := by
    rw [normalize_eq_map, List.head?_map]
    intro c hc
    obtain ⟨b, hb, rfl⟩ := Option.map_eq_some_iff.mp hc
    exact not_isPadding_normalChar (hhead b hb)
  have hfinal : ∀ c ∈ (normalize text).reverse.head?, isPadding c = false := by
    rw [normalize_eq_map, List.head?_reverse, List.getLast?_map]
    intro c hc
    obtain ⟨b, hb, rfl⟩ := Option.map_eq_some_iff.mp hc
    exact not_isPadding_normalChar (hlast b hb)
  rw [bare, hstrip _ hfirst, hstrip _ hfinal, List.reverse_reverse]

theorem bare_trim (text : List Char) : bare (trim text) = normalize (trim text) :=
  bare_eq_normalize (not_isBlank_head_trim text) (not_isBlank_getLast_trim text)

/-! ## Whole numbers -/

theorem asciiDigit?_digitChar {d : Nat} (h : d < 10) : asciiDigit? (Nat.digitChar d) = some d := by
  have hall : ∀ d < 10, asciiDigit? (Nat.digitChar d) = some d := by decide
  exact hall d h

theorem digitChar_ne_underscore {d : Nat} (h : d < 10) : Nat.digitChar d ≠ '_' := by
  have hall : ∀ d < 10, Nat.digitChar d ≠ '_' := by decide
  exact hall d h

/-- Digits without low lines between them are taken one and all. -/
theorem takeDigits_digitChars {digits : List Nat} (h : ∀ d ∈ digits, d < 10) :
    takeDigits (digits.map Nat.digitChar) = (digits, []) := by
  induction digits with
  | nil => rfl
  | cons d digits ih =>
    have hd := h d List.mem_cons_self
    have hrest : ∀ d ∈ digits, d < 10 := fun e he => h e (List.mem_cons_of_mem d he)
    have htail : ∀ c ∈ (digits.map Nat.digitChar).head?, c ≠ '_' := by
      rw [List.head?_map]
      intro c hc
      obtain ⟨e, he, rfl⟩ := Option.map_eq_some_iff.mp hc
      exact digitChar_ne_underscore (hrest e (List.mem_of_mem_head? he))
    rw [List.map_cons]
    unfold takeDigits
    split
    · next heq => cases heq
    · next heq => exact absurd (List.cons.inj heq).1 (digitChar_ne_underscore hd)
    · next heq => exact absurd rfl (htail '_' (by rw [(List.cons.inj heq).2]; rfl))
    · next c rest _ _ heq =>
      obtain ⟨rfl, rfl⟩ := List.cons.inj heq
      rw [asciiDigit?_digitChar hd, ih hrest]

/-- The signs that may stand in front of digits. -/
def signs : List (List Char) := [[], ['+'], ['-']]

theorem takeSign_append_digits {sign : List Char} (hsign : sign ∈ signs) {digits : List Nat}
    (h : ∀ d ∈ digits, d < 10) :
    takeSign (sign ++ digits.map Nat.digitChar) =
      (decide (sign = ['-']), digits.map Nat.digitChar) := by
  have hmarks : ∀ d < 10, Nat.digitChar d ≠ '-' ∧ Nat.digitChar d ≠ '+' := by decide
  simp only [signs, List.mem_cons, List.not_mem_nil, or_false] at hsign
  obtain rfl | rfl | rfl := hsign
  · cases digits with
    | nil => rfl
    | cons d digits =>
      obtain ⟨hminus, hplus⟩ := hmarks d (h d List.mem_cons_self)
      rw [List.nil_append, List.map_cons]
      unfold takeSign
      split
      · next heq => exact absurd (List.cons.inj heq).1 hminus
      · next heq => exact absurd (List.cons.inj heq).1 hplus
      · rfl
  · rfl
  · rfl

theorem normalize_digits {text : List Char} (h : text.all isDecimalDigit = true) :
    ∃ digits : List Nat, normalize text = digits.map Nat.digitChar ∧
      digits.length = text.length ∧ ∀ d ∈ digits, d < 10 := by
  induction text with
  | nil => exact ⟨[], rfl, rfl, nofun⟩
  | cons c rest ih =>
    rw [List.all_cons, Bool.and_eq_true] at h
    obtain ⟨n, hn⟩ := isDecimalDigit_iff.mp h.1
    obtain ⟨digits, hdigits, hlength, hsmall⟩ := ih h.2
    refine ⟨n :: digits, ?_, by rw [List.length_cons, hlength]; rfl, ?_⟩
    · rw [normalize_eq_map, List.map_cons, List.map_cons, normalChar_of_digitValue? hn,
        ← normalize_eq_map, hdigits]
    · exact List.forall_mem_cons.mpr ⟨digitValue?_lt hn, hsmall⟩

/-- The format of a whole number: a sign or none, and then digits. -/
theorem exists_sign_of_isIntText {text : List Char} (h : Format.isIntText text = true) :
    ∃ sign digits, trim text = sign ++ digits ∧ sign ∈ signs ∧ digits ≠ [] ∧
      digits.all isDecimalDigit = true := by
  unfold Format.isIntText at h
  split at h
  · cases h
  · next c rest htrim =>
    dsimp only at h
    rw [Bool.and_eq_true, Bool.not_eq_true', List.isEmpty_eq_false_iff] at h
    cases hsign : c == '+' || c == '-' with
    | true =>
      rw [hsign, if_pos rfl] at h
      refine ⟨[c], rest, htrim, ?_, h.1, h.2⟩
      rw [Bool.or_eq_true, beq_iff_eq, beq_iff_eq] at hsign
      obtain rfl | rfl := hsign
      · decide
      · decide
    | false =>
      rw [hsign, if_neg Bool.false_ne_true] at h
      exact ⟨[], c :: rest, htrim, by decide, h.1, h.2⟩

/-- A text with the format of a whole number is read as one when it is cut at the blanks, and the
number has no more digits than the text has characters. -/
theorem exists_wholeNumber?_trim {text : List Char} (h : Format.isIntText text = true) :
    ∃ negative digits, wholeNumber? (trim text) = some (negative, digits) ∧
      digits.length ≤ text.length := by
  obtain ⟨sign, cs, htrim, hsign, hne, hall⟩ := exists_sign_of_isIntText h
  obtain ⟨digits, hdigits, hlength, hsmall⟩ := normalize_digits hall
  have hkept : ∀ sign ∈ signs, normalize sign = sign := by decide
  have hbare : bare (trim text) = sign ++ digits.map Nat.digitChar := by
    rw [bare_trim, htrim, normalize_eq_map, List.map_append, ← normalize_eq_map,
      ← normalize_eq_map, hkept sign hsign, hdigits]
  refine ⟨decide (sign = ['-']), digits, ?_, ?_⟩
  · rw [wholeNumber?, hbare, takeSign_append_digits hsign hsmall]
    dsimp only
    rw [takeDigits_digitChars hsmall]
    cases digits with
    | nil => exact absurd (List.length_eq_zero_iff.mp hlength.symm) hne
    | cons d digits => rfl
  · obtain ⟨before, after, htext, -, -⟩ := exists_trim text
    rw [htrim] at htext
    rw [htext, hlength]
    simp only [List.length_append]
    omega

/-! ## Floating-point numbers -/

/-- The information separators, which are blanks but no padding. -/
def isSeparator (c : Char) : Bool := 0x1C ≤ c.toNat && c.toNat ≤ 0x1F

theorem isPadding_or_isSeparator_of_isBlank {c : Char} (h : isBlank c = true) :
    isPadding (normalChar c) = true ∨ isSeparator (normalChar c) = true := by
  unfold normalChar
  split
  · next hascii =>
    obtain ⟨range, hrange, hlow, hhigh⟩ := CodeRanges.contains_iff.mp h
    have hranges : ∀ range ∈ blankRanges, range = (0x09, 0x0D) ∨ range = (0x1C, 0x20) ∨
        0x80 ≤ range.1 := by decide
    have hspace : c.toNat = 0x20 → c = ' ' := by
      intro hcode
      rw [← Char.ofNat_toNat c, hcode]
    simp only [isPadding, isSeparator, Bool.or_eq_true, Bool.and_eq_true, decide_eq_true_eq,
      beq_iff_eq]
    obtain rfl | rfl | hbeyond := hranges range hrange
    · exact .inl (.inr ⟨hlow, hhigh⟩)
    · by_cases hcode : c.toNat = 0x20
      · exact .inl (.inl (hspace hcode))
      · exact .inr ⟨hlow, by omega⟩
    · omega
  · exact .inl rfl

theorem not_isPadding_of_isSeparator {c : Char} (h : isSeparator c = true) :
    isPadding c = false := by
  rw [isSeparator, Bool.and_eq_true, decide_eq_true_eq, decide_eq_true_eq] at h
  rw [isPadding, Bool.or_eq_false_iff, beq_eq_false_iff_ne, Bool.and_eq_false_iff,
    decide_eq_false_iff_not, decide_eq_false_iff_not]
  refine ⟨?_, .inr (by omega)⟩
  rintro rfl
  exact absurd h.2 (by decide)

/-- Only padding is cut off. -/
theorem mem_bare_of_not_isPadding {text : List Char} {c : Char} (h : c ∈ normalize text)
    (hc : isPadding c = false) : c ∈ bare text := by
  have hkept : ∀ cs : List Char, c ∈ cs → c ∈ cs.dropWhile isPadding := by
    intro cs hmem
    rw [← List.takeWhile_append_dropWhile (p := isPadding) (l := cs), List.mem_append] at hmem
    refine hmem.resolve_left fun hcut => ?_
    exact absurd (List.all_eq_true.mp List.all_takeWhile c hcut) (by rw [hc]; nofun)
  rw [bare, List.mem_reverse]
  exact hkept _ (List.mem_reverse.mpr (hkept _ h))

/-- The separators are four characters, none of which has a meaning in a number. -/
theorem ne_of_isSeparator {c : Char} (h : isSeparator c = true) :
    asciiDigit? c = none ∧ ∀ mark ∈ ['_', '-', '+', '.', 'e', 'E'], c ≠ mark := by
  rw [isSeparator, Bool.and_eq_true, decide_eq_true_eq, decide_eq_true_eq] at h
  constructor
  · rw [asciiDigit?, if_neg]
    rintro ⟨hlow, -⟩
    have hlow' : 0x30 ≤ c.toNat := hlow
    omega
  · intro mark hmark hsame
    have hmarks : (['_', '-', '+', '.', 'e', 'E'].all fun mark => 0x1F < mark.toNat) = true := rfl
    have := of_decide_eq_true (List.all_eq_true.mp hmarks mark hmark)
    rw [← hsame] at this
    omega

theorem mem_takeDigits_of_isSeparator {text : List Char} {c : Char} (hmem : c ∈ text)
    (hc : isSeparator c = true) : c ∈ (takeDigits text).2 := by
  obtain ⟨hdigit, hmark⟩ := ne_of_isSeparator hc
  have hline : c ≠ '_' := hmark '_' (by decide)
  have hne : ∀ {b n}, asciiDigit? b = some n → c ≠ b := by
    rintro b n hb rfl
    rw [hdigit] at hb
    cases hb
  fun_induction takeDigits text with
  | case1 => cases hmem
  | case2 => exact hmem
  | case3 b d rest _ n _ _ hb digits rest' htake ih =>
    rw [List.mem_cons, List.mem_cons] at hmem
    rw [htake] at ih
    exact ih ((hmem.resolve_left (hne hb)).resolve_left hline)
  | case4 b d rest _ n _ hb => exact (List.mem_cons.mp hmem).resolve_left (hne hb)
  | case5 => exact hmem
  | case6 b rest _ _ n hb digits rest' htake ih =>
    rw [htake] at ih
    exact ih ((List.mem_cons.mp hmem).resolve_left (hne hb))
  | case7 => exact hmem

theorem mem_takeSign_of_isSeparator {text : List Char} {c : Char} (hmem : c ∈ text)
    (hc : isSeparator c = true) : c ∈ (takeSign text).2 := by
  obtain ⟨-, hmark⟩ := ne_of_isSeparator hc
  unfold takeSign
  split
  · exact (List.mem_cons.mp hmem).resolve_left (hmark '-' (by decide))
  · exact (List.mem_cons.mp hmem).resolve_left (hmark '+' (by decide))
  · exact hmem

theorem exponent?_of_isSeparator {text : List Char} {c : Char} (hmem : c ∈ text)
    (hc : isSeparator c = true) : exponent? text = none := by
  obtain ⟨-, hmark⟩ := ne_of_isSeparator hc
  cases text with
  | nil => cases hmem
  | cons e rest =>
    rw [exponent?]
    split
    · next hletter =>
      have hrest : c ∈ rest := by
        refine (List.mem_cons.mp hmem).resolve_left ?_
        rw [Bool.or_eq_true, beq_iff_eq, beq_iff_eq] at hletter
        obtain rfl | rfl := hletter
        · exact hmark 'e' (by decide)
        · exact hmark 'E' (by decide)
      have hleft := mem_takeDigits_of_isSeparator (mem_takeSign_of_isSeparator hrest hc) hc
      generalize takeSign rest = signed at hleft ⊢
      obtain ⟨negative, unsigned⟩ := signed
      dsimp only at hleft ⊢
      split
      · rfl
      · next heq =>
        rw [heq] at hleft
        cases hleft
      · rfl
    · rfl

theorem unsignedDecimal?_of_isSeparator {negative : Bool} {text : List Char} {c : Char}
    (hmem : c ∈ text) (hc : isSeparator c = true) : unsignedDecimal? negative text = none := by
  obtain ⟨-, hmark⟩ := ne_of_isSeparator hc
  have hwhole := mem_takeDigits_of_isSeparator hmem hc
  unfold unsignedDecimal?
  generalize takeDigits text = taken at hwhole ⊢
  obtain ⟨whole, afterWhole⟩ := taken
  dsimp only at hwhole ⊢
  split
  · next rest =>
    have hrest := (List.mem_cons.mp hwhole).resolve_left (hmark '.' (by decide))
    rw [exponent?_of_isSeparator (mem_takeDigits_of_isSeparator hrest hc) hc]
    exact ite_self none
  · dsimp only
    rw [exponent?_of_isSeparator hwhole hc]
    exact ite_self none

/-- No part of a floating-point number is an information separator. -/
theorem not_isSeparator_of_float? {text : List Char} (h : (float? text).isSome = true) :
    ∀ c ∈ bare text, isSeparator c = false := by
  intro c hmem
  rw [Bool.eq_false_iff]
  intro hc
  have hunsigned := mem_takeSign_of_isSeparator hmem hc
  unfold float? at h
  generalize takeSign (bare text) = signed at hunsigned h
  obtain ⟨negative, unsigned⟩ := signed
  dsimp only at hunsigned h
  have hname : ∀ name : String, (name.toList.all fun d => 0x1F < d.toNat) = true →
      String.ofList (unsigned.map Char.toLower) ≠ name := by
    intro name hletters hname
    have hlower : c.toLower ∈ name.toList := by
      rw [← hname, String.toList_ofList]
      exact List.mem_map_of_mem hunsigned
    have hsame : c.toLower = c := by
      unfold Char.toLower
      split
      · next hcapital =>
        rw [isSeparator, Bool.and_eq_true, decide_eq_true_eq, decide_eq_true_eq] at hc
        have hlow : 0x41 ≤ c.toNat := hcapital.1
        omega
      · rfl
    rw [isSeparator, Bool.and_eq_true, decide_eq_true_eq, decide_eq_true_eq] at hc
    have hletter := of_decide_eq_true (List.all_eq_true.mp hletters _ hlower)
    rw [hsame] at hletter
    omega
  rw [unsignedDecimal?_of_isSeparator hunsigned hc] at h
  split at h
  · next hinf =>
    rw [Bool.or_eq_true, beq_iff_eq, beq_iff_eq] at hinf
    cases hinf with
    | inl hinf => exact hname "inf" rfl hinf
    | inr hinf => exact hname "infinity" rfl hinf
  · split at h
    · next hnan => exact hname "nan" rfl (beq_iff_eq.mp hnan)
    · cases h

/-- Characters around a text that stand for padding make no difference. -/
theorem bare_append {before after : List Char}
    (hbefore : ∀ c ∈ before, isPadding (normalChar c) = true)
    (hafter : ∀ c ∈ after, isPadding (normalChar c) = true) (text : List Char) :
    bare (before ++ text ++ after) = bare text := by
  have hfront : ∀ c ∈ before.map normalChar, isPadding c = true :=
    List.forall_mem_map.mpr hbefore
  have hback : ∀ c ∈ after.map normalChar, isPadding c = true := List.forall_mem_map.mpr hafter
  have hback' : ∀ c ∈ (after.map normalChar).reverse, isPadding c = true :=
    fun c hc => hback c (List.mem_reverse.mp hc)
  rw [bare, bare, normalize_eq_map, normalize_eq_map, List.map_append, List.map_append,
    List.append_assoc, List.dropWhile_append_of_pos hfront, List.dropWhile_append]
  split
  · next hempty =>
    rw [List.isEmpty_iff] at hempty
    rw [hempty, ← List.append_nil (after.map normalChar), List.dropWhile_append_of_pos hback]
    rfl
  · rw [List.reverse_append, List.dropWhile_append_of_pos hback']

/-- What is read as a floating-point number is read as the same one without the blanks around it. -/
theorem float?_trim {text : List Char} (h : (float? text).isSome = true) :
    float? (trim text) = float? text := by
  obtain ⟨before, after, htext, hbefore, hafter⟩ := exists_trim text
  have hpadding : ∀ c ∈ text, isBlank c = true → isPadding (normalChar c) = true := by
    intro c hc hblank
    refine (isPadding_or_isSeparator_of_isBlank hblank).resolve_right fun hseparator => ?_
    have hmem : normalChar c ∈ bare text :=
      mem_bare_of_not_isPadding (List.mem_map_of_mem hc) (not_isPadding_of_isSeparator hseparator)
    rw [not_isSeparator_of_float? h _ hmem] at hseparator
    cases hseparator
  have hfront : ∀ c ∈ before, isPadding (normalChar c) = true := by
    refine fun c hc => hpadding c ?_ (hbefore c hc)
    rw [htext, List.append_assoc]
    exact List.mem_append_left _ hc
  have hback : ∀ c ∈ after, isPadding (normalChar c) = true := by
    refine fun c hc => hpadding c ?_ (hafter c hc)
    rw [htext]
    exact List.mem_append_right _ hc
  have hbare : bare text = bare (trim text) := by
    have hcut := bare_append hfront hback (trim text)
    rwa [← htext] at hcut
  rw [float?, float?, hbare]

end Numeral
end Conform

import Conform.Json.Printer
import Conform.Json.Reader

/-
  Strings of JSON that are read back. A string is written with escapes and read as code units, of
  which the characters are made: what is written for a character is read as its units
  (`readUnits_writeChar`), and of the units of a text the text is made again
  (`charactersOf_flatMap_unitsOf`).

  Main result: `readString_written`, for strings written in ASCII, where a character beyond the
  first plane is written as the escapes of a surrogate pair.
-/

namespace Conform

namespace Text

/-! ## Hexadecimal digits -/

theorem hexValue?_digitChar : ∀ d < 16, hexValue? (Nat.digitChar d) = some d := by decide

/-- The last digit comes off the end, and the zeros in front stay. -/
theorem paddedHex_succ {width : Nat} (hwidth : 0 < width) (n : Nat) :
    paddedHex (width + 1) n = paddedHex width (n / 16) ++ [Nat.digitChar (n % 16)] := by
  rw [paddedHex, paddedHex]
  by_cases hn : n < 16
  · have hzeros : List.replicate width '0' = List.replicate (width - 1) '0' ++ ['0'] := by
      rw [← List.replicate_succ', Nat.sub_add_cancel hwidth]
    rw [Nat.toDigits_eq_if (by omega), if_pos hn, Nat.div_eq_of_lt hn, Nat.toDigits_zero,
      Nat.mod_eq_of_lt hn]
    exact congrArg (· ++ _) hzeros
  · rw [Nat.toDigits_eq_if (by omega), if_neg hn, List.length_append, List.length_singleton,
      Nat.add_sub_add_right, List.append_assoc]

theorem paddedHex_four {n : Nat} (hn : n < 0x10000) :
    paddedHex 4 n = [Nat.digitChar (n / 4096), Nat.digitChar (n / 256 % 16),
      Nat.digitChar (n / 16 % 16), Nat.digitChar (n % 16)] := by
  have hfirst : n / 16 / 16 / 16 < 16 := by omega
  rw [paddedHex_succ (by omega), paddedHex_succ (by omega), paddedHex_succ (by omega), paddedHex,
    Nat.toDigits_eq_if (by omega), if_pos hfirst]
  simp [Nat.div_div_eq_div_mul]

end Text

namespace Json

open Text

theorem hexUnit?_digits {n : Nat} (hn : n < 0x10000) :
    hexUnit? (Nat.digitChar (n / 4096)) (Nat.digitChar (n / 256 % 16))
      (Nat.digitChar (n / 16 % 16)) (Nat.digitChar (n % 16)) = some n := by
  have hnumber : numberOf 16 [n / 4096, n / 256 % 16, n / 16 % 16, n % 16] = n := by
    simp only [numberOf, List.foldl]
    omega
  rw [hexUnit?, hexValue?_digitChar _ (by omega), hexValue?_digitChar _ (by omega),
    hexValue?_digitChar _ (by omega), hexValue?_digitChar _ (by omega)]
  exact congrArg some hnumber

/-! ## Code units -/

/-- The code units of a character: a surrogate pair for one beyond the first plane. -/
def unitsOf (c : Char) : List Nat :=
  if c.toNat < 0x10000 then [c.toNat]
  else
    let n := c.toNat - 0x10000
    [0xD800 + n / 0x400, 0xDC00 + n % 0x400]

/-- What is read, with units in front of it. -/
def behindUnits (units : List Nat) (read : Except Problem (List Nat × List Char)) :
    Except Problem (List Nat × List Char) :=
  read.map fun found => (units ++ found.1, found.2)

theorem behindUnits_append (before units : List Nat)
    (read : Except Problem (List Nat × List Char)) :
    behindUnits (before ++ units) read = behindUnits before (behindUnits units read) := by
  cases read <;> simp [behindUnits, Except.map]

theorem readUnits_escapeUnit (opening : List Char) {n : Nat} (hn : n < 0x10000)
    {rest : List Char} (hrest : rest ≠ []) :
    readUnits opening (escapeUnit n ++ rest) = behindUnits [n] (readUnits opening rest) := by
  -- The digits are a unit only if the text goes on behind them.
  obtain ⟨c, rest, rfl⟩ := List.exists_cons_of_ne_nil hrest
  rw [escapeUnit, paddedHex_four hn]
  simp only [List.cons_append, List.nil_append]
  rw [readUnits.eq_def]
  simp only [hexUnit?_digits hn]
  cases readUnits opening (c :: rest) <;> rfl

theorem readUnits_simpleEscape (opening : List Char) {letter c : Char} (hletter : letter ≠ 'u')
    (h : simpleEscape? letter = some c) (rest : List Char) :
    readUnits opening ('\\' :: letter :: rest) =
      behindUnits [c.toNat] (readUnits opening rest) := by
  rw [readUnits]
  · rw [h]
    cases readUnits opening rest <;> rfl
  · exact fun _ _ _ _ _ hu => absurd hu hletter
  · exact hletter

theorem readUnits_plain (opening : List Char) {c : Char} (hquote : c ≠ '"') (hbackslash : c ≠ '\\')
    (hcontrol : 0x20 ≤ c.toNat) (rest : List Char) :
    readUnits opening (c :: rest) = behindUnits [c.toNat] (readUnits opening rest) := by
  rw [readUnits, if_neg (by omega)]
  · cases readUnits opening rest <;> rfl
  · exact hquote
  · exact fun h _ => hbackslash h
  · exact fun _ _ _ _ _ h _ => hbackslash h
  · exact fun _ h _ => hbackslash h
  · exact fun _ _ h _ => hbackslash h

theorem escapeUnit_append_ne_nil (n : Nat) (rest : List Char) : escapeUnit n ++ rest ≠ [] := nofun

/-- No character is half of a surrogate pair. -/
theorem toNat_cases (c : Char) : c.toNat < 0xD800 ∨ 0xDFFF < c.toNat ∧ c.toNat < 0x110000 := c.valid

theorem toNat_lt (c : Char) : c.toNat < 0x110000 := by
  obtain hlow | hhigh := toNat_cases c
  · omega
  · exact hhigh.2

theorem readUnits_escapeCode (opening : List Char) (c : Char) {rest : List Char}
    (hrest : rest ≠ []) :
    readUnits opening (escapeCode c ++ rest) =
      behindUnits (unitsOf c) (readUnits opening rest) := by
  by_cases hc : c.toNat < 0x10000
  · rw [escapeCode, if_pos hc, unitsOf, if_pos hc]
    exact readUnits_escapeUnit opening hc hrest
  · have hbound := toNat_lt c
    have hsecond := escapeUnit_append_ne_nil (0xDC00 + (c.toNat - 0x10000) % 0x400) rest
    rw [escapeCode, if_neg hc, unitsOf, if_neg hc, List.append_assoc,
      readUnits_escapeUnit opening (by omega) hsecond,
      readUnits_escapeUnit opening (by omega) hrest, ← behindUnits_append, List.singleton_append]

/-- What is written for a character is read as its units. -/
theorem readUnits_writeChar (opening : List Char) (c : Char) {rest : List Char}
    (hrest : rest ≠ []) :
    readUnits opening (writeChar strict c ++ rest) =
      behindUnits (unitsOf c) (readUnits opening rest) := by
  -- Seven characters have an escape of one letter.
  have hsimple : ∀ {letter special : Char}, (c == special) = true → letter ≠ 'u' →
      simpleEscape? letter = some special → unitsOf special = [special.toNat] →
      readUnits opening (['\\', letter] ++ rest) =
        behindUnits (unitsOf c) (readUnits opening rest) := by
    intro letter special hspecial hletter hescape hunits
    obtain rfl := eq_of_beq hspecial
    rw [hunits]
    exact readUnits_simpleEscape opening hletter hescape rest
  unfold writeChar
  split
  · next h => exact hsimple h (by decide) rfl rfl
  split
  · next h => exact hsimple h (by decide) rfl rfl
  split
  · next h => exact hsimple h (by decide) rfl rfl
  split
  · next h => exact hsimple h (by decide) rfl rfl
  split
  · next h => exact hsimple h (by decide) rfl rfl
  split
  · next h => exact hsimple h (by decide) rfl rfl
  split
  · next h => exact hsimple h (by decide) rfl rfl
  split
  · exact readUnits_escapeCode opening c hrest
  · next hquote hbackslash _ _ _ _ _ hcode =>
    rw [not_or, not_and] at hcode
    have hascii : c.toNat < 0x7F := Nat.lt_of_not_le (hcode.2 rfl)
    rw [unitsOf, if_pos (by omega)]
    have hplain : c ≠ '"' ∧ c ≠ '\\' := ⟨by simpa using hquote, by simpa using hbackslash⟩
    exact readUnits_plain opening hplain.1 hplain.2 (by omega) rest

/-! ## Characters -/

theorem charactersOf_unitsOf_append (c : Char) (units : List Nat) :
    charactersOf (unitsOf c ++ units) = c :: charactersOf units := by
  by_cases hc : c.toNat < 0x10000
  · have hwhole : (isHighSurrogate c.toNat || isLowSurrogate c.toNat) = false := by
      have hcases := toNat_cases c
      simp only [isHighSurrogate, isLowSurrogate, Bool.or_eq_false_iff, Bool.and_eq_false_iff,
        decide_eq_false_iff_not]
      omega
    rw [Bool.or_eq_false_iff] at hwhole
    rw [unitsOf, if_pos hc, List.singleton_append]
    cases units with
    | nil => simp [charactersOf, hwhole.1, hwhole.2]
    | cons unit units => simp [charactersOf, hwhole.1, hwhole.2]
  · have hbound := toNat_lt c
    have hfirst : isHighSurrogate (0xD800 + (c.toNat - 0x10000) / 0x400) = true := by
      simp only [isHighSurrogate, Bool.and_eq_true, decide_eq_true_iff]
      omega
    have hsecond : isLowSurrogate (0xDC00 + (c.toNat - 0x10000) % 0x400) = true := by
      simp only [isLowSurrogate, Bool.and_eq_true, decide_eq_true_iff]
      omega
    have hcode : 0x10000 + (0xD800 + (c.toNat - 0x10000) / 0x400 - 0xD800) * 0x400 +
        (0xDC00 + (c.toNat - 0x10000) % 0x400 - 0xDC00) = c.toNat := by omega
    rw [unitsOf, if_neg hc, List.cons_append, List.singleton_append, charactersOf, hfirst, hsecond,
      Bool.and_true, if_pos rfl, hcode, Char.ofNat_toNat]

/-- The units of a text are put together to its characters. -/
theorem charactersOf_flatMap_unitsOf (text : List Char) :
    charactersOf (text.flatMap unitsOf) = text := by
  induction text with
  | nil => rfl
  | cons c text ih => rw [List.flatMap_cons, charactersOf_unitsOf_append, ih]

/-- What is written for the characters of a string is read as the string, up to the closing
quote. -/
theorem readString_written (s : String) (rest : List Char) :
    readString (s.toList.flatMap (writeChar strict) ++ '"' :: rest) = .ok (s, rest) := by
  have hunits : ∀ (opening text : List Char),
      readUnits opening (text.flatMap (writeChar strict) ++ '"' :: rest) =
        .ok (text.flatMap unitsOf, rest) := by
    intro opening text
    induction text with
    | nil => rw [List.flatMap_nil, List.nil_append, readUnits, List.flatMap_nil]
    | cons c text ih =>
      rw [List.flatMap_cons, List.append_assoc, readUnits_writeChar opening c (by simp), ih]
      rfl
  rw [readString, hunits]
  change Except.ok (String.ofList (charactersOf (s.toList.flatMap unitsOf)), rest) = _
  rw [charactersOf_flatMap_unitsOf, String.ofList_toList]

end Json
end Conform

import Conform.Proofs.Layouts

/-
  Texts that layouts read. A field of two digits takes both where a mark comes next, because no mark
  is a digit (`exists_of_readItems_pair`).

  Of the layouts for times: each has a hyphen or a slash behind the four digits of a year
  (`exists_of_layout_reads`), none reads a plus sign (`not_plus_of_layout_reads`), and a text that
  ends in the letter for universal time is read by the two that end in it
  (`lettered_of_layout_reads`).
-/

namespace Conform.Layout

open Text

/-! ## Texts that are read digit by digit -/

/-- The number of two digits. -/
def pairValue (a b : Char) : Nat := (a.toNat - 0x30) * 10 + (b.toNat - 0x30)

/-- A field of two digits, of which the first may be left out. -/
def Item.isPair : Item → Bool
  | .month | .day | .hour | .minute | .second => true
  | _ => false

theorem Item.isField_of_isPair {item : Item} (h : item.isPair = true) : item.isField = true := by
  cases item <;> first | rfl | cases h

section

variable {a b : Char} {more rest : List Char} {n : Nat}

theorem digitValue?_of_isDigit (ha : a.isDigit = true) : digitValue? a = some (a.toNat - 0x30) :=
  digitValue?_of_range (range_of_isDigit ha)

theorem eq_of_mem_asciiPair {low high : Nat} (h : (n, rest) ∈ asciiPair low high (a :: b :: more)) :
    n = pairValue a b ∧ rest = more := by
  unfold asciiPair at h
  dsimp only at h
  split at h
  · exact Prod.mk.inj (List.mem_singleton.mp h)
  · cases h

theorem eq_of_mem_pair {low high : Char} (hb : b.isDigit = true)
    (h : (n, rest) ∈ pair low high (a :: b :: more)) : n = pairValue a b ∧ rest = more := by
  simp only [pair, digitValue?_of_isDigit hb] at h
  split at h
  · exact Prod.mk.inj (List.mem_singleton.mp h)
  · cases h

theorem eq_of_mem_single {low : Char} (h : (n, rest) ∈ single low (a :: more)) : rest = more := by
  unfold single at h
  dsimp only at h
  split at h
  · exact (Prod.mk.inj (List.mem_singleton.mp h)).2
  · cases h

theorem eq_of_mem_anySingle (h : (n, rest) ∈ anySingle (a :: more)) : rest = more := by
  unfold anySingle at h
  dsimp only at h
  split at h
  · exact (Prod.mk.inj (List.mem_singleton.mp h)).2
  · cases h

/-- A field of two digits takes both or leaves the second one. -/
theorem Item.eq_of_mem_numbers {item : Item} (hitem : item.isPair = true) (ha : a.isDigit = true)
    (hb : b.isDigit = true) (h : (n, rest) ∈ item.numbers (a :: b :: more)) :
    (n = pairValue a b ∧ rest = more) ∨ rest = b :: more := by
  cases item with
  | month =>
    simp only [numbers, List.mem_append] at h
    obtain (h | h) | h := h
    · exact .inl (eq_of_mem_asciiPair h)
    · exact .inl (eq_of_mem_asciiPair h)
    · exact .inr (eq_of_mem_single h)
  | day =>
    simp only [numbers, List.mem_append] at h
    obtain (((h | h) | h) | h) | h := h
    · exact .inl (eq_of_mem_asciiPair h)
    · exact .inl (eq_of_mem_pair hb h)
    · exact .inl (eq_of_mem_asciiPair h)
    · exact .inr (eq_of_mem_single h)
    · split at h
      · next rest' heq =>
        rw [(List.cons.inj heq).1] at ha
        cases ha
      · cases h
  | hour | second =>
    simp only [numbers, List.mem_append] at h
    obtain (h | h) | h := h
    · exact .inl (eq_of_mem_asciiPair h)
    · exact .inl (eq_of_mem_pair hb h)
    · exact .inr (eq_of_mem_anySingle h)
  | minute =>
    simp only [numbers, List.mem_append] at h
    obtain h | h := h
    · exact .inl (eq_of_mem_pair hb h)
    · exact .inr (eq_of_mem_anySingle h)
  | year | fraction | blanks | mark => cases hitem

/-- No mark of a layout, in neither case, is a digit. -/
def isProperMark (m : Char) : Bool := !m.isDigit && !m.toLower.isDigit

theorem not_isDigit_of_matchesMark {m c : Char} (hm : isProperMark m = true)
    (h : matchesMark m c = true) : c.isDigit = false := by
  rw [isProperMark, Bool.and_eq_true, Bool.not_eq_true', Bool.not_eq_true'] at hm
  rw [matchesMark, Bool.or_eq_true, beq_iff_eq, beq_iff_eq] at h
  obtain rfl | hlower := h
  · exact hm.1
  · rw [Bool.eq_false_iff]
    intro hdigit
    have hkeep : c.toLower = c := by
      have hhigh : c.val.toNat ≤ 0x39 := (range_of_isDigit hdigit).2
      unfold Char.toLower
      rw [dif_neg]
      intro hupper
      have hlow : 65 ≤ c.val.toNat := hupper.1
      omega
    rw [← hlower, hkeep, hdigit] at hm
    cases hm.2

/-- Behind two digits the mark has to be there, for a digit is none. -/
theorem exists_of_readItems_pair {item : Item} (hitem : item.isPair = true) {m : Char}
    (hm : isProperMark m = true) (ha : a.isDigit = true) (hb : b.isDigit = true)
    {items : List Item} {f : Fields} {reading : Fields × List Char}
    (h : reading ∈ readItems (item :: .mark m :: items) f (a :: b :: more)) :
    ∃ c more', more = c :: more' ∧ matchesMark m c = true ∧
      reading ∈ readItems items (item.store f (pairValue a b)) more' := by
  obtain ⟨f', rest, hread, hmarked⟩ := mem_readItems_cons.mp h
  obtain ⟨f'', rest', hmark, hitems⟩ := mem_readItems_cons.mp hmarked
  obtain ⟨c, rfl, hc, rfl⟩ := Item.exists_of_read_mark hmark
  rw [Item.read_of_isField (Item.isField_of_isPair hitem)] at hread
  obtain ⟨⟨n, rest⟩, hn, heq⟩ := List.mem_map.mp hread
  obtain ⟨rfl, rfl⟩ := Prod.mk.inj heq
  obtain ⟨rfl, rfl⟩ | hleft := Item.eq_of_mem_numbers hitem ha hb hn
  · exact ⟨c, rest', rfl, hc, hitems⟩
  · obtain ⟨rfl, -⟩ := List.cons.inj hleft
    rw [not_isDigit_of_matchesMark hm hc] at hb
    cases hb

/-- Behind the four digits of a year the mark has to be there. -/
theorem exists_of_readItems_year {m : Char} (hm : m.isAlpha = false) {c d : Char}
    (ha : a.isDigit = true) (hb : b.isDigit = true) (hc : c.isDigit = true) (hd : d.isDigit = true)
    {items : List Item} {f : Fields} {reading : Fields × List Char}
    (h : reading ∈ readItems (.year :: .mark m :: items) f (a :: b :: c :: d :: more)) :
    ∃ more', more = m :: more' ∧
      reading ∈ readItems items { f with year := pairValue a b * 100 + pairValue c d } more' := by
  obtain ⟨f', rest, hread, hmarked⟩ := mem_readItems_cons.mp h
  obtain ⟨f'', rest', hmark, hitems⟩ := mem_readItems_cons.mp hmarked
  obtain ⟨s, rfl, hs, rfl⟩ := Item.exists_of_read_mark hmark
  obtain rfl := eq_of_matchesMark hm hs
  rw [Item.read_of_isField rfl] at hread
  simp only [Item.numbers, fourDigits, digitValue?_of_isDigit ha, digitValue?_of_isDigit hb,
    digitValue?_of_isDigit hc, digitValue?_of_isDigit hd, List.map_cons, List.map_nil,
    List.mem_singleton] at hread
  obtain ⟨rfl, rfl⟩ := Prod.mk.inj hread
  refine ⟨rest', rfl, ?_⟩
  have hyear : pairValue a b * 100 + pairValue c d = (a.toNat - 0x30) * 1000 +
      (b.toNat - 0x30) * 100 + (c.toNat - 0x30) * 10 + (d.toNat - 0x30) := by
    unfold pairValue
    omega
  rw [hyear]
  exact hitems

/-- A fraction takes one to six digits, and counts in microseconds. -/
theorem exists_of_mem_fractions {text : List Char} (h : (n, rest) ∈ fractions text) :
    ∃ digits, text = digits ++ rest ∧ digits ≠ [] ∧ digits.length ≤ 6 ∧
      (∀ c ∈ digits, c.isDigit = true) ∧
      n = numberOf 10 (digits.map fun c => c.toNat - 0x30) * Nat.pow 10 (6 - digits.length) := by
  obtain ⟨i, hi, heq⟩ := List.mem_map.mp h
  rw [List.mem_reverse, List.mem_range] at hi
  obtain ⟨rfl, rfl⟩ := Prod.mk.inj heq
  have hi' : i < (text.takeWhile Char.isDigit).length := Nat.lt_of_lt_of_le hi (Nat.min_le_left _ _)
  have hsix : i < 6 := Nat.lt_of_lt_of_le hi (Nat.min_le_right _ _)
  obtain ⟨used, htext, hne, hall⟩ := uses_of_takeWhile (P := fun c => c.isDigit = true)
    (fun c hc => hc) hi'
  have hlength : used.length = i + 1 := by
    have hparts := congrArg List.length htext
    have hle := (List.takeWhile_sublist Char.isDigit (l := text)).length_le
    rw [List.length_append, List.length_drop] at hparts
    omega
  have htake : text.take (i + 1) = used := by
    have hsplit : text.take used.length = used := by
      calc text.take used.length = (used ++ text.drop (i + 1)).take used.length := by rw [← htext]
        _ = used := List.take_left
    rwa [hlength] at hsplit
  refine ⟨used, htext, hne, by omega, hall, ?_⟩
  rw [htake, hlength, numberOf, show 6 - (i + 1) = 5 - i by omega]

end

end Conform.Layout

namespace Conform.Conversion

open Layout

def layoutTime? (text : List Char) : Option DateTime :=
  layouts.findSome? fun layout => read? layout text

theorem exists_of_layoutTime? {text : List Char} {t : DateTime} (h : layoutTime? text = some t) :
    ∃ layout ∈ layouts, read? layout text = some t :=
  List.exists_of_findSome?_eq_some h

/-- A time is read by a layout, or in the standard form where no layout fits. -/
theorem timeOfText_eq_ok_iff {s : String} {t : DateTime} :
    timeOfText s = .ok t ↔
      layoutTime? (bareText s) = some t ∨ layoutTime? (bareText s) = none ∧
        Iso.readDateTime (String.ofList (Format.withUniversalOffset (bareText s))) = .ok t := by
  unfold timeOfText layoutTime?
  dsimp only
  split
  · next t' hlayout => simp [hlayout]
  · next hlayout =>
    rw [hlayout]
    split
    · next t' hread => simp [hread]
    · next hread => simp [hread]
    · next error hread => simp [hread]

/-- The layouts that end in the letter for universal time, which is read and then left out. -/
def lettered : List (List Item) := [
  hyphenDate ++ [.mark 'T'] ++ clock ++ [.mark 'Z'],
  hyphenDate ++ [.mark 'T'] ++ clock ++ [.mark '.', .fraction, .mark 'Z']]

theorem layout_eq_of_mem {layout : List Item} (h : layout ∈ layouts) :
    layout = .year :: .mark '-' :: layout.drop 2 ∨
      layout = .year :: .mark '/' :: layout.drop 2 := by
  have hall : ∀ layout ∈ layouts, layout = .year :: .mark '-' :: layout.drop 2 ∨
      layout = .year :: .mark '/' :: layout.drop 2 := by decide
  exact hall layout h

/-- Behind the four digits of the year comes a hyphen or a slash. -/
theorem exists_of_layout_reads {layout : List Item} (hlayout : layout ∈ layouts) {text : List Char}
    {t : DateTime} (h : read? layout text = some t) :
    ∃ a b c d m rest, text = a :: b :: c :: d :: m :: rest ∧ (m = '-' ∨ m = '/') := by
  obtain ⟨f, hread, -⟩ := exists_of_read? h
  have hmark : ∀ {m items}, m.isAlpha = false →
      (f, []) ∈ readItems (.year :: .mark m :: items) {} text →
      ∃ a b c d rest, text = a :: b :: c :: d :: m :: rest := by
    intro m items hm hread
    obtain ⟨f', rest, hyear, hitems⟩ := mem_readItems_cons.mp hread
    rw [Item.read_of_isField rfl] at hyear
    obtain ⟨⟨n, rest'⟩, hn, heq⟩ := List.mem_map.mp hyear
    obtain ⟨-, rfl⟩ := Prod.mk.inj heq
    obtain ⟨a, b, c, d, rfl, -⟩ := exists_of_fourDigits hn
    obtain ⟨f'', rest'', hread', -⟩ := mem_readItems_cons.mp hitems
    obtain ⟨s, rfl, hs, -⟩ := Item.exists_of_read_mark hread'
    obtain rfl := eq_of_matchesMark hm hs
    exact ⟨a, b, c, d, rest'', rfl⟩
  obtain heq | heq := layout_eq_of_mem hlayout
  · rw [heq] at hread
    obtain ⟨a, b, c, d, rest, htext⟩ := hmark (by decide) hread
    exact ⟨a, b, c, d, '-', rest, htext, .inl rfl⟩
  · rw [heq] at hread
    obtain ⟨a, b, c, d, rest, htext⟩ := hmark (by decide) hread
    exact ⟨a, b, c, d, '/', rest, htext, .inr rfl⟩

/-- No layout has a plus sign. -/
theorem not_plus_of_layout_reads {layout : List Item} (hlayout : layout ∈ layouts)
    {text : List Char} {t : DateTime} (h : read? layout text = some t) : '+' ∉ text := by
  have hnone : ∀ layout ∈ layouts, ∀ item ∈ layout, item.mayUse '+' = false := by decide
  intro hplus
  obtain ⟨item, hitem, hmay⟩ := mayUse_of_read? h '+' hplus
  rw [hnone layout hlayout item hitem] at hmay
  cases hmay

/-- What ends in the letter for universal time is read by the layouts that do. -/
theorem lettered_of_layout_reads {layout : List Item} (hlayout : layout ∈ layouts)
    {text : List Char} {t : DateTime} (h : read? layout (text ++ ['Z']) = some t) :
    layout ∈ lettered := by
  have hothers : ∀ layout ∈ layouts, layout ∈ lettered ∨
      ∃ last ∈ [Item.second, .fraction, .day], layout = layout.dropLast ++ [last] := by decide
  have hletter : ∀ last ∈ [Item.second, .fraction, .day], last.mayUse 'Z' = false := by decide
  refine (hothers layout hlayout).resolve_right ?_
  rintro ⟨last, hlast, heq⟩
  rw [heq] at h
  have hmay := mayUse_last_of_read? h
  rw [hletter last hlast] at hmay
  cases hmay

end Conform.Conversion

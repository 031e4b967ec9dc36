import Conform.Conversion.Parsing
import Conform.Fault
import Conform.Proofs.NumberTexts

/-
  What layouts read. An item uses up one or more characters, each of which it may use: a digit of
  some script, a blank, or its mark (`Item.uses_of_read`). So a layout reads no text with a
  character that none of its items may use (`mayUse_of_read?`), and the last item uses the last
  character (`mayUse_last_of_read?`).
-/

namespace Conform.Layout

open Text

/-! ## Items -/

/-- A part of the text was used, one or more characters with the property, and the rest was left. -/
def Uses (P : Char → Prop) (text rest : List Char) : Prop :=
  ∃ used, text = used ++ rest ∧ used ≠ [] ∧ ∀ c ∈ used, P c

theorem Uses.mono {P Q : Char → Prop} {text rest : List Char} (h : Uses P text rest)
    (hpq : ∀ c, P c → Q c) : Uses Q text rest := by
  obtain ⟨used, htext, hne, hall⟩ := h
  exact ⟨used, htext, hne, fun c hc => hpq c (hall c hc)⟩

theorem uses_one {P : Char → Prop} {c : Char} (h : P c) (rest : List Char) :
    Uses P (c :: rest) rest :=
  ⟨[c], rfl, List.cons_ne_nil _ _, fun _ hd => List.mem_singleton.mp hd ▸ h⟩

theorem uses_two {P : Char → Prop} {c d : Char} (hc : P c) (hd : P d) (rest : List Char) :
    Uses P (c :: d :: rest) rest :=
  ⟨[c, d], rfl, List.cons_ne_nil _ _,
    List.forall_mem_cons.mpr ⟨hc, List.forall_mem_cons.mpr ⟨hd, nofun⟩⟩⟩

/-- The character is a digit of some script. -/
abbrev IsNumeral (c : Char) : Prop := isDecimalDigit c = true

theorem digitValue?_of_range {c : Char} (h : '0' ≤ c ∧ c ≤ '9') :
    digitValue? c = some (c.toNat - 0x30) := by
  have hhigh : c.toNat ≤ 0x39 := h.2
  rw [digitValue?_ascii (by omega), if_pos h]

theorem isNumeral_of_range {c low high : Char} (hlow : '0' ≤ low) (hhigh : high ≤ '9')
    (h : low ≤ c ∧ c ≤ high) : IsNumeral c :=
  isDecimalDigit_iff.mpr
    ⟨_, digitValue?_of_range ⟨Char.le_trans hlow h.1, Char.le_trans h.2 hhigh⟩⟩

theorem range_of_isDigit {c : Char} (h : c.isDigit = true) : '0' ≤ c ∧ c ≤ '9' := by
  rw [Char.isDigit, Bool.and_eq_true, decide_eq_true_eq, decide_eq_true_eq] at h
  exact h

theorem isNumeral_of_isDigit {c : Char} (h : c.isDigit = true) : IsNumeral c :=
  isDecimalDigit_iff.mpr ⟨_, digitValue?_of_range (range_of_isDigit h)⟩

section

variable {n : Nat} {text rest : List Char}

theorem uses_of_pair {low high : Char} (hlow : '0' ≤ low) (hhigh : high ≤ '9')
    (h : (n, rest) ∈ pair low high text) : Uses IsNumeral text rest := by
  unfold pair at h
  split at h
  · next c d more =>
    split at h
    · next k hd =>
      split at h
      · next hrange =>
        obtain ⟨-, rfl⟩ := Prod.mk.inj (List.mem_singleton.mp h)
        exact uses_two (isNumeral_of_range hlow hhigh hrange) (isDecimalDigit_iff.mpr ⟨k, hd⟩) _
      · cases h
    · cases h
  · cases h

theorem uses_of_asciiPair {low high : Nat} (h : (n, rest) ∈ asciiPair low high text) :
    Uses IsNumeral text rest := by
  unfold asciiPair at h
  split at h
  · next c d more =>
    dsimp only at h
    split at h
    · next hrange =>
      obtain ⟨-, rfl⟩ := Prod.mk.inj (List.mem_singleton.mp h)
      simp only [Bool.and_eq_true] at hrange
      exact uses_two (isNumeral_of_isDigit hrange.1.1.1) (isNumeral_of_isDigit hrange.1.1.2) _
    · cases h
  · cases h

theorem uses_of_single {low : Char} (hlow : '0' ≤ low) (h : (n, rest) ∈ single low text) :
    Uses IsNumeral text rest := by
  unfold single at h
  split at h
  · next c more =>
    split at h
    · next hrange =>
      obtain ⟨-, rfl⟩ := Prod.mk.inj (List.mem_singleton.mp h)
      exact uses_one (isNumeral_of_range hlow (Char.le_refl _) hrange) _
    · cases h
  · cases h

theorem uses_of_anySingle (h : (n, rest) ∈ anySingle text) : Uses IsNumeral text rest := by
  unfold anySingle at h
  split at h
  · next c more =>
    split at h
    · next k hc =>
      obtain ⟨-, rfl⟩ := Prod.mk.inj (List.mem_singleton.mp h)
      exact uses_one (isDecimalDigit_iff.mpr ⟨k, hc⟩) _
    · cases h
  · cases h

theorem exists_of_fourDigits (h : (n, rest) ∈ fourDigits text) :
    ∃ a b c d, text = a :: b :: c :: d :: rest ∧ ∀ e ∈ [a, b, c, d], IsNumeral e := by
  unfold fourDigits at h
  split at h
  · next a b c d more =>
    split at h
    · next ha hb hc hd =>
      obtain ⟨-, rfl⟩ := Prod.mk.inj (List.mem_singleton.mp h)
      refine ⟨a, b, c, d, rfl, ?_⟩
      simp only [List.forall_mem_cons]
      exact ⟨isDecimalDigit_iff.mpr ⟨_, ha⟩, isDecimalDigit_iff.mpr ⟨_, hb⟩,
        isDecimalDigit_iff.mpr ⟨_, hc⟩, isDecimalDigit_iff.mpr ⟨_, hd⟩, nofun⟩
    · cases h
  · cases h

/-- A beginning of the longest run of characters with a property. -/
theorem uses_of_takeWhile {P : Char → Prop} {p : Char → Bool} (hp : ∀ c, p c = true → P c)
    {i : Nat} (h : i < (text.takeWhile p).length) : Uses P text (text.drop (i + 1)) := by
  have htake : text.take (i + 1) = (text.takeWhile p).take (i + 1) := by
    have hle : i + 1 ≤ (text.takeWhile p).length := h
    calc text.take (i + 1) = (text.takeWhile p ++ text.dropWhile p).take (i + 1) := by
          rw [List.takeWhile_append_dropWhile]
      _ = (text.takeWhile p).take (i + 1) := List.take_append_of_le_length hle
  refine ⟨text.take (i + 1), (List.take_append_drop _ _).symm, fun hnil => ?_, fun c hc => ?_⟩
  · rw [htake, List.take_eq_nil_iff] at hnil
    obtain hzero | hnone := hnil
    · cases hzero
    · rw [hnone] at h
      cases h
  · rw [htake] at hc
    exact hp c (List.all_eq_true.mp List.all_takeWhile c (List.mem_of_mem_take hc))

theorem uses_of_fractions (h : (n, rest) ∈ fractions text) : Uses IsNumeral text rest := by
  obtain ⟨i, hi, heq⟩ := List.mem_map.mp h
  obtain ⟨-, rfl⟩ := Prod.mk.inj heq
  rw [List.mem_reverse, List.mem_range] at hi
  exact uses_of_takeWhile (fun c hc => isNumeral_of_isDigit hc)
    (Nat.lt_of_lt_of_le hi (Nat.min_le_left _ _))

theorem uses_of_afterBlanks (h : rest ∈ afterBlanks text) :
    Uses (fun c => isBlank c = true) text rest := by
  obtain ⟨i, hi, rfl⟩ := List.mem_map.mp h
  rw [List.mem_reverse, List.mem_range] at hi
  exact uses_of_takeWhile (fun c hc => hc) hi

end

/-- The readings of the number of a field. -/
def Item.numbers (item : Item) (text : List Char) : List (Nat × List Char) :=
  match item with
  | .year => fourDigits text
  | .month => asciiPair 10 12 text ++ asciiPair 1 9 text ++ single '1' text
  | .day => asciiPair 30 31 text ++ pair '1' '2' text ++ asciiPair 1 9 text ++ single '1' text
      ++ (match text with
        | ' ' :: rest => single '1' rest
        | _ => [])
  | .hour => asciiPair 20 23 text ++ pair '0' '1' text ++ anySingle text
  | .minute => pair '0' '5' text ++ anySingle text
  | .second => asciiPair 60 61 text ++ pair '0' '5' text ++ anySingle text
  | .fraction => fractions text
  | .blanks | .mark _ => []

/-- The fields with the number of one of them. -/
def Item.store (item : Item) (fields : Fields) (n : Nat) : Fields :=
  match item with
  | .year => { fields with year := n }
  | .month => { fields with month := n }
  | .day => { fields with day := n }
  | .hour => { fields with hour := n }
  | .minute => { fields with minute := n }
  | .second => { fields with second := n }
  | .fraction => { fields with microsecond := n }
  | .blanks | .mark _ => fields

def Item.isField : Item → Bool
  | .blanks | .mark _ => false
  | _ => true

theorem Item.read_of_isField {item : Item} (h : item.isField = true) (fields : Fields)
    (text : List Char) :
    item.read fields text =
      (item.numbers text).map fun (n, rest) => (item.store fields n, rest) := by
  cases item with
  | blanks | mark => cases h
  | _ => rfl

theorem Item.uses_of_numbers {item : Item} {text rest : List Char} {n : Nat}
    (h : (n, rest) ∈ item.numbers text) :
    Uses (fun c => IsNumeral c ∨ isBlank c = true) text rest := by
  have hdigits : Uses IsNumeral text rest →
      Uses (fun c => IsNumeral c ∨ isBlank c = true) text rest :=
    fun huses => huses.mono fun c hc => .inl hc
  have hone : '0' ≤ '1' := by decide
  have hnine : '9' ≤ '9' := by decide
  cases item with
  | year =>
    obtain ⟨a, b, c, d, rfl, hall⟩ := exists_of_fourDigits h
    exact hdigits ⟨[a, b, c, d], rfl, List.cons_ne_nil _ _, hall⟩
  | month =>
    simp only [numbers, List.mem_append] at h
    obtain (h | h) | h := h
    · exact hdigits (uses_of_asciiPair h)
    · exact hdigits (uses_of_asciiPair h)
    · exact hdigits (uses_of_single hone h)
  | day =>
    simp only [numbers, List.mem_append] at h
    obtain (((h | h) | h) | h) | h := h
    · exact hdigits (uses_of_asciiPair h)
    · exact hdigits (uses_of_pair hone (by decide) h)
    · exact hdigits (uses_of_asciiPair h)
    · exact hdigits (uses_of_single hone h)
    · split at h
      · obtain ⟨used, rfl, -, hall⟩ := uses_of_single hone h
        refine ⟨' ' :: used, rfl, List.cons_ne_nil _ _,
          List.forall_mem_cons.mpr ⟨?_, fun c hc => ?_⟩⟩
        · exact .inr isBlank_space
        · exact .inl (hall c hc)
      · cases h
  | hour =>
    simp only [numbers, List.mem_append] at h
    obtain (h | h) | h := h
    · exact hdigits (uses_of_asciiPair h)
    · exact hdigits (uses_of_pair (by decide) (by decide) h)
    · exact hdigits (uses_of_anySingle h)
  | minute =>
    simp only [numbers, List.mem_append] at h
    obtain h | h := h
    · exact hdigits (uses_of_pair (by decide) (by decide) h)
    · exact hdigits (uses_of_anySingle h)
  | second =>
    simp only [numbers, List.mem_append] at h
    obtain (h | h) | h := h
    · exact hdigits (uses_of_asciiPair h)
    · exact hdigits (uses_of_pair (by decide) (by decide) h)
    · exact hdigits (uses_of_anySingle h)
  | fraction => exact hdigits (uses_of_fractions h)
  | blanks | mark => cases h

theorem Item.exists_of_read_mark {m : Char} {fields fields' : Fields} {text rest : List Char}
    (h : (fields', rest) ∈ (Item.mark m).read fields text) :
    ∃ c, text = c :: rest ∧ matchesMark m c = true ∧ fields' = fields := by
  cases text with
  | nil => cases h
  | cons c more =>
    have hmark : (fields', rest) ∈ if matchesMark m c then [(fields, more)] else [] := h
    split at hmark
    · next hc =>
      obtain ⟨rfl, rfl⟩ := Prod.mk.inj (List.mem_singleton.mp hmark)
      exact ⟨c, rfl, hc, rfl⟩
    · cases hmark

/-- Whether an item may use the character: a digit, a blank, or the mark that it is. -/
def Item.mayUse (item : Item) (c : Char) : Bool :=
  isDecimalDigit c || isBlank c || match item with
    | .mark m => matchesMark m c
    | _ => false

theorem Item.uses_of_read {item : Item} {fields fields' : Fields} {text rest : List Char}
    (h : (fields', rest) ∈ item.read fields text) :
    Uses (fun c => item.mayUse c = true) text rest := by
  have hplain : ∀ c, (IsNumeral c ∨ isBlank c = true) → item.mayUse c = true := by
    intro c hc
    unfold mayUse
    rw [(Bool.or_eq_true _ _).mpr hc, Bool.true_or]
  cases hfield : item.isField with
  | true =>
    rw [read_of_isField hfield] at h
    obtain ⟨⟨n, rest'⟩, hn, heq⟩ := List.mem_map.mp h
    obtain ⟨-, rfl⟩ := Prod.mk.inj heq
    exact (uses_of_numbers hn).mono hplain
  | false =>
    cases item with
    | blanks =>
      obtain ⟨rest', hrest, heq⟩ := List.mem_map.mp h
      obtain ⟨-, rfl⟩ := Prod.mk.inj heq
      exact (uses_of_afterBlanks hrest).mono fun c hc => hplain c (.inr hc)
    | mark m =>
      obtain ⟨c, rfl, hc, -⟩ := exists_of_read_mark h
      refine uses_one ?_ rest
      rw [mayUse, hc, Bool.or_true]
    | _ => cases hfield

/-- What is no letter is the small form of no other character. -/
theorem eq_of_toLower_eq {c m : Char} (hm : m.isAlpha = false) (h : c.toLower = m.toLower) :
    c = m := by
  have hkeep : m.toLower = m := by
    unfold Char.toLower
    split
    · next hupper =>
      have hsmall : m.isUpper = false := (Bool.or_eq_false_iff.mp hm).1
      exact absurd hupper (of_decide_eq_false hsmall)
    · rfl
  rw [hkeep] at h
  unfold Char.toLower at h
  split at h
  · next hupper =>
    exfalso
    have hlower : m.isLower ≠ true := Bool.eq_false_iff.mp (Bool.or_eq_false_iff.mp hm).2
    have hlow : 65 ≤ c.val.toNat := hupper.1
    have hhigh : c.val.toNat ≤ 90 := hupper.2
    have hbounds : m.val ≥ 'a'.val ∧ m.val ≤ 'z'.val := by
      rw [← h]
      simp only [ge_iff_le, UInt32.le_iff_toNat_le, UInt32.toNat_add]
      have hdistance : ('a'.val - 'A'.val).toNat = 32 := by decide
      have hfirst : 'a'.val.toNat = 97 := by decide
      have hlast : 'z'.val.toNat = 122 := by decide
      rw [hdistance, hfirst, hlast]
      omega
    exact hlower (Bool.and_eq_true_iff.mpr
      ⟨decide_eq_true hbounds.1, decide_eq_true hbounds.2⟩)
  · exact h

/-- A mark that is no letter matches itself only. -/
theorem eq_of_matchesMark {m c : Char} (hm : m.isAlpha = false) (h : matchesMark m c = true) :
    c = m := by
  rw [matchesMark, Bool.or_eq_true, beq_iff_eq, beq_iff_eq] at h
  exact h.elim id (eq_of_toLower_eq hm)

/-! ## Layouts -/

theorem mem_readItems_cons {item : Item} {items : List Item} {fields : Fields} {text : List Char}
    {reading : Fields × List Char} :
    reading ∈ readItems (item :: items) fields text ↔
      ∃ fields' rest, (fields', rest) ∈ item.read fields text ∧
        reading ∈ readItems items fields' rest := by
  rw [readItems, List.mem_flatMap]
  exact Prod.exists

theorem mem_readItems_append {before after : List Item} {fields : Fields} {text : List Char}
    {reading : Fields × List Char} :
    reading ∈ readItems (before ++ after) fields text ↔
      ∃ fields' rest, (fields', rest) ∈ readItems before fields text ∧
        reading ∈ readItems after fields' rest := by
  induction before generalizing fields text with
  | nil =>
    constructor
    · exact fun h => ⟨fields, text, List.mem_singleton.mpr rfl, h⟩
    · rintro ⟨f, r, hnil, h⟩
      obtain ⟨rfl, rfl⟩ := Prod.mk.inj (List.mem_singleton.mp hnil)
      exact h
  | cons item items ih =>
    simp only [List.cons_append, mem_readItems_cons, ih]
    constructor
    · rintro ⟨f, r, hfirst, f', r', hitems, hafter⟩
      exact ⟨f', r', ⟨f, r, hfirst, hitems⟩, hafter⟩
    · rintro ⟨f', r', ⟨f, r, hfirst, hitems⟩, hafter⟩
      exact ⟨f, r, hfirst, f', r', hitems, hafter⟩

/-- What is used by a layout, one of its items may use. -/
theorem exists_used_of_readItems {items : List Item} {fields fields' : Fields}
    {text rest : List Char} (h : (fields', rest) ∈ readItems items fields text) :
    ∃ used, text = used ++ rest ∧ ∀ c ∈ used, ∃ item ∈ items, item.mayUse c = true := by
  induction items generalizing fields text with
  | nil =>
    obtain ⟨-, rfl⟩ := Prod.mk.inj (List.mem_singleton.mp h)
    exact ⟨[], rfl, nofun⟩
  | cons item items ih =>
    obtain ⟨f, r, hfirst, hitems⟩ := mem_readItems_cons.mp h
    obtain ⟨used, rfl, -, hused⟩ := Item.uses_of_read hfirst
    obtain ⟨further, rfl, hfurther⟩ := ih hitems
    refine ⟨used ++ further, (List.append_assoc _ _ _).symm, fun c hc => ?_⟩
    obtain hc | hc := List.mem_append.mp hc
    · exact ⟨item, List.mem_cons_self, hused c hc⟩
    · obtain ⟨item', hitem', hmay⟩ := hfurther c hc
      exact ⟨item', List.mem_cons_of_mem _ hitem', hmay⟩

/-- The first item cannot leave the first character to others. -/
theorem not_mem_readItems {item : Item} {c : Char} (h : item.mayUse c = false) (items : List Item)
    (f : Fields) (text : List Char) (reading : Fields × List Char) :
    reading ∉ readItems (item :: items) f (c :: text) := by
  intro hread
  obtain ⟨f', rest, hfirst, -⟩ := mem_readItems_cons.mp hread
  obtain ⟨used, htext, hne, hall⟩ := Item.uses_of_read hfirst
  cases used with
  | nil => exact hne rfl
  | cons d used =>
    obtain ⟨rfl, -⟩ := List.cons.inj htext
    rw [hall c List.mem_cons_self] at h
    cases h

theorem exists_of_read? {layout : List Item} {text : List Char} {t : DateTime}
    (h : read? layout text = some t) :
    ∃ f : Fields, (f, []) ∈ readItems layout {} text ∧
      DateTime.make (Date.make f.year f.month f.day) f.hour f.minute f.second f.microsecond none =
        .ok t := by
  unfold read? at h
  split at h
  · next f more hread =>
    exact ⟨f, by rw [hread]; exact List.mem_cons_self, toOption_eq_some.mp h⟩
  · cases h

/-- A layout uses up the text that it reads. -/
theorem mayUse_of_read? {layout : List Item} {text : List Char} {t : DateTime}
    (h : read? layout text = some t) : ∀ c ∈ text, ∃ item ∈ layout, item.mayUse c = true := by
  obtain ⟨f, hread, -⟩ := exists_of_read? h
  obtain ⟨used, htext, hused⟩ := exists_used_of_readItems hread
  rw [htext, List.append_nil]
  exact hused

/-- The last character of the text was used by the last item. -/
theorem mayUse_last_of_read? {items : List Item} {last : Item} {text : List Char} {c : Char}
    {t : DateTime} (h : read? (items ++ [last]) (text ++ [c]) = some t) :
    last.mayUse c = true := by
  obtain ⟨f, hread, -⟩ := exists_of_read? h
  obtain ⟨f', rest, hbefore, hlast⟩ := mem_readItems_append.mp hread
  obtain ⟨f'', rest', hread', hnil⟩ := mem_readItems_cons.mp hlast
  obtain ⟨-, rfl⟩ := Prod.mk.inj (List.mem_singleton.mp hnil)
  obtain ⟨before, htext, -⟩ := exists_used_of_readItems hbefore
  obtain ⟨used, rfl, hne, hused⟩ := Item.uses_of_read hread'
  have hend : used.getLast? = some c := by
    have hwhole := congrArg List.getLast? htext
    rw [List.getLast?_append, List.append_nil, List.getLast?_append,
      List.getLast?_eq_some_getLast hne] at hwhole
    rw [List.getLast?_eq_some_getLast hne]
    exact hwhole.symm
  exact hused c (List.mem_of_getLast? hend)

end Conform.Layout

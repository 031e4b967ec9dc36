import Conform.Proofs.Keeping

/-
  What a conversion promises. `Conversion.Targets` says of every value that a conversion makes that
  it has the type that was asked for, and lies in the range; `Conversion.Takes` says of the value
  that it was made of that a strict conversion was meant for it. Both follow from the guard, the
  function that converts, and the check of what it makes (`targets_of_makes`, `takes_of_makes`).
-/

namespace Conform.Conversion

open Validator

/-- The value is what the conversion was asked for. -/
def Targets : Conversion → Value → Prop
  | .int, y | .intStrict, y => ∃ n, y = .int n
  | .intSafe, y => ∃ n, y = .int n ∧ -9007199254740991 ≤ n ∧ n ≤ 9007199254740991
  | .float, y => ∃ z, y = .float z
  | .number, y => (∃ n, y = .int n) ∨ ∃ z, y = .float z
  | .bool, y | .boolStrict, y | .boolLenient, y => ∃ b, y = .bool b
  | .str, y | .trimmed, y | .lowerCase, y | .upperCase, y | .collapsed, y => ∃ s, y = .str s
  | .datetime, y => ∃ t, y = .datetime t
  | .dateOnly, y => ∃ t, y = .datetime t ∧
      t.hour = 0 ∧ t.minute = 0 ∧ t.second = 0 ∧ t.microsecond = 0
  | .json, _ => True
  | .pieces _, y => ∃ pieces, y = .list pieces

/-- A strict conversion was meant for the value: it is no floating-point number where a whole number
is asked for, and a truth value or the exact text of one where a truth value is. -/
def Takes : Conversion → Value → Prop
  | .intStrict, x | .intSafe, x => ∀ z, x ≠ .float z
  | .boolStrict, x => (∃ b, x = .bool b) ∨ x = .str "true" ∨ x = .str "false"
  | _, _ => True

/-! ## The functions that convert -/

theorem exists_int_of_intOfText {s : String} {y : Value} (h : intOfText s = .ok y) :
    ∃ n, y = .int n := by
  unfold intOfText at h
  split at h
  · split at h
    · cases h
    · exact ⟨_, (Except.ok.inj h).symm⟩
  · cases h

theorem exists_int_of_toInt {x y : Value} (h : toInt x = .ok y) : ∃ n, y = .int n := by
  unfold toInt at h
  split at h
  · exact exists_int_of_intOfText h
  · exact ⟨_, (Except.ok.inj h).symm⟩
  · exact ⟨_, (Except.ok.inj h).symm⟩
  · cases h
  · cases h
  · split at h
    · exact ⟨_, (Except.ok.inj h).symm⟩
    · cases h
  · cases h

theorem exists_float_of_floatOfText {s : String} {y : Value} (h : floatOfText s = .ok y) :
    ∃ z, y = .float z := by
  unfold floatOfText at h
  split at h
  · exact ⟨_, (Except.ok.inj h).symm⟩
  · cases h

theorem exists_float_of_floatOfInt {n : Int} {y : Value} (h : floatOfInt n = .ok y) :
    ∃ z, y = .float z := by
  unfold floatOfInt at h
  split at h
  · exact ⟨_, (Except.ok.inj h).symm⟩
  · cases h

theorem exists_float_of_toFloat {x y : Value} (h : toFloat x = .ok y) : ∃ z, y = .float z := by
  unfold toFloat at h
  split at h
  · exact exists_float_of_floatOfText h
  · exact exists_float_of_floatOfInt h
  · exact exists_float_of_floatOfInt h
  · exact ⟨_, (Except.ok.inj h).symm⟩
  · cases h

theorem exists_bool_of_toBool {x y : Value} (h : toBool x = .ok y) : ∃ b, y = .bool b := by
  cases x <;> exact ⟨_, (Except.ok.inj h).symm⟩

theorem exists_bool_of_toLooseBool {x y : Value} (h : toLooseBool x = .ok y) :
    ∃ b, y = .bool b := by
  cases x with
  | str s =>
    unfold toLooseBool at h
    dsimp only at h
    split at h
    · exact ⟨_, (Except.ok.inj h).symm⟩
    · split at h
      · exact ⟨_, (Except.ok.inj h).symm⟩
      · cases h
  | _ => exact ⟨_, (Except.ok.inj h).symm⟩

theorem exists_str_of_json {x y : Value} (h : toText.json x = .ok y) : ∃ s, y = .str s := by
  unfold toText.json at h
  split at h
  · exact ⟨_, (Except.ok.inj h).symm⟩
  · cases h

theorem exists_str_of_toText {x y : Value} (h : toText x = .ok y) : ∃ s, y = .str s := by
  unfold toText at h
  split at h
  · exact ⟨_, (Except.ok.inj h).symm⟩
  · exact ⟨_, (Except.ok.inj h).symm⟩
  · exact ⟨_, (Except.ok.inj h).symm⟩
  · exact ⟨_, (Except.ok.inj h).symm⟩
  · exact exists_str_of_json h
  · exact exists_str_of_json h
  · split at h
    · exact ⟨_, (Except.ok.inj h).symm⟩
    · cases h

theorem exists_str_of_mapText {f : List Char → List Char} {x y : Value}
    (h : mapText f x = .ok y) : ∃ s, y = .str s := by
  cases x with
  | str s => exact ⟨_, (Except.ok.inj h).symm⟩
  | _ => cases h

/-! ## Guards -/

theorem takes_of_guard {c : Conversion} {x g : Value} (h : c.guard.Accepts x g) : c.Takes x := by
  have hwhole :
      ∀ z, ¬ (anyOf [isKind .int none, hasFormat .int none] none).Accepts (.float z) g := by
    intro z haccepts
    obtain ⟨v, hv, hmember⟩ := exists_of_accepts_anyOf haccepts
    obtain rfl | rfl : v = isKind .int none ∨ v = hasFormat .int none := by simpa using hv
    · cases ((accepts_ofPredicate _ _ _ _).mp hmember).1
    · cases ((accepts_ofPredicate _ _ _ _).mp hmember).1
  cases c with
  | intStrict | intSafe =>
    rintro z rfl
    exact hwhole z h
  | boolStrict =>
    obtain ⟨v, hv, hmember⟩ := exists_of_accepts_anyOf h
    obtain rfl | rfl : v = isKind .bool none ∨ v = isOneOf [.str "true", .str "false"] none := by
      simpa using hv
    · have haccepted := ((accepts_ofPredicate _ _ _ _).mp hmember).1
      cases x with
      | bool b => exact .inl ⟨b, rfl⟩
      | _ => cases haccepted
    · have haccepted := ((accepts_ofPredicate _ _ _ _).mp hmember).1
      have hamong : x.isAmong [.str "true", .str "false"] = true := Except.ok.inj haccepted
      cases x with
      | str s => exact .inr (by simpa [Value.isAmong, Value.equals] using hamong)
      | _ =>
        simp [Value.isAmong, Value.equals, Value.number?, Value.members?, Value.isNull] at hamong
  | _ => trivial

theorem takes_of_makes {c : Conversion} {x y : Value} (h : c.Makes x y) : c.Takes x := by
  obtain ⟨⟨g, hguard⟩, -⟩ := (c.makes_iff x y).mp h
  exact takes_of_guard hguard

/-- Whole numbers are in order as they are as values. -/
theorem relatedOrFalse_le_int (m n : Int) :
    Predicate.relatedOrFalse .le (.int m) (.int n) = true ↔ m ≤ n := by
  have hcompare : Predicate.relatedOrFalse .le (.int m) (.int n) =
      Relation.le.holdsFor (compare m n) := by
    simp [Predicate.relatedOrFalse, Value.related, Value.number?, Value.relatedNumbers,
      Number.compare?_ofInt]
  rw [hcompare, Relation.holdsFor, bne_iff_ne]
  exact Int.compare_ne_gt

theorem accepts_safeInt_iff (n : Int) : Predicate.safeInt.accepts (.int n) = .ok true ↔
    -9007199254740991 ≤ n ∧ n ≤ 9007199254740991 := by
  have hmax : Predicate.maxSafeInt = 9007199254740991 := rfl
  rw [Predicate.accepts, Except.ok.injEq, Bool.and_eq_true, relatedOrFalse_le_int,
    relatedOrFalse_le_int, hmax]

/-- What is no text stays as it is, so the guard has to ask for a number. -/
theorem targets_number {x g y : Value} (hguard : Conversion.number.guard.Accepts x g)
    (h : toNumber x = .ok y) : Conversion.number.Targets y := by
  obtain ⟨v, hv, hmember⟩ := exists_of_accepts_anyOf hguard
  obtain rfl | rfl : v = isNumber none ∨ v = isNumberString none := by simpa using hv
  · have haccepted := ((accepts_ofPredicate _ _ _ _).mp hmember).1
    cases x with
    | int n => exact .inl ⟨n, (Except.ok.inj h).symm⟩
    | float z => exact .inr ⟨z, (Except.ok.inj h).symm⟩
    | _ => cases haccepted
  · obtain ⟨w, hw, hformat⟩ := exists_of_accepts_anyOf hmember
    obtain ⟨format, rfl⟩ : ∃ format, w = hasFormat format none := by
      obtain rfl | rfl : w = hasFormat .int none ∨ w = hasFormat .float none := by simpa using hw
      · exact ⟨_, rfl⟩
      · exact ⟨_, rfl⟩
    have haccepted := ((accepts_ofPredicate _ _ _ _).mp hformat).1
    cases x with
    | str s =>
      unfold toNumber at h
      dsimp only at h
      split at h
      · exact .inl (exists_int_of_intOfText h)
      · exact .inr (exists_float_of_floatOfText h)
    | _ => cases haccepted

theorem targets_of_makes {c : Conversion} {x y : Value} (h : c.Makes x y) : c.Targets y := by
  obtain ⟨⟨g, hguard⟩, hconvert, hinner⟩ := (c.makes_iff x y).mp h
  cases c with
  | int | intStrict => exact exists_int_of_toInt hconvert
  | intSafe =>
    obtain ⟨n, rfl⟩ := exists_int_of_toInt hconvert
    obtain ⟨z, hsafe, -⟩ := (accepts_and _ _ _ _).mp hinner
    exact ⟨n, rfl, (accepts_safeInt_iff n).mp ((accepts_ofPredicate _ _ _ _).mp hsafe).1⟩
  | float => exact exists_float_of_toFloat hconvert
  | number => exact targets_number hguard hconvert
  | bool | boolStrict => exact exists_bool_of_toBool hconvert
  | boolLenient => exact exists_bool_of_toLooseBool hconvert
  | str => exact exists_str_of_toText hconvert
  | trimmed | lowerCase | upperCase | collapsed => exact exists_str_of_mapText hconvert
  | datetime =>
    obtain ⟨t, -, rfl⟩ := exists_of_map_eq_ok hconvert
    exact ⟨t, rfl⟩
  | dateOnly =>
    obtain ⟨t, -, rfl⟩ := exists_of_map_eq_ok hconvert
    exact ⟨t.atMidnight, rfl, rfl, rfl, rfl, rfl⟩
  | json => trivial
  | pieces separator =>
    cases x with
    | str s =>
      obtain ⟨pieces, -, rfl⟩ := exists_of_map_eq_ok hconvert
      exact ⟨_, rfl⟩
    | _ => cases hconvert

end Conform.Conversion

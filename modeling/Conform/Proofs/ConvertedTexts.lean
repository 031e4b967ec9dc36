import Conform.Proofs.Verdicts

/-
  What conversions make of texts. The guard of a conversion lets a text pass by its format alone
  (`admitsText`, `judges_guard_text`), and a text that passes is converted or fails
  (`makes_text_iff`, `fails_of_admitsText`).
-/

namespace Conform.Conversion

open Validator

/-! ## Guards -/

/-- Whether the guard of a conversion lets a text pass. -/
def admitsText (c : Conversion) (s : String) : Bool :=
  match c with
  | .int | .intStrict | .intSafe => Format.isIntText s.toList
  | .float => Format.isFloatText s.toList
  | .number => Format.isIntText s.toList || Format.isFloatText s.toList
  | .bool => Format.isBoolText s.toList
  | .boolStrict => s == "true" || s == "false"
  | .boolLenient => Format.isLooseBoolText s.toList
  | _ => true

theorem run_judges_hasFormat (f : TextFormat) (s : String) :
    ((hasFormat f none).evaluate .plain (.str s)).Judges (.str s) (f.holds s.toList) :=
  run_judges_ofPredicate (isTotal_formatted f) rfl none _

theorem accepts_hasFormat_iff (f : TextFormat) (s : String) :
    (hasFormat f none).Accepts (.str s) (.str s) ↔ f.holds s.toList = true :=
  ((run_judges_hasFormat f s).accepts_iff _).trans (and_iff_left rfl)

theorem run_judges_isNumberString (s : String) :
    ((isNumberString none).evaluate .plain (.str s)).Judges (.str s)
      (Conversion.number.admitsText s) := by
  have hany : [TextFormat.int.holds s.toList, TextFormat.float.holds s.toList].any id =
      Conversion.number.admitsText s := by
    simp only [List.any_cons, List.any_nil, Bool.or_false, id, TextFormat.holds, admitsText]
  rw [← hany]
  exact run_judges_anyOf (.cons (run_judges_hasFormat .int s)
    (.cons (run_judges_hasFormat .float s) .nil)) none .plain

theorem judges_guard_text (c : Conversion) (s : String) :
    (c.guard.evaluate .plain (.str s)).Judges (.str s) (c.admitsText s) := by
  have hkind : ∀ k, (k == .str) = false →
      ((isKind k none).evaluate .plain (.str s)).Judges (.str s) false :=
    fun k hk => run_judges_ofPredicate (isTotal_isType _ _ _) (by cases k <;> trivial) none _
  have htext : ((isString none).evaluate .plain (.str s)).Judges (.str s) true :=
    run_judges_ofPredicate (isTotal_isType _ _ _) rfl none _
  have hnumber : ((isNumber none).evaluate .plain (.str s)).Judges (.str s) false :=
    run_judges_ofPredicate (isTotal_isType _ _ _) rfl none _
  have hday : ((isDay none).evaluate .plain (.str s)).Judges (.str s) false :=
    run_judges_ofPredicate (isTotal_isType _ _ _) rfl none _
  have hformat := fun f => run_judges_hasFormat f s
  have hbits :
      ((isOneOf [.int 0, .int 1] none).evaluate .plain (.str s)).Judges (.str s) false := by
    refine run_judges_ofPredicate isTotal_oneOf_bits ?_ none _
    simp [Predicate.accepts, Value.isAmong, Value.equals]
  have hwords : ((isOneOf [.str "true", .str "false"] none).evaluate .plain (.str s)).Judges
      (.str s) (s == "true" || s == "false") := by
    refine run_judges_ofPredicate (isTotal_oneOf rfl) ?_ none _
    simp [Predicate.accepts, Value.isAmong, Value.equals]
  have hchoice : ∀ {vs : List Validator} {oks : List Bool} {ok : Bool},
      List.Forall₂ (fun v ok => (v.evaluate .plain (.str s)).Judges (.str s) ok) vs oks →
      oks.any id = ok → ((anyOf vs none).evaluate .plain (.str s)).Judges (.str s) ok :=
    fun h hok => hok ▸ run_judges_anyOf h none .plain
  have hlast : ∀ ok, [false, ok].any id = ok := by decide
  have hlast' : ∀ ok, [false, false, ok].any id = ok := by decide
  cases c with
  | int =>
    exact hchoice (.cons (hkind .int rfl) (.cons hnumber (.cons (hformat .int) .nil))) (hlast' _)
  | intStrict | intSafe =>
    exact hchoice (.cons (hkind .int rfl) (.cons (hformat .int) .nil)) (hlast _)
  | float =>
    exact hchoice (.cons (hkind .float rfl) (.cons hnumber (.cons (hformat .float) .nil)))
      (hlast' _)
  | number => exact hchoice (.cons hnumber (.cons (run_judges_isNumberString s) .nil)) (hlast _)
  | bool =>
    exact hchoice (.cons (hkind .bool rfl) (.cons hbits (.cons (hformat .bool) .nil))) (hlast' _)
  | boolStrict => exact hchoice (.cons (hkind .bool rfl) (.cons hwords .nil)) (hlast _)
  | boolLenient =>
    exact hchoice (.cons (hkind .bool rfl) (.cons hbits (.cons (hformat .looseBool) .nil)))
      (hlast' _)
  | str => exact run_judges_ofPredicate isTotal_notNull rfl none _
  | datetime | dateOnly => exact hchoice (.cons hday (.cons htext .nil)) (hlast _)
  | json =>
    exact hchoice (.cons htext (.cons (hkind .map rfl) (.cons (hkind .list rfl) .nil))) rfl
  | trimmed | lowerCase | upperCase | collapsed | pieces => exact htext

/-! ## What is made of a text -/

/-- The conversion fails on a value that its guard has let pass. -/
def Fails (c : Conversion) (x : Value) : Prop :=
  ∃ problem, ((c.apply .valid none).evaluate .plain x).outcome? =
    some (.ok (.refusal x (Check.unconvertible c.target x problem)))

theorem not_fails_of_makes {c : Conversion} {x z : Value} (h : c.Makes x z) : ¬ c.Fails x := by
  rintro ⟨problem, hfails⟩
  obtain ⟨r, hr, hvalid, -⟩ := h
  rw [hfails] at hr
  obtain rfl := Except.ok.inj (Option.some.inj hr)
  rw [Result.isValid_refusal] at hvalid
  cases hvalid

theorem fails_of_admitsText {c : Conversion} {s problem : String} (hadmits : c.admitsText s = true)
    (hconvert : c.convert (.str s) = .error problem) : c.Fails (.str s) := by
  obtain ⟨r, hr, hvalid, -⟩ := c.judges_guard_text s
  have hplain : c.apply .valid none =
      .coercion c.target c.guard c.convert (c.inner .valid) {} := rfl
  refine ⟨problem, ?_⟩
  rw [hplain, evaluate_of_unset rfl, body_coercion, Check.coerced, hconvert, Run.bind_eq,
    toCheck_run, hr, Run.bind_done, hvalid, hadmits]
  rfl

/-- What a conversion without a bound makes of a text. -/
theorem makes_text_iff {c : Conversion} (hinner : c.inner .valid = .valid) (s : String)
    (z : Value) :
    c.Makes (.str s) z ↔ c.admitsText s = true ∧ c.convert (.str s) = .ok z := by
  have hguard : (∃ g, c.guard.Accepts (.str s) g) ↔ c.admitsText s = true := by
    unfold Validator.Accepts
    simp only [(c.judges_guard_text s).accepts_iff, exists_and_left, exists_eq, and_true]
  have hvalid : (c.inner .valid).Accepts z z := by
    rw [hinner, accepts_valid]
  rw [makes_iff, hguard, and_iff_left hvalid]

theorem datetime_makes_iff {s : String} {y : Value} :
    Conversion.datetime.Makes (.str s) y ↔ ∃ d, timeOfText s = .ok d ∧ y = .datetime d := by
  rw [makes_text_iff rfl]
  constructor
  · rintro ⟨-, hconvert⟩
    obtain ⟨d, hd, rfl⟩ := exists_of_map_eq_ok hconvert
    exact ⟨d, hd, rfl⟩
  · rintro ⟨d, hd, rfl⟩
    exact ⟨rfl, congrArg (Except.map Value.datetime) hd⟩

theorem dateOnly_makes_iff {s : String} {y : Value} :
    Conversion.dateOnly.Makes (.str s) y ↔
      ∃ d, timeOfText s = .ok d ∧ y = .datetime d.atMidnight := by
  rw [makes_text_iff rfl]
  constructor
  · rintro ⟨-, hconvert⟩
    obtain ⟨d, hd, rfl⟩ := exists_of_map_eq_ok hconvert
    exact ⟨d, hd, rfl⟩
  · rintro ⟨d, hd, rfl⟩
    exact ⟨rfl, congrArg (Except.map fun t : DateTime => Value.datetime t.atMidnight) hd⟩

end Conform.Conversion

import Conform.Proofs.EntryPoints
import Conform.Proofs.Faults
import Conform.Proofs.FormattedTexts
import Conform.Proofs.SettledValues

/-
  Stricter and more lenient conversions. What a stricter conversion makes of a value, a more lenient
  one makes of it too, so a child behind it is shown the same. At both entry points a conversion
  accepts what its child accepts of what the conversion makes (`accepts_validated_apply`), for the
  guards of conversions answer at once.

  Main result: `stricter_accepts_less`. The conversion to whole numbers within the safe range is the
  strict one with a bound in front of the child, and past the bound the child has no part in the run
  (`evaluate_intSafe_congr`).
-/

namespace Conform

namespace Run

theorem accepts_carriedOut_bind {α : Type} {awaiting : Bool} {run : Run α}
    {next : α → Run Result} {y : Value} :
    ((run.bind next).carriedOut awaiting).Accepts y ↔
      ∃ a, (run.carriedOut awaiting).outcome? = some (.ok a) ∧
        ((next a).carriedOut awaiting).Accepts y := by
  rw [carriedOut_bind, accepts_bind]

/-- What is done to invalid results alone does not change what is accepted. -/
theorem accepts_carriedOut_bind_done {f : Result → Result}
    (hvalid : ∀ r, (f r).isValid = r.isValid)
    (hvalue : ∀ r, r.isValid = true → (f r).value = r.value) (awaiting : Bool) (run : Run Result)
    (y : Value) :
    ((run.bind fun r => .done (f r)).carriedOut awaiting).Accepts y ↔
      (run.carriedOut awaiting).Accepts y := by
  rw [accepts_carriedOut_bind]
  refine exists_congr fun r => and_congr_right fun _ => ?_
  rw [carriedOut_done, accepts_done, hvalid]
  exact and_congr_right fun h => by rw [hvalue r h]

end Run

namespace Validator

/-! ## Entry points -/

theorem accepts_validated_iff (awaiting : Bool) (v : Validator) (x : Value) (present : Bool)
    (y : Value) : (v.validated awaiting x present).Accepts y ↔
      ((v.evaluate ⟨present, none⟩ x).carriedOut awaiting).Accepts y :=
  exists_congr fun r => and_congr_left fun _ => outcome?_validated_iff awaiting v x present r

theorem rejects_ofPredicate {p : Predicate} {x : Value} (h : p.accepts x = .ok false)
    (message : Option Value) (site : Site) : ((ofPredicate p message).evaluate site x).Rejects := by
  rw [evaluate_ofPredicate_of_rejects h]
  exact Run.rejects_bind fun e => Run.rejects_refusal x e .null

/-- A message for its failures does not change what a validator accepts that asks for no place. -/
theorem accepts_carriedOut_withMessage? {v : Validator} {site : Site} {x : Value}
    (hsite : v.evaluate .plain x = v.evaluate site x) (message : Option Value) (awaiting : Bool)
    (y : Value) :
    (((withMessage? message v).evaluate site x).carriedOut awaiting).Accepts y ↔
      ((v.evaluate site x).carriedOut awaiting).Accepts y := by
  unfold withMessage?
  split
  · rw [withMessage, withExpectation, evaluate_of_unset rfl, body_replacement, Check.replaced,
      Run.bind_eq, toCheck_run, hsite, Run.accepts_carriedOut_bind]
    refine exists_congr fun r => and_congr_right fun _ => ?_
    split
    · rw [Run.carriedOut_done, Run.accepts_done]
    · next h => simp [Result.isValid, h]
  · rfl

theorem evaluate_withMessage?_congr {v w : Validator} {x : Value}
    (h : ∀ site, v.evaluate site x = w.evaluate site x) (message : Option Value) (site : Site) :
    (withMessage? message v).evaluate site x = (withMessage? message w).evaluate site x := by
  unfold withMessage?
  split
  · simp only [withMessage, withExpectation]
    rw [evaluate_of_unset rfl, evaluate_of_unset rfl, body_replacement, body_replacement,
      Check.replaced, Check.replaced, toCheck_run, toCheck_run, h]
  · exact h site

theorem accepts_carriedOut_coercion {guard : Validator} (hguard : guard.Answers) (target : String)
    (convert : Value → Except String Value) (child : Validator) (awaiting : Bool) (site : Site)
    (x y : Value) :
    (((Validator.coercion target guard convert child {}).evaluate site x).carriedOut
        awaiting).Accepts y ↔
      (∃ g, guard.Accepts x g) ∧
        ∃ z, convert x = .ok z ∧ ((child.evaluate .plain z).carriedOut awaiting).Accepts y := by
  obtain ⟨r, hr⟩ := hguard x
  have haccepts : (∃ g, guard.Accepts x g) ↔ r.isValid = true := by
    simp [Validator.Accepts, hr, Run.accepts_done]
  rw [haccepts, evaluate_of_unset rfl, body_coercion, Check.coerced, Run.bind_eq, toCheck_run, hr,
    Run.bind_done]
  split
  · next hvalid =>
    cases convert x with
    | ok z => simp [hvalid, toCheck_run]
    | error problem => simp
  · next hinvalid => simp [hinvalid, Run.accepts_done]

/-- A check in front of a child lets through what it accepts. -/
theorem accepts_carriedOut_and {p : Predicate} (h : p.IsTotal) (child : Validator) (awaiting : Bool)
    (site : Site) (x y : Value) :
    ((((ofPredicate p none).and child).evaluate site x).carriedOut awaiting).Accepts y ↔
      p.accepts x = .ok true ∧ ((child.evaluate .plain x).carriedOut awaiting).Accepts y := by
  obtain ⟨ok, hok⟩ := h.accepts x
  cases ok with
  | true =>
    rw [evaluate_and_of_accepts (evaluate_ofPredicate_of_accepts hok none .plain),
      Run.accepts_carriedOut_bind_done (Result.isValid_behind x) fun r _ => Result.value_behind x r]
    exact (and_iff_right hok).symm
  | false =>
    rw [evaluate_and_of_rejects (rejects_ofPredicate hok none .plain),
      evaluate_ofPredicate_of_rejects hok,
      expectation_of_hasMessage h.hasMessage h.ne_brokenPattern]
    refine iff_of_false ?_ fun haccepted => ?_
    · rw [show Run.ofExcept (.ok _) = Run.done _ from rfl, Run.bind_done, Run.carriedOut_done]
      exact Run.not_accepts_refusal _ _ _ _
    · cases hok.symm.trans haccepted.1

/-- Behind a check a child has no part in the runs on values that the check rejects. -/
theorem evaluate_and_congr {p : Predicate} (h : p.IsTotal) {child child' : Validator} {x : Value}
    (hchild : p.accepts x = .ok true → child.evaluate .plain x = child'.evaluate .plain x)
    (site : Site) :
    ((ofPredicate p none).and child).evaluate site x =
      ((ofPredicate p none).and child').evaluate site x := by
  obtain ⟨ok, hok⟩ := h.accepts x
  cases ok with
  | true =>
    have haccepts := evaluate_ofPredicate_of_accepts hok none .plain
    rw [evaluate_and_of_accepts haccepts, evaluate_and_of_accepts haccepts, hchild hok]
  | false =>
    have hrejects := rejects_ofPredicate hok none .plain
    rw [evaluate_and_of_rejects hrejects, evaluate_and_of_rejects hrejects]

end Validator

namespace Conversion

open Validator

theorem accepts_carriedOut_inner (c : Conversion) (child : Validator) (awaiting : Bool)
    (z y : Value) :
    (((c.inner child).evaluate .plain z).carriedOut awaiting).Accepts y ↔
      (c.inner .valid).Accepts z z ∧ ((child.evaluate .plain z).carriedOut awaiting).Accepts y := by
  cases c with
  | intSafe =>
    rw [accepts_inner_intSafe_iff]
    exact accepts_carriedOut_and isTotal_safeInt child awaiting .plain z y
  | _ => exact (and_iff_right ((accepts_valid z z).mpr rfl)).symm

/-- A conversion accepts at an entry point what its child accepts there of what the conversion
makes. -/
theorem accepts_validated_apply (c : Conversion) (child : Validator) (message : Option Value)
    (awaiting : Bool) (x : Value) (present : Bool) (y : Value) :
    ((c.apply child message).validated awaiting x present).Accepts y ↔
      ∃ z, c.Makes x z ∧ (child.validated awaiting z true).Accepts y := by
  have hsite :
      (Validator.coercion c.target c.guard c.convert (c.inner child) {}).evaluate .plain x =
        (Validator.coercion c.target c.guard c.convert (c.inner child) {}).evaluate
          ⟨present, none⟩ x := by
    rw [evaluate_of_unset rfl, evaluate_of_unset rfl, body_coercion, body_coercion]
  rw [accepts_validated_iff, apply, accepts_carriedOut_withMessage? hsite,
    accepts_carriedOut_coercion (Composition.answers_guard c)]
  simp only [accepts_carriedOut_inner, accepts_validated_iff, makes_iff]
  constructor
  · rintro ⟨hguard, z, hconvert, hinner, hchild⟩
    exact ⟨z, ⟨hguard, hconvert, hinner⟩, hchild⟩
  · rintro ⟨z, ⟨hguard, hconvert, hinner⟩, hchild⟩
    exact ⟨hguard, z, hconvert, hinner, hchild⟩

/-! ## Whole numbers -/

/-- The safe range of whole numbers. -/
def IsSafe (n : Int) : Prop := -9007199254740991 ≤ n ∧ n ≤ 9007199254740991

theorem makes_intSafe_iff (x z : Value) :
    Conversion.intSafe.Makes x z ↔ Conversion.intStrict.Makes x z ∧
      ∃ n, z = .int n ∧ IsSafe n := by
  constructor
  · intro h
    obtain ⟨hguard, hconvert, -⟩ := (makes_iff _ _ _).mp h
    exact ⟨(makes_iff _ _ _).mpr ⟨hguard, hconvert, (accepts_valid z z).mpr rfl⟩,
      targets_of_makes h⟩
  · rintro ⟨h, n, rfl, hrange⟩
    obtain ⟨hguard, hconvert, -⟩ := (makes_iff _ _ _).mp h
    exact (makes_iff _ _ _).mpr ⟨hguard, hconvert,
      (accepts_inner_intSafe_iff _).mpr ((accepts_safeInt_iff n).mpr hrange)⟩

theorem evaluate_intSafe_congr {child child' : Validator}
    (h : ∀ n, IsSafe n → child.evaluate .plain (.int n) = child'.evaluate .plain (.int n))
    (message : Option Value) (site : Site) (x : Value) :
    (Conversion.intSafe.apply child message).evaluate site x =
      (Conversion.intSafe.apply child' message).evaluate site x := by
  have hcoercion : ∀ site,
      (Validator.coercion "int" Conversion.intSafe.guard toInt
        (Conversion.intSafe.inner child) {}).evaluate site x =
      (Validator.coercion "int" Conversion.intSafe.guard toInt
        (Conversion.intSafe.inner child') {}).evaluate site x := by
    intro site
    rw [evaluate_of_unset rfl, evaluate_of_unset rfl, body_coercion, body_coercion, Check.coerced,
      Check.coerced, Run.bind_eq, Run.bind_eq]
    congr 1
    funext r
    cases hconvert : toInt x with
    | error problem => rfl
    | ok z =>
      obtain ⟨n, rfl⟩ := exists_int_of_toInt hconvert
      have hchild : (Conversion.intSafe.inner child).evaluate .plain (.int n) =
          (Conversion.intSafe.inner child').evaluate .plain (.int n) :=
        evaluate_and_congr isTotal_safeInt (fun hsafe => h n ((accepts_safeInt_iff n).mp hsafe))
          .plain
      simp only [toCheck_run, hchild]
  exact evaluate_withMessage?_congr hcoercion message site

/-- The strict conversion to whole numbers takes these and texts of them. -/
theorem eq_int_or_text_of_makes {x z : Value} (h : Conversion.intStrict.Makes x z) :
    (∃ n, x = .int n) ∨ ∃ s, x = .str s := by
  obtain ⟨⟨g, hguard⟩, -⟩ := (makes_iff _ _ _).mp h
  obtain ⟨v, hv, hmember⟩ := exists_of_accepts_anyOf hguard
  obtain rfl | rfl : v = isKind .int none ∨ v = hasFormat .int none := by simpa using hv
  · have haccepted := ((accepts_ofPredicate _ _ _ _).mp hmember).1
    cases x with
    | int n => exact .inl ⟨n, rfl⟩
    | _ => cases haccepted
  · have haccepted := ((accepts_ofPredicate _ _ _ _).mp hmember).1
    cases x with
    | str s => exact .inr ⟨s, rfl⟩
    | _ => cases haccepted

theorem makes_int_of_makes_intStrict {x z : Value} (h : Conversion.intStrict.Makes x z) :
    Conversion.int.Makes x z := by
  obtain ⟨n, rfl⟩ | ⟨s, rfl⟩ := eq_int_or_text_of_makes h
  · obtain rfl := Except.ok.inj ((makes_iff _ _ _).mp h).2.1
    exact makes_of_targets (by simp [toTypes]) ⟨n, rfl⟩
  · rw [makes_text_iff rfl] at h ⊢
    exact h

theorem makes_number_of_makes_intStrict {x z : Value} (h : Conversion.intStrict.Makes x z) :
    Conversion.number.Makes x z := by
  obtain ⟨n, rfl⟩ | ⟨s, rfl⟩ := eq_int_or_text_of_makes h
  · obtain rfl := Except.ok.inj ((makes_iff _ _ _).mp h).2.1
    exact makes_of_targets (by simp [toTypes]) (.inl ⟨n, rfl⟩)
  · rw [makes_text_iff rfl] at h ⊢
    obtain ⟨hadmits, hconvert⟩ := h
    have hbare : Format.isIntText (bareText s) = true := (isIntText_bareText s).trans hadmits
    refine ⟨?_, ?_⟩
    · rw [admitsText, show Format.isIntText s.toList = true from hadmits, Bool.true_or]
    · change toNumber (.str s) = .ok z
      rw [toNumber, if_pos hbare]
      exact hconvert

/-! ## Truth values -/

theorem makes_bool_of_makes_boolStrict {x z : Value} (h : Conversion.boolStrict.Makes x z) :
    Conversion.bool.Makes x z := by
  obtain ⟨b, rfl⟩ | htext := takes_of_makes h
  · obtain rfl := Except.ok.inj ((makes_iff _ _ _).mp h).2.1
    exact makes_of_targets (by simp [toTypes]) ⟨b, rfl⟩
  · obtain rfl | rfl := htext
    · rw [makes_text_iff rfl] at h ⊢
      exact ⟨by decide +kernel, h.2⟩
    · rw [makes_text_iff rfl] at h ⊢
      exact ⟨by decide +kernel, h.2⟩

/-- The guards for truth values differ in the texts alone. -/
theorem exists_accepts_guard_boolLenient {x g : Value} (hx : ∀ s, x ≠ .str s)
    (h : Conversion.bool.guard.Accepts x g) : ∃ g, Conversion.boolLenient.guard.Accepts x g := by
  have hkind : ∀ w ∈ [isKind .bool none], w.Answers :=
    List.forall_mem_singleton.mpr (answers_ofPredicate (isTotal_isType _ _ _) none)
  obtain ⟨v, hv, hmember⟩ := exists_of_accepts_anyOf h
  obtain rfl | rfl | rfl : v = isKind .bool none ∨ v = isOneOf [.int 0, .int 1] none ∨
      v = hasFormat .bool none := by simpa using hv
  · exact @exists_accepts_anyOf [] nofun _ _ _ hmember _ none
  · exact exists_accepts_anyOf hkind hmember [hasFormat .looseBool none] none
  · have haccepted := ((accepts_ofPredicate _ _ _ _).mp hmember).1
    cases x with
    | str s => exact absurd rfl (hx s)
    | _ => cases haccepted

theorem makes_boolLenient_of_makes_bool {x z : Value} (h : Conversion.bool.Makes x z) :
    Conversion.boolLenient.Makes x z := by
  by_cases htext : ∃ s, x = .str s
  · obtain ⟨s, rfl⟩ := htext
    rw [makes_text_iff rfl] at h ⊢
    obtain ⟨hadmits, hconvert⟩ := h
    obtain rfl := Except.ok.inj hconvert
    have hplain : Format.plain s.toList = "true" ∨ Format.plain s.toList = "false" := by
      simpa [admitsText, Format.isBoolText] using hadmits
    refine ⟨?_, ?_⟩
    · change (Format.trueTexts ++ Format.falseTexts).contains (Format.plain s.toList) = true
      obtain htrue | hfalse := hplain
      · rw [htrue]
        decide
      · rw [hfalse]
        decide
    · change toLooseBool (.str s) = .ok (.bool (Format.plain s.toList == "true"))
      obtain htrue | hfalse := hplain
      · simp [toLooseBool, htrue, Format.trueTexts]
      · simp [toLooseBool, hfalse, Format.trueTexts, Format.falseTexts]
  · have hother : ∀ s, x ≠ .str s := fun s hs => htext ⟨s, hs⟩
    obtain ⟨⟨g, hguard⟩, hconvert, hinner⟩ := (makes_iff _ _ _).mp h
    refine (makes_iff _ _ _).mpr ⟨exists_accepts_guard_boolLenient hother hguard, ?_, hinner⟩
    rw [← hconvert]
    cases x with
    | str s => exact absurd rfl (hother s)
    | _ => rfl

/-! ## Main result -/

def stricter : List (Conversion × Conversion) := [
  (.boolStrict, .bool), (.bool, .boolLenient), (.intSafe, .intStrict), (.intStrict, .int),
  (.intStrict, .number)]

theorem makes_of_stricter {strict lenient : Conversion} (h : (strict, lenient) ∈ stricter)
    {x z : Value} (hmakes : strict.Makes x z) : lenient.Makes x z := by
  simp only [stricter, List.mem_cons, Prod.mk.injEq, List.not_mem_nil, or_false] at h
  obtain ⟨rfl, rfl⟩ | ⟨rfl, rfl⟩ | ⟨rfl, rfl⟩ | ⟨rfl, rfl⟩ | ⟨rfl, rfl⟩ := h
  · exact makes_bool_of_makes_boolStrict hmakes
  · exact makes_boolLenient_of_makes_bool hmakes
  · exact ((makes_intSafe_iff x z).mp hmakes).1
  · exact makes_int_of_makes_intStrict hmakes
  · exact makes_number_of_makes_intStrict hmakes

/-- What a stricter conversion accepts with a child, a more lenient one accepts with that child, and
with the same value, at both entry points. The conversion to safe whole numbers accepts what the
strict one accepts, if the number is in the range; children that do the same with the numbers in the
range make no difference, so a child is not shown any other number. -/
theorem stricter_accepts_less :
    (∀ strict lenient, (strict, lenient) ∈ stricter →
      ∀ (child : Validator) (message message' : Option Value) (awaiting : Bool) (x : Value)
        (present : Bool) (y : Value),
        ((strict.apply child message).validated awaiting x present).Accepts y →
          ((lenient.apply child message').validated awaiting x present).Accepts y) ∧
    (∀ (child : Validator) (message message' : Option Value) (awaiting : Bool) (x : Value)
        (present : Bool) (y : Value),
        ((Conversion.intSafe.apply child message).validated awaiting x present).Accepts y ↔
          ((Conversion.intStrict.apply child message').validated awaiting x present).Accepts y ∧
            ∃ n, Conversion.intStrict.Makes x (.int n) ∧ IsSafe n) ∧
    ∀ child child' : Validator,
      (∀ n, IsSafe n → child.evaluate .plain (.int n) = child'.evaluate .plain (.int n)) →
        ∀ (message : Option Value) (site : Site) (x : Value),
          (Conversion.intSafe.apply child message).evaluate site x =
            (Conversion.intSafe.apply child' message).evaluate site x := by
  refine ⟨?_, ?_, ?_⟩
  · intro strict lenient hstricter child message message' awaiting x present y haccepts
    obtain ⟨z, hmakes, hchild⟩ := (accepts_validated_apply _ _ _ _ _ _ _).mp haccepts
    exact (accepts_validated_apply _ _ _ _ _ _ _).mpr
      ⟨z, makes_of_stricter hstricter hmakes, hchild⟩
  · intro child message message' awaiting x present y
    simp only [accepts_validated_apply, makes_intSafe_iff]
    constructor
    · rintro ⟨z, ⟨hmakes, n, rfl, hsafe⟩, hchild⟩
      exact ⟨⟨_, hmakes, hchild⟩, n, hmakes, hsafe⟩
    · rintro ⟨⟨z, hmakes, hchild⟩, n, hmakes', hsafe⟩
      obtain rfl : z = .int n := Except.ok.inj
        (((makes_iff _ _ _).mp hmakes).2.1.symm.trans ((makes_iff _ _ _).mp hmakes').2.1)
      exact ⟨_, ⟨hmakes, n, rfl, hsafe⟩, hchild⟩
  · exact fun child child' h message site x => evaluate_intSafe_congr h message site x

/-- The text of a truth value passes both, and a number past the range is as good for a child that
takes any number as for one that takes safe ones alone. -/
theorem stricter_accepts_less_true_and_past_range :
    (((Conversion.boolStrict.apply .valid none).validated true (.str "true") true).Accepts
        (.bool true) ∧
      ((Conversion.bool.apply .valid none).validated true (.str "true") true).Accepts
        (.bool true)) ∧
    (∀ n, IsSafe n → valid.evaluate .plain (.int n) =
      (ofPredicate .safeInt none).evaluate .plain (.int n)) ∧
    ∀ site, (Conversion.intSafe.apply .valid none).evaluate site (.str "9007199254740992") =
      (Conversion.intSafe.apply (ofPredicate .safeInt none) none).evaluate site
        (.str "9007199254740992") := by
  have hlisted : (Conversion.boolStrict, Conversion.bool) ∈ stricter := List.mem_cons_self
  have hmakes : Conversion.boolStrict.Makes (.str "true") (.bool true) := by
    refine (makes_text_iff rfl _ _).mpr ⟨by decide, ?_⟩
    change Except.ok (Value.bool (Format.plain "true".toList == "true")) = _
    rw [show Format.plain "true".toList = "true" by decide +kernel]
    rfl
  have hstrict : ((Conversion.boolStrict.apply .valid none).validated true (.str "true")
      true).Accepts (.bool true) :=
    (accepts_validated_apply _ _ _ _ _ _ _).mpr ⟨_, hmakes, _, rfl, rfl, rfl⟩
  have hchildren : ∀ n, IsSafe n → valid.evaluate .plain (.int n) =
      (ofPredicate .safeInt none).evaluate .plain (.int n) := by
    intro n hsafe
    rw [evaluate_ofPredicate_of_accepts ((accepts_safeInt_iff n).mpr hsafe), evaluate_of_unset rfl]
    rfl
  exact ⟨⟨hstrict, stricter_accepts_less.1 _ _ hlisted .valid none none true _ true _ hstrict⟩,
    hchildren, fun site => stricter_accepts_less.2.2 _ _ hchildren none site _⟩

end Conversion
end Conform

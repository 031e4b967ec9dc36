import Conform.Proofs.Guards

/-
  Fields with nullable parts. `validate_field_without_value`: where a field has no value, because
  its key is not there or because an absent value is stored under it, the flag of the outermost
  validator counts for the stored absent value only, but a flag further inside counts in both
  cases. The reason is that conjunctions and choices do not tell their children whether the key is
  there. So a flag of the outermost validator does not cover an absent key (`rejects_absent_key`),
  and one inside a conjunction does (`inner_nullable_covers_absence`).
-/

namespace Conform

/-- A validator for a field: type guards put together by conjunctions and choices. Every part may
be nullable, and none is optional. -/
inductive FieldRule where
  | typed (types : List TypeName) (name : Option String) (message : Option Value)
      (excludeBool nullable : Bool)
  | all (rules : List FieldRule) (message : Option Value) (collecting nullable : Bool)
  | any (rules : List FieldRule) (message : Option Value) (nullable : Bool)

namespace FieldRule

/-- Whether the outermost part is nullable. -/
def isNullable : FieldRule → Bool
  | .typed _ _ _ _ nullable => nullable
  | .all _ _ _ nullable => nullable
  | .any _ _ nullable => nullable

mutual

def validator : FieldRule → Validator
  | .typed types name message excludeBool nullable =>
    (Validator.isType types name message excludeBool).withFlags ⟨nullable, false⟩
  | .all rules message collecting nullable =>
    (Validator.allOf (validators rules) message collecting).withFlags ⟨nullable, false⟩
  | .any rules message nullable =>
    (Validator.anyOf (validators rules) message).withFlags ⟨nullable, false⟩

def validators : List FieldRule → List Validator
  | [] => []
  | rule :: rules => validator rule :: validators rules

end

mutual

/-- Whether the rule lets an absent value pass without its own flag. -/
def partsLetNull : FieldRule → Bool
  | .typed types _ _ _ _ => types.any (·.holds .null)
  | .all rules _ _ _ => allLetNull rules
  | .any rules _ _ => anyLetsNull rules

/-- Whether every rule lets an absent value pass. -/
def allLetNull : List FieldRule → Bool
  | [] => true
  | rule :: rules => (rule.isNullable || partsLetNull rule) && allLetNull rules

/-- Whether some rule lets an absent value pass. -/
def anyLetsNull : List FieldRule → Bool
  | [] => false
  | rule :: rules => (rule.isNullable || partsLetNull rule) || anyLetsNull rules

end

end FieldRule

/-- A run that ends at once: with the absent value if it accepts, and else with a failure. -/
def Run.Decides (run : Run Result) (accepted : Bool) : Prop :=
  ∃ r, run = .done r ∧ r.isValid = accepted ∧ (accepted = true → r.value = .null)

namespace FieldRule

open Validator

theorem decides_success (given : Value) : (Run.done (.success .null given)).Decides true :=
  ⟨_, rfl, rfl, fun _ => rfl⟩

/-- The flag of a rule counts where the key is there. -/
theorem decides_withFlags {v : Validator} {nullable accepted : Bool} {site : Site}
    (h : (v.body site .null).Decides accepted) :
    ((v.withFlags ⟨nullable, false⟩).evaluate site .null).Decides
      ((site.present && nullable) || accepted) := by
  have hpass : Flags.letPass ⟨nullable, false⟩ site .null = (site.present && nullable) := by
    simp [Flags.letPass, Value.isNull]
  rw [evaluate_withFlags, Flags.guard, hpass]
  cases hnullable : site.present && nullable with
  | true => exact decides_success .null
  | false => simpa using h

theorem decides_isType (types : List TypeName) (name : Option String) (message : Option Value)
    (excludeBool : Bool) (site : Site) :
    ((isType types name message excludeBool).body site .null).Decides
      (types.any (·.holds .null)) := by
  have hguard : (isType types name message excludeBool).body site .null =
      (isType types name message excludeBool).evaluate site .null :=
    (Flags.guard_unset _ site .null).symm
  rw [hguard]
  have hbool : (excludeBool && Value.null.kind == .bool) = false := Bool.and_false _
  cases haccepts : types.any (·.holds .null) with
  | true =>
    rw [isType, evaluate_ofPredicate_of_accepts]
    · exact decides_success .null
    · rw [Predicate.accepts, hbool, haccepts]
      rfl
  | false =>
    rw [isType, evaluate_ofPredicate_of_rejects]
    · obtain ⟨-, hmessage, hpattern⟩ := isTotal_isType types (name.getD (Text.joinWith " | "
        (types.map TypeName.name))) excludeBool
      rw [expectation_of_hasMessage hmessage hpattern]
      exact ⟨_, rfl, rfl, fun h => absurd h Bool.false_ne_true⟩
    · rw [Predicate.accepts, hbool, haccepts]
      rfl

theorem decides_threaded_cons {v : Validator} {cs : List Check} {message : Option Value}
    {given : Value} {first rest : Bool} (hfirst : (v.evaluate .plain .null).Decides first)
    (hrest : (Check.threaded message given cs .null).Decides rest) :
    (Check.threaded message given (v.toCheck :: cs) .null).Decides (first && rest) := by
  obtain ⟨r, hr, rfl, hvalue⟩ := hfirst
  rw [Check.threaded_cons, toCheck_run, hr, Run.bind_done]
  cases hvalid : r.isValid with
  | true =>
    rw [if_pos rfl, hvalue hvalid]
    exact hrest
  | false =>
    refine ⟨_, rfl, ?_, nofun⟩
    rw [Result.isValid_override, hvalid]
    rfl

theorem decides_collecting_cons {v : Validator} {cs : List Check} {message : Option Value}
    {es : List Expectation} {first rest : Bool} (hfirst : (v.evaluate .plain .null).Decides first)
    (hrest : ∀ es, ((Check.collecting message .null).start cs es).Decides (es.isEmpty && rest)) :
    ((Check.collecting message .null).start (v.toCheck :: cs) es).Decides
      (es.isEmpty && (first && rest)) := by
  obtain ⟨r, hr, rfl, -⟩ := hfirst
  have hempty : (es ++ r.expectations).isEmpty = (es.isEmpty && r.isValid) := by
    cases es <;> rfl
  rw [Check.collecting_cons, toCheck_run, hr, Run.bind_done, ← Bool.and_assoc, ← hempty]
  exact hrest _

theorem decides_choosing_cons {v : Validator} {cs : List Check} {message : Option Value}
    {es : List Expectation} {first rest : Bool} (hfirst : (v.evaluate .plain .null).Decides first)
    (hrest : ∀ es, ((Check.choosing message .null).start cs es).Decides rest) :
    ((Check.choosing message .null).start (v.toCheck :: cs) es).Decides (first || rest) := by
  obtain ⟨r, hr, rfl, hvalue⟩ := hfirst
  rw [Check.choosing_cons, toCheck_run, hr, Run.bind_done]
  cases hvalid : r.isValid with
  | true => exact ⟨r, rfl, hvalid, fun _ => hvalue hvalid⟩
  | false => exact hrest _

mutual

/-- A rule lets an absent value pass by its own flag where the key is there, and by its parts
wherever the value comes from. -/
theorem decides_evaluate : (rule : FieldRule) → (site : Site) →
    (rule.validator.evaluate site .null).Decides
      ((site.present && rule.isNullable) || rule.partsLetNull)
  | .typed types name message excludeBool nullable, site => by
    rw [validator, isNullable, partsLetNull]
    exact decides_withFlags (decides_isType types name message excludeBool site)
  | .all rules message true nullable, site => by
    rw [validator, isNullable, partsLetNull]
    refine decides_withFlags ?_
    rw [allOf, body_conjunction_collecting]
    exact decides_collecting rules message []
  | .all rules message false nullable, site => by
    rw [validator, isNullable, partsLetNull]
    refine decides_withFlags ?_
    rw [allOf, body_conjunction_threading]
    exact decides_threaded rules message .null
  | .any rules message nullable, site => by
    rw [validator, isNullable, partsLetNull]
    refine decides_withFlags ?_
    rw [anyOf, body_disjunction]
    exact decides_choosing rules message []

theorem decides_threaded : (rules : List FieldRule) → (message : Option Value) → (given : Value) →
    (Check.threaded message given ((validators rules).map toCheck) .null).Decides (allLetNull rules)
  | [], message, given => by
    rw [validators, allLetNull]
    exact decides_success given
  | rule :: rules, message, given => by
    rw [validators, allLetNull]
    exact decides_threaded_cons (decides_evaluate rule .plain)
      (decides_threaded rules message given)

theorem decides_collecting : (rules : List FieldRule) → (message : Option Value) →
    (es : List Expectation) →
    ((Check.collecting message .null).start ((validators rules).map toCheck) es).Decides
      (es.isEmpty && allLetNull rules)
  | [], message, es => by
    rw [validators, allLetNull, Bool.and_true]
    cases es with
    | nil => exact decides_success .null
    | cons e es => exact ⟨_, rfl, Result.isValid_override message _, nofun⟩
  | rule :: rules, message, es => by
    rw [validators, allLetNull]
    exact decides_collecting_cons (decides_evaluate rule .plain)
      (decides_collecting rules message)

theorem decides_choosing : (rules : List FieldRule) → (message : Option Value) →
    (es : List Expectation) →
    ((Check.choosing message .null).start ((validators rules).map toCheck) es).Decides
      (anyLetsNull rules)
  | [], message, es => by
    rw [validators, anyLetsNull]
    refine ⟨_, rfl, (Result.isValid_override message _).trans ?_, nofun⟩
    cases es <;> rfl
  | rule :: rules, message, es => by
    rw [validators, anyLetsNull]
    exact decides_choosing_cons (decides_evaluate rule .plain)
      (decides_choosing rules message)

end

/-! ## Fields -/

/-- A schema with one field gives the failures of the field, whose key must be one that can be
shown. -/
theorem validate_field (key : Value) (rule : FieldRule) (message : Option Value)
    (entries : Entries) {accepted : Bool}
    (h : (rule.validator.evaluate ⟨entries.hasKey key, some entries⟩
      ((entries.find? key).getD .null)).Decides accepted) :
    ∃ r, (mapOf [(key, rule.validator)] message).validate (.map entries) true =
        ((Run.ofExcept (Check.segmentOf key)).bind fun _ => .done r) ∧
      r.isValid = accepted := by
  obtain ⟨r, hr, rfl, -⟩ := h
  have hfields : (Validator.fields [(key, rule.validator)] message {}).evaluate .plain
      (.map entries) = (Run.ofExcept (Check.segmentOf key)).bind fun _ =>
        .done (Check.wholeOf (.map entries)
          (r.expectations.map (Check.outward message .mapFieldFailed (Check.keySegment key)))) := by
    rw [evaluate, flags, Flags.guard_unset, body_fields]
    change Check.inspected message .mapFieldFailed (.map entries)
      [Check.fieldPart entries key rule.validator.toCheck] = _
    rw [Check.inspected, Check.inspecting_cons, Check.fieldPart, toCheck_run, hr, Run.bind_eq,
      Run.bind_assoc]
    rfl
  have hmap : (mapOf [(key, rule.validator)] message).evaluate .plain (.map entries) =
      ((Validator.fields [(key, rule.validator)] message {}).evaluate .plain (.map entries)).bind
        fun r => if r.isValid then .done (.success r.value (.map entries)) else .done r := by
    rw [mapOf, Validator.and, evaluate, allOf, flags, Flags.guard_unset, body_conjunction_threading]
    change Check.threaded none (.map entries) ((isMap none).toCheck ::
      [(Validator.fields [(key, rule.validator)] message {}).toCheck]) (.map entries) = _
    rw [threaded_of_accepts _ _ (evaluate_isMap entries), Check.threaded_cons]
    rfl
  have hevaluate : ∃ out, (mapOf [(key, rule.validator)] message).evaluate .plain (.map entries) =
      ((Run.ofExcept (Check.segmentOf key)).bind fun _ => .done out) ∧
        out.isValid = r.isValid := by
    rw [hmap, hfields, Run.bind_assoc]
    simp only [Run.bind_done]
    cases hes : r.expectations with
    | nil => exact ⟨_, rfl, by simp [Result.isValid, hes, Result.success, Check.wholeOf]⟩
    | cons e es => exact ⟨_, rfl, by simp [Result.isValid, hes, Check.wholeOf]⟩
  obtain ⟨out, hout, hvalid⟩ := hevaluate
  refine ⟨out, ?_, hvalid⟩
  change
    ((mapOf [(key, rule.validator)] message).evaluate .plain (.map entries)).refusingAwait _ = _
  rw [hout]
  cases Check.segmentOf key <;> rfl

/-- If no part lets an absent value pass, then neither does a rule for a key that is not there,
whatever its own flag says. -/
theorem rejects_absent_key (key : Value) (rule : FieldRule) (message : Option Value)
    (entries : Entries) (hkey : entries.hasKey key = false) (hparts : rule.partsLetNull = false) :
    ∃ r, (mapOf [(key, rule.validator)] message).validate (.map entries) true =
        ((Run.ofExcept (Check.segmentOf key)).bind fun _ => .done r) ∧
      r.isValid = false := by
  have habsent : (entries.find? key).getD .null = .null := by
    rw [Entries.hasKey_iff_find?, Option.isSome_eq_false_iff, Option.isNone_iff_eq_none] at hkey
    rw [hkey]
    rfl
  refine validate_field key rule message entries ?_
  have h := decides_evaluate rule ⟨entries.hasKey key, some entries⟩
  rw [hparts, hkey] at h
  rw [habsent, hkey]
  exact h

/-- A field without a value. If an absent value is stored under the key, it passes by the flag of
the rule or by the parts of the rule. If the key is not there, it passes by the parts only, and
there the flags of the parts count although they are about stored values. All of this is behind
naming the key, which must be one that can be shown. -/
theorem validate_field_without_value (key : Value) (rule : FieldRule) (message : Option Value)
    (entries : Entries) (habsent : (entries.find? key).getD .null = .null) :
    ∃ r, (mapOf [(key, rule.validator)] message).validate (.map entries) true =
        ((Run.ofExcept (Check.segmentOf key)).bind fun _ => .done r) ∧
      r.isValid = ((entries.hasKey key && rule.isNullable) || rule.partsLetNull) := by
  refine validate_field key rule message entries ?_
  rw [habsent]
  exact decides_evaluate rule ⟨entries.hasKey key, some entries⟩

/-- A text that may be stored as an absent value. -/
def nullableText : FieldRule := .typed [.kind .str] none none false true

/-- A nullable text is required as a field, and inside a conjunction it is not: the key need not be
there. -/
theorem inner_nullable_covers_absence :
    (∃ r, (mapOf [(.str "k", nullableText.validator)] none).validate (.map []) true = .done r ∧
      r.isValid = false) ∧
    ∃ r, (mapOf [(.str "k", (FieldRule.all [nullableText] none false false).validator)]
      none).validate (.map []) true = .done r ∧ r.isValid = true := by
  refine ⟨rejects_absent_key (.str "k") nullableText none [] rfl rfl, ?_⟩
  exact validate_field_without_value (.str "k") (.all [nullableText] none false false) none [] rfl

end FieldRule
end Conform

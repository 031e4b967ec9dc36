import Conform.Proofs.EntryPoints
import Conform.Proofs.Verdicts

/-
  Wrappers that are about reports only: one expectation for all failures, a negation of a negation,
  and failures that are thrown. For a value that is there they keep the verdict of the validator
  they are put around. Where the key is not there they need not: a wrapper hands the value on as
  one that is there, so that the flags of the validator are read as if the absent value had been
  stored. Of the flags themselves only a wrapper that throws takes any notice, by carrying them
  too.

  Main result: `wrapped_verdict_ignores_absence`, with what follows for validators whose flags let
  the same values pass whether the key is there or not. `wrapping_turns_absent_verdicts` has the
  two verdicts that change: of an optional text, which becomes required, and of a nullable text,
  which becomes optional.
-/

namespace Conform

/-- What a validation ends with if failures are thrown, given what it ends with if they are not. -/
def Result.orThrown (r : Result) : Except Fault Result :=
  if r.isValid then .ok (.success r.value) else .error r.thrown

/-- What is thrown carries the failed result, unless that cannot be written in a report. -/
theorem Result.orThrown_of_isReportable {r : Result}
    (h : r.isReportable Result.usualMaxErrors = true) :
    r.orThrown = if r.isValid then .ok (.success r.value) else .error (.validationFailed r) := by
  rw [orThrown, thrown, h, if_pos rfl]
  cases r.isValid <;> rfl

/-- What is thrown is the same fault after waiting. -/
theorem Result.awaited_thrown (r : Result) : r.thrown.awaited = r.thrown := by
  unfold thrown
  split
  · rfl
  · split <;> rfl

namespace Validator

variable {awaiting : Bool} {v : Validator} {x : Value} {r : Result}

/-! ## Absent keys -/

/-- What a validator does by itself does not depend on whether the key is there. -/
theorem body_of_parent_none (v : Validator) (present : Bool) (x : Value) :
    v.body ⟨present, none⟩ x = v.body .plain x := by
  cases v with
  | conjunction children message collecting flags => cases collecting <;> rfl
  | _ => rfl

/-- So only the flags can tell. -/
theorem evaluate_of_letPass_eq {present : Bool}
    (h : v.flags.letPass ⟨present, none⟩ x = v.flags.letPass .plain x) :
    v.evaluate ⟨present, none⟩ x = v.evaluate .plain x := by
  rw [evaluate, evaluate, Flags.guard, Flags.guard, h, body_of_parent_none]

/-! ## One wrapper -/

theorem verdict?_withExpectation (awaiting : Bool) (v : Validator) (e : Expectation) (site : Site)
    (x : Value) :
    (((v.withExpectation e).evaluate site x).carriedOut awaiting).verdict? =
      ((v.evaluate .plain x).carriedOut awaiting).verdict? := by
  rw [withExpectation, evaluate_of_unset rfl, body_replacement, Check.replaced, Run.bind_eq]
  refine Run.verdict?_carriedOut_bind (fun r => ?_) _
  cases hr : r.expectations with
  | nil => rw [Run.carriedOut_done, Run.verdict?_done]
  | cons first rest =>
    rw [Run.carriedOut_done, Run.verdict?_done, Result.isValid_refusal, Result.isValid, hr]
    rfl

theorem verdict?_not {accepted : Bool}
    (h : ((v.evaluate .plain x).carriedOut awaiting).verdict? = some accepted)
    (hdenied : accepted = true → ∃ e, v.toCheck.denied x = .ok e) (site : Site) :
    (((v.not none).evaluate site x).carriedOut awaiting).verdict? = some !accepted := by
  obtain ⟨r, hr, hvalid⟩ := Run.verdict?_eq_some.mp h
  rw [evaluate_not, Check.negated, Run.bind_eq, Run.carriedOut_bind, Run.verdict?_bind]
  refine ⟨r, hr, ?_⟩
  rw [hvalid]
  cases accepted with
  | true =>
    obtain ⟨e, he⟩ := hdenied rfl
    rw [if_pos rfl, he]
    exact congrArg Run.verdict? (Run.carriedOut_done awaiting _)
  | false => exact congrArg Run.verdict? (Run.carriedOut_done awaiting _)

theorem verdict?_not_not {accepted : Bool}
    (h : ((v.evaluate .plain x).carriedOut awaiting).verdict? = some accepted)
    (hdenied : accepted = true → ∃ e, v.toCheck.denied x = .ok e) (site : Site) :
    ((((v.not none).not none).evaluate site x).carriedOut awaiting).verdict? = some accepted := by
  have hnot := verdict?_not (verdict?_not h hdenied .plain)
    (fun _ => denied_of_describe?_eq_none rfl x) site
  rwa [Bool.not_not] at hnot

/-- A failure is thrown behind the flags, which are those of the validator. -/
theorem outcome?_throwing (h : ((v.evaluate .plain x).carriedOut awaiting).outcome? = some (.ok r))
    (site : Site) :
    ((v.throwInstead.evaluate site x).carriedOut awaiting).outcome? =
      some (if v.flags.letPass site x then .ok (.success x) else r.orThrown) := by
  rw [evaluate, Flags.guard]
  change (Run.carriedOut awaiting (if v.flags.letPass site x then _ else
    Check.throwing v.toCheck x)).outcome? = _
  cases v.flags.letPass site x with
  | true => exact congrArg Run.outcome? (Run.carriedOut_done awaiting _)
  | false =>
    rw [if_neg Bool.false_ne_true, if_neg Bool.false_ne_true, Check.throwing, Run.bind_eq,
      Run.carriedOut_bind, toCheck_run, Run.outcome?_bind_of_ok _ h, Result.orThrown]
    cases r.isValid with
    | true => exact congrArg Run.outcome? (Run.carriedOut_done awaiting _)
    | false =>
      rw [if_neg Bool.false_ne_true, if_neg Bool.false_ne_true]
      have hends : ((Run.raised r.thrown : Run Result).carriedOut awaiting).outcome? =
          some (.error r.thrown) := by
        cases awaiting with
        | true => exact congrArg (fun fault => some (Except.error fault)) r.awaited_thrown
        | false => rfl
      split
      · next heq =>
        rw [heq] at hends
        rw [heq]
        cases awaiting <;> exact hends
      · exact hends

/-- A value that the flags let pass where the key is there is the result itself. -/
theorem eq_success_of_letPass
    (h : ((v.evaluate .plain x).carriedOut awaiting).outcome? = some (.ok r))
    (hpass : v.flags.letPass .plain x = true) : r = .success x := by
  rw [evaluate, Flags.guard, hpass, if_pos rfl, Run.carriedOut_done] at h
  exact (Except.ok.inj (Option.some.inj h)).symm

/-! ## All three -/

/-- Let the validator give a result for a value that is there, and let it be possible to say what
it expects of the value if it accepts it. Then one expectation for all failures and a negation of a
negation have the verdict of this result also where the key is not there, and so has throwing
failures, except that it minds if the validator is optional; what it throws is the failed result, if
that can be written in a report. This is the verdict of the validator itself wherever its flags let
the same pass as for a value that is there. -/
theorem wrapped_verdict_ignores_absence
    (h : (v.validated awaiting x true).outcome? = some (.ok r))
    (hdenied : r.isValid = true → ∃ e, v.toCheck.denied x = .ok e) (present : Bool) :
    (∀ e, ((v.withExpectation e).validated awaiting x present).verdict? = some r.isValid) ∧
      (((v.not none).not none).validated awaiting x present).verdict? = some r.isValid ∧
      (v.throwInstead.validated awaiting x present).outcome? =
        some (if !present && v.isOptional then .ok (.success x) else r.orThrown) ∧
      (r.isReportable Result.usualMaxErrors = true →
        r.orThrown = if r.isValid then .ok (.success r.value) else .error (.validationFailed r)) ∧
      (v.flags.letPass ⟨present, none⟩ x = v.flags.letPass .plain x →
        (v.validated awaiting x present).outcome? = some (.ok r)) := by
  have hplain := (outcome?_validated_iff awaiting v x true r).mp h
  have hverdict : ((v.evaluate .plain x).carriedOut awaiting).verdict? = some r.isValid :=
    Run.verdict?_eq_some.mpr ⟨r, hplain, rfl⟩
  refine ⟨fun e => ?_, ?_, ?_, Result.orThrown_of_isReportable, fun hflags => ?_⟩
  · rw [verdict?_validated_iff, verdict?_withExpectation]
    exact hverdict
  · rw [verdict?_validated_iff]
    exact verdict?_not_not hverdict hdenied _
  · rw [outcome?_validated_of_some (outcome?_throwing hplain ⟨present, none⟩)]
    -- Where the key is there and the flags let the value pass, the result is the value itself.
    cases present with
    | false => rw [Flags.letPass, Bool.and_false, Bool.false_and, Bool.false_or]; rfl
    | true =>
      cases hpass : v.flags.letPass .plain x with
      | false => rw [show v.flags.letPass ⟨true, none⟩ x = false from hpass]; rfl
      | true =>
        rw [show v.flags.letPass ⟨true, none⟩ x = true from hpass,
          eq_success_of_letPass hplain hpass]
        rfl
  · rw [outcome?_validated_iff, evaluate_of_letPass_eq hflags]
    exact hplain

/-- An absent key and a nullable text: the text rejects it, and is accepted by all three. -/
theorem wrapped_nullable_covers_absence :
    ((isString none).nullable.validated false .null true).outcome? = some (.ok (.success .null)) ∧
      (∃ e, (isString none).nullable.toCheck.denied .null = .ok e) ∧
      ((isString none).nullable.validated false .null false).verdict? = some false ∧
      (∀ e, (((isString none).nullable.withExpectation e).validated false .null false).verdict? =
        some true) ∧
      ((((isString none).nullable.not none).not none).validated false .null false).verdict? =
        some true ∧
      ((isString none).nullable.throwInstead.validated false .null false).outcome? =
        some (.ok (.success .null)) := by
  have h : ((isString none).nullable.validated false .null true).outcome? =
      some (.ok (.success .null)) := rfl
  have hdenied : ∃ e, (isString none).nullable.toCheck.denied .null = .ok e := ⟨_, rfl⟩
  obtain ⟨hreplaced, hnot, hthrown, -⟩ :=
    wrapped_verdict_ignores_absence h (fun _ => hdenied) false
  exact ⟨h, hdenied, rfl, hreplaced, hnot, hthrown⟩

/-- An optional text is required once it has another message or is negated twice, and a nullable
text need not be there once it has another message, is negated twice or throws its failures. -/
theorem wrapping_turns_absent_verdicts :
    ((isString none).optional.validate .null false).verdict? = some true ∧
      (((isString none).optional.withMessage (.str "a text")).validate .null false).verdict? =
        some false ∧
      ((((isString none).optional.not none).not none).validate .null false).verdict? =
        some false ∧
      ((isString none).nullable.validate .null false).verdict? = some false ∧
      (((isString none).nullable.withMessage (.str "a text")).validate .null false).verdict? =
        some true ∧
      ((((isString none).nullable.not none).not none).validate .null false).verdict? = some true ∧
      ((isString none).nullable.throwInstead.validate .null false).verdict? = some true :=
  ⟨rfl, rfl, rfl, rfl, rfl, rfl, rfl⟩

end Validator
end Conform

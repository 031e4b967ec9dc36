import Conform.Conversion.Basic
import Conform.Proofs.Guards

/-
  What a validator accepts, and what it makes of it (`Accepts`). A conjunction makes of a value
  what its children make of it one after another, a conversion or a pivot what its child makes of
  the new value, and a message makes no difference.
-/

namespace Conform

namespace Run

/-- The run ends, without waiting, with a valid result on the value. -/
def Accepts (run : Run Result) (y : Value) : Prop :=
  ∃ r, run.outcome? = some (.ok r) ∧ r.isValid = true ∧ r.value = y

theorem accepts_done (r : Result) (y : Value) :
    (Run.done r).Accepts y ↔ r.isValid = true ∧ r.value = y := by
  simp [Accepts]

@[simp] theorem accepts_success (x given y : Value) :
    (Run.done (.success x given)).Accepts y ↔ y = x := by
  rw [accepts_done, Result.isValid_success]
  exact ⟨fun h => h.2.symm, fun h => ⟨rfl, h.symm⟩⟩

theorem not_accepts_of_invalid {r : Result} (h : r.isValid = false) (y : Value) :
    ¬ (Run.done r).Accepts y := by
  rw [accepts_done, h]
  exact fun haccepts => Bool.false_ne_true haccepts.1

@[simp] theorem not_accepts_refusal (x : Value) (e : Expectation) (given y : Value) :
    ¬ (Run.done (.refusal x e given)).Accepts y :=
  not_accepts_of_invalid (Result.isValid_refusal x e given) y

theorem accepts_bind {α : Type} {run : Run α} {next : α → Run Result} {y : Value} :
    (run.bind next).Accepts y ↔ ∃ a, run.outcome? = some (.ok a) ∧ (next a).Accepts y := by
  simp only [Accepts, outcome?_bind_eq_ok]
  constructor
  · rintro ⟨r, ⟨a, ha, hr⟩, hvalid⟩
    exact ⟨a, ha, r, hr, hvalid⟩
  · rintro ⟨a, ha, r, hr, hvalid⟩
    exact ⟨r, ⟨a, ha, hr⟩, hvalid⟩

theorem accepts_ofExcept_bind {α : Type} {e : Except Fault α} {next : α → Run Result} {y : Value} :
    ((ofExcept e).bind next).Accepts y ↔ ∃ a, e = .ok a ∧ (next a).Accepts y := by
  simp only [accepts_bind, outcome?_ofExcept, Option.some.injEq]

/-- A run that goes on with the value where another run accepts, and ends in an invalid result
where it does not. -/
theorem accepts_bind_valid {run : Run Result} {next : Value → Run Result}
    {other : Result → Run Result} {y : Value}
    (hother : ∀ r, r.isValid = false → ¬ (other r).Accepts y) :
    (run.bind fun r => if r.isValid then next r.value else other r).Accepts y ↔
      ∃ z, run.Accepts z ∧ (next z).Accepts y := by
  rw [accepts_bind]
  constructor
  · rintro ⟨r, hr, hnext⟩
    split at hnext
    · next hvalid => exact ⟨r.value, ⟨r, hr, hvalid, rfl⟩, hnext⟩
    · next hvalid => exact absurd hnext (hother r (Bool.eq_false_iff.mpr hvalid))
  · rintro ⟨z, ⟨r, hr, hvalid, rfl⟩, hnext⟩
    refine ⟨r, hr, ?_⟩
    rwa [if_pos hvalid]

end Run

namespace Validator

/-- The validator accepts the first value, without waiting, and makes the second one of it. -/
def Accepts (v : Validator) (x y : Value) : Prop := (v.evaluate .plain x).Accepts y

/-- The synchronous validation of the first value is valid, and the second one is its value. -/
def Yields (v : Validator) (x y : Value) : Prop :=
  ∃ r, (v.validate x true).outcome? = some (.ok r) ∧ r.isValid = true ∧ r.value = y

theorem yields_iff_accepts (v : Validator) (x y : Value) : v.Yields x y ↔ v.Accepts x y :=
  exists_congr fun r => and_congr_left fun _ => outcome?_validate_eq_ok r

/-- The validators accept a value one after another, each what the one before it made of it. -/
def AcceptsAll : List Validator → Value → Value → Prop
  | [], x, y => y = x
  | v :: vs, x, y => ∃ z, v.Accepts x z ∧ AcceptsAll vs z y

/-- The validator leaves every value that it accepts as it is. -/
def KeepsValue (v : Validator) : Prop := ∀ x y, v.Accepts x y → y = x

theorem acceptsAll_singleton (v : Validator) (x y : Value) :
    AcceptsAll [v] x y ↔ v.Accepts x y := by
  simp [AcceptsAll]

theorem acceptsAll_append (vs ws : List Validator) (x y : Value) :
    AcceptsAll (vs ++ ws) x y ↔ ∃ z, AcceptsAll vs x z ∧ AcceptsAll ws z y := by
  induction vs generalizing x with
  | nil => simp [AcceptsAll]
  | cons v vs ih =>
    simp only [List.cons_append, AcceptsAll, ih]
    constructor
    · rintro ⟨u, hv, z, hvs, hws⟩
      exact ⟨z, ⟨u, hv, hvs⟩, hws⟩
    · rintro ⟨z, ⟨u, hv, hvs⟩, hws⟩
      exact ⟨u, hv, z, hvs, hws⟩

/-- A validator at the end that keeps values checks what the others make. -/
theorem acceptsAll_append_keeping {v : Validator} (h : v.KeepsValue) (vs : List Validator)
    (x y : Value) : AcceptsAll (vs ++ [v]) x y ↔ AcceptsAll vs x y ∧ v.Accepts y y := by
  rw [acceptsAll_append]
  constructor
  · rintro ⟨z, hvs, hv⟩
    rw [acceptsAll_singleton] at hv
    obtain rfl := h z y hv
    exact ⟨hvs, hv⟩
  · rintro ⟨hvs, hv⟩
    exact ⟨y, hvs, (acceptsAll_singleton v y y).mpr hv⟩

/-! ## Nodes -/

theorem accepts_valid (x y : Value) : valid.Accepts x y ↔ y = x := by
  rw [Accepts, evaluate_of_unset rfl]
  exact Run.accepts_success x .null y

theorem accepts_threaded (message : Option Value) (given : Value) (vs : List Validator)
    (x y : Value) :
    (Check.threaded message given (vs.map toCheck) x).Accepts y ↔ AcceptsAll vs x y := by
  induction vs generalizing x with
  | nil =>
    rw [List.map_nil, Check.threaded_nil, Run.accepts_success, AcceptsAll]
  | cons v vs ih =>
    rw [List.map_cons, Check.threaded_cons, Run.accepts_bind_valid]
    · simp only [ih, toCheck_run]
      rfl
    · intro r hr
      exact Run.not_accepts_of_invalid ((Result.isValid_override message r).trans hr) y

theorem accepts_allOf (vs : List Validator) (message : Option Value) (x y : Value) :
    (allOf vs message false).Accepts x y ↔ AcceptsAll vs x y := by
  rw [Accepts, evaluate_of_unset rfl, allOf, body_conjunction_threading]
  exact accepts_threaded message x vs x y

/-- Taking a conjunction apart makes no difference. -/
theorem acceptsAll_conjuncts (v : Validator) (x y : Value) :
    AcceptsAll v.conjuncts x y ↔ v.Accepts x y := by
  unfold conjuncts
  split
  · next vs => exact (accepts_allOf vs none x y).symm
  · exact acceptsAll_singleton v x y

theorem accepts_and (v w : Validator) (x y : Value) :
    (v.and w).Accepts x y ↔ ∃ z, v.Accepts x z ∧ w.Accepts z y := by
  rw [and, accepts_allOf, acceptsAll_append]
  simp only [acceptsAll_conjuncts]

/-- An expectation for failures does not change what is accepted. -/
theorem accepts_withExpectation (v : Validator) (e : Expectation) (x y : Value) :
    (v.withExpectation e).Accepts x y ↔ v.Accepts x y := by
  rw [withExpectation, Accepts, evaluate_of_unset rfl, body_replacement, Check.replaced,
    Run.bind_eq, Run.accepts_bind]
  refine exists_congr fun r => and_congr_right fun _ => ?_
  split
  · rw [Run.accepts_done]
  · next h => simp [Result.isValid, h]

/-- A message for failures does not change what is accepted. -/
theorem accepts_withMessage? (message : Option Value) (v : Validator) (x y : Value) :
    (withMessage? message v).Accepts x y ↔ v.Accepts x y := by
  unfold withMessage?
  split
  · exact accepts_withExpectation v _ x y
  · rfl

theorem accepts_pivot (find : Value → Except Fault (Option Value)) (message : String)
    (child : Validator) (x y : Value) :
    (Validator.pivot find message child {}).Accepts x y ↔
      ∃ z, find x = .ok (some z) ∧ child.Accepts z y := by
  rw [Accepts, evaluate_of_unset rfl, body_pivot, Check.pivoted, Run.bind_eq,
    Run.accepts_ofExcept_bind]
  constructor
  · rintro ⟨found, hfind, hnext⟩
    cases found with
    | none => exact absurd hnext (Run.not_accepts_refusal _ _ _ _)
    | some z => exact ⟨z, hfind, hnext⟩
  · rintro ⟨z, hfind, hchild⟩
    exact ⟨some z, hfind, hchild⟩

theorem accepts_coercion (target : String) (guard : Validator)
    (convert : Value → Except String Value) (child : Validator) (x y : Value) :
    (Validator.coercion target guard convert child {}).Accepts x y ↔
      (∃ g, guard.Accepts x g) ∧ ∃ z, convert x = .ok z ∧ child.Accepts z y := by
  rw [Accepts, evaluate_of_unset rfl, body_coercion, Check.coerced, Run.bind_eq]
  have hinvalid : ∀ r : Result, r.isValid = false → ¬ (Run.done r).Accepts y :=
    fun r hr => Run.not_accepts_of_invalid hr y
  cases hconvert : convert x with
  | ok z =>
    refine Iff.trans (@Run.accepts_bind_valid (guard.evaluate .plain x)
      (fun _ => child.evaluate .plain z) .done y hinvalid) ?_
    simp [Accepts]
  | error problem =>
    refine Iff.trans (@Run.accepts_bind_valid (guard.evaluate .plain x)
      (fun _ => .done (.refusal x (Check.unconvertible target x problem))) .done y hinvalid) ?_
    simp

theorem accepts_ofPredicate (p : Predicate) (message : Option Value) (x y : Value) :
    (ofPredicate p message).Accepts x y ↔ p.accepts x = .ok true ∧ y = x := by
  rw [Accepts, evaluate_ofPredicate, Run.accepts_ofExcept_bind]
  constructor
  · rintro ⟨ok, hok, h⟩
    cases ok with
    | true => exact ⟨hok, (Run.accepts_success x .null y).mp h⟩
    | false =>
      obtain ⟨e, -, h⟩ := Run.accepts_ofExcept_bind.mp h
      exact absurd h (Run.not_accepts_refusal _ _ _ _)
  · rintro ⟨hok, rfl⟩
    exact ⟨true, hok, (Run.accepts_success y .null y).mpr rfl⟩

theorem accepts_length (bounds : List Validator) (message : Option Value) (x y : Value) :
    (length bounds message).Accepts x y ↔
      y = x ∧ ∃ size, x.size? = some size ∧ ∃ z, AcceptsAll bounds (.int size) z := by
  rw [length, Accepts, evaluate_of_unset rfl, body_sized, Check.sized]
  cases hsize : x.size? with
  | none => simp
  | some size =>
    have hbounds : ∀ z, AcceptsAll bounds (.int size) z ↔
        (Check.threaded none (.int size) (bounds.map toCheck) (.int size)).Accepts z :=
      fun z => (accepts_threaded none (.int size) bounds (.int size) z).symm
    simp only [Run.bind_eq, Run.accepts_bind, Run.accepts_done, Result.isValid_iff,
      List.map_eq_nil_iff, Option.some.injEq, exists_eq_left', hbounds]
    constructor
    · rintro ⟨r, hr, hnone, rfl⟩
      exact ⟨rfl, r.value, r, hr, Result.isValid_iff.mpr hnone, rfl⟩
    · rintro ⟨rfl, z, r, hr, hvalid, -⟩
      exact ⟨r, hr, Result.isValid_iff.mp hvalid, rfl⟩

end Validator

/-! ## Conversions -/

namespace Conversion

open Validator

/-- The conversion by itself accepts the first value and makes the second one of it. -/
def Makes (c : Conversion) (x z : Value) : Prop := (c.apply .valid none).Accepts x z

theorem accepts_inner (c : Conversion) (child : Validator) (z y : Value) :
    (c.inner child).Accepts z y ↔ (c.inner .valid).Accepts z z ∧ child.Accepts z y := by
  unfold inner
  split
  · simp only [accepts_and, accepts_ofPredicate, accepts_valid]
    constructor
    · rintro ⟨u, ⟨hsafe, rfl⟩, hchild⟩
      exact ⟨⟨u, ⟨hsafe, rfl⟩, rfl⟩, hchild⟩
    · rintro ⟨⟨u, ⟨hsafe, rfl⟩, -⟩, hchild⟩
      exact ⟨u, ⟨hsafe, rfl⟩, hchild⟩
  · simp only [accepts_valid, true_and]

/-- What a conversion accepts, apart from its message. -/
theorem accepts_apply (c : Conversion) (child : Validator) (message : Option Value) (x y : Value) :
    (c.apply child message).Accepts x y ↔ (∃ g, c.guard.Accepts x g) ∧
      ∃ z, c.convert x = .ok z ∧ (c.inner .valid).Accepts z z ∧ child.Accepts z y := by
  rw [apply, accepts_withMessage?, accepts_coercion]
  simp only [accepts_inner c child]

theorem makes_iff (c : Conversion) (x z : Value) :
    c.Makes x z ↔ (∃ g, c.guard.Accepts x g) ∧ c.convert x = .ok z ∧
      (c.inner .valid).Accepts z z := by
  rw [Makes, accepts_apply]
  refine and_congr_right fun _ => ?_
  simp only [accepts_valid]
  constructor
  · rintro ⟨w, hconvert, hinner, rfl⟩
    exact ⟨hconvert, hinner⟩
  · rintro ⟨hconvert, hinner⟩
    exact ⟨z, hconvert, hinner, rfl⟩

/-- A validator behind a conversion sees what the conversion makes. -/
theorem accepts_apply_iff_makes (c : Conversion) (child : Validator) (message : Option Value)
    (x y : Value) :
    (c.apply child message).Accepts x y ↔ ∃ z, c.Makes x z ∧ child.Accepts z y := by
  rw [accepts_apply]
  simp only [makes_iff]
  constructor
  · rintro ⟨hguard, z, hconvert, hinner, hchild⟩
    exact ⟨z, ⟨hguard, hconvert, hinner⟩, hchild⟩
  · rintro ⟨z, ⟨hguard, hconvert, hinner⟩, hchild⟩
    exact ⟨hguard, z, hconvert, hinner, hchild⟩

end Conversion
end Conform

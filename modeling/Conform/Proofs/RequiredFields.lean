import Conform.Proofs.EntryPoints

/-
  Required values. `required` puts a guard against the absent value in front of a validator, so the
  absent value is rejected whatever flags the validator carries, and any other value is left to the
  validator (`evaluate_required`). As the validator of a field it asks for a key with a value that
  is not absent. `requiredWhen` asks for that only where the enclosing map meets a condition, and
  else lets a key be missing (`verdict?_requiredWhen_eq_true`).

  Main result: `required_presence`. A key that is not there has the absent value, and so it is
  rejected as such; `required` does not ask for more. A value that is handed in for a key that is
  said not to be there is judged as what it is (`required_judges_value_without_key`).
-/

namespace Conform

namespace Validator

/-- The validation gives a result with the value and the expectations. -/
def Gives (v : Validator) (awaiting : Bool) (x : Value) (present : Bool) (y : Value)
    (es : List Expectation) : Prop :=
  ∃ r, (v.validated awaiting x present).outcome? = some (.ok r) ∧ r.value = y ∧
    r.expectations = es

variable {awaiting : Bool} {x : Value}

/-! ## Required values -/

/-- The expectation that a value is not absent. -/
def missing : Expectation :=
  { message := .str "is required", value := .null, code := some Code.notExpected.text }

/-- The absent value is rejected, also where a flag of the validator would let it pass. -/
theorem evaluate_required_null (v : Validator) (site : Site) :
    v.required.evaluate site .null = .done (.refusal .null missing) := by
  have hguard : ((not (isNull none) (some (.str "is required"))).evaluate .plain .null).Rejects :=
    Run.rejects_refusal .null missing .null
  exact evaluate_and_of_rejects hguard v site

/-- Any other value is left to the validator, as one that is there. -/
theorem evaluate_required (h : x ≠ .null) (v : Validator) (site : Site) :
    v.required.evaluate site x = (v.evaluate .plain x).bind fun r => .done (r.behind x) := by
  refine evaluate_and_of_accepts ?_ v site
  cases x with
  | null => exact absurd rfl h
  | _ => rfl

theorem evaluate_required_required (v : Validator) (site : Site) (x : Value) :
    v.required.required.evaluate site x = v.required.evaluate site x := by
  by_cases hnull : x = .null
  · rw [hnull, evaluate_required_null, evaluate_required_null]
  · rw [evaluate_required hnull, evaluate_required hnull, evaluate_required hnull, Run.bind_assoc]
    simp only [Run.bind_done, Result.behind_behind]

theorem verdict?_required_eq_true (awaiting : Bool) (v : Validator) (site : Site) (x : Value) :
    ((v.required.evaluate site x).carriedOut awaiting).verdict? = some true ↔
      x ≠ .null ∧ ((v.evaluate .plain x).carriedOut awaiting).verdict? = some true := by
  by_cases hnull : x = .null
  · rw [hnull, evaluate_required_null, Run.carriedOut_done]
    simp
  · rw [evaluate_required hnull, Run.verdict?_carriedOut_bind_done (Result.isValid_behind x)]
    exact (and_iff_right hnull).symm

theorem gives_required (h : x ≠ .null) (v : Validator) (awaiting present : Bool) (y : Value)
    (es : List Expectation) :
    v.required.Gives awaiting x present y es ↔ v.Gives awaiting x true y es := by
  simp only [Gives, outcome?_validated_iff, evaluate_required h, Run.carriedOut_bind,
    Run.carriedOut_done, Run.outcome?_bind_eq_ok, Run.outcome?_done, Option.some.injEq,
    Except.ok.injEq]
  constructor
  · rintro ⟨s, ⟨r, hr, rfl⟩, hvalue, hexpectations⟩
    exact ⟨r, hr, by rwa [Result.value_behind] at hvalue,
      by rwa [Result.expectations_behind] at hexpectations⟩
  · rintro ⟨r, hr, hvalue, hexpectations⟩
    exact ⟨_, ⟨r, hr, rfl⟩, by rwa [Result.value_behind], by rwa [Result.expectations_behind]⟩

/-! ## Optional values -/

/-- A key that is not there is let pass with whatever value. -/
theorem evaluate_optional_absent (v : Validator) (x : Value) :
    v.optional.evaluate ⟨false, none⟩ x = .done (.success x) := by
  rw [optional, copyWith, evaluate_withFlags, Flags.guard, Flags.letPass, Bool.not_false,
    Bool.true_and, Option.getD_some, Bool.or_true, if_pos rfl]

/-- A value that is there is judged as without the flag. -/
theorem evaluate_optional_present (v : Validator) (x : Value) :
    v.optional.evaluate .plain x = v.evaluate .plain x := by
  rw [optional, copyWith, evaluate_withFlags, evaluate, Flags.guard, Flags.guard]
  rfl

/-! ## Fields of a map -/

/-- The condition is put to the enclosing map, and what it says selects what is asked of the
field. -/
theorem evaluate_requiredWhen (condition v : Validator) (message : Option Value) (present : Bool)
    (parent : Entries) (x : Value) :
    (requiredWhen condition v message).evaluate ⟨present, some parent⟩ x =
      (condition.evaluate .plain (.map parent)).bind fun met =>
        ((if met.isValid then v.required else v.optional).evaluate ⟨present, none⟩ x).bind
          fun r => .done (Check.relabelled message x r) := by
  rw [requiredWhen, evaluate_when]

theorem verdict?_requiredWhen_eq_true (awaiting : Bool) (condition v : Validator)
    (message : Option Value) (present : Bool) (parent : Entries) (x : Value) :
    (((requiredWhen condition v message).evaluate ⟨present, some parent⟩ x).carriedOut
        awaiting).verdict? = some true ↔
      (((condition.evaluate .plain (.map parent)).carriedOut awaiting).verdict? = some true ∧
          ((v.required.evaluate ⟨present, none⟩ x).carriedOut awaiting).verdict? = some true) ∨
        (((condition.evaluate .plain (.map parent)).carriedOut awaiting).verdict? = some false ∧
          ((v.optional.evaluate ⟨present, none⟩ x).carriedOut awaiting).verdict? = some true) := by
  have hbranch : ∀ met : Result,
      ((((if met.isValid then v.required else v.optional).evaluate ⟨present, none⟩ x).bind
        fun r => .done (Check.relabelled message x r)).carriedOut awaiting).verdict? =
        (((if met.isValid then v.required else v.optional).evaluate ⟨present, none⟩
          x).carriedOut awaiting).verdict? :=
    fun met => Run.verdict?_carriedOut_bind_done (Check.isValid_relabelled message x) awaiting _
  have hmet : ∀ accepted : Bool, ((condition.evaluate .plain (.map parent)).carriedOut
      awaiting).verdict? = some accepted ↔ _ := fun _ => Run.verdict?_eq_some
  rw [evaluate_requiredWhen, Run.carriedOut_bind, Run.verdict?_bind, hmet, hmet]
  simp only [hbranch]
  constructor
  · rintro ⟨met, hmet, hchosen⟩
    cases hvalid : met.isValid with
    | true => exact .inl ⟨⟨met, hmet, hvalid⟩, by rwa [hvalid, if_pos rfl] at hchosen⟩
    | false =>
      exact .inr ⟨⟨met, hmet, hvalid⟩, by rwa [hvalid, if_neg Bool.false_ne_true] at hchosen⟩
  · rintro (⟨⟨met, hmet, hvalid⟩, hchosen⟩ | ⟨⟨met, hmet, hvalid⟩, hchosen⟩)
    · exact ⟨met, hmet, by rwa [hvalid, if_pos rfl]⟩
    · exact ⟨met, hmet, by rwa [hvalid, if_neg Bool.false_ne_true]⟩

/-- A map with a schema of one field is accepted if the field is. -/
theorem verdict?_mapOf_field (awaiting present : Bool) (key : Value) (v : Validator)
    (message : Option Value) (entries : Entries) :
    ((mapOf [(key, v)] message).validated awaiting (.map entries) present).verdict? = some true ↔
      key.isShowable = true ∧ ((v.evaluate ⟨(entries.find? key).isSome, some entries⟩
        ((entries.find? key).getD .null)).carriedOut awaiting).verdict? = some true := by
  rw [verdict?_validated_iff, verdict?_mapOf_eq_true, List.forall_mem_singleton,
    Entries.hasKey_iff_find?]

/-- With `required` the key has to be there, with a value that is not absent. -/
theorem verdict?_mapOf_required (awaiting present : Bool) (key : Value) (v : Validator)
    (message : Option Value) (entries : Entries) :
    ((mapOf [(key, v.required)] message).validated awaiting (.map entries) present).verdict? =
        some true ↔
      key.isShowable = true ∧ ∃ y, entries.find? key = some y ∧ y ≠ .null ∧
        (v.validated awaiting y true).verdict? = some true := by
  rw [verdict?_mapOf_field, verdict?_required_eq_true]
  refine and_congr_right fun _ => ?_
  simp only [verdict?_validated_iff]
  cases entries.find? key with
  | none =>
    constructor
    · rintro ⟨hnull, -⟩
      exact absurd rfl hnull
    · rintro ⟨y, hfind, -⟩
      cases hfind
  | some y =>
    constructor
    · exact fun haccepted => ⟨y, rfl, haccepted⟩
    · rintro ⟨_, hfind, haccepted⟩
      cases hfind
      exact haccepted

/-- With `optional` the key may be missing. -/
theorem verdict?_optional_field (awaiting : Bool) (v : Validator) (found : Option Value) :
    ((v.optional.evaluate ⟨found.isSome, none⟩ (found.getD .null)).carriedOut awaiting).verdict? =
        some true ↔
      ∀ y, found = some y → (v.validated awaiting y true).verdict? = some true := by
  simp only [verdict?_validated_iff]
  cases found with
  | none =>
    rw [Option.isSome_none, evaluate_optional_absent, Run.carriedOut_done]
    exact iff_of_true rfl nofun
  | some y =>
    change ((v.optional.evaluate .plain y).carriedOut awaiting).verdict? = some true ↔ _
    rw [evaluate_optional_present]
    exact ⟨fun haccepted _ hy => Option.some.inj hy ▸ haccepted, fun haccepted => haccepted y rfl⟩

/-- With `requiredWhen` the enclosing map decides which of the two it is. -/
theorem verdict?_mapOf_requiredWhen (awaiting present : Bool) (key : Value)
    (condition v : Validator) (message outer : Option Value) (entries : Entries) :
    ((mapOf [(key, requiredWhen condition v message)] outer).validated awaiting (.map entries)
        present).verdict? = some true ↔
      key.isShowable = true ∧
        (((condition.validated awaiting (.map entries) true).verdict? = some true ∧
            ∃ y, entries.find? key = some y ∧ y ≠ .null ∧
              (v.validated awaiting y true).verdict? = some true) ∨
          ((condition.validated awaiting (.map entries) true).verdict? = some false ∧
            ∀ y, entries.find? key = some y →
              (v.validated awaiting y true).verdict? = some true)) := by
  rw [verdict?_mapOf_field]
  refine and_congr_right fun hkey => ?_
  have hrequired := verdict?_mapOf_required awaiting true key v none entries
  rw [and_iff_right hkey, verdict?_mapOf_field, and_iff_right hkey] at hrequired
  rw [verdict?_requiredWhen_eq_true, verdict?_optional_field, ← hrequired,
    verdict?_validated_iff, verdict?_validated_iff, verdict?_required_eq_true,
    verdict?_required_eq_true]
  rfl

/-! ## Presence -/

/-- The absent value is rejected as required, with or without its key and under whatever flags. On
any other value `required` does as the validator does on one that is there, and doubling it changes
nothing. A field with it asks for a key with a value that is not absent; a field with `requiredWhen`
asks for that if the map meets the condition, and else minds only a value that is there. The key of
a field has to have a text, since its place is named before it is checked. -/
theorem required_presence (v : Validator) :
    (∀ awaiting present, (v.required.validated awaiting .null present).verdict? = some false) ∧
      (∀ awaiting x present y es, x ≠ .null →
        (v.required.Gives awaiting x present y es ↔ v.Gives awaiting x true y es)) ∧
      (∀ site x, v.required.required.evaluate site x = v.required.evaluate site x) ∧
      (∀ awaiting present key message (entries : Entries),
        ((mapOf [(key, v.required)] message).validated awaiting (.map entries) present).verdict? =
            some true ↔
          key.isShowable = true ∧ ∃ y, entries.find? key = some y ∧ y ≠ .null ∧
            (v.validated awaiting y true).verdict? = some true) ∧
      ∀ awaiting present key condition message outer (entries : Entries),
        ((mapOf [(key, requiredWhen condition v message)] outer).validated awaiting (.map entries)
            present).verdict? = some true ↔
          key.isShowable = true ∧
            (((condition.validated awaiting (.map entries) true).verdict? = some true ∧
                ∃ y, entries.find? key = some y ∧ y ≠ .null ∧
                  (v.validated awaiting y true).verdict? = some true) ∨
              ((condition.validated awaiting (.map entries) true).verdict? = some false ∧
                ∀ y, entries.find? key = some y →
                  (v.validated awaiting y true).verdict? = some true)) := by
  refine ⟨fun awaiting present => ?_, fun awaiting x present y es hnull => ?_,
    evaluate_required_required v, fun awaiting present key message entries => ?_,
    fun awaiting present key condition message outer entries => ?_⟩
  · rw [verdict?_validated_iff, evaluate_required_null, Run.carriedOut_done]
    rfl
  · exact gives_required hnull v awaiting present y es
  · exact verdict?_mapOf_required awaiting present key v message entries
  · exact verdict?_mapOf_requiredWhen awaiting present key condition v message outer entries

/-- A text that may be absent in both ways has to be there all the same, and is still a text. -/
theorem required_presence_of_nullable_optional :
    ((isString none).nullable.optional.required.validated false .null false).verdict? =
        some false ∧
      Value.str "a" ≠ .null ∧
      (isString none).nullable.optional.required.Gives false (.str "a") false (.str "a") [] ∧
      ((mapOf [(.str "k", requiredWhen (isMap none) (isString none).nullable.optional none)]
        none).validated false (.map [(.str "k", .null)]) true).verdict? ≠ some true := by
  have hpresence := required_presence (isString none).nullable.optional
  refine ⟨hpresence.1 false false, nofun, ?_, fun haccepted => ?_⟩
  · exact (hpresence.2.1 false (.str "a") false (.str "a") [] nofun).mpr ⟨_, rfl, rfl, rfl⟩
  · have hfind : Entries.find? [(.str "k", .null)] (.str "k") = some .null := by
      simp [Entries.find?, Value.equals]
    rcases ((hpresence.2.2.2.2 false true (.str "k") (isMap none) none none _).mp haccepted).2 with
      ⟨-, y, hy, hnull, -⟩ | ⟨hcondition, -⟩
    · exact hnull (Option.some.inj (hy.symm.trans hfind))
    · cases hcondition

/-- A value whose key is said not to be there is judged as the value it is. -/
theorem required_judges_value_without_key :
    (valid.required.validate (.int 5) false).outcome? =
      some (.ok (.success (.int 5) (.int 5))) := rfl

end Validator
end Conform

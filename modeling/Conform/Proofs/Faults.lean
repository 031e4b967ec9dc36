import Conform.Proofs.Exclusion
import Conform.Proofs.PartAccounting

/-
  Where faults come from. The library raises none of its own and hides none:
  `evaluate_faults_come_from_calls` says that a run of any composition answers if every call that
  it makes answers, and that otherwise the first call that fails is the last one, and its fault is
  that of the run.
-/

namespace Conform

namespace Composition

open Validator Run

/-- The validators expect what is known of the composition, or something that can always be
said. -/
def Describes (v : Observer → Validator) (expectation : Option (Value → Except Fault Expectation)) :
    Prop :=
  (∀ o, (v o).describe? = expectation) ∨
    (expectation = none ∧ ∃ f, (∀ o, (v o).describe? = some f) ∧ ∀ x, ∃ e, f x = .ok e)

theorem describes_build : (c : Composition) → Describes (fun o => c.build o) c.expectation?
  | .leaf _ _ _ => .inl fun _ => by
    simp only [build, expectation?]
    rfl
  | .withFlags f child => by
    simp only [expectation?, build]
    unfold Describes
    simp only [describe?_withFlags]
    exact describes_build child
  | .length bounds message => by
    refine .inr ⟨by simp only [expectation?], fun x => .ok
      { message := messageOr message (.str "a value of the required length"), value := x,
        code := some Code.lengthOutOfRange.text }, fun _ => ?_, fun _ => ⟨_, rfl⟩⟩
    simp only [build]
    rfl
  | .transform _ _ | .flattenKeys _ _ => .inl fun o => by
    simp only [build, expectation?]
    cases o <;> rfl
  | .convert _ _ message => .inl fun o => by
    simp only [build, expectation?, Conversion.apply, withMessage?]
    split <;> rfl
  | .allOf _ _ _ | .anyOf _ _ | .noneOf _ _ | .not _ _ | .and _ _ | .withExpectation _ _
  | .when _ _ _ _ | .resolve _ | .defaultTo _ _ | .pickKeys _ _ | .pluckKey _ _
  | .getField _ _ | .switchBy _ _ | .mapOf _ _ | .strictMapOf _ _ | .listOf _ | .listEach _ _ =>
    .inl fun _ => by
      simp only [build, expectation?]
      rfl

theorem denied_of_describe {v : Validator} {f : Value → Except Fault Expectation}
    (h : v.describe? = some f) (x : Value) :
    v.toCheck.denied x = (f x).map (Check.denial x) := by
  rw [Check.denied, toCheck, h]

theorem denied_of_silent {v : Validator} (h : v.describe? = none) (x : Value) :
    v.toCheck.denied x = .ok (Check.denial x (Check.passed x)) := by
  rw [Check.denied, toCheck, h]
  rfl

theorem asking_silent (o : Observer) (v : Validator) : asking o none v = v := by cases o <;> rfl

/-- What is expected of a value can always be said, so no call needs to be noted. -/
theorem accounted_questioned_of_ok {v : Observer → Validator} (h : Sound v) {x : Value}
    {e : Expectation} (hdenied : ∀ o, (v o).toCheck.denied x = .ok e) :
    Accounted (fun _ => True) fun o => (v o).toCheck.questioned x := by
  have hquestioned : ∀ o, (v o).toCheck.questioned x =
      ((v o).evaluate .plain x).bind fun r =>
        if r.isValid then .done (some e) else .done none := by
    intro o
    rw [Check.questioned, hdenied o]
    rfl
  simp only [hquestioned]
  refine (h.evaluate .plain x).bind fun r _ => ?_
  split <;> exact accounted_done trivial

/-- With an observer or without, a negation calls the expectation where the validator accepts. -/
theorem questioned_asking {v : Validator} {f : Value → Except Fault Expectation}
    (h : v.describe? = some f) (o : Observer) (x : Value) :
    (asking o (some f) v).toCheck.questioned x = (v.evaluate .plain x).bind fun r =>
      if r.isValid then ((Run.ofExcept (f x)).observed o .expectation x).bind fun e =>
        .done (some (Check.denial x e)) else .done none := by
  cases o with
  | none =>
    rw [Check.questioned, asking, denied_of_describe h]
    · congr 1
      funext r
      cases r.isValid with
      | true => cases f x <;> rfl
      | false => rfl
    · intro write g hobserver
      cases hobserver
  | some write =>
    have hasked : (asking (some write) (some f) v).evaluate .plain x =
        (v.evaluate .plain x).bind fun r => if r.isValid then
          ((Run.ofExcept (f x)).observed (some write) .expectation x).bind fun _ => .done r
        else .done r := Flags.guard_unset _ _ _
    have hdenied := denied_of_describe (v := asking (some write) (some f) v) rfl x
    rw [Check.questioned, hdenied, toCheck_run, hasked, Run.bind_assoc]
    congr 1
    funext r
    cases hvalid : r.isValid with
    | true => cases f x <;> simp [hvalid, observed, concluding, Run.ofExcept, Except.map]
    | false => simp [hvalid]

/-- A negation asks what is expected of a value that is accepted. The call for it is noted, unless
it is known to answer. -/
theorem accounted_questioned {v : Observer → Validator} (h : Sound v)
    {expectation : Option (Value → Except Fault Expectation)} (hdescribes : Describes v expectation)
    (x : Value) : Accounted (fun _ => True) fun o =>
      (asking o expectation (v o)).toCheck.questioned x := by
  obtain hknown | ⟨rfl, f, hf, htotal⟩ := hdescribes
  · cases expectation with
    | none =>
      simp only [asking_silent]
      exact accounted_questioned_of_ok h fun o => denied_of_silent (hknown o) x
    | some f =>
      simp only [fun o => questioned_asking (hknown o) o x]
      refine (h.evaluate .plain x).bind fun r _ => ?_
      cases r.isValid with
      | true =>
        exact (accounted_observed .expectation nofun x fun _ _ => trivial).bind fun _ _ =>
          accounted_done trivial
      | false => exact accounted_done trivial
  · obtain ⟨e, he⟩ := htotal x
    simp only [asking_silent]
    refine accounted_questioned_of_ok h (e := Check.denial x e) fun o => ?_
    rw [denied_of_describe (hf o), he]
    rfl

theorem sound_not {v : Observer → Validator} (h : Sound v)
    {expectation : Option (Value → Except Fault Expectation)} (hdescribes : Describes v expectation)
    (message : Option Value) :
    Sound fun o => .not (if (replacing? message).isSome then v o
      else asking o expectation (v o)) message where
  flags _ := rfl
  body site x := by
    simp only [Validator.not, body_negation]
    cases hmessage : replacing? message with
    | some text =>
      have hnegated : ∀ o, (v o).toCheck.negated message x =
          ((v o).evaluate .plain x).bind fun r => .done (if r.isValid then
            .refusal x { message := text, value := x, code := some Code.notExpected.text }
            else .success x) := by
        intro o
        rw [Check.negated, hmessage, bind_eq]
        congr 1
        funext r
        cases r.isValid <;> rfl
      simp only [Option.isSome_some, if_true, hnegated]
      exact (h.evaluate .plain x).bind fun _ _ => accounted_done trivial
    | none =>
      simp only [Option.isSome_none, Bool.false_eq_true, if_false,
        Check.negated_eq_questioned hmessage]
      refine (accounted_questioned h hdescribes x).bind fun e? _ => ?_
      cases e? <;> exact accounted_done trivial

theorem sound_noneOf {γ : Type} {members : List γ} {w : γ → Observer → Validator}
    {expectation : γ → Option (Value → Except Fault Expectation)}
    (h : ∀ m ∈ members, Sound (w m) ∧ Describes (w m) (expectation m)) (message : Option Value) :
    Sound fun o =>
      Validator.noneOf (members.map fun m => asking o (expectation m) (w m o)) message where
  flags _ := rfl
  body site x := by
    simp only [Validator.noneOf, body_exclusion, List.map_map]
    refine accounted_start _ (fun o m => (asking o (expectation m) (w m o)).toCheck)
      (fun m hm es => ?_) (fun _ => trivial) []
    simp only [Check.excluding_eq_questioned]
    obtain ⟨hsound, hdescribes⟩ := h m hm
    exact (accounted_questioned hsound hdescribes x).bind fun _ _ => accounted_done trivial

/-! ## Functions that the library calls -/

theorem sound_leaf (name : String) (run : Value → Run Result)
    (expectation : Option (Value → Except Fault Expectation)) :
    Sound fun o => .function name (fun x => (run x).observed o (.leaf name) x) expectation {} where
  flags _ := rfl
  body _ x := accounted_observed (.leaf name) nofun x fun _ _ => trivial

theorem sound_transforming {v : Observer → Validator} (h : Sound v)
    (fn : Value → Except Fault Value) : Sound fun o => transforming o fn (v o) where
  flags o := by cases o <;> rfl
  body site x := by
    have hbody : ∀ o, (transforming o fn (v o)).body site x =
        ((Run.ofExcept (fn x)).observed o .transform x).bind ((v o).evaluate .plain) := by
      intro o
      cases o <;> rfl
    simp only [hbody]
    exact (accounted_observed .transform nofun x fun _ _ => trivial).bind fun y _ =>
      h.evaluate .plain y

theorem sound_refusing (parent : Entries) (fault : Fault) :
    Sound fun o => refusing o parent fault where
  flags _ := rfl
  body _ _ := accounted_observed .choice nofun (.map parent) fun _ _ => trivial

/-! ## Conversions -/

/-- Every value can be shown to the guard of a conversion. -/
theorem answers_guard (c : Conversion) : c.guard.Answers := by
  have hkind : ∀ k, (isKind k none).Answers := fun k => answers_ofPredicate (isTotal_isType _ _ _) _
  have hnumber : (isNumber none).Answers := answers_ofPredicate (isTotal_isType _ _ _) _
  have hday : (isDay none).Answers := answers_ofPredicate (isTotal_isType _ _ _) _
  have hformat : ∀ format, (hasFormat format none).Answers :=
    fun format => answers_ofPredicate (isTotal_formatted format) _
  have hbits : (isOneOf [.int 0, .int 1] none).Answers :=
    answers_ofPredicate isTotal_oneOf_bits none
  have hwords : (isOneOf [.str "true", .str "false"] none).Answers :=
    answers_ofPredicate (isTotal_oneOf rfl) _
  have hpresent : (Validator.ofPredicate .notNull none).Answers :=
    answers_ofPredicate isTotal_notNull none
  have hnumerals : (isNumberString none).Answers := answers_anyOf (by simp [hformat]) none
  cases c with
  | str => exact hpresent
  | trimmed | lowerCase | upperCase | collapsed | pieces => exact hkind .str
  | int | intStrict | intSafe | float | number | bool | boolStrict | boolLenient | datetime
  | dateOnly | json =>
    refine answers_anyOf ?_ none
    simp [hkind, hnumber, hday, hformat, hbits, hwords, hnumerals, isString, isMap, isList]

theorem sound_convert {v : Observer → Validator} (h : Sound v) (c : Conversion)
    (message : Option Value) : Sound fun o => c.apply (v o) message := by
  have hinner : Sound fun o => c.inner (v o) := by
    cases c with
    | intSafe => exact sound_and (sound_ofPredicate isTotal_safeInt none) h
    | _ => exact h
  exact sound_withMessage? (sound_coercion hinner (answers_guard c) c.target c.convert) message

/-! ## Compositions -/

mutual

/-- One case for each way of composing validators: the node keeps what holds of its children. -/
theorem sound_build : (c : Composition) → c.ShowsNumbers → Sound fun o => c.build o
  | .leaf name run expectation, _ => by
    simp only [build]
    exact sound_leaf name run expectation
  | .withFlags f child, h => by
    simp only [build, ShowsNumbers] at h ⊢
    exact (sound_build child h).withFlags f
  | .allOf children message collecting, h => by
    simp only [build, ShowsNumbers, buildAll_eq_map] at h ⊢
    exact sound_allOf (sound_buildAll children h) message collecting
  | .anyOf children message, h => by
    simp only [build, ShowsNumbers, buildAll_eq_map] at h ⊢
    exact sound_anyOf (sound_buildAll children h) message
  | .noneOf children message, h => by
    simp only [build, ShowsNumbers, buildDenied_eq_map] at h ⊢
    exact sound_noneOf (fun child hchild => ⟨sound_buildAll children h child hchild,
      describes_build child⟩) message
  | .not child message, h => by
    simp only [build, ShowsNumbers] at h ⊢
    exact sound_not (sound_build child h) (describes_build child) message
  | .and first second, h => by
    simp only [build, ShowsNumbers] at h ⊢
    exact sound_and (sound_build first h.1) (sound_build second h.2)
  | .withExpectation child e, h => by
    simp only [build, ShowsNumbers] at h ⊢
    exact sound_withExpectation (sound_build child h) e
  | .when condition thenBranch otherwise message, h => by
    simp only [build, ShowsNumbers] at h ⊢
    exact sound_when (sound_build condition h.1) (sound_build thenBranch h.2.1)
      (sound_build otherwise h.2.2) message
  | .resolve choose, h => by
    simp only [build, ShowsNumbers] at h ⊢
    exact sound_resolve fun parent => sound_buildChosen parent (choose parent) (h parent)
  | .length bounds message, h => by
    simp only [build, ShowsNumbers, buildAll_eq_map] at h ⊢
    exact sound_length (sound_buildAll bounds h) message
  | .transform fn child, h => by
    simp only [build, ShowsNumbers] at h ⊢
    exact sound_transforming (sound_build child h) fn
  | .defaultTo substitute child, h => by
    simp only [build, ShowsNumbers] at h ⊢
    exact sound_defaultTo (sound_build child h) substitute
  | .convert c child message, h => by
    simp only [build, ShowsNumbers] at h ⊢
    exact sound_convert (sound_build child h) c message
  | .pickKeys keys child, h => by
    simp only [build, ShowsNumbers] at h ⊢
    exact sound_pickKeys (sound_build child h) keys
  | .pluckKey key child, h => by
    simp only [build, ShowsNumbers] at h ⊢
    exact sound_pluckKey (sound_build child h) key
  | .flattenKeys delimiter child, h => by
    simp only [build, ShowsNumbers] at h ⊢
    exact sound_flattenKeys (sound_build child h) delimiter
  | .getField key child, h => by
    simp only [build, ShowsNumbers] at h ⊢
    exact sound_getField (sound_build child h) key
  | .switchBy key cases, h => by
    simp only [build, ShowsNumbers, buildUnder_eq_map] at h ⊢
    exact sound_switchBy (w := fun (child : Composition) o => child.build o)
      (sound_buildUnder cases h) key
  | .mapOf schema message, h => by
    simp only [build, ShowsNumbers, buildUnder_eq_map] at h ⊢
    exact sound_mapOf (w := fun (child : Composition) o => child.build o)
      (sound_buildUnder schema h.2) h.1 message
  | .strictMapOf schema message, h => by
    simp only [build, ShowsNumbers, buildUnder_eq_map, Schema.keys, List.map_map] at h ⊢
    exact sound_strictMapOf (w := fun (child : Composition) o => child.build o)
      (sound_buildUnder schema h.2) h.1 message
  | .listOf children, h => by
    simp only [build, ShowsNumbers, buildAll_eq_map] at h ⊢
    exact sound_listOf (sound_buildAll children h.2) h.1
  | .listEach child message, h => by
    simp only [build, ShowsNumbers] at h ⊢
    exact sound_listEach (sound_build child h) message

theorem sound_buildAll : (children : List Composition) → AllShowNumbers children →
    ∀ child ∈ children, Sound fun o => child.build o
  | [], _ => nofun
  | child :: rest, h => by
    rw [AllShowNumbers] at h
    exact List.forall_mem_cons.mpr ⟨sound_build child h.1, sound_buildAll rest h.2⟩

theorem sound_buildUnder : (entries : List (Value × Composition)) → AllUnderShowNumbers entries →
    ∀ entry ∈ entries, Sound fun o => entry.2.build o
  | [], _ => nofun
  | (key, child) :: rest, h => by
    rw [AllUnderShowNumbers] at h
    exact List.forall_mem_cons.mpr ⟨sound_build child h.1, sound_buildUnder rest h.2⟩

theorem sound_buildChosen (parent : Entries) : (chosen : Except Fault Composition) →
    ChoiceShowsNumbers chosen → Sound fun o => buildChosen o parent chosen
  | .ok child, h => by
    simp only [buildChosen, ChoiceShowsNumbers] at h ⊢
    exact sound_build child h
  | .error fault, _ => by
    simp only [buildChosen]
    exact sound_refusing parent fault

end

/-! ## Where faults come from -/

/-- A failed result has a first expectation, and it is one that can be made as a failure. -/
theorem failure_of_invalid {r : Result} (h : r.isValid = false) :
    (∃ e, r.firstExpectation = .ok e) ∧
      Result.failure r.value r.expectations r.given = .ok r := by
  obtain ⟨value, expectations, given⟩ := r
  cases expectations with
  | nil => cases h
  | cons e es => exact ⟨⟨e, rfl⟩, rfl⟩

/-- A leaf whose function fails. -/
def fragile : Composition := .leaf "fragile" (fun _ => .raised .wrongType) none

/-- A leaf that accepts every value. -/
def sturdy : Composition := .leaf "sturdy" (fun x => .done (.success x)) none

/-- A choice behind whose first member there is another one. -/
def fallback : Composition := .anyOf [.not (.listOf [fragile]) none, sturdy] none

end Composition
end Conform

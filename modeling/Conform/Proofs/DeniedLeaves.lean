import Conform.Environment.Standard
import Conform.Proofs.LeafAnswers
import Conform.Proofs.Ranges

/-
  What is said against a value that a leaf accepts. A negation asks the leaf what it expects and
  says that it did not expect it: `Leaf.usual?` is what a leaf expects in words, `Leaf.described`
  the message that it has been given in their place, and `Leaf.code` the code of its failures. A
  leaf that is made of one check and the lengths know this of themselves, so that their negations
  read as the opposite of their failures.

  Main result: `negations_say_the_opposite`. The text of a number is a choice of two checks, which
  does not say what it expects; what is said of it is only that it passed
  (`isNumberString_denied_as_passed`).
-/

namespace Conform

/-! ## Negations of what is accepted -/

namespace Check

variable {c : Check} {x : Value} {awaiting : Bool}

/-- What a check that accepts is asked for, all waiting done or without any: what is to be denied,
or the fault of saying it, if waiting leaves that fault as it is. -/
theorem outcome?_carriedOut_questioned
    (haccepts : ((c.run .plain x).carriedOut awaiting).verdict? = some true)
    (hfault : ∀ fault, c.denied x = .error fault → fault.awaited = fault) :
    ((c.questioned x).carriedOut awaiting).outcome? = some ((c.denied x).map some) := by
  obtain ⟨r, hr, hvalid⟩ := Run.verdict?_eq_some.mp haccepts
  rw [questioned, Run.carriedOut_bind, Run.outcome?_bind_of_ok _ hr, hvalid, if_pos rfl]
  cases hdenied : c.denied x with
  | ok e => cases awaiting <;> rfl
  | error fault =>
    cases awaiting with
    | true => exact congrArg (fun fault => some (Except.error fault)) (hfault fault hdenied)
    | false => rfl

/-- A run that asks a check that accepts and refuses the value with what is denied. -/
theorem outcome?_bind_questioned
    (haccepts : ((c.run .plain x).carriedOut awaiting).verdict? = some true)
    (hfault : ∀ fault, c.denied x = .error fault → fault.awaited = fault)
    {f : Option Expectation → Run Result} {given : Value}
    (hf : ∀ e, f (some e) = .done (.refusal x e given)) :
    (((c.questioned x).bind f).carriedOut awaiting).outcome? =
      some ((c.denied x).map fun e => .refusal x e given) := by
  have hquestioned := outcome?_carriedOut_questioned haccepts hfault
  rw [Run.carriedOut_bind]
  cases hdenied : c.denied x with
  | error fault =>
    rw [hdenied] at hquestioned
    exact Run.outcome?_bind_of_error _ hquestioned
  | ok e =>
    rw [hdenied] at hquestioned
    rw [Run.outcome?_bind_of_ok _ hquestioned, hf, Run.carriedOut_done]
    rfl

end Check

namespace Validator

variable {v : Validator} {x : Value} {awaiting present : Bool}

/-- The negation of a validator, and the exclusion of nothing else. -/
def negations (v : Validator) : List Validator := [v.not none, noneOf [v] none]

/-- The negations of a validator that accepts end with what is denied. -/
theorem outcome?_negations
    (haccepts : ((v.evaluate .plain x).carriedOut awaiting).verdict? = some true)
    (hfault : ∀ fault, v.toCheck.denied x = .error fault → fault.awaited = fault) :
    ∀ w ∈ v.negations, ∃ given, (w.validated awaiting x present).outcome? =
      some ((v.toCheck.denied x).map fun e => .refusal x e given) := by
  refine List.forall_mem_cons.mpr ⟨⟨.null, outcome?_validated_of_some ?_⟩,
    List.forall_mem_singleton.mpr ⟨x, outcome?_validated_of_some ?_⟩⟩
  · rw [evaluate_not, Check.negated_eq_questioned rfl]
    exact Check.outcome?_bind_questioned haccepts hfault fun _ => rfl
  · rw [evaluate_noneOf, List.map_singleton, Check.excluding_cons]
    exact Check.outcome?_bind_questioned haccepts hfault fun _ => rfl

end Validator

/-! ## What leaves say -/

namespace Leaf

/-- What the leaf expects, in words; nothing if it does not say. -/
def usual? : Leaf → Option String
  | .type types name _ => some (name.getD (Text.joinWith " | " (types.map TypeName.name)))
  | .equal expected => some ("equal to " ++ expected.pretty)
  | .related r limit => some (Predicate.relationWords r ++ limit.pretty)
  | .inRange low high =>
    some ("between " ++ low.pretty ++ " and " ++ high.pretty ++ " (inclusive)")
  | .oneOf options => some ("one of: " ++ (Value.list options).pretty)
  | .length _ => some "a value of the required length"
  | .empty => some "empty"
  | .contains item => some ("contains " ++ item.pretty)
  | .hasKey key => some ("contains key \"" ++ key ++ "\"")
  | .matching pattern => some ("matches pattern " ++ pattern.source.display)
  | .format f => some f.message
  | .numberText => none
  | .date check => some check.message
  | .datesBetween start finish _ _ =>
    some ("a date between " ++ start.text ++ " and " ++ finish.text)

def code : Leaf → Code
  | .type _ _ _ => .typeMismatch
  | .equal _ => .equalMismatch
  | .related _ _ | .inRange _ _ => .rangeOutOfBounds
  | .oneOf _ => .membershipMismatch
  | .length _ | .empty => .lengthOutOfRange
  | .contains _ | .hasKey _ => .containsMissing
  | .matching _ => .patternMismatch
  | .format _ | .numberText => .formatInvalid
  | .date _ | .datesBetween _ _ _ _ => .dateOutOfRange

theorem code_ne_notExpected (l : Leaf) : l.code ≠ .notExpected := by
  cases l <;> exact nofun

/-- The message that was given, or else the usual one. -/
def described (message : Option String) (usual : String) : String :=
  (message.filter (· ≠ "")).getD usual

/-- A message was given, or the one that shows the arguments can be written. -/
def canSay (message : Option String) (l : Leaf) : Bool :=
  (message.filter (· ≠ "")).isSome || l.shown.all Value.isShowable

theorem replacing?_text (message : Option String) :
    replacing? (message.map .str) = (message.filter (· ≠ "")).map .str := by
  cases message with
  | none => rfl
  | some text =>
    have htruthy : (Value.str text).isTruthy = decide (text ≠ "") := by
      rw [Bool.eq_iff_iff]
      simp [Value.isTruthy, Value.size?]
    rw [Option.map_some, replacing?, Option.filter_some, Option.filter_some, htruthy]
    cases decide (text ≠ "") <;> rfl

theorem messageOr_text (message : Option String) (usual : String) :
    messageOr (message.map .str) (.str usual) = .str (described message usual) := by
  rw [messageOr, replacing?_text, described]
  cases message.filter (· ≠ "") <;> rfl

theorem described_ne_empty (message : Option String) {usual : String} (h : usual ≠ "") :
    described message usual ≠ "" := by
  unfold described
  cases hgiven : message.filter (· ≠ "") with
  | none => exact h
  | some text => exact of_decide_eq_true (Option.filter_eq_some_iff.mp hgiven).2

/-- The three ways in which leaves are made: of one check, of bounds of the length, or as a choice
of checks. -/
inductive MadeOf (l : Leaf) (message : Option String) : Validator → Prop
  | check (p : Predicate) (husual : l.usual? = some p.message) (hcode : l.code = p.code)
      (hpattern : p ≠ .brokenPattern) (hshown : p.hasMessage = l.shown.all Value.isShowable) :
    MadeOf l message (Validator.ofPredicate p (message.map .str))
  | measure (bounds : List Validator) (given : Option Value) (usual : String)
      (husual : l.usual? = some usual) (hcode : l.code = .lengthOutOfRange)
      (hshown : l.shown = [])
      (hgiven : messageOr given (.str "a value of the required length") =
        .str (described message usual)) :
    MadeOf l message (Validator.length bounds given)
  | choice (hleaf : l = .numberText) :
    MadeOf l message (Validator.isNumberString (message.map .str))

section

variable {l : Leaf} {message : Option String} {v : Validator}

theorem madeOf_of_make [Environment] (h : l.make message = .ok v) : l.MadeOf message v := by
  cases l with
  | type | equal | related | oneOf | contains | format | date =>
    obtain rfl := Except.ok.inj h
    exact .check _ rfl rfl nofun rfl
  | hasKey key =>
    obtain rfl := Except.ok.inj h
    exact .check _ rfl rfl nofun rfl
  | inRange low high =>
    rw [Validator.eq_of_isInRange_eq_ok h]
    exact .check _ rfl rfl nofun rfl
  | matching pattern =>
    obtain ⟨e, hcompiled, rfl⟩ := exists_of_map_eq_ok h
    refine .check _ ?_ rfl nofun rfl
    rw [usual?, ← GivenExpression.source_of_compile hcompiled]
    rfl
  | datesBetween start finish inclusiveStart inclusiveEnd =>
    rw [Validator.eq_of_isDateBetween_times h]
    exact .check _ rfl rfl nofun rfl
  | length bounds =>
    obtain rfl := Except.ok.inj h
    exact .measure _ _ _ rfl rfl rfl (messageOr_text message _)
  | empty =>
    obtain rfl := Except.ok.inj h
    refine .measure _ _ _ rfl rfl rfl ?_
    rw [messageOr_text]
    refine (messageOr_text (some (described message "empty")) _).trans ?_
    rw [described, Option.filter_some, if_pos]
    · rfl
    · exact decide_eq_true (described_ne_empty message (by decide))
  | numberText =>
    obtain rfl := Except.ok.inj h
    exact .choice rfl

/-! ## Denials -/

/-- Where a leaf stands plays no role. -/
theorem MadeOf.evaluate_eq (h : l.MadeOf message v) (site : Site) (x : Value) :
    v.evaluate site x = v.evaluate .plain x := by
  cases h with
  | check p =>
    rw [Validator.evaluate_ofPredicate, Validator.evaluate_ofPredicate]
  | measure bounds given =>
    rw [Validator.length, Validator.evaluate_of_unset rfl, Validator.evaluate_of_unset rfl,
      Validator.body_sized, Validator.body_sized]
  | choice =>
    rw [Validator.isNumberString, Validator.evaluate_anyOf, Validator.evaluate_anyOf]

/-- The denial of an expectation with a text and a code keeps the code. -/
theorem denial_text (x : Value) (text : String) (code : Code) (data : Option Details) :
    Check.denial x { message := .str text, value := x, code := some code.text, data := data } =
      { message := .str ("not " ++ text), value := x, code := some code.text, data := data } := by
  have hcode : firstNonEmpty (some code.text) (some Code.notExpected.text) = some code.text := by
    rw [firstNonEmpty, nonEmpty?, Option.filter_some, if_pos (bne_iff_ne.mpr code.text_ne_empty)]
  rw [Check.denial, hcode]
  rfl

/-- What a check expects of a value: the message that was given, or the one that shows the
arguments, if it can be written. -/
theorem expectation_text {p : Predicate} (hpattern : p ≠ .brokenPattern) (message : Option String)
    (x : Value) :
    p.expectation (message.map .str) x =
      if (message.filter (· ≠ "")).isSome || p.hasMessage then
        .ok { message := .str (described message p.message), value := x, code := some p.code.text,
              data := some (p.details x) }
      else .error .tooManyDigits := by
  unfold Predicate.expectation
  split
  · exact absurd rfl hpattern
  · rw [messageOr_text, replacing?_text]
    cases message.filter (· ≠ "") <;> cases p.hasMessage <;> rfl

/-- What a check denies of a value that it accepts is what it expects. -/
theorem denied_ofPredicate {p : Predicate} (hpattern : p ≠ .brokenPattern)
    (message : Option String) (x : Value) :
    (Validator.ofPredicate p (message.map .str)).toCheck.denied x =
      if (message.filter (· ≠ "")).isSome || p.hasMessage then
        .ok { message := .str ("not " ++ described message p.message), value := x,
              code := some p.code.text, data := some (p.details x) }
      else .error .tooManyDigits := by
  have hdenied : (Validator.ofPredicate p (message.map .str)).toCheck.denied x =
      (p.expectation (message.map .str) x).map (Check.denial x) := rfl
  rw [hdenied, expectation_text hpattern]
  split
  · exact congrArg Except.ok (denial_text x _ p.code _)
  · rfl

/-- What is denied of a value is what the leaf expects, if it can say it. -/
theorem MadeOf.denied_of_usual (h : l.MadeOf message v) {usual : String}
    (husual : l.usual? = some usual) (hsayable : l.canSay message = true) (x : Value) :
    ∃ data, v.toCheck.denied x = .ok
      { message := .str ("not " ++ described message usual), value := x,
        code := some l.code.text, data := data } := by
  cases h with
  | check p husual' hcode hpattern hshown =>
    obtain rfl : p.message = usual := Option.some.inj (husual'.symm.trans husual)
    rw [canSay, ← hshown] at hsayable
    rw [denied_ofPredicate hpattern, if_pos hsayable, hcode]
    exact ⟨_, rfl⟩
  | measure bounds given usual' husual' hcode hshown hgiven =>
    obtain rfl : usual' = usual := Option.some.inj (husual'.symm.trans husual)
    have hdenied : (Validator.length bounds given).toCheck.denied x =
        .ok (Check.denial x
          { message := messageOr given (.str "a value of the required length"), value := x,
            code := some Code.lengthOutOfRange.text }) := rfl
    rw [hdenied, hgiven, hcode]
    exact ⟨none, congrArg Except.ok (denial_text x _ _ none)⟩
  | choice hleaf =>
    rw [hleaf] at husual
    cases husual

/-- What cannot be said is a fault. -/
theorem MadeOf.denied_of_unsayable (h : l.MadeOf message v) {usual : String}
    (husual : l.usual? = some usual) (hsayable : l.canSay message = false) (x : Value) :
    v.toCheck.denied x = .error .tooManyDigits := by
  cases h with
  | check p _ hcode hpattern hshown =>
    rw [canSay, ← hshown] at hsayable
    rw [denied_ofPredicate hpattern, if_neg (Bool.eq_false_iff.mp hsayable)]
  | measure bounds given _ _ hcode hshown hgiven =>
    rw [canSay, hshown, List.all_nil, Bool.or_true] at hsayable
    cases hsayable
  | choice hleaf =>
    rw [hleaf] at husual
    cases husual

/-- Of a leaf that does not say what it expects it is denied that it passed. -/
theorem MadeOf.denied_of_silent (h : l.MadeOf message v) (husual : l.usual? = none) (x : Value) :
    v.toCheck.denied x = .ok
      { message := .str "not passed", value := x, code := some Code.notExpected.text } := by
  cases h with
  | check _ husual' | measure _ _ _ husual' => exact nomatch husual.symm.trans husual'
  | choice => exact congrArg Except.ok (denial_text x "passed" .notExpected none)

/-- Waiting leaves the fault of saying what a leaf expects as it is. -/
theorem MadeOf.awaited_of_denied (h : l.MadeOf message v) {x : Value} {fault : Fault}
    (hdenied : v.toCheck.denied x = .error fault) : fault.awaited = fault := by
  cases husual : l.usual? with
  | none =>
    rw [h.denied_of_silent husual] at hdenied
    cases hdenied
  | some usual =>
    cases hsayable : l.canSay message with
    | true =>
      obtain ⟨data, hsaid⟩ := h.denied_of_usual husual hsayable x
      rw [hsaid] at hdenied
      cases hdenied
    | false =>
      rw [h.denied_of_unsayable husual hsayable] at hdenied
      cases hdenied
      rfl

/-! ## Failures -/

theorem eq_of_expectation_eq_ok {p : Predicate} {message : Option Value} {x : Value}
    {e : Expectation} (h : p.expectation message x = .ok e) :
    e = { message := messageOr message (.str p.message), value := x, code := some p.code.text,
          data := some (p.details x) } := by
  unfold Predicate.expectation at h
  split at h
  · cases h
  · split at h
    · cases h
    · exact (Except.ok.inj h).symm

variable {awaiting : Bool} {site : Site} {y : Value} {r : Result}

/-- A single check fails with what it expects. -/
theorem failures_ofPredicate {p : Predicate} {message : Option Value}
    (hr : (((Validator.ofPredicate p message).evaluate site y).carriedOut awaiting).outcome? =
      some (.ok r)) :
    ∀ e ∈ r.expectations, e.code = some p.code.text ∧
      e.message = messageOr message (.str p.message) := by
  rw [Validator.evaluate_ofPredicate, Run.carriedOut_bind] at hr
  obtain ⟨ok, -, hr⟩ := Run.outcome?_bind_eq_ok.mp hr
  cases ok with
  | true =>
    rw [if_pos rfl, Run.carriedOut_done] at hr
    cases hr
    nofun
  | false =>
    rw [if_neg Bool.false_ne_true, Run.carriedOut_bind] at hr
    obtain ⟨e, he, hr⟩ := Run.outcome?_bind_eq_ok.mp hr
    rw [Run.outcome?_carriedOut_ofExcept_eq_ok] at he
    rw [Run.carriedOut_done] at hr
    cases hr
    refine List.forall_mem_singleton.mpr ?_
    rw [eq_of_expectation_eq_ok he]
    exact ⟨rfl, rfl⟩

theorem failures_length {bounds : List Validator} {given : Option Value}
    (hsize : y.size?.isSome = true)
    (hr : (((Validator.length bounds given).evaluate site y).carriedOut awaiting).outcome? =
      some (.ok r)) :
    ∀ e ∈ r.expectations, e.code = some Code.lengthOutOfRange.text := by
  obtain ⟨size, hsize⟩ := Option.isSome_iff_exists.mp hsize
  rw [Validator.length, Validator.evaluate_of_unset rfl, Validator.body_sized, Check.sized,
    hsize] at hr
  dsimp only at hr
  rw [Run.bind_eq, Run.carriedOut_bind] at hr
  obtain ⟨r', -, hr⟩ := Run.outcome?_bind_eq_ok.mp hr
  rw [Run.carriedOut_done] at hr
  cases hr
  exact List.forall_mem_map.mpr fun e _ => rfl

theorem codes_override {message : Option Value} {code : Option String} {r : Result}
    (h : ∀ e ∈ r.expectations, e.code = code) :
    ∀ e ∈ (r.override message).expectations, e.code = code := by
  unfold Result.override
  split
  · next first rest _ hr =>
    rw [hr] at h
    exact List.forall_mem_singleton.mpr (h first List.mem_cons_self)
  · exact h

/-- A choice of some checks fails with their code, if they all have the same. -/
theorem failures_choosing {message : Option Value} {code : String} {vs : List Validator}
    (hvs : ∀ v ∈ vs, ∀ r, ((v.evaluate .plain y).carriedOut awaiting).outcome? = some (.ok r) →
      ∀ e ∈ r.expectations, e.code = some code)
    {es : List Expectation} (hes : ∀ e ∈ es, e.code = some code) (hsome : es ≠ [] ∨ vs ≠ [])
    (hr : (((Check.choosing message y).start (vs.map Validator.toCheck) es).carriedOut
      awaiting).outcome? = some (.ok r)) :
    ∀ e ∈ r.expectations, e.code = some code := by
  induction vs generalizing es with
  | nil =>
    rw [List.map_nil, Walk.start_nil, Run.carriedOut_done] at hr
    cases hr
    cases es with
    | nil => exact absurd rfl (hsome.resolve_right fun h => h rfl)
    | cons e es => exact codes_override hes
  | cons v vs ih =>
    obtain ⟨hv, hvs⟩ := List.forall_mem_cons.mp hvs
    rw [List.map_cons, Check.choosing_cons, Validator.toCheck_run, Run.carriedOut_bind] at hr
    obtain ⟨r', hr', hr⟩ := Run.outcome?_bind_eq_ok.mp hr
    cases hvalid : r'.isValid with
    | true =>
      rw [hvalid, if_pos rfl, Run.carriedOut_done] at hr
      cases hr
      exact hv _ hr'
    | false =>
      rw [hvalid, if_neg Bool.false_ne_true] at hr
      refine ih hvs (List.forall_mem_append.mpr ⟨hes, hv _ hr'⟩) (.inl ?_) hr
      intro hnone
      rw [Result.isValid_iff.mpr (List.append_eq_nil_iff.mp hnone).2] at hvalid
      cases hvalid

/-- The failures of a leaf have its code; those of an unsized value at a length have another one. -/
theorem MadeOf.failures (h : l.MadeOf message v)
    (hsize : l.code = .lengthOutOfRange → y.size?.isSome = true)
    (hr : ((v.evaluate site y).carriedOut awaiting).outcome? = some (.ok r)) :
    ∀ e ∈ r.expectations, e.code = some l.code.text := by
  cases h with
  | check p _ hcode =>
    rw [hcode]
    exact fun e he => (failures_ofPredicate hr e he).1
  | measure _ _ _ _ hcode =>
    rw [hcode]
    exact failures_length (hsize hcode) hr
  | choice hleaf =>
    rw [hleaf]
    rw [Validator.isNumberString, Validator.evaluate_anyOf] at hr
    have hformats : ∀ v ∈ [Validator.hasFormat .int none, Validator.hasFormat .float none], ∀ r,
        ((v.evaluate .plain y).carriedOut awaiting).outcome? = some (.ok r) →
        ∀ e ∈ r.expectations, e.code = some Code.formatInvalid.text := by
      refine List.forall_mem_cons.mpr ⟨fun r hr e he => ?_, List.forall_mem_singleton.mpr
        fun r hr e he => ?_⟩
      · exact (failures_ofPredicate hr e he).1
      · exact (failures_ofPredicate hr e he).1
    exact failures_choosing hformats (List.forall_mem_nil _) (.inr nofun) hr

/-- The failures of a single check say what is denied where it accepts. -/
theorem MadeOf.failure_messages (h : l.MadeOf message v) {usual : String}
    (husual : l.usual? = some usual) (hcode : l.code ≠ .lengthOutOfRange)
    (hr : ((v.evaluate site y).carriedOut awaiting).outcome? = some (.ok r)) :
    ∀ e ∈ r.expectations, e.message = .str (described message usual) := by
  cases h with
  | check p husual' =>
    obtain rfl : p.message = usual := Option.some.inj (husual'.symm.trans husual)
    intro e he
    rw [(failures_ofPredicate hr e he).2, messageOr_text]
  | measure _ _ _ _ hcode' => exact absurd hcode' hcode
  | choice hleaf =>
    rw [hleaf] at husual
    cases husual

end

/-! ## The negations of a leaf -/

/-- The run ends with one thing said of the value. -/
def Says (run : Run Result) (x : Value) (text : String) (code : Code) : Prop :=
  ∃ r e, run.outcome? = some (.ok r) ∧ r.value = x ∧ r.expectations = [e] ∧
    e.message = .str text ∧ e.value = x ∧ e.code = some code.text

/-- Where a leaf accepts, its negations say that what it expects was not expected, with the code of
its failures, or end in the fault of showing an argument with too many digits. Of the leaf that does
not say what it expects they say that it passed. -/
theorem negations_say_the_opposite [Environment] {l : Leaf} {message : Option String}
    {v : Validator} (hmade : l.make message = .ok v) (awaiting present : Bool) :
    (∀ x, (v.validated awaiting x present).verdict? = some true → ∀ w ∈ v.negations,
      (∀ usual, l.usual? = some usual →
        (l.canSay message = true → l.code ≠ .notExpected ∧
          Says (w.validated awaiting x present) x ("not " ++ described message usual) l.code) ∧
        (l.canSay message = false →
          (w.validated awaiting x present).outcome? = some (.error .tooManyDigits))) ∧
      (l.usual? = none → Says (w.validated awaiting x present) x "not passed" .notExpected)) ∧
    ∀ y r, (v.validated awaiting y present).outcome? = some (.ok r) →
      (l.code = .lengthOutOfRange → y.size?.isSome = true) → ∀ e ∈ r.expectations,
        e.code = some l.code.text ∧ (l.code ≠ .lengthOutOfRange → ∀ usual, l.usual? = some usual →
          e.message = .str (described message usual)) := by
  have hmadeOf := madeOf_of_make hmade
  refine ⟨fun x haccepts w hw => ?_, fun y r hr hsize e he => ?_⟩
  · rw [Validator.verdict?_validated_iff, hmadeOf.evaluate_eq] at haccepts
    obtain ⟨given, hrun⟩ := Validator.outcome?_negations haccepts
      (fun _ hdenied => hmadeOf.awaited_of_denied hdenied) w hw
    refine ⟨fun usual husual => ⟨fun hsayable => ?_, fun hsayable => ?_⟩, fun husual => ?_⟩
    · obtain ⟨data, hdenied⟩ := hmadeOf.denied_of_usual husual hsayable x
      rw [hdenied] at hrun
      exact ⟨l.code_ne_notExpected, _, _, hrun, rfl, rfl, rfl, rfl, rfl⟩
    · rw [hmadeOf.denied_of_unsayable husual hsayable] at hrun
      exact hrun
    · rw [hmadeOf.denied_of_silent husual] at hrun
      exact ⟨_, _, hrun, rfl, rfl, rfl, rfl, rfl⟩
  · rw [Validator.outcome?_validated_iff] at hr
    exact ⟨hmadeOf.failures hsize hr e he, fun hcode usual husual =>
      hmadeOf.failure_messages husual hcode hr e he⟩

/-- What is said of the digits of twelve where no whole number is expected. -/
theorem int_text_denied :
    ∃ v, @make .standard (.format .int) none = .ok v ∧ ∀ w ∈ v.negations,
      Says (w.validated false (.str "12") true) (.str "12") "not a valid formatted int string"
        .formatInvalid := by
  have hmade : @make .standard (.format .int) none = .ok (Validator.hasFormat .int none) := rfl
  have haccepts : ((Validator.hasFormat .int none).validated false (.str "12") true).verdict? =
      some true := by decide +kernel
  refine ⟨_, hmade, fun w hw => ?_⟩
  have hdenials := (@negations_say_the_opposite .standard _ _ _ hmade false true).1 _ haccepts w hw
  exact ((hdenials.1 _ rfl).1 rfl).2

/-- Not every leaf says what it expects. -/
theorem isNumberString_denied_as_passed :
    ¬ ∀ (l : Leaf) (message : Option String) (v : Validator) (x : Value),
      @make .standard l message = .ok v → l.canSay message = true →
      (v.validated false x true).verdict? = some true →
      ∃ text, text ≠ "not passed" ∧ Says ((v.not none).validated false x true) x text l.code := by
  intro hsayable
  have hmade : @make .standard .numberText none = .ok (Validator.isNumberString none) := rfl
  have haccepts : ((Validator.isNumberString none).validated false (.str "12") true).verdict? =
      some true := by decide +kernel
  obtain ⟨text, hother, r, e, hr, -, he, hmessage, -, -⟩ :=
    hsayable .numberText none _ (.str "12") hmade rfl haccepts
  have hmadeOf := @madeOf_of_make _ _ _ .standard hmade
  rw [Validator.verdict?_validated_iff, hmadeOf.evaluate_eq] at haccepts
  obtain ⟨given, hrun⟩ := Validator.outcome?_negations haccepts
    (fun _ hdenied => hmadeOf.awaited_of_denied hdenied) _ List.mem_cons_self
  rw [hmadeOf.denied_of_silent rfl, hr] at hrun
  cases hrun
  obtain rfl := List.singleton_inj.mp he
  exact hother (Value.str.inj hmessage).symm

end Leaf
end Conform

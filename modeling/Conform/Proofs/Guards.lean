import Conform.Structure
import Conform.Validator.Evaluate

/-
  Guards: validators in front of a conjunction. One that accepts a value as it is leaves the value
  to the rest (`threaded_of_accepts`), one that rejects it has the last word
  (`threaded_of_rejects`). The guards of maps and lists ask for the kind of the value, and where
  each place in a list has its own validator, for the length of the list.
-/

namespace Conform

/-- The check answers every value, and what it expects can be written. -/
structure Predicate.IsTotal (p : Predicate) : Prop where
  accepts : ∀ x, ∃ ok, p.accepts x = .ok ok
  hasMessage : p.hasMessage = true
  ne_brokenPattern : p ≠ .brokenPattern

/-- The result as a conjunction gives it out whose last member ends with it: if it is valid, with
the value that came in. -/
def Result.behind (given : Value) (r : Result) : Result :=
  if r.isValid then .success r.value given else r

namespace Result

@[simp] theorem isValid_behind (given : Value) (r : Result) :
    (r.behind given).isValid = r.isValid := by
  unfold behind
  split
  · next h => rw [isValid_success, h]
  · rfl

@[simp] theorem value_behind (given : Value) (r : Result) : (r.behind given).value = r.value := by
  unfold behind
  split <;> rfl

@[simp] theorem expectations_behind (given : Value) (r : Result) :
    (r.behind given).expectations = r.expectations := by
  unfold behind
  split
  · next h => exact (isValid_iff.mp h).symm
  · rfl

@[simp] theorem behind_behind (given : Value) (r : Result) :
    (r.behind given).behind given = r.behind given := by
  cases h : r.isValid with
  | true => simp [behind, h, success]
  | false => simp [behind, h]

end Result

namespace Run

/-- What a run finds wrong. -/
def found (run : Run Result) : Run (List Expectation) := run.bind fun r => .done r.expectations

/-- The run gives no valid result, so nothing comes after it. -/
def Rejects (run : Run Result) : Prop :=
  ∀ next : Result → Run Result, (run.bind fun r => if r.isValid then next r else .done r) = run

@[simp] theorem found_done (r : Result) : (Run.done r).found = .done r.expectations := rfl

theorem found_bind {α : Type} (run : Run α) (next : α → Run Result) :
    (run.bind next).found = run.bind fun a => (next a).found := bind_assoc _ _ _

theorem rejects_refusal (x : Value) (e : Expectation) (given : Value) :
    (Run.done (.refusal x e given)).Rejects := fun _ => rfl

/-- A run rejects if it ends in rejections however it starts. -/
theorem rejects_bind {α : Type} {run : Run α} {next : α → Run Result}
    (h : ∀ a, (next a).Rejects) : (run.bind next).Rejects := by
  intro after
  rw [bind_assoc]
  congr 1
  exact funext fun a => h a after

end Run

namespace Validator

/-- After a guard that accepts the value as it is, the rest of the checks. -/
theorem threaded_of_accepts {guard : Validator} {x : Value} (given : Value) (cs : List Check)
    (h : guard.evaluate .plain x = .done (.success x)) :
    Check.threaded none given (guard.toCheck :: cs) x = Check.threaded none given cs x := by
  rw [Check.threaded_cons, toCheck_run, h]
  rfl

/-- A guard that rejects the value is all that is looked at. -/
theorem threaded_of_rejects {guard : Validator} {x : Value} (given : Value) (cs : List Check)
    (h : (guard.evaluate .plain x).Rejects) :
    Check.threaded none given (guard.toCheck :: cs) x = guard.evaluate .plain x := by
  rw [Check.threaded_cons]
  exact h _

/-- The last check decides what is found wrong. -/
theorem found_threaded_single (c : Check) (given x : Value) :
    (Check.threaded none given [c] x).found = (c.run .plain x).found := by
  rw [Check.threaded_cons, Run.found_bind, Run.found]
  congr 1
  funext r
  cases h : r.isValid with
  | true => simp [Check.threaded_nil, Result.success, Result.isValid_iff.mp h]
  | false => simp [Result.override, replacing?]

/-- Checks after others go on with what those make of the value. -/
theorem threaded_append (given given' : Value) (before after : List Check) (x : Value) :
    Check.threaded none given (before ++ after) x =
      (Check.threaded none given' before x).bind fun r =>
        if r.isValid then Check.threaded none given after r.value else .done r := by
  induction before generalizing x with
  | nil => rfl
  | cons c before ih =>
    rw [List.cons_append, Check.threaded_cons, Check.threaded_cons, Run.bind_assoc]
    congr 1
    funext r
    cases h : r.isValid with
    | true => exact ih r.value
    | false =>
      have hinvalid : (r.override none).isValid = false := (Result.isValid_override none r).trans h
      change Run.done (r.override none) = if (r.override none).isValid then
        Check.threaded none given after (r.override none).value else .done (r.override none)
      rw [hinvalid]
      rfl

/-- A validator and the conjuncts that it is taken apart into have the same run. -/
theorem threaded_conjuncts (v : Validator) (given : Value) (cs : List Check) (x : Value) :
    Check.threaded none given (v.conjuncts.map toCheck ++ cs) x =
      Check.threaded none given (v.toCheck :: cs) x := by
  unfold conjuncts
  split
  · next vs =>
    rw [threaded_append given x, Check.threaded_cons, toCheck_run, evaluate, flags,
      Flags.guard_unset, body_conjunction_threading]
    rfl
  · rfl

/-- The operator for "and" is a conjunction of two, whatever is taken apart for it. -/
theorem body_and (v w : Validator) (site : Site) (x : Value) :
    (v.and w).body site x = Check.threaded none x [v.toCheck, w.toCheck] x := by
  have hlast : ∀ y, Check.threaded none x (w.conjuncts.map toCheck) y =
      Check.threaded none x [w.toCheck] y := by
    intro y
    have h := threaded_conjuncts w x [] y
    rwa [List.append_nil] at h
  rw [and, allOf, body_conjunction_threading, List.map_append, threaded_conjuncts,
    Check.threaded_cons, Check.threaded_cons]
  simp only [hlast]

/-- The last check has the last word. -/
theorem threaded_single (given : Value) (c : Check) (x : Value) :
    Check.threaded none given [c] x = (c.run .plain x).bind fun r => .done (r.behind given) := by
  rw [Check.threaded_cons]
  congr 1
  funext r
  rw [Result.behind, Result.override_of_none rfl]
  cases r.isValid <;> rfl

/-- Behind a guard that accepts the value as it is. -/
theorem evaluate_and_of_accepts {guard : Validator} {x : Value}
    (h : guard.evaluate .plain x = .done (.success x)) (v : Validator) (site : Site) :
    (guard.and v).evaluate site x =
      (v.evaluate .plain x).bind fun r => .done (r.behind x) := by
  rw [evaluate_of_unset rfl, body_and, threaded_of_accepts x _ h, threaded_single, toCheck_run]

/-- Behind a guard that rejects the value nothing is looked at. -/
theorem evaluate_and_of_rejects {guard : Validator} {x : Value}
    (h : (guard.evaluate .plain x).Rejects) (v : Validator) (site : Site) :
    (guard.and v).evaluate site x = guard.evaluate .plain x := by
  rw [evaluate_of_unset rfl, body_and, threaded_of_rejects x _ h]

/-! ## Predicates -/

theorem evaluate_ofPredicate (p : Predicate) (message : Option Value) (site : Site) (x : Value) :
    (ofPredicate p message).evaluate site x =
      (Run.ofExcept (p.accepts x)).bind fun ok => if ok then .done (.success x)
        else (Run.ofExcept (p.expectation message x)).bind fun e => .done (.refusal x e) :=
  Flags.guard_unset _ site x

theorem evaluate_ofPredicate_of_accepts {p : Predicate} {x : Value} (h : p.accepts x = .ok true)
    (message : Option Value) (site : Site) :
    (ofPredicate p message).evaluate site x = .done (.success x) := by
  rw [evaluate_ofPredicate, h]
  rfl

theorem evaluate_ofPredicate_of_rejects {p : Predicate} {x : Value} (h : p.accepts x = .ok false)
    (message : Option Value) (site : Site) :
    (ofPredicate p message).evaluate site x =
      (Run.ofExcept (p.expectation message x)).bind fun e => .done (.refusal x e) := by
  rw [evaluate_ofPredicate, h]
  rfl

/-- The failures of the validator carry no path. -/
def Pathless (v : Validator) : Prop :=
  ∀ site x r, (v.evaluate site x).outcome? = some (.ok r) → ∀ e ∈ r.expectations, e.path = none

theorem path_expectation {p : Predicate} {message : Option Value} {x : Value} {e : Expectation}
    (h : p.expectation message x = .ok e) : e.path = none := by
  unfold Predicate.expectation at h
  split at h
  · cases h
  · split at h
    · cases h
    · cases h
      rfl

/-- The expectation of a check that shows no values, or only such as can be shown. -/
theorem expectation_of_hasMessage {p : Predicate} (hmessage : p.hasMessage = true)
    (hpattern : p ≠ .brokenPattern) (message : Option Value) (x : Value) :
    p.expectation message x = .ok
      { message := messageOr message (.str p.message), value := x, code := some p.code.text,
        data := some (p.details x) } := by
  unfold Predicate.expectation
  split
  · exact absurd rfl hpattern
  · rw [hmessage, Bool.not_true, Bool.and_false]
    rfl

/-- Small whole numbers can be shown. -/
theorem isShowable_int {n : Nat} (h : n < 10) : (Value.int n).isShowable = true := by
  have hpow : ∀ k, 1 ≤ k → 10 ≤ Nat.pow 10 k := fun k hk =>
    Nat.le_self_pow (Nat.one_le_iff_ne_zero.mp hk) 10
  have hlong : 10 ≤ Text.tooLong := by
    unfold Text.tooLong
    refine hpow _ ?_
    decide
  rw [Value.isShowable, decide_eq_true_iff, Int.natAbs_natCast]
  exact Nat.lt_of_lt_of_le h hlong

theorem isTotal_isType (types : List TypeName) (name : String) (excludeBool : Bool) :
    (Predicate.isType types name excludeBool).IsTotal :=
  ⟨fun _ => ⟨_, rfl⟩, rfl, nofun⟩

theorem isTotal_equal {x : Value} (h : x.isShowable = true) : (Predicate.equal x).IsTotal := by
  refine ⟨fun _ => ⟨_, rfl⟩, ?_, nofun⟩
  rw [Predicate.hasMessage, Predicate.shown, List.all_cons, h]
  rfl

theorem isTotal_related {limit : Value} (h : limit.isShowable = true) (relation : Relation) :
    (Predicate.related relation limit).IsTotal := by
  refine ⟨fun _ => ⟨_, rfl⟩, ?_, nofun⟩
  rw [Predicate.hasMessage, Predicate.shown, List.all_cons, h]
  rfl

theorem isTotal_between {low high : Value} (h : [low, high].all Value.isShowable = true) :
    (Predicate.between low high).IsTotal :=
  ⟨fun _ => ⟨_, rfl⟩, h, nofun⟩

theorem isTotal_matching (source : String) (occursIn : String → Bool) :
    (Predicate.matching (.text source occursIn)).IsTotal := by
  refine ⟨fun x => ?_, rfl, nofun⟩
  cases x <;> exact ⟨_, rfl⟩

theorem isTotal_formatted (format : TextFormat) : (Predicate.formatted format).IsTotal := by
  refine ⟨fun x => ?_, rfl, nofun⟩
  cases x <;> exact ⟨_, rfl⟩

theorem isTotal_safeInt : Predicate.IsTotal .safeInt := ⟨fun _ => ⟨_, rfl⟩, rfl, nofun⟩

theorem isTotal_notNull : Predicate.IsTotal .notNull := ⟨fun _ => ⟨_, rfl⟩, rfl, nofun⟩

theorem isTotal_oneOf {options : List Value} (h : options.all Value.isShowable = true) :
    (Predicate.oneOf options).IsTotal :=
  ⟨fun _ => ⟨_, rfl⟩, h, nofun⟩

theorem isTotal_oneOf_bits : (Predicate.oneOf [.int 0, .int 1]).IsTotal := by
  have hzero := isShowable_int (show 0 < 10 by decide)
  have hone := isShowable_int (show 1 < 10 by decide)
  refine isTotal_oneOf ?_
  simp only [List.all_cons, List.all_nil, Bool.and_eq_true]
  exact ⟨hzero, hone, trivial⟩

/-- A text can be a key, so any value can be asked for it. -/
theorem isTotal_hasKey (key : String) : (Predicate.hasKey (.str key)).IsTotal := by
  refine ⟨fun x => ?_, rfl, nofun⟩
  cases x with
  | map entries => exact ⟨_, rfl⟩
  | _ => exact ⟨false, rfl⟩

theorem isTotal_dated (check : DateCheck) : (Predicate.dated check).IsTotal := by
  refine ⟨fun x => ?_, rfl, nofun⟩
  cases x <;> exact ⟨_, rfl⟩

/-- The validator answers the value at once, and if it accepts it, then as it is. -/
def Settles (v : Validator) (x : Value) : Prop :=
  ∃ r, v.evaluate .plain x = .done r ∧ (r.isValid = true → r = .success x)

theorem settles_ofPredicate {p : Predicate} (h : p.IsTotal) (message : Option Value) (x : Value) :
    (ofPredicate p message).Settles x := by
  obtain ⟨ok, hok⟩ := h.accepts x
  cases ok with
  | true => exact ⟨_, evaluate_ofPredicate_of_accepts hok message .plain, fun _ => rfl⟩
  | false =>
    rw [Settles, evaluate_ofPredicate_of_rejects hok,
      expectation_of_hasMessage h.hasMessage h.ne_brokenPattern]
    exact ⟨_, rfl, nofun⟩

theorem pathless_ofPredicate (p : Predicate) (message : Option Value) :
    (ofPredicate p message).Pathless := by
  intro site x r h e he
  rw [evaluate_ofPredicate] at h
  obtain ⟨ok, -, h⟩ := Run.outcome?_bind_eq_ok.mp h
  cases ok with
  | true =>
    cases h
    cases he
  | false =>
    obtain ⟨e', hexpected, h⟩ := Run.outcome?_bind_eq_ok.mp h
    cases h
    obtain rfl := List.mem_singleton.mp he
    rw [Run.outcome?_ofExcept] at hexpected
    exact path_expectation (Option.some.inj hexpected)

/-! ## Kinds -/

theorem evaluate_isMap (entries : Entries) :
    (isMap none).evaluate .plain (.map entries) = .done (.success (.map entries)) := rfl

theorem evaluate_isList (items : List Value) :
    (isList none).evaluate .plain (.list items) = .done (.success (.list items)) := rfl

theorem rejects_isMap {x : Value} (h : ∀ entries, x ≠ .map entries) :
    ((isMap none).evaluate .plain x).Rejects := by
  cases x with
  | map entries => exact absurd rfl (h entries)
  | _ => exact fun _ => rfl

theorem rejects_isList {x : Value} (h : ∀ items, x ≠ .list items) :
    ((isList none).evaluate .plain x).Rejects := by
  cases x with
  | list items => exact absurd rfl (h items)
  | _ => exact fun _ => rfl

/-- The fields of a map, and the map as it came if nothing is wrong with them. -/
theorem evaluate_mapOf_map (schema : Schema) (message : Option Value) (site : Site)
    (entries : Entries) :
    (mapOf schema message).evaluate site (.map entries) =
      (Check.inspected message .mapFieldFailed (.map entries)
        (schema.map fun entry => Check.fieldPart entries entry.1 entry.2.toCheck)).bind fun r =>
          .done (r.behind (.map entries)) := by
  rw [mapOf, evaluate_and_of_accepts (evaluate_isMap entries), evaluate_of_unset rfl, body_fields,
    Check.schema, List.map_map]
  rfl

theorem evaluate_onlyKeys (declared : List Value) (message : Option Value) (entries : Entries) :
    (onlyKeys declared message).evaluate .plain (.map entries) =
      match undeclared declared entries with
      | [] => .done (.success (.map entries))
      | unknown => (Run.ofExcept (unknownKeysMessage message unknown)).bind fun text =>
        .done (.refusal (.map entries) (unknownKeys text (.map entries) unknown)) :=
  (evaluate_of_unset rfl .plain (.map entries)).trans rfl

/-- The items of a list, and the list as it came if nothing is wrong with them. -/
theorem evaluate_listEach_list (item : Validator) (message : Option Value) (site : Site)
    (items : List Value) :
    (listEach item message).evaluate site (.list items) =
      (Check.inspected message .listItemFailed (.list items)
        (Check.itemParts (fun _ y => item.evaluate .plain y) items)).bind fun r =>
          .done (r.behind (.list items)) := by
  rw [listEach, evaluate_and_of_accepts (evaluate_isList items), evaluate_of_unset rfl,
    body_listItems]
  rfl

/-! ## Lengths -/

/-- The guard for the length of a list. -/
def lengthIs (n : Nat) : Validator := length [isEqual (.int n) none] none

theorem accepts_equal_int (m n : Nat) :
    (Predicate.equal (.int n)).accepts (.int m) = .ok (decide (m = n)) := by
  have hequals : (Value.int m).equals (.int n) = decide (m = n) := by
    simp only [Value.equals, Value.number?, Number.equals, Number.compare?_ofInt]
    rw [Bool.eq_iff_iff, beq_iff_eq, decide_eq_true_iff, Option.some.injEq,
      Std.LawfulEqCmp.compare_eq_iff_eq]
    omega
  rw [Predicate.accepts, hequals]

theorem sized_isEqual (items : List Value) (n : Nat) :
    (lengthIs n).evaluate .plain (.list items) =
      ((isEqual (.int n) none).evaluate .plain (.int items.length)).found.bind fun es =>
        .done ⟨.list items, es.map fun e =>
          { message := .str ("length " ++ e.message.display), value := .list items,
            code := some Code.lengthOutOfRange.text,
            data := some [("length", .int items.length)] }, .null⟩ := by
  have hsized : (lengthIs n).evaluate .plain (.list items) =
      (Check.threaded none (.int items.length) [(isEqual (.int n) none).toCheck]
        (.int items.length)).found.bind fun es =>
        .done ⟨.list items, es.map fun e =>
          { message := .str ("length " ++ e.message.display), value := .list items,
            code := some Code.lengthOutOfRange.text,
            data := some [("length", .int items.length)] }, .null⟩ := by
    rw [Run.found, Run.bind_assoc]
    rfl
  rw [hsized, found_threaded_single, toCheck_run]

theorem evaluate_lengthIs {items : List Value} {n : Nat} (h : items.length = n) :
    (lengthIs n).evaluate .plain (.list items) = .done (.success (.list items)) := by
  have haccepts := accepts_equal_int items.length n
  rw [decide_eq_true h] at haccepts
  rw [sized_isEqual, isEqual, evaluate_ofPredicate_of_accepts haccepts]
  rfl

theorem pathless_length (bounds : List Validator) (message : Option Value) :
    (length bounds message).Pathless := by
  intro site x r h e he
  rw [length, evaluate, flags, Flags.guard_unset, body_sized, Check.sized] at h
  split at h
  · cases h
    obtain rfl := List.mem_singleton.mp he
    rfl
  · obtain ⟨within, -, h⟩ := Run.outcome?_bind_eq_ok.mp h
    cases h
    obtain ⟨e', -, rfl⟩ := List.mem_map.mp he
    rfl

theorem rejects_lengthIs {items : List Value} {n : Nat} (h : items.length ≠ n) :
    ((lengthIs n).evaluate .plain (.list items)).Rejects := by
  have haccepts := accepts_equal_int items.length n
  rw [decide_eq_false h] at haccepts
  rw [sized_isEqual, isEqual, evaluate_ofPredicate_of_rejects haccepts, Run.found_bind,
    Run.bind_assoc]
  exact Run.rejects_bind fun e => Run.rejects_refusal _ _ .null

end Validator
end Conform

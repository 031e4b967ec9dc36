import Conform.Proofs.BuilderRun
import Conform.Proofs.EntryPoints

/-
  Builders for collections with a validator for each item. What is wrong with the items of a list is
  reported in their order, each with its place (`itemReport`, `outcome?_listEach_list`). A builder
  for lists and one for collections of any kind do the same on lists, and both accept a list if the
  validator accepts all items.

  Main result: `each_item_of_lists`. The validator for the items is one for lists in both builders,
  so that a tuple or a set is let in by the builder for collections and then rejected whatever is in
  it (`each_item_misses_tuples`).
-/

namespace Conform

namespace Check

/-- The parts of a value have results, and the whole has the expectations of all of them in
order. -/
theorem outcome?_inspecting_eq_ok (awaiting : Bool) (message : Option Value) (code : Code)
    (x : Value) (parts : List Part) (es : List Expectation) (s : Result) :
    (((inspecting message code x).start parts es).carriedOut awaiting).outcome? = some (.ok s) ↔
      ∃ rs, List.Forall₂ (fun part r => (part.2.carriedOut awaiting).outcome? = some (.ok r))
          parts rs ∧
        s = wholeOf x (es ++ (List.zipWith
          (fun part r => r.expectations.map (outward message code part.1)) parts rs).flatten) := by
  induction parts generalizing es with
  | nil =>
    rw [Walk.start_nil, Run.carriedOut_done, Run.outcome?_done]
    constructor
    · intro hs
      cases hs
      exact ⟨[], .nil, by rw [List.zipWith_nil_left, List.flatten_nil, List.append_nil]; rfl⟩
    · rintro ⟨rs, hrs, rfl⟩
      cases hrs
      rw [List.zipWith_nil_left, List.flatten_nil, List.append_nil]
      rfl
  | cons part parts ih =>
    rw [inspecting_cons, Run.carriedOut_bind, Run.outcome?_bind_eq_ok]
    simp only [ih]
    constructor
    · rintro ⟨r, hr, rs, hrs, rfl⟩
      exact ⟨r :: rs, .cons hr hrs,
        by rw [List.zipWith_cons_cons, List.flatten_cons, List.append_assoc]⟩
    · rintro ⟨_, hrs, rfl⟩
      cases hrs with
      | cons hr hrs =>
        exact ⟨_, hr, _, hrs,
          by rw [List.zipWith_cons_cons, List.flatten_cons, List.append_assoc]⟩

end Check

namespace Validator

variable {awaiting : Bool} {e : Validator} {x : Value}

/-- What is reported of the items of a list: for each in order what is wrong with it, with its
place. -/
def itemReport (rs : List Result) : List Expectation :=
  (rs.mapIdx fun i r =>
    r.expectations.map (Check.outward none .listItemFailed (Check.indexSegment i))).flatten

/-- What is wrong with the parts of a list is what is reported of the items. -/
theorem zipWith_itemParts {runAt : Nat → Value → Run Result} {items : List Value}
    {rs : List Result} (h : items.length = rs.length) :
    (List.zipWith (fun part r => r.expectations.map (Check.outward none .listItemFailed part.1))
      (Check.itemParts runAt items) rs).flatten = itemReport rs := by
  rw [itemReport]
  congr 1
  refine List.ext_getElem ?_ fun i hparts hrs => ?_
  · rw [Check.itemParts, List.length_zipWith, List.length_map, List.length_zipIdx,
      List.length_mapIdx, h, Nat.min_self]
  · simp [Check.itemParts]

theorem outcome?_listEach_list (awaiting : Bool) (e : Validator) (site : Site)
    (items : List Value) (s : Result) :
    (((listEach e none).evaluate site (.list items)).carriedOut awaiting).outcome? =
        some (.ok s) ↔
      ∃ rs, List.Forall₂ (fun y r =>
          ((e.evaluate .plain y).carriedOut awaiting).outcome? = some (.ok r)) items rs ∧
        s = (Check.wholeOf (.list items) (itemReport rs)).behind (.list items) := by
  have hparts : ∀ rs, List.Forall₂ (fun part r =>
        (part.2.carriedOut awaiting).outcome? = some (.ok r))
      (Check.itemParts (fun _ y => e.evaluate .plain y) items) rs ↔
      List.Forall₂ (fun y r =>
        ((e.evaluate .plain y).carriedOut awaiting).outcome? = some (.ok r)) items rs := by
    intro rs
    rw [Check.itemParts, List.forall₂_map_left_iff]
    conv_rhs => rw [← List.zipIdx_map_fst 0 items, List.forall₂_map_left_iff]
  rw [evaluate_listEach_list, Run.carriedOut_bind, Run.outcome?_bind_eq_ok, Check.inspected]
  simp only [Check.outcome?_inspecting_eq_ok, hparts, List.nil_append, Run.carriedOut_done,
    Run.outcome?_done, Option.some.injEq, Except.ok.injEq]
  constructor
  · rintro ⟨_, ⟨rs, hrs, rfl⟩, rfl⟩
    exact ⟨rs, hrs, by rw [zipWith_itemParts hrs.length_eq]⟩
  · rintro ⟨rs, hrs, rfl⟩
    exact ⟨_, ⟨rs, hrs, rfl⟩, by rw [zipWith_itemParts hrs.length_eq]⟩

/-- Behind a guard for lists and more, each item of a list is looked at. -/
def guardedItems (guard e : Validator) : Validator := allOf [guard, listEach e none] none false

theorem evaluate_guardedItems_list {guard : Validator} {items : List Value}
    (h : guard.evaluate .plain (.list items) = .done (.success (.list items)))
    (e : Validator) (site : Site) :
    (guardedItems guard e).evaluate site (.list items) =
      (listEach e none).evaluate .plain (.list items) := by
  rw [guardedItems, allOf, evaluate_of_unset rfl, body_conjunction_threading, List.map_cons,
    threaded_of_accepts (.list items) _ h, List.map_singleton, threaded_single, toCheck_run,
    evaluate_listEach_list, Run.bind_assoc]
  simp only [Run.bind_done, Result.behind_behind]

/-- Any other value is rejected, by the guard or by the validator for the items. -/
theorem verdict?_guardedItems_of_ne_list {guard : Validator} (hguard : guard.Settles x)
    (h : ∀ items, x ≠ .list items) (awaiting : Bool) (e : Validator) (site : Site) :
    (((guardedItems guard e).evaluate site x).carriedOut awaiting).verdict? = some false := by
  obtain ⟨r, hr, hsuccess⟩ := hguard
  rw [guardedItems, allOf, evaluate_of_unset rfl, body_conjunction_threading, List.map_cons]
  cases hvalid : r.isValid with
  | true =>
    obtain rfl := hsuccess hvalid
    rw [threaded_of_accepts x _ hr, List.map_singleton, threaded_single,
      Run.verdict?_carriedOut_bind_done (Result.isValid_behind x), toCheck_run, listEach,
      evaluate_and_of_rejects (rejects_isList h)]
    cases x with
    | list items => exact absurd rfl (h items)
    | _ => exact congrArg Run.verdict? (Run.carriedOut_done awaiting _)
  | false =>
    rw [Check.threaded_cons, toCheck_run, hr, Run.bind_done, hvalid, if_neg Bool.false_ne_true,
      Run.carriedOut_done, Run.verdict?_done, Result.isValid_override, hvalid]

end Validator

namespace Builder

open Validator

theorem buildSteps_each (e : Validator) :
    (buildSteps .iterable none [.constrain (.each e) none]).outcome? =
        some (.ok (guardedItems (isIterable none) e)) ∧
      (buildSteps .list none [.constrain (.each e) none]).outcome? =
        some (.ok (guardedItems (isList none) e)) :=
  ⟨buildSteps_eq_ok_iff.mpr rfl, buildSteps_eq_ok_iff.mpr rfl⟩

/-- Both builders build a validator. The two have the same results on a list, which they accept if
the validator for the items accepts all of them, absent ones too if it is nullable; what they report
is what is wrong with the items, in order and with their places. Both reject every other value. -/
theorem each_item_of_lists (e : Validator) :
    ∃ v w, (buildSteps .iterable none [.constrain (.each e) none]).outcome? = some (.ok v) ∧
      (buildSteps .list none [.constrain (.each e) none]).outcome? = some (.ok w) ∧
      ∀ awaiting present,
        (∀ items s, (v.validated awaiting (.list items) present).outcome? = some (.ok s) ↔
          (w.validated awaiting (.list items) present).outcome? = some (.ok s)) ∧
        (∀ items, (v.validated awaiting (.list items) present).verdict? = some true ↔
          ∀ y ∈ items, (e.validated awaiting y true).verdict? = some true) ∧
        (e.isNullable = true → (e.validated awaiting .null true).verdict? = some true) ∧
        (∀ items s, (v.validated awaiting (.list items) present).outcome? = some (.ok s) ↔
          ∃ rs, List.Forall₂ (fun y r => (e.validated awaiting y true).outcome? = some (.ok r))
              items rs ∧
            s = (Check.wholeOf (.list items) (itemReport rs)).behind (.list items)) ∧
        ∀ x, (∀ items, x ≠ .list items) →
          (v.validated awaiting x present).verdict? = some false ∧
            (w.validated awaiting x present).verdict? = some false := by
  refine ⟨_, _, (buildSteps_each e).1, (buildSteps_each e).2, fun awaiting present => ?_⟩
  have hiterable : ∀ items site, (guardedItems (isIterable none) e).evaluate site (.list items) =
      (listEach e none).evaluate .plain (.list items) :=
    fun items => evaluate_guardedItems_list rfl e
  have hlist : ∀ items site, (guardedItems (isList none) e).evaluate site (.list items) =
      (listEach e none).evaluate .plain (.list items) :=
    fun items => evaluate_guardedItems_list (evaluate_isList items) e
  refine ⟨fun items s => ?_, fun items => ?_, fun hnullable => ?_, fun items s => ?_,
    fun x hx => ⟨?_, ?_⟩⟩
  · rw [outcome?_validated_iff, outcome?_validated_iff, hiterable, hlist]
  · rw [verdict?_validated_iff, hiterable, verdict?_listEach_eq_true]
    simp only [verdict?_validated_iff]
    rfl
  · rw [verdict?_validated_iff, evaluate, Flags.guard, if_pos, Run.carriedOut_done]
    · rfl
    · exact (Bool.or_false _).trans hnullable
  · rw [outcome?_validated_iff, hiterable, outcome?_listEach_list]
    simp only [outcome?_validated_iff]
    rfl
  · rw [verdict?_validated_iff]
    exact verdict?_guardedItems_of_ne_list
      (settles_ofPredicate (isTotal_isType _ _ _) none x) hx awaiting e _
  · rw [verdict?_validated_iff]
    exact verdict?_guardedItems_of_ne_list
      (settles_ofPredicate (isTotal_isType _ _ _) none x) hx awaiting e _

/-- A nullable text for each item: an absent item passes, a number is reported with its place. -/
theorem each_item_of_nullable_texts :
    ∃ v, (buildSteps .iterable none [.constrain (.each (isString none).nullable) none]).outcome? =
        some (.ok v) ∧
      (v.validate (.list [.str "a", .null, .int 1]) true).outcome? =
        some (.ok (.refusal (.list [.str "a", .null, .int 1])
          { message := .str "str", value := .int 1, path := some "[2]",
            code := some "type.mismatch",
            data := some [("expected", .str "str"), ("found", .str "int")] })) ∧
      (∀ items, Value.set [.str "a"] ≠ .list items) ∧
      (v.validate (.set [.str "a"]) true).verdict? = some false := by
  obtain ⟨v, w, hv, -, heach⟩ := each_item_of_lists (isString none).nullable
  obtain ⟨-, -, -, hreport, hothers⟩ := heach false true
  refine ⟨v, hv, (hreport _ _).mpr ⟨[.success (.str "a"), .success .null,
    .refusal (.int 1) _], .cons rfl (.cons rfl (.cons rfl .nil)), ?_⟩, nofun,
    (hothers (.set [.str "a"]) nofun).1⟩
  rfl

/-- A builder for collections lets a tuple in, and rejects it for its items although each of them
is accepted. -/
theorem each_item_misses_tuples :
    ((isIterable none).validate (.tuple [.int 1]) true).verdict? = some true ∧
      (valid.validate (.int 1) true).verdict? = some true ∧
      ∃ v, (buildSteps .iterable none [.constrain (.each valid) none]).outcome? = some (.ok v) ∧
        (v.validate (.tuple [.int 1]) true).verdict? = some false :=
  ⟨rfl, rfl, _, (buildSteps_each valid).1, rfl⟩

end Builder
end Conform

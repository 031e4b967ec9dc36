import Conform.Proofs.Guards
import Conform.Proofs.SameRuns

/-
  The operators for "and" and "or", which take a plain group of their kind apart instead of
  nesting it. A conjunction threads the value through nested conjunctions as it does through the
  members of these, and a choice tries the members of nested choices as it tries its own. So a
  bracketing of operands matches the one group of all of them (`combined_matches_group`), whichever
  operands are groups themselves.
  Two differences are left. A choice without members says so where it stands, and is lost when it
  is taken apart: its expectation (`Check.noneMatched`) may be missing then, and nothing else is.
  And the label of a group counts its members, so a synchronous validation that would have to wait
  is refused under another name (`validate_names_flattened_group`).
-/

namespace Conform

/-! ## Expectations that do not count -/

/-- Whether a result is valid, and the result without the expectations that do not count. -/
def Result.apartFrom (ignored : Expectation → Bool) (r : Result) : Bool × Result :=
  (r.isValid, { r with expectations := r.expectations.filter fun e => !ignored e })

/-- Results with expectations that only differ in some that do not count. -/
theorem Result.apartFrom_eq {ignored : Expectation → Bool} {x given : Value}
    {es es' : List Expectation} (hempty : es.isEmpty = es'.isEmpty)
    (h : (es.filter fun e => !ignored e) = es'.filter fun e => !ignored e) :
    Result.apartFrom ignored ⟨x, es, given⟩ = Result.apartFrom ignored ⟨x, es', given⟩ := by
  simp only [apartFrom, isValid, hempty, h]

namespace Check

/-! ## Choices -/

/-- What a choice finds wrong when no check has accepted. -/
def unmatched (x : Value) (es : List Expectation) : List Expectation :=
  if es.isEmpty then [noneMatched x] else es

theorem choosing_nil (x : Value) (es : List Expectation) :
    (choosing none x).start [] es = .done ⟨x, unmatched x es, x⟩ := rfl

theorem unmatched_of_ne_nil {es : List Expectation} (h : es ≠ []) (x : Value) :
    unmatched x es = es := by
  have hempty : es.isEmpty = false := by simpa using h
  rw [unmatched, hempty, if_neg Bool.false_ne_true]

theorem isEmpty_unmatched (x : Value) (es : List Expectation) :
    (unmatched x es).isEmpty = false := by
  cases es <;> rfl

/-- Apart from the expectation of a choice that has nothing else to say, nothing is added. -/
theorem filter_unmatched {ignored : Expectation → Bool} {x : Value}
    (hignored : ignored (noneMatched x) = true) (es : List Expectation) :
    ((unmatched x es).filter fun e => !ignored e) = es.filter fun e => !ignored e := by
  cases es with
  | nil => simp [unmatched, hignored]
  | cons => rfl

/-- Checks behind those of an inner choice go on where it has not accepted. An inner choice with
something to say adds what it says. -/
theorem choosing_append (x : Value) (inner after : List Check) (es found : List Expectation)
    (h : inner ≠ [] ∨ found ≠ []) :
    (choosing none x).start (inner ++ after) (es ++ found) =
      ((choosing none x).start inner found).bind fun r =>
        if r.isValid then .done r else (choosing none x).start after (es ++ r.expectations) := by
  induction inner generalizing found with
  | nil =>
    have hfound : found ≠ [] := h.resolve_left fun hnil => hnil rfl
    rw [choosing_nil, unmatched_of_ne_nil hfound]
    have hinvalid : (⟨x, found, x⟩ : Result).isValid = false := by
      simpa [Result.isValid] using hfound
    rw [Run.bind_done, hinvalid]
    rfl
  | cons c inner ih =>
    rw [List.cons_append, choosing_cons, choosing_cons, Run.bind_assoc]
    congr 1
    funext r
    cases hvalid : r.isValid with
    | true =>
      rw [if_pos rfl, if_pos rfl, Run.bind_done, if_pos hvalid]
    | false =>
      have hsome : found ++ r.expectations ≠ [] := by
        intro hnil
        have hnone := (List.append_eq_nil_iff.mp hnil).2
        rw [Result.isValid_iff.mpr hnone] at hvalid
        cases hvalid
      rw [if_neg Bool.false_ne_true, if_neg Bool.false_ne_true, List.append_assoc]
      exact ih _ (.inr hsome)

end Check

namespace Validator

/-! ## Operands that are groups themselves -/

/-- A conjunction of validators is the conjunction of what they are taken apart into. -/
theorem threaded_flatMap_conjuncts (vs : List Validator) (given x : Value) :
    Check.threaded none given ((vs.flatMap conjuncts).map toCheck) x =
      Check.threaded none given (vs.map toCheck) x := by
  induction vs generalizing x with
  | nil => rfl
  | cons v vs ih =>
    rw [List.flatMap_cons, List.map_append, threaded_conjuncts, List.map_cons,
      Check.threaded_cons, Check.threaded_cons]
    congr 1
    funext r
    rw [ih]

/-- Only a choice without members is taken apart into nothing. -/
theorem disjuncts_eq_nil_iff (v : Validator) : v.disjuncts = [] ↔ v = anyOf [] none := by
  constructor
  · intro h
    unfold disjuncts at h
    split at h
    · rw [h]
      rfl
    · cases h
  · rintro rfl
    rfl

/-- A choice goes through what an operand is taken apart into as it does through the operand. -/
theorem choosing_disjuncts {v : Validator} (h : v.disjuncts ≠ []) (cs : List Check) (x : Value)
    (es : List Expectation) :
    (Check.choosing none x).start (v.disjuncts.map toCheck ++ cs) es =
      (Check.choosing none x).start (v.toCheck :: cs) es := by
  unfold disjuncts at h ⊢
  split
  · next vs =>
    have hmembers : vs.map toCheck ≠ [] := fun hnil => h (List.map_eq_nil_iff.mp hnil)
    have hrun : (Validator.disjunction vs none {}).evaluate .plain x =
        (Check.choosing none x).start (vs.map toCheck) [] := evaluate_anyOf vs none .plain x
    have happend := Check.choosing_append x (vs.map toCheck) cs es [] (.inl hmembers)
    rw [List.append_nil] at happend
    rw [happend, Check.choosing_cons, toCheck_run, ← hrun]
  · rfl

/-- A choice of validators none of which is an empty choice is the choice of what they are taken
apart into. -/
theorem choosing_flatMap_disjuncts {vs : List Validator} (h : anyOf [] none ∉ vs) (x : Value)
    (es : List Expectation) :
    (Check.choosing none x).start ((vs.flatMap disjuncts).map toCheck) es =
      (Check.choosing none x).start (vs.map toCheck) es := by
  induction vs generalizing es with
  | nil => rfl
  | cons v vs ih =>
    obtain ⟨hv, hvs⟩ := not_or.mp (mt List.mem_cons.mpr h)
    have hdisjuncts : v.disjuncts ≠ [] := fun hnil => hv ((disjuncts_eq_nil_iff v).mp hnil).symm
    rw [List.flatMap_cons, List.map_append, choosing_disjuncts hdisjuncts, List.map_cons,
      Check.choosing_cons, Check.choosing_cons]
    congr 1
    funext r
    rw [ih hvs]

/-- The same with empty choices among the validators, apart from what these have to say. -/
theorem choosing_flatMap_disjuncts_apartFrom {ignored : Expectation → Bool} {x : Value}
    (hignored : ignored (Check.noneMatched x) = true) (vs : List Validator)
    {es es' : List Expectation}
    (hes : (es.filter fun e => !ignored e) = es'.filter fun e => !ignored e) :
    ((Check.choosing none x).start ((vs.flatMap disjuncts).map toCheck) es).seen
        (Result.apartFrom ignored) =
      ((Check.choosing none x).start (vs.map toCheck) es').seen (Result.apartFrom ignored) := by
  induction vs generalizing es es' with
  | nil =>
    change Run.done (Result.apartFrom ignored ⟨x, Check.unmatched x es, x⟩) =
      Run.done (Result.apartFrom ignored ⟨x, Check.unmatched x es', x⟩)
    rw [Result.apartFrom_eq]
    · rw [Check.isEmpty_unmatched, Check.isEmpty_unmatched]
    · rw [Check.filter_unmatched hignored, Check.filter_unmatched hignored, hes]
  | cons v vs ih =>
    rw [List.flatMap_cons, List.map_append, List.map_cons]
    by_cases hnil : v.disjuncts = []
    · -- An empty choice is left out on the one side, and on the other it refuses and says so.
      obtain rfl := (disjuncts_eq_nil_iff v).mp hnil
      have hrefuses : (anyOf [] none).evaluate .plain x =
          .done ⟨x, [Check.noneMatched x], x⟩ := evaluate_anyOf [] none .plain x
      rw [hnil, List.map_nil, List.nil_append, Check.choosing_cons, toCheck_run, hrefuses]
      refine ih ?_
      rw [List.filter_append, List.filter_cons_of_neg (by simp [hignored]), List.filter_nil,
        List.append_nil, hes]
    · rw [choosing_disjuncts hnil, Check.choosing_cons, Check.choosing_cons, Run.seen_bind,
        Run.seen_bind]
      congr 1
      funext r
      cases r.isValid with
      | true => rfl
      | false =>
        refine ih ?_
        rw [List.filter_append, List.filter_append, hes]

end Validator

/-! ## Bracketings -/

/-- Operands with an operator between them, and brackets around some. -/
inductive Bracketing where
  | operand (v : Validator)
  | pair (left right : Bracketing)

namespace Bracketing

def operands : Bracketing → List Validator
  | .operand v => [v]
  | .pair left right => left.operands ++ right.operands

/-- The validator that an operator makes of the operands. -/
def combined (operator : Validator → Validator → Validator) : Bracketing → Validator
  | .operand v => v
  | .pair left right => operator (left.combined operator) (right.combined operator)

/-- The bracketing with other operands. -/
def map (f : Validator → Validator) : Bracketing → Bracketing
  | .operand v => .operand (f v)
  | .pair left right => .pair (left.map f) (right.map f)

example (v w : Validator) :
    ((operand v).pair (.operand w)).combined .and = v.and w ∧
      ((operand v).pair (.operand w)).operands = [v, w] := ⟨rfl, rfl⟩

theorem operands_map (f : Validator → Validator) (t : Bracketing) :
    (t.map f).operands = t.operands.map f := by
  induction t with
  | operand v => rfl
  | pair left right hleft hright => rw [map, operands, operands, List.map_append, hleft, hright]

open Validator

theorem conjuncts_combined (t : Bracketing) :
    (t.combined .and).conjuncts = t.operands.flatMap conjuncts := by
  induction t with
  | operand v => simp [combined, operands]
  | pair left right hleft hright =>
    change (left.combined .and).conjuncts ++ (right.combined .and).conjuncts = _
    rw [hleft, hright, operands, List.flatMap_append]

theorem disjuncts_combined (t : Bracketing) :
    (t.combined .or).disjuncts = t.operands.flatMap disjuncts := by
  induction t with
  | operand v => simp [combined, operands]
  | pair left right hleft hright =>
    change (left.combined .or).disjuncts ++ (right.combined .or).disjuncts = _
    rw [hleft, hright, operands, List.flatMap_append]

/-- An operator makes one group of what the operands are taken apart into. -/
theorem combined_and_pair (l r : Bracketing) :
    (l.pair r).combined .and = allOf ((l.pair r).operands.flatMap conjuncts) none false := by
  rw [← conjuncts_combined]
  rfl

theorem combined_or_pair (l r : Bracketing) :
    (l.pair r).combined .or = anyOf ((l.pair r).operands.flatMap disjuncts) none := by
  rw [← disjuncts_combined]
  rfl

theorem evaluate_combined_and (l r : Bracketing) (site : Site) (x : Value) :
    ((l.pair r).combined .and).evaluate site x =
      (allOf (l.pair r).operands none false).evaluate site x := by
  rw [combined_and_pair, evaluate_allOf, evaluate_allOf, threaded_flatMap_conjuncts]

theorem evaluate_combined_or {l r : Bracketing} (h : anyOf [] none ∉ (l.pair r).operands)
    (site : Site) (x : Value) :
    ((l.pair r).combined .or).evaluate site x =
      (anyOf (l.pair r).operands none).evaluate site x := by
  rw [combined_or_pair, evaluate_anyOf, evaluate_anyOf, choosing_flatMap_disjuncts h]

theorem evaluate_combined_or_apartFrom {ignored : Expectation → Bool} {x : Value}
    (hignored : ignored (Check.noneMatched x) = true) (l r : Bracketing) (site : Site) :
    (((l.pair r).combined .or).evaluate site x).seen (Result.apartFrom ignored) =
      ((anyOf (l.pair r).operands none).evaluate site x).seen (Result.apartFrom ignored) := by
  rw [combined_or_pair, evaluate_anyOf, evaluate_anyOf]
  exact choosing_flatMap_disjuncts_apartFrom hignored _ rfl

/-! ## Operands whose leaves note their calls -/

section Leaves

variable {f : String → (Value → Run Result) → Value → Run Result}

theorem conjuncts_mapLeaves (v : Validator) :
    (v.mapLeaves f).conjuncts = v.conjuncts.map (mapLeaves f) := by
  cases v with
  | conjunction vs message collecting flags =>
    obtain ⟨nullable, optional⟩ := flags
    rw [mapLeaves, mapLeavesAll_eq_map]
    cases message <;> cases collecting <;> cases nullable <;> cases optional <;>
      simp [conjuncts, mapLeaves, mapLeavesAll_eq_map]
  | _ => simp [conjuncts, mapLeaves]

theorem disjuncts_mapLeaves (v : Validator) :
    (v.mapLeaves f).disjuncts = v.disjuncts.map (mapLeaves f) := by
  cases v with
  | disjunction vs message flags =>
    obtain ⟨nullable, optional⟩ := flags
    rw [mapLeaves, mapLeavesAll_eq_map]
    cases message <;> cases nullable <;> cases optional <;>
      simp [disjuncts, mapLeaves, mapLeavesAll_eq_map]
  | _ => simp [disjuncts, mapLeaves]

theorem mapLeaves_and (v w : Validator) :
    (v.and w).mapLeaves f = (v.mapLeaves f).and (w.mapLeaves f) := by
  rw [Validator.and, mapLeaves_allOf, List.map_append, ← conjuncts_mapLeaves,
    ← conjuncts_mapLeaves]
  rfl

theorem mapLeaves_or (v w : Validator) :
    (v.or w).mapLeaves f = (v.mapLeaves f).or (w.mapLeaves f) := by
  rw [Validator.or, mapLeaves_anyOf, List.map_append, ← disjuncts_mapLeaves,
    ← disjuncts_mapLeaves]
  rfl

theorem mapLeaves_combined {operator : Validator → Validator → Validator}
    (h : ∀ v w, (operator v w).mapLeaves f = operator (v.mapLeaves f) (w.mapLeaves f))
    (t : Bracketing) :
    (t.combined operator).mapLeaves f = (t.map (mapLeaves f)).combined operator := by
  induction t with
  | operand v => rfl
  | pair left right hleft hright => rw [map, combined, combined, h, hleft, hright]

/-- Other functions in its leaves do not make a validator an empty choice. -/
theorem anyOf_nil_not_mem_map {vs : List Validator} (h : anyOf [] none ∉ vs) :
    anyOf [] none ∉ vs.map (mapLeaves f) := by
  intro hmem
  obtain ⟨v, hv, hempty⟩ := List.mem_map.mp hmem
  have hnil : (v.mapLeaves f).disjuncts = [] := (disjuncts_eq_nil_iff _).mpr hempty
  rw [disjuncts_mapLeaves, List.map_eq_nil_iff, disjuncts_eq_nil_iff] at hnil
  rw [hnil] at hv
  exact h hv

end Leaves

/-! ## Bracketings and groups -/

/-- Operands with "and" between them, in whatever brackets, match the conjunction of all of them.
With "or" between them they match the choice of all of them, if none is an empty choice itself;
otherwise they do so apart from the expectations of empty choices. -/
theorem combined_matches_group (l r : Bracketing) :
    ((l.pair r).combined .and).Matches id (allOf (l.pair r).operands none false) ∧
      (anyOf [] none ∉ (l.pair r).operands →
        ((l.pair r).combined .or).Matches id (anyOf (l.pair r).operands none)) ∧
      ∀ ignored : Expectation → Bool, (∀ x, ignored (Check.noneMatched x) = true) →
        ((l.pair r).combined .or).Matches (Result.apartFrom ignored)
          (anyOf (l.pair r).operands none) := by
  -- The operands whose leaves note their calls are in brackets of the same shape.
  have hand : ((l.pair r).combined .and).traced =
      ((l.map traced).pair (r.map traced)).combined .and :=
    mapLeaves_combined mapLeaves_and (l.pair r)
  have hor : ((l.pair r).combined .or).traced =
      ((l.map traced).pair (r.map traced)).combined .or :=
    mapLeaves_combined mapLeaves_or (l.pair r)
  have hoperands : ((l.map traced).pair (r.map traced)).operands =
      (l.pair r).operands.map traced := operands_map traced (l.pair r)
  have hall : (allOf (l.pair r).operands none false).traced =
      allOf ((l.map traced).pair (r.map traced)).operands none false := by
    rw [hoperands]
    exact mapLeaves_allOf _ none false
  have hany : (anyOf (l.pair r).operands none).traced =
      anyOf ((l.map traced).pair (r.map traced)).operands none := by
    rw [hoperands]
    exact mapLeaves_anyOf _ none
  refine ⟨?_, fun hnone => ?_, fun ignored hignored => ?_⟩
  · refine matches_of_evaluate (fun site x => ?_) fun site x => ?_
    · rw [evaluate_combined_and]
    · rw [hand, hall, evaluate_combined_and]
  · have hnone' : anyOf [] none ∉ ((l.map traced).pair (r.map traced)).operands := by
      rw [hoperands]
      exact anyOf_nil_not_mem_map hnone
    refine matches_of_evaluate (fun site x => ?_) fun site x => ?_
    · rw [evaluate_combined_or hnone]
    · rw [hor, hany, evaluate_combined_or hnone']
  · refine matches_of_evaluate (fun site x => ?_) fun site x => ?_
    · exact evaluate_combined_or_apartFrom (hignored x) l r site
    · rw [hor, hany]
      exact evaluate_combined_or_apartFrom (hignored x) _ _ site

/-- Whether an expectation has the code of a choice that has nothing else to say. -/
def saysNoneMatched (e : Expectation) : Bool := e.code == some Code.noneMatched.text

/-- A choice in a choice, with a leaf that has to be waited for behind it, is one choice; an empty
choice in a choice is lost, and its expectation with it. -/
theorem bracketed_choice_matches_group :
    (anyOf [] none ∉ [anyOf [valid] none, validLater, valid] ∧
      ((anyOf [valid] none).or (validLater.or valid)).Matches id
        (anyOf [anyOf [valid] none, validLater, valid] none)) ∧
    ((∀ x, saysNoneMatched (Check.noneMatched x) = true) ∧
      ((anyOf [] none).or (anyOf [] none)).Matches (Result.apartFrom saysNoneMatched)
        (anyOf [anyOf [] none, anyOf [] none] none) ∧
      ((anyOf [] none).or (anyOf [] none)).validate .null true =
        .done ⟨.null, [Check.noneMatched .null], .null⟩ ∧
      (anyOf [anyOf [] none, anyOf [] none] none).validate .null true =
        .done ⟨.null, [Check.noneMatched .null, Check.noneMatched .null], .null⟩) := by
  have hnone : anyOf [] none ∉ [anyOf [valid] none, validLater, valid] := by
    simp [anyOf, validLater, asyncLeaf, valid]
  have hsays : ∀ x, saysNoneMatched (Check.noneMatched x) = true := fun _ => rfl
  refine ⟨⟨hnone, ?_⟩, hsays, ?_, rfl, rfl⟩
  · exact (combined_matches_group (.operand (anyOf [valid] none))
      (.pair (.operand validLater) (.operand valid))).2.1 hnone
  · exact (combined_matches_group (.operand (anyOf [] none)) (.operand (anyOf [] none))).2.2
      saysNoneMatched hsays

/-- A conjunction that is taken apart is refused under another name than one that is nested: the
label counts the members. -/
theorem validate_names_flattened_group :
    (((allOf [validLater, valid] none false).and valid).validate .null true).outcome? =
        some (.error (.asyncReached (some "All(3)"))) ∧
      ((allOf [allOf [validLater, valid] none false, valid] none false).validate
        .null true).outcome? = some (.error (.asyncReached (some "All(2)"))) ∧
      (((allOf [validLater, valid] none false).and valid).validate .null true).outcome? ≠
        ((allOf [allOf [validLater, valid] none false, valid] none false).validate
          .null true).outcome? := by
  have hflattened : (((allOf [validLater, valid] none false).and valid).validate
      .null true).outcome? = some (.error (.asyncReached (some "All(3)"))) := rfl
  have hnested : ((allOf [allOf [validLater, valid] none false, valid] none false).validate
      .null true).outcome? = some (.error (.asyncReached (some "All(2)"))) := rfl
  refine ⟨hflattened, hnested, ?_⟩
  rw [hflattened, hnested]
  simp

end Bracketing
end Conform

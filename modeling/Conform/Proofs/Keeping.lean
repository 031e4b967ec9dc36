import Conform.Builder.Constraint
import Conform.Proofs.Acceptance

/-
  Validators that leave every value that they accept as it is. Predicates and negations do, and so
  do maps and lists whatever is done to their parts; combinations do if their children do. Hence
  the constraints that builders offer do (`keepsValue_validator?`), apart from validators that
  others have made.
-/

namespace Conform

/-- What holds of the results that end a walk early and of the results at its end holds of all
results of the walk. -/
theorem Walk.forall_results {ι σ : Type} (w : Walk ι σ) {Q : Result → Prop} {members : List ι}
    (hstop : ∀ i ∈ members, ∀ s r out, (w.visit i s).outcome? = some (.ok r) →
      w.step i r s = .ok (.inl out) → Q out)
    (hfinish : ∀ s, Q (w.finish s)) (s : σ) {r : Result}
    (h : (w.start members s).outcome? = some (.ok r)) : Q r := by
  induction members generalizing s with
  | nil =>
    obtain rfl := Except.ok.inj (Option.some.inj h)
    exact hfinish s
  | cons i rest ih =>
    rw [start_cons, Run.outcome?_bind_eq_ok] at h
    obtain ⟨first, hfirst, h⟩ := h
    rw [afterStep, Run.outcome?_bind_eq_ok, Run.outcome?_ofExcept] at h
    obtain ⟨next, hnext, h⟩ := h
    cases next with
    | inl out =>
      obtain rfl := Except.ok.inj (Option.some.inj h)
      exact hstop i List.mem_cons_self s first out hfirst (Option.some.inj hnext)
    | inr s =>
      exact ih (fun j hj => hstop j (List.mem_cons_of_mem _ hj)) s h

theorem Result.value_override (message : Option Value) (r : Result) :
    (r.override message).value = r.value := by
  unfold override
  split <;> rfl

namespace Validator

theorem keepsValue_of_results {v : Validator} (hflags : v.flags = {})
    (h : ∀ x r, (v.body .plain x).outcome? = some (.ok r) → r.isValid = true → r.value = x) :
    v.KeepsValue := by
  rintro x y ⟨r, hr, hvalid, rfl⟩
  rw [evaluate_of_unset hflags] at hr
  exact h x r hr hvalid

theorem keepsValue_ofPredicate (p : Predicate) (message : Option Value) :
    (ofPredicate p message).KeepsValue := fun x y h => ((accepts_ofPredicate p message x y).mp h).2

theorem keepsValue_withMessage? {v : Validator} (h : v.KeepsValue) (message : Option Value) :
    (withMessage? message v).KeepsValue :=
  fun x y haccepts => h x y ((accepts_withMessage? message v x y).mp haccepts)

theorem keepsValue_not (v : Validator) (message : Option Value) : (not v message).KeepsValue := by
  refine keepsValue_of_results rfl fun x r hr hvalid => ?_
  rw [not, body_negation, Check.negated, Run.bind_eq, Run.outcome?_bind_eq_ok] at hr
  obtain ⟨own, -, hr⟩ := hr
  split at hr
  · split at hr
    · obtain rfl := Except.ok.inj (Option.some.inj hr)
      rfl
    · obtain ⟨e, -, hr⟩ := Run.outcome?_bind_eq_ok.mp hr
      obtain rfl := Except.ok.inj (Option.some.inj hr)
      rfl
  · obtain rfl := Except.ok.inj (Option.some.inj hr)
    rfl

theorem keepsValue_length (bounds : List Validator) (message : Option Value) :
    (length bounds message).KeepsValue := by
  refine keepsValue_of_results rfl fun x r hr hvalid => ?_
  rw [length, body_sized, Check.sized] at hr
  split at hr
  · obtain rfl := Except.ok.inj (Option.some.inj hr)
    rfl
  · obtain ⟨within, -, hr⟩ := Run.outcome?_bind_eq_ok.mp hr
    obtain rfl := Except.ok.inj (Option.some.inj hr)
    rfl

/-! ## Combinations -/

/-- Validators that keep values accept a value one after another if each of them accepts it. -/
theorem acceptsAll_of_keepsValue {vs : List Validator} (h : ∀ v ∈ vs, v.KeepsValue) (x y : Value) :
    AcceptsAll vs x y ↔ y = x ∧ ∀ v ∈ vs, ∃ z, v.Accepts x z := by
  induction vs generalizing y with
  | nil => simp [AcceptsAll]
  | cons v vs ih =>
    rw [List.forall_mem_cons] at h ⊢
    rw [AcceptsAll]
    constructor
    · rintro ⟨z, hv, hvs⟩
      obtain rfl := h.1 x z hv
      obtain ⟨rfl, hvs⟩ := (ih h.2 y).mp hvs
      exact ⟨rfl, ⟨y, hv⟩, hvs⟩
    · rintro ⟨rfl, ⟨z, hv⟩, hvs⟩
      obtain rfl := h.1 y z hv
      exact ⟨z, hv, (ih h.2 z).mpr ⟨rfl, hvs⟩⟩

theorem keepsValue_and {v w : Validator} (hv : v.KeepsValue) (hw : w.KeepsValue) :
    (v.and w).KeepsValue := by
  intro x y h
  obtain ⟨z, hx, hy⟩ := (accepts_and v w x y).mp h
  rw [hw z y hy, hv x z hx]

theorem keepsValue_collecting (vs : List Validator) (message : Option Value) :
    (allOf vs message true).KeepsValue := by
  refine keepsValue_of_results rfl fun x r hr hvalid => ?_
  rw [allOf, body_conjunction_collecting, Check.collected] at hr
  refine (Check.collecting message x).forall_results (Q := fun r => r.value = x)
    (fun _ _ _ _ _ _ h => by cases h) (fun es => ?_) [] hr
  cases es with
  | nil => rfl
  | cons e es => exact Result.value_override message _

/-- Validators that keep values keep them together. -/
theorem keepsValue_join {vs : List Validator} (h : ∀ v ∈ vs, v.KeepsValue) (collecting : Bool) :
    (Chain.join collecting vs).KeepsValue := by
  match vs with
  | [] => exact fun x y haccepts => (accepts_valid x y).mp haccepts
  | [v] => exact h v List.mem_cons_self
  | v :: w :: vs =>
    cases collecting with
    | false =>
      intro x y haccepts
      exact ((acceptsAll_of_keepsValue h x y).mp ((accepts_allOf _ none x y).mp haccepts)).1
    | true => exact keepsValue_collecting _ none

/-- A choice accepts what one of its members accepts. -/
theorem exists_of_accepts_anyOf {vs : List Validator} {message : Option Value} {x y : Value}
    (h : (anyOf vs message).Accepts x y) : ∃ v ∈ vs, v.Accepts x y := by
  obtain ⟨r, hr, hvalid, rfl⟩ := h
  rw [anyOf, evaluate_of_unset rfl, body_disjunction, Check.alternatives] at hr
  have hsome := (Check.choosing message x).forall_results
    (Q := fun r => r.isValid = true → ∃ v ∈ vs, v.Accepts x r.value)
    (fun c hc es own out hown hout _ => ?_) (fun es hfinish => ?_) [] hr
  · exact hsome hvalid
  · obtain ⟨v, hv, rfl⟩ := List.mem_map.mp hc
    simp only [Check.choosing, Except.ok.injEq] at hout
    split at hout
    · next howns =>
      obtain rfl := Sum.inl.inj hout
      exact ⟨v, hv, own, hown, howns, rfl⟩
    · cases hout
  · have hinvalid : ((Check.choosing message x).finish es).isValid = false := by
      refine (Result.isValid_override message _).trans ?_
      cases es <;> rfl
    rw [hinvalid] at hfinish
    cases hfinish

theorem keepsValue_anyOf {vs : List Validator} (h : ∀ v ∈ vs, v.KeepsValue)
    (message : Option Value) : (anyOf vs message).KeepsValue := by
  intro x y haccepts
  obtain ⟨v, hv, hmember⟩ := exists_of_accepts_anyOf haccepts
  exact h v hv x y hmember

/-! ## Maps and lists -/

theorem value_inspected {message : Option Value} {code : Code} {x : Value}
    {parts : List Check.Part} {r : Result}
    (h : (Check.inspected message code x parts).outcome? = some (.ok r)) : r.value = x :=
  (Check.inspecting message code x).forall_results (Q := fun r => r.value = x)
    (fun _ _ _ _ _ _ h => by cases h) (fun _ => rfl) [] h

theorem keepsValue_fields (schema : Schema) (message : Option Value) :
    (Validator.fields schema message {}).KeepsValue := by
  refine keepsValue_of_results rfl fun x r hr hvalid => ?_
  rw [body_fields] at hr
  unfold Check.schema at hr
  split at hr
  · exact value_inspected hr
  · cases hr

theorem keepsValue_listItems (item : Validator) (message : Option Value) :
    (Validator.listItems item message {}).KeepsValue := by
  refine keepsValue_of_results rfl fun x r hr hvalid => ?_
  rw [body_listItems] at hr
  unfold Check.everyItem at hr
  split at hr
  · exact value_inspected hr
  · cases hr

theorem keepsValue_mapOf (schema : Schema) (message : Option Value) :
    (mapOf schema message).KeepsValue :=
  keepsValue_and (keepsValue_ofPredicate _ _) (keepsValue_fields schema message)

theorem keepsValue_onlyKeys (declared : List Value) (message : Option Value) :
    (onlyKeys declared message).KeepsValue := by
  refine keepsValue_of_results rfl fun x r hr hvalid => ?_
  rw [onlyKeys, body] at hr
  split at hr
  · split at hr
    · obtain rfl := Except.ok.inj (Option.some.inj hr)
      rfl
    · obtain ⟨text, -, hr⟩ := Run.outcome?_bind_eq_ok.mp hr
      obtain rfl := Except.ok.inj (Option.some.inj hr)
      cases hvalid
  · cases hr

theorem keepsValue_listEach (item : Validator) (message : Option Value) :
    (listEach item message).KeepsValue :=
  keepsValue_and (keepsValue_ofPredicate _ _) (keepsValue_listItems item message)

end Validator

/-! ## The constraints of builders -/

namespace Builder

open Validator

theorem keepsValue_either (p q : Predicate) :
    (anyOf [ofPredicate p none, ofPredicate q none] none).KeepsValue := by
  refine keepsValue_anyOf (fun v hv => ?_) none
  cases hv with
  | head => exact keepsValue_ofPredicate p none
  | tail _ hv =>
    obtain rfl := List.mem_singleton.mp hv
    exact keepsValue_ofPredicate q none

theorem keepsValue_isInRange {low high : Value} {v : Validator}
    (h : isInRange low high none = .ok v) : v.KeepsValue := by
  rw [eq_of_isInRange_eq_ok h]
  exact keepsValue_ofPredicate _ _

theorem keepsValue_isDateBetween {start finish : Value} {inclusiveStart inclusiveEnd : Bool}
    {v : Validator} (h : isDateBetween start finish inclusiveStart inclusiveEnd none = .ok v) :
    v.KeepsValue := by
  obtain ⟨first, last, rfl⟩ := exists_of_isDateBetween_eq_ok h
  exact keepsValue_ofPredicate _ _

/-- The constraints that a builder offers leave the values that they accept as they are. -/
theorem keepsValue_validator? {constraint : Constraint} {v : Validator}
    (hown : ∀ u, constraint = .validator u → u.KeepsValue)
    (h : constraint.validator? = .ok v) : v.KeepsValue := by
  cases constraint with
  | validator u =>
    obtain rfl := Except.ok.inj h
    exact hown u rfl
  | oneOf | equal | contains | isTrue | isFalse | related | formatted | containsKey | dated
  | jsonObject | jsonArray =>
    obtain rfl := Except.ok.inj h
    exact keepsValue_ofPredicate _ _
  | length | minLength | maxLength | empty =>
    obtain rfl := Except.ok.inj h
    exact keepsValue_length _ _
  | lengthBetween low high =>
    rw [Constraint.validator?] at h
    obtain ⟨range, -, h⟩ := exists_of_bind_eq_ok h
    obtain rfl := Except.ok.inj h
    exact keepsValue_length _ _
  | between low high => exact keepsValue_isInRange h
  | matching check =>
    obtain ⟨p, -, rfl⟩ := exists_of_map_eq_ok h
    exact keepsValue_ofPredicate p none
  | datedBetween start finish inclusiveStart inclusiveEnd => exact keepsValue_isDateBetween h
  | numberString | jsonContainer =>
    obtain rfl := Except.ok.inj h
    exact keepsValue_either _ _
  | schema fields =>
    obtain rfl := Except.ok.inj h
    exact keepsValue_mapOf fields none
  | strictSchema fields =>
    obtain rfl := Except.ok.inj h
    exact keepsValue_and (keepsValue_mapOf fields none) (keepsValue_onlyKeys _ none)
  | jsonKeys keys =>
    obtain rfl := Except.ok.inj h
    exact keepsValue_collecting _ none
  | jsonLength low high =>
    obtain rfl := Except.ok.inj h
    exact keepsValue_and (keepsValue_ofPredicate _ _) (keepsValue_length _ _)
  | jsonEach item | each item =>
    obtain rfl := Except.ok.inj h
    exact keepsValue_listEach item none

theorem keepsValue_decorate {v : Validator} (negated : Bool)
    (h : negated = false → v.KeepsValue) (message : Option Value) :
    (decorate negated message v).KeepsValue := by
  refine keepsValue_withMessage? ?_ message
  cases negated with
  | true => exact keepsValue_not v none
  | false => exact h rfl

end Builder
end Conform

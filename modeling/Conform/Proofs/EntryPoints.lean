import Conform.Proofs.Exclusion
import Conform.Proofs.Guards

/-
  Entry points. A value is validated with all waiting done or without any, and the absence of its
  key may be stated. The result of an entry point is the answer of the run that `evaluate` gives,
  carried out in its way (`outcome?_validated_iff`), so what is known of runs put together by
  `bind` is known of both entry points at once. In particular a map is accepted if all its fields
  are (`verdict?_mapOf_eq_true`), and a list if all its items are (`verdict?_listEach_eq_true`).
-/

namespace Conform

namespace Run

variable {α β : Type}

/-- The run as an entry point carries it out: with all waiting done, or as it is. -/
def carriedOut (awaiting : Bool) (run : Run α) : Run α := if awaiting then run.awaited else run

@[simp] theorem carriedOut_done (awaiting : Bool) (a : α) :
    (Run.done a).carriedOut awaiting = .done a := by
  cases awaiting <;> rfl

theorem outcome?_carriedOut_ofExcept_eq_ok {awaiting : Bool} {e : Except Fault α} {a : α} :
    ((ofExcept e).carriedOut awaiting).outcome? = some (.ok a) ↔ e = .ok a := by
  have hends : (ofExcept e).outcome? = some (.ok a) ↔ e = .ok a := by
    rw [outcome?_ofExcept, Option.some.injEq]
  cases awaiting with
  | true => rw [carriedOut, if_pos rfl, outcome?_awaited_eq_ok, atOnce_ofExcept, hends]
  | false => exact hends

theorem carriedOut_bind (awaiting : Bool) (run : Run α) (next : α → Run β) :
    (run.bind next).carriedOut awaiting =
      (run.carriedOut awaiting).bind fun a => (next a).carriedOut awaiting := by
  cases awaiting with
  | true => exact awaited_bind run next
  | false => rfl

theorem verdict?_bind_of_isValid {next : Result → Run Result}
    (h : ∀ r, (next r).verdict? = some r.isValid) (run : Run Result) :
    (run.bind next).verdict? = run.verdict? := by
  induction run with
  | done r => exact h r
  | raised => rfl
  | note event rest ih => exact ih
  | await => rfl

/-- What comes after a run changes no verdict if it has the verdict of each result. -/
theorem verdict?_carriedOut_bind {awaiting : Bool} {next : Result → Run Result}
    (h : ∀ r, ((next r).carriedOut awaiting).verdict? = some r.isValid) (run : Run Result) :
    ((run.bind next).carriedOut awaiting).verdict? = (run.carriedOut awaiting).verdict? := by
  rw [carriedOut_bind]
  exact verdict?_bind_of_isValid h _

/-- What is done to a result without a change of its verdict changes no verdict. -/
theorem verdict?_carriedOut_bind_done {f : Result → Result} (h : ∀ r, (f r).isValid = r.isValid)
    (awaiting : Bool) (run : Run Result) :
    ((run.bind fun r => .done (f r)).carriedOut awaiting).verdict? =
      (run.carriedOut awaiting).verdict? := by
  refine verdict?_carriedOut_bind (fun r => ?_) run
  rw [carriedOut_done, verdict?_done, h]

/-- A synchronous run that need not wait ends as it would anyway. -/
theorem outcome?_refusingAwait_of_some {run : Run α} {ending : Except Fault α}
    (h : run.outcome? = some ending) (refusal : Run α) :
    (run.refusingAwait refusal).outcome? = some ending := by
  induction run with
  | done => exact h
  | raised => exact h
  | note event rest ih => exact ih h
  | await => cases h

end Run

namespace Validator

variable {awaiting : Bool} {v : Validator} {x : Value} {present : Bool}

theorem outcome?_validated_iff (awaiting : Bool) (v : Validator) (x : Value) (present : Bool)
    (r : Result) :
    (v.validated awaiting x present).outcome? = some (.ok r) ↔
      ((v.evaluate ⟨present, none⟩ x).carriedOut awaiting).outcome? = some (.ok r) := by
  cases awaiting with
  | true => rfl
  | false => exact outcome?_validate_eq_ok r

theorem verdict?_validated_iff (awaiting : Bool) (v : Validator) (x : Value) (present : Bool)
    (accepted : Bool) :
    (v.validated awaiting x present).verdict? = some accepted ↔
      ((v.evaluate ⟨present, none⟩ x).carriedOut awaiting).verdict? = some accepted := by
  rw [Run.verdict?_eq_of_results (outcome?_validated_iff awaiting v x present)]

/-- A run that need not wait ends at the entry point as it does by itself, also with a fault. -/
theorem outcome?_validated_of_some {ending : Except Fault Result}
    (h : ((v.evaluate ⟨present, none⟩ x).carriedOut awaiting).outcome? = some ending) :
    (v.validated awaiting x present).outcome? = some ending := by
  cases awaiting with
  | true => exact h
  | false => exact Run.outcome?_refusingAwait_of_some h _

/-! ## Parts of a value -/

/-- A value with parts is accepted if each of them is, and if nothing is wrong with it so far. -/
theorem verdict?_inspecting_eq_true (awaiting : Bool) (message : Option Value) (code : Code)
    (x : Value) (parts : List Check.Part) (es : List Expectation) :
    (((Check.inspecting message code x).start parts es).carriedOut awaiting).verdict? = some true ↔
      es = [] ∧ ∀ part ∈ parts, (part.2.carriedOut awaiting).verdict? = some true := by
  -- A part that is not accepted leaves its expectations behind, so what is gathered tells of it.
  induction parts generalizing es with
  | nil =>
    rw [Walk.start_nil, Run.carriedOut_done, Run.verdict?_done]
    change some es.isEmpty = some true ↔ _
    simp
  | cons part parts ih =>
    rw [Check.inspecting_cons, Run.carriedOut_bind, Run.verdict?_bind, List.forall_mem_cons,
      @Run.verdict?_eq_some (part.2.carriedOut awaiting)]
    simp only [ih, List.append_eq_nil_iff, List.map_eq_nil_iff, Result.isValid_iff]
    constructor
    · rintro ⟨r, hr, ⟨hes, hvalid⟩, hrest⟩
      exact ⟨hes, ⟨r, hr, hvalid⟩, hrest⟩
    · rintro ⟨hes, ⟨r, hr, hvalid⟩, hrest⟩
      exact ⟨r, hr, ⟨hes, hvalid⟩, hrest⟩

/-- A field is accepted if its place has a name and its value is. -/
theorem verdict?_fieldPart_eq_true (awaiting : Bool) (entries : Entries) (key : Value)
    (c : Check) :
    ((Check.fieldPart entries key c).2.carriedOut awaiting).verdict? = some true ↔
      key.isShowable = true ∧ ((c.run ⟨entries.hasKey key, some entries⟩
        ((entries.find? key).getD .null)).carriedOut awaiting).verdict? = some true := by
  cases hkey : key.isShowable with
  | true => rw [Check.fieldPart_of_isShowable hkey, and_iff_right rfl]
  | false =>
    rw [Check.fieldPart_of_not_isShowable hkey]
    refine iff_of_false (fun h => ?_) fun h => Bool.false_ne_true h.1
    cases awaiting <;> cases h

/-- A map is accepted if all its fields are. -/
theorem verdict?_mapOf_eq_true (awaiting : Bool) (schema : Schema) (message : Option Value)
    (site : Site) (entries : Entries) :
    (((mapOf schema message).evaluate site (.map entries)).carriedOut awaiting).verdict? =
        some true ↔
      ∀ entry ∈ schema, entry.1.isShowable = true ∧
        ((entry.2.evaluate ⟨entries.hasKey entry.1, some entries⟩
          ((entries.find? entry.1).getD .null)).carriedOut awaiting).verdict? = some true := by
  rw [evaluate_mapOf_map,
    Run.verdict?_carriedOut_bind_done (Result.isValid_behind (.map entries)), Check.inspected,
    verdict?_inspecting_eq_true, List.forall_mem_map, and_iff_right rfl]
  exact forall₂_congr fun entry _ => verdict?_fieldPart_eq_true awaiting entries entry.1 _

/-- A list is accepted if all its items are. -/
theorem verdict?_listEach_eq_true (awaiting : Bool) (item : Validator) (message : Option Value)
    (site : Site) (items : List Value) :
    (((listEach item message).evaluate site (.list items)).carriedOut awaiting).verdict? =
        some true ↔
      ∀ y ∈ items, ((item.evaluate .plain y).carriedOut awaiting).verdict? = some true := by
  rw [evaluate_listEach_list, Run.verdict?_carriedOut_bind_done (Result.isValid_behind _),
    Check.inspected, verdict?_inspecting_eq_true, Check.itemParts, List.forall_mem_map]
  have hitems : (∀ y ∈ items, ((item.evaluate .plain y).carriedOut awaiting).verdict? = some true) ↔
      ∀ place ∈ items.zipIdx,
        ((item.evaluate .plain place.1).carriedOut awaiting).verdict? = some true := by
    conv_lhs => rw [← List.zipIdx_map_fst 0 items]
    exact List.forall_mem_map
  rw [hitems]
  exact and_iff_right rfl

end Validator
end Conform

import Conform.Proofs.EntryPoints
import Conform.Proofs.Refusals

/-
  Messages put over one another. There are four ways to put a message on what a validator refuses,
  and another one around the branches of a choice by the enclosing map. Each is a layer, and does
  something to the result of the validator under it (`evaluate_cover`): the verdict stays, and one
  expectation takes the place of those that were there. A stack of layers does what its layers do
  one after another, innermost first (`evaluate_stack`), so by induction on the stack the verdict
  stays, the message is that of the outermost layer and the code is carried outward from the first
  expectation of the validator itself.

  Main result: `stacked_messages_keep_verdict_and_code`. A code without any character in it is no
  code to a layer of the first kind, which leaves it out, while the others hand it on
  (`empty_code_left_out`).
-/

namespace Conform

/-- A message that counts as true, so that it is put in place of others. -/
structure Label where
  text : Value
  counts : text.isTruthy = true

theorem Label.replacing?_text (label : Label) : replacing? (some label.text) = some label.text := by
  rw [replacing?, Option.filter_some, if_pos label.counts]

/-- A way to put a message on what a validator refuses. -/
inductive MessageLayer where
  /-- One expectation for all failures of the validator. -/
  | expectation (label : Label)
  /-- A conjunction of the validator alone, which gathers what is wrong or ends at the first
  failure. -/
  | conjunction (label : Label) (collecting : Bool)
  /-- A choice with the validator alone. -/
  | choice (label : Label)

/-! ## Results -/

namespace Result

/-- The first expectation that was not met has the code. -/
def Leads (r : Result) (code : Option String) : Prop :=
  ∃ e es, r.expectations = e :: es ∧ e.code = code

/-- One expectation was not met, with the message and the code. -/
def SaysOnly (r : Result) (text : Value) (code : Option String) : Prop :=
  ∃ e, r.expectations = [e] ∧ e.message = text ∧ e.code = code

theorem SaysOnly.leads {r : Result} {text : Value} {code : Option String}
    (h : r.SaysOnly text code) : r.Leads code := by
  obtain ⟨e, he, -, hcode⟩ := h
  exact ⟨e, [], he, hcode⟩

theorem Leads.isValid {r : Result} {code : Option String} (h : r.Leads code) :
    r.isValid = false := by
  obtain ⟨e, es, hes, -⟩ := h
  rw [Result.isValid, hes, List.isEmpty_cons]

theorem Leads.override {r : Result} {code : Option String} (h : r.Leads code) (label : Label) :
    (r.override (some label.text)).SaysOnly label.text code := by
  obtain ⟨e, es, hes, hcode⟩ := h
  exact ⟨_, expectations_override label.replacing?_text hes, rfl, hcode⟩

theorem Leads.relabelled {r : Result} {code : Option String} (h : r.Leads code) (label : Label)
    (x : Value) : (Check.relabelled (some label.text) x r).SaysOnly label.text code := by
  obtain ⟨e, es, hes, hcode⟩ := h
  rw [Check.relabelled, label.replacing?_text, hes]
  exact ⟨_, rfl, rfl, hcode⟩

end Result

namespace MessageLayer

open Validator

/-! ## One layer -/

def text : MessageLayer → Value
  | .expectation label | .conjunction label _ | .choice label => label.text

/-- The validator with the layer over it. -/
def cover (v : Validator) : MessageLayer → Validator
  | .expectation label => v.withExpectation { message := label.text }
  | .conjunction label collecting => allOf [v] (some label.text) collecting
  | .choice label => anyOf [v] (some label.text)

/-- What the layer makes of a result that is valid. -/
def accepted (x : Value) (r : Result) : MessageLayer → Result
  | .expectation _ | .choice _ => r
  | .conjunction _ false => .success r.value x
  | .conjunction _ true => .success x x

/-- What the layer makes of a result that is not valid. -/
def refused (x : Value) (r : Result) : MessageLayer → Result
  | .expectation label => .refusal r.value
      { message := label.text, value := x,
        code := nonEmpty? (r.expectations.head?.bind Expectation.code) } x
  | .conjunction label false => r.override (some label.text)
  | .conjunction label true | .choice label =>
    Result.override (some label.text) ⟨x, r.expectations, x⟩

/-- What the layer makes of the result of the validator under it. -/
def result (x : Value) (r : Result) (layer : MessageLayer) : Result :=
  if r.isValid then layer.accepted x r else layer.refused x r

/-- Whether the layer takes a code without any character for none. -/
def skipsEmptyCode : MessageLayer → Bool
  | .expectation _ => true
  | .conjunction _ _ | .choice _ => false

/-- What becomes of the code of the first expectation under the layers. -/
def carried (layers : List MessageLayer) (code : Option String) : Option String :=
  if layers.any skipsEmptyCode then nonEmpty? code else code

theorem evaluate_cover (layer : MessageLayer) (v : Validator) (site : Site) (x : Value) :
    (layer.cover v).evaluate site x =
      (v.evaluate .plain x).bind fun r => .done (layer.result x r) := by
  cases layer with
  | expectation label =>
    rw [cover, withExpectation, evaluate_of_unset rfl, body_replacement, Check.replaced,
      Run.bind_eq, toCheck_run]
    refine congrArg (Run.bind _) (funext fun r => ?_)
    obtain ⟨value, es, given⟩ := r
    cases es with
    | nil => rfl
    | cons e es => simp only [firstNonEmpty_none]; rfl
  | conjunction label collecting =>
    cases collecting with
    | false =>
      rw [cover, evaluate_allOf, List.map_singleton, Check.threaded_cons, toCheck_run]
      refine congrArg (Run.bind _) (funext fun r => ?_)
      rw [result]
      split <;> rfl
    | true =>
      rw [cover, evaluate_allOf_collecting, List.map_singleton, Check.collecting_cons, toCheck_run]
      refine congrArg (Run.bind _) (funext fun r => ?_)
      obtain ⟨value, es, given⟩ := r
      cases es <;> rfl
  | choice label =>
    rw [cover, evaluate_anyOf, List.map_singleton, Check.choosing_cons, toCheck_run]
    refine congrArg (Run.bind _) (funext fun r => ?_)
    obtain ⟨value, es, given⟩ := r
    cases es <;> rfl

theorem says_refused (layer : MessageLayer) (x : Value) {r : Result} {code : Option String}
    (h : r.Leads code) : (layer.refused x r).SaysOnly layer.text (carried [layer] code) := by
  have hmoved : Result.Leads ⟨x, r.expectations, x⟩ code := h
  cases layer with
  | expectation label =>
    obtain ⟨e, es, hes, rfl⟩ := h
    refine ⟨_, rfl, rfl, ?_⟩
    rw [hes]
    rfl
  | conjunction label collecting =>
    cases collecting with
    | false => exact h.override label
    | true => exact hmoved.override label
  | choice label => exact hmoved.override label

theorem says_result (layer : MessageLayer) (x : Value) {r : Result} {code : Option String}
    (h : r.Leads code) : (layer.result x r).SaysOnly layer.text (carried [layer] code) := by
  rw [result, h.isValid, if_neg Bool.false_ne_true]
  exact layer.says_refused x h

theorem isValid_result (layer : MessageLayer) (x : Value) (r : Result) :
    (layer.result x r).isValid = r.isValid := by
  cases hes : r.expectations with
  | nil =>
    have hvalid : r.isValid = true := Result.isValid_iff.mpr hes
    rw [result, hvalid, if_pos rfl]
    cases layer with
    | expectation | choice => exact hvalid
    | conjunction label collecting => cases collecting <;> rfl
  | cons e es =>
    have hleads : r.Leads e.code := ⟨e, es, hes, rfl⟩
    rw [(layer.says_result x hleads).leads.isValid, hleads.isValid]

/-! ## Stacks of layers -/

/-- The validator with the layers over it, the first one innermost. -/
def stack (layers : List MessageLayer) (v : Validator) : Validator :=
  layers.foldl cover v

/-- What the layers make of the result of the validator under them. -/
def results (layers : List MessageLayer) (x : Value) (r : Result) : Result :=
  layers.foldl (result x) r

theorem carried_append (layers others : List MessageLayer) (code : Option String) :
    carried (layers ++ others) code = carried others (carried layers code) := by
  unfold carried
  rw [List.any_append]
  cases layers.any skipsEmptyCode <;> cases others.any skipsEmptyCode <;>
    simp [nonEmpty?_nonEmpty?]

/-- A code is lost only if it has no character in it. -/
theorem carried_eq (layers : List MessageLayer) (code : Option String) :
    carried layers code =
      if layers.any skipsEmptyCode = true ∧ code = some "" then none else code := by
  rw [carried]
  cases layers.any skipsEmptyCode with
  | false => simp
  | true =>
    cases code with
    | none => rfl
    | some text => by_cases htext : text = "" <;> simp [nonEmpty?, htext]

theorem evaluate_stack (layers : List MessageLayer) (v : Validator) (x : Value) :
    (stack layers v).evaluate .plain x =
      (v.evaluate .plain x).bind fun r => .done (results layers x r) := by
  induction layers generalizing v with
  | nil => exact (Run.bind_pure _).symm
  | cons layer layers ih =>
    rw [stack, List.foldl_cons, ← stack, ih, layer.evaluate_cover, Run.bind_assoc]
    rfl

theorem isValid_results (layers : List MessageLayer) (x : Value) (r : Result) :
    (results layers x r).isValid = r.isValid := by
  induction layers generalizing r with
  | nil => rfl
  | cons layer layers ih =>
    rw [results, List.foldl_cons, ← results, ih, layer.isValid_result]

theorem leads_results (layers : List MessageLayer) (x : Value) {r : Result}
    {code : Option String} (h : r.Leads code) :
    (results layers x r).Leads (carried layers code) := by
  induction layers generalizing r code with
  | nil => exact h
  | cons layer layers ih =>
    rw [← List.singleton_append, carried_append]
    exact ih (layer.says_result x h).leads

/-- What is said is said by the outermost layer. -/
theorem says_results (layers : List MessageLayer) (last : MessageLayer) (x : Value) {r : Result}
    {code : Option String} (h : r.Leads code) :
    (results (layers ++ [last]) x r).SaysOnly last.text (carried (layers ++ [last]) code) := by
  rw [results, List.foldl_concat, carried_append]
  exact last.says_result x (leads_results layers x h)

end MessageLayer

/-! ## Runs -/

namespace Run

/-- The run has the verdict of the other one. If that ends in a failure, the run says nothing but
the message, with what becomes of the code of the first expectation. -/
structure Retells (run other : Run Result) (text : Value)
    (carried : Option String → Option String) : Prop where
  verdict : run.verdict? = other.verdict?
  failure : ∀ r first rest, other.outcome? = some (.ok r) → r.expectations = first :: rest →
    ∃ s, run.outcome? = some (.ok s) ∧ s.SaysOnly text (carried first.code)

variable {text : Value} {carried : Option String → Option String}

/-- What is done to a result at once retells the run if it does so with every result. -/
theorem retells_bind_done {f : Result → Result} (hvalid : ∀ r, (f r).isValid = r.isValid)
    (htold : ∀ r code, r.Leads code → (f r).SaysOnly text (carried code)) (awaiting : Bool)
    (run : Run Result) :
    ((run.bind fun r => .done (f r)).carriedOut awaiting).Retells (run.carriedOut awaiting) text
      carried where
  verdict := verdict?_carriedOut_bind_done hvalid awaiting run
  failure r first rest hr hes := by
    refine ⟨f r, ?_, htold r first.code ⟨first, rest, hes, rfl⟩⟩
    rw [carriedOut_bind, outcome?_bind_of_ok _ hr, carriedOut_done]
    rfl

/-- Only the results of the two runs matter. -/
theorem Retells.of_results {run run' other other' : Run Result}
    (h : run.Retells other text carried)
    (hrun : ∀ r, run'.outcome? = some (.ok r) ↔ run.outcome? = some (.ok r))
    (hother : ∀ r, other'.outcome? = some (.ok r) ↔ other.outcome? = some (.ok r)) :
    run'.Retells other' text carried where
  verdict := by
    rw [verdict?_eq_of_results hrun, verdict?_eq_of_results hother, h.verdict]
  failure r first rest hr hes := by
    obtain ⟨s, hs, htold⟩ := h.failure r first rest ((hother r).mp hr) hes
    exact ⟨s, (hrun s).mpr hs, htold⟩

end Run

namespace MessageLayer

open Validator

/-- The message of a choice by the enclosing map is put on what the chosen branch refuses. -/
theorem retells_when {condition thenBranch otherwise v : Validator} {layers : List MessageLayer}
    {awaiting : Bool} {parent : Entries} {met : Result}
    (hmet : ((condition.evaluate .plain (.map parent)).carriedOut awaiting).outcome? =
      some (.ok met))
    (hchosen : (if met.isValid then thenBranch else otherwise) = stack layers v) (label : Label)
    (x : Value) :
    (((when condition thenBranch otherwise (some label.text)).evaluate ⟨true, some parent⟩
        x).carriedOut awaiting).Retells ((v.evaluate .plain x).carriedOut awaiting) label.text
      (carried layers) := by
  have hlabelled : (((v.evaluate .plain x).bind fun r =>
      .done (Check.relabelled (some label.text) x (results layers x r))).carriedOut
        awaiting).Retells ((v.evaluate .plain x).carriedOut awaiting) label.text
          (carried layers) := by
    refine Run.retells_bind_done (fun r => ?_) (fun r code h => ?_) awaiting _
    · rw [Check.isValid_relabelled, isValid_results]
    · exact (leads_results layers x h).relabelled label x
  refine hlabelled.of_results (fun r => ?_) fun r => Iff.rfl
  have hstack : ((if met.isValid then thenBranch else otherwise).evaluate ⟨true, none⟩ x).bind
      (fun r => .done (Check.relabelled (some label.text) x r)) =
        (v.evaluate .plain x).bind fun r =>
          .done (Check.relabelled (some label.text) x (results layers x r)) := by
    rw [hchosen]
    exact (congrArg (Run.bind · _) (evaluate_stack layers v x)).trans (Run.bind_assoc _ _ _)
  rw [evaluate_when, Run.carriedOut_bind, Run.outcome?_bind_of_ok _ hmet, hstack]

/-- A stack of messages over a validator accepts what the validator accepts, and what is said about
any other value is one expectation with the outermost message and the code of the first expectation
of the validator itself. So it is with the message of a choice by the enclosing map, where the
branch that is chosen is a stack or the validator itself. The code is lost only if it has no
character in it and a layer puts an expectation in place of others. -/
theorem stacked_messages_keep_verdict_and_code (layers : List MessageLayer) (v : Validator)
    (awaiting : Bool) (x : Value) :
    (∀ last, ((stack (layers ++ [last]) v).validated awaiting x true).Retells
        (v.validated awaiting x true) last.text (carried (layers ++ [last]))) ∧
      (∀ (label : Label) (condition thenBranch otherwise : Validator) (parent : Entries)
        (met : Result),
        ((condition.evaluate .plain (.map parent)).carriedOut awaiting).outcome? =
            some (.ok met) →
          (if met.isValid then thenBranch else otherwise) = stack layers v →
            (((when condition thenBranch otherwise (some label.text)).evaluate
                ⟨true, some parent⟩ x).carriedOut awaiting).Retells
              (v.validated awaiting x true) label.text (carried layers)) ∧
      ∀ code, carried layers code =
        if layers.any skipsEmptyCode = true ∧ code = some "" then none else code := by
  have hvalidated : ∀ (w : Validator) r, (w.validated awaiting x true).outcome? = some (.ok r) ↔
      ((w.evaluate .plain x).carriedOut awaiting).outcome? = some (.ok r) :=
    fun w r => outcome?_validated_iff awaiting w x true r
  refine ⟨fun last => ?_, fun label condition thenBranch otherwise parent met hmet hchosen => ?_,
    carried_eq layers⟩
  · refine Run.Retells.of_results ?_ (hvalidated _) (hvalidated v)
    rw [evaluate_stack]
    exact Run.retells_bind_done (isValid_results _ x) (fun r code => says_results layers last x)
      awaiting _
  · exact (retells_when hmet hchosen label x).of_results (fun r => Iff.rfl) (hvalidated v)

def twoMessages : List MessageLayer := [.expectation ⟨.str "a", rfl⟩, .choice ⟨.str "b", rfl⟩]

/-- A number is no text, and a third message says so, or the message of a choice by the map. -/
theorem stacked_messages_over_text_test :
    (∃ s, ((stack (twoMessages ++ [.conjunction ⟨.str "c", rfl⟩ true]) (isString none)).validated
        false (.int 5) true).outcome? = some (.ok s) ∧
      s.SaysOnly (.str "c") (some "type.mismatch")) ∧
    ∃ s, ((when (isMap none) (stack twoMessages (isString none)) .valid
        (some (.str "d"))).evaluate ⟨true, some [(.str "n", .int 5)]⟩ (.int 5)).outcome? =
          some (.ok s) ∧
      s.SaysOnly (.str "d") (some "type.mismatch") := by
  obtain ⟨hstack, hwhen, -⟩ :=
    stacked_messages_keep_verdict_and_code twoMessages (isString none) false (.int 5)
  have hkept : ∀ layers, carried layers (some "type.mismatch") = some "type.mismatch" :=
    fun layers => (carried_eq layers _).trans (if_neg (by simp))
  constructor
  · obtain ⟨s, hs, htold⟩ := (hstack (.conjunction ⟨.str "c", rfl⟩ true)).failure _ _ _ rfl rfl
    exact ⟨s, hs, hkept _ ▸ htold⟩
  · have hlabelled := hwhen ⟨.str "d", rfl⟩ (isMap none) (stack twoMessages (isString none)) .valid
      [(.str "n", .int 5)] (.success (.map [(.str "n", .int 5)])) rfl rfl
    obtain ⟨s, hs, htold⟩ := hlabelled.failure _ _ _ rfl rfl
    exact ⟨s, hs, hkept _ ▸ htold⟩

/-- A test that no value passes, with a code without any character. -/
def emptyCode : Validator :=
  .leaf "never" (fun _ => .ok false) fun x =>
    .ok { message := .str "a", value := x, code := some "" }

/-- Under one expectation for all failures the code is gone, while a choice keeps it, and so does a
conjunction in both ways to go through its members. -/
theorem empty_code_left_out :
    ((emptyCode.validated false (.int 1) true).outcome? = some (.ok (.refusal (.int 1)
        { message := .str "a", value := .int 1, code := some "" }))) ∧
      ((cover emptyCode (.expectation ⟨.str "m", rfl⟩)).validated false (.int 1) true).outcome? =
        some (.ok (.refusal (.int 1) { message := .str "m", value := .int 1, code := none }
          (.int 1))) ∧
      ∀ layer ∈ [MessageLayer.conjunction ⟨.str "m", rfl⟩ false, .conjunction ⟨.str "m", rfl⟩ true,
          .choice ⟨.str "m", rfl⟩],
        ∃ s, ((cover emptyCode layer).validated false (.int 1) true).outcome? = some (.ok s) ∧
          s.SaysOnly (.str "m") (some "") := by
  refine ⟨rfl, rfl, ?_⟩
  simp only [List.forall_mem_cons]
  exact ⟨⟨_, rfl, _, rfl, rfl, rfl⟩, ⟨_, rfl, _, rfl, rfl, rfl⟩, ⟨_, rfl, _, rfl, rfl, rfl⟩, nofun⟩

end MessageLayer
end Conform

import Conform.Proofs.SameRuns
import Conform.Proofs.UntouchedValues

/-
  Fail-fast and collecting conjunctions. Both modes are one walk with different steps: the one
  hands each child what the child before it made of the value and stops at the first refusal, the
  other has every child see the value itself. Where the children give results and hand back what
  they accept, the two runs can be written down: they are the runs of the children in turn, of all
  of them when collecting (`evaluate_collecting_eq_inTurn`) and up to the first one that rejects
  otherwise (`evaluate_failFast_eq_inTurn`), with the result read off what the children find wrong.
  These are equations between runs, so they say which children are called, how often, with which
  value and in which order, whether or not any of them has to be waited for.

  Main result: `allOf_modes_agree`. What a child finds is what it reports when it validates the
  value alone, with all waiting done. Nothing is said about children that raise, or that accept a
  value and pass on another one: there the two modes can give different verdicts.
-/

namespace Conform

namespace Run

variable {α β : Type}

/-- The runs in turn, whatever their answers, and then the answer that is given. -/
def inTurn (b : β) : List (Run α) → Run β
  | [] => .done b
  | run :: rest => run.bind fun _ => inTurn b rest

/-- What goes on from the answer of a run that gives one can be told beforehand. -/
theorem bind_eq_of_outcome {run : Run α} {a : α} (h : run.awaited.outcome? = some (.ok a))
    (next : α → Run β) : run.bind next = run.bind fun _ => next a := by
  induction run with
  | done b =>
    obtain rfl : b = a := Except.ok.inj (Option.some.inj h)
    rfl
  | raised => cases h
  | note event rest ih => exact congrArg (Run.note event) (ih h)
  | await rest ih => exact congrArg Run.await (ih h)

/-- Waiting makes no difference to a run that gives an answer. -/
theorem awaited_eq_atOnce {run : Run α} {a : α} (h : run.awaited.outcome? = some (.ok a)) :
    run.awaited = run.atOnce := by
  induction run with
  | done => rfl
  | raised => cases h
  | note event rest ih => exact congrArg (Run.note event) (ih h)
  | await rest ih => exact ih h

/-- A run that gives an answer is observed up to its end, and then what comes after it. -/
theorem events_awaited_bind {run : Run α} {a : α} (h : run.awaited.outcome? = some (.ok a))
    (next : α → Run β) :
    (run.bind next).awaited.events = run.awaited.events ++ (next a).awaited.events := by
  induction run with
  | done b =>
    obtain rfl : b = a := Except.ok.inj (Option.some.inj h)
    rfl
  | raised => cases h
  | note event rest ih => exact congrArg (event :: ·) (ih h)
  | await rest ih => exact ih h

theorem reachesAwait_bind {run : Run α} {next : α → Run β} (hrun : run.reachesAwait = false)
    (hnext : ∀ a, (next a).reachesAwait = false) : (run.bind next).reachesAwait = false := by
  induction run with
  | done a => exact hnext a
  | raised => rfl
  | note event rest ih => exact ih hrun
  | await => exact hrun

section

variable {runs : List (Run α)} (b : β)

theorem outcome?_inTurn (h : ∀ run ∈ runs, ∃ a, run.awaited.outcome? = some (.ok a)) :
    (inTurn b runs).awaited.outcome? = some (.ok b) := by
  induction runs with
  | nil => rfl
  | cons run rest ih =>
    obtain ⟨⟨a, ha⟩, hrest⟩ := List.forall_mem_cons.mp h
    rw [inTurn, awaited_bind, outcome?_bind_eq_ok]
    exact ⟨a, ha, ih hrest⟩

/-- What is observed of runs in turn is what is observed of each of them, in order. -/
theorem events_inTurn (h : ∀ run ∈ runs, ∃ a, run.awaited.outcome? = some (.ok a)) :
    (inTurn b runs).awaited.events = runs.flatMap fun run => run.awaited.events := by
  induction runs with
  | nil => rfl
  | cons run rest ih =>
    obtain ⟨⟨a, ha⟩, hrest⟩ := List.forall_mem_cons.mp h
    rw [inTurn, events_awaited_bind ha, ih hrest, List.flatMap_cons]

theorem reachesAwait_inTurn (h : ∀ run ∈ runs, run.reachesAwait = false) :
    (inTurn b runs).reachesAwait = false := by
  induction runs with
  | nil => rfl
  | cons run rest ih =>
    obtain ⟨hrun, hrest⟩ := List.forall_mem_cons.mp h
    exact reachesAwait_bind hrun fun _ => ih hrest

end

end Run

namespace Validator

/-! ## What a child finds -/

/-- The validator gives a result for the value, all waiting done, and if it accepts the value then
it hands it back. -/
structure Decides (x : Value) (v : Validator) : Prop where
  answers : ∃ r, (v.validateAsync x true).outcome? = some (.ok r)
  handsBack : (v.evaluate .plain x).HandsBack x

/-- The result of a validator on a value, all waiting done. Without one the value is taken as it
is. -/
def found (x : Value) (v : Validator) : Result :=
  match (v.validateAsync x true).outcome? with
  | some (.ok r) => r
  | _ => .success x x

def findings (x : Value) (v : Validator) : List Expectation := (v.found x).expectations

/-- Whether a validator finds anything wrong with a value. -/
def rejects (x : Value) (v : Validator) : Bool := !(v.found x).isValid

/-- The children up to and including the first one that rejects the value. -/
def tried (x : Value) (vs : List Validator) : List Validator :=
  vs.take (vs.findIdx (rejects x) + 1)

/-- The result of a fail-fast conjunction: that of the first child that rejects the value. -/
def firstRefusal (message : Option Value) (x : Value) (vs : List Validator) : Result :=
  match vs.find? (rejects x) with
  | some v => (v.found x).override message
  | none => .success x x

/-- The result of a collecting conjunction: whatever the children find wrong with the value. -/
def allRefusals (message : Option Value) (x : Value) (vs : List Validator) : Result :=
  (Check.settle message x (vs.flatMap (findings x))).getD (.success x x)

variable {x : Value} {v : Validator} {vs : List Validator}

theorem outcome?_found (h : v.Decides x) :
    (v.evaluate .plain x).awaited.outcome? = some (.ok (v.found x)) := by
  obtain ⟨r, hr⟩ := h.answers
  rw [found, hr]
  exact hr

theorem findings_eq_nil_iff : v.findings x = [] ↔ v.rejects x = false := by
  rw [findings, rejects, Bool.not_eq_false', Result.isValid_iff]

/-- A validator that does not reject the value goes on with it. -/
theorem value_found (h : v.Decides x) (haccepts : v.rejects x = false) : (v.found x).value = x :=
  h.handsBack _ (Run.outcome?_awaited_eq_ok.mp (outcome?_found h))
    ((Bool.not_eq_false' _).mp haccepts)

theorem tried_cons (x : Value) (v : Validator) (vs : List Validator) :
    tried x (v :: vs) = v :: if v.rejects x then [] else tried x vs := by
  rw [tried, List.findIdx_cons, List.take_succ_cons]
  cases v.rejects x with
  | true => rfl
  | false => rfl

/-- Leaves that note their calls change nothing in what a validator answers. -/
theorem outcome?_validateAsync_traced (v : Validator) (x : Value) (present : Bool) :
    (v.traced.validateAsync x present).outcome? = (v.validateAsync x present).outcome? := by
  rw [validateAsync, validateAsync, ← Run.outcome?_withoutEntries, Run.withoutEntries_awaited,
    withoutEntries_evaluate_traced, ← Run.withoutEntries_awaited, Run.outcome?_withoutEntries]

theorem Decides.traced (h : v.Decides x) : v.traced.Decides x where
  answers := by
    rw [outcome?_validateAsync_traced]
    exact h.answers
  handsBack r hr := h.handsBack r (Run.outcome?_awaited_eq_ok.mp
    ((outcome?_validateAsync_traced v x true).symm.trans (Run.outcome?_awaited_eq_ok.mpr hr)))

theorem found_traced (x : Value) (v : Validator) : v.traced.found x = v.found x := by
  rw [found, found, outcome?_validateAsync_traced]

/-! ## The runs of both modes -/

/-- A fail-fast conjunction calls its children in order, each with the value itself, up to the
first one that rejects it. -/
theorem evaluate_failFast_eq_inTurn (h : ∀ v ∈ vs, v.Decides x) (message : Option Value)
    (site : Site) :
    (allOf vs message false).evaluate site x =
      .inTurn (firstRefusal message x vs) ((tried x vs).map fun v => v.evaluate .plain x) := by
  rw [evaluate_allOf]
  induction vs with
  | nil => rfl
  | cons v vs ih =>
    obtain ⟨hv, hvs⟩ := List.forall_mem_cons.mp h
    rw [List.map_cons, Check.threaded_cons, toCheck_run,
      Run.bind_eq_of_outcome (outcome?_found hv), tried_cons, List.map_cons, Run.inTurn]
    cases hrejects : v.rejects x with
    | true =>
      have hinvalid : (v.found x).isValid = false := (Bool.not_eq_true' _).mp hrejects
      rw [firstRefusal, List.find?_cons_of_pos hrejects, hinvalid, if_pos rfl,
        if_neg Bool.false_ne_true]
      rfl
    | false =>
      -- the next child sees the value itself, since this one handed it back
      have hvalid : (v.found x).isValid = true := (Bool.not_eq_false' _).mp hrejects
      rw [firstRefusal, List.find?_cons_of_neg (Bool.eq_false_iff.mp hrejects), hvalid,
        if_pos rfl, if_neg Bool.false_ne_true, value_found hv hrejects, ih hvs]
      rfl

/-- A collecting conjunction calls every child once, in order, with the value itself. -/
theorem evaluate_collecting_eq_inTurn (h : ∀ v ∈ vs, v.Decides x) (message : Option Value)
    (site : Site) :
    (allOf vs message true).evaluate site x =
      .inTurn (allRefusals message x vs) (vs.map fun v => v.evaluate .plain x) := by
  have hwalk : ∀ es : List Expectation, (Check.collecting message x).start (vs.map toCheck) es =
      .inTurn ((Check.settle message x (es ++ vs.flatMap (findings x))).getD (.success x x))
        (vs.map fun v => v.evaluate .plain x) := by
    induction vs with
    | nil =>
      intro es
      rw [List.flatMap_nil, List.append_nil]
      rfl
    | cons v vs ih =>
      intro es
      obtain ⟨hv, hvs⟩ := List.forall_mem_cons.mp h
      rw [List.map_cons, Check.collecting_cons, toCheck_run,
        Run.bind_eq_of_outcome (outcome?_found hv), ih hvs, List.flatMap_cons, List.append_assoc]
      rfl
  rw [evaluate_allOf_collecting]
  exact hwalk []

/-! ## What both modes find -/

/-- What all children find is found by those that reject the value. -/
theorem flatMap_findings_filter (x : Value) (vs : List Validator) :
    (vs.filter (rejects x)).flatMap (findings x) = vs.flatMap (findings x) := by
  induction vs with
  | nil => rfl
  | cons v vs ih =>
    cases hrejects : v.rejects x with
    | true => rw [List.filter_cons_of_pos hrejects, List.flatMap_cons, List.flatMap_cons, ih]
    | false =>
      rw [List.filter_cons_of_neg (Bool.eq_false_iff.mp hrejects), List.flatMap_cons,
        findings_eq_nil_iff.mpr hrejects, ih, List.nil_append]

/-- The results of the two modes on a value, given the children that reject it. -/
structure ModesAgree (message : Option Value) (x : Value) (rejecting : List Validator)
    (quick full : Result) : Prop where
  verdict : quick.isValid = full.isValid
  isValid_iff : full.isValid = true ↔ rejecting = []
  value : full.isValid = true → quick.value = x ∧ full.value = x
  /-- Collecting reports what every rejecting child finds, failing fast what the first one finds,
  which is the beginning of it. -/
  findings : replacing? message = none →
    full.expectations = rejecting.flatMap (findings x) ∧
      ∀ first ∈ rejecting.head?, quick.expectations = first.findings x ∧
        quick.expectations ≠ [] ∧ quick.expectations <+: full.expectations
  /-- A message leaves one expectation in both modes. -/
  relabelled : ∀ text, replacing? message = some text → rejecting ≠ [] →
    ∃ e e', quick.expectations = [e] ∧ full.expectations = [e'] ∧ e.message = text ∧
      e'.message = text ∧ e.code = e'.code

theorem modesAgree (message : Option Value) (x : Value) (vs : List Validator) :
    ModesAgree message x (vs.filter (rejects x)) (firstRefusal message x vs)
      (allRefusals message x vs) := by
  rw [firstRefusal, allRefusals, ← List.head?_filter, ← flatMap_findings_filter]
  have hreject : ∀ v ∈ vs.filter (rejects x), v.rejects x = true := fun v hv =>
    (List.mem_filter.mp hv).2
  generalize vs.filter (rejects x) = rejecting at hreject ⊢
  cases rejecting with
  | nil =>
    refine ⟨rfl, ⟨fun _ => rfl, fun _ => rfl⟩, fun _ => ⟨rfl, rfl⟩, fun _ => ⟨rfl, ?_⟩, ?_⟩
    · exact fun v hv => absurd hv (Option.not_mem_none v)
    · exact fun _ _ h => absurd rfl h
  | cons first rest =>
    have hinvalid : (first.found x).isValid = false :=
      (Bool.not_eq_true' _).mp (hreject first List.mem_cons_self)
    obtain ⟨e, es, hfound⟩ : ∃ e es, (first.found x).expectations = e :: es := by
      rw [← List.ne_nil_iff_exists_cons]
      exact fun h => Bool.false_ne_true (hinvalid.symm.trans (Result.isValid_iff.mpr h))
    have hall : (first :: rest).flatMap (Validator.findings x) =
        e :: (es ++ rest.flatMap (Validator.findings x)) := by
      rw [List.flatMap_cons, Validator.findings, hfound, List.cons_append]
    have hfull : ((Result.mk x (e :: (es ++ rest.flatMap (Validator.findings x))) x).override
        message).isValid = false := Result.isValid_override message _
    rw [hall, Check.settle, Option.getD_some, List.head?_cons]
    dsimp only
    refine ⟨?_, ?_, fun h => absurd (hfull.symm.trans h) Bool.false_ne_true, fun hnone => ?_,
      fun text htext _ => ?_⟩
    · rw [hfull, Result.isValid_override, hinvalid]
    · rw [hfull]
      exact ⟨fun h => absurd h Bool.false_ne_true, fun h => absurd h (List.cons_ne_nil _ _)⟩
    · rw [Result.override_of_none hnone, Result.override_of_none hnone, hall]
      refine ⟨rfl, fun v hv => ?_⟩
      obtain rfl : first = v := Option.some.inj hv
      rw [hfound]
      exact ⟨hfound.symm, List.cons_ne_nil _ _, List.prefix_append _ _⟩
    · have hall : ((Result.mk x (e :: (es ++ rest.flatMap (Validator.findings x))) x).override
          message).expectations = [{ message := text, value := x, code := e.code }] :=
        Result.expectations_override htext rfl
      rw [Result.expectations_override htext hfound, hall]
      exact ⟨_, _, rfl, rfl, rfl, rfl, rfl⟩

/-! ## Both modes side by side -/

/-- The validator calls the validators in turn, each once and with the value itself, whatever they
answer, and ends with the result: awaited, and also without waiting if none of them has to be
waited for. -/
structure RunsInTurn (w : Validator) (x : Value) (called : List Validator) (r : Result) : Prop where
  evaluate : ∀ site, w.evaluate site x = .inTurn r (called.map fun v => v.evaluate .plain x)
  validateAsync : ∀ present, (w.validateAsync x present).outcome? = some (.ok r)
  events : ∀ present, (w.validateAsync x present).events =
    called.flatMap fun v => (v.validateAsync x true).events
  validate : (∀ v ∈ called, (v.evaluate .plain x).reachesAwait = false) →
    ∀ present, w.validate x present = w.validateAsync x present

theorem runsInTurn {w : Validator} {called : List Validator} {r : Result}
    (hcalled : ∀ v ∈ called, v.Decides x)
    (h : ∀ site, w.evaluate site x = .inTurn r (called.map fun v => v.evaluate .plain x)) :
    w.RunsInTurn x called r := by
  have hanswers : ∀ run ∈ called.map fun v => v.evaluate .plain x,
      ∃ r, run.awaited.outcome? = some (.ok r) :=
    List.forall_mem_map.mpr fun v hv => (hcalled v hv).answers
  refine ⟨h, fun present => ?_, fun present => ?_, fun hnone present => ?_⟩
  · rw [Validator.validateAsync, h]
    exact Run.outcome?_inTurn r hanswers
  · rw [Validator.validateAsync, h, Run.events_inTurn r hanswers, List.flatMap_map]
    rfl
  · have hrun : (w.evaluate ⟨present, none⟩ x).reachesAwait = false := by
      rw [h]
      exact Run.reachesAwait_inTurn r (List.forall_mem_map.mpr hnone)
    have hanswer := Run.outcome?_inTurn r hanswers
    rw [← h] at hanswer
    rw [Validator.validate, Validator.validateAsync, Run.refusingAwait_of_not_reachesAwait hrun,
      Run.awaited_eq_atOnce hanswer, Run.atOnce_of_not_reachesAwait hrun]

theorem traced_allOf (vs : List Validator) (message : Option Value) (collecting : Bool) :
    (allOf vs message collecting).traced = allOf (vs.map traced) message collecting :=
  mapLeaves_allOf vs message collecting

theorem rejects_comp_traced (x : Value) : rejects x ∘ traced = rejects x := by
  funext v
  rw [Function.comp_apply, rejects, rejects, found_traced]

theorem tried_map_traced (x : Value) (vs : List Validator) :
    tried x (vs.map traced) = (tried x vs).map traced := by
  rw [tried, tried, List.findIdx_map, rejects_comp_traced, List.map_take]

theorem firstRefusal_map_traced (message : Option Value) (x : Value) (vs : List Validator) :
    firstRefusal message x (vs.map traced) = firstRefusal message x vs := by
  rw [firstRefusal, firstRefusal, List.find?_map, rejects_comp_traced]
  cases vs.find? (rejects x) with
  | none => rfl
  | some v => exact congrArg (Result.override message) (found_traced x v)

theorem allRefusals_map_traced (message : Option Value) (x : Value) (vs : List Validator) :
    allRefusals message x (vs.map traced) = allRefusals message x vs := by
  have hfindings : (fun v : Validator => v.traced.findings x) = findings x :=
    funext fun v => congrArg Result.expectations (found_traced x v)
  rw [allRefusals, allRefusals, List.flatMap_map, hfindings]

/-- A conjunction of validators that give results for a value and hand back what they accept. The
collecting run calls all children, the fail-fast run the children up to the first one that rejects
the value, each once, in order and with the value itself; so do the runs with leaves that note
their calls. Both end with a result, with the same verdict and, if they accept, the same value. The
collecting one reports what every rejecting child finds, in order, the other one what the first of
them finds; a message leaves the same message and the same code of either. -/
theorem allOf_modes_agree {vs : List Validator} {x : Value} (h : ∀ v ∈ vs, v.Decides x)
    (message : Option Value) :
    ∃ quick full : Result,
      (allOf vs message false).RunsInTurn x (tried x vs) quick ∧
      (allOf vs message true).RunsInTurn x vs full ∧
      (allOf vs message false).traced.RunsInTurn x ((tried x vs).map traced) quick ∧
      (allOf vs message true).traced.RunsInTurn x (vs.map traced) full ∧
      ModesAgree message x (vs.filter (rejects x)) quick full := by
  have htraced : ∀ v ∈ vs.map traced, v.Decides x :=
    List.forall_mem_map.mpr fun v hv => (h v hv).traced
  have htried : ∀ ws : List Validator, (∀ v ∈ ws, v.Decides x) → ∀ v ∈ tried x ws, v.Decides x :=
    fun ws hws v hv => hws v (List.mem_of_mem_take hv)
  refine ⟨firstRefusal message x vs, allRefusals message x vs,
    runsInTurn (htried vs h) (evaluate_failFast_eq_inTurn h message),
    runsInTurn h (evaluate_collecting_eq_inTurn h message), ?_, ?_, modesAgree message x vs⟩
  · rw [traced_allOf, ← tried_map_traced, ← firstRefusal_map_traced]
    exact runsInTurn (htried _ htraced) (evaluate_failFast_eq_inTurn htraced message)
  · rw [traced_allOf, ← allRefusals_map_traced]
    exact runsInTurn htraced (evaluate_collecting_eq_inTurn htraced message)

/-- Validators one of which has to be waited for and two of which reject numbers. -/
def mixedChildren : List Validator := [validLater, isMap none, valid, isList none]

/-- The first of the two refusals comes out of one mode, both come out of the other one. -/
theorem mixedChildren_modes_agree :
    (∀ v ∈ mixedChildren, v.Decides (.int 7)) ∧
      ∃ quick full : Result,
        ((allOf mixedChildren none false).validateAsync (.int 7) true).outcome? = some (.ok quick) ∧
        ((allOf mixedChildren none true).validateAsync (.int 7) true).outcome? = some (.ok full) ∧
        quick.expectations = (isMap none).findings (.int 7) ∧
        full.expectations = (isMap none).findings (.int 7) ++ (isList none).findings (.int 7) := by
  have hdecides : ∀ v ∈ mixedChildren, v.Decides (.int 7) := by
    have hback : ∀ v : Validator, v.IsolatesChanges →
        (v.evaluate .plain (.int 7)).HandsBack (.int 7) :=
      fun v hv => handsBack_of_isolatesChanges hv .plain (.int 7)
    simp only [mixedChildren, List.forall_mem_cons]
    exact ⟨⟨⟨_, rfl⟩, hback _ (isolatesChanges_asyncLeaf _ _ _)⟩,
      ⟨⟨_, rfl⟩, hback _ (isolatesChanges_ofPredicate _ none)⟩,
      ⟨⟨_, rfl⟩, hback _ isolatesChanges_valid⟩,
      ⟨⟨_, rfl⟩, hback _ (isolatesChanges_ofPredicate _ none)⟩, nofun⟩
  obtain ⟨quick, full, hquick, hfull, -, -, hagree⟩ := allOf_modes_agree hdecides none
  refine ⟨hdecides, quick, full, hquick.validateAsync true, hfull.validateAsync true, ?_, ?_⟩
  · exact ((hagree.findings rfl).2 (isMap none) rfl).1
  · exact (hagree.findings rfl).1

end Validator
end Conform

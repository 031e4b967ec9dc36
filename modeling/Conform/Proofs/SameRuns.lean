import Conform.Proofs.Awaiting

/-
  Validators that do the same. `Matches view v w` says that whatever is done with `v` and with `w`
  comes to the same: the runs of both agree in everything that can be observed on the way, the
  points of waiting included, in the faults, and in what a view shows of their results (`id`: all
  of it). It says so of the validators as they are and with leaves that note their calls, so the
  leaves are called with the same values in the same order.
  The one difference that is left is the name of a validator: a synchronous validation that would
  have to wait is refused with the label of the validator, and the two may have different labels.
  `matches_of_evaluate`: it is enough that the runs agree. The run of a group is a walk through the
  checks of its members, and so groups can be compared by induction on these.
-/

namespace Conform

namespace Run

variable {α β γ : Type}

/-- The run with what a view shows of its answer. -/
def seen (view : α → β) (run : Run α) : Run β := run.bind fun a => .done (view a)

theorem seen_id (run : Run α) : run.seen id = run := bind_pure run

theorem seen_bind (view : β → γ) (run : Run α) (next : α → Run β) :
    (run.bind next).seen view = run.bind fun a => (next a).seen view := bind_assoc _ _ _

theorem awaited_seen (view : α → β) (run : Run α) :
    (run.seen view).awaited = run.awaited.seen view := awaited_bind _ _

theorem refusingAwait_seen (view : α → β) (run refusal : Run α) :
    (run.refusingAwait refusal).seen view =
      (run.seen view).refusingAwait (refusal.seen view) := by
  induction run with
  | done => rfl
  | raised => rfl
  | note event rest ih => exact congrArg (Run.note event) ih
  | await => rfl

end Run

namespace Validator

variable {α : Type}

/-- The runs of the validators agree in what a view shows of their results, and so do the runs of
the entry points. Each of the two refuses to wait in its own name. -/
structure RunsAs (view : Result → α) (v w : Validator) : Prop where
  evaluate : ∀ site x, (v.evaluate site x).seen view = (w.evaluate site x).seen view
  validateAsync : ∀ x present,
    (v.validateAsync x present).seen view = (w.validateAsync x present).seen view
  validate : ∀ x present, ∃ run : Run α,
    (v.validate x present).seen view = run.refusingAwait (v.refusal.seen view) ∧
      (w.validate x present).seen view = run.refusingAwait (w.refusal.seen view)

/-- The validators do the same, and call the same leaves with the same values in the same order. -/
structure Matches (view : Result → α) (v w : Validator) : Prop where
  plain : v.RunsAs view w
  traced : v.traced.RunsAs view w.traced

variable {view : Result → α} {v w : Validator}

theorem runsAs_of_evaluate
    (h : ∀ site x, (v.evaluate site x).seen view = (w.evaluate site x).seen view) :
    v.RunsAs view w where
  evaluate := h
  validateAsync x present := by
    have hrun := congrArg Run.awaited (h ⟨present, none⟩ x)
    rwa [Run.awaited_seen, Run.awaited_seen] at hrun
  validate x present := by
    refine ⟨(v.evaluate ⟨present, none⟩ x).seen view, Run.refusingAwait_seen view _ _, ?_⟩
    rw [h]
    exact Run.refusingAwait_seen view _ _

theorem matches_of_evaluate
    (hplain : ∀ site x, (v.evaluate site x).seen view = (w.evaluate site x).seen view)
    (htraced : ∀ site x,
      (v.traced.evaluate site x).seen view = (w.traced.evaluate site x).seen view) :
    v.Matches view w :=
  ⟨runsAs_of_evaluate hplain, runsAs_of_evaluate htraced⟩

/-! ## Groups -/

theorem evaluate_allOf (vs : List Validator) (message : Option Value) (site : Site) (x : Value) :
    (allOf vs message false).evaluate site x =
      Check.threaded message x (vs.map toCheck) x := by
  rw [evaluate_of_unset rfl, allOf, body_conjunction_threading]

theorem evaluate_allOf_collecting (vs : List Validator) (message : Option Value) (site : Site)
    (x : Value) :
    (allOf vs message true).evaluate site x =
      (Check.collecting message x).start (vs.map toCheck) [] := by
  rw [evaluate_of_unset rfl, allOf, body_conjunction_collecting]
  rfl

theorem evaluate_anyOf (vs : List Validator) (message : Option Value) (site : Site) (x : Value) :
    (anyOf vs message).evaluate site x =
      (Check.choosing message x).start (vs.map toCheck) [] := by
  rw [evaluate_of_unset rfl, anyOf, body_disjunction]
  rfl

theorem evaluate_noneOf (vs : List Validator) (message : Option Value) (site : Site) (x : Value) :
    (noneOf vs message).evaluate site x =
      (Check.excluding message x).start (vs.map toCheck) [] := by
  rw [evaluate_of_unset rfl, noneOf, body_exclusion]
  rfl

theorem evaluate_not (v : Validator) (message : Option Value) (site : Site) (x : Value) :
    (v.not message).evaluate site x = v.toCheck.negated message x := by
  rw [evaluate_of_unset rfl, Validator.not, body_negation]

/-! ## Branches -/

/-- The condition is put to the enclosing map, and what it says selects the branch for the field. -/
theorem evaluate_when (condition thenBranch otherwise : Validator) (message : Option Value)
    (present : Bool) (parent : Entries) (x : Value) :
    (when condition thenBranch otherwise message).evaluate ⟨present, some parent⟩ x =
      (condition.evaluate .plain (.map parent)).bind fun met =>
        ((if met.isValid then thenBranch else otherwise).evaluate ⟨present, none⟩ x).bind
          fun r => .done (Check.relabelled message x r) := by
  rw [when, evaluate_of_unset rfl, body_conditional, Check.conditional]
  dsimp only
  rw [Run.bind_eq, toCheck_run]
  congr 1
  funext met
  cases met.isValid <;> rfl

end Validator
end Conform

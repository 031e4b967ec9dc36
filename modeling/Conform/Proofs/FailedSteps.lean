import Conform.Proofs.ChainWrappers
import Conform.Proofs.StoredConstraints

/-
  What is left of a step that failed. A step that is not offered fails before it does anything, a
  constraint or a step into a map before it changes anything, and the coercions do not fail at all.
  A wrapping step takes a pending negation first and asks its wrapper afterwards; so if the wrapper
  finds that it cannot, which only a wrapper of the user's and a choice of keys may do, then the
  negation is gone (`pick_forgets_negation`). Nothing else is lost, whatever the draft and the step
  are: `failed_steps_forget_negations_only`. Failed steps can be left out of a run in which no
  failed wrapper met a pending negation (`taking_succeeding`).
-/

namespace Conform.Builder

def View.forgetting (view : View) : View := { view with negated := false }

theorem View.forgetting_of_not_negated {view : View} (h : view.negated = false) :
    view.forgetting = view := by
  rw [forgetting, ← h]

def Step.mayFailToWrap : Step → Bool
  | .wrap _ _ | .pick _ => true
  | _ => false

/-- A failed step on a view and a chain has used up a pending negation if it had taken it. -/
def Step.viewLeft (s : Step) (view : View) : View :=
  if view.subject.offers s.feature && s.mayFailToWrap then view.forgetting else view

/-! ## One step -/

/-- A wrapper that always goes around what it is given is never refused. -/
theorem Step.next_wrapChain_ok (f : Validator → Validator) (message : Option Value) (view : View)
    (c : Chain) : (wrapChain (fun v => .ok (f v)) message view c).next = .ok none := by
  unfold wrapChain Chain.wrap
  split
  · next fault hwrap =>
    split at hwrap
    · cases hwrap
    · cases hwrap
  · rfl

/-- A wrapper that is refused has changed nothing but the negation. -/
theorem Step.wrapChain_of_error {w : Wrapper} {message : Option Value} {view : View} {c : Chain}
    {fault : Fault} (h : (wrapChain w message view c).next = .error fault) :
    wrapChain w message view c = failed view.forgetting c fault := by
  unfold wrapChain at h ⊢
  dsimp only at h ⊢
  split
  · next hwrap =>
    rw [hwrap] at h
    obtain rfl := Except.error.inj h
    rfl
  · next hwrap =>
    rw [hwrap] at h
    cases h

/-- A step that fails although it is offered. -/
theorem Step.take_of_error {s : Step} {view : View} {c : Chain} {fault : Fault}
    (h : (s.take view c).next = .error fault) :
    s.take view c = failed (if s.mayFailToWrap then view.forgetting else view) c fault := by
  cases s with
  | negate | nullable | optional | collectAll | custom | split => cases h
  | wrap w message => exact wrapChain_of_error h
  | pick keys => exact wrapChain_of_error h
  | explain | defaultTo | normalize | flattenKeys =>
    rw [take, next_wrapChain_ok] at h
    cases h
  | constrain constraint message =>
    rw [take, constrainChain] at h ⊢
    cases hv : constraint.validator? with
    | error fault' =>
      rw [hv] at h
      obtain rfl := Except.error.inj h
      rfl
    | ok v =>
      rw [hv] at h
      cases h
  | coerce coercion message keepsPre =>
    rw [take] at h
    split at h <;> cases h
  | pluck key =>
    rw [take] at h ⊢
    cases hplucked : c.pluck key with
    | error fault' =>
      rw [hplucked] at h
      obtain rfl := Except.error.inj h
      rfl
    | ok plucked =>
      rw [hplucked] at h
      cases h

/-- What is left of a step that failed: nothing in the chain, nothing in the log, and of the view
at most that a pending negation is gone. -/
theorem Step.run_of_error {s : Step} {view : View} {c : Chain} {fault : Fault}
    (h : (s.run view c).next = .error fault) :
    s.run view c = failed (s.viewLeft view) c fault := by
  unfold run at h ⊢
  unfold viewLeft
  cases hoffers : view.subject.offers s.feature with
  | true =>
    rw [hoffers, if_pos rfl] at h
    rw [if_pos rfl, Bool.true_and]
    exact take_of_error h
  | false =>
    rw [hoffers, if_neg Bool.false_ne_true] at h
    rw [if_neg Bool.false_ne_true, Bool.false_and, if_neg Bool.false_ne_true]
    obtain rfl := Except.error.inj h
    rfl

namespace Draft

/-- The draft with another view under a number. -/
def withView (d : Draft) (number : Nat) (view : View) : Draft :=
  { d with views := d.views.set number view }

theorem withView_view (d : Draft) (number : Nat) : d.withView number (d.view number) = d := by
  have hsame : d.views.set number (d.view number) = d.views := by
    refine List.ext_getElem (List.length_set ..) fun i h _ => ?_
    rw [List.getElem_set]
    split
    · next heq =>
      subst heq
      rw [view, List.getD_eq_getElem?_getD, List.getElem?_eq_getElem]
      rfl
    · rfl
  rw [withView, hsame]

/-- A failed step leaves the draft as it was, except that a pending negation may be gone. -/
theorem step_of_error {d : Draft} {number : Nat} {s : Step} {fault : Fault}
    (h : (d.step number s).2.1 = .error fault) :
    d.step number s = (d.withView number (s.viewLeft (d.view number)), .error fault, []) := by
  have hnext : (s.run (d.view number) d.chain).next = .error fault := by
    unfold step at h
    dsimp only at h
    split at h
    · next hfault => rw [hfault, Except.error.inj h]
    · cases h
    · cases h
  rw [step, Step.run_of_error hnext]
  rfl

/-- If no negation was pending, or the step had not taken it, then nothing is left of it. -/
theorem step_of_error_eq {d : Draft} {number : Nat} {s : Step} {fault : Fault}
    (h : (d.step number s).2.1 = .error fault)
    (hkeeps : s.mayFailToWrap = false ∨ (d.view number).negated = false) :
    (d.step number s).1 = d := by
  have hleaves : s.viewLeft (d.view number) = d.view number := by
    unfold Step.viewLeft
    obtain hwrapper | hnegated := hkeeps
    · rw [hwrapper, Bool.and_false, if_neg Bool.false_ne_true]
    · rw [View.forgetting_of_not_negated hnegated, ite_self]
  rw [step_of_error h, hleaves]
  exact d.withView_view number

/-! ## Runs -/

/-- The steps that go on. -/
def succeeding (d : Draft) : List (Nat × Step) → List (Nat × Step)
  | [] => []
  | taken :: rest =>
    match (d.step taken.1 taken.2).2.1 with
    | .ok _ => taken :: (d.step taken.1 taken.2).1.succeeding rest
    | .error _ => (d.step taken.1 taken.2).1.succeeding rest

/-- No wrapper that failed met a pending negation. -/
def ForgetsNone (d : Draft) : List (Nat × Step) → Prop
  | [] => True
  | taken :: rest =>
    (∀ fault, (d.step taken.1 taken.2).2.1 = .error fault →
      taken.2.mayFailToWrap = false ∨ (d.view taken.1).negated = false) ∧
    (d.step taken.1 taken.2).1.ForgetsNone rest

/-- The builder ends where it would have ended without the steps that failed. -/
theorem taking_succeeding {d : Draft} {steps : List (Nat × Step)} (h : d.ForgetsNone steps) :
    d.taking (d.succeeding steps) = d.taking steps := by
  induction steps generalizing d with
  | nil => rfl
  | cons taken rest ih =>
    obtain ⟨hkeeps, hrest⟩ := h
    have hlater := ih hrest
    rw [succeeding]
    cases hnext : (d.step taken.1 taken.2).2.1 with
    | ok next => exact hlater
    | error fault =>
      -- the failed step led nowhere, so the others start from the same draft
      have hsame : (d.step taken.1 taken.2).1 = d := step_of_error_eq hnext (hkeeps fault hnext)
      have hskipped : d.taking (taken :: rest) = (d.step taken.1 taken.2).1.taking rest := rfl
      rw [hskipped]
      rw [hsame] at hlater ⊢
      exact hlater

/-- A failed step changes neither the chain nor any view and logs nothing, except that a wrapping
step that was offered has used up the negation that was pending on its view. So however a builder is
used, it ends where it would have ended without the steps that failed, if no wrapper that failed met
a pending negation. -/
theorem failed_steps_forget_negations_only (d : Draft) :
    (∀ number s fault, (d.step number s).2.1 = .error fault →
      (d.step number s).1.chain = d.chain ∧ (d.step number s).2.2 = [] ∧
      (d.step number s).1 = d.withView number (s.viewLeft (d.view number)) ∧
      (s.mayFailToWrap = false ∨ (d.view number).negated = false → (d.step number s).1 = d)) ∧
    ∀ steps, d.ForgetsNone steps → d.taking (d.succeeding steps) = d.taking steps := by
  refine ⟨fun number s fault h => ?_, fun steps h => taking_succeeding h⟩
  have hstep := step_of_error h
  refine ⟨?_, ?_, ?_, step_of_error_eq h⟩
  · rw [hstep]
    rfl
  · rw [hstep]
  · rw [hstep]

def negatedMap : Draft := (start .map none).taking [(0, .negate)]

/-- A step into the map behind a coercion fails and leaves the negation where it is: the builder
goes on as if it had not been called. -/
theorem failed_pluck_leaves_negation :
    let d := negatedMap.taking [(0, .custom .ok true)]
    (d.step 0 (.pluck (.str "a"))).2.1 = .error (.pluckAfterCoercion (.str "a") .custom) ∧
      (d.step 0 (.pluck (.str "a"))).1 = d ∧
      ((d.step 0 (.pluck (.str "a"))).1.view 0).negated = true := by
  intro d
  have hfault : (d.step 0 (.pluck (.str "a"))).2.1 =
      .error (.pluckAfterCoercion (.str "a") .custom) := rfl
  obtain ⟨-, -, -, hsame⟩ := (failed_steps_forget_negations_only d).1 0 _ _ hfault
  refine ⟨hfault, hsame (.inl rfl), ?_⟩
  rw [hsame (.inl rfl)]
  rfl

/-- A choice of keys that are no texts fails, but the negation is gone: a constraint behind it is
not negated, and would have been without the failed step. -/
theorem pick_forgets_negation :
    let key := Step.constrain (.containsKey (.str "a")) none
    (negatedMap.step 0 (.pick [.int 1])).2.1 = .error .wrongType ∧
      (negatedMap.view 0).negated = true ∧
      ((negatedMap.step 0 (.pick [.int 1])).1.view 0).negated = false ∧
      (∃ v, (negatedMap.taking [(0, .pick [.int 1]), (0, key)]).build 0 = .ok v ∧
        ∃ r, (v.validate (.map []) true).outcome? = some (.ok r) ∧ r.isValid = false) ∧
      ∃ v, (negatedMap.taking [(0, key)]).build 0 = .ok v ∧
        ∃ r, (v.validate (.map []) true).outcome? = some (.ok r) ∧ r.isValid = true :=
  ⟨rfl, rfl, rfl, ⟨_, rfl, _, rfl, rfl⟩, _, rfl, _, rfl, rfl⟩

end Draft
end Conform.Builder

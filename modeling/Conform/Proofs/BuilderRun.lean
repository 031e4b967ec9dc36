import Conform.Builder.Step

/-
  Steps of a builder on each other's results. A draft keeps every view, but steps on each other's
  results only ever look at the last one: `outcome?_steps` follows one view and the chain through
  the steps.
-/

namespace Conform.Builder

def Outcome.after (o : Outcome) : Except Fault View := o.next.map fun next => next.getD o.view

/-- The chain and the view after steps on each other's results. -/
def following (view : View) (c : Chain) : List Step → Except Fault (Chain × View)
  | [] => .ok (c, view)
  | s :: rest => (s.run view c).after.bind fun next => following next (s.run view c).chain rest

theorem following_append (view : View) (c : Chain) (before after : List Step) :
    following view c (before ++ after) =
      (following view c before).bind fun reached => following reached.2 reached.1 after := by
  induction before generalizing view c with
  | nil => rfl
  | cons s rest ih =>
    rw [List.cons_append, following, following]
    cases (s.run view c).after with
    | error fault => rfl
    | ok next => exact ih next _

/-- A step that goes on was offered. -/
theorem Step.run_of_after {s : Step} {view next : View} {c : Chain}
    (h : (s.run view c).after = .ok next) : s.run view c = s.take view c := by
  rw [run] at h ⊢
  split at h
  · next hoffers => rw [if_pos hoffers]
  · cases h

theorem Step.offers_of_after {s : Step} {view next : View} {c : Chain}
    (h : (s.run view c).after = .ok next) : view.subject.offers s.feature = true := by
  rw [run] at h
  split at h
  · next hoffers => exact hoffers
  · cases h

/-- The subject that the step goes on with, if it asks for one. -/
def Step.target? : Step → Option Subject
  | .coerce coercion _ _ => some coercion.subject
  | .custom _ _ | .pluck _ => some .generic
  | .split _ _ => some .list
  | _ => none

theorem View.subject_become (target : Subject) (view : View) :
    ((view.become? target).getD view).subject =
      if view.subject.countsAs target then view.subject else target := by
  unfold View.become?
  split <;> rfl

theorem View.flags_become (target : Subject) (view : View) :
    ((view.become? target).getD view).flags = view.flags := by
  unfold View.become?
  split <;> rfl

/-- A step goes on with the subject that it asks for, unless the one that is there counts as it. -/
theorem Step.subject_of_after {s : Step} {view next : View} {c : Chain}
    (h : (s.run view c).after = .ok next) :
    next.subject = match s.target? with
      | some target => if view.subject.countsAs target then view.subject else target
      | none => view.subject := by
  have hwrap : ∀ w message, (wrapChain w message view c).after = .ok next →
      next.subject = view.subject := by
    intro w message hafter
    unfold wrapChain at hafter
    split at hafter
    · cases hafter
    · obtain rfl := Except.ok.inj hafter
      rfl
  rw [Step.run_of_after h] at h
  cases s with
  | negate | nullable | optional | collectAll =>
    obtain rfl := Except.ok.inj h
    rfl
  | wrap | explain | defaultTo | normalize | pick | flattenKeys => exact hwrap _ _ h
  | constrain constraint message =>
    rw [take, constrainChain] at h
    split at h
    · cases h
    · obtain rfl := Except.ok.inj h
      rfl
  | coerce coercion message keepsPre =>
    rw [take] at h
    split at h <;>
      · obtain rfl := Except.ok.inj h
        exact view.subject_become coercion.subject
  | custom w keepsPre =>
    obtain rfl := Except.ok.inj h
    exact view.subject_become .generic
  | split separator message =>
    obtain rfl := Except.ok.inj h
    exact view.subject_become .list
  | pluck key =>
    rw [take] at h
    split at h
    · cases h
    · obtain rfl := Except.ok.inj h
      exact view.subject_become .generic

/-- The first of some steps that go on leads to the chain and the view for the others. -/
theorem exists_of_following_cons {s : Step} {rest : List Step} {view : View} {c : Chain}
    {reached : Chain × View} (h : following view c (s :: rest) = .ok reached) :
    ∃ next, (s.take view c).after = .ok next ∧
      following next (s.take view c).chain rest = .ok reached := by
  rw [following] at h
  obtain ⟨next, hafter, hrest⟩ := exists_of_bind_eq_ok h
  rw [← Step.run_of_after hafter]
  exact ⟨next, hafter, hrest⟩

/-- Every step meets a condition on the view and the chain that it is taken on. -/
def Along (P : Step → View → Chain → Prop) (view : View) (c : Chain) : List Step → Prop
  | [] => True
  | s :: rest => P s view c ∧
    ∀ next, (s.run view c).after = .ok next → Along P next (s.run view c).chain rest

theorem Along.mono {P Q : Step → View → Chain → Prop} {steps : List Step} {view : View} {c : Chain}
    (halong : Along P view c steps) (h : ∀ s view c, P s view c → Q s view c) :
    Along Q view c steps := by
  induction steps generalizing view c with
  | nil => exact trivial
  | cons s rest ih =>
    obtain ⟨hs, hrest⟩ := halong
    exact ⟨h s view c hs, fun next hafter => ih (hrest next hafter)⟩

/-- A condition that looks at the steps alone. -/
theorem along_of_forall {P : Step → Prop} {steps : List Step} (h : ∀ s ∈ steps, P s) (view : View)
    (c : Chain) : Along (fun s _ _ => P s) view c steps := by
  induction steps generalizing view c with
  | nil => exact trivial
  | cons s rest ih =>
    obtain ⟨hs, hrest⟩ := List.forall_mem_cons.mp h
    exact ⟨hs, fun next _ => ih hrest next _⟩

/-- What steps that meet a condition keep holds where they lead. -/
theorem following_keeps {P : Step → View → Chain → Prop} {I : View → Chain → Prop}
    (hkeeps : ∀ s view c next, P s view c → I view c → (s.run view c).after = .ok next →
      I next (s.run view c).chain)
    {steps : List Step} {view last : View} {c d : Chain} (halong : Along P view c steps)
    (h : I view c) (hfollowing : following view c steps = .ok (d, last)) : I last d := by
  induction steps generalizing view c with
  | nil =>
    obtain ⟨rfl, rfl⟩ := Prod.mk.inj (Except.ok.inj hfollowing)
    exact h
  | cons s rest ih =>
    obtain ⟨hs, hrest⟩ := halong
    rw [following] at hfollowing
    obtain ⟨next, hafter, hlast⟩ := exists_of_bind_eq_ok hfollowing
    exact ih (hrest next hafter) (hkeeps s view c next hs h hafter) hlast

namespace Draft

/-- The draft has the chain, and the view under the number. -/
structure Shows (d : Draft) (number : Nat) (c : Chain) (view : View) : Prop where
  chain : d.chain = c
  bound : number < d.views.length
  view : d.view number = view

theorem shows_start (entry : Entry) (message : Option Value) :
    (start entry message).Shows 0 (entry.chain message) entry.view :=
  ⟨rfl, Nat.one_pos, rfl⟩

theorem outcome?_logging (log : List LogRecord) : (logging log).outcome? = some (.ok ()) := by
  induction log with
  | nil => rfl
  | cons entry rest ih => exact ih

theorem outcome?_steps_cons (d : Draft) (number : Nat) (s : Step) (rest : List Step)
    (last : Draft × Nat) :
    (d.steps number (s :: rest)).outcome? = some (.ok last) ↔
      ∃ next, (d.step number s).2.1 = .ok next ∧
        ((d.step number s).1.steps next rest).outcome? = some (.ok last) := by
  rw [steps]
  simp only [Run.bind_eq, Run.outcome?_bind_eq_ok, outcome?_logging, Run.outcome?_ofExcept,
    Option.some.injEq]
  constructor
  · rintro ⟨_, -, next, hnext, hrest⟩
    exact ⟨next, hnext, hrest⟩
  · rintro ⟨next, hnext, hrest⟩
    exact ⟨(), trivial, next, hnext, hrest⟩

/-- A step on a view leads to the view that its outcome goes on with. -/
theorem Shows.step {d : Draft} {number next : Nat} {c : Chain} {view : View}
    (h : d.Shows number c view) {s : Step} (hnext : (d.step number s).2.1 = .ok next) :
    ∃ after, (s.run view c).after = .ok after ∧
      (d.step number s).1.Shows next (s.run view c).chain after := by
  obtain ⟨rfl, hbound, rfl⟩ := h
  cases hoff : (s.run (d.view number) d.chain).next with
  | error fault =>
    simp only [Draft.step, hoff] at hnext
    cases hnext
  | ok off =>
    cases off with
    | none =>
      simp only [Draft.step, hoff, Except.ok.injEq] at hnext ⊢
      subst hnext
      refine ⟨_, congrArg (Except.map _) hoff, rfl, ?_, ?_⟩
      · rwa [List.length_set]
      · simp [Draft.view, hbound]
    | some fresh =>
      simp only [Draft.step, hoff, Except.ok.injEq] at hnext ⊢
      subst hnext
      refine ⟨_, congrArg (Except.map _) hoff, rfl, ?_, ?_⟩
      · simp
      · simp [Draft.view]

/-- A step on a view goes on if its outcome does. -/
theorem Shows.exists_next {d : Draft} {number : Nat} {c : Chain} {view after : View}
    (h : d.Shows number c view) {s : Step} (hafter : (s.run view c).after = .ok after) :
    ∃ next, (d.step number s).2.1 = .ok next := by
  obtain ⟨rfl, -, rfl⟩ := h
  obtain ⟨off, hoff, -⟩ := exists_of_map_eq_ok hafter
  cases off <;> simp only [Draft.step, hoff] <;> exact ⟨_, rfl⟩

/-- Steps on each other's results follow one view. -/
theorem Shows.steps {d last : Draft} {number lastNumber : Nat} {c : Chain} {view : View}
    (h : d.Shows number c view) {steps : List Step}
    (hsteps : (d.steps number steps).outcome? = some (.ok (last, lastNumber))) :
    ∃ c' view', following view c steps = .ok (c', view') ∧ last.Shows lastNumber c' view' := by
  induction steps generalizing d number c view with
  | nil =>
    obtain ⟨rfl, rfl⟩ := Prod.mk.inj (Except.ok.inj (Option.some.inj hsteps))
    exact ⟨c, view, rfl, h⟩
  | cons s rest ih =>
    obtain ⟨next, hnext, hrest⟩ := (outcome?_steps_cons d number s rest _).mp hsteps
    obtain ⟨after, hafter, hshows⟩ := h.step hnext
    obtain ⟨c', view', hfollowing, hlast⟩ := ih hshows hrest
    refine ⟨c', view', ?_, hlast⟩
    rw [following, hafter]
    exact hfollowing

/-- Steps that can be followed can be taken. -/
theorem Shows.exists_steps {d : Draft} {number : Nat} {c : Chain} {view : View}
    (h : d.Shows number c view) {steps : List Step} {reached : Chain × View}
    (hfollowing : following view c steps = .ok reached) :
    ∃ last lastNumber, (d.steps number steps).outcome? = some (.ok (last, lastNumber)) := by
  induction steps generalizing d number c view with
  | nil => exact ⟨d, number, rfl⟩
  | cons s rest ih =>
    rw [following] at hfollowing
    obtain ⟨after, hafter, hrest⟩ := exists_of_bind_eq_ok hfollowing
    obtain ⟨next, hnext⟩ := h.exists_next hafter
    obtain ⟨after', hafter', hshows⟩ := h.step hnext
    obtain rfl := Except.ok.inj (hafter.symm.trans hafter')
    obtain ⟨last, lastNumber, hlast⟩ := ih hshows hrest
    exact ⟨last, lastNumber, (outcome?_steps_cons d number s rest _).mpr ⟨next, hnext, hlast⟩⟩

end Draft

/-- The validator that an entry and steps lead to is built from the last chain and view. -/
theorem buildSteps_eq_ok {entry : Entry} {message : Option Value} {steps : List Step}
    {v : Validator} (h : (buildSteps entry message steps).outcome? = some (.ok v)) :
    ∃ c view, following entry.view (entry.chain message) steps = .ok (c, view) ∧
      view.build c = .ok v := by
  rw [buildSteps, Run.bind_eq, Run.outcome?_bind_eq_ok] at h
  obtain ⟨⟨d, number⟩, hsteps, hbuild⟩ := h
  rw [Run.outcome?_ofExcept] at hbuild
  obtain ⟨c, view, hfollowing, hshows⟩ := (Draft.shows_start entry message).steps hsteps
  refine ⟨c, view, hfollowing, ?_⟩
  rw [← hshows.view, ← hshows.chain]
  exact Option.some.inj hbuild

/-- The last of its steps start where the others lead. -/
theorem exists_build_of_append {entry : Entry} {message : Option Value} {before later : List Step}
    {view : View} {c : Chain} {v : Validator}
    (hbefore : following entry.view (entry.chain message) before = .ok (c, view))
    (h : (buildSteps entry message (before ++ later)).outcome? = some (.ok v)) :
    ∃ d last, following view c later = .ok (d, last) ∧ last.build d = .ok v := by
  obtain ⟨d, last, hfollowing, hbuild⟩ := buildSteps_eq_ok h
  rw [following_append, hbefore] at hfollowing
  exact ⟨d, last, hfollowing, hbuild⟩

/-- The builder gives the validator that is built from where its steps lead. -/
theorem buildSteps_eq_ok_iff {entry : Entry} {message : Option Value} {steps : List Step}
    {v : Validator} : (buildSteps entry message steps).outcome? = some (.ok v) ↔
      ((following entry.view (entry.chain message) steps).bind fun reached =>
        reached.2.build reached.1) = .ok v := by
  constructor
  · intro h
    obtain ⟨c, view, hfollowing, hbuild⟩ := buildSteps_eq_ok h
    rw [hfollowing]
    exact hbuild
  · intro h
    obtain ⟨⟨c, view⟩, hfollowing, hbuild⟩ := exists_of_bind_eq_ok h
    have hstart := Draft.shows_start entry message
    obtain ⟨last, lastNumber, hsteps⟩ := hstart.exists_steps hfollowing
    obtain ⟨c', view', hfollowing', hshows⟩ := hstart.steps hsteps
    obtain ⟨rfl, rfl⟩ := Prod.mk.inj (Except.ok.inj (hfollowing.symm.trans hfollowing'))
    rw [buildSteps, Run.bind_eq, Run.outcome?_bind_eq_ok]
    refine ⟨(last, lastNumber), hsteps, ?_⟩
    rw [Run.outcome?_ofExcept, Draft.build, hshows.view, hshows.chain, hbuild]

end Conform.Builder

import Conform.Proofs.ChainOperations

/-
  No constraint of a chain is left out of what the chain builds. A chain looks at the constraints on
  coerced values only if it has a coercion, and at those on the incoming value only if it has none
  or the coercion keeps them. `Tidy` says that there are no others. Every operation keeps a chain
  tidy (`Tidy.apply`), and a step of a builder does at most one; so the chain is tidy after any
  steps on any views, failed ones included (`tidy_taking`). What it builds is then composed of all
  of its constraints (`Tidy.build_eq_composed`).
-/

namespace Conform

namespace Chain

/-! ## Tidy chains -/

/-- Without a coercion there are no constraints on coerced values, and with one that does not keep
them there are none on the incoming value. -/
structure Tidy (c : Chain) : Prop where
  post : c.coercion = none → c.post = []
  pre : ∀ coercion, c.coercion = some coercion → coercion.keepsPre = false → c.pre = []

namespace Tidy

theorem fresh : Tidy {} := ⟨fun _ => rfl, nofun⟩

variable {c : Chain}

/-- Constraints are only ever added where the chain looks at them. -/
theorem setActive (h : c.Tidy) (vs : List Validator) : (c.setActive vs).Tidy := by
  unfold Chain.setActive
  split
  · next hsome =>
    refine ⟨fun hnone => ?_, h.pre⟩
    rw [show c.coercion = none from hnone] at hsome
    cases hsome
  · next hnone =>
    refine ⟨h.post, fun coercion hcoercion => ?_⟩
    rw [show c.coercion = some coercion from hcoercion] at hnone
    exact absurd rfl hnone

theorem wrap (h : c.Tidy) {w : Wrapper} {c' : Chain} (hwrap : c.wrap w = .ok c') : c'.Tidy := by
  unfold Chain.wrap at hwrap
  split at hwrap
  · next coercion hcoercion hactive =>
    obtain rfl := Except.ok.inj hwrap
    refine ⟨nofun, fun wrapped hwrapped hdrops => ?_⟩
    obtain rfl := Option.some.inj hwrapped
    exact h.pre coercion hcoercion hdrops
  · obtain ⟨v, -, hset⟩ := exists_of_bind_eq_ok hwrap
    obtain rfl := Except.ok.inj hset
    exact h.setActive [v]

/-- A composed coercion keeps the constraints if the one before it did. A new one either keeps
them or drops them. -/
theorem coerce (h : c.Tidy) (kind : CoercionKind) (w : Wrapper) (keepsPre : Bool) :
    (c.coerce kind w keepsPre).1.Tidy := by
  have hnew : ∀ coercion, some (Coercion.mk kind w keepsPre) = some coercion →
      coercion.keepsPre = false → (if keepsPre then c.pre else []) = [] := by
    intro coercion hcoercion hdrops
    obtain rfl := Option.some.inj hcoercion
    rw [show keepsPre = false from hdrops]
    rfl
  unfold Chain.coerce
  cases hc : c.coercion with
  | none => exact ⟨nofun, hnew⟩
  | some before =>
    dsimp only
    split
    · refine ⟨nofun, fun composed hcomposed hdrops => ?_⟩
      obtain rfl := Option.some.inj hcomposed
      exact h.pre before hc hdrops
    · exact ⟨nofun, hnew⟩

theorem pluck (h : c.Tidy) {key : Value} {c' : Chain} (hpluck : c.pluck key = .ok c') :
    c'.Tidy := by
  unfold Chain.pluck at hpluck
  split at hpluck
  · cases hpluck
  · next hnone =>
    obtain rfl := Except.ok.inj hpluck
    exact ⟨h.post, fun coercion hcoercion _ => rfl⟩

/-- Every operation keeps a chain tidy. -/
theorem apply (h : c.Tidy) {op : Operation} {c' : Chain} (hop : op.apply c = .ok c') :
    c'.Tidy := by
  cases op with
  | add v =>
    obtain rfl := Except.ok.inj hop
    exact h.setActive _
  | wrap w => exact h.wrap hop
  | coerce kind w keepsPre =>
    obtain rfl := Except.ok.inj hop
    exact h.coerce kind w keepsPre
  | collect collecting =>
    obtain rfl := Except.ok.inj hop
    exact ⟨h.post, h.pre⟩
  | pluck key => exact h.pluck hop

end Tidy

/-! ## What a chain builds -/

/-- A validator behind constraints on the incoming value, if there are any. -/
def preceded (collecting : Bool) (pre : List Validator) (v : Validator) : Validator :=
  if pre.isEmpty then v else .allOf [join collecting pre, v] none false

/-- All constraints and the coercion of a chain put together. None of the constraints is asked
whether it counts. -/
def composedCore (c : Chain) : Except Fault Validator :=
  match c.coercion with
  | none => .ok (join c.collecting (c.pre ++ c.post))
  | some coercion =>
    (coercion.wrapper (join c.collecting c.post)).map (preceded c.collecting c.pre)

/-- All of a chain put together, the lead in front. -/
def composed (c : Chain) : Except Fault Validator := c.composedCore.bind (c.lead.getD .ok)

/-- Constraints are put together as the only one of them, or as a conjunction of all. -/
theorem join_of_ne_nil {vs : List Validator} (h : vs ≠ []) (collecting : Bool) :
    vs = [join collecting vs] ∨ join collecting vs = .allOf vs none collecting := by
  match vs with
  | [] => exact absurd rfl h
  | [v] => exact .inl rfl
  | _ :: _ :: _ => exact .inr rfl

theorem Tidy.core_eq_composedCore {c : Chain} (h : c.Tidy) : c.core = c.composedCore := by
  unfold Chain.core composedCore
  cases hc : c.coercion with
  | none =>
    dsimp only
    rw [h.post hc, List.append_nil]
  | some coercion =>
    have hkept : (coercion.keepsPre && !c.pre.isEmpty) = !c.pre.isEmpty := by
      cases hkeeps : coercion.keepsPre with
      | true => exact Bool.true_and _
      | false =>
        rw [h.pre coercion hc hkeeps]
        rfl
    dsimp only
    cases coercion.wrapper (join c.collecting c.post) with
    | error fault => rfl
    | ok v =>
      rw [hkept]
      unfold preceded
      cases c.pre <;> rfl

/-- A tidy chain looks at all of its constraints. -/
theorem Tidy.build_eq_composed {c : Chain} (h : c.Tidy) : c.build = c.composed := by
  unfold Chain.build composed
  rw [h.core_eq_composedCore]
  cases c.lead <;> rfl

end Chain

namespace Builder.Draft

/-! ## Drafts -/

/-- The draft after steps, each on the view with a number. A step that fails is taken as well: the
builder can still be used. -/
def taking (d : Draft) (steps : List (Nat × Step)) : Draft :=
  steps.foldl (fun d taken => (d.step taken.1 taken.2).1) d

theorem tidy_step {d : Draft} (h : d.chain.Tidy) (number : Nat) (s : Step) :
    (d.step number s).1.chain.Tidy := by
  rw [chain_step]
  obtain hsame | ⟨op, hop⟩ := s.chain_run (d.view number) d.chain
  · rwa [hsame]
  · exact h.apply hop

theorem tidy_taking {d : Draft} (h : d.chain.Tidy) (steps : List (Nat × Step)) :
    (d.taking steps).chain.Tidy := by
  induction steps generalizing d with
  | nil => exact h
  | cons taken steps ih => exact ih (tidy_step h taken.1 taken.2)

theorem tidy_start (entry : Entry) (message : Option Value) :
    (start entry message).chain.Tidy := Chain.Tidy.fresh.setActive _

/-- However a builder was used, failed steps included, its chain has no constraint that it does not
look at, and what it builds for any view is composed of all of them: where there are some, of the
only one or of their conjunction. -/
theorem build_leaves_out_no_constraint (entry : Entry) (message : Option Value)
    (steps : List (Nat × Step)) :
    let d := (start entry message).taking steps
    (d.chain.coercion = none → d.chain.post = []) ∧
      (∀ coercion, d.chain.coercion = some coercion → coercion.keepsPre = false →
        d.chain.pre = []) ∧
      d.chain.build = d.chain.composed ∧
      (∀ number, d.build number =
        d.chain.composed.map fun v => v.withFlags (d.view number).flags) ∧
      ∀ vs : List Validator, vs ≠ [] → vs = [Chain.join d.chain.collecting vs] ∨
        Chain.join d.chain.collecting vs = .allOf vs none d.chain.collecting := by
  intro d
  have htidy : d.chain.Tidy := tidy_taking (tidy_start entry message) steps
  refine ⟨htidy.post, htidy.pre, htidy.build_eq_composed, fun number => ?_, fun vs hvs => ?_⟩
  · unfold Draft.build View.build
    rw [htidy.build_eq_composed]
    cases d.chain.composed <;> rfl
  · exact Chain.join_of_ne_nil hvs _

/-- A coercion that keeps the constraint of the entry, a constraint on what comes out of it, and a
step that the view does not offer. -/
def keeping : List (Nat × Step) := [
  (0, .coerce .int none true),
  (1, .constrain (.validator .valid) none),
  (1, .pluck (.str "k"))]

/-- Before the coercion there is nothing behind it. With the coercion the constraints on both sides
of it are built, also after the failed step. Another coercion that keeps none leaves none. -/
theorem coercions_leave_out_no_constraint :
    (((start .string none).taking []).chain.coercion = none ∧
      ((start .string none).taking []).chain.post = []) ∧
      ((start .string none).taking keeping).build 1 =
        .ok (.allOf [.isString none, Conversion.int.apply .valid none] none false) ∧
      (∃ coercion, ((start .string none).taking
          (keeping ++ [(1, .coerce .float none false)])).chain.coercion = some coercion ∧
        coercion.keepsPre = false) ∧
      ((start .string none).taking (keeping ++ [(1, .coerce .float none false)])).chain.pre =
        [] := by
  obtain ⟨hpost, -⟩ := build_leaves_out_no_constraint .string none []
  obtain ⟨-, -, -, hbuild, -⟩ := build_leaves_out_no_constraint .string none keeping
  obtain ⟨-, hpre, -⟩ :=
    build_leaves_out_no_constraint .string none (keeping ++ [(1, .coerce .float none false)])
  refine ⟨⟨rfl, hpost rfl⟩, ?_, ⟨_, rfl, rfl⟩, hpre _ rfl rfl⟩
  rw [hbuild]
  rfl

end Builder.Draft
end Conform

import Conform.Proofs.BuilderRun

/-
  The wrappers of a chain: the one that leads to its value and the one of its coercion. Both are put
  together from wrappers of the library, which `Wrapper.IsClosed` lists, and from those that a step
  was given. So whatever holds of the listed ones and of compositions holds of the wrappers of every
  chain that steps lead to, if it holds of the given ones and no negation was put around a coercion
  (`wrapped_following`).
-/

namespace Conform

namespace Wrapper

/-- What holds of the wrappers that builders put around coercions and before them, and of two
wrappers together if it holds of both. -/
structure IsClosed (P : Wrapper → Prop) : Prop where
  around : ∀ {a b}, P a → P b → P (a.around b)
  conversion : ∀ c message, P fun v => .ok (Conversion.apply c v message)
  defaultTo : ∀ substitute, P fun v => .ok (.defaultTo substitute v)
  pivot : ∀ find message, P fun v => .ok (.pivot find message v {})
  pickValues : ∀ keys, P (Validator.pickValues keys)
  pluckAfter : ∀ checks key, P (Chain.pluckAfter checks key)
  withMessage : ∀ text, P fun v => .ok (v.withMessage text)

theorem IsClosed.withMessage? {P : Wrapper → Prop} (hP : IsClosed P) {w : Wrapper} (hw : P w)
    (message : Option Value) : P fun v => (w v).map (Validator.withMessage? message) := by
  cases htext : replacing? message with
  | none =>
    have hsame : (fun v => (w v).map (Validator.withMessage? message)) = w := by
      funext v
      unfold Validator.withMessage?
      rw [htext]
      cases w v <;> rfl
    rwa [hsame]
  | some text =>
    have haround : (fun v => (w v).map (Validator.withMessage? message)) =
        Wrapper.around (fun v => .ok (v.withMessage text)) w := by
      funext v
      unfold Wrapper.around Validator.withMessage?
      rw [htext]
      cases w v <;> rfl
    rw [haround]
    exact hP.around (hP.withMessage text) hw

end Wrapper

/-! ## Chains -/

theorem Chain.lead_coerce (kind : CoercionKind) (w : Wrapper) (keepsPre : Bool) (c : Chain) :
    (c.coerce kind w keepsPre).1.lead = c.lead := by
  obtain hcoerced | ⟨before, -, -, hcoerced⟩ := c.coerce_cases kind w keepsPre <;> rw [hcoerced]

/-- It holds of the lead of the chain and of what its coercion does. -/
structure Chain.Wrapped (P : Wrapper → Prop) (c : Chain) : Prop where
  lead : ∀ w, c.lead = some w → P w
  coercion : ∀ coercion, c.coercion = some coercion → P coercion.wrapper

namespace Chain.Wrapped

variable {P : Wrapper → Prop} {c : Chain}

theorem setActive (h : c.Wrapped P) (vs : List Validator) : (c.setActive vs).Wrapped P where
  lead w hw := h.lead w (by rwa [lead_setActive] at hw)
  coercion coercion hc := h.coercion coercion (by rwa [coercion_setActive] at hc)

/-- Only a wrapper around the coercion matters. -/
theorem wrap (hP : Wrapper.IsClosed P) (h : c.Wrapped P) {w : Wrapper}
    (hw : c.coercion.isSome → c.post = [] → P w) {c' : Chain} (hc' : c.wrap w = .ok c') :
    c'.Wrapped P := by
  unfold Chain.wrap at hc'
  split at hc'
  · next coercion hcoercion hactive =>
    obtain rfl := Except.ok.inj hc'
    rw [active_of_coercion_some hcoercion] at hactive
    have hsome : c.coercion.isSome := by
      rw [hcoercion]
      rfl
    refine ⟨h.lead, fun wrapped hwrapped => ?_⟩
    obtain rfl := Option.some.inj hwrapped
    exact hP.around (hw hsome hactive) (h.coercion coercion hcoercion)
  · obtain ⟨v, -, hset⟩ := exists_of_bind_eq_ok hc'
    obtain rfl := Except.ok.inj hset
    exact h.setActive [v]

theorem coerce (hP : Wrapper.IsClosed P) (h : c.Wrapped P) {w : Wrapper} (hw : P w)
    (kind : CoercionKind) (keepsPre : Bool) : (c.coerce kind w keepsPre).1.Wrapped P := by
  obtain hcoerced | ⟨before, hbefore, -, hcoerced⟩ := c.coerce_cases kind w keepsPre
  all_goals
    rw [hcoerced]
    refine ⟨h.lead, fun coercion hcoercion => ?_⟩
    obtain rfl := Option.some.inj hcoercion
  · exact hw
  · exact hP.around (h.coercion before hbefore) hw

theorem pluck (hP : Wrapper.IsClosed P) (h : c.Wrapped P) {key : Value} {c' : Chain}
    (hc' : c.pluck key = .ok c') : c'.Wrapped P := by
  unfold Chain.pluck at hc'
  split at hc'
  · cases hc'
  · next hcoercion =>
    obtain rfl := Except.ok.inj hc'
    refine ⟨fun w hw => ?_, h.coercion⟩
    obtain rfl := Option.some.inj hw
    cases hlead : c.lead with
    | none => exact hP.pluckAfter c.pre key
    | some lead => exact hP.around (h.lead lead hlead) (hP.pluckAfter c.pre key)

end Chain.Wrapped

/-! ## Steps -/

namespace Builder

/-- What the step puts around the constraints so far, with a message for what the whole refuses. -/
def Step.wrapping? : Step → Option (Wrapper × Option Value)
  | .wrap w message => some (w, message)
  | .explain message => some (fun v => .ok (v.withMessage message), none)
  | .defaultTo substitute => some (fun v => .ok (.defaultTo substitute v), none)
  | .normalize n => some (fun v => .ok (n.conversion.apply v none), none)
  | .pick keys => some (Validator.pickValues keys, none)
  | .flattenKeys delimiter => some (fun v => .ok (.flattenKeys delimiter v), none)
  | _ => none

theorem take_of_wrapping {s : Step} {w : Wrapper} {message : Option Value}
    (h : s.wrapping? = some (w, message)) (view : View) (c : Chain) :
    s.take view c = Step.wrapChain w message view c := by
  cases s with
  | wrap | explain | defaultTo | normalize | pick | flattenKeys =>
    obtain ⟨rfl, rfl⟩ := Prod.mk.inj (Option.some.inj h)
    rfl
  | _ => cases h

/-- What a step puts around the constraints is what it is given, or put together by the library. -/
theorem Step.wrapping_cases {P : Wrapper → Prop} (hP : Wrapper.IsClosed P) {s : Step} {w : Wrapper}
    {message : Option Value} (h : s.wrapping? = some (w, message)) :
    s = .wrap w message ∨ P w := by
  cases s with
  | wrap =>
    obtain ⟨rfl, rfl⟩ := Prod.mk.inj (Option.some.inj h)
    exact .inl rfl
  | explain text =>
    obtain ⟨rfl, rfl⟩ := Prod.mk.inj (Option.some.inj h)
    exact .inr (hP.withMessage text)
  | defaultTo substitute =>
    obtain ⟨rfl, rfl⟩ := Prod.mk.inj (Option.some.inj h)
    exact .inr (hP.defaultTo substitute)
  | normalize n =>
    obtain ⟨rfl, rfl⟩ := Prod.mk.inj (Option.some.inj h)
    exact .inr (hP.conversion n.conversion none)
  | pick keys =>
    obtain ⟨rfl, rfl⟩ := Prod.mk.inj (Option.some.inj h)
    exact .inr (hP.pickValues keys)
  | flattenKeys delimiter =>
    obtain ⟨rfl, rfl⟩ := Prod.mk.inj (Option.some.inj h)
    exact .inr (hP.pivot _ _)
  | _ => cases h

/-- It holds of a wrapper that the step is given, and no negation is put around a coercion. -/
def Step.WrapsIn (P : Wrapper → Prop) (s : Step) (view : View) (c : Chain) : Prop :=
  match s with
  | .custom w _ => P w
  | .wrap w _ => c.coercion.isSome → c.post = [] → view.negated = false ∧ P w
  | .explain _ | .defaultTo _ | .normalize _ | .pick _ | .flattenKeys _ =>
    c.coercion.isSome → c.post = [] → view.negated = false
  | _ => True

variable {P : Wrapper → Prop}

theorem Step.WrapsIn.of_wrapping (hP : Wrapper.IsClosed P) {s : Step} {view : View} {c : Chain}
    (h : s.WrapsIn P view c) {w : Wrapper} {message : Option Value}
    (hs : s.wrapping? = some (w, message)) (hcoercion : c.coercion.isSome) (hpost : c.post = []) :
    view.negated = false ∧ P w := by
  obtain rfl | hheld := Step.wrapping_cases hP hs
  · exact h hcoercion hpost
  · cases s with
    | wrap => exact ⟨(h hcoercion hpost).1, hheld⟩
    | explain | defaultTo | normalize | pick | flattenKeys => exact ⟨h hcoercion hpost, hheld⟩
    | _ => cases hs

theorem wrapped_wrapChain (hP : Wrapper.IsClosed P) {c : Chain} (h : c.Wrapped P)
    {view next : View} {w : Wrapper} {message : Option Value}
    (hw : c.coercion.isSome → c.post = [] → view.negated = false ∧ P w)
    (hafter : (Step.wrapChain w message view c).after = .ok next) :
    (Step.wrapChain w message view c).chain.Wrapped P := by
  unfold Step.wrapChain at hafter ⊢
  cases hwrap : c.wrap fun v => (w v).map (decorate view.negated message) with
  | error fault =>
    rw [hwrap] at hafter
    cases hafter
  | ok wrapped =>
    refine h.wrap hP (fun hcoercion hpost => ?_) hwrap
    obtain ⟨hnegated, hheld⟩ := hw hcoercion hpost
    rw [hnegated]
    exact hP.withMessage? hheld message

/-- A step keeps what holds of the wrappers of a chain. -/
theorem wrapped_run (hP : Wrapper.IsClosed P) {s : Step} {view next : View} {c : Chain}
    (hs : s.WrapsIn P view c) (h : c.Wrapped P) (hafter : (s.run view c).after = .ok next) :
    (s.run view c).chain.Wrapped P := by
  have htake := Step.run_of_after hafter
  rw [htake] at hafter ⊢
  cases hwrapping : s.wrapping? with
  | some wrapping =>
    obtain ⟨w, message⟩ := wrapping
    rw [take_of_wrapping hwrapping] at hafter ⊢
    exact wrapped_wrapChain hP h (hs.of_wrapping hP hwrapping) hafter
  | none =>
    cases s with
    | wrap | explain | defaultTo | normalize | pick | flattenKeys => cases hwrapping
    | negate | nullable | optional => exact h
    | collectAll => exact ⟨h.lead, h.coercion⟩
    | constrain constraint message =>
      rw [Step.take, Step.constrainChain]
      split
      · exact h
      · exact h.setActive _
    | coerce coercion message keepsPre =>
      rw [Step.take]
      split
      · exact h
      · exact h.coerce hP (hP.conversion _ message) _ _
    | custom w keepsPre => exact h.coerce hP hs _ _
    | split separator message => exact h.coerce hP (hP.conversion _ message) _ _
    | pluck key =>
      rw [Step.take]
      cases hpluck : c.pluck key with
      | error fault => exact h
      | ok plucked => exact h.pluck hP hpluck

/-- What holds of the wrappers that the steps of a builder are given holds of the lead and the
coercion of the chain that they lead to. -/
theorem wrapped_following (hP : Wrapper.IsClosed P) {entry : Entry} {message : Option Value}
    {steps : List Step} {view : View} {c : Chain}
    (halong : Along (Step.WrapsIn P) entry.view (entry.chain message) steps)
    (hfollowing : following entry.view (entry.chain message) steps = .ok (c, view)) :
    c.Wrapped P :=
  following_keeps (fun _ _ _ _ hs h hafter => wrapped_run hP hs h hafter) halong
    (show (entry.chain message).Wrapped P from ⟨nofun, nofun⟩) hfollowing

end Builder
end Conform

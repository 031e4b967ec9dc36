import Conform.Proofs.ChainOrder
import Conform.Proofs.Routes
import Conform.Proofs.StoredConstraints

/-
  The active part of a chain is what the next wrapper goes around: all constraints if there is no
  coercion; right behind a coercion the coercion with all that was put around it; and the
  constraints behind the coercion once there are some. A chain is its active part with what leads to
  it around it (`core_eq_bind`), and a wrapper changes the one and leaves the other alone
  (`active_wrap`). What is asked of the functions that steps give to a chain is kept by every
  operation, so that what leads to the active part is a route and the active part is steady.
-/

namespace Conform

namespace Chain

/-! ## The active part of a chain -/

/-- The constraints on the incoming value that a coercion keeps. -/
def kept (c : Chain) : List Validator :=
  match c.coercion with
  | none => []
  | some coercion => if coercion.keepsPre then c.pre else []

/-- What the next wrapper goes around: all constraints if there is no coercion, else the coercion,
or the constraints behind it once there are some. -/
def activePart (c : Chain) : Except Fault Validator :=
  match c.coercion with
  | none => .ok (join c.collecting c.pre)
  | some coercion =>
    if c.post.isEmpty then coercion.wrapper (join c.collecting [])
    else .ok (join c.collecting c.post)

/-- What is around the active part: the coercion, once there are constraints behind it. -/
def coating (c : Chain) : Wrapper :=
  match c.coercion with
  | none => .ok
  | some coercion => if c.post.isEmpty then .ok else coercion.wrapper

/-- What leads to the active part: the constraints that are kept, and what is around it. -/
def approach (c : Chain) : Wrapper :=
  Wrapper.around (fun v => .ok (preceded c.collecting c.kept v)) c.coating

/-- Nothing leads to the active part: it is all of the chain. -/
def IsActive (c : Chain) : Prop := c.kept = [] ∧ (c.coercion.isSome → c.post = [])

theorem core_eq_bind (c : Chain) : c.core = c.activePart.bind c.approach := by
  unfold core activePart approach coating kept Wrapper.around
  cases c.coercion with
  | none => rfl
  | some coercion =>
    have hkept : ∀ v, (if coercion.keepsPre && !c.pre.isEmpty
        then .allOf [join c.collecting c.pre, v] none false else v) =
          preceded c.collecting (if coercion.keepsPre then c.pre else []) v := by
      intro v
      unfold preceded
      cases coercion.keepsPre <;> cases c.pre <;> rfl
    simp only [hkept]
    cases c.post with
    | nil => rfl
    | cons v vs => rfl

/-- A wrapper goes around the active part, and leaves alone what leads to it. -/
theorem active_wrap {c c' : Chain} {w : Wrapper} (h : c.wrap w = .ok c') :
    c'.activePart = c.activePart.bind w ∧ c'.approach = c.approach := by
  unfold wrap at h
  split at h
  · next coercion hcoercion hactive =>
    obtain rfl := Except.ok.inj h
    rw [active_of_coercion_some hcoercion] at hactive
    unfold activePart approach coating kept
    rw [hcoercion, hactive]
    exact ⟨rfl, rfl⟩
  · next vs hnone =>
    -- the constraints are wrapped, and the one that comes of it is there to be wrapped next
    obtain ⟨v, hv, hset⟩ := exists_of_bind_eq_ok h
    obtain rfl := Except.ok.inj hset
    unfold activePart approach coating kept setActive
    cases hcoercion : c.coercion with
    | none =>
      rw [active_of_coercion_none hcoercion] at hv
      exact ⟨hv.symm, rfl⟩
    | some coercion =>
      rw [active_of_coercion_some hcoercion] at hv
      cases hpost : c.post with
      | nil =>
        have hactive : c.active = [] := by rw [active_of_coercion_some hcoercion, hpost]
        exact (hnone coercion hcoercion hactive).elim
      | cons u us =>
        rw [hpost] at hv
        exact ⟨hv.symm, rfl⟩

theorem exists_wrap (c : Chain) (f : Validator → Validator) :
    ∃ c', c.wrap (fun v => .ok (f v)) = .ok c' := by
  unfold wrap
  split <;> exact ⟨_, rfl⟩

/-! ## What steps give to a chain -/

/-- It holds of what the operation puts around the coercion, or in its place. Where there is no
coercion, wrappers make validators without flags, and nothing leads into a map. -/
def Operation.Gives (P : Wrapper → Prop) (c : Chain) : Operation → Prop
  | .add _ | .collect _ => True
  | .coerce _ w _ => P w
  | .wrap w => (c.coercion.isSome → c.post = [] → P w) ∧
      (c.coercion = none → ∀ v u, w v = .ok u → u.flags = {})
  | .pluck _ => False

/-- It holds of what the coercion does. There is no lead, and without a coercion the constraints
have no flags of their own. -/
structure Given (P : Wrapper → Prop) (c : Chain) : Prop extends c.Wrapped P where
  unled : c.lead = none
  flagless : c.coercion = none → c.pre ≠ [] ∧ ∀ collecting, (join collecting c.pre).flags = {}

namespace Given

variable {P : Wrapper → Prop} {c : Chain}

theorem wrap (hP : Wrapper.IsClosed P) (h : c.Given P) {w : Wrapper}
    (hw : (Operation.wrap w).Gives P c) {c' : Chain} (hc' : c.wrap w = .ok c') : c'.Given P where
  toWrapped := h.toWrapped.wrap hP hw.1 hc'
  unled := by
    unfold Chain.wrap at hc'
    split at hc'
    · obtain rfl := Except.ok.inj hc'
      exact h.unled
    · obtain ⟨v, -, hset⟩ := exists_of_bind_eq_ok hc'
      obtain rfl := Except.ok.inj hset
      rw [lead_setActive, h.unled]
  flagless hcoercion := by
    unfold Chain.wrap at hc'
    split at hc'
    · obtain rfl := Except.ok.inj hc'
      cases hcoercion
    · obtain ⟨v, hv, hset⟩ := exists_of_bind_eq_ok hc'
      obtain rfl := Except.ok.inj hset
      rw [coercion_setActive] at hcoercion
      rw [setActive, hcoercion]
      exact ⟨List.cons_ne_nil _ _, fun _ => hw.2 hcoercion _ _ hv⟩

theorem coerce (hP : Wrapper.IsClosed P) (h : c.Given P) {w : Wrapper} (hw : P w)
    (kind : CoercionKind) (keepsPre : Bool) : (c.coerce kind w keepsPre).1.Given P where
  toWrapped := h.toWrapped.coerce hP hw kind keepsPre
  unled := by rw [lead_coerce, h.unled]
  flagless hcoercion := by
    obtain hcoerced | ⟨before, -, -, hcoerced⟩ := c.coerce_cases kind w keepsPre <;>
      · rw [hcoerced] at hcoercion
        cases hcoercion

/-- What the operation gives stays with the chain. -/
theorem apply (hP : Wrapper.IsClosed P) (h : c.Given P) {op : Operation} (hop : op.Gives P c)
    {c' : Chain} (hc' : op.apply c = .ok c') : c'.Given P := by
  cases op with
  | add v =>
    obtain rfl := Except.ok.inj hc'
    refine ⟨h.toWrapped.setActive _, by rw [lead_add, h.unled], fun hcoercion => ?_⟩
    rw [coercion_add] at hcoercion
    have hpre := (h.flagless hcoercion).1
    rw [add, setActive, active_of_coercion_none hcoercion, hcoercion]
    exact ⟨List.append_ne_nil_of_left_ne_nil hpre _, fun _ => Builder.flags_join_append hpre v⟩
  | wrap w => exact h.wrap hP hop hc'
  | coerce kind w keepsPre =>
    obtain rfl := Except.ok.inj hc'
    exact h.coerce hP hop kind keepsPre
  | collect collecting =>
    obtain rfl := Except.ok.inj hc'
    exact ⟨⟨h.lead, h.coercion⟩, h.unled, h.flagless⟩
  | pluck key => exact hop.elim

/-- What is around the active part is nothing or what the coercion does. -/
theorem coating (h : c.Given P) : c.coating = .ok ∨ P c.coating := by
  unfold Chain.coating
  cases hcoercion : c.coercion with
  | none => exact .inl rfl
  | some coercion =>
    cases hpost : c.post with
    | nil => exact .inl rfl
    | cons v vs => exact .inr (h.coercion coercion hcoercion)

/-- A chain with a steady coercion makes a validator without flags. -/
theorem flags_core (h : c.Given Wrapper.IsSteady) {u : Validator} (hu : c.core = .ok u) :
    u.flags = {} := by
  unfold core at hu
  cases hcoercion : c.coercion with
  | none =>
    rw [hcoercion] at hu
    obtain rfl := Except.ok.inj hu
    exact (h.flagless hcoercion).2 _
  | some coercion =>
    rw [hcoercion] at hu
    obtain ⟨v, hv, hkept⟩ := exists_of_bind_eq_ok hu
    obtain rfl := Except.ok.inj hkept
    split
    · rfl
    · exact (h.coercion coercion hcoercion).flags hv

end Given

/-! ## What leads to the active part -/

/-- Validators with the same answers, both behind the same constraints. -/
theorem sameAnswers_preceded {v w : Validator} (h : v.SameAnswers w) (collecting : Bool)
    (pre : List Validator) :
    (preceded collecting pre v).SameAnswers (preceded collecting pre w) := by
  unfold preceded
  split
  · exact h
  · exact Validator.SameAnswers.allOf (.cons (.refl _) (.cons h .nil)) none

theorem routes_preceded (collecting : Bool) (pre : List Validator) :
    ∃ route, Wrapper.Routes (fun v => .ok (preceded collecting pre v)) route ∧
      ∀ x, (route x).Always Turn.IsClear := by
  cases pre with
  | nil => exact ⟨_, Wrapper.routes_ok, fun x => Turn.isClear_asks_done x⟩
  | cons u us => exact ⟨_, Wrapper.routes_behind [_], Wrapper.isClear_behindRoute [_]⟩

namespace Given

variable {c : Chain}

/-- If it leads to one validator, it leads to all. -/
theorem exists_approach (h : c.Given Wrapper.IsSteady) {v u : Validator}
    (hu : c.approach v = .ok u) (v' : Validator) : ∃ u', c.approach v' = .ok u' := by
  obtain ⟨m, hm, -⟩ := exists_of_bind_eq_ok hu
  obtain ⟨m', hm'⟩ : ∃ m', c.coating v' = .ok m' := by
    obtain hnone | hsteady := h.coating
    · exact ⟨v', by rw [hnone]⟩
    · exact hsteady.settled v' hm
  exact ⟨_, by rw [approach, Wrapper.around, hm']; rfl⟩

theorem sameAnswers_approach (h : c.Given Wrapper.IsSteady) {v v' u u' : Validator}
    (hv : v.SameAnswers v') (hu : c.approach v = .ok u) (hu' : c.approach v' = .ok u') :
    u.SameAnswers u' := by
  obtain ⟨m, hm, hkept⟩ := exists_of_bind_eq_ok hu
  obtain ⟨m', hm', hkept'⟩ := exists_of_bind_eq_ok hu'
  obtain rfl := Except.ok.inj hkept
  obtain rfl := Except.ok.inj hkept'
  refine sameAnswers_preceded ?_ _ _
  obtain hnone | hsteady := h.coating
  · rw [hnone] at hm hm'
    obtain rfl := Except.ok.inj hm
    obtain rfl := Except.ok.inj hm'
    exact hv
  · exact hsteady.agree hv hm hm'

/-- Where the coercion asks once, there is a route to the active part. -/
theorem exists_route (h : c.Given Wrapper.AsksOnce) :
    ∃ route, c.approach.Routes route ∧ ∀ x, (route x).Always Turn.IsClear := by
  obtain ⟨route, hroute, hclear⟩ := routes_preceded c.collecting c.kept
  obtain ⟨further, hfurther, hclear'⟩ : ∃ further, c.coating.Routes further ∧
      ∀ x, (further x).Always Turn.IsClear := by
    obtain hnone | hasks := h.coating
    · rw [hnone]
      exact ⟨_, Wrapper.routes_ok, fun x => Turn.isClear_asks_done x⟩
    · exact hasks.routed
  exact ⟨_, hroute.around hfurther, fun x =>
    (hclear x).bind fun _ => Turn.isClear_through hclear'⟩

end Given

/-- The active part is asked about the value itself if nothing leads to it. -/
theorem IsActive.routes {c : Chain} (h : c.IsActive) : c.approach.Routes Wrapper.direct := by
  have hcoating : c.coating = .ok := by
    unfold coating
    cases hcoercion : c.coercion with
    | none => rfl
    | some coercion => rw [h.2 (by rw [hcoercion]; rfl)]; rfl
  have happroach : c.approach = .ok := by
    funext v
    rw [approach, Wrapper.around, hcoating, h.1]
    rfl
  rw [happroach]
  exact Wrapper.routes_ok

end Chain

end Conform

import Conform.Proofs.ChainLinks
import Mathlib.Data.List.Forall2

/-
  Chains that only differ in how they combine their validators. Two validators are alike if they
  have the same flags and, flags aside, accept the same values and make the same of them. Wrappers
  are alike if they make alike validators of alike ones. Every operation on a chain takes alike
  chains to alike ones, except that two chains of which only one collects may combine the same
  validators in different ways: a collecting conjunction leaves the value as it is
  (`accepts_collecting`), a threading one does not. `alike_join`: where all of the combined
  validators keep values anyway, this makes no difference.
-/

namespace Conform

/-- The same fault, or related answers. -/
def Agree {α β : Type} (R : α → β → Prop) : Except Fault α → Except Fault β → Prop
  | .ok a, .ok b => R a b
  | .error fault, .error other => fault = other
  | _, _ => False

namespace Agree

variable {α β γ δ : Type} {R : α → β → Prop} {S : γ → δ → Prop}

theorem bind {made : Except Fault α} {other : Except Fault β} {next : α → Except Fault γ}
    {next' : β → Except Fault δ} (h : Agree R made other)
    (hnext : ∀ a b, R a b → Agree S (next a) (next' b)) :
    Agree S (made.bind next) (other.bind next') := by
  cases made <;> cases other
  · exact h
  · exact h.elim
  · exact h.elim
  · exact hnext _ _ h

theorem map {made : Except Fault α} {other : Except Fault β} {f : α → γ} {g : β → δ}
    (h : Agree R made other) (hmap : ∀ a b, R a b → S (f a) (g b)) :
    Agree S (made.map f) (other.map g) := by
  cases made <;> cases other
  · exact h
  · exact h.elim
  · exact h.elim
  · exact hmap _ _ h

theorem exists_of_ok {made : Except Fault α} {other : Except Fault β} (h : Agree R made other)
    {a : α} (ha : made = .ok a) : ∃ b, other = .ok b ∧ R a b := by
  subst ha
  cases other with
  | error fault => exact h.elim
  | ok b => exact ⟨b, rfl, h⟩

theorem exists_of_ok_right {made : Except Fault α} {other : Except Fault β}
    (h : Agree R made other) {b : β} (hb : other = .ok b) : ∃ a, made = .ok a ∧ R a b := by
  subst hb
  cases made with
  | error fault => exact h.elim
  | ok a => exact ⟨a, rfl, h⟩

end Agree

/-! ## Validators -/

namespace Validator

/-- The validators have the same flags and, flags aside, accept the same values and make the same
of them. -/
structure Alike (v w : Validator) : Prop where
  flags : w.flags = v.flags
  accepts_body : ∀ x y, (w.body .plain x).Accepts y ↔ (v.body .plain x).Accepts y

namespace Alike

theorem refl (v : Validator) : v.Alike v := ⟨rfl, fun _ _ => Iff.rfl⟩

theorem accepts_withFlags {v w : Validator} (h : v.Alike w) (f : Flags) (x y : Value) :
    (w.withFlags f).Accepts x y ↔ (v.withFlags f).Accepts x y := by
  rw [Accepts, Accepts, evaluate_withFlags, evaluate_withFlags, Flags.guard, Flags.guard]
  split
  · rfl
  · exact h.accepts_body x y

theorem accepts {v w : Validator} (h : v.Alike w) (x y : Value) :
    w.Accepts x y ↔ v.Accepts x y := by
  have haccepts := h.accepts_withFlags v.flags x y
  rwa [withFlags_flags, ← h.flags, withFlags_flags] at haccepts

theorem of_unset {v w : Validator} (hv : v.flags = {}) (hw : w.flags = {})
    (h : ∀ x y, w.Accepts x y ↔ v.Accepts x y) : v.Alike w := by
  refine ⟨hw.trans hv.symm, fun x y => ?_⟩
  have haccepts := h x y
  rwa [Accepts, Accepts, evaluate_of_unset hv, evaluate_of_unset hw] at haccepts

theorem withMessage? {v w : Validator} (h : v.Alike w) (message : Option Value) :
    (Validator.withMessage? message v).Alike (Validator.withMessage? message w) := by
  unfold Validator.withMessage?
  split
  · refine of_unset rfl rfl fun x y => ?_
    rw [withMessage, withMessage, accepts_withExpectation, accepts_withExpectation]
    exact h.accepts x y
  · exact h

end Alike

abbrev AllAlike (vs ws : List Validator) : Prop := List.Forall₂ Alike vs ws

theorem allAlike_refl (vs : List Validator) : AllAlike vs vs := List.forall₂_same.mpr fun v _ =>
  Alike.refl v

theorem AllAlike.acceptsAll {vs ws : List Validator} (h : AllAlike vs ws) (x y : Value) :
    AcceptsAll ws x y ↔ AcceptsAll vs x y := by
  induction h generalizing x with
  | nil => rfl
  | cons hv _ ih => simp only [AcceptsAll, hv.accepts, ih]

/-! ## Collecting -/

/-- A collecting conjunction that has found a failure does not accept. -/
theorem not_accepts_collecting_cons (message : Option Value) (x : Value) (vs : List Validator)
    (e : Expectation) (es : List Expectation) (y : Value) :
    ¬ ((Check.collecting message x).start (vs.map toCheck) (e :: es)).Accepts y := by
  induction vs generalizing es with
  | nil =>
    refine Run.not_accepts_of_invalid ?_ y
    exact Result.isValid_override message _
  | cons v vs ih =>
    rw [List.map_cons, Check.collecting_cons, Run.accepts_bind]
    rintro ⟨r, -, haccepts⟩
    exact ih _ haccepts

/-- A collecting conjunction accepts what all of its validators accept, and leaves it as it is. -/
theorem accepts_collecting (vs : List Validator) (message : Option Value) (x y : Value) :
    (allOf vs message true).Accepts x y ↔ y = x ∧ ∀ v ∈ vs, ∃ z, v.Accepts x z := by
  rw [allOf, Accepts, evaluate_of_unset rfl, body_conjunction_collecting, Check.collected]
  induction vs with
  | nil =>
    rw [List.map_nil, Walk.start_nil]
    exact (Run.accepts_success x x y).trans (by simp)
  | cons v vs ih =>
    rw [List.map_cons, Check.collecting_cons, Run.accepts_bind, List.forall_mem_cons]
    constructor
    · rintro ⟨r, hr, haccepts⟩
      cases hes : r.expectations with
      | nil =>
        rw [hes, List.append_nil, ih] at haccepts
        have hvalid : r.isValid = true := by rw [Result.isValid, hes]; rfl
        exact ⟨haccepts.1, ⟨r.value, r, hr, hvalid, rfl⟩, haccepts.2⟩
      | cons e es =>
        rw [hes, List.nil_append] at haccepts
        exact absurd haccepts (not_accepts_collecting_cons message x vs e es y)
    · rintro ⟨rfl, ⟨z, r, hr, hvalid, -⟩, hvs⟩
      refine ⟨r, hr, ?_⟩
      rw [Result.isValid_iff.mp hvalid, List.append_nil, ih]
      exact ⟨rfl, hvs⟩

/-- Alike validators, combined by threading and in some way. They must keep values if several of
them are combined by collecting. -/
theorem alike_join {vs ws : List Validator} (h : AllAlike vs ws) (collecting : Bool)
    (hkeeps : collecting = true → 2 ≤ ws.length → ∀ w ∈ ws, w.KeepsValue) :
    (Chain.join false vs).Alike (Chain.join collecting ws) := by
  match h with
  | .nil => exact Alike.refl .valid
  | .cons hv .nil => exact hv
  | .cons hv (.cons hv' hvs) =>
    have hall : AllAlike _ _ := .cons hv (.cons hv' hvs)
    refine Alike.of_unset rfl rfl fun x y => ?_
    rw [Builder.accepts_join, ← hall.acceptsAll]
    cases collecting with
    | false => exact accepts_allOf _ none x y
    | true =>
      rw [acceptsAll_of_keepsValue (hkeeps rfl (Nat.le_add_left 2 _))]
      exact accepts_collecting _ none x y

end Validator

/-! ## Wrappers -/

namespace Wrapper

/-- The wrappers make alike validators of alike ones, or fail in the same way. -/
def Alike (a b : Wrapper) : Prop := ∀ v w, v.Alike w → Agree Validator.Alike (a v) (b w)

/-- The wrapper makes alike validators of alike ones. -/
abbrev IsUniform (a : Wrapper) : Prop := a.Alike a

theorem Alike.around {a a' b b' : Wrapper} (ha : a.Alike a') (hb : b.Alike b') :
    (a.around b).Alike (a'.around b') := fun v w h => (hb v w h).bind ha

/-- Wrappers that put the same change of the value in front of a validator. -/
theorem alike_of_accepts {f g : Validator → Validator} {M : Value → Value → Prop}
    (hf : ∀ v, (f v).flags = {}) (hg : ∀ v, (g v).flags = {})
    (hfaccepts : ∀ v x y, (f v).Accepts x y ↔ ∃ z, M x z ∧ v.Accepts z y)
    (hgaccepts : ∀ v x y, (g v).Accepts x y ↔ ∃ z, M x z ∧ v.Accepts z y) :
    Wrapper.Alike (fun v => .ok (f v)) (fun v => .ok (g v)) := by
  intro v w h
  refine Validator.Alike.of_unset (hf v) (hg w) fun x y => ?_
  rw [hfaccepts, hgaccepts]
  exact exists_congr fun z => and_congr_right fun _ => h.accepts z y

theorem isUniform_conversion (c : Conversion) (message : Option Value) :
    Wrapper.IsUniform fun v => .ok (c.apply v message) :=
  alike_of_accepts (fun v => Builder.flags_apply c v message)
    (fun v => Builder.flags_apply c v message)
    (fun v => c.accepts_apply_iff_makes v message) (fun v => c.accepts_apply_iff_makes v message)

theorem isUniform_pivot (find : Value → Except Fault (Option Value)) (message : String) :
    Wrapper.IsUniform fun v => .ok (.pivot find message v {}) :=
  alike_of_accepts (fun _ => rfl) (fun _ => rfl) (Validator.accepts_pivot find message)
    (Validator.accepts_pivot find message)

theorem isUniform_pickValues (keys : List Value) :
    Wrapper.IsUniform (Validator.pickValues keys) := by
  intro v w h
  unfold Validator.pickValues
  split
  · exact isUniform_pivot _ _ v w h
  · rfl

theorem accepts_defaultTo (substitute : Value) (child : Validator) (x y : Value) :
    (Validator.defaultTo substitute child).Accepts x y ↔
      ∃ z, z = (if x.isNull then substitute else x) ∧ child.Accepts z y := by
  rw [Validator.Accepts, Validator.evaluate_of_unset rfl, Validator.defaultTo,
    Validator.body_defaulted, exists_eq_left]
  rfl

theorem isUniform_defaultTo (substitute : Value) :
    Wrapper.IsUniform fun v => .ok (.defaultTo substitute v) :=
  alike_of_accepts (fun _ => rfl) (fun _ => rfl) (accepts_defaultTo substitute)
    (accepts_defaultTo substitute)

theorem isUniform_withMessage (message : Value) :
    Wrapper.IsUniform fun v => .ok (v.withMessage message) := by
  have haccepts : ∀ v : Validator, ∀ x y, (v.withMessage message).Accepts x y ↔
      ∃ z, z = x ∧ v.Accepts z y := by
    intro v x y
    rw [exists_eq_left]
    exact Validator.accepts_withExpectation v _ x y
  exact alike_of_accepts (fun _ => rfl) (fun _ => rfl) haccepts haccepts

theorem alike_pluckAfter {vs ws : List Validator} (h : Validator.AllAlike vs ws) (key : Value) :
    Wrapper.Alike (Chain.pluckAfter vs key) (Chain.pluckAfter ws key) := by
  intro v w hv
  have hlast : (Validator.pluckKey key v).Alike (.pluckKey key w) := isUniform_pivot _ _ v w hv
  have hall := List.rel_append h (List.Forall₂.cons hlast .nil)
  refine Validator.Alike.of_unset rfl rfl fun x y => ?_
  rw [Validator.accepts_allOf, Validator.accepts_allOf]
  exact Validator.AllAlike.acceptsAll hall x y

end Wrapper

/-! ## Chains -/

/-- The coercions are of one kind, drop or keep the same, and are alike. -/
structure Coercion.Alike (a b : Coercion) : Prop where
  kind : b.kind = a.kind
  keepsPre : b.keepsPre = a.keepsPre
  wrapper : a.wrapper.Alike b.wrapper

namespace Chain

/-- The parts of the chains are alike. The first one does not collect; the other one may. -/
structure Alike (c d : Chain) : Prop where
  pre : Validator.AllAlike c.pre d.pre
  post : Validator.AllAlike c.post d.post
  lead : Option.Rel Wrapper.Alike c.lead d.lead
  coercion : Option.Rel Coercion.Alike c.coercion d.coercion
  collecting : c.collecting = false

/-- If the chain collects and has several validators to combine, then these keep values. -/
def KeepsJoined (c : Chain) (vs : List Validator) : Prop :=
  c.collecting = true → 2 ≤ vs.length → ∀ v ∈ vs, v.KeepsValue

namespace Alike

variable {c d : Chain}

theorem coercion_eq_none (h : c.Alike d) (hc : c.coercion = none) : d.coercion = none := by
  have hcoercion := h.coercion
  rw [hc] at hcoercion
  generalize d.coercion = b at hcoercion ⊢
  cases hcoercion
  rfl

theorem exists_coercion (h : c.Alike d) {coercion : Coercion} (hc : c.coercion = some coercion) :
    ∃ other, d.coercion = some other ∧ coercion.Alike other := by
  have hcoercion := h.coercion
  rw [hc] at hcoercion
  generalize d.coercion = b at hcoercion ⊢
  cases hcoercion with
  | some hab => exact ⟨_, rfl, hab⟩

theorem isSome_coercion (h : c.Alike d) : d.coercion.isSome = c.coercion.isSome := by
  cases hc : c.coercion with
  | none => rw [h.coercion_eq_none hc]
  | some coercion =>
    obtain ⟨other, hd, -⟩ := h.exists_coercion hc
    rw [hd]
    rfl

theorem hasKind (h : c.Alike d) (kind : CoercionKind) : d.hasKind kind = c.hasKind kind := by
  unfold Chain.hasKind
  cases hc : c.coercion with
  | none => rw [h.coercion_eq_none hc]
  | some coercion =>
    obtain ⟨other, hd, hother⟩ := h.exists_coercion hc
    rw [hd]
    simp only [hother.kind]

theorem active (h : c.Alike d) : Validator.AllAlike c.active d.active := by
  unfold Chain.active
  rw [h.isSome_coercion]
  split
  · exact h.post
  · exact h.pre

theorem setActive (h : c.Alike d) {vs ws : List Validator} (hvs : Validator.AllAlike vs ws) :
    (c.setActive vs).Alike (d.setActive ws) := by
  unfold Chain.setActive
  rw [h.isSome_coercion]
  split
  · exact { h with post := hvs }
  · exact { h with pre := hvs }

theorem add (h : c.Alike d) (v : Validator) : (c.add v).Alike (d.add v) :=
  h.setActive (List.rel_append h.active (.cons (Validator.Alike.refl v) .nil))

theorem joined (h : c.Alike d) {vs ws : List Validator} (hvs : Validator.AllAlike vs ws)
    (hkeeps : d.KeepsJoined ws) : (join c.collecting vs).Alike (join d.collecting ws) := by
  rw [h.collecting]
  exact Validator.alike_join hvs d.collecting hkeeps

theorem wrap (h : c.Alike d) {w : Wrapper} (hw : w.IsUniform)
    (hkeeps : d.KeepsJoined d.active) : Agree Alike (c.wrap w) (d.wrap w) := by
  have haround : Agree Alike ((w (join c.collecting c.active)).map fun v => c.setActive [v])
      ((w (join d.collecting d.active)).map fun v => d.setActive [v]) :=
    (hw _ _ (h.joined h.active hkeeps)).map fun v v' hv => h.setActive (.cons hv .nil)
  by_cases hnil : c.active = []
  · have hnil' : d.active = [] := List.forall₂_nil_left_iff.mp (hnil ▸ h.active)
    cases hc : c.coercion with
    | none => rwa [wrap_of_coercion_eq_none hc, wrap_of_coercion_eq_none (h.coercion_eq_none hc)]
    | some coercion =>
      obtain ⟨other, hd, hother⟩ := h.exists_coercion hc
      rw [wrap_of_active_eq_nil hc hnil, wrap_of_active_eq_nil hd hnil']
      exact { h with coercion := .some ⟨hother.kind, hother.keepsPre, hw.around hother.wrapper⟩ }
  · have hnil' : d.active ≠ [] := fun hd => hnil (List.forall₂_nil_right_iff.mp (hd ▸ h.active))
    rwa [wrap_of_active_ne_nil hnil, wrap_of_active_ne_nil hnil']

theorem coerce (h : c.Alike d) {w : Wrapper} (hw : w.IsUniform) (kind : CoercionKind)
    (keepsPre : Bool) : (c.coerce kind w keepsPre).1.Alike (d.coerce kind w keepsPre).1 := by
  have hpre : Validator.AllAlike (if keepsPre then c.pre else [])
      (if keepsPre then d.pre else []) := by
    split
    · exact h.pre
    · exact .nil
  unfold Chain.coerce
  cases hc : c.coercion with
  | none =>
    rw [h.coercion_eq_none hc]
    exact { h with pre := hpre, post := .nil, coercion := .some ⟨rfl, rfl, hw⟩ }
  | some before =>
    obtain ⟨other, hd, hother⟩ := h.exists_coercion hc
    rw [hd]
    simp only [hother.kind, hother.keepsPre]
    split
    · exact { h with post := .nil, coercion := .some ⟨rfl, rfl, hother.wrapper.around hw⟩ }
    · exact { h with pre := hpre, post := .nil, coercion := .some ⟨rfl, rfl, hw⟩ }

theorem pluck (h : c.Alike d) (key : Value) : Agree Alike (c.pluck key) (d.pluck key) := by
  unfold Chain.pluck
  cases hc : c.coercion with
  | none =>
    rw [h.coercion_eq_none hc]
    have hstep := Wrapper.alike_pluckAfter h.pre key
    have hlead := h.lead
    refine { h with pre := .nil, coercion := .none, lead := .some ?_ }
    generalize c.lead = a, d.lead = b at hlead
    cases hlead with
    | none => exact hstep
    | some hab => exact hab.around hstep
  | some coercion =>
    obtain ⟨other, hd, hother⟩ := h.exists_coercion hc
    rw [hd]
    exact congrArg (Fault.pluckAfterCoercion key) hother.kind.symm

theorem core (h : c.Alike d) (hpre : d.KeepsJoined d.pre) (hpost : d.KeepsJoined d.post) :
    Agree Validator.Alike c.core d.core := by
  unfold Chain.core
  cases hc : c.coercion with
  | none =>
    rw [h.coercion_eq_none hc]
    exact h.joined h.pre hpre
  | some coercion =>
    obtain ⟨other, hd, hother⟩ := h.exists_coercion hc
    rw [hd]
    refine (hother.wrapper _ _ (h.joined h.post hpost)).bind fun v w hv => ?_
    have hempty : d.pre.isEmpty = c.pre.isEmpty := by
      rw [Bool.eq_iff_iff, List.isEmpty_iff_length_eq_zero, List.isEmpty_iff_length_eq_zero,
        h.pre.length_eq]
    rw [hother.keepsPre, hempty]
    cases coercion.keepsPre && !c.pre.isEmpty with
    | false => exact hv
    | true =>
      have hboth : Validator.AllAlike [join c.collecting c.pre, v] [join d.collecting d.pre, w] :=
        .cons (h.joined h.pre hpre) (.cons hv .nil)
      refine Validator.Alike.of_unset rfl rfl fun x y => ?_
      exact (Validator.accepts_allOf _ none x y).trans
        ((hboth.acceptsAll x y).trans (Validator.accepts_allOf _ none x y).symm)

theorem build (h : c.Alike d) (hpre : d.KeepsJoined d.pre) (hpost : d.KeepsJoined d.post) :
    Agree Validator.Alike c.build d.build := by
  refine (h.core hpre hpost).bind fun v w hv => ?_
  have hlead := h.lead
  generalize c.lead = a, d.lead = b at hlead
  cases hlead with
  | none => exact hv
  | some hab => exact hab v w hv

end Alike

end Chain
end Conform

import Conform.Proofs.Alike
import Conform.Proofs.Guards

/-
  What a validator refuses, and with which expectations (`Refuses`). A conjunction whose first
  validators accept refuses what the last one refuses, with the same expectations. A message puts
  one expectation in their place, which has the code of the first of them (`Relabelled`).
  `Wrapper.Carries` says of a wrapper what it makes of a value before the wrapped validator sees
  it, and which message it puts on what that validator refuses.
-/

namespace Conform

namespace Run

/-- The run ends, without waiting, with the given expectations, of which there are some. -/
def Refuses (run : Run Result) (es : List Expectation) : Prop :=
  es ≠ [] ∧ ∃ r, run.outcome? = some (.ok r) ∧ r.expectations = es

theorem refuses_done {r : Result} {es : List Expectation} (hnonempty : es ≠ [])
    (h : r.expectations = es) : (Run.done r).Refuses es := ⟨hnonempty, r, rfl, h⟩

theorem refuses_bind {α : Type} {run : Run α} {next : α → Run Result} {a : α}
    (ha : run.outcome? = some (.ok a)) {es : List Expectation} (h : (next a).Refuses es) :
    (run.bind next).Refuses es := by
  obtain ⟨hnonempty, r, hr, hes⟩ := h
  exact ⟨hnonempty, r, outcome?_bind_eq_ok.mpr ⟨a, ha, hr⟩, hes⟩

end Run

namespace Validator

/-- The validator refuses the value, without waiting, with the given expectations. -/
def Refuses (v : Validator) (x : Value) (es : List Expectation) : Prop :=
  (v.evaluate .plain x).Refuses es

/-- A conjunction refuses what its last validator refuses, if the others accept. -/
theorem refuses_threaded {vs : List Validator} {v : Validator} {x y : Value}
    {es : List Expectation} (haccepts : AcceptsAll vs x y) (h : v.Refuses y es) (given : Value) :
    (Check.threaded none given ((vs ++ [v]).map toCheck) x).Refuses es := by
  induction vs generalizing x with
  | nil =>
    obtain rfl : y = x := haccepts
    obtain ⟨hnonempty, r, hr, hes⟩ := h
    have hinvalid : r.isValid ≠ true := by
      rw [Ne, Result.isValid_iff, hes]
      exact hnonempty
    rw [List.nil_append, List.map_singleton, Check.threaded_cons]
    refine Run.refuses_bind hr ?_
    rw [if_neg hinvalid]
    exact Run.refuses_done hnonempty hes
  | cons u vs ih =>
    obtain ⟨z, ⟨r, hr, hvalid, rfl⟩, hvs⟩ := haccepts
    rw [List.cons_append, List.map_cons, Check.threaded_cons]
    refine Run.refuses_bind hr ?_
    rw [if_pos hvalid]
    exact ih hvs

theorem refuses_allOf {vs : List Validator} {v : Validator} {x y : Value} {es : List Expectation}
    (haccepts : AcceptsAll vs x y) (h : v.Refuses y es) :
    (allOf (vs ++ [v]) none false).Refuses x es := by
  rw [Refuses, evaluate_of_unset rfl, allOf, body_conjunction_threading]
  exact refuses_threaded haccepts h x

theorem refuses_and {u v : Validator} {x y : Value} {es : List Expectation}
    (haccepts : u.Accepts x y) (h : v.Refuses y es) : (u.and v).Refuses x es := by
  have hflags : (u.and v).flags = {} := rfl
  rw [Refuses, evaluate_of_unset hflags, body_and]
  exact refuses_threaded ((acceptsAll_singleton u x y).mpr haccepts) h x

theorem refuses_join {vs : List Validator} {v : Validator} {x y : Value} {es : List Expectation}
    (haccepts : AcceptsAll vs x y) (h : v.Refuses y es) :
    (Chain.join false (vs ++ [v])).Refuses x es := by
  match vs with
  | [] =>
    obtain rfl : y = x := haccepts
    exact h
  | [_] => exact refuses_allOf haccepts h
  | _ :: _ :: _ => exact refuses_allOf haccepts h

theorem refuses_withExpectation {v : Validator} {x : Value} {first : Expectation}
    {rest : List Expectation} (h : v.Refuses x (first :: rest)) (e : Expectation) :
    (v.withExpectation e).Refuses x
      [{ e with value := x, code := firstNonEmpty first.code e.code }] := by
  obtain ⟨-, r, hr, hes⟩ := h
  rw [Refuses, withExpectation, evaluate_of_unset rfl, body_replacement, Check.replaced,
    Run.bind_eq]
  refine Run.refuses_bind hr ?_
  rw [hes]
  exact Run.refuses_done (List.cons_ne_nil _ _) rfl

theorem refuses_pivot {find : Value → Except Fault (Option Value)} {x z : Value}
    (hfind : find x = .ok (some z)) {child : Validator} {es : List Expectation}
    (h : child.Refuses z es) (message : String) :
    (Validator.pivot find message child {}).Refuses x es := by
  rw [Refuses, evaluate_of_unset rfl, body_pivot, Check.pivoted, hfind]
  exact h

theorem refuses_coercion {guard : Validator} {x g z : Value} (hguard : guard.Accepts x g)
    {convert : Value → Except String Value} (hconvert : convert x = .ok z) {child : Validator}
    {es : List Expectation} (h : child.Refuses z es) (target : String) :
    (Validator.coercion target guard convert child {}).Refuses x es := by
  obtain ⟨r, hr, hvalid, -⟩ := hguard
  rw [Refuses, evaluate_of_unset rfl, body_coercion, Check.coerced, Run.bind_eq]
  refine Run.refuses_bind hr ?_
  rw [if_pos hvalid, hconvert]
  exact h

/-- A check that can be written refuses what it does not accept, with one expectation. -/
theorem refuses_ofPredicate {p : Predicate} {x : Value} (hrejects : p.accepts x = .ok false)
    (hmessage : p.hasMessage = true) (hpattern : p ≠ .brokenPattern) (message : Option Value) :
    (ofPredicate p message).Refuses x
      [{ message := messageOr message (.str p.message), value := x, code := some p.code.text,
         data := some (p.details x) }] := by
  rw [Refuses, evaluate_ofPredicate_of_rejects hrejects,
    expectation_of_hasMessage hmessage hpattern]
  exact Run.refuses_done (List.cons_ne_nil _ _) rfl

end Validator

/-! ## Messages -/

/-- What becomes of expectations behind a message, if there is one: a single expectation with the
message and the code of the first of them. -/
def Relabelled (label : Option Value) (es es' : List Expectation) : Prop :=
  match label with
  | none => es' = es
  | some text => ∃ e, es' = [e] ∧ e.message = text ∧
      e.code = nonEmpty? (es.head?.bind Expectation.code)

theorem nonEmpty?_nonEmpty? (text : Option String) :
    nonEmpty? (nonEmpty? text) = nonEmpty? text := by
  unfold nonEmpty?
  rw [Option.filter_filter]
  simp

theorem firstNonEmpty_none (text : Option String) : firstNonEmpty text none = nonEmpty? text := by
  unfold firstNonEmpty
  split
  · next h => exact h.symm
  · next h => exact h.symm

/-- Of two messages the outer one is seen. -/
theorem Relabelled.trans {inner outer : Option Value} {es es' es'' : List Expectation}
    (h : Relabelled inner es es') (h' : Relabelled outer es' es'') :
    Relabelled (outer.or inner) es es'' := by
  cases outer with
  | none =>
    obtain rfl : es'' = es' := h'
    exact h
  | some text =>
    obtain ⟨e, rfl, hmessage, hcode⟩ := h'
    refine ⟨e, rfl, hmessage, ?_⟩
    cases inner with
    | none =>
      obtain rfl : es' = es := h
      exact hcode
    | some other =>
      obtain ⟨e', rfl, -, hcode'⟩ := h
      rw [hcode, List.head?_cons, Option.bind_some, hcode', nonEmpty?_nonEmpty?]

namespace Validator

theorem refuses_withMessage {v : Validator} {x : Value} {es : List Expectation}
    (h : v.Refuses x es) (text : Value) :
    ∃ es', (v.withMessage text).Refuses x es' ∧ Relabelled (some text) es es' := by
  cases es with
  | nil => exact absurd rfl h.1
  | cons first rest =>
    refine ⟨_, refuses_withExpectation h { message := text }, _, rfl, rfl, ?_⟩
    exact firstNonEmpty_none first.code

theorem refuses_withMessage? {v : Validator} {x : Value} {es : List Expectation}
    (h : v.Refuses x es) (message : Option Value) :
    ∃ es', (withMessage? message v).Refuses x es' ∧ Relabelled (replacing? message) es es' := by
  unfold withMessage?
  split
  · next text htext =>
    rw [htext]
    exact refuses_withMessage h text
  · next hnone =>
    rw [hnone]
    exact ⟨es, h, rfl⟩

end Validator

namespace Conversion

theorem refuses_inner (c : Conversion) {child : Validator} {z : Value} {es : List Expectation}
    (haccepts : (c.inner .valid).Accepts z z) (h : child.Refuses z es) :
    (c.inner child).Refuses z es := by
  cases c with
  | intSafe =>
    obtain ⟨y, hsafe, hvalid⟩ := (Validator.accepts_and _ _ z z).mp haccepts
    obtain rfl := (Validator.accepts_valid y z).mp hvalid
    exact Validator.refuses_and hsafe h
  | _ => exact h

theorem refuses_apply (c : Conversion) {child : Validator} {x z : Value}
    {es : List Expectation} (hmakes : c.Makes x z) (h : child.Refuses z es)
    (message : Option Value) :
    ∃ es', (c.apply child message).Refuses x es' ∧ Relabelled (replacing? message) es es' := by
  obtain ⟨⟨g, hguard⟩, hconvert, hinner⟩ := (c.makes_iff x z).mp hmakes
  exact Validator.refuses_withMessage?
    (Validator.refuses_coercion hguard hconvert (c.refuses_inner hinner h) c.target) message

end Conversion

/-! ## Wrappers -/

namespace Wrapper

/-- The wrapped validator sees what a value becomes, and what it refuses gets the label. -/
structure Carries (w : Wrapper) (becomes : Value → Value → Prop) (label : Option Value) :
    Prop where
  flags : ∀ {child v}, w child = .ok v → v.flags = {}
  accepts : ∀ {child v}, w child = .ok v → ∀ x y,
    v.Accepts x y ↔ ∃ z, becomes x z ∧ child.Accepts z y
  refuses : ∀ {child v}, w child = .ok v → ∀ {x z es}, becomes x z → child.Refuses z es →
    ∃ es', v.Refuses x es' ∧ Relabelled label es es'

/-- The wrapper puts the label on what the wrapped validator refuses. -/
def PutsLabel (w : Wrapper) (label : Option Value) : Prop :=
  ∃ becomes : Value → Value → Prop, w.Carries becomes label

theorem Carries.around {a b : Wrapper} {M N : Value → Value → Prop} {outer inner : Option Value}
    (ha : a.Carries M outer) (hb : b.Carries N inner) :
    (a.around b).Carries (fun x z => ∃ y, M x y ∧ N y z) (outer.or inner) where
  flags h := by
    obtain ⟨u, -, hu⟩ := exists_of_bind_eq_ok h
    exact ha.flags hu
  accepts h x y := by
    obtain ⟨u, hchild, hu⟩ := exists_of_bind_eq_ok h
    simp only [ha.accepts hu, hb.accepts hchild]
    constructor
    · rintro ⟨w, hw, z, hz, haccepts⟩
      exact ⟨z, ⟨w, hw, hz⟩, haccepts⟩
    · rintro ⟨z, ⟨w, hw, hz⟩, haccepts⟩
      exact ⟨w, hw, z, hz, haccepts⟩
  refuses h := by
    intro x z es hbecomes hrefuses
    obtain ⟨u, hchild, hu⟩ := exists_of_bind_eq_ok h
    obtain ⟨y, hy, hz⟩ := hbecomes
    obtain ⟨es', hes', hinner⟩ := hb.refuses hchild hz hrefuses
    obtain ⟨es'', hes'', houter⟩ := ha.refuses hu hy hes'
    exact ⟨es'', hes'', hinner.trans houter⟩

theorem PutsLabel.around {a b : Wrapper} {outer inner : Option Value} (ha : a.PutsLabel outer)
    (hb : b.PutsLabel inner) : (a.around b).PutsLabel (outer.or inner) := by
  obtain ⟨M, hM⟩ := ha
  obtain ⟨N, hN⟩ := hb
  exact ⟨_, hM.around hN⟩

theorem carries_conversion (c : Conversion) (message : Option Value) :
    Carries (fun v => .ok (c.apply v message)) c.Makes (replacing? message) where
  flags h := by
    obtain rfl := Except.ok.inj h
    exact Builder.flags_apply c _ message
  accepts h := by
    obtain rfl := Except.ok.inj h
    exact c.accepts_apply_iff_makes _ message
  refuses h := by
    obtain rfl := Except.ok.inj h
    exact fun hmakes hrefuses => c.refuses_apply hmakes hrefuses message

theorem carries_pivot (find : Value → Except Fault (Option Value)) (message : String) :
    Carries (fun v => .ok (.pivot find message v {})) (fun x z => find x = .ok (some z)) none where
  flags h := by
    obtain rfl := Except.ok.inj h
    rfl
  accepts h := by
    obtain rfl := Except.ok.inj h
    exact Validator.accepts_pivot find message _
  refuses h := by
    obtain rfl := Except.ok.inj h
    exact fun hfind hrefuses => ⟨_, Validator.refuses_pivot hfind hrefuses message, rfl⟩

theorem carries_defaultTo (substitute : Value) :
    Carries (fun v => .ok (.defaultTo substitute v))
      (fun x z => z = if x.isNull then substitute else x) none where
  flags h := by
    obtain rfl := Except.ok.inj h
    rfl
  accepts h := by
    obtain rfl := Except.ok.inj h
    exact accepts_defaultTo substitute _
  refuses h := by
    obtain rfl := Except.ok.inj h
    rintro x z es rfl hrefuses
    refine ⟨es, ?_, rfl⟩
    rw [Validator.Refuses, Validator.evaluate_of_unset rfl, Validator.defaultTo,
      Validator.body_defaulted]
    exact hrefuses

theorem carries_withMessage (text : Value) :
    Carries (fun v => .ok (v.withMessage text)) (fun x z => z = x) (some text) where
  flags h := by
    obtain rfl := Except.ok.inj h
    rfl
  accepts h x y := by
    obtain rfl := Except.ok.inj h
    rw [exists_eq_left]
    exact Validator.accepts_withExpectation _ _ x y
  refuses h := by
    obtain rfl := Except.ok.inj h
    rintro x z es rfl hrefuses
    exact Validator.refuses_withMessage hrefuses text

theorem putsLabel_pickValues (keys : List Value) :
    PutsLabel (Validator.pickValues keys) none := by
  unfold Validator.pickValues
  cases texts? keys with
  | none =>
    exact ⟨fun _ _ => False,
      { flags := fun h => by cases h
        accepts := fun h => by cases h
        refuses := fun h => by cases h }⟩
  | some texts => exact ⟨_, carries_pivot _ _⟩

theorem carries_pluckAfter (checks : List Validator) (key : Value) :
    Carries (Chain.pluckAfter checks key)
      (fun x z => ∃ y, Validator.AcceptsAll checks x y ∧ Validator.pluck key y = .ok (some z))
      none where
  flags h := by
    obtain rfl := Except.ok.inj h
    rfl
  accepts h x y := by
    obtain rfl := Except.ok.inj h
    rw [Validator.accepts_allOf, Validator.acceptsAll_append]
    simp only [Validator.acceptsAll_singleton, Validator.pluckKey, Validator.accepts_pivot]
    constructor
    · rintro ⟨w, hchecks, z, hpluck, haccepts⟩
      exact ⟨z, ⟨w, hchecks, hpluck⟩, haccepts⟩
    · rintro ⟨z, ⟨w, hchecks, hpluck⟩, haccepts⟩
      exact ⟨w, hchecks, z, hpluck, haccepts⟩
  refuses h := by
    obtain rfl := Except.ok.inj h
    rintro x z es ⟨y, hchecks, hpluck⟩ hrefuses
    exact ⟨es, Validator.refuses_allOf hchecks (Validator.refuses_pivot hpluck hrefuses _), rfl⟩

end Wrapper
end Conform

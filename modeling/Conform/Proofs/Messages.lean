import Conform.Proofs.ChainOrder
import Conform.Proofs.Refusals

/-
  Which message a constraint of a builder reports. A constraint that is added to a chain comes
  behind the ones that are there, so it reports its own expectations whatever messages those have.
  Behind a coercion it also ends up inside everything that has been put around the coercion. So a
  message that was given to the coercion, or for the constraints so far when there was none behind
  the coercion yet, replaces the expectations of all later constraints
  (`constraint_reports_relabelled`). `coercion_message_covers_bound` is a chain where it does.
-/

namespace Conform

namespace Chain

/-- What holds of a chain whose coercion puts a label on what it refuses. -/
structure Ready (c : Chain) (label : Option Value) : Prop where
  collecting : c.collecting = false
  /-- Without a lead and a coercion there is a constraint, and no flags are in the way. -/
  rooted : c.lead = none → c.coercion = none → c.pre ≠ [] ∧ (join false c.pre).flags = {}
  lead : ∀ w, c.lead = some w → w.PutsLabel none
  coercion : ∀ coercion, c.coercion = some coercion → coercion.wrapper.PutsLabel label
  label : c.coercion = none → label = none

namespace Ready

variable {c : Chain} {label : Option Value}

/-- A constraint behind the others: what it refuses is refused by the whole, without what leads to
it, with the label of the coercion. -/
theorem core (h : c.Ready label) {u k k' : Validator} (hk : c.core = .ok k)
    (hk' : (c.add u).core = .ok k') :
    (c.lead = none → k.flags = {} ∧ k'.flags = {}) ∧
      ∀ x y es, k.Accepts x y → u.Refuses y es →
        ∃ es', k'.Refuses x es' ∧ Relabelled label es es' := by
  obtain ⟨pre, post, lead, coercion, collecting⟩ := c
  obtain ⟨rfl, hrooted, -, hcoercion, hlabel⟩ := h
  cases coercion with
  | none =>
    obtain rfl := hlabel rfl
    obtain rfl := Except.ok.inj hk
    obtain rfl := Except.ok.inj hk'
    refine ⟨fun hlead => ?_, fun x y es haccepts hrefuses => ⟨es, ?_, rfl⟩⟩
    · obtain ⟨hpre, hflags⟩ := hrooted hlead rfl
      exact ⟨hflags, Builder.flags_join_append hpre u⟩
    · exact Validator.refuses_join ((Builder.accepts_join pre x y).mp haccepts) hrefuses
  | some coercion =>
    obtain ⟨becomes, hcarries⟩ := hcoercion coercion rfl
    obtain ⟨v, hv, hk⟩ := exists_of_bind_eq_ok hk
    obtain ⟨v', hv', hk'⟩ := exists_of_bind_eq_ok hk'
    have hinner : ∀ x y es, v.Accepts x y → u.Refuses y es →
        ∃ es', v'.Refuses x es' ∧ Relabelled label es es' := by
      intro x y es haccepts hrefuses
      obtain ⟨z, hbecomes, haccepts⟩ := (hcarries.accepts hv x y).mp haccepts
      have hall := (Builder.accepts_join post z y).mp haccepts
      exact hcarries.refuses hv' hbecomes (Validator.refuses_join hall hrefuses)
    have hk : (if coercion.keepsPre && !pre.isEmpty then
        Validator.allOf [join false pre, v] none false else v) = k := Except.ok.inj hk
    have hk' : (if coercion.keepsPre && !pre.isEmpty then
        Validator.allOf [join false pre, v'] none false else v') = k' := Except.ok.inj hk'
    cases hkeeps : coercion.keepsPre && !pre.isEmpty with
    | false =>
      rw [hkeeps] at hk hk'
      obtain rfl := hk
      obtain rfl := hk'
      exact ⟨fun _ => ⟨hcarries.flags hv, hcarries.flags hv'⟩, hinner⟩
    | true =>
      rw [hkeeps] at hk hk'
      obtain rfl := hk
      obtain rfl := hk'
      refine ⟨fun _ => ⟨rfl, rfl⟩, fun x y es haccepts hrefuses => ?_⟩
      -- The constraints on the incoming value come first; they accept it in both validators.
      obtain ⟨z, hpre, haccepts⟩ := (Validator.accepts_allOf _ none x y).mp haccepts
      rw [Validator.acceptsAll_singleton] at haccepts
      obtain ⟨es', hes', hlabel⟩ := hinner z y es haccepts hrefuses
      have hfirst := (Validator.acceptsAll_singleton (join false pre) x z).mpr hpre
      exact ⟨es', Validator.refuses_allOf hfirst hes', hlabel⟩

/-- A constraint behind the others: what it refuses is refused by the whole. -/
theorem build (h : c.Ready label) {u b b' : Validator} (hb : c.build = .ok b)
    (hb' : (c.add u).build = .ok b') :
    b.flags = {} ∧ b'.flags = {} ∧ ∀ x y es, b.Accepts x y → u.Refuses y es →
      ∃ es', b'.Refuses x es' ∧ Relabelled label es es' := by
  obtain ⟨k, hk, hb⟩ := exists_of_bind_eq_ok hb
  obtain ⟨k', hk', hb'⟩ := exists_of_bind_eq_ok hb'
  obtain ⟨hflags, hcore⟩ := h.core hk hk'
  rw [lead_add] at hb'
  cases hlead : c.lead with
  | none =>
    rw [hlead] at hb hb'
    obtain rfl := Except.ok.inj hb
    obtain rfl := Except.ok.inj hb'
    exact ⟨(hflags hlead).1, (hflags hlead).2, hcore⟩
  | some w =>
    rw [hlead] at hb hb'
    obtain ⟨becomes, hcarries⟩ := h.lead w hlead
    refine ⟨hcarries.flags hb, hcarries.flags hb', fun x y es haccepts hrefuses => ?_⟩
    obtain ⟨z, hbecomes, haccepts⟩ := (hcarries.accepts hb x y).mp haccepts
    obtain ⟨es', hes', hlabel⟩ := hcore z y es haccepts hrefuses
    obtain ⟨es'', hes'', hsame⟩ := hcarries.refuses hb' hbecomes hes'
    obtain rfl : es'' = es' := hsame
    exact ⟨es'', hes'', hlabel⟩

/-! ### Operations -/

theorem add (h : c.Ready label) (v : Validator) : (c.add v).Ready label where
  collecting := by rw [Chain.add, collecting_setActive, h.collecting]
  rooted hlead hcoercion := by
    rw [lead_add] at hlead
    rw [coercion_add] at hcoercion
    have hpre : (c.add v).pre = c.pre ++ [v] := by
      simp [Chain.add, Chain.setActive, Chain.active, hcoercion]
    rw [hpre]
    exact ⟨List.append_ne_nil_of_right_ne_nil _ (List.cons_ne_nil _ _),
      Builder.flags_join_append (h.rooted hlead hcoercion).1 v⟩
  lead w hw := h.lead w (by rwa [lead_add] at hw)
  coercion coercion hc := h.coercion coercion (by rwa [coercion_add] at hc)
  label hc := h.label (by rwa [coercion_add] at hc)

theorem setActive_singleton (h : c.Ready label) {v : Validator} (hv : v.flags = {}) :
    (c.setActive [v]).Ready label where
  collecting := by rw [collecting_setActive, h.collecting]
  rooted _ hcoercion := by
    rw [coercion_setActive] at hcoercion
    have hpre : (c.setActive [v]).pre = [v] := by simp [Chain.setActive, hcoercion]
    rw [hpre]
    exact ⟨List.cons_ne_nil _ _, hv⟩
  lead w hw := h.lead w (by rwa [lead_setActive] at hw)
  coercion coercion hc := h.coercion coercion (by rwa [coercion_setActive] at hc)
  label hc := h.label (by rwa [coercion_setActive] at hc)

/-- A wrapper goes around the constraints, or around the coercion if none follow it yet. -/
theorem wrap (h : c.Ready label) {w : Wrapper} {outer : Option Value} (hw : w.PutsLabel outer)
    {c' : Chain} (hc' : c.wrap w = .ok c') :
    c'.Ready (if c.coercion.isSome && c.post.isEmpty then outer.or label else label) := by
  have haround : ∀ d, ((w (join c.collecting c.active)).map fun v => c.setActive [v]) = .ok d →
      d.Ready label := by
    intro d hd
    obtain ⟨v, hv, rfl⟩ := exists_of_map_eq_ok hd
    obtain ⟨becomes, hcarries⟩ := hw
    exact h.setActive_singleton (hcarries.flags hv)
  cases hcoercion : c.coercion with
  | none =>
    rw [wrap_of_coercion_eq_none hcoercion] at hc'
    exact haround c' hc'
  | some coercion =>
    have hactive := active_of_coercion_some hcoercion
    cases hpost : c.post with
    | nil =>
      rw [wrap_of_active_eq_nil hcoercion (hactive.trans hpost)] at hc'
      obtain rfl := Except.ok.inj hc'
      refine { h with rooted := ?_, coercion := ?_, label := ?_ }
      · exact fun _ hnone => by cases hnone
      · rintro coercion' ⟨⟩
        exact hw.around (h.coercion coercion hcoercion)
      · exact fun hnone => by cases hnone
    | cons v vs =>
      have hne : c.active ≠ [] := by
        rw [hactive, hpost]
        exact List.cons_ne_nil v vs
      rw [wrap_of_active_ne_nil hne] at hc'
      exact haround c' hc'

end Ready

/-- The message that is put on what comes behind a coercion, once one with a message of its own has
been installed: next to a custom one the messages of both count, the outer one first; otherwise the
new one takes the place of the other. -/
def coercedLabel (kind : CoercionKind) (message : Option Value) (c : Chain)
    (label : Option Value) : Option Value :=
  match c.coercion with
  | some before =>
    if composes kind before.kind then label.or (replacing? message) else replacing? message
  | none => replacing? message

namespace Ready

variable {c : Chain} {label : Option Value}

theorem coerce (h : c.Ready label) {w : Wrapper} {message : Option Value}
    (hw : w.PutsLabel (replacing? message)) (kind : CoercionKind) (keepsPre : Bool) :
    (c.coerce kind w keepsPre).1.Ready (c.coercedLabel kind message label) := by
  have hinstalled : ∀ {pre : List Validator} {wrapper : Wrapper} {keeps : Bool}
      {inside : Option Value}, wrapper.PutsLabel inside →
      Ready { c with coercion := some ⟨kind, wrapper, keeps⟩, pre := pre, post := [] } inside := by
    intro pre wrapper keeps inside hwrapper
    refine { h with rooted := ?_, coercion := ?_, label := ?_ }
    · exact fun _ hnone => by cases hnone
    · rintro coercion' ⟨⟩
      exact hwrapper
    · exact fun hnone => by cases hnone
  unfold Chain.coerce Chain.coercedLabel
  cases hcoercion : c.coercion with
  | none => exact hinstalled hw
  | some before =>
    simp only
    split
    · exact hinstalled ((h.coercion before hcoercion).around hw)
    · exact hinstalled hw

theorem pluck (h : c.Ready label) {key : Value} {c' : Chain} (hc' : c.pluck key = .ok c') :
    c'.Ready label := by
  unfold Chain.pluck at hc'
  split at hc'
  · cases hc'
  · next hcoercion =>
    obtain rfl := Except.ok.inj hc'
    have hstep : (pluckAfter c.pre key).PutsLabel none := ⟨_, Wrapper.carries_pluckAfter c.pre key⟩
    refine { h with rooted := ?_, lead := ?_ }
    · exact fun hnone => by cases hnone
    · rintro w ⟨⟩
      cases hlead : c.lead with
      | none => exact hstep
      | some lead => exact (h.lead lead hlead).around hstep

end Ready
end Chain

namespace Builder

theorem ready_chain (entry : Entry) (message : Option Value) :
    (entry.chain message).Ready none where
  collecting := rfl
  rooted _ _ := ⟨List.cons_ne_nil _ _, flags_entryGuard entry message⟩
  lead _ h := by cases h
  coercion _ h := by cases h
  label _ := rfl

/-! ## Steps -/

/-- A step of the library's own that puts nothing around a pending negation and does not ask for
all failures. -/
def Step.IsPlain (s : Step) (view : View) : Prop :=
  match s with
  | .wrap _ _ | .custom _ _ | .collectAll => False
  | .explain _ | .defaultTo _ | .normalize _ | .pick _ | .flattenKeys _ => view.negated = false
  | _ => True

/-- The message around the coercion after a step. -/
def Step.label (s : Step) (c : Chain) (label : Option Value) : Option Value :=
  match s with
  | .explain message => if c.coercion.isSome && c.post.isEmpty then some message else label
  | .coerce coercion message _ =>
    if coercion.isInstalled c then label else c.coercedLabel coercion.kind message label
  | .split _ message => c.coercedLabel .custom message label
  | _ => label

/-- Plain steps lead from a view, a chain and the message around its coercion to others. -/
inductive Leads : View → Chain → Option Value → List Step → View → Chain → Option Value → Prop
  | nil (view : View) (c : Chain) (label : Option Value) : Leads view c label [] view c label
  | cons {view next last : View} {c d : Chain} {label label' : Option Value} {s : Step}
      {rest : List Step} (hplain : s.IsPlain view) (hafter : (s.run view c).after = .ok next)
      (hrest : Leads next (s.run view c).chain (s.label c label) rest last d label') :
      Leads view c label (s :: rest) last d label'

theorem Leads.following {view last : View} {c d : Chain} {label label' : Option Value}
    {steps : List Step} (h : Leads view c label steps last d label') :
    following view c steps = .ok (d, last) := by
  induction h with
  | nil => rfl
  | cons _ hafter _ ih =>
    rw [Builder.following, hafter]
    exact ih

theorem ready_wrapChain {c : Chain} {label outer : Option Value} (h : c.Ready label) {w : Wrapper}
    (hw : w.PutsLabel outer) {view next : View} (hview : view.negated = false)
    (hafter : (Step.wrapChain w none view c).after = .ok next) :
    (Step.wrapChain w none view c).chain.Ready
      (if c.coercion.isSome && c.post.isEmpty then outer.or label else label) := by
  unfold Step.wrapChain at hafter ⊢
  rw [map_decorate_plain w hview] at hafter ⊢
  cases hwrap : c.wrap w with
  | error fault =>
    rw [hwrap] at hafter
    cases hafter
  | ok wrapped => exact h.wrap hw hwrap

/-- A plain step keeps the chain ready. -/
theorem ready_take {c : Chain} {label : Option Value} (h : c.Ready label) {s : Step}
    {view next : View} (hplain : s.IsPlain view) (hafter : (s.take view c).after = .ok next) :
    (s.take view c).chain.Ready (s.label c label) := by
  -- A change puts no message around what it changes.
  have hchange : ∀ {w : Wrapper}, w.PutsLabel none → view.negated = false →
      (Step.wrapChain w none view c).after = .ok next →
      (Step.wrapChain w none view c).chain.Ready label := by
    intro w hw hview hafter
    have hready := ready_wrapChain h hw hview hafter
    rwa [Option.none_or, ite_self] at hready
  cases s with
  | negate | nullable | optional => exact h
  | constrain constraint message =>
    rw [Step.take, Step.constrainChain]
    split
    · exact h
    · exact h.add _
  | wrap | custom | collectAll => exact hplain.elim
  | explain message =>
    exact ready_wrapChain h ⟨_, Wrapper.carries_withMessage message⟩ hplain hafter
  | defaultTo substitute => exact hchange ⟨_, Wrapper.carries_defaultTo substitute⟩ hplain hafter
  | normalize n => exact hchange ⟨_, Wrapper.carries_conversion _ none⟩ hplain hafter
  | pick keys => exact hchange (Wrapper.putsLabel_pickValues keys) hplain hafter
  | flattenKeys delimiter => exact hchange ⟨_, Wrapper.carries_pivot _ _⟩ hplain hafter
  | coerce coercion message keepsPre =>
    rw [Step.take, Step.label]
    split
    · exact h
    · exact h.coerce ⟨_, Wrapper.carries_conversion _ message⟩ _ _
  | split separator message =>
    exact h.coerce ⟨_, Wrapper.carries_conversion _ message⟩ _ _
  | pluck key =>
    rw [Step.take]
    cases hpluck : c.pluck key with
    | error fault => exact h
    | ok plucked => exact h.pluck hpluck

theorem Leads.ready {view last : View} {c d : Chain} {label label' : Option Value}
    {steps : List Step} (h : Leads view c label steps last d label') (hready : c.Ready label) :
    d.Ready label' := by
  induction h with
  | nil => exact hready
  | cons hplain hafter _ ih =>
    have htake := Step.run_of_after hafter
    rw [htake] at hafter ih
    exact ih (ready_take hready hplain hafter)

/-! ## What a later constraint reports -/

/-- After plain steps, a constraint that refuses what the chain so far makes of a value is reported
with its own expectations, or, if there is a message around the coercion, with that message. Without
a coercion there is none. The value must not be let pass by a flag. -/
theorem constraint_reports_relabelled {entry : Entry} {entryMessage : Option Value}
    {steps : List Step} {view : View} {c : Chain} {label : Option Value}
    (hleads : Leads entry.view (entry.chain entryMessage) none steps view c label)
    (hnegated : view.negated = false) {constraint : Constraint} {message : Option Value}
    {u : Validator} (hu : constraint.validator? = .ok u) {v w : Validator}
    (hv : (buildSteps entry entryMessage steps).outcome? = some (.ok v))
    (hw : (buildSteps entry entryMessage (steps ++ [.constrain constraint message])).outcome? =
      some (.ok w))
    {x y : Value} (hyields : v.Yields x y) (hseen : v.flags.letPass .plain x = false)
    {es : List Expectation} (hrefuses : (decorate false message u).Refuses y es) :
    (c.coercion = none → label = none) ∧
      ∃ r, (w.validate x true).outcome? = some (.ok r) ∧ Relabelled label es r.expectations := by
  have hready := hleads.ready (ready_chain entry entryMessage)
  refine ⟨hready.label, ?_⟩
  rw [buildSteps_eq_ok_iff, hleads.following] at hv
  rw [buildSteps_eq_ok_iff, following_append, hleads.following] at hw
  have hbuild : view.build c = .ok v := hv
  obtain ⟨b, hb, hbuild⟩ := exists_of_bind_eq_ok hbuild
  obtain rfl := Except.ok.inj hbuild
  obtain ⟨⟨d, last⟩, hfollowing, hw⟩ := exists_of_bind_eq_ok hw
  obtain ⟨next, hafter, hlast⟩ := exists_of_following_cons hfollowing
  obtain ⟨rfl, rfl⟩ := Prod.mk.inj (Except.ok.inj hlast)
  have hadded : (Step.constrain constraint message).take view c =
      { view := { view with negated := false }, chain := c.add (decorate false message u) } := by
    rw [Step.take, Step.constrainChain, hu, hnegated]
  rw [hadded] at hafter hw
  obtain rfl := Except.ok.inj hafter
  obtain ⟨b', hb', hw⟩ := exists_of_bind_eq_ok hw
  obtain rfl := Except.ok.inj hw
  obtain ⟨hflags, hflags', hrefused⟩ := hready.build hb hb'
  rw [Validator.flags_withFlags] at hseen
  -- The flags of the view do not let the value pass, so both validators look at it.
  have hguard : ∀ body : Site → Value → Run Result,
      view.flags.guard body .plain x = body .plain x := by
    intro body
    rw [Flags.guard, hseen]
    rfl
  rw [Validator.yields_iff_accepts, Validator.Accepts, Validator.evaluate_withFlags, hguard,
    ← Validator.evaluate_of_unset hflags] at hyields
  obtain ⟨es', ⟨-, r, hr, rfl⟩, hlabel⟩ := hrefused x y es hyields hrefuses
  refine ⟨r, ?_, hlabel⟩
  rw [Validator.outcome?_validate_eq_ok]
  rw [Validator.evaluate_of_unset hflags', ← hguard b'.body, ← Validator.evaluate_withFlags] at hr
  exact hr

/-- A text that is a whole number, and a message for the case that it is none. -/
def numberText : List Step := [.coerce .int none false, .explain (.str "not a number")]

/-- Behind a coercion a number that is too small is reported not to be a number, although that
message was asked for before there was a bound. Without a coercion the bound has its own message. -/
theorem coercion_message_covers_bound :
    (∃ w r, (buildSteps .string none
        (numberText ++ [.constrain (.related .ge (.int 9)) none])).outcome? = some (.ok w) ∧
      (w.validate (.str "7") true).outcome? = some (.ok r) ∧
      r.expectations.map Expectation.message = [.str "not a number"] ∧
      r.expectations.map Expectation.code = [some Code.rangeOutOfBounds.text]) ∧
    ∃ w r, (buildSteps .int none
        ([.explain (.str "an int")] ++ [.constrain (.related .ge (.int 9)) none])).outcome? =
          some (.ok w) ∧
      (w.validate (.int 7) true).outcome? = some (.ok r) ∧
      r.expectations.map Expectation.message = [.str "greater than or equal to 9"] ∧
      r.expectations.map Expectation.code = [some Code.rangeOutOfBounds.text] := by
  have hshown : (Predicate.related .ge (.int 9)).hasMessage = true := by
    have hnine := Validator.isShowable_int (show 9 < 10 by decide)
    simpa [Predicate.hasMessage, Predicate.shown] using hnine
  have hrefuses := @Validator.refuses_ofPredicate _ (.int 7) rfl hshown (fun h => by cases h) none
  have hbound : (Constraint.related .ge (.int 9)).validator? =
      .ok (.isRelated .ge (.int 9) none) := rfl
  refine ⟨?_, ?_⟩
  · have hleads : Leads Entry.string.view (Entry.string.chain none) none numberText _ _
        (some (.str "not a number")) := .cons trivial rfl (.cons rfl rfl (.nil _ _ _))
    have hw : (buildSteps .string none
        (numberText ++ [.constrain (.related .ge (.int 9)) none])).outcome? = some (.ok _) := rfl
    obtain ⟨v, hv, hyields, hseen⟩ : ∃ v, (buildSteps .string none numberText).outcome? =
        some (.ok v) ∧ v.Yields (.str "7") (.int 7) ∧ v.flags.letPass .plain (.str "7") = false :=
      ⟨_, rfl, ⟨_, rfl, rfl, rfl⟩, rfl⟩
    obtain ⟨-, r, hr, e, hes, hmessage, hcode⟩ :=
      constraint_reports_relabelled hleads rfl hbound hv hw hyields hseen hrefuses
    refine ⟨_, r, hw, hr, ?_, ?_⟩
    · rw [hes, List.map_singleton, hmessage]
    · rw [hes, List.map_singleton, hcode]
      decide
  · have hleads : Leads Entry.int.view (Entry.int.chain none) none [.explain (.str "an int")] _ _
        none := .cons rfl rfl (.nil _ _ _)
    have hw : (buildSteps .int none ([.explain (.str "an int")] ++
        [.constrain (.related .ge (.int 9)) none])).outcome? = some (.ok _) := rfl
    obtain ⟨v, hv, hyields, hseen⟩ : ∃ v, (buildSteps .int none
        [.explain (.str "an int")]).outcome? = some (.ok v) ∧ v.Yields (.int 7) (.int 7) ∧
          v.flags.letPass .plain (.int 7) = false := ⟨_, rfl, ⟨_, rfl, rfl, rfl⟩, rfl⟩
    obtain ⟨-, r, hr, hes⟩ :=
      constraint_reports_relabelled hleads rfl hbound hv hw hyields hseen hrefuses
    obtain hes : r.expectations = _ := hes
    refine ⟨_, r, hw, hr, ?_, ?_⟩
    · rw [hes]
      rfl
    · rw [hes]
      rfl

end Builder
end Conform

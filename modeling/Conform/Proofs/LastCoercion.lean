import Conform.Proofs.ChainOperations
import Conform.Proofs.ChainWrappers
import Conform.Proofs.Refusals
import Conform.Proofs.Targets

/-
  The last coercion that takes effect decides what a builder makes of a value. A step that asks for
  a coercion of the kind that is there already has no effect. Any other one puts itself in place of
  the coercion that is there, or behind it if that one is custom; either way the constraints behind
  it see what it makes. If these leave values as they are, and custom wrappers hand values on
  (`Wrapper.HandsOn`), then every value that comes out is one that the conversion makes
  (`last_coercion_decides`), and if nothing changes values in front of it, it was made of the value
  that came in. `safe_number_after_switch` is a builder of this kind, and
  `coercions_give_less_than_promised` has builders where something else comes out.
-/

namespace Conform

namespace Validator

/-- A value that no flag lets pass is left to the body. -/
theorem accepts_iff_body {v : Validator} {x : Value} (h : v.flags.letPass .plain x = false)
    (y : Value) : v.Accepts x y ↔ (v.body .plain x).Accepts y := by
  rw [Accepts, evaluate, Flags.guard, h]
  rfl

end Validator

namespace Wrapper

/-- What the wrapped validator accepts is all that is accepted, of values that are related to those
that came in. -/
structure HandsOn (w : Wrapper) (M : Value → Value → Prop) : Prop where
  flags : ∀ {v u}, w v = .ok u → u.flags = {}
  accepts : ∀ {v u}, w v = .ok u → ∀ {x y}, u.Accepts x y → ∃ z, M x z ∧ v.Accepts z y

/-- The wrapper hands some value on. -/
def PassesOn (w : Wrapper) : Prop := w.HandsOn fun _ _ => True

variable {w a b : Wrapper} {M N : Value → Value → Prop}

theorem HandsOn.mono (h : w.HandsOn M) (hsub : ∀ x z, M x z → N x z) : w.HandsOn N where
  flags := h.flags
  accepts hu _ _ haccepts := by
    obtain ⟨z, hz, hv⟩ := h.accepts hu haccepts
    exact ⟨z, hsub _ z hz, hv⟩

theorem HandsOn.around (ha : a.HandsOn M) (hb : b.HandsOn N) :
    (a.around b).HandsOn fun x z => ∃ y, M x y ∧ N y z where
  flags h := by
    obtain ⟨m, -, hu⟩ := exists_of_bind_eq_ok h
    exact ha.flags hu
  accepts h _ _ haccepts := by
    obtain ⟨m, hm, hu⟩ := exists_of_bind_eq_ok h
    obtain ⟨y, hy, hmade⟩ := ha.accepts hu haccepts
    obtain ⟨z, hz, hv⟩ := hb.accepts hm hmade
    exact ⟨z, ⟨y, hy, hz⟩, hv⟩

theorem Carries.handsOn {label : Option Value} (h : w.Carries M label) : w.HandsOn M where
  flags := h.flags
  accepts hu x y haccepts := (h.accepts hu x y).mp haccepts

theorem PutsLabel.passesOn {label : Option Value} (h : w.PutsLabel label) : w.PassesOn := by
  obtain ⟨M, hM⟩ := h
  exact hM.handsOn.mono fun _ _ _ => trivial

theorem isClosed_passesOn : IsClosed PassesOn where
  around ha hb := (HandsOn.around ha hb).mono fun _ _ _ => trivial
  conversion c message := PutsLabel.passesOn ⟨_, carries_conversion c message⟩
  defaultTo substitute := PutsLabel.passesOn ⟨_, carries_defaultTo substitute⟩
  pivot find message := PutsLabel.passesOn ⟨_, carries_pivot find message⟩
  pickValues keys := (putsLabel_pickValues keys).passesOn
  pluckAfter checks key := PutsLabel.passesOn ⟨_, carries_pluckAfter checks key⟩
  withMessage text := PutsLabel.passesOn ⟨_, carries_withMessage text⟩

end Wrapper

/-! ## Settled chains -/

namespace Chain

/-- The coercion of the chain gives what the conversion makes of some value to constraints that
leave it as it is. If the chain is plain, this is the value that came in. -/
structure Settled (conversion : Conversion) (plain : Prop) (c : Chain) : Prop where
  lead : ∀ w, c.lead = some w → w.PassesOn
  coercion : ∃ coercion, c.coercion = some coercion ∧
    coercion.wrapper.HandsOn fun x z => ∃ x', conversion.Makes x' z ∧ (plain → x' = x)
  post : ∀ v ∈ c.post, v.KeepsValue
  unled : plain → c.lead = none
  pre : plain → ∀ coercion, c.coercion = some coercion → coercion.keepsPre = true →
    ∀ v ∈ c.pre, v.KeepsValue

namespace Settled

variable {conversion : Conversion} {plain : Prop} {c : Chain}

theorem setActive (h : c.Settled conversion plain) {vs : List Validator}
    (hvs : ∀ v ∈ vs, v.KeepsValue) : (c.setActive vs).Settled conversion plain := by
  obtain ⟨coercion, hcoercion, hhands⟩ := h.coercion
  have hset : c.setActive vs = { c with post := vs } := if_pos (by rw [hcoercion]; rfl)
  rw [hset]
  exact { h with post := hvs }

theorem add (h : c.Settled conversion plain) {v : Validator} (hv : v.KeepsValue) :
    (c.add v).Settled conversion plain := by
  obtain ⟨coercion, hcoercion, -⟩ := h.coercion
  refine h.setActive fun u hu => ?_
  rw [active_of_coercion_some hcoercion, List.mem_append, List.mem_singleton] at hu
  obtain hu | rfl := hu
  · exact h.post u hu
  · exact hv

/-- A message for the constraints so far, or for the coercion. -/
theorem wrap_withMessage (h : c.Settled conversion plain) (text : Value) {c' : Chain}
    (hc' : c.wrap (fun v => .ok (v.withMessage text)) = .ok c') :
    c'.Settled conversion plain := by
  obtain ⟨coercion, hcoercion, hhands⟩ := h.coercion
  have hactive := active_of_coercion_some hcoercion
  cases hpost : c.post with
  | nil =>
    rw [wrap_of_active_eq_nil hcoercion (hactive.trans hpost)] at hc'
    obtain rfl := Except.ok.inj hc'
    refine { h with coercion := ⟨_, rfl, ?_⟩, pre := fun hplain wrapped hwrapped => ?_ }
    · refine ((Wrapper.carries_withMessage text).handsOn.around hhands).mono fun x z hmade => ?_
      obtain ⟨y, rfl, hmakes⟩ := hmade
      exact hmakes
    · obtain rfl := Option.some.inj hwrapped
      exact h.pre hplain coercion hcoercion
  | cons u us =>
    have hne : c.active ≠ [] := by
      rw [hactive, hpost]
      exact List.cons_ne_nil u us
    rw [wrap_of_active_ne_nil hne] at hc'
    obtain ⟨v, hv, rfl⟩ := exists_of_map_eq_ok hc'
    obtain rfl := Except.ok.inj hv
    refine h.setActive fun v hv => ?_
    obtain rfl := List.mem_singleton.mp hv
    rw [hactive]
    intro x y haccepts
    exact Validator.keepsValue_join h.post c.collecting x y
      ((Validator.accepts_withExpectation _ _ x y).mp haccepts)

/-- What a settled chain builds accepts nothing but what the conversion makes. -/
theorem exists_made (h : c.Settled conversion plain) {b : Validator} (hb : c.build = .ok b) :
    b.flags = {} ∧ ∀ x y, b.Accepts x y →
      ∃ x', conversion.Makes x' y ∧ (plain → x' = x) := by
  obtain ⟨coercion, hcoercion, hhands⟩ := h.coercion
  obtain ⟨core, hcore, hb⟩ := exists_of_bind_eq_ok hb
  have hmade : core.flags = {} ∧ ∀ x y, core.Accepts x y →
      ∃ x', conversion.Makes x' y ∧ (plain → x' = x) := by
    rw [Chain.core, hcoercion] at hcore
    obtain ⟨u, hu, hcore⟩ := exists_of_bind_eq_ok hcore
    have hown : ∀ x y, u.Accepts x y → ∃ x', conversion.Makes x' y ∧ (plain → x' = x) := by
      intro x y haccepts
      obtain ⟨z, hz, hpost⟩ := hhands.accepts hu haccepts
      obtain rfl := Validator.keepsValue_join h.post c.collecting z y hpost
      exact hz
    obtain rfl := Except.ok.inj hcore
    split
    · next hkept =>
      have hkeeps : coercion.keepsPre = true := (Bool.and_eq_true_iff.mp hkept).1
      refine ⟨rfl, fun x y haccepts => ?_⟩
      obtain ⟨z, hpre, hlast⟩ := (Validator.accepts_allOf _ none x y).mp haccepts
      obtain ⟨x', hmakes, hsame⟩ := hown z y ((Validator.acceptsAll_singleton u z y).mp hlast)
      refine ⟨x', hmakes, fun hplain => (hsame hplain).trans ?_⟩
      exact Validator.keepsValue_join (h.pre hplain coercion hcoercion hkeeps) _ x z hpre
    · exact ⟨hhands.flags hu, hown⟩
  cases hlead : c.lead with
  | none =>
    rw [hlead] at hb
    obtain rfl := Except.ok.inj hb
    exact hmade
  | some lead =>
    rw [hlead] at hb
    have hpasses := h.lead lead hlead
    refine ⟨hpasses.flags hb, fun x y haccepts => ?_⟩
    obtain ⟨z, -, hinner⟩ := hpasses.accepts hb haccepts
    obtain ⟨x', hmakes, -⟩ := hmade.2 z y hinner
    refine ⟨x', hmakes, fun hplain => ?_⟩
    rw [h.unled hplain] at hlead
    cases hlead

end Settled

theorem hasKind_coerce (kind other : CoercionKind) (w : Wrapper) (keepsPre : Bool) (c : Chain) :
    (c.coerce kind w keepsPre).1.hasKind other = (kind == other) := by
  obtain hcoerced | ⟨before, -, -, hcoerced⟩ := c.coerce_cases kind w keepsPre <;>
    · rw [hcoerced]
      rfl

theorem lead_wrap {c c' : Chain} {w : Wrapper} (h : c.wrap w = .ok c') : c'.lead = c.lead := by
  unfold Chain.wrap at h
  split at h
  · obtain rfl := Except.ok.inj h
    rfl
  · obtain ⟨v, -, hset⟩ := exists_of_bind_eq_ok h
    obtain rfl := Except.ok.inj hset
    exact lead_setActive [v] c

/-- What leads to the value is put together from steps into a map, whatever is put elsewhere. -/
theorem lead_apply {P : Wrapper → Prop} (hP : Wrapper.IsClosed P) {op : Operation} {c d : Chain}
    (h : ∀ w, c.lead = some w → P w) (hop : op.apply c = .ok d) : ∀ w, d.lead = some w → P w := by
  cases op with
  | add v =>
    obtain rfl := Except.ok.inj hop
    rwa [lead_add]
  | wrap w => rwa [lead_wrap hop]
  | coerce kind w keepsPre =>
    obtain rfl := Except.ok.inj hop
    rwa [lead_coerce]
  | collect collecting =>
    obtain rfl := Except.ok.inj hop
    exact h
  | pluck key =>
    have hnone : c.coercion = none := by
      cases hc : c.coercion with
      | none => rfl
      | some coercion =>
        rw [Operation.apply, Chain.pluck, hc] at hop
        cases hop
    have hwrapped : c.Wrapped P := ⟨h, fun coercion hc => by rw [hnone] at hc; cases hc⟩
    exact (hwrapped.pluck hP hop).lead

/-- Nothing of a custom coercion, nor of plucking, stands in front of the constraints. -/
structure Unpivoted (c : Chain) : Prop where
  lead : c.lead = none
  kind : c.hasKind .custom = false

theorem Unpivoted.setActive {c : Chain} (h : c.Unpivoted) (vs : List Validator) :
    (c.setActive vs).Unpivoted where
  lead := (lead_setActive vs c).trans h.lead
  kind := by
    have hkind := h.kind
    unfold hasKind at hkind ⊢
    rwa [coercion_setActive]

theorem Unpivoted.wrap {c c' : Chain} {w : Wrapper} (h : c.Unpivoted) (hc' : c.wrap w = .ok c') :
    c'.Unpivoted where
  lead := (lead_wrap hc').trans h.lead
  kind := by
    have hkind := h.kind
    unfold Chain.wrap at hc'
    split at hc'
    · next coercion hcoercion _ =>
      obtain rfl := Except.ok.inj hc'
      rwa [hasKind_of_coercion_some hcoercion] at hkind
    · obtain ⟨v, -, hset⟩ := exists_of_bind_eq_ok hc'
      obtain rfl := Except.ok.inj hset
      exact (h.setActive [v]).kind

theorem Unpivoted.coerce {c : Chain} (h : c.Unpivoted) {kind : CoercionKind}
    (hkind : (kind == .custom) = false) (w : Wrapper) (keepsPre : Bool) :
    (c.coerce kind w keepsPre).1.Unpivoted where
  lead := (lead_coerce kind w keepsPre c).trans h.lead
  kind := (hasKind_coerce kind .custom w keepsPre c).trans hkind

end Chain

namespace Builder

/-! ## Steps that settle a chain -/

theorem settled_coerce {k : CoercionStep} {c : Chain} (hlead : ∀ w, c.lead = some w → w.PassesOn)
    (hcustom : ∀ coercion, c.coercion = some coercion → coercion.kind = .custom →
      coercion.wrapper.PassesOn) (message : Option Value) (keepsPre : Bool) :
    (c.coerce k.kind (k.wrapper message) keepsPre).1.Settled k.conversion
      (c.Unpivoted ∧ (keepsPre = true → ∀ v ∈ c.pre, v.KeepsValue)) := by
  have hconversion := Wrapper.carries_conversion k.conversion message
  obtain hcoerced | ⟨before, hbefore, hcomposes, hcoerced⟩ :=
    c.coerce_cases k.kind (k.wrapper message) keepsPre
  · rw [hcoerced]
    refine ⟨hlead, ⟨_, rfl, ?_⟩, nofun, fun hplain => hplain.1.lead, ?_⟩
    · exact hconversion.handsOn.mono fun x z hmakes => ⟨x, hmakes, fun _ => rfl⟩
    · rintro ⟨-, hkeeps⟩ coercion hcoercion hkept
      obtain rfl := Option.some.inj hcoercion
      have hpre : (if keepsPre then c.pre else []) = c.pre := if_pos hkept
      change ∀ v ∈ if keepsPre then c.pre else [], v.KeepsValue
      rw [hpre]
      exact hkeeps hkept
  · -- Only behind a custom coercion, so nothing is promised of the value that came in.
    have hkind : before.kind = .custom := by
      unfold Chain.composes at hcomposes
      cases k <;> exact beq_iff_eq.mp hcomposes
    have hpivoted : ¬ c.Unpivoted := by
      intro hunpivoted
      have hother := hunpivoted.kind
      rw [Chain.hasKind_of_coercion_some hbefore, hkind] at hother
      cases hother
    rw [hcoerced]
    refine ⟨hlead, ⟨_, rfl, ?_⟩, nofun, fun hplain => hplain.1.lead,
      fun hplain => absurd hplain.1 hpivoted⟩
    refine ((hcustom before hbefore hkind).around hconversion.handsOn).mono ?_
    rintro x z ⟨y, -, hmakes⟩
    exact ⟨y, hmakes, fun hplain => absurd hplain.1 hpivoted⟩

/-- The step asks for a custom coercion or for a part of a map. -/
def Step.pivots : Step → Bool
  | .custom _ _ | .pluck _ => true
  | _ => false

/-- Without such steps, a builder that offers coercions has a chain without custom ones: the pieces
of a text offer none. -/
theorem unpivoted_run {s : Step} (hs : s.pivots = false) {view next : View} {c : Chain}
    (h : view.subject.offers .coercions = true → c.Unpivoted)
    (hafter : (s.run view c).after = .ok next) (hoffers : next.subject.offers .coercions = true) :
    (s.run view c).chain.Unpivoted := by
  have hsubject := Step.subject_of_after hafter
  have hoffered := Step.offers_of_after hafter
  have hsame : s.target? = none → c.Unpivoted := by
    intro htarget
    have hview : next.subject = view.subject := by
      rw [hsubject, htarget]
    exact h (hview ▸ hoffers)
  have htake := Step.run_of_after hafter
  rw [htake] at hafter ⊢
  cases hwrapping : s.wrapping? with
  | some wrapping =>
    obtain ⟨w, message⟩ := wrapping
    have hunpivoted : c.Unpivoted := by
      refine hsame ?_
      cases s <;> first | rfl | cases hwrapping
    rw [take_of_wrapping hwrapping] at hafter ⊢
    unfold Step.wrapChain at hafter ⊢
    split
    · exact hunpivoted
    · next hwrap => exact hunpivoted.wrap hwrap
  | none =>
    cases s with
    | wrap | explain | defaultTo | normalize | pick | flattenKeys => cases hwrapping
    | custom | pluck => cases hs
    | negate | nullable | optional => exact hsame rfl
    | collectAll => exact ⟨(hsame rfl).lead, (hsame rfl).kind⟩
    | constrain constraint message =>
      rw [Step.take, Step.constrainChain]
      split
      · exact hsame rfl
      · exact (hsame rfl).setActive _
    | coerce coercion message keepsPre =>
      rw [Step.take]
      split
      · exact h hoffered
      · refine (h hoffered).coerce ?_ _ keepsPre
        cases coercion <;> rfl
    | split separator message =>
      have hlist : next.subject = .list := by
        rw [hsubject]
        cases view.subject <;> rfl
      rw [hlist] at hoffers
      cases hoffers

/-! ## Steps behind the last coercion -/

/-- The step adds a constraint that leaves values as they are, or puts nothing around those that
are there but a message, and asks for no coercion that would take effect. -/
def Step.KeepsCoerced (s : Step) (view : View) (c : Chain) : Prop :=
  match s with
  | .negate | .nullable | .optional | .collectAll => True
  | .constrain (.validator v) _ => view.negated = false → v.KeepsValue
  | .constrain _ _ => True
  | .explain _ => view.negated = false
  | .coerce coercion _ _ => coercion.isInstalled c = true
  | _ => False

theorem settled_run {conversion : Conversion} {plain : Prop} {s : Step} {view next : View}
    {c : Chain} (hs : s.KeepsCoerced view c) (h : c.Settled conversion plain)
    (hafter : (s.run view c).after = .ok next) : (s.run view c).chain.Settled conversion plain := by
  have htake := Step.run_of_after hafter
  rw [htake] at hafter ⊢
  cases s with
  | negate | nullable | optional => exact h
  | collectAll => exact { h with }
  | constrain constraint message =>
    rw [Step.take, Step.constrainChain]
    split
    · exact h
    · next v hv =>
      refine h.add (keepsValue_decorate view.negated (fun hplain => ?_) message)
      refine keepsValue_validator? ?_ hv
      rintro own rfl
      exact hs hplain
  | explain message =>
    rw [Step.take] at hafter ⊢
    unfold Step.wrapChain at hafter ⊢
    rw [map_decorate_plain _ hs] at hafter ⊢
    cases hwrap : c.wrap fun v => .ok (v.withMessage message) with
    | error fault =>
      rw [hwrap] at hafter
      cases hafter
    | ok wrapped => exact h.wrap_withMessage message hwrap
  | coerce coercion message keepsPre =>
    have hinstalled : coercion.isInstalled c = true := hs
    rw [Step.take, if_pos hinstalled]
    exact h
  | wrap | defaultTo | normalize | pick | flattenKeys | custom | split | pluck => exact hs.elim

/-! ## Whole builders -/

/-- A coercion that takes effect, and steps behind it that keep what it makes. If the coercion that
is there is custom, custom wrappers hand values on and no negation was put around a coercion. Every
value that the builder gives then has the type that the last coercion promises, unless a flag let it
pass. If no custom coercion and no plucking comes before, and constraints that the coercion keeps
change no value, then a strict coercion was meant for the value that came in. -/
theorem last_coercion_decides {entry : Entry} {entryMessage : Option Value} {before : List Step}
    {view : View} {c : Chain}
    (hbefore : following entry.view (entry.chain entryMessage) before = .ok (c, view))
    (hwraps : c.hasKind .custom = true →
      Along (Step.WrapsIn Wrapper.PassesOn) entry.view (entry.chain entryMessage) before)
    {k : CoercionStep} (htakes : k.isInstalled c = false) {message : Option Value}
    {keepsPre : Bool} {d : Chain} {next : View}
    (hcoerced : following view c [.coerce k message keepsPre] = .ok (d, next))
    {later : List Step} (hlater : Along Step.KeepsCoerced next d later) {v : Validator}
    (hv : (buildSteps entry entryMessage
      (before ++ .coerce k message keepsPre :: later)).outcome? = some (.ok v))
    {x y : Value} (hseen : v.flags.letPass .plain x = false) (hyields : v.Yields x y) :
    k.conversion.Targets y ∧
      ((∀ s ∈ before, s.pivots = false) → (keepsPre = true → ∀ u ∈ c.pre, u.KeepsValue) →
        k.conversion.Takes x) := by
  have hlead : ∀ w, c.lead = some w → w.PassesOn :=
    following_keeps_chain (fun _ _ _ => Chain.lead_apply Wrapper.isClosed_passesOn)
      (show ∀ w, (entry.chain entryMessage).lead = some w → _ from nofun) hbefore
  have hcustom : ∀ coercion, c.coercion = some coercion → coercion.kind = .custom →
      coercion.wrapper.PassesOn := by
    intro coercion hcoercion hkind
    have hhas : c.hasKind .custom = true := by
      rw [Chain.hasKind_of_coercion_some hcoercion, hkind]
      rfl
    have hwrapped := wrapped_following Wrapper.isClosed_passesOn (hwraps hhas) hbefore
    exact hwrapped.coercion coercion hcoercion
  have hd : d = (c.coerce k.kind (k.wrapper message) keepsPre).1 := by
    obtain ⟨after, -, hreached⟩ := exists_of_following_cons hcoerced
    obtain ⟨hchain, -⟩ := Prod.mk.inj (Except.ok.inj hreached)
    rw [← hchain, Step.take, htakes]
    rfl
  -- The coercion settles the chain, and the steps behind it keep it so.
  have hsettled : d.Settled k.conversion
      (c.Unpivoted ∧ (keepsPre = true → ∀ u ∈ c.pre, u.KeepsValue)) := by
    rw [hd]
    exact settled_coerce hlead hcustom message keepsPre
  have hprefix : following entry.view (entry.chain entryMessage)
      (before ++ [.coerce k message keepsPre]) = .ok (d, next) := by
    rw [following_append, hbefore]
    exact hcoerced
  rw [List.append_cons] at hv
  obtain ⟨last, lastView, hfollowing, hbuild⟩ := exists_build_of_append hprefix hv
  have hlast : last.Settled k.conversion _ := following_keeps
    (fun _ _ _ _ hs h hafter => settled_run hs h hafter) hlater hsettled hfollowing
  obtain ⟨b, hb, hbv⟩ := exists_of_bind_eq_ok hbuild
  obtain rfl := Except.ok.inj hbv
  obtain ⟨hflags, hmade⟩ := hlast.exists_made hb
  have haccepts : b.Accepts x y := by
    rw [Validator.yields_iff_accepts, Validator.accepts_iff_body hseen,
      Validator.body_withFlags] at hyields
    rwa [Validator.Accepts, Validator.evaluate_of_unset hflags]
  obtain ⟨x', hmakes, hsame⟩ := hmade x y haccepts
  refine ⟨Conversion.targets_of_makes hmakes, fun hplain hkeeps => ?_⟩
  -- The coercion was offered, so the chain is as the steps before left it.
  have hoffers : view.subject.offers .coercions = true := by
    rw [following] at hcoerced
    obtain ⟨after, hafter, -⟩ := exists_of_bind_eq_ok hcoerced
    exact Step.offers_of_after hafter
  have hunpivoted : view.subject.offers .coercions = true → c.Unpivoted :=
    following_keeps (I := fun view c => view.subject.offers .coercions = true → c.Unpivoted)
      (fun _ _ _ _ hs h hafter => unpivoted_run hs h hafter)
      (along_of_forall (P := fun s => s.pivots = false) hplain _ _) (fun _ => ⟨rfl, rfl⟩) hbefore
  obtain rfl : x' = x := hsame ⟨hunpivoted hoffers, hkeeps⟩
  exact Conversion.takes_of_makes hmakes

/-- The builder gives the second value for the first one, which no flag lets pass. -/
def Gives (entry : Entry) (steps : List Step) (x y : Value) : Prop :=
  ∃ v, (buildSteps entry none steps).outcome? = some (.ok v) ∧
    v.flags.letPass .plain x = false ∧ v.Yields x y

/-- A number that is asked for first, then a whole number that other programs can hold, with a bound
and with a question for a number of the same kind, which is passed over. The same whole number in
a text that is trimmed by a custom coercion. -/
theorem safe_number_after_switch :
    (Gives .string ([.coerce .float none false] ++ .coerce .intSafe none false ::
        [.constrain (.related .ge (.int 9)) none, .coerce .int none false]) (.str "12") (.int 12) ∧
      CoercionStep.intSafe.conversion.Targets (.int 12) ∧
      CoercionStep.intSafe.conversion.Takes (.str "12")) ∧
    Gives .string ([.custom (fun v => .ok (Conversion.trimmed.apply v none)) false] ++
        .coerce .intSafe none false :: []) (.str " 12") (.int 12) ∧
      CoercionStep.intSafe.conversion.Targets (.int 12) := by
  refine ⟨?_, ?_⟩
  · have hgives : Gives .string ([.coerce .float none false] ++ .coerce .intSafe none false ::
        [.constrain (.related .ge (.int 9)) none, .coerce .int none false])
        (.str "12") (.int 12) := ⟨_, rfl, rfl, _, rfl, rfl, rfl⟩
    obtain ⟨v, hv, hseen, hyields⟩ := hgives
    have hbefore : following Entry.string.view (Entry.string.chain none)
        [.coerce .float none false] = .ok (_, _) := rfl
    have hlater : Along Step.KeepsCoerced { subject := .int }
        { coercion := some ⟨.int, CoercionStep.intSafe.wrapper none, false⟩ }
        [.constrain (.related .ge (.int 9)) none, .coerce .int none false] :=
      ⟨trivial, fun _ _ => ⟨rfl, fun _ _ => trivial⟩⟩
    obtain ⟨htargets, htakes⟩ := last_coercion_decides hbefore nofun rfl rfl hlater hv hseen hyields
    exact ⟨⟨v, hv, hseen, hyields⟩, htargets, htakes (List.forall_mem_singleton.mpr rfl) nofun⟩
  · have hgives : Gives .string ([.custom (fun v => .ok (Conversion.trimmed.apply v none)) false] ++
        .coerce .intSafe none false :: []) (.str " 12") (.int 12) :=
      ⟨_, rfl, rfl, _, rfl, rfl, rfl⟩
    obtain ⟨v, hv, hseen, hyields⟩ := hgives
    have hbefore : following Entry.string.view (Entry.string.chain none)
        [.custom (fun v => .ok (Conversion.trimmed.apply v none)) false] = .ok (_, _) := rfl
    have hpasses : Wrapper.PassesOn fun v => .ok (Conversion.trimmed.apply v none) :=
      Wrapper.isClosed_passesOn.conversion .trimmed none
    have hlater : ∀ view c, Along Step.KeepsCoerced view c [] := fun _ _ => trivial
    obtain ⟨htargets, -⟩ := last_coercion_decides hbefore
      (fun _ => ⟨hpasses, fun _ _ => trivial⟩) rfl rfl (hlater _ _) hv hseen hyields
    exact ⟨⟨v, hv, hseen, hyields⟩, htargets⟩

/-- Less than the last coercion promises comes out if there is one of its kind already, if it keeps
constraints that change the value, if a negation was put around the custom coercion that it is
composed with, or if this one hands nothing on. -/
theorem coercions_give_less_than_promised :
    (Gives .string [.coerce .int none false, .coerce .intSafe none false]
        (.str "9007199254740992") (.int 9007199254740992) ∧
      ¬ CoercionStep.intSafe.conversion.Targets (.int 9007199254740992)) ∧
    (Gives .string [.coerce .number none false, .coerce .float none false]
        (.str "1") (.int 1) ∧
      ¬ CoercionStep.float.conversion.Targets (.int 1)) ∧
    (Gives (.typed [.object] none) [.defaultTo (.bool true), .coerce .boolStrict none true]
        .null (.bool true) ∧
      ¬ CoercionStep.boolStrict.conversion.Takes .null) ∧
    (Gives (.typed [.object] none)
        [.custom (fun v => .ok (Conversion.trimmed.apply v none)) false, .negate,
          .explain (.str "no number"), .coerce .int none false] (.str "abc") (.str "abc") ∧
      ¬ CoercionStep.int.conversion.Targets (.str "abc")) ∧
    Gives (.typed [.object] none) [.custom (fun _ => .ok .valid) false, .coerce .int none false]
        (.str "abc") (.str "abc") := by
  have hlarge : ¬ CoercionStep.intSafe.conversion.Targets (.int 9007199254740992) := by
    rintro ⟨n, hn, -, hmax⟩
    obtain rfl := Value.int.inj hn
    omega
  refine ⟨⟨⟨_, rfl, rfl, _, rfl, rfl, rfl⟩, hlarge⟩, ⟨⟨_, rfl, rfl, _, rfl, rfl, rfl⟩, ?_⟩,
    ⟨⟨_, rfl, rfl, _, rfl, rfl, rfl⟩, ?_⟩, ⟨⟨_, rfl, rfl, _, rfl, rfl, rfl⟩, ?_⟩,
    ⟨_, rfl, rfl, _, rfl, rfl, rfl⟩⟩
  · rintro ⟨z, hz⟩
    cases hz
  · rintro (⟨b, hb⟩ | htrue | hfalse)
    · cases hb
    · cases htrue
    · cases hfalse
  · rintro ⟨n, hn⟩
    cases hn

end Builder
end Conform

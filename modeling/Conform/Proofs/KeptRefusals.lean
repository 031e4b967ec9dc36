import Conform.Proofs.ChainWrappers
import Conform.Proofs.Refusals
import Conform.Proofs.StoredConstraints

/-
  What a chain refuses is refused after another coercion that is to keep the constraints so far,
  with the same expectations, apart from what the constraints behind an earlier coercion refuse.
  `Wrapper.KeepsRefusals` says of a wrapper that what it makes of two validators is related in this
  way if the validators are. What builders themselves put around a coercion does so
  (`isClosed_keepsRefusals`); custom wrappers are assumed to, since one that negates does not. The
  coercion is composed with the one that is there, whose constraints are dropped: what is refused
  without them stays refused, and they make no difference any more (`pivot_keeps_refusals`).
  `split_forgets_comma` has a text that was to have a comma.
-/

namespace Conform

namespace Run

theorem exists_of_refuses_bind {α : Type} {run : Run α} {next : α → Run Result}
    {es : List Expectation} (h : (run.bind next).Refuses es) :
    ∃ a, run.outcome? = some (.ok a) ∧ (next a).Refuses es := by
  obtain ⟨hnonempty, r, hr, hes⟩ := h
  obtain ⟨a, ha, hnext⟩ := outcome?_bind_eq_ok.mp hr
  exact ⟨a, ha, hnonempty, r, hnext, hes⟩

theorem not_refuses_success (x given : Value) (es : List Expectation) :
    ¬ (Run.done (.success x given)).Refuses es := by
  rintro ⟨hnonempty, r, hr, hes⟩
  obtain rfl := Except.ok.inj (Option.some.inj hr)
  exact hnonempty hes.symm

/-- The second run refuses if the first one does, with the same expectations. -/
def KeptBy (run other : Run Result) : Prop := ∀ es, run.Refuses es → other.Refuses es

theorem keptBy_bind {α : Type} (run : Run α) {next next' : α → Run Result}
    (h : ∀ a, (next a).KeptBy (next' a)) : (run.bind next).KeptBy (run.bind next') := by
  intro es hrefuses
  obtain ⟨a, ha, hnext⟩ := exists_of_refuses_bind hrefuses
  exact refuses_bind ha (h a es hnext)

end Run

namespace Validator

/-- The second validator refuses what the first one refuses, with the same expectations. -/
def KeptBy (v w : Validator) : Prop := ∀ x, (v.evaluate .plain x).KeptBy (w.evaluate .plain x)

/-- A validator refuses what its flags do not let pass and its body refuses. -/
theorem refuses_iff_body (v : Validator) (x : Value) (es : List Expectation) :
    v.Refuses x es ↔ v.flags.letPass .plain x = false ∧ (v.body .plain x).Refuses es := by
  unfold Refuses evaluate Flags.guard
  split
  · next hpass =>
    rw [hpass]
    exact ⟨fun h => absurd h (Run.not_refuses_success _ _ _), fun h => Bool.noConfusion h.1⟩
  · next hpass => exact ⟨fun h => ⟨Bool.eq_false_iff.mpr hpass, h⟩, fun h => h.2⟩

theorem refuses_of_validate {v : Validator} {x : Value} {r : Result}
    (h : (v.validate x true).outcome? = some (.ok r)) (hinvalid : r.isValid = false) :
    v.Refuses x r.expectations := by
  refine ⟨fun hnone => ?_, r, (outcome?_validate_eq_ok r).mp h, rfl⟩
  rw [Result.isValid_iff.mpr hnone] at hinvalid
  cases hinvalid

theorem Refuses.exists_validate {v : Validator} {x : Value} {es : List Expectation}
    (h : v.Refuses x es) :
    ∃ r, (v.validate x true).outcome? = some (.ok r) ∧ r.expectations = es := by
  obtain ⟨-, r, hr, hes⟩ := h
  exact ⟨r, (outcome?_validate_eq_ok r).mpr hr, hes⟩

/-- The same flags on both make no difference to what the second validator keeps of the first. -/
theorem KeptBy.refuses_withFlags {v w : Validator} (h : v.KeptBy w) {f : Flags} {x : Value}
    (hseen : v.flags.letPass .plain x = false) {es : List Expectation}
    (hrefuses : (v.withFlags f).Refuses x es) : (w.withFlags f).Refuses x es := by
  rw [refuses_iff_body, flags_withFlags, body_withFlags] at hrefuses ⊢
  obtain ⟨hflags, hbody⟩ := hrefuses
  have hkept := h x es ((refuses_iff_body v x es).mpr ⟨hseen, hbody⟩)
  exact ⟨hflags, ((refuses_iff_body w x es).mp hkept).2⟩

theorem keptBy_of_body {v w : Validator} (hw : w.flags = {})
    (h : ∀ x, (v.body .plain x).KeptBy (w.body .plain x)) : v.KeptBy w := by
  intro x es hrefuses
  have hbody := h x es ((refuses_iff_body v x es).mp hrefuses).2
  rwa [evaluate_of_unset hw]

theorem keptBy_valid (w : Validator) : valid.KeptBy w := by
  intro x es hrefuses
  exact absurd ((refuses_iff_body valid x es).mp hrefuses).2 (Run.not_refuses_success _ _ _)

variable {v w : Validator}

theorem keptBy_pivot (h : v.KeptBy w) (find : Value → Except Fault (Option Value))
    (message : String) : (Validator.pivot find message v {}).KeptBy (.pivot find message w {}) := by
  refine keptBy_of_body rfl fun x => ?_
  rw [body_pivot, body_pivot, Check.pivoted, Check.pivoted]
  refine Run.keptBy_bind _ fun found => ?_
  cases found with
  | none => exact fun _ => id
  | some y => exact h y

theorem keptBy_coercion (h : v.KeptBy w) (target : String) (guard : Validator)
    (convert : Value → Except String Value) : (Validator.coercion target guard convert v {}).KeptBy
      (.coercion target guard convert w {}) := by
  refine keptBy_of_body rfl fun x => ?_
  rw [body_coercion, body_coercion, Check.coerced, Check.coerced]
  refine Run.keptBy_bind _ fun r => ?_
  split
  · cases convert x with
    | ok y => exact h y
    | error problem => exact fun _ => id
  · exact fun _ => id

theorem keptBy_defaultTo (h : v.KeptBy w) (substitute : Value) :
    (defaultTo substitute v).KeptBy (defaultTo substitute w) := by
  refine keptBy_of_body rfl fun x => ?_
  rw [defaultTo, defaultTo, body_defaulted, body_defaulted]
  exact h _

theorem keptBy_withExpectation (h : v.KeptBy w) (e : Expectation) :
    (v.withExpectation e).KeptBy (w.withExpectation e) := by
  refine keptBy_of_body rfl fun x es hrefuses => ?_
  rw [withExpectation, body_replacement, Check.replaced, Run.bind_eq] at hrefuses
  obtain ⟨r, hr, hnext⟩ := Run.exists_of_refuses_bind hrefuses
  cases hes : r.expectations with
  | nil =>
    rw [hes] at hnext
    obtain ⟨hnonempty, _, hdone, hnone⟩ := hnext
    obtain rfl := Except.ok.inj (Option.some.inj hdone)
    exact absurd (hnone.symm.trans hes) hnonempty
  | cons first rest =>
    have hv : v.Refuses x (first :: rest) := ⟨List.cons_ne_nil _ _, r, hr, hes⟩
    have hw := refuses_withExpectation (h x _ hv) e
    rw [hes] at hnext
    obtain ⟨-, _, hdone, rfl⟩ := hnext
    obtain rfl := Except.ok.inj (Option.some.inj hdone)
    exact ((refuses_iff_body _ x _).mp hw).2

theorem keptBy_withMessage? (h : v.KeptBy w) (message : Option Value) :
    (withMessage? message v).KeptBy (withMessage? message w) := by
  unfold withMessage?
  split
  · exact keptBy_withExpectation h _
  · exact h

/-! ### Conjunctions -/

/-- A conjunction refuses what its first validator refuses. -/
theorem refuses_threaded_first {u : Validator} {x : Value} {es : List Expectation}
    (h : u.Refuses x es) (given : Value) (cs : List Check) :
    (Check.threaded none given (u.toCheck :: cs) x).Refuses es := by
  obtain ⟨hnonempty, r, hr, rfl⟩ := h
  have hinvalid : r.isValid ≠ true := fun hvalid => hnonempty (Result.isValid_iff.mp hvalid)
  rw [Check.threaded_cons]
  refine Run.refuses_bind hr ?_
  rw [if_neg hinvalid]
  exact Run.refuses_done hnonempty rfl

theorem refuses_of_threaded_single {x given : Value} {es : List Expectation}
    (h : (Check.threaded none given [v.toCheck] x).Refuses es) : v.Refuses x es := by
  rw [Check.threaded_cons] at h
  obtain ⟨r, hr, hnext⟩ := Run.exists_of_refuses_bind h
  split at hnext
  · exact absurd hnext (Run.not_refuses_success _ _ _)
  · obtain ⟨hnonempty, _, hdone, hes⟩ := hnext
    obtain rfl := Except.ok.inj (Option.some.inj hdone)
    exact ⟨hnonempty, r, hr, hes⟩

/-- In a threading conjunction the last validator only counts where the others accept. -/
theorem keptBy_threaded (h : v.KeptBy w) (vs : List Validator) (given x : Value) :
    (Check.threaded none given ((vs ++ [v]).map toCheck) x).KeptBy
      (Check.threaded none given ((vs ++ [w]).map toCheck) x) := by
  induction vs generalizing x with
  | nil =>
    exact fun es hes => refuses_threaded_first (h x es (refuses_of_threaded_single hes)) given []
  | cons u vs ih =>
    rw [List.cons_append, List.cons_append, List.map_cons, List.map_cons, Check.threaded_cons,
      Check.threaded_cons]
    refine Run.keptBy_bind _ fun r => ?_
    split
    · exact ih r.value
    · exact fun _ => id

theorem keptBy_allOf (h : v.KeptBy w) (vs : List Validator) :
    (allOf (vs ++ [v]) none false).KeptBy (allOf (vs ++ [w]) none false) := by
  refine keptBy_of_body rfl fun x => ?_
  rw [allOf, allOf, body_conjunction_threading, body_conjunction_threading]
  exact keptBy_threaded h vs x x

theorem keptBy_and (h : v.KeptBy w) (u : Validator) : (u.and v).KeptBy (u.and w) := by
  have hflags : (u.and w).flags = {} := rfl
  refine keptBy_of_body hflags fun x => ?_
  rw [body_and, body_and]
  exact keptBy_threaded h [u] x x

theorem keptBy_conversion (h : v.KeptBy w) (c : Conversion) (message : Option Value) :
    (c.apply v message).KeptBy (c.apply w message) := by
  have hinner : (c.inner v).KeptBy (c.inner w) := by
    cases c with
    | intSafe => exact keptBy_and h _
    | _ => exact h
  exact keptBy_withMessage? (keptBy_coercion hinner c.target c.guard c.convert) message

end Validator

/-! ## Wrappers -/

namespace Wrapper

/-- The wrapper can go around any validator if it can go around one, and keeps what is refused. -/
structure KeepsRefusals (w : Wrapper) : Prop where
  flags : ∀ {v u}, w v = .ok u → u.flags = {}
  made : ∀ {v u}, w v = .ok u → ∀ v', ∃ u', w v' = .ok u'
  refuses : ∀ {v v' u u'}, w v = .ok u → w v' = .ok u' → v.KeptBy v' → u.KeptBy u'

theorem KeepsRefusals.around {a b : Wrapper} (ha : a.KeepsRefusals) (hb : b.KeepsRefusals) :
    (a.around b).KeepsRefusals where
  flags h := by
    obtain ⟨m, -, hu⟩ := exists_of_bind_eq_ok h
    exact ha.flags hu
  made h v' := by
    obtain ⟨m, hm, hu⟩ := exists_of_bind_eq_ok h
    obtain ⟨m', hm'⟩ := hb.made hm v'
    obtain ⟨u', hu'⟩ := ha.made hu m'
    refine ⟨u', ?_⟩
    rw [Wrapper.around, hm']
    exact hu'
  refuses h h' hkept := by
    obtain ⟨m, hm, hu⟩ := exists_of_bind_eq_ok h
    obtain ⟨m', hm', hu'⟩ := exists_of_bind_eq_ok h'
    exact ha.refuses hu hu' (hb.refuses hm hm' hkept)

theorem keepsRefusals_of_keptBy {f : Validator → Validator} (hflags : ∀ v, (f v).flags = {})
    (h : ∀ {v w : Validator}, v.KeptBy w → (f v).KeptBy (f w)) :
    KeepsRefusals fun v => .ok (f v) where
  flags hu := by
    obtain rfl := Except.ok.inj hu
    exact hflags _
  made _ v' := ⟨f v', rfl⟩
  refuses hu hu' hkept := by
    obtain rfl := Except.ok.inj hu
    obtain rfl := Except.ok.inj hu'
    exact h hkept

theorem isClosed_keepsRefusals : IsClosed KeepsRefusals where
  around := KeepsRefusals.around
  conversion c message := keepsRefusals_of_keptBy (fun v => Builder.flags_apply c v message)
    fun h => Validator.keptBy_conversion h c message
  defaultTo substitute :=
    keepsRefusals_of_keptBy (fun _ => rfl) fun h => Validator.keptBy_defaultTo h substitute
  pivot find message :=
    keepsRefusals_of_keptBy (fun _ => rfl) fun h => Validator.keptBy_pivot h find message
  pickValues keys := by
    unfold Validator.pickValues
    cases texts? keys with
    | none => exact ⟨nofun, nofun, nofun⟩
    | some texts =>
      exact keepsRefusals_of_keptBy (fun _ => rfl) fun h => Validator.keptBy_pivot h _ _
  pluckAfter checks key := keepsRefusals_of_keptBy (fun _ => rfl)
    fun h => Validator.keptBy_allOf (Validator.keptBy_pivot h _ _) checks
  withMessage text :=
    keepsRefusals_of_keptBy (fun _ => rfl) fun h => Validator.keptBy_withExpectation h _

end Wrapper

/-! ## Chains -/

namespace Chain

open Validator

/-- A chain without its constraints on coerced values. -/
def withoutPost (c : Chain) : Chain := { c with post := [] }

theorem keptBy_preceded {v w : Validator} (h : v.KeptBy w) (collecting : Bool)
    (pre : List Validator) :
    (preceded collecting pre v).KeptBy (preceded collecting pre w) := by
  unfold preceded
  split
  · exact h
  · exact keptBy_allOf h [join collecting pre]

/-- The constraints on the incoming value refuse what they refuse in front of others. -/
theorem join_keptBy_preceded (collecting : Bool) (pre : List Validator) (v : Validator) :
    (join collecting pre).KeptBy (preceded collecting pre v) := by
  cases pre with
  | nil => exact keptBy_valid v
  | cons u us =>
    refine fun x es hrefuses => ?_
    have hfirst := refuses_threaded_first hrefuses x [v.toCheck]
    rw [preceded, if_neg (by simp), allOf, evaluate_of_unset rfl, body_conjunction_threading]
    exact hfirst

variable {c : Chain}

/-- Next to a coercion that keeps the constraints on the incoming value, the constraints and the
coercion that are there refuse what they refuse without it. -/
theorem exists_core_keptBy (h : c.Tidy) (hwrapped : c.Wrapped Wrapper.KeepsRefusals) {p : Wrapper}
    {inner : Validator} (hp : p .valid = .ok inner) {b : Validator} (hb : c.core = .ok b) :
    ∃ k k', c.withoutPost.core = .ok k ∧ (c.coerce .custom p true).1.core = .ok k' ∧
      k.KeptBy k' ∧ (c.coercion = none → k = join c.collecting c.pre) ∧
      (c.coercion ≠ none → k.flags = {}) := by
  have hwithout : c.withoutPost.Tidy := ⟨fun _ => rfl, h.pre⟩
  have hcoerced : (c.coerce .custom p true).1.Tidy := h.coerce .custom p true
  rw [hwithout.core_eq_composedCore, hcoerced.core_eq_composedCore]
  rw [h.core_eq_composedCore] at hb
  unfold composedCore at hb ⊢
  unfold Chain.coerce withoutPost
  cases hc : c.coercion with
  | none =>
    refine ⟨join c.collecting c.pre, preceded c.collecting c.pre inner, ?_, ?_,
      join_keptBy_preceded _ _ inner, fun _ => rfl, fun hne => absurd rfl hne⟩
    · dsimp only
      rw [List.append_nil]
    · exact congrArg (Except.map (preceded c.collecting c.pre)) hp
  | some before =>
    rw [hc] at hb
    obtain ⟨made, hmade, -⟩ := exists_of_map_eq_ok hb
    have hkeeps := hwrapped.coercion before hc
    obtain ⟨u, hu⟩ := hkeeps.made hmade .valid
    obtain ⟨u', hu'⟩ := hkeeps.made hmade inner
    have haround : (before.wrapper.around p) .valid = .ok u' := by
      rw [Wrapper.around, hp]
      exact hu'
    have hflags : (preceded c.collecting c.pre u).flags = {} := by
      unfold preceded
      split
      · exact hkeeps.flags hu
      · rfl
    refine ⟨_, _, congrArg (Except.map (preceded c.collecting c.pre)) hu,
      congrArg (Except.map (preceded c.collecting c.pre)) haround, ?_,
      fun hnone => absurd hnone (Option.some_ne_none before), fun _ => hflags⟩
    exact keptBy_preceded (hkeeps.refuses hu hu' (keptBy_valid inner)) c.collecting c.pre

/-- The same of what the chains build, behind what leads to the value. -/
theorem exists_build_keptBy (h : c.Tidy) (hwrapped : c.Wrapped Wrapper.KeepsRefusals) {p : Wrapper}
    {inner : Validator} (hp : p .valid = .ok inner) {b : Validator} (hb : c.build = .ok b) :
    ∃ k k', c.withoutPost.build = .ok k ∧ (c.coerce .custom p true).1.build = .ok k' ∧
      k.KeptBy k' ∧ (c.coercion = none → c.lead = none → k = join c.collecting c.pre) ∧
      ((c.coercion = none → c.lead ≠ none) → k.flags = {}) := by
  obtain ⟨core, hcore, hb⟩ := exists_of_bind_eq_ok hb
  obtain ⟨k, k', hk, hk', hkept, hjoin, hflags⟩ := exists_core_keptBy h hwrapped hp hcore
  unfold Chain.build
  rw [hk, hk', lead_coerce]
  cases hlead : c.lead with
  | none =>
    have hnone : c.withoutPost.lead = none := hlead
    refine ⟨k, k', ?_, rfl, hkept, fun hc _ => hjoin hc, fun hne => hflags fun hc => hne hc rfl⟩
    rw [hnone]
    rfl
  | some lead =>
    rw [hlead] at hb
    have hsome : c.withoutPost.lead = some lead := hlead
    have hkeeps := hwrapped.lead lead hlead
    obtain ⟨u, hu⟩ := hkeeps.made hb k
    obtain ⟨u', hu'⟩ := hkeeps.made hb k'
    refine ⟨u, u', ?_, hu', hkeeps.refuses hu hu' hkept, fun _ => nofun,
      fun _ => hkeeps.flags hu⟩
    rw [hsome]
    exact hu

end Chain

namespace Builder

/-- The custom coercion of a step that is to keep the constraints so far. -/
def Step.keepingPivot? : Step → Option Wrapper
  | .custom w true => some w
  | .split separator message => some fun v => .ok ((Conversion.pieces separator).apply v message)
  | _ => none

/-- Such a step composes its coercion with the one that is there, and goes on with a view of the
same flags. -/
theorem Step.run_keepingPivot {s : Step} {p : Wrapper} (hs : s.keepingPivot? = some p)
    {view : View} (hoffers : view.subject.offers s.feature = true) (c : Chain) :
    (s.run view c).chain = (c.coerce .custom p true).1 ∧
      ∃ next, (s.run view c).after = .ok next ∧ next.flags = view.flags := by
  have hrun : s.run view c = s.take view c := if_pos hoffers
  rw [hrun]
  cases s with
  | custom w keepsPre =>
    cases keepsPre with
    | false => cases hs
    | true =>
      obtain rfl := Option.some.inj hs
      exact ⟨rfl, _, rfl, view.flags_become .generic⟩
  | split separator message =>
    obtain rfl := Option.some.inj hs
    exact ⟨rfl, _, rfl, view.flags_become .list⟩
  | _ => cases hs

/-- The constraints behind the coercion that is there do not matter. -/
theorem coerce_custom_post (p : Wrapper) (c : Chain) (post : List Validator) :
    (Chain.coerce .custom p true { c with post := post }).1 = (c.coerce .custom p true).1 := by
  unfold Chain.coerce
  cases c.coercion with
  | none => rfl
  | some before => rfl

/-- After steps whose custom wrappers keep refusals, and without a negation around a coercion,
another coercion is asked for that is to keep the constraints so far. What these refuse, those
behind an earlier coercion left out, is refused afterwards with the same expectations. The
constraints behind an earlier coercion make no difference any more. If there is no earlier coercion,
nothing was left out; then the value must not be one that a flag of the only constraint lets
pass. -/
theorem pivot_keeps_refusals {entry : Entry} {entryMessage : Option Value} {steps : List Step}
    {view : View} {c : Chain}
    (hfollowing : following entry.view (entry.chain entryMessage) steps = .ok (c, view))
    (halong : Along (Step.WrapsIn Wrapper.KeepsRefusals) entry.view (entry.chain entryMessage)
      steps)
    {v : Validator} (hv : (buildSteps entry entryMessage steps).outcome? = some (.ok v))
    {s : Step} (hoffers : view.subject.offers s.feature = true) {p : Wrapper}
    (hs : s.keepingPivot? = some p) {inner : Validator} (hp : p .valid = .ok inner) :
    ∃ kept w, view.build c.withoutPost = .ok kept ∧
      (buildSteps entry entryMessage (steps ++ [s])).outcome? = some (.ok w) ∧
      (c.post = [] → kept = v) ∧ (c.coercion = none → c.post = []) ∧
      (∀ post, (s.run view { c with post := post }).chain = (s.run view c).chain) ∧
      ∀ x r, (c.coercion = none → c.lead = none →
          (Chain.join c.collecting c.pre).flags.letPass .plain x = false) →
        (kept.validate x true).outcome? = some (.ok r) → r.isValid = false →
        ∃ r', (w.validate x true).outcome? = some (.ok r') ∧ r'.expectations = r.expectations := by
  have htidy : c.Tidy := following_keeps_chain (fun _ _ _ h hop => h.apply hop)
    (Draft.tidy_start entry entryMessage) hfollowing
  have hwrapped : c.Wrapped Wrapper.KeepsRefusals :=
    wrapped_following Wrapper.isClosed_keepsRefusals halong hfollowing
  rw [buildSteps_eq_ok_iff, hfollowing] at hv
  have hbuild : view.build c = .ok v := hv
  obtain ⟨b, hb, hbv⟩ := exists_of_bind_eq_ok hbuild
  obtain ⟨k, k', hk, hk', hkept, hjoin, hflags⟩ := c.exists_build_keptBy htidy hwrapped hp hb
  obtain ⟨hchain, next, hnext, hsame⟩ := s.run_keepingPivot hs hoffers c
  have hwithout : view.build c.withoutPost = .ok (k.withFlags view.flags) := by
    unfold View.build
    rw [hk]
    rfl
  have hafter : (buildSteps entry entryMessage (steps ++ [s])).outcome? =
      some (.ok (k'.withFlags view.flags)) := by
    have hreached : following entry.view (entry.chain entryMessage) (steps ++ [s]) =
        .ok ((c.coerce .custom p true).1, next) := by
      rw [following_append, hfollowing, ← hchain]
      change following view c [s] = _
      rw [following, hnext]
      rfl
    rw [buildSteps_eq_ok_iff, hreached, ← hsame]
    change next.build _ = _
    rw [View.build, hk']
    rfl
  refine ⟨_, _, hwithout, hafter, fun hpost => ?_, htidy.post, fun post => ?_, ?_⟩
  · have hnothing : c.withoutPost = c := by
      rw [Chain.withoutPost, ← hpost]
    rw [hnothing, hbuild] at hwithout
    exact (Except.ok.inj hwithout).symm
  · rw [hchain, (s.run_keepingPivot hs hoffers _).1]
    exact coerce_custom_post p c post
  · intro x r hseen hr hinvalid
    have hown : k.flags.letPass .plain x = false := by
      by_cases hjoined : c.coercion = none ∧ c.lead = none
      · rw [hjoin hjoined.1 hjoined.2]
        exact hseen hjoined.1 hjoined.2
      · rw [hflags fun hnone hlead => hjoined ⟨hnone, hlead⟩]
        exact Flags.letPass_unset _ _
    have hrefuses := Validator.refuses_of_validate hr hinvalid
    exact (hkept.refuses_withFlags hown hrefuses).exists_validate

def withComma : Step := .constrain (.contains (.str ",")) none

/-- The pieces of a text between commas. -/
def commaSplit : Step := .split (.str ",") none

/-- A text without a comma is refused before it is split as it was without that. The text of a truth
value is not: nothing is left of the constraint, and only the coercion still refuses values. -/
theorem split_forgets_comma :
    (∃ v w r r', (buildSteps .string none [withComma]).outcome? = some (.ok v) ∧
      (buildSteps .string none ([withComma] ++ [commaSplit])).outcome? = some (.ok w) ∧
      (v.validate (.str "a;b") true).outcome? = some (.ok r) ∧ r.isValid = false ∧
      (w.validate (.str "a;b") true).outcome? = some (.ok r') ∧
      r'.expectations = r.expectations) ∧
    ∃ v w r r', (buildSteps .bool none [.coerce .str none false, withComma]).outcome? =
        some (.ok v) ∧
      (buildSteps .bool none ([.coerce .str none false, withComma] ++ [commaSplit])).outcome? =
        some (.ok w) ∧
      (v.isValid (.bool true)).outcome? = some (.ok false) ∧
      (w.isValid (.bool true)).outcome? = some (.ok true) ∧
      ((Conversion.str.apply .valid none).validate .null true).outcome? = some (.ok r) ∧
      (w.validate .null true).outcome? = some (.ok r') ∧ r'.expectations = r.expectations := by
  have hsplit : commaSplit.keepingPivot? = some _ := rfl
  refine ⟨?_, ?_⟩
  · obtain ⟨v, hv, r, hr, hinvalid⟩ : ∃ v, (buildSteps .string none [withComma]).outcome? =
        some (.ok v) ∧ ∃ r, (v.validate (.str "a;b") true).outcome? = some (.ok r) ∧
          r.isValid = false := ⟨_, rfl, _, rfl, rfl⟩
    have hfollowing : following Entry.string.view (Entry.string.chain none) [withComma] =
        .ok (_, _) := rfl
    obtain ⟨kept, w, -, hw, hsame, hpost, -, hrefuses⟩ := pivot_keeps_refusals hfollowing
      ⟨trivial, fun _ _ => trivial⟩ hv rfl hsplit rfl
    obtain rfl := hsame rfl
    obtain ⟨r', hr', hes⟩ := hrefuses (.str "a;b") r (fun _ _ => rfl) hr hinvalid
    exact ⟨_, w, r, r', hv, hw, hr, hinvalid, hr', hes⟩
  · obtain ⟨v, hv, hrefused⟩ : ∃ v, (buildSteps .bool none
        [.coerce .str none false, withComma]).outcome? = some (.ok v) ∧
          (v.isValid (.bool true)).outcome? = some (.ok false) := ⟨_, rfl, rfl⟩
    obtain ⟨r, hr, hinvalid⟩ : ∃ r, ((Conversion.str.apply .valid none).validate .null
        true).outcome? = some (.ok r) ∧ r.isValid = false := ⟨_, rfl, rfl⟩
    have hfollowing : following Entry.bool.view (Entry.bool.chain none)
        [.coerce .str none false, withComma] = .ok (_, _) := rfl
    obtain ⟨kept, w, hkept, hw, -, -, -, hrefuses⟩ := pivot_keeps_refusals hfollowing
      ⟨trivial, fun _ _ => ⟨trivial, fun _ _ => trivial⟩⟩ hv rfl hsplit rfl
    obtain rfl : Conversion.str.apply .valid none = kept := Except.ok.inj hkept
    obtain ⟨r', hr', hes⟩ := hrefuses .null r nofun hr hinvalid
    have hplain : (buildSteps .bool none
        ([.coerce .str none false, withComma] ++ [commaSplit])).outcome? =
        some (.ok (Conversion.str.apply ((Conversion.pieces (.str ",")).apply .valid none) none)) :=
      rfl
    have haccepted : (w.isValid (.bool true)).outcome? = some (.ok true) := by
      rw [← Except.ok.inj (Option.some.inj (hplain.symm.trans hw))]
      rfl
    exact ⟨v, w, r, r', hv, hw, hrefused, haccepted, hr, hr', hes⟩

end Builder
end Conform

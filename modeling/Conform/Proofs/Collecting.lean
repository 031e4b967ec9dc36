import Conform.Proofs.Alike
import Conform.Proofs.ChainOrder

/-
  What it means for a builder that it reports all failures. The chain is asked for once, but heeded
  whenever it combines several validators: when a wrapper goes around them, and when the validator
  is built. From then on all of them see the value that comes in, and the value stays as it is
  (`collectAll_keeps_answers`). So the same values are accepted, with the same results, as without
  the request if everything that is combined leaves values as they are. A normalizer, a default or
  a map pivot that is combined with a constraint does not (`collectAll_skips_changes`).
-/

namespace Conform.Builder

/-- Whether the step asks for all failures. -/
def Step.isCollectAll : Step → Bool
  | .collectAll => true
  | _ => false

/-- The steps without those that ask for all failures. -/
def withoutCollecting (steps : List Step) : List Step := steps.filter fun s => !s.isCollectAll

/-- If the step has a collecting chain combine validators, then these keep values. A wrapper is not
negated, and one of the user's makes alike validators of alike ones. -/
def Step.Fits (s : Step) (view : View) (c : Chain) : Prop :=
  match s with
  | .wrap w _ => view.negated = false ∧ w.IsUniform ∧ c.KeepsJoined c.active
  | .explain _ | .defaultTo _ | .normalize _ | .pick _ | .flattenKeys _ =>
    view.negated = false ∧ c.KeepsJoined c.active
  | .custom w _ => w.IsUniform
  | _ => True

/-- Whatever a collecting chain combines, during the steps or in the end, keeps values. -/
def CombinesKeeping (view : View) (c : Chain) : List Step → Prop
  | [] => c.KeepsJoined c.pre ∧ c.KeepsJoined c.post
  | s :: rest => s.Fits view c ∧ ∀ next, (s.take view c).after = .ok next →
      CombinesKeeping next (s.take view c).chain rest

/-! ## Steps on alike chains -/

theorem alike_chain (entry : Entry) (message : Option Value) :
    (entry.chain message).Alike (entry.chain message) where
  pre := Validator.allAlike_refl _
  post := Validator.allAlike_refl _
  lead := .none
  coercion := .none
  collecting := rfl

/-- The outcomes go on with the same view, or fail in the same way, and have alike chains. -/
structure Outcome.Alike (o p : Outcome) : Prop where
  after : p.after = o.after
  chain : o.chain.Alike p.chain

theorem alike_wrapChain {c d : Chain} (h : c.Alike d) {w : Wrapper} (hw : w.IsUniform)
    (message : Option Value) {view : View} (hview : view.negated = false)
    (hkeeps : d.KeepsJoined d.active) :
    (Step.wrapChain w message view c).Alike (Step.wrapChain w message view d) := by
  have hdecorated : Wrapper.IsUniform fun v => (w v).map (decorate view.negated message) := by
    rw [hview]
    exact fun v v' hv => (hw v v' hv).map fun _ _ h => h.withMessage? message
  have hwrap := h.wrap hdecorated hkeeps
  unfold Step.wrapChain
  cases hc : c.wrap _ <;> cases hd : d.wrap _ <;> rw [hc, hd] at hwrap
  · obtain rfl := hwrap
    exact ⟨rfl, h⟩
  · exact hwrap.elim
  · exact hwrap.elim
  · exact ⟨rfl, hwrap⟩

theorem alike_constrainChain {c d : Chain} (h : c.Alike d) (constraint : Constraint)
    (message : Option Value) (view : View) :
    (Step.constrainChain constraint message view c).Alike
      (Step.constrainChain constraint message view d) := by
  unfold Step.constrainChain
  split
  · exact ⟨rfl, h⟩
  · exact ⟨rfl, h.add _⟩

theorem alike_installCoercion {c d : Chain} (h : c.Alike d) {w : Wrapper} (hw : w.IsUniform)
    (kind : CoercionKind) (keepsPre : Bool) (target : Subject) (view : View) :
    (Step.installCoercion kind w keepsPre target view c).Alike
      (Step.installCoercion kind w keepsPre target view d) :=
  ⟨rfl, h.coerce hw kind keepsPre⟩

theorem isInstalled_of_alike {c d : Chain} (h : c.Alike d) (coercion : CoercionStep) :
    coercion.isInstalled d = coercion.isInstalled c := by
  rw [CoercionStep.isInstalled, CoercionStep.isInstalled, h.hasKind, h.hasKind]

/-- A step takes alike chains to alike ones. -/
theorem alike_take {c d : Chain} (h : c.Alike d) {s : Step} {view : View} (hfits : s.Fits view d)
    (hs : s.isCollectAll = false) : (s.take view c).Alike (s.take view d) := by
  cases s with
  | negate | nullable | optional => exact ⟨rfl, h⟩
  | constrain constraint message => exact alike_constrainChain h constraint message view
  | wrap w message => exact alike_wrapChain h hfits.2.1 message hfits.1 hfits.2.2
  | explain message =>
    exact alike_wrapChain h (Wrapper.isUniform_withMessage message) none hfits.1 hfits.2
  | defaultTo substitute =>
    exact alike_wrapChain h (Wrapper.isUniform_defaultTo substitute) none hfits.1 hfits.2
  | normalize n =>
    exact alike_wrapChain h (Wrapper.isUniform_conversion _ none) none hfits.1 hfits.2
  | pick keys => exact alike_wrapChain h (Wrapper.isUniform_pickValues keys) none hfits.1 hfits.2
  | flattenKeys delimiter =>
    exact alike_wrapChain h (Wrapper.isUniform_pivot _ _) none hfits.1 hfits.2
  | collectAll => cases hs
  | coerce coercion message keepsPre =>
    rw [Step.take, Step.take, isInstalled_of_alike h]
    split
    · exact ⟨rfl, h⟩
    · exact alike_installCoercion h (Wrapper.isUniform_conversion _ message) _ _ _ view
  | custom w keepsPre => exact alike_installCoercion h hfits _ _ _ view
  | split separator message =>
    exact alike_installCoercion h (Wrapper.isUniform_conversion _ message) _ _ _ view
  | pluck key =>
    have hpluck := h.pluck key
    rw [Step.take, Step.take]
    cases hc : c.pluck key <;> cases hd : d.pluck key <;> rw [hc, hd] at hpluck
    · obtain rfl := hpluck
      exact ⟨rfl, h⟩
    · exact hpluck.elim
    · exact hpluck.elim
    · exact ⟨rfl, hpluck⟩

theorem alike_run {c d : Chain} (h : c.Alike d) {s : Step} {view : View} (hfits : s.Fits view d)
    (hs : s.isCollectAll = false) : (s.run view c).Alike (s.run view d) := by
  unfold Step.run
  split
  · exact alike_take h hfits hs
  · exact ⟨rfl, h⟩

/-- Every builder offers to report all failures, which does not change the parts of its chain. -/
theorem run_collectAll (view : View) (c : Chain) :
    Step.run .collectAll view c = { view := view, chain := { c with collecting := true } } := rfl

/-- Steps with and without the requests for all failures lead to alike chains. -/
theorem following_alike {steps : List Step} {view : View} {c d : Chain} (h : c.Alike d)
    (hkeeps : CombinesKeeping view d steps) :
    Agree (fun reached other => other.2 = reached.2 ∧ reached.1.Alike other.1 ∧
        other.1.KeepsJoined other.1.pre ∧ other.1.KeepsJoined other.1.post)
      (following view c (withoutCollecting steps)) (following view d steps) := by
  induction steps generalizing view c d with
  | nil => exact ⟨rfl, h, hkeeps⟩
  | cons s rest ih =>
    obtain ⟨hfits, hrest⟩ := hkeeps
    cases hs : s.isCollectAll with
    | true =>
      obtain rfl : s = .collectAll := by cases s <;> first | rfl | cases hs
      have hcollecting : c.Alike { d with collecting := true } := { h with }
      have hskip : withoutCollecting (.collectAll :: rest) = withoutCollecting rest := rfl
      rw [hskip, following, run_collectAll]
      exact ih hcollecting (hrest view rfl)
    | false =>
      have hkeep : withoutCollecting (s :: rest) = s :: withoutCollecting rest := by
        rw [withoutCollecting, List.filter_cons_of_pos (by rw [hs]; rfl)]
        rfl
      have hrun := alike_run h hfits hs
      rw [hkeep, following, following, hrun.after]
      cases hafter : (s.run view c).after with
      | error fault => rfl
      | ok next =>
        have hafter' := hrun.after.trans hafter
        rw [← Step.run_of_after hafter'] at hrest
        exact ih hrun.chain (hrest next hafter')

/-! ## What is built -/

/-- The validators that are built with and without the requests accept the same values and make
the same of them. -/
theorem built_alike {entry : Entry} {message : Option Value} {steps : List Step}
    (hkeeps : CombinesKeeping entry.view (entry.chain message) steps) :
    Agree (fun v w => ∀ x y, w.Accepts x y ↔ v.Accepts x y)
      ((following entry.view (entry.chain message) (withoutCollecting steps)).bind fun reached =>
        reached.2.build reached.1)
      ((following entry.view (entry.chain message) steps).bind fun reached =>
        reached.2.build reached.1) := by
  refine (following_alike (alike_chain entry message) hkeeps).bind fun reached other halike => ?_
  obtain ⟨hview, hchain, hpre, hpost⟩ := halike
  rw [hview]
  exact (hchain.build hpre hpost).bind fun v w hv => hv.accepts_withFlags reached.2.flags

/-! ## Steps that only check -/

/-- A constraint that keeps values, a coercion, a step into a map, or a flag. -/
def Step.Checks : Step → Prop
  | .constrain (.validator v) _ => v.KeepsValue
  | .wrap _ _ | .explain _ | .defaultTo _ | .custom _ _ | .normalize _ | .pick _
  | .flattenKeys _ => False
  | _ => True

/-- The constraints of the chain keep values. -/
structure Keeps (c : Chain) : Prop where
  pre : ∀ v ∈ c.pre, v.KeepsValue
  post : ∀ v ∈ c.post, v.KeepsValue

theorem Keeps.add {c : Chain} (h : Keeps c) {v : Validator} (hv : v.KeepsValue) :
    Keeps (c.add v) := by
  have hadded : ∀ vs : List Validator, (∀ u ∈ vs, u.KeepsValue) →
      ∀ u ∈ vs ++ [v], u.KeepsValue := by
    intro vs hvs u hu
    obtain hu | hu := List.mem_append.mp hu
    · exact hvs u hu
    · rwa [List.mem_singleton.mp hu]
  unfold Chain.add Chain.setActive Chain.active
  split
  · exact ⟨h.pre, hadded _ h.post⟩
  · exact ⟨hadded _ h.pre, h.post⟩

theorem Keeps.coerce {c : Chain} (h : Keeps c) (kind : CoercionKind) (w : Wrapper)
    (keepsPre : Bool) : Keeps (c.coerce kind w keepsPre).1 := by
  have hnone : ∀ v ∈ ([] : List Validator), v.KeepsValue := fun _ hv =>
    absurd hv List.not_mem_nil
  have hpre : ∀ v ∈ (if keepsPre then c.pre else []), v.KeepsValue := by
    split
    · exact h.pre
    · exact hnone
  unfold Chain.coerce
  split
  · split
    · exact ⟨h.pre, hnone⟩
    · exact ⟨hpre, hnone⟩
  · exact ⟨hpre, hnone⟩

theorem keeps_chain (entry : Entry) (message : Option Value) : Keeps (entry.chain message) := by
  refine ⟨fun v hv => ?_, fun v hv => absurd hv List.not_mem_nil⟩
  obtain rfl := List.mem_singleton.mp hv
  exact Validator.keepsValue_withMessage? (keepsValue_guard entry) message

/-- After a step that only checks, the constraints keep values. -/
theorem Keeps.take {c : Chain} (h : Keeps c) {s : Step} (hs : s.Checks) (view : View) :
    Keeps (s.take view c).chain := by
  cases s with
  | negate | nullable | optional | collectAll => exact ⟨h.pre, h.post⟩
  | constrain constraint message =>
    rw [Step.take, Step.constrainChain]
    split
    · exact h
    · next v hv =>
      have hown : ∀ u, constraint = .validator u → u.KeepsValue := by
        rintro u rfl
        exact hs
      exact h.add (keepsValue_decorate _ (fun _ => keepsValue_validator? hown hv) message)
  | wrap | explain | defaultTo | custom | normalize | pick | flattenKeys => exact hs.elim
  | coerce coercion message keepsPre =>
    rw [Step.take]
    split
    · exact h
    · exact h.coerce _ _ _
  | split separator message => exact h.coerce _ _ _
  | pluck key =>
    cases hc : c.pluck key with
    | error fault =>
      rw [Step.take, hc]
      exact h
    | ok plucked =>
      rw [Step.take, hc]
      unfold Chain.pluck at hc
      split at hc
      · cases hc
      · obtain rfl := Except.ok.inj hc
        exact ⟨fun v hv => absurd hv List.not_mem_nil, h.post⟩

theorem Step.fits_of_checks {s : Step} (hs : s.Checks) (view : View) (c : Chain) :
    s.Fits view c := by
  cases s with
  | wrap | explain | defaultTo | custom | normalize | pick | flattenKeys => exact hs.elim
  | _ => trivial

/-- Where all steps only check, everything that is combined keeps values. -/
theorem combinesKeeping_of_checks {steps : List Step} (hchecks : ∀ s ∈ steps, s.Checks)
    {view : View} {c : Chain} (h : Keeps c) : CombinesKeeping view c steps := by
  induction steps generalizing view c with
  | nil => exact ⟨fun _ _ => h.pre, fun _ _ => h.post⟩
  | cons s rest ih =>
    obtain ⟨hs, hrest⟩ := List.forall_mem_cons.mp hchecks
    exact ⟨Step.fits_of_checks hs view c, fun next _ => ih hrest (h.take hs view)⟩

/-! ## With and without the request -/

/-- Several validators that a collecting chain combines all see the value that comes in, which stays
as it is. If whatever it combines keeps values, which holds where the steps are nothing but
constraints, coercions and steps into maps, then the request for all failures changes neither
whether a validator is built, nor which values it accepts, nor what it makes of them. -/
theorem collectAll_keeps_answers (entry : Entry) (message : Option Value) (steps : List Step) :
    (∀ vs x y, 2 ≤ vs.length →
      ((Chain.join true vs).Accepts x y ↔ y = x ∧ ∀ v ∈ vs, ∃ z, v.Accepts x z)) ∧
    ((∀ s ∈ steps, s.Checks) → CombinesKeeping entry.view (entry.chain message) steps) ∧
    (CombinesKeeping entry.view (entry.chain message) steps →
      ((∃ v, (buildSteps entry message steps).outcome? = some (.ok v)) ↔
        ∃ v, (buildSteps entry message (withoutCollecting steps)).outcome? = some (.ok v)) ∧
      ∀ v w, (buildSteps entry message steps).outcome? = some (.ok v) →
        (buildSteps entry message (withoutCollecting steps)).outcome? = some (.ok w) →
        ∀ x y, v.Yields x y ↔ w.Yields x y) := by
  refine ⟨fun vs x y hlength => ?_, fun hchecks => ?_, fun hkeeps => ⟨?_, ?_⟩⟩
  · match vs, hlength with
    | u :: v :: vs, _ => exact Validator.accepts_collecting (u :: v :: vs) none x y
  · exact combinesKeeping_of_checks hchecks (keeps_chain entry message)
  · simp only [buildSteps_eq_ok_iff]
    constructor
    · rintro ⟨v, hv⟩
      obtain ⟨w, hw, -⟩ := (built_alike hkeeps).exists_of_ok_right hv
      exact ⟨w, hw⟩
    · rintro ⟨w, hw⟩
      obtain ⟨v, hv, -⟩ := (built_alike hkeeps).exists_of_ok hw
      exact ⟨v, hv⟩
  · intro v w hv hw x y
    rw [buildSteps_eq_ok_iff] at hv hw
    have hsame := built_alike hkeeps
    rw [hv, hw] at hsame
    rw [Validator.yields_iff_accepts, Validator.yields_iff_accepts]
    exact hsame x y

/-- A text that is long enough and is trimmed, all failures being reported. -/
def trimmedText : List Step :=
  [.constrain (.minLength (.int 1)) none, .collectAll, .normalize .trim]

/-- The text is trimmed with and without the request: only checks are combined before. -/
theorem trimmedText_yields :
    CombinesKeeping Entry.string.view (Entry.string.chain none) trimmedText ∧
      ∃ v w, (buildSteps .string none trimmedText).outcome? = some (.ok v) ∧
        (buildSteps .string none (withoutCollecting trimmedText)).outcome? = some (.ok w) ∧
        v.Yields (.str " a ") (.str "a") ∧ w.Yields (.str " a ") (.str "a") := by
  have hkeeps : CombinesKeeping Entry.string.view (Entry.string.chain none) trimmedText := by
    refine ⟨trivial, fun bounded hbounded => ?_⟩
    obtain rfl := Except.ok.inj hbounded
    refine ⟨trivial, fun collecting hcollecting => ?_⟩
    obtain rfl := Except.ok.inj hcollecting
    have hchecked := (keeps_chain .string none).add
      (Validator.keepsValue_length [.isRelated .ge (.int 1) none] none)
    refine ⟨⟨rfl, fun _ _ => hchecked.pre⟩, fun trimmed htrimmed => ?_⟩
    obtain rfl := Except.ok.inj htrimmed
    exact ⟨fun _ hlength => absurd hlength (Nat.not_succ_le_self 1),
      fun _ hlength => absurd hlength (Nat.not_succ_le_zero 1)⟩
  have hsame := (collectAll_keeps_answers .string none trimmedText).2.2 hkeeps
  have hplain : ∃ w, (buildSteps .string none (withoutCollecting trimmedText)).outcome? =
      some (.ok w) ∧ w.Yields (.str " a ") (.str "a") := ⟨_, rfl, _, rfl, rfl, rfl⟩
  obtain ⟨w, hw, hyields⟩ := hplain
  obtain ⟨v, hv⟩ := hsame.1.mpr ⟨w, hw⟩
  exact ⟨hkeeps, v, w, hv, hw, (hsame.2 v w hv hw _ _).mpr hyields, hyields⟩

/-- Combined with a normalizer, a constraint no longer sees the changed text, and the change is
lost: a text that is too short once it has been trimmed is accepted, and one that is long enough
comes out as it went in. -/
theorem collectAll_skips_changes :
    ∃ v w, (buildSteps .string none
        [.collectAll, .normalize .trim, .constrain (.minLength (.int 2)) none]).outcome? =
          some (.ok v) ∧
      (buildSteps .string none
        [.normalize .trim, .constrain (.minLength (.int 2)) none]).outcome? = some (.ok w) ∧
      v.Yields (.str " a ") (.str " a ") ∧ (∀ y, ¬ w.Yields (.str " a ") y) ∧
      v.Yields (.str " ab ") (.str " ab ") ∧ w.Yields (.str " ab ") (.str "ab") := by
  refine ⟨_, _, rfl, rfl, ?_, ?_, ?_, ?_⟩
  · exact ⟨_, rfl, rfl, rfl⟩
  · intro y haccepts
    have hlinks := @accepts_build_links .string none
      [.change (.normalize .trim), .constrain false (.minLength (.int 2)) none]
      (by simp [Link.KeepsValue]) _ rfl
    obtain ⟨htrim, -, hholds⟩ := (hlinks _ _).mp ((Validator.yields_iff_accepts _ _ _).mp haccepts)
    obtain rfl : .str "a" = y := Option.some.inj htrim
    have hlength := hholds _ (List.mem_cons_of_mem _ List.mem_cons_self) _ rfl
    obtain ⟨-, size, hsize, z, hbound⟩ := (Validator.accepts_length _ none _ _).mp hlength
    obtain rfl := Option.some.inj hsize
    rw [Validator.acceptsAll_singleton, Validator.isRelated,
      Validator.accepts_ofPredicate] at hbound
    exact Bool.false_ne_true (Except.ok.inj hbound.1)
  · exact ⟨_, rfl, rfl, rfl⟩
  · exact ⟨_, rfl, rfl, rfl⟩

end Conform.Builder

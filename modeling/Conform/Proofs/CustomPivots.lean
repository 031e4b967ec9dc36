import Conform.Proofs.Acceptance
import Conform.Proofs.BuilderRun
import Conform.Proofs.ChainLinks

/-
  What becomes of a custom coercion when other coercions come behind it. The first of them is
  composed with it, but the chain then has the kind of the later one. Constraints, and coercions
  that this kind leaves as they are, do not look at what the coercion of a chain does
  (`run_coerced`); a coercion of another kind puts itself in place of the whole
  (`following_switched`).
  So the custom coercion acts first up to the first change of kind, and not at all after it
  (`pivot_lasts_until_switch`). `pivot_of_number_lost` has a builder for each of the two cases.
-/

namespace Conform.Builder

namespace Step

/-- The step adds a constraint, negated or not, or asks for a coercion that keeps no constraint on
the incoming value. -/
def ConstrainsOrCoerces : Step → Prop
  | .negate | .constrain _ _ => True
  | .coerce _ _ keepsPre => keepsPre = false
  | _ => False

/-- Whether the step leaves a coercion of the given kind in its place. -/
def leaves (kind : CoercionKind) : Step → Bool
  | .coerce coercion _ _ => kind == coercion.kind || (coercion == .number && kind == .int)
  | _ => true

end Step

/-- The chain with a coercion that has kept no constraint, and constraints behind it. -/
def coerced (kind : CoercionKind) (w : Wrapper) (post : List Validator) : Chain :=
  { coercion := some ⟨kind, w, false⟩, post := post }

/-! ## Steps behind a coercion -/

/-- What a step makes of a chain with a coercion, as far as this does not depend on what the
coercion does: the constraints behind it and the view to go on with, which has the same flags. -/
structure Continues (s : Step) (kind : CoercionKind) (view : View) (post post' : List Validator)
    (after : Except Fault View) : Prop where
  flags : ∀ next, after = .ok next → next.flags = view.flags
  chain : ∀ w, (s.run view (coerced kind w post)).chain = coerced kind w post'
  after : ∀ w, (s.run view (coerced kind w post)).after = after

/-- A step that leaves the coercion in its place does the same whatever the coercion does. -/
theorem run_coerced {s : Step} (hs : s.ConstrainsOrCoerces) {kind : CoercionKind}
    (hleaves : s.leaves kind = true) (view : View) (post : List Validator) :
    ∃ post' after, Continues s kind view post post' after := by
  have hfailed : ∀ (fault : Fault) (next : View), .error fault = Except.ok next →
      next.flags = view.flags := by
    rintro fault next ⟨⟩
  by_cases hoffers : view.subject.offers s.feature = true
  · have hrun : ∀ w, s.run view (coerced kind w post) = s.take view (coerced kind w post) :=
      fun w => if_pos hoffers
    cases s with
    | negate =>
      refine ⟨post, .ok { view with negated := true }, ?_, fun w => ?_, fun w => ?_⟩
      · rintro next ⟨⟩
        rfl
      · rw [hrun]
        rfl
      · rw [hrun]
        rfl
    | constrain constraint message =>
      cases hu : constraint.validator? with
      | error fault =>
        refine ⟨post, .error fault, hfailed fault, fun w => ?_, fun w => ?_⟩ <;>
          · rw [hrun, Step.take, Step.constrainChain, hu]
            rfl
      | ok u =>
        refine ⟨post ++ [decorate view.negated message u], .ok { view with negated := false }, ?_,
          fun w => ?_, fun w => ?_⟩
        · rintro next ⟨⟩
          rfl
        · rw [hrun, Step.take, Step.constrainChain, hu]
          rfl
        · rw [hrun, Step.take, Step.constrainChain, hu]
          rfl
    | coerce coercion message keepsPre =>
      have hinstalled : ∀ w, coercion.isInstalled (coerced kind w post) = true := fun w => hleaves
      refine ⟨post, .ok ((view.become? coercion.subject).getD view), ?_, fun w => ?_, fun w => ?_⟩
      · rintro next ⟨⟩
        exact view.flags_become coercion.subject
      · rw [hrun, Step.take, if_pos (hinstalled w)]
      · rw [hrun, Step.take, if_pos (hinstalled w)]
        rfl
    | _ => exact hs.elim
  · have hrun : ∀ w, s.run view (coerced kind w post) =
        Step.failed view (coerced kind w post) .noSuchMember := fun w => if_neg hoffers
    refine ⟨post, .error .noSuchMember, hfailed _, fun w => ?_, fun w => ?_⟩ <;>
      · rw [hrun]
        rfl

/-- A coercion of another kind takes the place of the one that is there. -/
theorem following_switched {s : Step} (hs : s.ConstrainsOrCoerces) {kind : CoercionKind}
    (hkind : kind ≠ .custom) (hleaves : s.leaves kind = false) (view : View)
    (post : List Validator) (rest : List Step) (w w' : Wrapper) :
    following view (coerced kind w post) (s :: rest) =
      following view (coerced kind w' post) (s :: rest) := by
  cases s with
  | coerce coercion message keepsPre =>
    have hreplaces : Chain.composes coercion.kind kind = false := by
      have hcustom : (kind == CoercionKind.custom) = false := beq_eq_false_iff_ne.mpr hkind
      unfold Chain.composes
      rw [hcustom]
      cases coercion <;> rfl
    have hinstalled : ∀ w, coercion.isInstalled (coerced kind w post) = false := fun w => hleaves
    have hrun : ∀ u, (Step.coerce coercion message keepsPre).take view (coerced kind u post) =
        { view := view
          chain := coerced coercion.kind (coercion.wrapper message) []
          next := .ok (view.become? coercion.subject)
          log := [Chain.coercionRecord coercion.kind (some ⟨kind, w, false⟩) false] } := by
      intro u
      obtain rfl : keepsPre = false := hs
      rw [Step.take, hinstalled, Step.installCoercion, Chain.coerce]
      simp only [coerced, hreplaces]
      rfl
    rw [following, following]
    unfold Step.run
    split
    · rw [hrun, hrun]
    · rfl
  | negate | constrain => cases hleaves
  | _ => exact hs.elim

/-! ## Runs -/

/-- Steps that leave the coercion in its place lead to the same constraints and the same view
whatever the coercion does. -/
theorem following_leaving {steps : List Step} (hsteps : ∀ s ∈ steps, s.ConstrainsOrCoerces)
    {kind : CoercionKind} (hleaves : ∀ s ∈ steps, s.leaves kind = true) (view : View)
    (post : List Validator) :
    ∃ answer : Except Fault (List Validator × View),
      (∀ reached, answer = .ok reached → reached.2.flags = view.flags) ∧
      ∀ w, following view (coerced kind w post) steps =
        answer.map fun reached => (coerced kind w reached.1, reached.2) := by
  induction steps generalizing view post with
  | nil =>
    refine ⟨.ok (post, view), ?_, fun w => rfl⟩
    rintro reached ⟨⟩
    rfl
  | cons s steps ih =>
    rw [List.forall_mem_cons] at hsteps hleaves
    obtain ⟨post', after, hflags, hchain, hafter⟩ := run_coerced hsteps.1 hleaves.1 view post
    cases after with
    | error fault =>
      refine ⟨.error fault, nofun, fun w => ?_⟩
      rw [following, hafter]
      rfl
    | ok next =>
      obtain ⟨answer, hlast, hanswer⟩ := ih hsteps.2 hleaves.2 next post'
      refine ⟨answer, fun reached hreached => ?_, fun w => ?_⟩
      · rw [hlast reached hreached, hflags next rfl]
      · rw [following, hafter, hchain, ← hanswer]
        rfl

/-- Once there was a coercion of another kind, it makes no difference what the first one did. -/
theorem following_switching {steps : List Step} (hsteps : ∀ s ∈ steps, s.ConstrainsOrCoerces)
    {kind : CoercionKind} (hkind : kind ≠ .custom)
    (hswitches : ∃ s ∈ steps, s.leaves kind = false) (view : View) (post : List Validator)
    (w w' : Wrapper) :
    following view (coerced kind w post) steps = following view (coerced kind w' post) steps := by
  induction steps generalizing view post with
  | nil =>
    obtain ⟨s, hs, -⟩ := hswitches
    cases hs
  | cons s steps ih =>
    rw [List.forall_mem_cons] at hsteps
    cases hleaves : s.leaves kind with
    | false => exact following_switched hsteps.1 hkind hleaves view post steps w w'
    | true =>
      obtain ⟨post', after, -, hchain, hafter⟩ := run_coerced hsteps.1 hleaves view post
      have hrest : ∃ s ∈ steps, s.leaves kind = false := by
        obtain ⟨switch, hmem, hswitch⟩ := hswitches
        refine ⟨switch, (List.mem_cons.mp hmem).resolve_left ?_, hswitch⟩
        rintro rfl
        rw [hleaves] at hswitch
        cases hswitch
      rw [following, following, hafter, hafter, hchain, hchain]
      cases after with
      | error fault => rfl
      | ok next => exact ih hsteps.2 hrest next post'

/-- The validator of a chain with a coercion. -/
theorem build_coerced (view : View) (kind : CoercionKind) (w : Wrapper) (post : List Validator) :
    view.build (coerced kind w post) =
      (w (Chain.join false post)).map fun v => v.withFlags view.flags := by
  simp only [View.build, Chain.build, Chain.core, coerced]
  cases w (Chain.join false post) <;> rfl

/-! ## Whole builders -/

theorem CoercionStep.kind_ne_custom (coercion : CoercionStep) : coercion.kind ≠ .custom := by
  cases coercion <;> exact nofun

/-- A custom coercion right after the entry, and one of the others behind it. -/
theorem following_pivot {entry : Entry} (hoffers : entry.subject.offers .coercions = true)
    (entryMessage : Option Value) (p : Wrapper) (coercion : CoercionStep)
    (message : Option Value) (rest : List Step) :
    following entry.view (entry.chain entryMessage)
        (.custom p false :: .coerce coercion message false :: rest) =
      following { subject := coercion.subject }
        (coerced coercion.kind (p.around (coercion.wrapper message)) []) rest := by
  have hcustom : ∀ steps, following entry.view (entry.chain entryMessage)
      (.custom p false :: steps) =
        following { subject := .generic } (coerced .custom p []) steps := by
    intro steps
    cases entry with
    | list | iterable => cases hoffers
    | _ => rfl
  rw [hcustom]
  cases coercion <;> rfl

/-- The coercion on its own, on any value. -/
theorem following_own (types : List TypeName) (name : Option String) (entryMessage : Option Value)
    (coercion : CoercionStep) (message : Option Value) (rest : List Step) :
    following (Entry.typed types name).view ((Entry.typed types name).chain entryMessage)
        (.coerce coercion message false :: rest) =
      following { subject := coercion.subject }
        (coerced coercion.kind (coercion.wrapper message) []) rest := by
  cases coercion <;> rfl

/-- A custom coercion after the entry of a builder, a coercion behind it, and steps that add
constraints or ask for other coercions. If none of these changes the kind of the coercion, then the
builder gives what the same coercion and steps give on their own, put into the custom coercion. If
one of them does, then it gives what they give on their own, and the custom coercion is gone. -/
theorem pivot_lasts_until_switch {entry : Entry}
    (hoffers : entry.subject.offers .coercions = true) (entryMessage ownMessage : Option Value)
    (types : List TypeName) (name : Option String) (p : Wrapper) (coercion : CoercionStep)
    (message : Option Value) {rest : List Step} (hrest : ∀ s ∈ rest, s.ConstrainsOrCoerces) :
    ((∀ s ∈ rest, s.leaves coercion.kind = true) → ∀ built,
      (buildSteps entry entryMessage
          (.custom p false :: .coerce coercion message false :: rest)).outcome? =
        some (.ok built) ↔
      ∃ v u, (buildSteps (.typed types name) ownMessage
          (.coerce coercion message false :: rest)).outcome? = some (.ok v) ∧
        p v = .ok u ∧ built = u.withFlags {}) ∧
    ((∃ s ∈ rest, s.leaves coercion.kind = false) → ∀ built,
      (buildSteps entry entryMessage
          (.custom p false :: .coerce coercion message false :: rest)).outcome? =
        some (.ok built) ↔
      (buildSteps (.typed types name) ownMessage
          (.coerce coercion message false :: rest)).outcome? = some (.ok built)) := by
  simp only [buildSteps_eq_ok_iff, following_pivot hoffers, following_own]
  refine ⟨fun hleaves built => ?_, fun hswitches built => ?_⟩
  · obtain ⟨answer, hflags, hanswer⟩ :=
      following_leaving hrest hleaves { subject := coercion.subject } []
    rw [hanswer, hanswer]
    cases answer with
    | error fault => exact ⟨nofun, fun ⟨_, _, h, _⟩ => nomatch h⟩
    | ok reached =>
      obtain ⟨post, view⟩ := reached
      have hflags : view.flags = {} := hflags _ rfl
      -- What a conversion makes has no flags, so the custom coercion sees it as it is.
      have hown : view.build (coerced coercion.kind (coercion.wrapper message) post) =
          .ok (coercion.conversion.apply (Chain.join false post) message) := by
        rw [build_coerced, hflags, ← flags_apply coercion.conversion _ message]
        exact congrArg Except.ok (Validator.withFlags_flags _)
      have hpivot : view.build (coerced coercion.kind (p.around (coercion.wrapper message)) post) =
          (p (coercion.conversion.apply (Chain.join false post) message)).map
            fun u => u.withFlags {} := by
        rw [build_coerced, hflags]
        rfl
      change view.build _ = _ ↔ ∃ v u, view.build _ = _ ∧ _
      rw [hpivot, hown]
      constructor
      · intro hbuilt
        obtain ⟨u, hu, rfl⟩ := exists_of_map_eq_ok hbuilt
        exact ⟨_, u, rfl, hu, rfl⟩
      · rintro ⟨v, u, hv, hu, rfl⟩
        obtain rfl := Except.ok.inj hv
        rw [hu]
        rfl
  · rw [following_switching hrest coercion.kind_ne_custom hswitches _ []
      (p.around (coercion.wrapper message)) (coercion.wrapper message)]

/-- What a map has under a key, as a custom coercion. -/
def numberUnder : Wrapper := fun v => .ok (.pluckKey (.str "n") v)

/-- A whole number under a key with a bound is looked for under the key. As soon as it is a number
with a point that is asked for instead, the map itself would have to be one. -/
theorem pivot_of_number_lost :
    (buildSteps .map none [.custom numberUnder false, .coerce .int none false,
        .constrain (.related .ge (.int 9)) none]).outcome? =
      some (.ok (.pluckKey (.str "n") (Conversion.int.apply (.isRelated .ge (.int 9) none) none))) ∧
    (buildSteps .map none [.custom numberUnder false, .coerce .int none false,
        .coerce .float none false]).outcome? =
      some (.ok (Conversion.float.apply .valid none)) ∧
    ((Conversion.float.apply .valid none).isValid (.map [(.str "n", .str "12")])).outcome? =
      some (.ok false) := by
  have hoffers : Entry.map.subject.offers .coercions = true := rfl
  obtain ⟨hkept, -⟩ := pivot_lasts_until_switch hoffers none none [.object] none numberUnder .int
    none (List.forall_mem_singleton.mpr
      (show (Step.constrain (.related .ge (.int 9)) none).ConstrainsOrCoerces from trivial))
  obtain ⟨-, hlost⟩ := pivot_lasts_until_switch hoffers none none [.object] none numberUnder .int
    none (List.forall_mem_singleton.mpr
      (show (Step.coerce .float none false).ConstrainsOrCoerces from rfl))
  refine ⟨?_, ?_, rfl⟩
  · refine (hkept (List.forall_mem_singleton.mpr rfl) _).mpr ⟨_, _, ?_, rfl, rfl⟩
    rfl
  · exact (hlost ⟨_, List.mem_singleton_self _, rfl⟩ _).mpr rfl

end Conform.Builder

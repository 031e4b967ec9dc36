import Conform.Proofs.ChainLinks

/-
  The order in which the steps of a builder act. `validate_arranges_changes`: a change that was
  asked for later acts earlier. The changes after the first constraint behind a coercion act on what
  the coercion makes, those before it on the value that comes in, and all constraints check what
  comes out in the end. `changes_act_in_reverse`: the order in which the steps were taken
  would give other results.
-/

namespace Conform.Builder

/-! ## From steps to links -/

theorem Change.take_step (t : Change) (view : View) (c : Chain) :
    t.step.take view c = Step.wrapChain t.wrapper none view c := by
  cases t <;> rfl

/-- A view that neither negates nor lets values pass. -/
def View.IsPlain (view : View) : Prop := view.negated = false ∧ view.flags = {}

theorem onChain_of_wrapChain {t : Change} {view next : View} {c : Chain} (hplain : view.IsPlain)
    (h : (Step.wrapChain t.wrapper none view c).after = .ok next) :
    c.wrap t.wrapper = .ok (Step.wrapChain t.wrapper none view c).chain ∧ next.IsPlain := by
  unfold Step.wrapChain at h ⊢
  rw [map_decorate_plain t.wrapper hplain.1] at h ⊢
  -- A wrapper that fails leaves the chain as it was, so the cases are told apart first.
  cases hwrap : c.wrap t.wrapper with
  | error fault =>
    rw [hwrap] at h
    cases h
  | ok wrapped =>
    rw [hwrap] at h
    obtain rfl := Except.ok.inj h
    exact ⟨rfl, rfl, hplain.2⟩

theorem onChain_of_constrainChain {constraint : Constraint} {message : Option Value}
    {view next : View} {c : Chain} (hflags : view.flags = {})
    (h : (Step.constrainChain constraint message view c).after = .ok next) :
    (Link.constrain view.negated constraint message).onChain c =
      .ok (Step.constrainChain constraint message view c).chain ∧ next.IsPlain := by
  unfold Step.constrainChain at h ⊢
  rw [Link.onChain]
  cases hv : constraint.validator? with
  | error fault =>
    rw [hv] at h
    cases h
  | ok v =>
    rw [hv] at h
    obtain rfl := Except.ok.inj h
    exact ⟨rfl, rfl, hflags⟩

theorem onChain_of_following {link : Link} {view view' : View} {c c' : Chain}
    (hplain : view.IsPlain) (h : following view c link.steps = .ok (c', view')) :
    link.onChain c = .ok c' ∧ view'.IsPlain := by
  match link with
  | .change t =>
    obtain ⟨next, hafter, h⟩ := exists_of_following_cons h
    obtain ⟨rfl, rfl⟩ := Prod.mk.inj (Except.ok.inj h)
    rw [Change.take_step] at hafter ⊢
    exact onChain_of_wrapChain hplain hafter
  | .constrain false constraint message =>
    obtain ⟨next, hafter, h⟩ := exists_of_following_cons h
    obtain ⟨rfl, rfl⟩ := Prod.mk.inj (Except.ok.inj h)
    have hlink := onChain_of_constrainChain hplain.2 hafter
    rw [hplain.1] at hlink
    exact hlink
  | .constrain true constraint message =>
    obtain ⟨negating, hnegating, h⟩ := exists_of_following_cons h
    obtain ⟨next, hafter, h⟩ := exists_of_following_cons h
    obtain ⟨rfl, rfl⟩ := Prod.mk.inj (Except.ok.inj h)
    obtain rfl := Except.ok.inj hnegating
    have hflags : View.flags { view with negated := true } = {} := hplain.2
    exact onChain_of_constrainChain hflags hafter

/-- The steps for links put the links on the chain. -/
theorem onChains_of_following {links : List Link} {view view' : View} {c c' : Chain}
    (hplain : view.IsPlain) (h : following view c (links.flatMap Link.steps) = .ok (c', view')) :
    onChains links c = .ok c' ∧ view'.IsPlain := by
  induction links generalizing view c with
  | nil =>
    obtain ⟨rfl, rfl⟩ := Prod.mk.inj (Except.ok.inj h)
    exact ⟨rfl, hplain⟩
  | cons link links ih =>
    rw [List.flatMap_cons, following_append] at h
    obtain ⟨reached, hlink, h⟩ := exists_of_bind_eq_ok h
    obtain ⟨honChain, hplain⟩ := onChain_of_following hplain hlink
    rw [onChains_cons, honChain]
    exact ih hplain h

theorem isPlain_view (entry : Entry) : entry.view.IsPlain := ⟨rfl, rfl⟩

def entryGuard (entry : Entry) (message : Option Value) : Validator :=
  decorate false message entry.guard

theorem accepts_entryGuard (entry : Entry) (message : Option Value) (x y : Value) :
    (entryGuard entry message).Accepts x y ↔ entry.guard.Accepts x y :=
  Validator.accepts_withMessage? message entry.guard x y

theorem keepsValue_guard (entry : Entry) : entry.guard.KeepsValue := by
  have htype : ∃ p, entry.guard = .ofPredicate p none := by cases entry <;> exact ⟨_, rfl⟩
  obtain ⟨p, hp⟩ := htype
  intro x y h
  rw [hp, Validator.accepts_ofPredicate] at h
  exact h.2

theorem flags_entryGuard (entry : Entry) (message : Option Value) :
    (entryGuard entry message).flags = {} := by
  have hguard : entry.guard.flags = {} := by cases entry <;> rfl
  unfold entryGuard decorate Validator.withMessage?
  split
  · rfl
  · exact hguard

/-- The chain of a builder with a coercion after its entry, given its wrapper, and constraints
behind it. -/
def coercedChain (entry : Entry) (entryMessage : Option Value) (coercion : CoercionStep)
    (keepsPre : Bool) (w : Wrapper) (ws : List Validator) : Chain where
  pre := if keepsPre then [entryGuard entry entryMessage] else []
  post := ws
  coercion := some ⟨coercion.kind, w, keepsPre⟩

theorem isPlain_become {view : View} (h : view.IsPlain) (target : Subject) :
    ((view.become? target).getD view).IsPlain := by
  unfold View.become?
  split
  · exact h
  · exact ⟨rfl, h.2⟩

/-- There is no coercion yet behind an entry, so the first one is installed. -/
theorem take_coerce (entry : Entry) (entryMessage : Option Value) (coercion : CoercionStep)
    (message : Option Value) (keepsPre : Bool) :
    (Step.coerce coercion message keepsPre).take entry.view (entry.chain entryMessage) =
      Step.installCoercion coercion.kind (coercion.wrapper message) keepsPre coercion.subject
        entry.view (entry.chain entryMessage) := by
  cases coercion <;> rfl

theorem following_coerce {entry : Entry} {entryMessage : Option Value} {coercion : CoercionStep}
    {message : Option Value} {keepsPre : Bool} {rest : List Step} {reached : Chain × View}
    (h : following entry.view (entry.chain entryMessage)
      (.coerce coercion message keepsPre :: rest) = .ok reached) :
    ∃ view : View, view.IsPlain ∧
      following view
        (coercedChain entry entryMessage coercion keepsPre (coercion.wrapper message) []) rest =
          .ok reached := by
  obtain ⟨next, hafter, h⟩ := exists_of_following_cons h
  rw [take_coerce] at hafter h
  obtain rfl := Except.ok.inj hafter
  exact ⟨_, isPlain_become (isPlain_view entry) coercion.subject, h⟩

/-! ## What is built -/

theorem build_of_isPlain {view : View} (h : view.IsPlain) {c : Chain} {v : Validator}
    (hbuild : view.build c = .ok v) : ∃ u, c.build = .ok u ∧ (u.flags = {} → v = u) := by
  rw [View.build, h.2] at hbuild
  obtain ⟨u, hc, hbuild⟩ := exists_of_bind_eq_ok hbuild
  obtain rfl := Except.ok.inj hbuild
  refine ⟨u, hc, fun hflags => ?_⟩
  rw [← hflags, Validator.withFlags_flags]

/-- The validator of an entry and links accepts a value if the changes, the last one first, make
something of it that the entry and all constraints accept. -/
theorem accepts_build_links {entry : Entry} {entryMessage : Option Value} {links : List Link}
    (hkeeps : ∀ link ∈ links, link.KeepsValue) {v : Validator}
    (hbuild : (buildSteps entry entryMessage (links.flatMap Link.steps)).outcome? = some (.ok v))
    (x y : Value) :
    v.Accepts x y ↔ applyAll (changes links).reverse x = some y ∧ entry.guard.Accepts y y ∧
      ∀ link ∈ links, link.Holds y := by
  obtain ⟨c, view, hfollowing, hbuild⟩ := buildSteps_eq_ok hbuild
  obtain ⟨honChains, hplain⟩ := onChains_of_following (isPlain_view entry) hfollowing
  obtain ⟨u, hu, huv⟩ := build_of_isPlain hplain hbuild
  obtain ⟨ws, rfl, hflags, haccepts⟩ := onChains_active hkeeps (c := entry.chain entryMessage) rfl
    (List.cons_ne_nil _ _) honChains
  obtain rfl := Except.ok.inj hu
  have hactive : (entry.chain entryMessage).active = [entryGuard entry entryMessage] := rfl
  rw [huv (hflags (flags_entryGuard entry entryMessage))]
  refine (accepts_join ws x y).trans ((haccepts x y).trans ?_)
  simp only [hactive, Validator.acceptsAll_singleton, accepts_entryGuard]
  constructor
  · rintro ⟨z, hz, hguard, hholds⟩
    obtain rfl := keepsValue_guard entry z y hguard
    exact ⟨hz, hguard, hholds⟩
  · rintro ⟨hy, hguard, hholds⟩
    exact ⟨y, hy, hguard, hholds⟩

/-- The entry checks the value that comes in if it is kept; the rest is up to the coercion. -/
theorem build_coercedChain {entry : Entry} {entryMessage : Option Value} {coercion : CoercionStep}
    {keepsPre : Bool} {w : Wrapper} {ws : List Validator} {u : Validator}
    (h : (coercedChain entry entryMessage coercion keepsPre w ws).build = .ok u) :
    ∃ v, w (Chain.join false ws) = .ok v ∧ (v.flags = {} → u.flags = {}) ∧
      ∀ x y, u.Accepts x y ↔ (keepsPre = true → entry.guard.Accepts x x) ∧ v.Accepts x y := by
  obtain ⟨core, hcore, h⟩ := exists_of_bind_eq_ok h
  obtain rfl := Except.ok.inj h
  obtain ⟨v, hv, hcore⟩ := exists_of_bind_eq_ok hcore
  refine ⟨v, hv, ?_⟩
  obtain rfl := Except.ok.inj hcore
  cases keepsPre with
  | false => exact ⟨id, fun x y => by simp [coercedChain]⟩
  | true =>
    refine ⟨fun _ => rfl, fun x y => ?_⟩
    refine (Validator.accepts_allOf _ none x y).trans ?_
    constructor
    · rintro ⟨z, hguard, hv⟩
      have hguard' := (accepts_entryGuard entry entryMessage x z).mp hguard
      obtain rfl := keepsValue_guard entry x z hguard'
      exact ⟨fun _ => hguard', (Validator.acceptsAll_singleton v z y).mp hv⟩
    · rintro ⟨hguard, hv⟩
      exact ⟨x, (accepts_entryGuard entry entryMessage x x).mpr (hguard rfl),
        (Validator.acceptsAll_singleton v x y).mpr hv⟩

/-- The validator of an entry, a coercion and links accepts a value if the changes before the
first constraint make something of it that the coercion can convert, and the other changes make
something of the result that all constraints accept. In both places the last change acts first. -/
theorem accepts_build_coercion {entry : Entry} {entryMessage : Option Value}
    {coercion : CoercionStep} {message : Option Value} {keepsPre : Bool} {links : List Link}
    (hkeeps : ∀ link ∈ links, link.KeepsValue) {v : Validator}
    (hbuild : (buildSteps entry entryMessage
      (.coerce coercion message keepsPre :: links.flatMap Link.steps)).outcome? = some (.ok v))
    (x y : Value) :
    v.Accepts x y ↔ (keepsPre = true → entry.guard.Accepts x x) ∧
      ∃ w z, applyAll (leading links).reverse x = some w ∧ coercion.conversion.Makes w z ∧
        applyAll (changes (trailing links)).reverse z = some y ∧ ∀ link ∈ links, link.Holds y := by
  obtain ⟨c, view, hfollowing, hbuild⟩ := buildSteps_eq_ok hbuild
  obtain ⟨coerced, hcoerced, hfollowing⟩ := following_coerce hfollowing
  obtain ⟨honChains, hplain⟩ := onChains_of_following hcoerced hfollowing
  obtain ⟨u, hu, huv⟩ := build_of_isPlain hplain hbuild
  rw [← leading_append_trailing links, onChains_append] at honChains
  obtain ⟨middle, hleading, htrailing⟩ := exists_of_bind_eq_ok honChains
  have hkeeps' : ∀ link ∈ trailing links, link.KeepsValue := by
    intro link hlink
    refine hkeeps link ?_
    rw [← leading_append_trailing links]
    exact List.mem_append_right _ hlink
  obtain ⟨w, rfl, hw⟩ := onChains_coercion rfl rfl hleading
  obtain ⟨ws, rfl, hws⟩ := onChains_trailing hkeeps' rfl rfl htrailing
  have hcoercedChain : (coercedChain entry entryMessage coercion keepsPre w ws).build = .ok u := hu
  obtain ⟨v, hv, hflags, haccepts⟩ := build_coercedChain hcoercedChain
  obtain ⟨inner, hinner, hflags', haccepts'⟩ := hw _ v hv
  obtain rfl := Except.ok.inj hinner
  rw [huv (hflags (hflags' (flags_apply _ _ _))), haccepts]
  simp only [haccepts', Conversion.accepts_apply_iff_makes, accepts_join, hws, holds_trailing_iff]
  refine and_congr_right fun _ => exists_congr fun b => ?_
  constructor
  · rintro ⟨hb, z, hz, hy⟩
    exact ⟨z, hb, hz, hy⟩
  · rintro ⟨z, hb, hz, hy⟩
    exact ⟨hb, z, hz, hy⟩

/-- The steps of a builder after its entry and, where there is one, after its coercion. A change
acts before everything that the chain had when it was asked for. So the changes act in the reverse
order: those after the first constraint behind a coercion on what the coercion makes, those before
it on the value that comes in, and without a coercion all of them on the value that comes in. The
constraints check what comes out in the end. Nothing else is asked of a value, and the type that a
change needs is asked of the value that it acts on. -/
theorem validate_arranges_changes (entry : Entry) (entryMessage : Option Value) (links : List Link)
    (hkeeps : ∀ link ∈ links, link.KeepsValue) :
    (∀ v, (buildSteps entry entryMessage (links.flatMap Link.steps)).outcome? = some (.ok v) →
      ∀ x y, v.Yields x y ↔ applyAll (changes links).reverse x = some y ∧
        entry.guard.Accepts y y ∧ ∀ link ∈ links, link.Holds y) ∧
    (∀ (coercion : CoercionStep) (message : Option Value) (keepsPre : Bool) (v : Validator),
      (buildSteps entry entryMessage
        (.coerce coercion message keepsPre :: links.flatMap Link.steps)).outcome? = some (.ok v) →
      ∀ x y, v.Yields x y ↔ (keepsPre = true → entry.guard.Accepts x x) ∧
        ∃ w z, applyAll (leading links).reverse x = some w ∧ coercion.conversion.Makes w z ∧
          applyAll (changes (trailing links)).reverse z = some y ∧
            ∀ link ∈ links, link.Holds y) := by
  refine ⟨fun v hv x y => ?_, fun coercion message keepsPre v hv x y => ?_⟩
  · rw [Validator.yields_iff_accepts]
    exact accepts_build_links hkeeps hv x y
  · rw [Validator.yields_iff_accepts]
    exact accepts_build_coercion hkeeps hv x y

/-- A text is put in small letters, trimmed and checked for its length. -/
def trimmedName : List Link :=
  [.change (.normalize .trim), .constrain false (.minLength (.int 1)) none,
    .change (.normalize .lower)]

/-- The arrangement of a chain without and with a coercion: the text is trimmed and put in small
letters, and the result is long enough. -/
theorem trimmedName_yields :
    (∀ link ∈ trimmedName, link.KeepsValue) ∧
      (∃ v, (buildSteps .string none (trimmedName.flatMap Link.steps)).outcome? = some (.ok v) ∧
        v.Yields (.str " Ada ") (.str "ada")) ∧
      ∃ v, (buildSteps .string none
          (.coerce .str none true :: trimmedName.flatMap Link.steps)).outcome? = some (.ok v) ∧
        v.Yields (.str " Ada ") (.str "ada") := by
  have hkeeps : ∀ link ∈ trimmedName, link.KeepsValue := by
    simp [trimmedName, Link.KeepsValue]
  have hholds : ∀ link ∈ trimmedName, link.Holds (.str "ada") := by
    refine List.forall_mem_cons.mpr ⟨Link.holds_change _ _, List.forall_mem_cons.mpr ⟨?_,
      List.forall_mem_singleton.mpr (Link.holds_change _ _)⟩⟩
    rintro v ⟨⟩
    exact ⟨_, rfl, rfl, rfl⟩
  have harranged := validate_arranges_changes .string none trimmedName hkeeps
  refine ⟨hkeeps, ⟨_, rfl, ?_⟩, ⟨_, rfl, ?_⟩⟩
  · exact (harranged.1 _ rfl _ _).mpr ⟨rfl, ⟨_, rfl, rfl, rfl⟩, hholds⟩
  · exact (harranged.2 .str none true _ rfl _ _).mpr ⟨fun _ => ⟨_, rfl, rfl, rfl⟩, .str "Ada",
      .str "Ada", rfl, ⟨_, rfl, rfl, rfl⟩, rfl, hholds⟩

/-- The order in which the steps were taken would give other results: keys are joined before the
wanted ones are kept, and a truth value is no text when it is to be trimmed, although it has been
converted to one by then. -/
theorem changes_act_in_reverse :
    (∃ v, (buildSteps .map none [.pick [.str "a"], .flattenKeys "."]).outcome? = some (.ok v) ∧
      v.Yields (.map [(.str "a", .map [(.str "b", .int 1)])]) (.map []) ∧
      applyAll [.pick [.str "a"], .flattenKeys "."] (.map [(.str "a", .map [(.str "b", .int 1)])]) =
        some (.map [(.str "a.b", .int 1)])) ∧
    ∃ v, (buildSteps .bool none [.coerce .str none false, .normalize .trim]).outcome? =
        some (.ok v) ∧
      (∀ y, ¬ v.Yields (.bool true) y) ∧ Conversion.str.Makes (.bool true) (.str "true") ∧
      applyAll [.normalize .trim] (.str "true") = some (.str "true") := by
  refine ⟨⟨_, rfl, ?_, by with_unfolding_all rfl⟩, ⟨_, rfl, fun y => ?_, ⟨_, rfl, rfl, rfl⟩, rfl⟩⟩
  · have hlinks := @accepts_build_links .map none
      [.change (.pick [.str "a"]), .change (.flattenKeys ".")] (by simp [Link.KeepsValue]) _ rfl
    rw [Validator.yields_iff_accepts]
    refine (hlinks _ _).mpr ⟨by with_unfolding_all rfl, ⟨_, rfl, rfl, rfl⟩, ?_⟩
    exact List.forall_mem_cons.mpr ⟨Link.holds_change _ _,
      List.forall_mem_singleton.mpr (Link.holds_change _ _)⟩
  · have hlinks := @accepts_build_coercion .bool none .str none false
      [.change (.normalize .trim)] (by simp [Link.KeepsValue]) _ rfl
    rw [Validator.yields_iff_accepts]
    intro haccepts
    obtain ⟨-, w, z, htrim, -⟩ := (hlinks _ _).mp haccepts
    cases htrim

end Conform.Builder

import Conform.Proofs.ActivePart

/-
  What a message for all failures and a default go around.
  Main result: `error_and_default_cover_active_part`. With a message, with a default and as it is, a
  chain goes along one route to its active part, and has the message put on what that finds, or the
  default asked about instead of nothing. What is found on the way there keeps its own expectations:
  by the constraints that are kept in front of a coercion, and by the coercion itself once there are
  constraints behind it. The functions that a builder is given count where they come to be around
  the coercion: they have to make steady validators, and for a route they have to ask what they are
  put around at most once.
-/

namespace Conform

/-! ## Behind the flags of a builder -/

namespace Validator

/-- Without a map around it, a validator does the same on all values. -/
theorem body_unplaced (v : Validator) (present : Bool) (x : Value) :
    v.body ⟨present, none⟩ x = v.body .plain x := by
  cases v <;> try rfl
  next children message collecting _ => cases collecting <;> rfl

/-- The validator has the flags, and what they do not let pass goes along the route, with what comes
of values that are asked about. -/
def Follows (b : Validator) (f : Flags) (route : Value → Run Turn) (ask : Value → Run Result) :
    Prop :=
  ∀ present x, b.evaluate ⟨present, none⟩ x =
    f.guard (fun _ x => (route x).bind (Turn.meet ask)) ⟨present, none⟩ x

theorem evaluate_unplaced {u : Validator} (h : u.flags = {}) (f : Flags) (present : Bool)
    (x : Value) : (u.withFlags f).evaluate ⟨present, none⟩ x =
      f.guard (fun _ x => u.evaluate .plain x) ⟨present, none⟩ x := by
  rw [evaluate_withFlags, Flags.guard, Flags.guard, body_unplaced, evaluate_of_unset h]

theorem follows_withFlags {u : Validator} (h : u.flags = {}) (f : Flags)
    {route : Value → Run Turn} {ask : Value → Run Result}
    (hu : ∀ x, u.evaluate .plain x = (route x).bind (Turn.meet ask)) :
    (u.withFlags f).Follows f route ask := by
  intro present x
  rw [evaluate_unplaced h, Flags.guard, Flags.guard, hu]

theorem Follows.of_direct {b : Validator} {f : Flags} {ask : Value → Run Result}
    (h : b.Follows f Wrapper.direct ask) (present : Bool) (x : Value) :
    b.evaluate ⟨present, none⟩ x = f.guard (fun _ x => ask x) ⟨present, none⟩ x := by
  rw [h, Flags.guard, Flags.guard, Wrapper.direct, Run.bind_done, Turn.meet, Run.bind_pure]

/-- Flags let the same values pass, and the answers of the others are the same. -/
theorem SameAnswers.seen_withFlags {u u' : Validator} (h : u.SameAnswers u') (hu : u.flags = {})
    (hu' : u'.flags = {}) (f : Flags) (present : Bool) (x : Value) :
    ((u.withFlags f).evaluate ⟨present, none⟩ x).seen Result.answer? =
      ((u'.withFlags f).evaluate ⟨present, none⟩ x).seen Result.answer? := by
  rw [evaluate_unplaced hu, evaluate_unplaced hu', Flags.guard, Flags.guard]
  split
  · rfl
  · exact h x

theorem evaluate_withMessage (v : Validator) (text x : Value) :
    (v.withMessage text).evaluate .plain x =
      (v.evaluate .plain x).seen (Result.withMessage text x) :=
  Wrapper.routes_withMessage text v _ rfl x

theorem evaluate_defaultTo (v : Validator) (substitute x : Value) :
    (Validator.defaultTo substitute v).evaluate .plain x =
      v.evaluate .plain (if x.isNull then substitute else x) := by
  rw [evaluate_of_unset rfl, defaultTo, body_defaulted]

end Validator

/-! ## Steps of a builder -/

namespace Builder

/-- It holds of the functions that the step is given, where they come to be around the coercion or
in its place; where there is no coercion, they make validators without flags. The step does not lead
into a map. -/
def Step.Gives (P : Wrapper → Prop) (s : Step) (_ : View) (c : Chain) : Prop :=
  match s with
  | .custom w _ => P w
  | .wrap w _ => (Chain.Operation.wrap w).Gives P c
  | .pluck _ => False
  | _ => True

variable {P : Wrapper → Prop}

theorem gives_decorate (hP : Wrapper.IsFullyClosed P) {w : Wrapper} {c : Chain}
    (h : (Chain.Operation.wrap w).Gives P c) (negated : Bool) (message : Option Value) :
    (Chain.Operation.wrap fun v => (w v).map (decorate negated message)).Gives P c := by
  refine ⟨fun hcoercion hpost => hP.decorate (h.1 hcoercion hpost) negated message,
    fun hcoercion v u hu => ?_⟩
  obtain ⟨m, hm, rfl⟩ := exists_of_map_eq_ok hu
  have hflags : (if negated then m.not none else m).flags = {} := by
    cases negated with
    | false => exact h.2 hcoercion v m hm
    | true => rfl
  unfold decorate Validator.withMessage?
  split
  · rfl
  · exact hflags

theorem Step.Gives.operation (hP : Wrapper.IsFullyClosed P) {s : Step} {view : View} {c : Chain}
    (h : s.Gives P view c) {op : Chain.Operation} (hop : s.operation? view c = some op) :
    op.Gives P c := by
  unfold Step.operation? at hop
  cases hwrapping : s.wrapping? with
  | some wrapping =>
    obtain ⟨w, message⟩ := wrapping
    rw [hwrapping] at hop
    obtain rfl := Option.some.inj hop
    refine gives_decorate hP ?_ _ _
    obtain rfl | hheld := Step.wrapping_cases hP.toIsClosed hwrapping
    · exact h
    · exact ⟨fun _ _ => hheld, fun _ _ _ hu => hP.flags hheld hu⟩
  | none =>
    rw [hwrapping] at hop
    cases s with
    | wrap | explain | defaultTo | normalize | pick | flattenKeys => cases hwrapping
    | negate | nullable | optional => cases hop
    | collectAll =>
      obtain rfl := Option.some.inj hop
      exact trivial
    | constrain constraint message =>
      dsimp only at hop
      split at hop
      · obtain rfl := Option.some.inj hop
        exact trivial
      · cases hop
    | coerce coercion message keepsPre =>
      dsimp only at hop
      split at hop
      · cases hop
      · obtain rfl := Option.some.inj hop
        exact hP.conversion _ message
    | custom w keepsPre =>
      obtain rfl := Option.some.inj hop
      exact h
    | split separator message =>
      obtain rfl := Option.some.inj hop
      exact hP.conversion _ message
    | pluck key => exact h.elim

/-- What steps give stays with the chain that they lead to. -/
theorem given_following (hP : Wrapper.IsFullyClosed P) {entry : Entry} {message : Option Value}
    {steps : List Step} {view : View} {c : Chain}
    (halong : Along (Step.Gives P) entry.view (entry.chain message) steps)
    (hfollowing : following entry.view (entry.chain message) steps = .ok (c, view)) :
    c.Given P := by
  have hstart : (entry.chain message).Given P :=
    ⟨⟨nofun, nofun⟩, rfl, fun _ => ⟨List.cons_ne_nil _ _, fun _ => flags_entryGuard entry message⟩⟩
  refine following_keeps_of_operations (P := fun op c => op.Gives P c)
    (fun op c d hop h hd => h.apply hP.toIsClosed hop hd) ?_ hstart hfollowing
  exact halong.mono fun s view c hs op hop => hs.operation hP hop

/-- The chain is all that the view builds from, apart from the flags. -/
theorem build_of_given {c : Chain} (h : c.Given P) (view : View) :
    view.build c = c.core.map fun u => u.withFlags view.flags := by
  unfold View.build Chain.build
  rw [h.unled]
  cases c.core <;> rfl

/-- A wrapper that every builder offers, put around the active part by one more step. -/
theorem exists_build_of_wrapping {entry : Entry} {message : Option Value} {steps : List Step}
    {view : View} {c : Chain} (hgiven : c.Given Wrapper.IsSteady)
    (hreached : following entry.view (entry.chain message) steps = .ok (c, view))
    (hpending : view.negated = false) {v u : Validator} (hv : c.activePart = .ok v)
    (hu : c.approach v = .ok u) {s : Step} {f : Validator → Validator}
    (hs : s.wrapping? = some (fun v => .ok (f v), none)) (hoffered : s.feature = .basic)
    (hf : Wrapper.IsSteady fun v => .ok (f v)) :
    ∃ u', c.approach (f v) = .ok u' ∧ u'.flags = {} ∧
      (buildSteps entry message (steps ++ [s])).outcome? =
        some (.ok (u'.withFlags view.flags)) := by
  obtain ⟨c', hc'⟩ := c.exists_wrap f
  obtain ⟨hactive, happroach⟩ := Chain.active_wrap hc'
  have hgiven' : c'.Given Wrapper.IsSteady :=
    hgiven.wrap Wrapper.isClosed_isSteady ⟨fun _ _ => hf, fun _ _ _ hu => hf.flags hu⟩ hc'
  -- what leads to the active part is the same as before, so it takes the wrapped part as well
  obtain ⟨u', hu'⟩ := hgiven.exists_approach hu (f v)
  have hcore : c'.core = .ok u' := by
    rw [Chain.core_eq_bind, hactive, happroach, hv]
    exact hu'
  have hrun : s.run view c = { view := { view with negated := false }, chain := c' } := by
    have hoffers : view.subject.offers s.feature = true := by
      rw [hoffered]
      rfl
    rw [Step.run, if_pos hoffers, take_of_wrapping hs, Step.wrapChain,
      map_decorate_plain _ hpending, hc']
  refine ⟨u', hu', hgiven'.flags_core hcore, buildSteps_eq_ok_iff.mpr ?_⟩
  rw [following_append, hreached]
  dsimp only [Except.bind]
  rw [following, hrun]
  dsimp only [Outcome.after, Except.map, Option.getD, Except.bind, following]
  rw [build_of_given hgiven', hcore]
  rfl

/-- What a message for all failures makes of a validator that is built from a chain with an active
part. The runs are those of both entry points, before waiting is done or refused. -/
structure Explained (c : Chain) (f : Flags) (v b : Validator) (text : Value) (b' : Validator) :
    Prop where
  /-- The same values are accepted, and the same values come out. -/
  answers : ∀ present x, (b'.evaluate ⟨present, none⟩ x).seen Result.answer? =
    (b.evaluate ⟨present, none⟩ x).seen Result.answer?
  /-- The message is put on what the active part finds, wherever that is asked. -/
  covered : ∀ route, c.approach.Routes route →
    b'.Follows f route fun y => (v.evaluate .plain y).seen (Result.withMessage text y)
  /-- If all of the chain is active, the message is put on everything. -/
  whole : c.IsActive → ∀ present x, b'.evaluate ⟨present, none⟩ x =
    (b.evaluate ⟨present, none⟩ x).seen (Result.withMessage text x)

/-- What a default makes of a validator that is built from a chain with an active part. -/
structure Defaulted (c : Chain) (f : Flags) (v b : Validator) (substitute : Value)
    (b' : Validator) : Prop where
  /-- The active part is asked about the default instead of nothing, wherever that is. -/
  covered : ∀ route, c.approach.Routes route →
    b'.Follows f route fun y => v.evaluate .plain (if y.isNull then substitute else y)
  /-- If all of the chain is active, no value is as good as the default. -/
  whole : c.IsActive → substitute.isNull = false → f.nullable = false →
    b'.evaluate .plain .null = b.evaluate .plain substitute

section

variable {c : Chain} {v u u' : Validator}

theorem explained_withFlags (hgiven : c.Given Wrapper.IsSteady) (hu : c.approach v = .ok u)
    (hflags : u.flags = {}) {text : Value} (hu' : c.approach (v.withMessage text) = .ok u')
    (hflags' : u'.flags = {}) (f : Flags) :
    Explained c f v (u.withFlags f) text (u'.withFlags f) := by
  have hcovered : ∀ route, c.approach.Routes route → (u'.withFlags f).Follows f route
      fun y => (v.evaluate .plain y).seen (Result.withMessage text y) := by
    intro route hroute
    refine Validator.follows_withFlags hflags' f fun x => ?_
    rw [hroute _ u' hu' x, funext (Validator.evaluate_withMessage v text)]
  refine ⟨fun present x => ?_, hcovered, fun hactive present x => ?_⟩
  · have hsame := hgiven.sameAnswers_approach (Validator.sameAnswers_withMessage v text) hu hu'
    exact (hsame.seen_withFlags hflags hflags' f present x).symm
  · have hfollows := Validator.follows_withFlags hflags f (hactive.routes v u hu)
    rw [(hcovered _ hactive.routes).of_direct, hfollows.of_direct, Flags.guard, Flags.guard]
    split <;> rfl

theorem defaulted_withFlags (hu : c.approach v = .ok u) (hflags : u.flags = {}) {substitute : Value}
    (hu' : c.approach (.defaultTo substitute v) = .ok u') (hflags' : u'.flags = {}) (f : Flags) :
    Defaulted c f v (u.withFlags f) substitute (u'.withFlags f) := by
  have hcovered : ∀ route, c.approach.Routes route → (u'.withFlags f).Follows f route
      fun y => v.evaluate .plain (if y.isNull then substitute else y) := by
    intro route hroute
    refine Validator.follows_withFlags hflags' f fun x => ?_
    rw [hroute _ u' hu' x, funext (Validator.evaluate_defaultTo v substitute)]
  refine ⟨hcovered, fun hactive hsubstitute hnullable => ?_⟩
  have hfollows := Validator.follows_withFlags hflags f (hactive.routes v u hu)
  have hnull : f.letPass ⟨true, none⟩ .null = false := by
    rw [Flags.letPass, hnullable]
    rfl
  have hother : f.letPass ⟨true, none⟩ substitute = false := by
    rw [Flags.letPass, hsubstitute]
    rfl
  have hdefaulted := (hcovered _ hactive.routes).of_direct true .null
  have hgiven := hfollows.of_direct true substitute
  rw [Flags.guard, hnull, if_neg Bool.false_ne_true] at hdefaulted
  rw [Flags.guard, hother, if_neg Bool.false_ne_true] at hgiven
  exact hdefaulted.trans hgiven.symm

end

/-- A message for all failures and a default go around the active part of a chain: all constraints
without a coercion, and with one the coercion itself or, once there are some, the constraints behind
it. What leads to the active part stays as it is, on the way there and on the way back. -/
theorem error_and_default_cover_active_part {entry : Entry} {message : Option Value}
    {steps : List Step} {view : View} {c : Chain} {b : Validator}
    (hgives : Along (Step.Gives Wrapper.IsSteady) entry.view (entry.chain message) steps)
    (hreached : following entry.view (entry.chain message) steps = .ok (c, view))
    (hpending : view.negated = false)
    (hbuilt : (buildSteps entry message steps).outcome? = some (.ok b)) :
    ∃ v, c.activePart = .ok v ∧
      (∀ route, c.approach.Routes route → b.Follows view.flags route (v.evaluate .plain)) ∧
      (∀ text, ∃ b', (buildSteps entry message (steps ++ [.explain text])).outcome? =
        some (.ok b') ∧ Explained c view.flags v b text b') ∧
      (∀ substitute, ∃ b', (buildSteps entry message (steps ++ [.defaultTo substitute])).outcome? =
        some (.ok b') ∧ Defaulted c view.flags v b substitute b') ∧
      (Along (Step.Gives Wrapper.AsksOnce) entry.view (entry.chain message) steps →
        ∃ route, c.approach.Routes route ∧ ∀ x, (route x).Always Turn.IsClear) := by
  have hgiven := given_following Wrapper.isFullyClosed_isSteady hgives hreached
  have hbuild : view.build c = .ok b := by
    have h := buildSteps_eq_ok_iff.mp hbuilt
    rwa [hreached] at h
  rw [build_of_given hgiven] at hbuild
  obtain ⟨u, hcore, rfl⟩ := exists_of_map_eq_ok hbuild
  have hflags := hgiven.flags_core hcore
  rw [Chain.core_eq_bind] at hcore
  obtain ⟨v, hv, hu⟩ := exists_of_bind_eq_ok hcore
  refine ⟨v, hv, fun route hroute => ?_, fun text => ?_, fun substitute => ?_, fun hasks => ?_⟩
  · exact Validator.follows_withFlags hflags view.flags (hroute v u hu)
  · have hsteady := Wrapper.isClosed_isSteady.withMessage text
    obtain ⟨u', hu', hflags', hbuilt'⟩ :=
      exists_build_of_wrapping (s := .explain text) hgiven hreached hpending hv hu rfl rfl hsteady
    exact ⟨_, hbuilt', explained_withFlags hgiven hu hflags hu' hflags' view.flags⟩
  · have hsteady := Wrapper.isClosed_isSteady.defaultTo substitute
    obtain ⟨u', hu', hflags', hbuilt'⟩ := exists_build_of_wrapping (s := .defaultTo substitute)
      hgiven hreached hpending hv hu rfl rfl hsteady
    exact ⟨_, hbuilt', defaulted_withFlags hu hflags hu' hflags' view.flags⟩
  · exact (given_following Wrapper.isFullyClosed_asksOnce hasks hreached).exists_route

/-- A coercion right behind the entry is all of the chain that is active: a message is put on what
it finds as well, and no value is as good as the default. -/
theorem coercion_covered_until_constrained :
    Along (Step.Gives Wrapper.IsSteady) Entry.string.view (Entry.string.chain none)
      [.coerce .int none false] ∧
    ∃ b, (buildSteps .string none [.coerce .int none false]).outcome? = some (.ok b) ∧
      (∀ text, ∃ b', (buildSteps .string none [.coerce .int none false, .explain text]).outcome? =
        some (.ok b') ∧ ∀ x, b'.evaluate .plain x =
          (b.evaluate .plain x).seen (Result.withMessage text x)) ∧
      ∃ b', (buildSteps .string none [.coerce .int none false, .defaultTo (.int 5)]).outcome? =
        some (.ok b') ∧ b'.evaluate .plain .null = b.evaluate .plain (.int 5) := by
  have hgives : Along (Step.Gives Wrapper.IsSteady) Entry.string.view (Entry.string.chain none)
      [.coerce .int none false] := ⟨trivial, fun _ _ => trivial⟩
  obtain ⟨v, -, -, hexplained, hdefaulted, -⟩ :=
    error_and_default_cover_active_part hgives rfl rfl rfl
  refine ⟨hgives, _, rfl, fun text => ?_, ?_⟩
  · obtain ⟨b', hb', h⟩ := hexplained text
    exact ⟨b', hb', fun x => h.whole ⟨rfl, fun _ => rfl⟩ true x⟩
  · obtain ⟨b', hb', h⟩ := hdefaulted (.int 5)
    exact ⟨b', hb', h.whole ⟨rfl, fun _ => rfl⟩ rfl rfl⟩

def bounded : List Step := [.coerce .int none false, .constrain (.related .ge (.int 1)) none]

/-- Once there is a constraint behind it, the coercion is covered no more: it refuses to make a
number of no value although the default is accepted, and what it finds wrong with a text is reported
under its own messages. -/
theorem constraint_uncovers_coercion :
    (∃ b defaulted, (buildSteps .string none bounded).outcome? = some (.ok b) ∧
      (buildSteps .string none (bounded ++ [.defaultTo (.int 5)])).outcome? =
        some (.ok defaulted) ∧
      (b.evaluate .plain (.int 5)).outcome? = some (.ok (.success (.int 5))) ∧
      ∃ r, (defaulted.evaluate .plain .null).outcome? = some (.ok r) ∧ r.isValid = false) ∧
    ∃ explained, (buildSteps .string none (bounded ++ [.explain (.str "m")])).outcome? =
        some (.ok explained) ∧
      ∃ r, (explained.evaluate .plain (.str "abc")).outcome? = some (.ok r) ∧
        r.expectations.map Expectation.message =
          [.str "int", .str "number", .str "a valid formatted int string"] := by
  refine ⟨⟨_, _, rfl, rfl, rfl, _, rfl, rfl⟩, _, rfl, _, rfl, rfl⟩

end Builder
end Conform

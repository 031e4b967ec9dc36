import Conform.Proofs.Acceptance
import Conform.Proofs.ChainWrappers

/-
  What becomes of a pending negation. It waits with the view, not with the chain, so it is seen
  only by steps on the same view. A flag, the request for all failures and a coercion that goes on
  with the same view pass it on (`take_passing`), and the next constraint takes it. But a step that
  puts something around the constraints so far takes it as well, and negates all of them; and a
  step that goes on with a view of another subject loses it. `negation_goes_to_next` says so of
  whole builders: with the negation they build what they build without it, one step being replaced.
  `negation_misses_bound` has a builder for each of the three cases.
-/

namespace Conform.Builder

def View.pending (view : View) : View := { view with negated := true }

namespace Step

/-- The step neither takes a negation nor asks for one, and goes on with the same view. -/
def PassesNegation (subject : Subject) : Step → Prop
  | .nullable | .optional | .collectAll => True
  | .coerce coercion _ _ => subject.countsAs coercion.subject = true
  | .custom _ _ | .pluck _ => subject.countsAs .generic = true
  | .split _ _ => subject.countsAs .list = true
  | _ => False

end Step

/-! ## Steps on a view with a pending negation -/

/-- Without another subject the step goes on with the view that it was taken on. -/
theorem Outcome.after_of_countsAs {o : Outcome} {target : Subject}
    (hnext : o.next = .ok (o.view.become? target))
    (htarget : o.view.subject.countsAs target = true) : o.after = .ok o.view := by
  have hsame : o.view.become? target = none := if_pos htarget
  rw [after, hnext, hsame]
  rfl

/-- A view of another subject has the flags of the one before it, but not its negation. -/
theorem become?_of_not_countsAs {view : View} {target : Subject}
    (h : view.subject.countsAs target = false) :
    view.become? target = some { subject := target, flags := view.flags } := by
  rw [View.become?, h]
  rfl

/-- A step that passes a negation on does the same to the chain with and without one, and at most
sets flags of the view. -/
theorem take_passing {s : Step} {view : View} (h : s.PassesNegation view.subject) (c : Chain) :
    (s.take view.pending c).chain = (s.take view c).chain ∧
      ((∃ fault, (s.take view.pending c).after = .error fault ∧
          (s.take view c).after = .error fault) ∨
        ∃ flags, (s.take view.pending c).after = .ok { view.pending with flags := flags } ∧
          (s.take view c).after = .ok { view with flags := flags }) := by
  have hinstall : ∀ kind w keepsPre target, view.subject.countsAs target = true →
      ∃ flags, (Step.installCoercion kind w keepsPre target view.pending c).after =
          .ok { view.pending with flags := flags } ∧
        (Step.installCoercion kind w keepsPre target view c).after =
          .ok { view with flags := flags } :=
    fun kind w keepsPre target htarget => ⟨view.flags, Outcome.after_of_countsAs rfl htarget,
      Outcome.after_of_countsAs rfl htarget⟩
  cases s with
  | negate | constrain | wrap | explain | defaultTo | normalize | pick | flattenKeys => exact h.elim
  | nullable => exact ⟨rfl, .inr ⟨{ view.flags with nullable := true }, rfl, rfl⟩⟩
  | optional => exact ⟨rfl, .inr ⟨{ view.flags with optional := true }, rfl, rfl⟩⟩
  | collectAll => exact ⟨rfl, .inr ⟨view.flags, rfl, rfl⟩⟩
  | coerce coercion message keepsPre =>
    unfold Step.take
    dsimp only
    split
    · exact ⟨rfl, .inr ⟨view.flags, Outcome.after_of_countsAs rfl h,
        Outcome.after_of_countsAs rfl h⟩⟩
    · exact ⟨rfl, .inr (hinstall _ _ keepsPre _ h)⟩
  | custom w keepsPre => exact ⟨rfl, .inr (hinstall .custom w keepsPre .generic h)⟩
  | split separator message => exact ⟨rfl, .inr (hinstall .custom _ true .list h)⟩
  | pluck key =>
    unfold Step.take
    dsimp only
    split
    · next fault _ => exact ⟨rfl, .inl ⟨fault, rfl, rfl⟩⟩
    · exact ⟨rfl, .inr ⟨view.flags, Outcome.after_of_countsAs rfl h,
        Outcome.after_of_countsAs rfl h⟩⟩

/-- After steps that pass a negation on, it is still pending. -/
theorem following_passing {view : View} {first tail tail' : List Step}
    (hfirst : ∀ s ∈ first, s.PassesNegation view.subject)
    (htail : ∀ (d : Chain) (last : View), last.subject = view.subject →
      last.negated = view.negated → following last.pending d tail = following last d tail')
    (c : Chain) : following view.pending c (first ++ tail) = following view c (first ++ tail') := by
  induction first generalizing view c with
  | nil => exact htail c view rfl rfl
  | cons s first ih =>
    obtain ⟨hs, hfirst⟩ := List.forall_mem_cons.mp hfirst
    rw [List.cons_append, List.cons_append, following, following]
    have hsubject : view.pending.subject = view.subject := rfl
    unfold Step.run
    rw [hsubject]
    split
    · obtain ⟨hchain, hafter⟩ := take_passing hs c
      rw [hchain]
      obtain ⟨fault, hpending, hplain⟩ | ⟨flags, hpending, hplain⟩ := hafter
      · rw [hpending, hplain]
        rfl
      · rw [hpending, hplain]
        exact @ih { view with flags := flags } hfirst htail (s.take view c).chain
    · rfl

/-! ## Steps that a pending negation does not get past -/

/-- The next constraint takes the negation. -/
theorem following_pending_constrain {view : View} (hnegated : view.negated = false)
    {constraint : Constraint} (hoffers : view.subject.offers constraint.feature = true)
    {u : Validator} (hu : constraint.validator? = .ok u) (message : Option Value) (c : Chain)
    (rest : List Step) :
    following view.pending c (.constrain constraint message :: rest) =
      following view c (.constrain (.validator (u.not none)) message :: rest) := by
  have hpending : Step.run (.constrain constraint message) view.pending c =
      Step.run (.constrain (.validator (u.not none)) message) view c := by
    have hrun : Step.run (.constrain constraint message) view.pending c =
        Step.constrainChain constraint message view.pending c := if_pos hoffers
    have hrun' : Step.run (.constrain (.validator (u.not none)) message) view c =
        Step.constrainChain (.validator (u.not none)) message view c := rfl
    rw [hrun, hrun', Step.constrainChain, Step.constrainChain, hu, hnegated]
    rfl
  rw [following, following, hpending]

/-- A step that puts something around the constraints so far takes the negation, and so negates
all that it goes around. -/
theorem following_pending_wrapping {view : View} (hnegated : view.negated = false) {s : Step}
    (hoffers : view.subject.offers s.feature = true) {w : Wrapper} {message : Option Value}
    (hs : s.wrapping? = some (w, message)) (c : Chain) (rest : List Step) :
    following view.pending c (s :: rest) =
      following view c (.wrap (fun v => (w v).map fun u => u.not none) message :: rest) := by
  have hdecorate : (fun v => (w v).map (decorate true message)) =
      fun v => ((w v).map fun u => u.not none).map (decorate false message) := by
    funext v
    cases w v <;> rfl
  have hpending : s.run view.pending c =
      Step.run (.wrap (fun v => (w v).map fun u => u.not none) message) view c := by
    have hrun : s.run view.pending c = s.take view.pending c := if_pos hoffers
    have hrun' : Step.run (.wrap (fun v => (w v).map fun u => u.not none) message) view c =
        Step.wrapChain (fun v => (w v).map fun u => u.not none) message view c := rfl
    have htaken : view.pending.negated = true := rfl
    rw [hrun, hrun', take_of_wrapping hs, Step.wrapChain, Step.wrapChain, htaken, hnegated,
      hdecorate]
    rfl
  rw [following, following, hpending]

/-- A step that goes on with a view of another subject does the same with and without a
negation, which is lost. -/
theorem take_losing {s : Step} {view : View} {target : Subject} (htarget : s.target? = some target)
    (hother : view.subject.countsAs target = false) (c : Chain) :
    (s.take view.pending c).chain = (s.take view c).chain ∧
      (s.take view.pending c).after = (s.take view c).after := by
  have hgoes : (view.pending.become? target).getD view.pending =
      (view.become? target).getD view := by
    rw [become?_of_not_countsAs hother, @become?_of_not_countsAs view.pending target hother]
    rfl
  have hinstall : ∀ kind w keepsPre,
      (Step.installCoercion kind w keepsPre target view.pending c).after =
        (Step.installCoercion kind w keepsPre target view c).after :=
    fun _ _ _ => congrArg Except.ok hgoes
  cases s with
  | coerce coercion message keepsPre =>
    obtain rfl := Option.some.inj htarget
    unfold Step.take
    dsimp only
    split
    · exact ⟨rfl, congrArg Except.ok hgoes⟩
    · exact ⟨rfl, hinstall _ _ keepsPre⟩
  | custom w keepsPre =>
    obtain rfl := Option.some.inj htarget
    exact ⟨rfl, hinstall .custom w keepsPre⟩
  | split separator message =>
    obtain rfl := Option.some.inj htarget
    exact ⟨rfl, hinstall .custom _ true⟩
  | pluck key =>
    obtain rfl := Option.some.inj htarget
    unfold Step.take
    dsimp only
    split
    · exact ⟨rfl, rfl⟩
    · exact ⟨rfl, congrArg Except.ok hgoes⟩
  | _ => cases htarget

/-- So a negation makes no difference to what comes behind such a step. -/
theorem following_pending_target {view : View} {s : Step} {target : Subject}
    (htarget : s.target? = some target) (hother : view.subject.countsAs target = false)
    (c : Chain) (rest : List Step) :
    following view.pending c (s :: rest) = following view c (s :: rest) := by
  obtain ⟨hchain, hafter⟩ := take_losing htarget hother c
  have hsubject : view.pending.subject = view.subject := rfl
  rw [following, following]
  unfold Step.run
  rw [hsubject]
  split
  · rw [hchain, hafter]
  · rfl

/-! ## Whole builders -/

/-- The steps lead to builders of the same validators. -/
def SameBuilds (entry : Entry) (message : Option Value) (steps others : List Step) : Prop :=
  ∀ v, (buildSteps entry message steps).outcome? = some (.ok v) ↔
    (buildSteps entry message others).outcome? = some (.ok v)

theorem sameBuilds_of_following {entry : Entry} {message : Option Value} {before : List Step}
    {view : View} {c : Chain}
    (hbefore : following entry.view (entry.chain message) before = .ok (c, view))
    {steps others : List Step} (h : following view c steps = following view c others) :
    SameBuilds entry message (before ++ steps) (before ++ others) := by
  intro v
  rw [buildSteps_eq_ok_iff, buildSteps_eq_ok_iff, following_append, following_append, hbefore]
  exact iff_of_eq (congrArg (fun reached => Except.bind reached _ = _) h)

/-- A negation that is asked for on a view without one, and steps behind it that pass it on. If a
constraint comes next, then this constraint is negated, and no other one. If a step comes next that
puts something around the constraints so far, then all of these are negated and no later constraint
is. If a step comes next that goes on with a view of another subject, then nothing is negated. -/
theorem negation_goes_to_next {entry : Entry} {entryMessage : Option Value} {before : List Step}
    {view : View} {c : Chain}
    (hbefore : following entry.view (entry.chain entryMessage) before = .ok (c, view))
    (hnegated : view.negated = false) {first : List Step}
    (hfirst : ∀ s ∈ first, s.PassesNegation view.subject) (rest : List Step) :
    (∀ constraint message u, view.subject.offers constraint.feature = true →
      constraint.validator? = .ok u →
      SameBuilds entry entryMessage
        (before ++ .negate :: (first ++ .constrain constraint message :: rest))
        (before ++ (first ++ .constrain (.validator (u.not none)) message :: rest))) ∧
    (∀ s w message, view.subject.offers s.feature = true → s.wrapping? = some (w, message) →
      SameBuilds entry entryMessage (before ++ .negate :: (first ++ s :: rest))
        (before ++ (first ++ .wrap (fun v => (w v).map fun u => u.not none) message :: rest))) ∧
    (∀ s target, s.target? = some target → view.subject.countsAs target = false →
      SameBuilds entry entryMessage (before ++ .negate :: (first ++ s :: rest))
        (before ++ (first ++ s :: rest))) := by
  -- Whatever comes behind the first steps sees the negation on a view that is otherwise the same.
  have hsame : ∀ {tail tail' : List Step},
      (∀ (d : Chain) (last : View), last.subject = view.subject → last.negated = false →
        following last.pending d tail = following last d tail') →
      SameBuilds entry entryMessage (before ++ .negate :: (first ++ tail))
        (before ++ (first ++ tail')) := by
    intro tail tail' htail
    refine sameBuilds_of_following hbefore ?_
    have hnegate : following view c (.negate :: (first ++ tail)) =
        following view.pending c (first ++ tail) := rfl
    rw [hnegate]
    refine following_passing hfirst (fun d last hsubject hlast => ?_) c
    exact htail d last hsubject (hlast.trans hnegated)
  refine ⟨fun constraint message u hoffers hu => ?_, fun s w message hoffers hs => ?_,
    fun s target htarget hother => ?_⟩
  · refine hsame fun d last hsubject hlast => ?_
    rw [← hsubject] at hoffers
    exact following_pending_constrain hlast hoffers hu message d rest
  · refine hsame fun d last hsubject hlast => ?_
    rw [← hsubject] at hoffers
    exact following_pending_wrapping hlast hoffers hs d rest
  · refine hsame fun d last hsubject hlast => ?_
    rw [← hsubject] at hother
    exact following_pending_target htarget hother d rest

/-- Of a text that is not empty, of a text that is empty once it is trimmed, and of the text of a
number that is large enough, only the first is negated as it reads. The second one negates the whole
that is trimmed, its test for texts included, and the third one nothing: it accepts a large
number. -/
theorem negation_misses_bound :
    SameBuilds .string none [.negate, .nullable, .constrain .empty none]
        [.nullable, .constrain (.validator (.not (.isEmpty none) none)) none] ∧
      SameBuilds .string none [.negate, .collectAll, .normalize .trim, .constrain .empty none]
        [.collectAll, .wrap (fun v => .ok (.not (Conversion.trimmed.apply v none) none)) none,
          .constrain .empty none] ∧
      SameBuilds .string none
        [.negate, .coerce .int none false, .constrain (.related .ge (.int 9)) none]
        [.coerce .int none false, .constrain (.related .ge (.int 9)) none] ∧
      ∃ v, (buildSteps .string none
          [.negate, .coerce .int none false, .constrain (.related .ge (.int 9)) none]).outcome? =
            some (.ok v) ∧ v.Yields (.str "12") (.int 12) := by
  have hbare : following Entry.string.view (Entry.string.chain none) [] =
      .ok (Entry.string.chain none, Entry.string.view) := rfl
  obtain ⟨hconstrain, -, -⟩ := negation_goes_to_next hbare rfl
    (List.forall_mem_singleton.mpr (show Step.nullable.PassesNegation _ from trivial)) []
  obtain ⟨-, hwrapping, -⟩ := negation_goes_to_next hbare rfl
    (List.forall_mem_singleton.mpr (show Step.collectAll.PassesNegation _ from trivial))
    [.constrain .empty none]
  obtain ⟨-, -, hlosing⟩ := negation_goes_to_next hbare rfl (List.forall_mem_nil _)
    [.constrain (.related .ge (.int 9)) none]
  have hlost := hlosing (.coerce .int none false) .int rfl rfl
  have hnegated := hconstrain .empty none (.isEmpty none) rfl rfl
  have htrimmed := hwrapping (.normalize .trim)
    (fun v => .ok (Conversion.trimmed.apply v none)) none rfl rfl
  refine ⟨hnegated, htrimmed, hlost, ?_⟩
  exact ⟨_, (hlost _).mpr rfl, _, rfl, rfl, rfl⟩

end Conform.Builder

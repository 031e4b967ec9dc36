import Conform.Proofs.Acceptance
import Conform.Proofs.Exclusion

/-
  Validators that judge. `Validator.Judges v d` says that the validator answers every value that can
  be shown at once, with a valid result exactly where the function `d` says so, that it hands back
  what it accepts, and that it can always be said what it expects. Of such validators a verdict is
  all that a combination depends on: the lemmas here give, for each way to combine validators that a
  definition can ask for, the verdict of the whole from the verdicts of the parts. Messages make no
  difference, nor does it make one whether a conjunction gathers what is wrong.
-/

namespace Conform

/-- What is decided about a value in its place. -/
abbrev Verdict := Site → Value → Bool

/-- The value and the map around it can be shown. -/
def Site.shows (site : Site) (x : Value) : Bool :=
  x.isShowable && site.parent.all fun parent => (Value.map parent).isShowable

namespace Site

variable {site : Site} {x : Value} {entries : Entries}

theorem shows_of_isShowable (h : x.isShowable = true) (present : Bool) :
    shows ⟨present, none⟩ x = true := by
  rw [shows, h]
  rfl

theorem isShowable_of_shows (h : site.shows x = true) : x.isShowable = true :=
  (Bool.and_eq_true_iff.mp h).1

theorem shows_plain (h : site.shows x = true) : Site.plain.shows x = true :=
  shows_of_isShowable (isShowable_of_shows h) true

theorem isShowable_entries (h : site.shows (.map entries) = true) :
    ∀ entry ∈ entries, entry.1.isShowable = true ∧ entry.2.isShowable = true := by
  have hentries : Value.areShowableEntries entries = true := isShowable_of_shows h
  rw [Value.areShowableEntries_eq_all, List.all_eq_true] at hentries
  exact fun entry hentry => Bool.and_eq_true_iff.mp (hentries entry hentry)

/-- What is found under a key in a map, or the absent value, can be shown if the map can. -/
theorem shows_field (h : site.shows (.map entries) = true) (key : Value) (present : Bool) :
    shows ⟨present, some entries⟩ ((Entries.find? entries key).getD .null) = true := by
  have hentries : (Value.map entries).isShowable = true := isShowable_of_shows h
  rw [shows, Option.all_some, hentries, Bool.and_true, Entries.find?]
  cases hfind : List.find? (fun entry => key.equals entry.1) entries with
  | none => rfl
  | some entry => exact (isShowable_entries h entry (List.mem_of_find?_eq_some hfind)).2

theorem shows_item {items : List Value} (h : site.shows (.list items) = true) {y : Value}
    (hy : y ∈ items) : Site.plain.shows y = true := by
  have hitems : Value.areShowable items = true := isShowable_of_shows h
  rw [Value.areShowable_eq_all, List.all_eq_true] at hitems
  exact shows_of_isShowable (hitems y hy) true

end Site

/-- A run that ends at once, with a valid result if the value is accepted, and then with the value
itself. -/
def Run.Judges (run : Run Result) (x : Value) (accepted : Bool) : Prop :=
  ∃ r, run = .done r ∧ r.isValid = accepted ∧ (accepted = true → r.value = x)

namespace Run

theorem judges_success (x given : Value) : (Run.done (.success x given)).Judges x true :=
  ⟨_, rfl, rfl, fun _ => rfl⟩

theorem judges_invalid {r : Result} (h : r.isValid = false) (x : Value) :
    (Run.done r).Judges x false :=
  ⟨r, rfl, h, fun haccepted => absurd haccepted Bool.false_ne_true⟩

theorem judges_refusal (x y given : Value) (e : Expectation) :
    (Run.done (.refusal y e given)).Judges x false :=
  judges_invalid (Result.isValid_refusal y e given) x

theorem Judges.accepts_iff {run : Run Result} {x : Value} {ok : Bool} (h : run.Judges x ok)
    (y : Value) : run.Accepts y ↔ ok = true ∧ y = x := by
  obtain ⟨r, rfl, hvalid, hvalue⟩ := h
  rw [accepts_done, hvalid]
  exact and_congr_right fun hok => by rw [hvalue hok, eq_comm]

end Run

/-- The value passes the check. -/
def Predicate.holds (p : Predicate) (x : Value) : Bool :=
  match p.accepts x with
  | .ok ok => ok
  | .error _ => false

namespace Validator

/-- The validator decides about every value that can be shown in its place, and it can always be
said what it expects. -/
structure Judges (v : Validator) (d : Verdict) : Prop where
  run : ∀ site x, site.shows x = true → (v.evaluate site x).Judges x (d site x)
  denied : ∀ x, ∃ e, v.toCheck.denied x = .ok e

variable {v w : Validator} {d : Verdict}

theorem denied_of_describe?_eq_none (h : v.describe? = none) (x : Value) :
    ∃ e, v.toCheck.denied x = .ok e := by
  refine ⟨Check.denial x (Check.passed x), ?_⟩
  rw [Check.denied, toCheck, h]
  rfl

/-- A node without flags that says nothing of what it expects. -/
theorem judges_of_body (hflags : v.flags = {}) (hdescribe : v.describe? = none)
    (h : ∀ site x, site.shows x = true → (v.body site x).Judges x (d site x)) : v.Judges d where
  run site x hshows := by
    rw [evaluate_of_unset hflags]
    exact h site x hshows
  denied := denied_of_describe?_eq_none hdescribe

theorem Judges.congr {d' : Verdict} (h : v.Judges d)
    (hsame : ∀ site x, site.shows x = true → d site x = d' site x) : v.Judges d' where
  run site x hshows := by
    rw [← hsame site x hshows]
    exact h.run site x hshows
  denied := h.denied

/-- A validation is answered, whether the value is there or not. -/
theorem Judges.exists_validate (h : v.Judges d) {x : Value} (hshown : x.isShowable = true)
    (present : Bool) :
    ∃ r, (v.validate x present).outcome? = some (.ok r) ∧ r.isValid = d ⟨present, none⟩ x := by
  obtain ⟨r, hr, hvalid, -⟩ := h.run ⟨present, none⟩ x (Site.shows_of_isShowable hshown present)
  refine ⟨r, (outcome?_validate_eq_ok r).mpr ?_, hvalid⟩
  rw [hr]
  rfl

/-! ## Flags and messages -/

/-- Flags let pass what they let pass, and leave the rest to the node. -/
theorem Judges.withFlags (h : v.Judges d) (hflags : v.flags = {}) (f : Flags) :
    (v.withFlags f).Judges fun site x => f.letPass site x || d site x where
  run site x hshows := by
    rw [evaluate_withFlags, Flags.guard]
    have hbody := h.run site x hshows
    rw [evaluate_of_unset hflags] at hbody
    cases f.letPass site x with
    | true => exact Run.judges_success x .null
    | false => simpa using hbody
  denied x := by
    have hsame : (v.withFlags f).toCheck.denied x = v.toCheck.denied x := by
      rw [Check.denied, Check.denied, toCheck, toCheck, describe?_withFlags]
    rw [hsame]
    exact h.denied x

theorem Judges.withMessage? (h : v.Judges d) (hplain : ∀ site x, d site x = d .plain x)
    (message : Option Value) : (Validator.withMessage? message v).Judges d := by
  unfold Validator.withMessage?
  split
  · refine judges_of_body rfl rfl fun site x hshows => ?_
    rw [withMessage, withExpectation, body_replacement, Check.replaced, hplain]
    obtain ⟨r, hr, hvalid, hvalue⟩ := h.run .plain x (Site.shows_plain hshows)
    rw [Run.bind_eq, toCheck_run, hr, Run.bind_done]
    cases hexpectations : r.expectations with
    | nil => exact ⟨r, rfl, hvalid, hvalue⟩
    | cons e es =>
      have hinvalid : d .plain x = false := by
        rw [← hvalid, Result.isValid, hexpectations]
        rfl
      rw [hinvalid]
      exact Run.judges_refusal x _ _ _
  · exact h

/-! ## Leaves -/

theorem run_judges_ofPredicate {p : Predicate} (h : p.IsTotal) {x : Value} {ok : Bool}
    (haccepts : p.accepts x = .ok ok) (message : Option Value) (site : Site) :
    ((ofPredicate p message).evaluate site x).Judges x ok := by
  cases ok with
  | true =>
    rw [evaluate_ofPredicate_of_accepts haccepts]
    exact Run.judges_success x .null
  | false =>
    rw [evaluate_ofPredicate_of_rejects haccepts,
      expectation_of_hasMessage h.hasMessage h.ne_brokenPattern]
    exact Run.judges_refusal x x .null _

theorem judges_ofPredicate {p : Predicate} (h : p.IsTotal) (message : Option Value)
    (haccepts : ∀ site x, p.accepts x = .ok (d site x)) : (ofPredicate p message).Judges d where
  run site x _ := run_judges_ofPredicate h (haccepts site x) message site
  denied x := by
    have hdenied : (ofPredicate p message).toCheck.denied x =
        (p.expectation message x).map (Check.denial x) := rfl
    rw [hdenied, expectation_of_hasMessage h.hasMessage h.ne_brokenPattern]
    exact ⟨_, rfl⟩

theorem accepts_eq_holds {p : Predicate} (h : p.IsTotal) (x : Value) :
    p.accepts x = .ok (p.holds x) := by
  obtain ⟨ok, hok⟩ := h.accepts x
  rw [Predicate.holds, hok]

theorem run_judges_check {p : Predicate} (h : p.IsTotal) (message : Option Value) (site : Site)
    (x : Value) : ((ofPredicate p message).evaluate site x).Judges x (p.holds x) :=
  run_judges_ofPredicate h (accepts_eq_holds h x) message site

theorem judges_check {p : Predicate} (h : p.IsTotal) (message : Option Value) :
    (ofPredicate p message).Judges fun _ => p.holds :=
  judges_ofPredicate h message fun _ => accepts_eq_holds h

theorem judges_valid : valid.Judges fun _ _ => true :=
  judges_of_body rfl rfl fun _ x _ => Run.judges_success x .null

/-! ## Groups -/

section

variable {vs : List Validator} {ds : List Verdict} {x : Value} {oks : List Bool}

/-- Each validator decides about the value. -/
abbrev AllJudge (vs : List Validator) (x : Value) (oks : List Bool) : Prop :=
  List.Forall₂ (fun v ok => (v.evaluate .plain x).Judges x ok) vs oks

theorem allJudge_of_judges (h : List.Forall₂ Judges vs ds) (hshows : Site.plain.shows x = true) :
    AllJudge vs x (ds.map fun d => d .plain x) := by
  rw [AllJudge, List.forall₂_map_right_iff]
  exact h.imp fun v d hv => hv.run .plain x hshows

/-- After a validator that judges comes the rest, on the value itself. -/
theorem judges_threaded_cons {cs : List Check} {message : Option Value} {given x : Value}
    {first rest : Bool} (hfirst : (v.evaluate .plain x).Judges x first)
    (hrest : first = true → (Check.threaded message given cs x).Judges x rest) :
    (Check.threaded message given (v.toCheck :: cs) x).Judges x (first && rest) := by
  obtain ⟨r, hr, hvalid, hvalue⟩ := hfirst
  rw [Check.threaded_cons, toCheck_run, hr, Run.bind_done, hvalid]
  cases first with
  | true =>
    rw [if_pos rfl, hvalue rfl]
    exact hrest rfl
  | false => exact Run.judges_invalid ((Result.isValid_override message r).trans hvalid) x

theorem judges_threaded (h : AllJudge vs x oks) (message : Option Value) (given : Value) :
    (Check.threaded message given (vs.map toCheck) x).Judges x (oks.all id) := by
  induction h with
  | nil => exact Run.judges_success x given
  | cons hv _ ih => exact judges_threaded_cons hv fun _ => ih

theorem judges_collecting (h : AllJudge vs x oks) (message : Option Value)
    (es : List Expectation) :
    ((Check.collecting message x).start (vs.map toCheck) es).Judges x
      (es.isEmpty && oks.all id) := by
  induction h generalizing es with
  | nil =>
    rw [List.all_nil, Bool.and_true]
    cases es with
    | nil => exact Run.judges_success x x
    | cons e es => exact Run.judges_invalid (Result.isValid_override message _) x
  | cons hv _ ih =>
    obtain ⟨r, hr, hvalid, -⟩ := hv
    have hempty : (es ++ r.expectations).isEmpty = (es.isEmpty && r.isValid) := by
      cases es <;> rfl
    rw [List.map_cons, Check.collecting_cons, toCheck_run, hr, Run.bind_done, List.all_cons, id,
      ← Bool.and_assoc, ← hvalid, ← hempty]
    exact ih _

/-- What a choice decides about one value needs what its members decide about that value. -/
theorem judges_choosing (h : AllJudge vs x oks) (message : Option Value)
    (es : List Expectation) :
    ((Check.choosing message x).start (vs.map toCheck) es).Judges x (oks.any id) := by
  induction h generalizing es with
  | nil =>
    refine Run.judges_invalid ((Result.isValid_override message _).trans ?_) x
    cases es <;> rfl
  | cons hv _ ih =>
    obtain ⟨r, hr, hvalid, hvalue⟩ := hv
    rw [List.map_cons, Check.choosing_cons, toCheck_run, hr, Run.bind_done, List.any_cons, id,
      ← hvalid]
    cases hcase : r.isValid with
    | true => exact ⟨r, rfl, hcase, fun _ => hvalue (hvalid.symm.trans hcase)⟩
    | false => exact ih _

theorem run_judges_anyOf (h : AllJudge vs x oks) (message : Option Value) (site : Site) :
    ((anyOf vs message).evaluate site x).Judges x (oks.any id) := by
  rw [anyOf, evaluate_of_unset rfl, body_disjunction]
  exact judges_choosing h message []

theorem judges_excluding (h : List.Forall₂ Judges vs ds) (hshows : Site.plain.shows x = true)
    (message : Option Value) (es : List Expectation) :
    ((Check.excluding message x).start (vs.map toCheck) es).Judges x
      (es.isEmpty && !ds.any fun d => d .plain x) := by
  induction h generalizing es with
  | nil =>
    rw [List.any_nil, Bool.not_false, Bool.and_true]
    cases es with
    | nil => exact Run.judges_success x x
    | cons e es => exact Run.judges_invalid (Result.isValid_override message _) x
  | cons hv _ ih =>
    obtain ⟨r, hr, hvalid, -⟩ := hv.run .plain x hshows
    obtain ⟨e, he⟩ := hv.denied x
    rw [List.map_cons, Check.excluding_cons, Check.questioned, toCheck_run, hr, Run.bind_done,
      List.any_cons, ← hvalid, he]
    cases r.isValid with
    | true =>
      have hdenied := ih (es ++ [e])
      have hempty : (es ++ [e]).isEmpty = false := by cases es <;> rfl
      rw [hempty, Bool.false_and] at hdenied
      rw [Bool.true_or, Bool.not_true, Bool.and_false]
      exact hdenied
    | false =>
      have hrest := ih (es ++ [])
      rw [List.append_nil] at hrest
      rw [Bool.false_or, if_neg Bool.false_ne_true, Run.bind_done, Option.toList_none,
        List.append_nil]
      exact hrest

theorem judges_allOf (h : List.Forall₂ Judges vs ds) (message : Option Value) (collecting : Bool) :
    (allOf vs message collecting).Judges fun _ x => ds.all fun d => d .plain x := by
  refine judges_of_body rfl rfl fun site x hshows => ?_
  have hall := allJudge_of_judges h (Site.shows_plain hshows)
  have hsame : (ds.all fun d => d .plain x) = (ds.map fun d => d .plain x).all id := by
    rw [List.all_map]
    rfl
  rw [hsame]
  cases collecting with
  | true =>
    rw [allOf, body_conjunction_collecting]
    exact judges_collecting hall message []
  | false =>
    rw [allOf, body_conjunction_threading]
    exact judges_threaded hall message x

theorem judges_anyOf (h : List.Forall₂ Judges vs ds) (message : Option Value) :
    (anyOf vs message).Judges fun _ x => ds.any fun d => d .plain x where
  run site x hshows := by
    have hany : (ds.any fun d => d .plain x) = (ds.map fun d => d .plain x).any id := by
      rw [List.any_map]
      rfl
    rw [hany]
    exact run_judges_anyOf (allJudge_of_judges h (Site.shows_plain hshows)) message site
  denied := denied_of_describe?_eq_none rfl

theorem judges_noneOf (h : List.Forall₂ Judges vs ds) (message : Option Value) :
    (noneOf vs message).Judges fun _ x => !ds.any fun d => d .plain x := by
  refine judges_of_body rfl rfl fun site x hshows => ?_
  rw [noneOf, body_exclusion]
  exact judges_excluding h (Site.shows_plain hshows) message []

theorem judges_not (h : v.Judges d) (message : Option Value) :
    (v.not message).Judges fun _ x => !d .plain x := by
  refine judges_of_body rfl rfl fun site x hshows => ?_
  rw [Validator.not, body_negation, Check.negated]
  obtain ⟨r, hr, hvalid, -⟩ := h.run .plain x (Site.shows_plain hshows)
  obtain ⟨e, he⟩ := h.denied x
  rw [Run.bind_eq, toCheck_run, hr, Run.bind_done, hvalid]
  cases d .plain x with
  | true =>
    rw [if_pos rfl]
    split
    · exact Run.judges_refusal x x .null _
    · rw [he]
      exact Run.judges_refusal x x .null e
  | false => exact Run.judges_success x .null

/-- The length of a value meets all bounds. -/
def lengthVerdict (ds : List Verdict) (x : Value) : Bool :=
  match x.size? with
  | some size => ds.all fun d => d .plain (.int size)
  | none => false

/-- A length need not be one that can be shown, so its bounds have to decide about all of them. -/
theorem run_judges_length
    (h : List.Forall₂ (fun v d => ∀ y, (v.evaluate .plain y).Judges y (d .plain y)) vs ds)
    (message : Option Value) (site : Site) (x : Value) :
    ((length vs message).evaluate site x).Judges x (lengthVerdict ds x) := by
  rw [length, evaluate_of_unset rfl, body_sized, Check.sized, lengthVerdict]
  cases x.size? with
  | none => exact Run.judges_refusal x x .null _
  | some size =>
    have hall : AllJudge vs (.int size) (ds.map fun d => d .plain (.int size)) := by
      rw [AllJudge, List.forall₂_map_right_iff]
      exact h.imp fun v d hv => hv (.int size)
    obtain ⟨r, hr, hvalid, -⟩ := judges_threaded hall none (.int size)
    rw [List.all_map] at hvalid
    dsimp only
    rw [Run.bind_eq, hr, Run.bind_done]
    refine ⟨_, rfl, ?_, fun _ => rfl⟩
    rw [Result.isValid, List.isEmpty_map]
    exact hvalid

theorem judges_length
    (h : List.Forall₂ (fun v d => ∀ y, (v.evaluate .plain y).Judges y (d .plain y)) vs ds)
    (message : Option Value) : (length vs message).Judges fun _ => lengthVerdict ds where
  run site x _ := run_judges_length h message site x
  denied _ := ⟨_, rfl⟩

end

/-! ## A guard and the rest -/

theorem run_judges_and {guard : Validator} {x : Value} {first rest : Bool}
    (hguard : (guard.evaluate .plain x).Judges x first)
    (hrest : first = true → (w.evaluate .plain x).Judges x rest) (site : Site) :
    ((guard.and w).evaluate site x).Judges x (first && rest) := by
  rw [evaluate_of_unset rfl, body_and]
  refine judges_threaded_cons hguard fun haccepts => ?_
  have hlast : (Check.threaded none x [w.toCheck] x).Judges x (rest && true) :=
    judges_threaded_cons (hrest haccepts) fun _ => Run.judges_success x x
  rwa [Bool.and_true] at hlast

/-- Behind a guard the second validator only has to judge what the guard accepts. -/
theorem judges_and {guard : Validator} {accepted whole : Value → Bool}
    (hguard : guard.Judges fun _ => accepted)
    (hrest : ∀ x, Site.plain.shows x = true → accepted x = true →
      (w.evaluate .plain x).Judges x (whole x))
    (hothers : ∀ x, accepted x = false → whole x = false) :
    (guard.and w).Judges fun _ => whole where
  run site x hshows := by
    have hplain := Site.shows_plain hshows
    have hwhole : whole x = (accepted x && whole x) := by
      cases h : accepted x with
      | true => rfl
      | false => exact hothers x h
    rw [hwhole]
    exact run_judges_and (hguard.run .plain x hplain) (hrest x hplain) site
  denied := denied_of_describe?_eq_none rfl

end Validator
end Conform

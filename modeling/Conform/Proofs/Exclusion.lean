import Conform.Proofs.SameRuns

/-
  Exclusions. `noneOf` asks every member and denies what the accepting ones expect, which is what a
  collecting conjunction of negations does: `noneOf_matches_denials`. From this walk through the
  members it also follows that a failure has one denial for each member that accepts, in their
  order, and that an exclusion accepts a value exactly when the choice of the same members rejects
  it. All of this is proved of runs that need not wait; a run with all waiting done is the run of
  the members with leaves that answer at once.
  What the two do not share is the name of the group in the refusal of a synchronous validation
  that would have to wait (`validate_names_exclusion`).
-/

namespace Conform

/-! ## Verdicts -/

namespace Run

/-- Whether the answer of a run is valid, if the run ends with one and need not wait for it. -/
def verdict? (run : Run Result) : Option Bool :=
  match run.outcome? with
  | some (.ok r) => some r.isValid
  | _ => none

theorem verdict?_eq_some {run : Run Result} {accepted : Bool} :
    run.verdict? = some accepted ↔ ∃ r, run.outcome? = some (.ok r) ∧ r.isValid = accepted := by
  unfold verdict?
  split
  · next r h =>
    rw [h]
    constructor
    · intro hvalid
      exact ⟨r, rfl, Option.some.inj hvalid⟩
    · rintro ⟨s, hs, hvalid⟩
      cases hs
      rw [hvalid]
  · next hnone =>
    constructor
    · nofun
    · rintro ⟨r, hr, -⟩
      exact absurd hr (hnone r)

/-- The verdict of a run depends on its results alone. -/
theorem verdict?_eq_of_results {run other : Run Result}
    (h : ∀ r, run.outcome? = some (.ok r) ↔ other.outcome? = some (.ok r)) :
    run.verdict? = other.verdict? := by
  refine Option.ext fun accepted => ?_
  rw [verdict?_eq_some, verdict?_eq_some]
  exact exists_congr fun r => and_congr_left fun _ => h r

theorem verdict?_bind {α : Type} {run : Run α} {next : α → Run Result} {accepted : Bool} :
    (run.bind next).verdict? = some accepted ↔
      ∃ a, run.outcome? = some (.ok a) ∧ (next a).verdict? = some accepted := by
  constructor
  · intro h
    obtain ⟨r, hr, hvalid⟩ := verdict?_eq_some.mp h
    obtain ⟨a, ha, hnext⟩ := outcome?_bind_eq_ok.mp hr
    exact ⟨a, ha, verdict?_eq_some.mpr ⟨r, hnext, hvalid⟩⟩
  · rintro ⟨a, ha, h⟩
    obtain ⟨r, hr, hvalid⟩ := verdict?_eq_some.mp h
    exact verdict?_eq_some.mpr ⟨r, outcome?_bind_eq_ok.mpr ⟨a, ha, hr⟩, hvalid⟩

@[simp] theorem verdict?_done (r : Result) : (Run.done r).verdict? = some r.isValid := rfl

end Run

namespace Check

/-! ## What a negation asks -/

/-- What a negation asks of a value: what to deny of it if the check accepts it. -/
def questioned (c : Check) (x : Value) : Run (Option Expectation) :=
  (c.run .plain x).bind fun r =>
    if r.isValid then (Run.ofExcept (c.denied x)).bind fun e => .done (some e) else .done none

theorem negated_eq_questioned {message : Option Value} (h : replacing? message = none) (c : Check)
    (x : Value) : c.negated message x = (c.questioned x).bind fun e? => match e? with
      | some e => .done (.refusal x e)
      | none => .done (.success x) := by
  rw [negated, questioned, h, Run.bind_assoc, Run.bind_eq]
  congr 1
  funext r
  cases r.isValid with
  | true => cases c.denied x <;> rfl
  | false => rfl

theorem excluding_eq_questioned (message : Option Value) (c : Check) (x : Value)
    (es : List Expectation) :
    (((excluding message x).visit c es).bind fun r =>
      Run.ofExcept ((excluding message x).step c r es)) =
        (c.questioned x).bind fun e? => .done (.inr (es ++ e?.toList)) := by
  rw [questioned, Run.bind_assoc]
  change ((c.run .plain x).bind fun r => Run.ofExcept (if r.isValid then
    (c.denied x).map fun e => (Sum.inr (es ++ [e]) : Result ⊕ List Expectation)
    else .ok (.inr es))) = _
  congr 1
  funext r
  cases r.isValid with
  | true => cases c.denied x <;> rfl
  | false =>
    change Run.done (Sum.inr es) = Run.done (Sum.inr (es ++ []))
    rw [List.append_nil]

/-- An exclusion gathers what to deny of the value, member by member. -/
theorem excluding_cons (message : Option Value) (x : Value) (c : Check) (cs : List Check)
    (es : List Expectation) : (excluding message x).start (c :: cs) es =
      (c.questioned x).bind fun e? => (excluding message x).start cs (es ++ e?.toList) := by
  have hstep := excluding_eq_questioned message c x es
  calc (excluding message x).start (c :: cs) es
      = (((excluding message x).visit c es).bind fun r =>
          Run.ofExcept ((excluding message x).step c r es)).bind
          (Sum.elim .done ((excluding message x).start cs)) := by
        rw [Walk.start_cons, Run.bind_assoc]
        rfl
    _ = _ := by
        rw [hstep, Run.bind_assoc]
        rfl

/-- A check that rejects the value is asked for nothing. -/
theorem outcome?_questioned_eq_none (c : Check) (x : Value) :
    (c.questioned x).outcome? = some (.ok none) ↔ (c.run .plain x).verdict? = some false := by
  rw [questioned, Run.outcome?_bind_eq_ok, Run.verdict?_eq_some]
  refine exists_congr fun r => and_congr_right fun _ => ?_
  cases r.isValid with
  | true => cases c.denied x <;> simp [Run.ofExcept, Run.outcome?]
  | false => simp

/-- A check that accepts the value is asked for what to deny of it. -/
theorem outcome?_questioned_eq_some (c : Check) (x : Value) (e : Expectation) :
    (c.questioned x).outcome? = some (.ok (some e)) ↔
      (c.run .plain x).verdict? = some true ∧ c.denied x = .ok e := by
  rw [questioned, Run.outcome?_bind_eq_ok, Run.verdict?_eq_some, ← exists_and_right]
  refine exists_congr fun r => ?_
  cases r.isValid with
  | true => cases c.denied x <;> simp [Run.ofExcept, Run.outcome?]
  | false => simp

end Check

namespace Validator

/-! ## Exclusions as conjunctions of denials -/

/-- The negation of a validator finds wrong with a value what is to be denied of it. -/
theorem collecting_not (message : Option Value) (v : Validator) (cs : List Check) (x : Value)
    (es : List Expectation) :
    (Check.collecting message x).start ((v.not none).toCheck :: cs) es =
      (v.toCheck.questioned x).bind fun e? =>
        (Check.collecting message x).start cs (es ++ e?.toList) := by
  rw [Check.collecting_cons, toCheck_run, evaluate_not, Check.negated_eq_questioned rfl,
    Run.bind_assoc]
  congr 1
  funext e?
  cases e? <;> rfl

/-- By induction on the members: both walks gather the same. -/
theorem excluding_eq_collecting_not (message : Option Value) (vs : List Validator) (x : Value)
    (es : List Expectation) :
    (Check.excluding message x).start (vs.map toCheck) es =
      (Check.collecting message x).start ((vs.map fun v => v.not none).map toCheck) es := by
  induction vs generalizing es with
  | nil => rfl
  | cons v vs ih =>
    rw [List.map_cons, List.map_cons, List.map_cons, Check.excluding_cons, collecting_not]
    congr 1
    funext e?
    exact ih _

theorem evaluate_noneOf_eq_denials (vs : List Validator) (message : Option Value) (site : Site)
    (x : Value) :
    (noneOf vs message).evaluate site x =
      (allOf (vs.map fun v => v.not none) message true).evaluate site x := by
  rw [evaluate_noneOf, evaluate_allOf_collecting, excluding_eq_collecting_not]

theorem noneOf_matches_collected_denials (vs : List Validator) (message : Option Value) :
    (noneOf vs message).Matches id (allOf (vs.map fun v => v.not none) message true) := by
  have hnots : (vs.map fun v => v.not none).map traced =
      (vs.map traced).map fun v => v.not none := by
    rw [List.map_map, List.map_map]
    exact List.map_congr_left fun v _ => mapLeaves_not v none
  have htraced : (allOf (vs.map fun v => v.not none) message true).traced =
      allOf ((vs.map traced).map fun v => v.not none) message true := by
    rw [← hnots]
    exact mapLeaves_allOf _ message true
  refine matches_of_evaluate (fun site x => ?_) fun site x => ?_
  · rw [evaluate_noneOf_eq_denials]
  · rw [htraced, traced, mapLeaves_noneOf, Run.seen_id, Run.seen_id]
    exact evaluate_noneOf_eq_denials _ message site x

/-! ## One denial for each member that accepts -/

/-- What an exclusion gathers: the denials of the members that accept, behind what it has. -/
theorem denials_of_excluding {message : Option Value} (hmessage : replacing? message = none)
    (vs : List Validator) (x : Value) (es : List Expectation) (r : Result)
    (h : ((Check.excluding message x).start (vs.map toCheck) es).outcome? = some (.ok r)) :
    ∃ denials, r.expectations = es ++ denials ∧
      List.Forall₂ (fun v e => v.toCheck.denied x = .ok e)
        (vs.filter fun v => (v.evaluate .plain x).verdict? == some true) denials := by
  induction vs generalizing es with
  | nil =>
    rw [List.map_nil, Walk.start_nil] at h
    refine ⟨[], ?_, .nil⟩
    cases es with
    | nil =>
      cases h
      rfl
    | cons e es =>
      cases h
      simp [Check.excluding, Check.settle, Result.override, hmessage]
  | cons v vs ih =>
    rw [List.map_cons, Check.excluding_cons] at h
    obtain ⟨e?, hasked, hrest⟩ := Run.outcome?_bind_eq_ok.mp h
    obtain ⟨denials, hdenials, hforall⟩ := ih _ hrest
    cases e? with
    | none =>
      have hrejects := (Check.outcome?_questioned_eq_none v.toCheck x).mp hasked
      rw [toCheck_run] at hrejects
      refine ⟨denials, by simpa using hdenials, ?_⟩
      rw [List.filter_cons_of_neg (by simp [hrejects])]
      exact hforall
    | some e =>
      have haccepts := (Check.outcome?_questioned_eq_some v.toCheck x e).mp hasked
      rw [toCheck_run] at haccepts
      refine ⟨e :: denials, by simpa using hdenials, ?_⟩
      rw [List.filter_cons_of_pos (by simp [haccepts.1])]
      exact .cons haccepts.2 hforall

/-! ## Exclusions and choices -/

theorem isValid_settle_getD (message : Option Value) (x : Value) (es : List Expectation) :
    ((Check.settle message x es).getD (.success x x)).isValid = es.isEmpty := by
  cases es with
  | nil => rfl
  | cons e es => exact Result.isValid_override message _

/-- An exclusion accepts if it has nothing to deny so far and no member accepts. -/
theorem verdict?_excluding_eq_true (message : Option Value) (vs : List Validator) (x : Value)
    (es : List Expectation) :
    ((Check.excluding message x).start (vs.map toCheck) es).verdict? = some true ↔
      es = [] ∧ ∀ v ∈ vs, (v.evaluate .plain x).verdict? = some false := by
  induction vs generalizing es with
  | nil =>
    change some ((Check.settle message x es).getD (.success x x)).isValid = some true ↔ _
    rw [isValid_settle_getD]
    simp
  | cons v vs ih =>
    rw [List.map_cons, Check.excluding_cons, Run.verdict?_bind, List.forall_mem_cons]
    constructor
    · rintro ⟨e?, hasked, hrest⟩
      obtain ⟨hnil, hvs⟩ := (ih _).mp hrest
      obtain ⟨hes, he⟩ := List.append_eq_nil_iff.mp hnil
      obtain rfl := Option.toList_eq_nil_iff.mp he
      exact ⟨hes, (Check.outcome?_questioned_eq_none _ x).mp hasked, hvs⟩
    · rintro ⟨rfl, hv, hvs⟩
      exact ⟨none, (Check.outcome?_questioned_eq_none _ x).mpr hv, (ih _).mpr ⟨rfl, hvs⟩⟩

/-- A choice rejects if no member accepts. -/
theorem verdict?_choosing_eq_false (message : Option Value) (vs : List Validator) (x : Value)
    (es : List Expectation) :
    ((Check.choosing message x).start (vs.map toCheck) es).verdict? = some false ↔
      ∀ v ∈ vs, (v.evaluate .plain x).verdict? = some false := by
  induction vs generalizing es with
  | nil =>
    have hinvalid : ((Check.choosing message x).finish es).isValid = false := by
      refine (Result.isValid_override message _).trans ?_
      cases es <;> rfl
    simp [hinvalid]
  | cons v vs ih =>
    rw [List.map_cons, Check.choosing_cons, Run.verdict?_bind, List.forall_mem_cons,
      @Run.verdict?_eq_some (v.evaluate .plain x), ← exists_and_right]
    refine exists_congr fun r => ?_
    rw [toCheck_run, and_assoc]
    refine and_congr_right fun _ => ?_
    cases hvalid : r.isValid with
    | true => simp [hvalid]
    | false => simp [ih]

/-- An exclusion answers if every member does, and it can be said what to deny of the accepting
ones. -/
theorem exists_verdict?_excluding (message : Option Value) {vs : List Validator} {x : Value}
    (hvs : ∀ v ∈ vs, ∃ accepted, (v.evaluate .plain x).verdict? = some accepted ∧
      (accepted = true → ∃ e, v.toCheck.denied x = .ok e)) (es : List Expectation) :
    ∃ accepted, ((Check.excluding message x).start (vs.map toCheck) es).verdict? =
      some accepted := by
  induction vs generalizing es with
  | nil => exact ⟨_, rfl⟩
  | cons v vs ih =>
    obtain ⟨⟨accepted, hv, hdenied⟩, hrest⟩ := List.forall_mem_cons.mp hvs
    rw [List.map_cons, Check.excluding_cons]
    cases accepted with
    | true =>
      obtain ⟨e, he⟩ := hdenied rfl
      have hasked := (Check.outcome?_questioned_eq_some v.toCheck x e).mpr ⟨hv, he⟩
      obtain ⟨others, h⟩ := ih hrest (es ++ [e])
      exact ⟨others, Run.verdict?_bind.mpr ⟨some e, hasked, h⟩⟩
    | false =>
      have hasked := (Check.outcome?_questioned_eq_none v.toCheck x).mpr hv
      obtain ⟨others, h⟩ := ih hrest (es ++ [])
      exact ⟨others, Run.verdict?_bind.mpr ⟨none, hasked, h⟩⟩

/-- A choice answers if every member does. -/
theorem exists_verdict?_choosing (message : Option Value) {vs : List Validator} {x : Value}
    (hvs : ∀ v ∈ vs, ∃ accepted, (v.evaluate .plain x).verdict? = some accepted)
    (es : List Expectation) :
    ∃ accepted, ((Check.choosing message x).start (vs.map toCheck) es).verdict? =
      some accepted := by
  induction vs generalizing es with
  | nil => exact ⟨_, rfl⟩
  | cons v vs ih =>
    obtain ⟨⟨accepted, hv⟩, hrest⟩ := List.forall_mem_cons.mp hvs
    obtain ⟨r, hr, hvalid⟩ := Run.verdict?_eq_some.mp hv
    obtain ⟨others, h⟩ := ih hrest (es ++ r.expectations)
    rw [List.map_cons, Check.choosing_cons]
    cases accepted with
    | true =>
      refine ⟨true, Run.verdict?_bind.mpr ⟨r, hr, ?_⟩⟩
      rw [hvalid, if_pos rfl, Run.verdict?_done, hvalid]
    | false =>
      refine ⟨others, Run.verdict?_bind.mpr ⟨r, hr, ?_⟩⟩
      rwa [hvalid, if_neg Bool.false_ne_true]

/-- Both say of every member that it rejects the value. -/
theorem noneOf_accepts_iff_anyOf_rejects (vs : List Validator) (message other : Option Value)
    (site : Site) (x : Value) :
    ((noneOf vs message).evaluate site x).verdict? = some true ↔
      ((anyOf vs other).evaluate site x).verdict? = some false := by
  rw [evaluate_noneOf, evaluate_anyOf, verdict?_excluding_eq_true, verdict?_choosing_eq_false]
  exact and_iff_right rfl

/-- Where no member fails to answer, an exclusion and a choice answer, and one accepts. -/
theorem noneOf_opposes_anyOf {vs : List Validator} {x : Value}
    (hvs : ∀ v ∈ vs, ∃ accepted, (v.evaluate .plain x).verdict? = some accepted ∧
      (accepted = true → ∃ e, v.toCheck.denied x = .ok e)) (message other : Option Value)
    (site : Site) :
    ∃ accepted, ((anyOf vs other).evaluate site x).verdict? = some accepted ∧
      ((noneOf vs message).evaluate site x).verdict? = some !accepted := by
  have hiff := noneOf_accepts_iff_anyOf_rejects vs message other site x
  have hanswers : ∀ v ∈ vs, ∃ accepted, (v.evaluate .plain x).verdict? = some accepted :=
    fun v hv => (hvs v hv).imp fun _ => And.left
  obtain ⟨accepted, hany⟩ := exists_verdict?_choosing other hanswers []
  obtain ⟨excluded, hnone⟩ := exists_verdict?_excluding message hvs []
  rw [← evaluate_anyOf vs other site x] at hany
  rw [← evaluate_noneOf vs message site x] at hnone
  refine ⟨accepted, hany, ?_⟩
  cases accepted with
  | false => exact hiff.mpr hany
  | true =>
    cases excluded with
    | false => exact hnone
    | true =>
      rw [hiff.mp hnone] at hany
      cases hany

/-! ## Entry points -/

/-- The validation of a value through one of the entry points: with all waiting done, or without
any. -/
def validated (awaiting : Bool) (v : Validator) (x : Value) (present : Bool) : Run Result :=
  if awaiting then v.validateAsync x present else v.validate x present

/-- The validator that answers at once what the entry point waits for. -/
def settled (awaiting : Bool) (v : Validator) : Validator := if awaiting then v.synchronous else v

theorem settled_noneOf (awaiting : Bool) (vs : List Validator) (message : Option Value) :
    (noneOf vs message).settled awaiting = noneOf (vs.map (settled awaiting)) message := by
  cases awaiting with
  | true => exact mapLeaves_noneOf vs message
  | false => exact congrArg (noneOf · message) (List.map_id vs).symm

theorem settled_anyOf (awaiting : Bool) (vs : List Validator) (message : Option Value) :
    (anyOf vs message).settled awaiting = anyOf (vs.map (settled awaiting)) message := by
  cases awaiting with
  | true => exact mapLeaves_anyOf vs message
  | false => exact congrArg (anyOf · message) (List.map_id vs).symm

theorem denied_settled (awaiting : Bool) (v : Validator) (x : Value) :
    (v.settled awaiting).toCheck.denied x = v.toCheck.denied x := by
  have hdescribe : (v.settled awaiting).toCheck.describe = v.toCheck.describe := by
    cases awaiting with
    | true => exact describe?_mapLeaves v
    | false => rfl
  unfold Check.denied
  rw [hdescribe]

theorem outcome?_validated_eq_ok (awaiting : Bool) (v : Validator) (x : Value) (present : Bool)
    (r : Result) :
    (v.validated awaiting x present).outcome? = some (.ok r) ↔
      ((v.settled awaiting).evaluate ⟨present, none⟩ x).outcome? = some (.ok r) := by
  cases awaiting with
  | true =>
    change (v.evaluate ⟨present, none⟩ x).awaited.outcome? = _ ↔
      (v.synchronous.evaluate ⟨present, none⟩ x).outcome? = _
    rw [evaluate_synchronous, Run.outcome?_awaited_eq_ok]
  | false => exact outcome?_validate_eq_ok r

theorem verdict?_validated (awaiting : Bool) (v : Validator) (x : Value) (present : Bool)
    (accepted : Bool) :
    (v.validated awaiting x present).verdict? = some accepted ↔
      ((v.settled awaiting).evaluate ⟨present, none⟩ x).verdict? = some accepted := by
  rw [Run.verdict?_eq_of_results (outcome?_validated_eq_ok awaiting v x present)]

/-- An exclusion matches the collecting conjunction of the negations of its members. Its failures
have, unless there is a message for them, one denial for each member that accepts. It accepts a
value exactly when the choice of its members rejects it, and where no member fails to answer, one
of the two accepts. -/
theorem noneOf_matches_denials (vs : List Validator) (message : Option Value) :
    (noneOf vs message).Matches id (allOf (vs.map fun v => v.not none) message true) ∧
      ∀ awaiting x present,
        (replacing? message = none → ∀ r,
          ((noneOf vs message).validated awaiting x present).outcome? = some (.ok r) →
            List.Forall₂ (fun v e => v.toCheck.denied x = .ok e)
              (vs.filter fun v => (v.validated awaiting x true).verdict? == some true)
              r.expectations) ∧
        (((noneOf vs message).validated awaiting x present).verdict? = some true ↔
          ((anyOf vs none).validated awaiting x present).verdict? = some false) ∧
        ((∀ v ∈ vs, ∃ accepted, (v.validated awaiting x true).verdict? = some accepted ∧
            (accepted = true → ∃ e, v.toCheck.denied x = .ok e)) →
          ∃ accepted, ((anyOf vs none).validated awaiting x present).verdict? = some accepted ∧
            ((noneOf vs message).validated awaiting x present).verdict? = some !accepted) := by
  refine ⟨noneOf_matches_collected_denials vs message, fun awaiting x present => ⟨?_, ?_, ?_⟩⟩
  · intro hmessage r hr
    rw [outcome?_validated_eq_ok, settled_noneOf, evaluate_noneOf] at hr
    obtain ⟨denials, hdenials, hforall⟩ := denials_of_excluding hmessage _ x [] r hr
    rw [List.filter_map, List.forall₂_map_left_iff] at hforall
    rw [hdenials, List.nil_append]
    have hfilter : (vs.filter fun v => (v.validated awaiting x true).verdict? == some true) =
        vs.filter ((fun v : Validator => (v.evaluate .plain x).verdict? == some true) ∘
          settled awaiting) := by
      refine List.filter_congr fun v _ => ?_
      rw [Bool.eq_iff_iff, beq_iff_eq, Function.comp_apply, beq_iff_eq]
      exact verdict?_validated awaiting v x true true
    rw [hfilter]
    refine hforall.imp fun v e he => ?_
    rwa [denied_settled] at he
  · rw [verdict?_validated, verdict?_validated, settled_noneOf, settled_anyOf]
    exact noneOf_accepts_iff_anyOf_rejects _ message none _ x
  · intro hvs
    have hsettled : ∀ v ∈ vs.map (settled awaiting),
        ∃ accepted, (v.evaluate .plain x).verdict? = some accepted ∧
          (accepted = true → ∃ e, v.toCheck.denied x = .ok e) := by
      intro w hw
      obtain ⟨v, hv, rfl⟩ := List.mem_map.mp hw
      obtain ⟨accepted, haccepted, hdenied⟩ := hvs v hv
      rw [denied_settled]
      exact ⟨accepted, (verdict?_validated awaiting v x true accepted).mp haccepted, hdenied⟩
    obtain ⟨accepted, hany, hnone⟩ := noneOf_opposes_anyOf hsettled message none ⟨present, none⟩
    refine ⟨accepted, ?_, ?_⟩
    · rw [verdict?_validated, settled_anyOf]
      exact hany
    · rw [verdict?_validated, settled_noneOf]
      exact hnone

/-- A leaf that has to be waited for and one that answers at once accept, and each has its denial;
the negation between them has none. The choice of the three accepts. -/
theorem exclusion_denies_accepting_members :
    (replacing? none = none ∧
      (∀ v ∈ [validLater, valid.not none, valid],
        ∃ accepted, (v.validated true .null true).verdict? = some accepted ∧
          (accepted = true → ∃ e, v.toCheck.denied .null = .ok e))) ∧
      (noneOf [validLater, valid.not none, valid] none).Matches id
        (allOf ([validLater, valid.not none, valid].map fun v => v.not none) none true) ∧
      (∃ r, ((noneOf [validLater, valid.not none, valid] none).validated true .null true).outcome? =
          some (.ok r) ∧
        List.Forall₂ (fun v e => v.toCheck.denied .null = .ok e) [validLater, valid]
          r.expectations) ∧
      ∃ accepted,
        ((anyOf [validLater, valid.not none, valid] none).validated true .null true).verdict? =
          some accepted ∧
        ((noneOf [validLater, valid.not none, valid] none).validated true .null true).verdict? =
          some !accepted := by
  have hanswers : ∀ v ∈ [validLater, valid.not none, valid],
      ∃ accepted, (v.validated true .null true).verdict? = some accepted ∧
        (accepted = true → ∃ e, v.toCheck.denied .null = .ok e) := by
    refine List.forall_mem_cons.mpr ⟨⟨true, rfl, fun _ => ⟨_, rfl⟩⟩, List.forall_mem_cons.mpr
      ⟨⟨false, rfl, fun h => absurd h Bool.false_ne_true⟩,
        List.forall_mem_singleton.mpr ⟨true, rfl, fun _ => ⟨_, rfl⟩⟩⟩⟩
  obtain ⟨hmatches, hfacts⟩ :=
    noneOf_matches_denials [validLater, valid.not none, valid] none
  obtain ⟨hdenials, -, hopposes⟩ := hfacts true .null true
  exact ⟨⟨rfl, hanswers⟩, hmatches, ⟨_, rfl, hdenials rfl _ rfl⟩, hopposes hanswers⟩

/-- An exclusion and a conjunction of negations are refused under different names. -/
theorem validate_names_exclusion :
    ((noneOf [validLater] none).validate .null true).outcome? =
        some (.error (.asyncReached (some "NoneOf(1)"))) ∧
      ((allOf ([validLater].map fun v => v.not none) none true).validate .null true).outcome? =
        some (.error (.asyncReached (some "All(1)"))) ∧
      ((noneOf [validLater] none).validate .null true).outcome? ≠
        ((allOf ([validLater].map fun v => v.not none) none true).validate
          .null true).outcome? := by
  have hnone : ((noneOf [validLater] none).validate .null true).outcome? =
      some (.error (.asyncReached (some "NoneOf(1)"))) := rfl
  have hall : ((allOf ([validLater].map fun v => v.not none) none true).validate
      .null true).outcome? = some (.error (.asyncReached (some "All(1)"))) := rfl
  refine ⟨hnone, hall, ?_⟩
  rw [hnone, hall]
  simp

end Validator
end Conform

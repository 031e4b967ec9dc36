import Conform.Proofs.EntryPoints
import Conform.Proofs.EqualValues
import Conform.Proofs.PartAccounting
import Conform.Proofs.StructureVerdicts
import Conform.Proofs.UntouchedValues

/-
  Choices by key and tagged unions. `switchBy` looks up what a map has under a key among the
  discriminators and carries out the case that is listed there. `taggedUnion` is the same choice
  written out: every case asks for its own discriminator before it looks at the value.

  Main result: `switchBy_decides_as_union`. The look-up ends at the first discriminator that is
  equal to the value under the key, the union at the first case that accepts; since no two
  discriminators are equal and equality is transitive, a value selects one case at most
  (`find?_of_selects`), and both come down to that case. The run of the look-up is the run of the
  selected case, so nothing of any other case is carried out.

  The union compares the value under the key with each discriminator. That is why the result is
  about values that can be keys: a set is equal to a frozen set that is a discriminator, and the
  union takes it, but it cannot be looked up.
-/

namespace Conform

def Value.under? (x key : Value) : Option Value :=
  match x with
  | .map entries => Entries.find? entries key
  | _ => none

theorem Value.isWellFormed_of_under? {x key y : Value} (hx : x.isWellFormed = true)
    (h : x.under? key = some y) : y.isWellFormed = true := by
  cases x with
  | map entries =>
    obtain ⟨entry, hfound, rfl⟩ := Option.map_eq_some_iff.mp h
    exact isWellFormed_of_mem_parts hx (mem_parts_map (List.mem_of_find?_eq_some hfound)).2
  | _ => cases h

namespace Schema

/-- The cases of a choice by key: the key can be one, no two discriminators are equal, and all of
them can be shown, for neither the choice nor the union is made of what its messages cannot show. -/
structure AreCases (key : Value) (cases : Schema) : Prop where
  isHashable : key.isHashable = true
  isShowable : key.isShowable = true
  areShowable : ∀ c ∈ cases, c.1.isShowable = true
  areWellFormed : ∀ c ∈ cases, c.1.isWellFormed = true
  different : cases.Pairwise fun c d => c.1.equals d.1 = false

/-- Whether the value has the discriminator of the case under the key. -/
def selects (key x : Value) (c : Value × Validator) : Bool :=
  (x.under? key).any fun y => y.equals c.1

variable {key x : Value} {cases : Schema}

theorem selects_of_under? {y : Value} (h : x.under? key = some y) (c : Value × Validator) :
    selects key x c = y.equals c.1 := by
  rw [selects, h, Option.any_some]

theorem not_selects_of_under?_eq_none (h : x.under? key = none) (c : Value × Validator) :
    selects key x c = false := by
  rw [selects, h, Option.any_none]

/-- Two cases that a value selects have equal discriminators. -/
theorem AreCases.equals_of_selects (h : cases.AreCases key) (hx : x.isWellFormed = true)
    {c d : Value × Validator} (hc : c ∈ cases) (hcx : selects key x c = true)
    (hdx : selects key x d = true) : c.1.equals d.1 = true := by
  cases hy : x.under? key with
  | none =>
    rw [not_selects_of_under?_eq_none hy] at hcx
    cases hcx
  | some y =>
    rw [selects_of_under? hy] at hcx hdx
    have hback : c.1.equals y = true :=
      Value.equals_symm (Value.isWellFormed_of_under? hx hy) (h.areWellFormed c hc) hcx
    exact Value.equals_trans hback hdx

/-- A case that is selected is the one that is found: none in front of it is selected. -/
theorem AreCases.find?_of_selects (h : cases.AreCases key) (hx : x.isWellFormed = true)
    {c : Value × Validator} (hc : c ∈ cases) (hcx : selects key x c = true) :
    cases.find? (selects key x) = some c := by
  obtain ⟨before, after, hsplit⟩ := List.append_of_mem hc
  refine List.find?_eq_some_iff_append.mpr ⟨hcx, before, after, hsplit, fun d hd => ?_⟩
  have hdifferent := h.different
  rw [hsplit] at hdifferent
  have hne : d.1.equals c.1 = false :=
    (List.pairwise_append.mp hdifferent).2.2 d hd c List.mem_cons_self
  cases hdx : selects key x d with
  | false => rfl
  | true =>
    have hmem : d ∈ cases := hsplit ▸ List.mem_append_left _ hd
    have hequal := h.equals_of_selects hx hmem hdx hcx
    exact absurd (hne.symm.trans hequal) Bool.false_ne_true

end Schema

namespace Validator

open Schema

variable {key x : Value} {cases : Schema}

/-! ## The look-up -/

theorem accepts_hasKey (hkey : key.isHashable = true) (x : Value) :
    (Predicate.hasKey key).accepts x = .ok (x.under? key).isSome := by
  cases x with
  | map entries =>
    rw [Predicate.accepts, if_pos hkey, Entries.hasKey_iff_find?]
    rfl
  | _ => rfl

theorem isTotal_hasKey_of_isHashable (hkey : key.isHashable = true)
    (hshown : key.isShowable = true) : (Predicate.hasKey key).IsTotal := by
  refine ⟨fun x => ⟨_, accepts_hasKey hkey x⟩, ?_, nofun⟩
  rw [Predicate.hasMessage, Predicate.shown, List.all_cons, hshown]
  rfl

theorem lookUp_of_under? {y : Value} (h : x.under? key = some y) :
    Check.lookUp key x = .ok y := by
  cases x with
  | map entries =>
    have hfound : Entries.find? entries key = some y := h
    rw [Check.lookUp, hfound]
  | _ => cases h

/-- The look-up asks for a map, then for the key, and then goes to the case. -/
theorem evaluate_switchBy (key : Value) (cases : Schema) (site : Site) (x : Value) :
    (switchBy key cases).evaluate site x = Check.threaded none x
      [(isMap none).toCheck,
        (containsKey key (some (.str ("Missing key: \"" ++ key.display ++ "\"")))).toCheck,
        (Validator.dispatch key cases {}).toCheck] x := by
  rw [evaluate_of_unset rfl]
  rfl

theorem evaluate_isMap_of_under? {y : Value} (h : x.under? key = some y) :
    (isMap none).evaluate .plain x = .done (.success x) := by
  cases x with
  | map entries => exact evaluate_isMap entries
  | _ => cases h

/-- A map with the key goes to the cases. -/
theorem evaluate_switchBy_of_under? (hkey : key.isHashable = true) {y : Value}
    (h : x.under? key = some y) (cases : Schema) (site : Site) :
    (switchBy key cases).evaluate site x =
      ((Validator.dispatch key cases {}).evaluate .plain x).bind fun r => .done (r.behind x) := by
  have haccepts : (Predicate.hasKey key).accepts x = .ok true := by
    rw [accepts_hasKey hkey, h]
    rfl
  rw [evaluate_switchBy, threaded_of_accepts x _ (evaluate_isMap_of_under? h), containsKey,
    threaded_of_accepts x _ (evaluate_ofPredicate_of_accepts haccepts _ .plain), threaded_single,
    toCheck_run]

theorem evaluate_dispatch_of_under? (hshown : key.isShowable = true) {y : Value}
    (h : x.under? key = some y) (hy : y.isHashable = true) (cases : Schema) :
    (Validator.dispatch key cases {}).evaluate .plain x =
      match cases.find? (selects key x) with
      | none => .done (.refusal x (Check.unknownCase key (cases.map (·.1)) x y))
      | some c => (c.2.evaluate .plain x).bind fun r =>
          .done (if r.isValid then .success x else r) := by
  have hlisting : listing y cases = cases.find? (selects key x) := by
    rw [listing, if_pos hy, funext (selects_of_under? h)]
  have hcases : (cases.map fun c => (c.1, id c.2)) = cases := List.map_id cases
  have hdispatch := evaluate_dispatch key cases id x
  rw [hcases, lookUp_of_under? h, Run.ofExcept, Run.bind_done, hlisting] at hdispatch
  rw [hdispatch]
  cases cases.find? (selects key x) with
  | none =>
    dsimp only
    rw [Check.segmentOf_of_isShowable hshown, Run.ofExcept, Run.bind_done]
  | some c => rfl

/-- The run of a choice is the run of the case that is selected; the value stays as it is, and a
rejection is the result of the case. -/
theorem evaluate_switchBy_of_selects (h : cases.AreCases key) (hx : x.isWellFormed = true)
    (hhashable : ∀ y, x.under? key = some y → y.isHashable = true) {c : Value × Validator}
    (hc : c ∈ cases) (hcx : selects key x c = true) (site : Site) :
    (switchBy key cases).evaluate site x =
      (c.2.evaluate .plain x).bind fun r => .done (if r.isValid then .success x x else r) := by
  cases hy : x.under? key with
  | none =>
    rw [not_selects_of_under?_eq_none hy] at hcx
    cases hcx
  | some y =>
    rw [evaluate_switchBy_of_under? h.isHashable hy,
      evaluate_dispatch_of_under? h.isShowable hy (hhashable y hy), h.find?_of_selects hx hc hcx,
      Run.bind_assoc]
    congr 1
    funext r
    cases hvalid : r.isValid with
    | true => rfl
    | false => simp [Result.behind, hvalid]

/-- A choice of which no case is selected rejects at once. -/
theorem evaluate_switchBy_of_not_selects (h : cases.AreCases key)
    (hhashable : ∀ y, x.under? key = some y → y.isHashable = true)
    (hnone : ∀ c ∈ cases, selects key x c = false) (site : Site) :
    ∃ r, (switchBy key cases).evaluate site x = .done r ∧ r.isValid = false := by
  cases hy : x.under? key with
  | some y =>
    have hfind : cases.find? (selects key x) = none :=
      List.find?_eq_none.mpr fun c hc hcx => Bool.false_ne_true ((hnone c hc).symm.trans hcx)
    rw [evaluate_switchBy_of_under? h.isHashable hy,
      evaluate_dispatch_of_under? h.isShowable hy (hhashable y hy), hfind]
    exact ⟨_, rfl, rfl⟩
  | none =>
    have hrejects : (Predicate.hasKey key).accepts x = .ok false := by
      rw [accepts_hasKey h.isHashable, hy]
      rfl
    have htotal := isTotal_hasKey_of_isHashable h.isHashable h.isShowable
    obtain ⟨r, hr, hinvalid, -⟩ := run_judges_ofPredicate htotal hrejects
      (some (.str ("Missing key: \"" ++ key.display ++ "\""))) .plain
    rw [evaluate_switchBy, containsKey]
    cases x with
    | map entries =>
      rw [threaded_of_accepts _ _ (evaluate_isMap entries), Check.threaded_cons, toCheck_run, hr,
        Run.bind_done, hinvalid]
      exact ⟨_, rfl, (Result.isValid_override none r).trans hinvalid⟩
    | _ => exact ⟨_, rfl, rfl⟩

/-! ## The union -/

/-- A map that has a value equal to the discriminator under the key. -/
def tagged (key discriminator : Value) : Validator :=
  (containsKey key none).and (mapOf [(key, isEqual discriminator none)] none)

/-- The choice between the cases, each of which asks for its own discriminator. -/
def taggedUnion (key : Value) (cases : Schema) : Validator :=
  anyOf (cases.map fun c => (tagged key c.1).and c.2) none

/-- What asks for the discriminator decides about every value, also about one that no message can
show: no message of its own shows the value. -/
theorem run_judges_tagged (h : cases.AreCases key) {c : Value × Validator} (hc : c ∈ cases)
    (site : Site) (x : Value) :
    ((tagged key c.1).evaluate site x).Judges x (selects key x c) := by
  have hkey : ((containsKey key none).evaluate .plain x).Judges x (x.under? key).isSome :=
    run_judges_ofPredicate (isTotal_hasKey_of_isHashable h.isHashable h.isShowable)
      (accepts_hasKey h.isHashable x) none .plain
  have hselects : selects key x c = ((x.under? key).isSome && selects key x c) := by
    rw [selects]
    cases x.under? key <;> rfl
  rw [hselects]
  refine run_judges_and hkey (fun hfound => ?_) site
  obtain ⟨y, hy⟩ := Option.isSome_iff_exists.mp hfound
  rw [selects_of_under? hy]
  cases x with
  | map entries =>
    have hentry : Entries.find? entries key = some y := hy
    have hequal := run_judges_ofPredicate (isTotal_equal (h.areShowable c hc))
      (rfl : (Predicate.equal c.1).accepts y = .ok (y.equals c.1)) none
      ⟨Entries.hasKey entries key, some entries⟩
    obtain ⟨r, hr, hvalid, -⟩ := hequal
    have hfield : ((Validator.fields [(key, isEqual c.1 none)] none {}).evaluate .plain
        (.map entries)).Judges (.map entries) ([y.equals c.1].all id) := by
      refine run_judges_fields (.cons ⟨h.isShowable, r, ?_, hvalid⟩ .nil)
      rw [hentry]
      exact hr
    have hmap := run_judges_and (⟨_, evaluate_isMap entries, rfl, fun _ => rfl⟩ :
      ((isMap none).evaluate .plain (.map entries)).Judges (.map entries) true)
      (fun _ => hfield) .plain
    rwa [List.all_cons, List.all_nil, Bool.and_true, Bool.true_and] at hmap
  | _ => cases hy

/-- Behind a validator that decides comes the other one, on the value itself, or nothing. -/
theorem verdict?_and_of_judges {guard : Validator} {accepted : Bool}
    (h : (guard.evaluate .plain x).Judges x accepted) (v : Validator) (site : Site) :
    ((guard.and v).evaluate site x).verdict? =
      if accepted then (v.evaluate .plain x).verdict? else some false := by
  obtain ⟨r, hr, hvalid, hvalue⟩ := h
  rw [evaluate_of_unset rfl, body_and, Check.threaded_cons, toCheck_run, hr, Run.bind_done, hvalid]
  cases accepted with
  | true =>
    rw [if_pos rfl, if_pos rfl, hvalue rfl, threaded_single, toCheck_run]
    exact Run.verdict?_bind_of_isValid (fun r => by simp) _
  | false =>
    rw [if_neg Bool.false_ne_true, if_neg Bool.false_ne_true, Run.verdict?_done,
      Result.isValid_override, hvalid]

/-- A choice whose members all answer accepts if one of them does. -/
theorem exists_verdict?_anyOf {vs : List Validator} (message : Option Value)
    (h : ∀ v ∈ vs, ∃ accepted, (v.evaluate .plain x).verdict? = some accepted) (site : Site) :
    ∃ accepted, ((anyOf vs message).evaluate site x).verdict? = some accepted ∧
      (accepted = true ↔ ∃ v ∈ vs, (v.evaluate .plain x).verdict? = some true) := by
  have hrejects := verdict?_choosing_eq_false message vs x []
  obtain ⟨accepted, haccepted⟩ := exists_verdict?_choosing message h []
  rw [evaluate_anyOf]
  refine ⟨accepted, haccepted, fun hyes => ?_, ?_⟩
  · by_contra hnone
    have hall : ∀ v ∈ vs, (v.evaluate .plain x).verdict? = some false := by
      intro v hv
      obtain ⟨own, hown⟩ := h v hv
      cases own with
      | true => exact absurd ⟨v, hv, hown⟩ hnone
      | false => exact hown
    rw [hrejects.mpr hall, hyes] at haccepted
    cases haccepted
  · rintro ⟨v, hv, hown⟩
    cases accepted with
    | true => rfl
    | false =>
      rw [hrejects.mp haccepted v hv] at hown
      cases hown

/-- What a choice between the cases accepts: a value that is accepted by a case that it selects. -/
def AcceptsSelected (key : Value) (cases : Schema) (x : Value) : Prop :=
  ∃ c ∈ cases, selects key x c = true ∧ (c.2.evaluate .plain x).verdict? = some true

theorem exists_verdict?_taggedUnion (h : cases.AreCases key)
    (hanswers : ∀ c ∈ cases, ∃ r, (c.2.evaluate .plain x).outcome? = some (.ok r)) (site : Site) :
    ∃ accepted, ((taggedUnion key cases).evaluate site x).verdict? = some accepted ∧
      (accepted = true ↔ AcceptsSelected key cases x) := by
  have hmember : ∀ c ∈ cases, (((tagged key c.1).and c.2).evaluate .plain x).verdict? =
      if selects key x c then (c.2.evaluate .plain x).verdict? else some false :=
    fun c hc => verdict?_and_of_judges (run_judges_tagged h hc .plain x) c.2 .plain
  have hmembers : ∀ v ∈ cases.map fun c => (tagged key c.1).and c.2,
      ∃ accepted, (v.evaluate .plain x).verdict? = some accepted := by
    intro v hv
    obtain ⟨c, hc, rfl⟩ := List.mem_map.mp hv
    obtain ⟨r, hr⟩ := hanswers c hc
    rw [hmember c hc]
    cases selects key x c with
    | true => exact ⟨_, Run.verdict?_eq_some.mpr ⟨r, hr, rfl⟩⟩
    | false => exact ⟨false, rfl⟩
  obtain ⟨accepted, haccepted, hiff⟩ := exists_verdict?_anyOf none hmembers site
  refine ⟨accepted, haccepted, hiff.trans ?_⟩
  rw [AcceptsSelected]
  constructor
  · rintro ⟨v, hv, hown⟩
    obtain ⟨c, hc, rfl⟩ := List.mem_map.mp hv
    rw [hmember c hc] at hown
    cases hcx : selects key x c with
    | true =>
      rw [hcx, if_pos rfl] at hown
      exact ⟨c, hc, hcx, hown⟩
    | false =>
      rw [hcx] at hown
      cases hown
  · rintro ⟨c, hc, hcx, hown⟩
    refine ⟨_, List.mem_map_of_mem hc, ?_⟩
    rw [hmember c hc, hcx, if_pos rfl, hown]

/-- The look-up accepts what the union accepts: no other case is selected. -/
theorem exists_verdict?_switchBy (h : cases.AreCases key) (hx : x.isWellFormed = true)
    (hhashable : ∀ y, x.under? key = some y → y.isHashable = true)
    (hanswers : ∀ c ∈ cases, ∃ r, (c.2.evaluate .plain x).outcome? = some (.ok r)) (site : Site) :
    ∃ accepted, ((switchBy key cases).evaluate site x).verdict? = some accepted ∧
      (accepted = true ↔ AcceptsSelected key cases x) := by
  by_cases hselected : ∃ c ∈ cases, selects key x c = true
  · obtain ⟨c, hc, hcx⟩ := hselected
    obtain ⟨r, hr⟩ := hanswers c hc
    have hown : (c.2.evaluate .plain x).verdict? = some r.isValid :=
      Run.verdict?_eq_some.mpr ⟨r, hr, rfl⟩
    refine ⟨r.isValid, ?_, fun hvalid => ⟨c, hc, hcx, hvalid ▸ hown⟩, ?_⟩
    · rw [evaluate_switchBy_of_selects h hx hhashable hc hcx,
        Run.verdict?_bind_of_isValid (fun r => ?_), hown]
      cases hvalid : r.isValid with
      | true => rfl
      | false => exact congrArg some hvalid
    · rintro ⟨d, hd, hdx, haccepted⟩
      have hsame : some c = some d :=
        (h.find?_of_selects hx hc hcx).symm.trans (h.find?_of_selects hx hd hdx)
      rw [← Option.some.inj hsame, hown] at haccepted
      exact Option.some.inj haccepted
  · have hnone : ∀ c ∈ cases, selects key x c = false :=
      fun c hc => Bool.eq_false_iff.mpr fun hcx => hselected ⟨c, hc, hcx⟩
    obtain ⟨r, hr, hinvalid⟩ := evaluate_switchBy_of_not_selects h hhashable hnone site
    refine ⟨false, ?_, fun himpossible => absurd himpossible Bool.false_ne_true, ?_⟩
    · rw [hr, Run.verdict?_done, hinvalid]
    · rintro ⟨c, hc, hcx, -⟩
      exact absurd ⟨c, hc, hcx⟩ hselected

/-! ## Entry points -/

/-- An answer that need not be waited for is the answer at either entry point. -/
theorem verdict?_validated_of_some {v : Validator} {present accepted : Bool}
    (h : (v.evaluate ⟨present, none⟩ x).verdict? = some accepted) (awaiting : Bool) :
    (v.validated awaiting x present).verdict? = some accepted := by
  obtain ⟨r, hr, hvalid⟩ := Run.verdict?_eq_some.mp h
  rw [verdict?_validated_iff, Run.verdict?_eq_some]
  refine ⟨r, ?_, hvalid⟩
  cases awaiting with
  | true => exact Run.outcome?_awaited_eq_ok.mpr (Run.outcome?_atOnce_of_ok hr)
  | false => exact hr

/-- A choice by key and the union of its cases have the same verdict on every value that has
nothing under the key or something that can be a key, if the cases answer that value. The run of
the choice is the run of the case that is selected, and no case is carried out if none is; an
accepted value stays as it is, and a rejection is the result of the case. -/
theorem switchBy_decides_as_union (h : cases.AreCases key) (hx : x.isWellFormed = true)
    (hhashable : ∀ y, x.under? key = some y → y.isHashable = true)
    (hanswers : ∀ c ∈ cases, ∃ r, (c.2.evaluate .plain x).outcome? = some (.ok r))
    (awaiting present : Bool) :
    (∃ accepted, ((switchBy key cases).validated awaiting x present).verdict? = some accepted ∧
      ((taggedUnion key cases).validated awaiting x present).verdict? = some accepted) ∧
    (∀ site,
      (∀ c ∈ cases, selects key x c = true → (switchBy key cases).evaluate site x =
        (c.2.evaluate .plain x).bind fun r => .done (if r.isValid then .success x x else r)) ∧
      ((∀ c ∈ cases, selects key x c = false) →
        ∃ r, (switchBy key cases).evaluate site x = .done r ∧ r.isValid = false)) ∧
    ∀ r, ((switchBy key cases).validated awaiting x present).outcome? = some (.ok r) →
      (r.isValid = true → r.value = x) ∧
      (r.isValid = false → ∀ c ∈ cases, selects key x c = true →
        (c.2.validated awaiting x true).outcome? = some (.ok r)) := by
  refine ⟨?_, fun site => ⟨fun c hc hcx => ?_, fun hnone => ?_⟩, ?_⟩
  · obtain ⟨accepted, haccepted, hiff⟩ :=
      exists_verdict?_switchBy h hx hhashable hanswers ⟨present, none⟩
    obtain ⟨accepted', haccepted', hiff'⟩ := exists_verdict?_taggedUnion h hanswers ⟨present, none⟩
    obtain rfl : accepted = accepted' := Bool.eq_iff_iff.mpr (hiff.trans hiff'.symm)
    exact ⟨accepted, verdict?_validated_of_some haccepted awaiting,
      verdict?_validated_of_some haccepted' awaiting⟩
  · exact evaluate_switchBy_of_selects h hx hhashable hc hcx site
  · exact evaluate_switchBy_of_not_selects h hhashable hnone site
  · intro r hr
    rw [outcome?_validated_iff] at hr
    refine ⟨fun hvalid => ?_, fun hinvalid c hc hcx => ?_⟩
    · have hback := handsBack_of_isolatesChanges (isolatesChanges_switchBy key cases)
        ⟨present, none⟩ x
      cases awaiting with
      | true => exact hback r (Run.outcome?_awaited_eq_ok.mp hr) hvalid
      | false => exact hback r (Run.outcome?_atOnce_of_ok hr) hvalid
    · rw [evaluate_switchBy_of_selects h hx hhashable hc hcx, Run.carriedOut_bind] at hr
      obtain ⟨own, hown, hlast⟩ := Run.outcome?_bind_eq_ok.mp hr
      rw [Run.carriedOut_done, Run.outcome?_done, Option.some.injEq, Except.ok.injEq] at hlast
      cases hvalid : own.isValid with
      | true =>
        rw [hvalid, if_pos rfl] at hlast
        rw [← hlast] at hinvalid
        cases hinvalid
      | false =>
        rw [hvalid, if_neg Bool.false_ne_true] at hlast
        rw [outcome?_validated_iff, ← hlast]
        exact hown

/-- Cases for the absent value and for one; no map passes the second one. -/
def maybeCases : Schema := [(.null, isMap none), (.int 1, isList none)]

theorem areCases_maybeCases : maybeCases.AreCases (.str "type") where
  isHashable := rfl
  isShowable := rfl
  areShowable := List.forall_mem_cons.mpr ⟨rfl, List.forall_mem_singleton.mpr
    (isShowable_int (n := 1) (by decide))⟩
  areWellFormed := List.forall_mem_cons.mpr ⟨rfl, List.forall_mem_singleton.mpr rfl⟩
  different := List.pairwise_pair.mpr (by decide +kernel)

/-- True under the key selects the case for one, whose result is the result of the choice; the
union rejects the map as well. -/
theorem switchBy_decides_as_union_true_for_one :
    maybeCases.AreCases (.str "type") ∧
    ((switchBy (.str "type") maybeCases).validated false
      (.map [(.str "type", .bool true)]) true).verdict? = some false ∧
    ((taggedUnion (.str "type") maybeCases).validated false
      (.map [(.str "type", .bool true)]) true).verdict? = some false ∧
    ∃ r, ((switchBy (.str "type") maybeCases).validated false
        (.map [(.str "type", .bool true)]) true).outcome? = some (.ok r) ∧
      ((isList none).validated false (.map [(.str "type", .bool true)]) true).outcome? =
        some (.ok r) := by
  have hunder : (Value.map [(.str "type", .bool true)]).under? (.str "type") =
      some (.bool true) := by
    simp [Value.under?, Entries.find?, Value.equals]
  have hselects : selects (.str "type") (.map [(.str "type", .bool true)])
      (.int 1, isList none) = true := (selects_of_under? hunder _).trans (by decide +kernel)
  have hanswers : ∀ c ∈ maybeCases, ∃ r, (c.2.evaluate .plain
      (.map [(.str "type", .bool true)])).outcome? = some (.ok r) :=
    List.forall_mem_cons.mpr ⟨⟨_, rfl⟩, List.forall_mem_singleton.mpr ⟨_, rfl⟩⟩
  have hhashable : ∀ y, (Value.map [(.str "type", .bool true)]).under? (.str "type") = some y →
      y.isHashable = true := by
    intro y hy
    obtain rfl := Option.some.inj (hunder.symm.trans hy)
    rfl
  obtain ⟨⟨accepted, hlookup, hunion⟩, -, hresult⟩ :=
    switchBy_decides_as_union areCases_maybeCases (by decide +kernel) hhashable hanswers false true
  have hrejects : accepted = false := by
    cases accepted with
    | false => rfl
    | true => exact absurd hlookup (by decide +kernel)
  rw [hrejects] at hlookup hunion
  obtain ⟨r, hr, hinvalid⟩ := Run.verdict?_eq_some.mp hlookup
  exact ⟨areCases_maybeCases, hlookup, hunion, r, hr,
    (hresult r hr).2 hinvalid _ (List.mem_cons_of_mem _ List.mem_cons_self) hselects⟩

end Validator
end Conform

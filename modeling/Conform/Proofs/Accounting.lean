import Conform.Proofs.Acceptance
import Conform.Proofs.Reporting

/-
  Nodes account for their faults if their children do. The nodes that take a value apart could
  raise faults of their own: a map is asked for its fields, a list for its items, a key for its
  value. Each stands behind guards that let no other value through, and the guards answer for
  every value (`Settles`).
-/

namespace Conform

namespace Validator

open Run

/-- A validator for every observer that accounts for its faults, whatever value it is given. -/
structure Sound (v : Observer → Validator) : Prop where
  flags : ∀ o, (v o).flags = (v none).flags
  body : ∀ site x, Accounted (fun _ => True) fun o => (v o).body site x

variable {v : Observer → Validator}

theorem Sound.evaluate (h : Sound v) (site : Site) (x : Value) :
    Accounted (fun _ => True) fun o => (v o).evaluate site x := by
  have hevaluate : (fun o => (v o).evaluate site x) = fun o =>
      if (v none).flags.letPass site x then .done (.success x) else (v o).body site x := by
    funext o
    rw [Validator.evaluate, h.flags o]
    rfl
  rw [hevaluate]
  cases hpass : (v none).flags.letPass site x with
  | true => exact accounted_done trivial
  | false => exact h.body site x

theorem Sound.withFlags (h : Sound v) (f : Flags) : Sound fun o => (v o).withFlags f where
  flags o := by rw [flags_withFlags, flags_withFlags]
  body site x := by
    simp only [body_withFlags]
    exact h.body site x

/-! ## Guards -/

/-- Behind a guard, only the values that it accepts matter. -/
theorem accounted_guarded {Q : Result → Prop} {guard : Validator} {given x : Value}
    {checks : Observer → List Check} (hguard : guard.Settles x)
    (hinvalid : ∀ r : Result, r.isValid = false → Q r)
    (hrest : guard.evaluate .plain x = .done (.success x) →
      Accounted Q fun o => Check.threaded none given (checks o) x) :
    Accounted Q fun o => Check.threaded none given (guard.toCheck :: checks o) x := by
  obtain ⟨r, hr, hsuccess⟩ := hguard
  cases hvalid : r.isValid with
  | true =>
    rw [hsuccess hvalid] at hr
    simp only [threaded_of_accepts given _ hr]
    exact hrest hr
  | false =>
    have hstop : ∀ o, Check.threaded none given (guard.toCheck :: checks o) x = .done r := by
      intro o
      rw [Check.threaded_cons, toCheck_run, hr, bind_done, hvalid]
      rfl
    simp only [hstop]
    exact accounted_done (hinvalid r hvalid)

theorem sound_ofPredicate {p : Predicate} (h : p.IsTotal) (message : Option Value) :
    Sound fun _ => ofPredicate p message where
  flags _ := rfl
  body site x := by
    obtain ⟨r, hr, -⟩ := settles_ofPredicate h message x
    have hbody : (ofPredicate p message).body site x = .done r := by
      rw [← hr, evaluate_of_unset rfl]
      rfl
    rw [hbody]
    exact accounted_done trivial

/-- The validator answers every value at once. -/
def Answers (v : Validator) : Prop := ∀ x, ∃ r, v.evaluate .plain x = .done r

theorem answers_ofPredicate {p : Predicate} (h : p.IsTotal) (message : Option Value) :
    (ofPredicate p message).Answers := by
  intro x
  obtain ⟨r, hr, -⟩ := settles_ofPredicate h message x
  exact ⟨r, hr⟩

theorem answers_anyOf {vs : List Validator} (h : ∀ v ∈ vs, v.Answers) (message : Option Value) :
    (anyOf vs message).Answers := by
  intro x
  have hchoosing : ∀ es, ∃ r, (Check.choosing message x).start (vs.map toCheck) es = .done r := by
    induction vs with
    | nil => exact fun es => ⟨_, rfl⟩
    | cons v vs ih =>
      intro es
      obtain ⟨r, hr⟩ := h v List.mem_cons_self x
      rw [List.map_cons, Check.choosing_cons, toCheck_run, hr, bind_done]
      split
      · exact ⟨r, rfl⟩
      · exact ih (fun u hu => h u (List.mem_cons_of_mem _ hu)) _
  obtain ⟨r, hr⟩ := hchoosing []
  refine ⟨r, ?_⟩
  rw [evaluate_of_unset rfl, anyOf, body_disjunction]
  exact hr

theorem settles_isMap (x : Value) : (isMap none).Settles x :=
  settles_ofPredicate (isTotal_isType _ _ _) none x

theorem settles_isList (x : Value) : (isList none).Settles x :=
  settles_ofPredicate (isTotal_isType _ _ _) none x

theorem settles_containsKey (key : String) (message : Option Value) (x : Value) :
    (containsKey (.str key) message).Settles x :=
  settles_ofPredicate (isTotal_hasKey key) message x

/-- The length of a list is compared with a number that can be shown. -/
theorem settles_lengthIs {n : Nat} (h : (Value.int n).isShowable = true) (items : List Value) :
    (lengthIs n).Settles (.list items) := by
  have htotal : (Predicate.equal (.int n)).IsTotal := by
    refine ⟨fun _ => ⟨_, rfl⟩, ?_, nofun⟩
    rw [Predicate.hasMessage, Predicate.shown, List.all_cons, h]
    rfl
  obtain ⟨r, hr, -⟩ := settles_ofPredicate htotal none (.int items.length)
  have hlength := sized_isEqual items n
  rw [isEqual, hr, found_done, bind_done] at hlength
  refine ⟨_, hlength, fun hvalid => ?_⟩
  rw [Result.isValid_iff] at hvalid
  exact congrArg (fun es => (⟨.list items, es, .null⟩ : Result)) hvalid

theorem exists_map_of_isMap {x : Value}
    (h : (isMap none).evaluate .plain x = .done (.success x)) : ∃ entries, x = .map entries := by
  cases x with
  | map entries => exact ⟨entries, rfl⟩
  | _ => cases h

theorem exists_list_of_isList {x : Value}
    (h : (isList none).evaluate .plain x = .done (.success x)) : ∃ items, x = .list items := by
  cases x with
  | list items => exact ⟨items, rfl⟩
  | _ => cases h

/-- Behind the guard of a map there are only maps. -/
theorem accounted_isMap {Q : Result → Prop} {given x : Value} {checks : Observer → List Check}
    (hinvalid : ∀ r : Result, r.isValid = false → Q r)
    (hrest : ∀ entries, x = .map entries →
      Accounted Q fun o => Check.threaded none given (checks o) x) :
    Accounted Q fun o => Check.threaded none given ((isMap none).toCheck :: checks o) x := by
  refine accounted_guarded (settles_isMap x) hinvalid fun haccepts => ?_
  obtain ⟨entries, hx⟩ := exists_map_of_isMap haccepts
  exact hrest entries hx

/-- Behind the guard of a list there are only lists. -/
theorem accounted_isList {Q : Result → Prop} {given x : Value} {checks : Observer → List Check}
    (hinvalid : ∀ r : Result, r.isValid = false → Q r)
    (hrest : ∀ items, x = .list items →
      Accounted Q fun o => Check.threaded none given (checks o) x) :
    Accounted Q fun o => Check.threaded none given ((isList none).toCheck :: checks o) x := by
  refine accounted_guarded (settles_isList x) hinvalid fun haccepts => ?_
  obtain ⟨items, hx⟩ := exists_list_of_isList haccepts
  exact hrest items hx

/-- Behind the guard of a key the map has a value under it. -/
theorem accounted_containsKey {Q : Result → Prop} {key : String} {message : Option Value}
    {entries : Entries} {given : Value} {checks : Observer → List Check}
    (hinvalid : ∀ r : Result, r.isValid = false → Q r)
    (hrest : ∀ y, Check.lookUp (.str key) (.map entries) = .ok y →
      Accounted Q fun o => Check.threaded none given (checks o) (.map entries)) :
    Accounted Q fun o => Check.threaded none given
      ((containsKey (.str key) message).toCheck :: checks o) (.map entries) := by
  refine accounted_guarded (settles_containsKey key message _) hinvalid fun haccepts => ?_
  cases hfind : Entries.find? entries (.str key) with
  | some y =>
    refine hrest y ?_
    rw [Check.lookUp, hfind]
  | none =>
    have hmissing : (Predicate.hasKey (.str key)).accepts (.map entries) = .ok false := by
      have hkey := Entries.hasKey_iff_find? entries (.str key)
      rw [hfind] at hkey
      exact congrArg Except.ok hkey
    rw [containsKey, evaluate_ofPredicate_of_rejects hmissing,
      expectation_of_hasMessage (isTotal_hasKey key).hasMessage
        (isTotal_hasKey key).ne_brokenPattern] at haccepts
    cases haccepts

/-! ## Several children -/

section Several

variable {γ : Type} {members : List γ} {w : γ → Observer → Validator}
  (h : ∀ m ∈ members, Sound (w m))
include h

theorem accounted_threaded (message : Option Value) (given x : Value) :
    Accounted (fun _ => True) fun o =>
      Check.threaded message given (members.map fun m => (w m o).toCheck) x := by
  refine accounted_start _ (fun o m => (w m o).toCheck) (fun m hm y => ?_) (fun _ => trivial) x
  refine ((h m hm).evaluate .plain y).bind fun r _ => accounted_done ?_
  split <;> trivial

theorem accounted_collected (message : Option Value) (x : Value) :
    Accounted (fun _ => True) fun o =>
      Check.collected message (members.map fun m => (w m o).toCheck) x := by
  refine accounted_start _ (fun o m => (w m o).toCheck) (fun m hm es => ?_) (fun _ => trivial) []
  exact ((h m hm).evaluate .plain x).bind fun r _ => accounted_done trivial

theorem accounted_alternatives (message : Option Value) (x : Value) :
    Accounted (fun _ => True) fun o =>
      Check.alternatives message (members.map fun m => (w m o).toCheck) x := by
  refine accounted_start _ (fun o m => (w m o).toCheck) (fun m hm es => ?_) (fun _ => trivial) []
  refine ((h m hm).evaluate .plain x).bind fun r _ => accounted_done ?_
  split <;> trivial

theorem sound_allOf (message : Option Value) (collecting : Bool) :
    Sound fun o => allOf (members.map fun m => w m o) message collecting where
  flags _ := rfl
  body site x := by
    cases collecting with
    | true =>
      simp only [allOf, body_conjunction_collecting, List.map_map]
      exact accounted_collected h message x
    | false =>
      simp only [allOf, body_conjunction_threading, List.map_map]
      exact accounted_threaded h message x x

theorem sound_anyOf (message : Option Value) :
    Sound fun o => anyOf (members.map fun m => w m o) message where
  flags _ := rfl
  body site x := by
    simp only [anyOf, body_disjunction, List.map_map]
    exact accounted_alternatives h message x

theorem sound_length (message : Option Value) :
    Sound fun o => length (members.map fun m => w m o) message where
  flags _ := rfl
  body site x := by
    simp only [length, body_sized, List.map_map]
    unfold Check.sized
    cases x.size? with
    | none => exact accounted_done trivial
    | some size =>
      exact (accounted_threaded h none _ _).bind fun _ _ => accounted_done trivial

end Several

theorem sound_and {w : Observer → Validator} (hv : Sound v) (hw : Sound w) :
    Sound fun o => (v o).and (w o) where
  flags _ := rfl
  body site x := by
    have hboth : ∀ u ∈ [v, w], Sound u :=
      List.forall_mem_cons.mpr ⟨hv, List.forall_mem_singleton.mpr hw⟩
    simp only [body_and]
    exact accounted_threaded (w := fun u => u) hboth none x x

/-! ## One child -/

theorem sound_withExpectation (h : Sound v) (e : Expectation) :
    Sound fun o => (v o).withExpectation e where
  flags _ := rfl
  body site x := by
    refine (h.evaluate .plain x).bind fun r _ => ?_
    cases r.expectations with
    | nil => exact accounted_done trivial
    | cons first rest => exact accounted_done trivial

theorem sound_withMessage? (h : Sound v) (message : Option Value) :
    Sound fun o => withMessage? message (v o) := by
  unfold withMessage?
  cases replacing? message with
  | none => exact h
  | some text => exact sound_withExpectation h _

theorem sound_defaultTo (h : Sound v) (substitute : Value) :
    Sound fun o => defaultTo substitute (v o) where
  flags _ := rfl
  body _ x := h.evaluate .plain (if x.isNull then substitute else x)

theorem accounted_pivot (h : Sound v) {find : Value → Except Fault (Option Value)} {x : Value}
    (hfind : ∃ found, find x = .ok found) (message : String) (site : Site) :
    Accounted (fun _ => True) fun o => (Validator.pivot find message (v o) {}).body site x := by
  obtain ⟨found, hfound⟩ := hfind
  simp only [body_pivot, Check.pivoted, hfound]
  cases found with
  | none => exact accounted_done trivial
  | some y => exact h.evaluate .plain y

theorem sound_pivot (h : Sound v) {find : Value → Except Fault (Option Value)}
    (hfind : ∀ x, ∃ found, find x = .ok found) (message : String) :
    Sound fun o => Validator.pivot find message (v o) {} where
  flags _ := rfl
  body site x := accounted_pivot h (hfind x) message site

/-- The guard of a conversion answers, and what cannot be converted is a failure. -/
theorem sound_coercion (h : Sound v) {guard : Validator}
    (hguard : guard.Answers) (target : String)
    (convert : Value → Except String Value) :
    Sound fun o => Validator.coercion target guard convert (v o) {} where
  flags _ := rfl
  body site x := by
    obtain ⟨r, hr⟩ := hguard x
    simp only [body_coercion, Check.coerced, toCheck_run, hr, bind_eq, bind_done]
    cases r.isValid with
    | false => exact accounted_done trivial
    | true =>
      cases convert x with
      | ok y => exact h.evaluate .plain y
      | error problem => exact accounted_done trivial

theorem sound_pickKeys (h : Sound v) (keys : List String) : Sound fun o => pickKeys keys (v o) := by
  refine sound_pivot h (fun x => ?_) _
  cases x <;> exact ⟨_, rfl⟩

/-- A text can be a key, so any map can be asked for it. -/
theorem sound_pluckKey (h : Sound v) (key : String) :
    Sound fun o => pluckKey (.str key) (v o) := by
  refine sound_pivot h (fun x => ?_) _
  cases x <;> exact ⟨_, rfl⟩

/-! ## Keys that are written -/

/-- A key that has no text is a warranted call of its text. -/
theorem accounted_keyTexts {Q : Result → Prop} {x : Value} (h : showsKeys x = false) :
    Accounted Q fun o => (Run.raised .tooManyDigits).observed o .keyTexts x :=
  .failed fun _ => ⟨rfl, h⟩

/-- A validator with a note where it cannot write keys accounts for its faults if it fails there and
accounts for its faults elsewhere. -/
theorem accounted_writing {Q : Result → Prop} {writes : Value → Bool} {x : Value}
    (hwritten : writes x = true → Accounted Q fun o => (v o).evaluate .plain x)
    (hunwritten : writes x = false →
      showsKeys x = false ∧ (v none).evaluate .plain x = .raised .tooManyDigits) :
    Accounted Q fun o => (Composition.writing o writes (v o)).evaluate .plain x := by
  have hwriting : ∀ write, (Composition.writing (some write) writes (v (some write))).evaluate
      .plain x = if writes x then (v (some write)).evaluate .plain x
        else (Run.raised .tooManyDigits).observed (some write) .keyTexts x :=
    fun write => Flags.guard_unset _ _ _
  change Reports Q _ ((v none).evaluate .plain x)
  simp only [hwriting]
  cases h : writes x with
  | true => exact hwritten h
  | false =>
    obtain ⟨hkeys, hfault⟩ := hunwritten h
    rw [hfault]
    exact accounted_keyTexts hkeys

theorem sound_flattenKeys (h : Sound v) (delimiter : String) :
    Sound fun o => Composition.writing o showsKeys (flattenKeys delimiter (v o)) where
  flags o := by cases o <;> rfl
  body site x := by
    have hbody : ∀ o, (Composition.writing o showsKeys (flattenKeys delimiter (v o))).body site x =
        (Composition.writing o showsKeys (flattenKeys delimiter (v o))).evaluate .plain x := by
      intro o
      rw [evaluate_of_unset (by cases o <;> rfl)]
      cases o <;> rfl
    simp only [hbody]
    refine accounted_writing (fun hshows => ?_) fun hnot => ?_
    · have hflat : ∃ found, flatten delimiter x = .ok found := by
        cases x with
        | map entries => exact ⟨_, if_pos hshows⟩
        | _ => exact ⟨none, rfl⟩
      have hpivot : ∀ o, (flattenKeys delimiter (v o)).evaluate .plain x =
          (flattenKeys delimiter (v o)).body .plain x := fun o => evaluate_of_unset rfl .plain x
      simp only [hpivot]
      exact accounted_pivot h hflat _ .plain
    · refine ⟨hnot, ?_⟩
      cases x with
      | map entries =>
        have hfault : flatten delimiter (.map entries) = .error .tooManyDigits :=
          if_neg (Bool.eq_false_iff.mp hnot)
        rw [flattenKeys, evaluate_of_unset rfl, body_pivot, Check.pivoted, hfault]
        rfl
      | _ => cases hnot

/-! ## Validators that look at the enclosing map -/

theorem sound_when {condition thenBranch otherwise : Observer → Validator}
    (hcondition : Sound condition) (hthen : Sound thenBranch) (hotherwise : Sound otherwise)
    (message : Option Value) :
    Sound fun o => when (condition o) (thenBranch o) (otherwise o) message where
  flags _ := rfl
  body site x := by
    simp only [when, body_conditional]
    unfold Check.conditional
    cases site.parent with
    | none => exact accounted_done trivial
    | some parent =>
      refine (hcondition.evaluate .plain (.map parent)).bind fun met _ => ?_
      cases met.isValid with
      | true => exact (hthen.evaluate _ x).bind fun _ _ => accounted_done trivial
      | false => exact (hotherwise.evaluate _ x).bind fun _ _ => accounted_done trivial

theorem sound_resolve {choose : Entries → Observer → Validator}
    (h : ∀ parent, Sound (choose parent)) :
    Sound fun o => resolve fun parent => choose parent o where
  flags _ := rfl
  body site x := by
    simp only [resolve, body_resolved]
    unfold Check.chosen
    cases site.parent with
    | none => exact accounted_done trivial
    | some parent => exact (h parent).evaluate _ x

end Validator
end Conform

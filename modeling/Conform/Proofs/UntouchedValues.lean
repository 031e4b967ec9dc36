import Conform.Proofs.Keeping

/-
  Validators that change values only out of sight. A node that has a verdict of its own, or that
  looks at parts of a value, hands the value itself back and not what its children made of it. A
  default conjunction, a choice and the wrappers pass on what a child made. So a value can come out
  changed only if something that changes it stands where nothing above it hands the value back:
  `IsolatesChanges` is the tree of a validator in which this is nowhere the case, with flags at
  every node and with anything at all below the nodes that hand back.

  Main results:
  * `value_of_isolatesChanges`: a valid result of such a validator, synchronous or with all waiting
    done, has the value that came in. Nothing is said about what the children do to it.
  * The constructors of the library are covered one by one (`isolatesChanges_ofPredicate` and the
    lemmas after it). Of a leaf with a function of its own the function is asked to hand back what
    it accepts.
-/

namespace Conform

namespace Run

/-- Whatever valid result the run ends with, all waiting done, has the value. -/
def HandsBack (run : Run Result) (x : Value) : Prop :=
  ∀ r, run.atOnce.outcome? = some (.ok r) → r.isValid = true → r.value = x

/-- Waiting makes no difference to a run that has its answer without. -/
theorem outcome?_atOnce_of_ok {α : Type} {run : Run α} {a : α}
    (h : run.outcome? = some (.ok a)) : run.atOnce.outcome? = some (.ok a) := by
  induction run with
  | done => exact h
  | raised => exact h
  | note event rest ih => exact ih h
  | await => cases h

theorem handsBack_done {r : Result} {x : Value} (h : r.isValid = true → r.value = x) :
    (Run.done r).HandsBack x := by
  intro out hout hvalid
  have hr : r = out := Except.ok.inj (Option.some.inj hout)
  rw [← hr] at hvalid ⊢
  exact h hvalid

theorem handsBack_success (x given : Value) : (Run.done (.success x given)).HandsBack x :=
  handsBack_done fun _ => rfl

theorem handsBack_refusal (x y given : Value) (e : Expectation) :
    (Run.done (.refusal y e given)).HandsBack x :=
  handsBack_done fun h => absurd h (by simp)

theorem handsBack_raised (fault : Fault) (x : Value) :
    (Run.raised fault : Run Result).HandsBack x := nofun

theorem handsBack_bind {α : Type} {run : Run α} {next : α → Run Result} {x : Value}
    (h : ∀ a, run.atOnce.outcome? = some (.ok a) → (next a).HandsBack x) :
    (run.bind next).HandsBack x := by
  intro r hr hvalid
  rw [atOnce_bind, outcome?_bind_eq_ok] at hr
  obtain ⟨a, ha, hnext⟩ := hr
  exact h a ha r hnext hvalid

/-- What is handed back is so when it has to be waited for. -/
theorem handsBack_await {run : Run Result} {x : Value} (h : run.HandsBack x) :
    (Run.await run.awaited).HandsBack x := by
  intro r hr
  rw [atOnce, atOnce_awaited, outcome?_awaited_eq_ok] at hr
  exact h r hr

/-- A test that accepts the value hands it back. -/
theorem handsBack_tested (accepted : Except Fault Bool) (expected : Except Fault Expectation)
    (x : Value) :
    ((ofExcept accepted).bind fun ok => if ok then .done (.success x)
      else (ofExcept expected).bind fun e => .done (.refusal x e)).HandsBack x := by
  refine handsBack_bind fun ok _ => ?_
  split
  · exact handsBack_success x .null
  · exact handsBack_bind fun e _ => handsBack_refusal x x .null e

end Run

/-- A walk hands a value back if its end does and every member that ends it early does. -/
theorem Walk.handsBack {ι σ : Type} (w : Walk ι σ) {x : Value} {members : List ι}
    (hstop : ∀ i ∈ members, ∀ s r out, (w.visit i s).atOnce.outcome? = some (.ok r) →
      w.step i r s = .ok (.inl out) → out.isValid = true → out.value = x)
    (hfinish : ∀ s, (w.finish s).isValid = true → (w.finish s).value = x) (s : σ) :
    (w.start members s).HandsBack x := by
  induction members generalizing s with
  | nil => exact Run.handsBack_done (hfinish s)
  | cons i rest ih =>
    rw [start_cons]
    refine Run.handsBack_bind fun r hr => Run.handsBack_bind fun next hnext => ?_
    rw [Run.atOnce_ofExcept, Run.outcome?_ofExcept] at hnext
    cases next with
    | inl out =>
      exact Run.handsBack_done (hstop i List.mem_cons_self s r out hr (Option.some.inj hnext))
    | inr s => exact ih (fun j hj => hstop j (List.mem_cons_of_mem _ hj)) s

/-! ## Nodes that hand the value back, whatever their children do -/

namespace Check

theorem handsBack_collected (message : Option Value) (cs : List Check) (x : Value) :
    (collected message cs x).HandsBack x := by
  refine (collecting message x).handsBack (fun _ _ _ _ _ _ h => by cases h) (fun es _ => ?_) []
  cases es with
  | nil => rfl
  | cons e es => exact Result.value_override message _

theorem handsBack_exclusion (message : Option Value) (cs : List Check) (x : Value) :
    (exclusion message cs x).HandsBack x := by
  refine (excluding message x).handsBack (fun c _ es r out _ h => ?_) (fun es _ => ?_) []
  · simp only [excluding] at h
    split at h
    · cases hdenied : c.denied x with
      | ok e => rw [hdenied] at h; cases h
      | error fault => rw [hdenied] at h; cases h
    · cases h
  · cases es with
    | nil => rfl
    | cons e es => exact Result.value_override message _

theorem handsBack_negated (message : Option Value) (c : Check) (x : Value) :
    (negated message c x).HandsBack x := by
  refine Run.handsBack_bind fun r _ => ?_
  split
  · split
    · exact Run.handsBack_refusal x x .null _
    · exact Run.handsBack_bind fun e _ => Run.handsBack_refusal x x .null e
  · exact Run.handsBack_success x .null

theorem handsBack_sized (message : Option Value) (bounds : List Check) (x : Value) :
    (sized message bounds x).HandsBack x := by
  unfold sized
  split
  · exact Run.handsBack_refusal x x .null _
  · exact Run.handsBack_bind fun r _ => Run.handsBack_done fun _ => rfl

theorem handsBack_inspected (message : Option Value) (code : Code) (x : Value)
    (parts : List Part) : (inspected message code x parts).HandsBack x :=
  (inspecting message code x).handsBack (fun _ _ _ _ _ _ h => by cases h) (fun _ _ => rfl) []

theorem handsBack_schema (message : Option Value) (checks : List (Value × Check)) (x : Value) :
    (schema message checks x).HandsBack x := by
  unfold schema
  split
  · exact handsBack_inspected message .mapFieldFailed _ _
  · exact Run.handsBack_raised .wrongType x

theorem handsBack_everyItem (message : Option Value) (c : Check) (x : Value) :
    (everyItem message c x).HandsBack x := by
  unfold everyItem
  split
  · exact handsBack_inspected message .listItemFailed _ _
  · exact Run.handsBack_raised .wrongType x

theorem handsBack_places (checks : List Check) (x : Value) : (places checks x).HandsBack x := by
  unfold places
  split
  · exact handsBack_inspected none .listItemFailed _ _
  · exact Run.handsBack_raised .wrongType x

theorem handsBack_dispatched (key : Value) (cases : List (Value × Check)) (x : Value) :
    (dispatched key cases x).HandsBack x := by
  refine Run.handsBack_bind fun y _ => ?_
  split
  · exact Run.handsBack_bind fun _ _ => Run.handsBack_refusal x x .null _
  · refine Run.handsBack_bind fun r _ => Run.handsBack_done fun hvalid => ?_
    by_cases hr : r.isValid = true
    · rw [if_pos hr]
      rfl
    · rw [if_neg hr] at hvalid
      exact absurd hvalid hr

/-! ## Nodes that pass on what a child made of the value -/

theorem handsBack_threaded {cs : List Check} {x : Value}
    (h : ∀ c ∈ cs, (c.run .plain x).HandsBack x) (message : Option Value) (given : Value) :
    (threaded message given cs x).HandsBack x := by
  induction cs with
  | nil => exact Run.handsBack_success x given
  | cons c cs ih =>
    rw [threaded_cons]
    refine Run.handsBack_bind fun r hr => ?_
    cases hvalid : r.isValid with
    | true =>
      -- the next check sees the value itself, since this one handed it back
      have hsame : r.value = x := h c List.mem_cons_self r hr hvalid
      rw [if_pos rfl, hsame]
      exact ih fun d hd => h d (List.mem_cons_of_mem _ hd)
    | false =>
      refine Run.handsBack_done fun hoverridden => ?_
      rw [Result.isValid_override, hvalid] at hoverridden
      cases hoverridden

theorem handsBack_alternatives {cs : List Check} {x : Value}
    (h : ∀ c ∈ cs, (c.run .plain x).HandsBack x) (message : Option Value) :
    (alternatives message cs x).HandsBack x := by
  refine (choosing message x).handsBack (fun c hc es r out hr hout hvalid => ?_) (fun es _ => ?_) []
  · simp only [choosing, Except.ok.injEq] at hout
    split at hout
    · have hfirst : r = out := Sum.inl.inj hout
      rw [← hfirst] at hvalid ⊢
      exact h c hc r hr hvalid
    · cases hout
  · exact Result.value_override message _

theorem handsBack_replaced {c : Check} {x : Value} (h : (c.run .plain x).HandsBack x)
    (e : Expectation) : (replaced e c x).HandsBack x := by
  refine Run.handsBack_bind fun r hr => ?_
  split
  · exact Run.handsBack_done fun hvalid => h r hr hvalid
  · exact Run.handsBack_refusal x _ _ _

theorem handsBack_throwing {c : Check} {x : Value} (h : (c.run .plain x).HandsBack x) :
    (throwing c x).HandsBack x := by
  refine Run.handsBack_bind fun r hr => ?_
  split
  · next hvalid => exact Run.handsBack_done fun _ => h r hr hvalid
  · split
    · exact Run.handsBack_raised _ x
    · exact Run.handsBack_raised _ x

theorem handsBack_conditional {condition thenBranch otherwise : Check} {site : Site} {x : Value}
    (hthen : (thenBranch.run ⟨site.present, none⟩ x).HandsBack x)
    (hotherwise : (otherwise.run ⟨site.present, none⟩ x).HandsBack x) (message : Option Value) :
    (conditional message condition thenBranch otherwise site x).HandsBack x := by
  unfold conditional
  split
  · exact Run.handsBack_refusal x x .null _
  · refine Run.handsBack_bind fun met _ => Run.handsBack_bind fun r hr => ?_
    have hsame : r.isValid = true → r.value = x := by
      split at hr
      · exact hthen r hr
      · exact hotherwise r hr
    refine Run.handsBack_done fun hvalid => ?_
    rw [isValid_relabelled] at hvalid
    unfold relabelled
    split
    · rfl
    · exact hsame hvalid

theorem handsBack_chosen {choose : Entries → Check} {site : Site} {x : Value}
    (h : ∀ parent, ((choose parent).run ⟨site.present, none⟩ x).HandsBack x) :
    (chosen choose site x).HandsBack x := by
  unfold chosen
  split
  · exact Run.handsBack_refusal x x .null _
  · exact h _

end Check

namespace Validator

/-- A valid result of the validator, wherever the value stands, has the value that came in. -/
def HandsBack (v : Validator) : Prop := ∀ site x, (v.evaluate site x).HandsBack x

/-- What flags let pass is handed back as it is. -/
theorem handsBack_of_body {v : Validator} (h : ∀ site x, (v.body site x).HandsBack x) :
    v.HandsBack := by
  intro site x
  unfold evaluate Flags.guard
  split
  · exact Run.handsBack_success x .null
  · exact h site x

/-- Whatever changes values stands below a node that hands the value back. There is no case for the
nodes that change values themselves: a function on the value, a value in place of an absent one, a
part in place of the whole, a conversion, and the value under a key. -/
inductive IsolatesChanges : Validator → Prop where
  /-- A leaf whose function hands back what it accepts. -/
  | function {name run describe flags} (h : ∀ x, (run x).HandsBack x) :
    IsolatesChanges (.function name run describe flags)
  /-- The children of a default conjunction are in sight. -/
  | conjunction {children message flags} (h : ∀ v ∈ children, IsolatesChanges v) :
    IsolatesChanges (.conjunction children message false flags)
  | disjunction {children message flags} (h : ∀ v ∈ children, IsolatesChanges v) :
    IsolatesChanges (.disjunction children message flags)
  | replacement {child e flags} (h : IsolatesChanges child) :
    IsolatesChanges (.replacement child e flags)
  | throwing {child flags} (h : IsolatesChanges child) : IsolatesChanges (.throwing child flags)
  /-- The branches are in sight; the condition, which is about the enclosing map, is not. -/
  | conditional {condition thenBranch otherwise message flags}
    (hthen : IsolatesChanges thenBranch) (hotherwise : IsolatesChanges otherwise) :
    IsolatesChanges (.conditional condition thenBranch otherwise message flags)
  | resolved {choose flags} (h : ∀ parent, IsolatesChanges (choose parent)) :
    IsolatesChanges (.resolved choose flags)
  /-- Anything may stand in a conjunction that gathers what is wrong, and below the nodes that
  follow. -/
  | collecting {children message flags} :
    IsolatesChanges (.conjunction children message true flags)
  | exclusion {children message flags} : IsolatesChanges (.exclusion children message flags)
  | negation {child message flags} : IsolatesChanges (.negation child message flags)
  | sized {bounds message flags} : IsolatesChanges (.sized bounds message flags)
  | dispatch {key cases flags} : IsolatesChanges (.dispatch key cases flags)
  | fields {schema message flags} : IsolatesChanges (.fields schema message flags)
  | listPlaces {validators flags} : IsolatesChanges (.listPlaces validators flags)
  | listItems {item message flags} : IsolatesChanges (.listItems item message flags)

/-! ## The constructors of the library -/

theorem isolatesChanges_leaf (name : String) (accepts : Value → Except Fault Bool)
    (expectation : Value → Except Fault Expectation) :
    (leaf name accepts expectation).IsolatesChanges :=
  .function fun x => Run.handsBack_tested (accepts x) (expectation x) x

/-- A leaf that has to be waited for does the same after waiting. -/
theorem isolatesChanges_asyncLeaf (name : String) (accepts : Value → Except Fault Bool)
    (expectation : Value → Except Fault Expectation) :
    (asyncLeaf name accepts expectation).IsolatesChanges :=
  .function fun x => Run.handsBack_await (Run.handsBack_tested (accepts x) (expectation x) x)

theorem isolatesChanges_ofPredicate (p : Predicate) (message : Option Value) :
    (ofPredicate p message).IsolatesChanges :=
  isolatesChanges_leaf _ _ _

theorem isolatesChanges_valid : valid.IsolatesChanges :=
  .function fun x => Run.handsBack_success x .null

theorem isolatesChanges_onlyKeys (declared : List Value) (message : Option Value) :
    (onlyKeys declared message).IsolatesChanges := by
  refine .function fun x => ?_
  split
  · split
    · exact Run.handsBack_success _ .null
    · exact Run.handsBack_bind fun text _ => Run.handsBack_refusal _ _ .null _
  · exact Run.handsBack_raised .wrongType x

variable {v w : Validator}

theorem IsolatesChanges.withFlags (h : v.IsolatesChanges) (f : Flags) :
    (v.withFlags f).IsolatesChanges := by
  cases h <;> constructor <;> assumption

theorem IsolatesChanges.copyWith (h : v.IsolatesChanges) (nullable? optional? : Option Bool) :
    (v.copyWith nullable? optional?).IsolatesChanges := h.withFlags _

theorem IsolatesChanges.conjuncts (h : v.IsolatesChanges) :
    ∀ u ∈ v.conjuncts, u.IsolatesChanges := by
  unfold Validator.conjuncts
  split
  · cases h with
    | conjunction hchildren => exact hchildren
  · intro u hu
    rw [List.mem_singleton.mp hu]
    exact h

theorem IsolatesChanges.disjuncts (h : v.IsolatesChanges) :
    ∀ u ∈ v.disjuncts, u.IsolatesChanges := by
  unfold Validator.disjuncts
  split
  · cases h with
    | disjunction hchildren => exact hchildren
  · intro u hu
    rw [List.mem_singleton.mp hu]
    exact h

theorem IsolatesChanges.and (hv : v.IsolatesChanges) (hw : w.IsolatesChanges) :
    (v.and w).IsolatesChanges := by
  refine .conjunction fun u hu => ?_
  cases List.mem_append.mp hu with
  | inl hleft => exact hv.conjuncts u hleft
  | inr hright => exact hw.conjuncts u hright

theorem IsolatesChanges.or (hv : v.IsolatesChanges) (hw : w.IsolatesChanges) :
    (v.or w).IsolatesChanges := by
  refine .disjunction fun u hu => ?_
  cases List.mem_append.mp hu with
  | inl hleft => exact hv.disjuncts u hleft
  | inr hright => exact hw.disjuncts u hright

theorem IsolatesChanges.withMessage? (h : v.IsolatesChanges) (message : Option Value) :
    (Validator.withMessage? message v).IsolatesChanges := by
  unfold Validator.withMessage?
  split
  · exact .replacement h
  · exact h

theorem IsolatesChanges.required (h : v.IsolatesChanges) : v.required.IsolatesChanges :=
  .and .negation h

theorem IsolatesChanges.requiredWhen (h : v.IsolatesChanges) (condition : Validator)
    (message : Option Value) : (Validator.requiredWhen condition v message).IsolatesChanges :=
  .conditional h.required (h.copyWith none (some true))

theorem isolatesChanges_mapOf (schema : Schema) (message : Option Value) :
    (mapOf schema message).IsolatesChanges :=
  .and (isolatesChanges_ofPredicate _ none) .fields

theorem isolatesChanges_strictMapOf (schema : Schema) (message : Option Value) :
    (strictMapOf schema message).IsolatesChanges :=
  .and (isolatesChanges_mapOf schema none) (isolatesChanges_onlyKeys _ message)

theorem isolatesChanges_listOf (vs : List Validator) : (listOf vs).IsolatesChanges :=
  .and (.and (isolatesChanges_ofPredicate _ none) .sized) .listPlaces

theorem isolatesChanges_listEach (item : Validator) (message : Option Value) :
    (listEach item message).IsolatesChanges :=
  .and (isolatesChanges_ofPredicate _ none) .listItems

theorem isolatesChanges_switchBy (key : Value) (cases : Schema) :
    (switchBy key cases).IsolatesChanges :=
  .and (.and (isolatesChanges_ofPredicate _ none) (isolatesChanges_ofPredicate _ _)) .dispatch

/-! ## Values that come out -/

/-- By induction on the tree above the nodes that hand back; a node that hands back is not looked
into. -/
theorem handsBack_of_isolatesChanges (h : v.IsolatesChanges) : v.HandsBack := by
  induction h with
  | function hrun => exact handsBack_of_body fun _ x => hrun x
  | conjunction _ ih =>
    refine handsBack_of_body fun site x => ?_
    rw [body_conjunction_threading]
    refine Check.handsBack_threaded (fun c hc => ?_) _ x
    obtain ⟨u, hu, hcheck⟩ := List.mem_map.mp hc
    rw [← hcheck]
    exact ih u hu .plain x
  | disjunction _ ih =>
    refine handsBack_of_body fun site x => ?_
    rw [body_disjunction]
    refine Check.handsBack_alternatives (fun c hc => ?_) _
    obtain ⟨u, hu, hcheck⟩ := List.mem_map.mp hc
    rw [← hcheck]
    exact ih u hu .plain x
  | replacement _ ih => exact handsBack_of_body fun _ x => Check.handsBack_replaced (ih .plain x) _
  | throwing _ ih => exact handsBack_of_body fun _ x => Check.handsBack_throwing (ih .plain x)
  | conditional _ _ ihthen ihotherwise =>
    exact handsBack_of_body fun site x =>
      Check.handsBack_conditional (ihthen ⟨site.present, none⟩ x)
        (ihotherwise ⟨site.present, none⟩ x) _
  | resolved _ ih =>
    exact handsBack_of_body fun site x =>
      Check.handsBack_chosen fun parent => ih parent ⟨site.present, none⟩ x
  | collecting =>
    refine handsBack_of_body fun site x => ?_
    rw [body_conjunction_collecting]
    exact Check.handsBack_collected _ _ x
  | exclusion => exact handsBack_of_body fun _ x => Check.handsBack_exclusion _ _ x
  | negation => exact handsBack_of_body fun _ x => Check.handsBack_negated _ _ x
  | sized => exact handsBack_of_body fun _ x => Check.handsBack_sized _ _ x
  | dispatch => exact handsBack_of_body fun _ x => Check.handsBack_dispatched _ _ x
  | fields => exact handsBack_of_body fun _ x => Check.handsBack_schema _ _ x
  | listPlaces => exact handsBack_of_body fun _ x => Check.handsBack_places _ x
  | listItems => exact handsBack_of_body fun _ x => Check.handsBack_everyItem _ _ x

/-- A valid result has the value that came in if what changes values is out of sight: whether the
key is there or not, whatever the flags are, and with leaves that have to be waited for as without.
-/
theorem value_of_isolatesChanges (h : v.IsolatesChanges) (x : Value) (present : Bool) (r : Result)
    (hvalid : r.isValid = true) :
    ((v.validate x present).outcome? = some (.ok r) → r.value = x) ∧
      ((v.validateAsync x present).outcome? = some (.ok r) → r.value = x) := by
  have hback := handsBack_of_isolatesChanges h ⟨present, none⟩ x
  constructor
  · intro hsync
    have hrun := (outcome?_validate_eq_ok r).mp hsync
    exact hback r (Run.outcome?_atOnce_of_ok hrun) hvalid
  · intro hasync
    exact hback r (Run.outcome?_awaited_eq_ok.mp hasync) hvalid

/-- A list whose items are replaced, after waiting, by absent values; or an absent value. -/
def replacedItems : Validator :=
  let item := allOf [asyncLeaf "later" (fun _ => .ok true) fun x => .ok (Check.passed x),
    transform (fun _ => .ok .null) valid] none false
  ((listEach item none).or (isNull none)).nullable

/-- The list comes out as it went in, although each of its items is replaced. -/
theorem value_of_replacedItems :
    replacedItems.IsolatesChanges ∧ ∃ r : Result, r.isValid = true ∧
      (replacedItems.validateAsync (.list [.int 1, .int 2]) true).outcome? = some (.ok r) ∧
      r.value = .list [.int 1, .int 2] := by
  have hlist := isolatesChanges_listEach (allOf [asyncLeaf "later" (fun _ => .ok true)
    fun x => .ok (Check.passed x), transform (fun _ => .ok .null) valid] none false) none
  have hnull : (isNull none).IsolatesChanges := isolatesChanges_ofPredicate _ none
  have hisolates : replacedItems.IsolatesChanges := (hlist.or hnull).copyWith (some true) none
  have hrun : (replacedItems.validateAsync (.list [.int 1, .int 2]) true).outcome? =
      some (.ok (.success (.list [.int 1, .int 2]) (.list [.int 1, .int 2]))) := rfl
  exact ⟨hisolates, _, rfl, hrun, (value_of_isolatesChanges hisolates _ true _ rfl).2 hrun⟩

end Validator
end Conform

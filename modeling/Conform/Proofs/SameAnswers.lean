import Conform.Proofs.Alike
import Conform.Proofs.ChainWrappers
import Conform.Proofs.Guards
import Conform.Proofs.SameRuns

/-
  Validators that give the same answers: their runs agree in everything that can be observed, in
  the points of waiting, in the faults, in the verdicts and in the values that come out, and may
  differ in the expectations. A message changes expectations only (`sameAnswers_withMessage`). The
  nodes that builders put around validators look at verdicts and values alone, so they make
  validators with the same answers of such validators; a negation also asks what is expected, which
  has to be the same. `Wrapper.IsSteady` is what this comes to for a wrapper. Steady wrappers are
  closed under everything that builders put together, negations included (`isFullyClosed_isSteady`).
-/

namespace Conform

/-- The value that came out, if the result is valid. -/
def Result.answer? (r : Result) : Option Value := if r.isValid then some r.value else none

theorem Result.answer?_of_isValid {r : Result} (h : r.isValid = true) : r.answer? = some r.value :=
  if_pos h

theorem Result.answer?_of_not_isValid {r : Result} (h : r.isValid = false) : r.answer? = none := by
  rw [answer?, h, if_neg Bool.false_ne_true]

/-- What comes after two runs is the same if it looks at nothing but what a view shows of their
answers, and the view shows the same. -/
theorem Run.bind_eq_of_seen {α β γ : Type} {view : α → β} {run other : Run α}
    (h : run.seen view = other.seen view) {next : α → Run γ} (shown : β → Run γ)
    (hnext : ∀ a, next a = shown (view a)) : run.bind next = other.bind next := by
  have hview : ∀ r : Run α, r.bind next = (r.seen view).bind shown := by
    intro r
    rw [seen, bind_assoc, funext hnext]
    rfl
  rw [hview, hview, h]

/-- What a negation makes of a value that its check accepts. -/
def Check.denying (message : Option Value) (denied : Except Fault Expectation) (x : Value) :
    Run Result :=
  match replacing? message with
  | some text =>
    .done (.refusal x { message := text, value := x, code := some Code.notExpected.text })
  | none => (Run.ofExcept denied).bind fun e => .done (.refusal x e)

theorem Check.negated_eq (message : Option Value) (c : Check) (x : Value) :
    c.negated message x = (c.run .plain x).bind fun r =>
      if r.answer?.isSome then denying message (c.denied x) x else .done (.success x) := by
  rw [negated, Run.bind_eq]
  congr 1
  funext r
  cases hr : r.isValid with
  | true => rw [Result.answer?_of_isValid hr]; rfl
  | false => rw [Result.answer?_of_not_isValid hr]; rfl

namespace Validator

def SameAnswers (v w : Validator) : Prop :=
  ∀ x, (v.evaluate .plain x).seen Result.answer? = (w.evaluate .plain x).seen Result.answer?

namespace SameAnswers

variable {u v w : Validator}

theorem refl (v : Validator) : v.SameAnswers v := fun _ => rfl

theorem symm (h : v.SameAnswers w) : w.SameAnswers v := fun x => (h x).symm

theorem trans (h : u.SameAnswers v) (h' : v.SameAnswers w) : u.SameAnswers w :=
  fun x => (h x).trans (h' x)

/-- A node without flags that starts with the run of its child, and then looks at its verdict and
its value. -/
theorem of_body {f g : Validator} (hf : f.flags = {}) (hg : g.flags = {})
    (h : ∀ x, (f.body .plain x).seen Result.answer? = (g.body .plain x).seen Result.answer?) :
    f.SameAnswers g := by
  intro x
  rw [evaluate_of_unset hf, evaluate_of_unset hg]
  exact h x

/-! ## Nodes -/

theorem seen_threaded {vs ws : List Validator} (h : List.Forall₂ SameAnswers vs ws)
    (message : Option Value) (given x : Value) :
    (Check.threaded message given (vs.map toCheck) x).seen Result.answer? =
      (Check.threaded message given (ws.map toCheck) x).seen Result.answer? := by
  induction h generalizing x with
  | nil => rfl
  | @cons v w vs ws hv _ ih =>
    have hnext : ∀ r : Result, Run.seen Result.answer?
        (if r.isValid then Check.threaded message given (vs.map toCheck) r.value
          else .done (r.override message)) = match r.answer? with
            | some y => (Check.threaded message given (vs.map toCheck) y).seen Result.answer?
            | none => .done none := by
      intro r
      cases hr : r.isValid with
      | true => rw [Result.answer?_of_isValid hr, if_pos rfl]
      | false =>
        rw [Result.answer?_of_not_isValid hr, if_neg Bool.false_ne_true]
        exact congrArg Run.done
          (Result.answer?_of_not_isValid ((Result.isValid_override message r).trans hr))
    rw [List.map_cons, List.map_cons, Check.threaded_cons, Check.threaded_cons, Run.seen_bind,
      Run.seen_bind]
    refine (Run.bind_eq_of_seen (hv x) (fun answer => match answer with
      | some y => (Check.threaded message given (vs.map toCheck) y).seen Result.answer?
      | none => .done none) hnext).trans ?_
    congr 1
    funext r
    split
    · exact ih r.value
    · rfl

theorem allOf {vs ws : List Validator} (h : List.Forall₂ SameAnswers vs ws)
    (message : Option Value) :
    (Validator.allOf vs message false).SameAnswers (Validator.allOf ws message false) := by
  refine of_body rfl rfl fun x => ?_
  rw [Validator.allOf, Validator.allOf, body_conjunction_threading, body_conjunction_threading]
  exact seen_threaded h message x x

theorem and (u : Validator) (h : v.SameAnswers w) : (u.and v).SameAnswers (u.and w) := by
  refine of_body rfl rfl fun x => ?_
  rw [body_and, body_and]
  exact seen_threaded (.cons (refl u) (.cons h .nil)) none x x

theorem pivot (h : v.SameAnswers w) (find : Value → Except Fault (Option Value))
    (message : String) :
    (Validator.pivot find message v {}).SameAnswers (.pivot find message w {}) := by
  refine of_body rfl rfl fun x => ?_
  rw [body_pivot, body_pivot, Check.pivoted, Check.pivoted, Run.bind_eq, Run.bind_eq,
    Run.seen_bind, Run.seen_bind]
  congr 1
  funext found
  cases found with
  | none => rfl
  | some y => exact h y

theorem defaultTo (h : v.SameAnswers w) (substitute : Value) :
    (Validator.defaultTo substitute v).SameAnswers (.defaultTo substitute w) :=
  of_body rfl rfl fun _ => h _

theorem coercion (h : v.SameAnswers w) (target : String) (guard : Validator)
    (convert : Value → Except String Value) :
    (Validator.coercion target guard convert v {}).SameAnswers
      (.coercion target guard convert w {}) := by
  refine of_body rfl rfl fun x => ?_
  rw [body_coercion, body_coercion, Check.coerced, Check.coerced, Run.bind_eq, Run.bind_eq,
    Run.seen_bind, Run.seen_bind]
  congr 1
  funext r
  cases r.isValid with
  | false => rfl
  | true =>
    rw [if_pos rfl, if_pos rfl]
    cases convert x with
    | error problem => rfl
    | ok y => exact h y

/-- A negation says which value it has rejected, so what the validators expect of it counts. -/
theorem not (h : v.SameAnswers w) (hdescribe : v.describe? = w.describe?)
    (message : Option Value) : (v.not message).SameAnswers (w.not message) := by
  refine of_body rfl rfl fun x => ?_
  have hdenied : v.toCheck.denied x = w.toCheck.denied x := by
    unfold Check.denied toCheck
    rw [hdescribe]
  rw [Validator.not, Validator.not, body_negation, body_negation, Check.negated_eq,
    Check.negated_eq, hdenied]
  exact congrArg (Run.seen Result.answer?) (Run.bind_eq_of_seen (h x) (fun answer =>
    if answer.isSome then Check.denying message (w.toCheck.denied x) x else .done (.success x))
    fun _ => rfl)

end SameAnswers

/-- A message is all that a validator with a message changes. -/
theorem sameAnswers_withMessage (v : Validator) (text : Value) :
    v.SameAnswers (v.withMessage text) := by
  intro x
  have hflags : (v.withMessage text).flags = {} := rfl
  rw [evaluate_of_unset hflags, withMessage, withExpectation, body_replacement, Check.replaced,
    Run.bind_eq, toCheck_run, Run.seen_bind]
  refine congrArg (Run.bind _) (funext fun r => ?_)
  cases hr : r.expectations with
  | nil => rfl
  | cons e es =>
    have hinvalid : r.isValid = false := by rw [Result.isValid, hr]; rfl
    exact congrArg Run.done (Result.answer?_of_not_isValid hinvalid)

theorem sameAnswers_withMessage? (message : Option Value) (v : Validator) :
    v.SameAnswers (withMessage? message v) := by
  unfold withMessage?
  split
  · exact sameAnswers_withMessage v _
  · exact .refl v

theorem SameAnswers.withMessage? {v w : Validator} (h : v.SameAnswers w) (message : Option Value) :
    (Validator.withMessage? message v).SameAnswers (Validator.withMessage? message w) :=
  (sameAnswers_withMessage? message v).symm.trans (h.trans (sameAnswers_withMessage? message w))

theorem SameAnswers.inner {v w : Validator} (h : v.SameAnswers w) (c : Conversion) :
    (c.inner v).SameAnswers (c.inner w) := by
  cases c with
  | intSafe => exact h.and _
  | _ => exact h

theorem SameAnswers.conversion {v w : Validator} (h : v.SameAnswers w) (c : Conversion)
    (message : Option Value) : (c.apply v message).SameAnswers (c.apply w message) :=
  ((h.inner c).coercion c.target c.guard c.convert).withMessage? message

theorem describe?_apply (c : Conversion) (v : Validator) (message : Option Value) :
    (c.apply v message).describe? = none := by
  unfold Conversion.apply Validator.withMessage?
  split <;> rfl

end Validator

namespace Wrapper

/-- The wrapper makes validators without flags, and validators with the same answers of such
validators. Whether it finds that it cannot, and what its validators expect of a value, has nothing
to do with the validator that it is put around. -/
structure IsSteady (w : Wrapper) : Prop where
  flags : ∀ {v u}, w v = .ok u → u.flags = {}
  settled : ∀ {v u} v', w v = .ok u → ∃ u', w v' = .ok u'
  described : ∀ {v u v' u'}, w v = .ok u → w v' = .ok u' → u.describe? = u'.describe?
  agree : ∀ {v u v' u'}, v.SameAnswers v' → w v = .ok u → w v' = .ok u' → u.SameAnswers u'

theorem isSteady_of_total {f : Validator → Validator} (hflags : ∀ v, (f v).flags = {})
    (hdescribe : ∀ v, (f v).describe? = none)
    (hsame : ∀ v v', v.SameAnswers v' → (f v).SameAnswers (f v')) :
    IsSteady fun v => .ok (f v) where
  flags h := by
    obtain rfl := Except.ok.inj h
    exact hflags _
  settled v' _ := ⟨f v', rfl⟩
  described {v u v' u'} h h' := by
    obtain rfl := Except.ok.inj h
    obtain rfl := Except.ok.inj h'
    rw [hdescribe, hdescribe]
  agree hv h h' := by
    obtain rfl := Except.ok.inj h
    obtain rfl := Except.ok.inj h'
    exact hsame _ _ hv

theorem IsSteady.around {a b : Wrapper} (ha : a.IsSteady) (hb : b.IsSteady) :
    (a.around b).IsSteady where
  flags h := by
    obtain ⟨m, -, hu⟩ := exists_of_bind_eq_ok h
    exact ha.flags hu
  settled v' h := by
    obtain ⟨m, hm, hu⟩ := exists_of_bind_eq_ok h
    obtain ⟨m', hm'⟩ := hb.settled v' hm
    obtain ⟨u', hu'⟩ := ha.settled m' hu
    exact ⟨u', by rw [Wrapper.around, hm', Except.bind, hu']⟩
  described h h' := by
    obtain ⟨m, -, hu⟩ := exists_of_bind_eq_ok h
    obtain ⟨m', -, hu'⟩ := exists_of_bind_eq_ok h'
    exact ha.described hu hu'
  agree hv h h' := by
    obtain ⟨m, hm, hu⟩ := exists_of_bind_eq_ok h
    obtain ⟨m', hm', hu'⟩ := exists_of_bind_eq_ok h'
    exact ha.agree (hb.agree hv hm hm') hu hu'

theorem isSteady_pivot (find : Value → Except Fault (Option Value)) (message : String) :
    IsSteady fun v => .ok (.pivot find message v {}) :=
  isSteady_of_total (fun _ => rfl) (fun _ => rfl) fun _ _ h => h.pivot find message

/-- Everything that builders put together is steady if its parts are. -/
theorem isClosed_isSteady : IsClosed IsSteady where
  around := IsSteady.around
  conversion c message := isSteady_of_total (fun v => Builder.flags_apply c v message)
    (fun v => Validator.describe?_apply c v message) fun _ _ h => h.conversion c message
  defaultTo substitute :=
    isSteady_of_total (fun _ => rfl) (fun _ => rfl) fun _ _ h => h.defaultTo substitute
  pivot := isSteady_pivot
  pickValues keys := by
    unfold Validator.pickValues
    cases texts? keys with
    | none => exact ⟨nofun, nofun, nofun, nofun⟩
    | some texts => exact isSteady_pivot _ _
  pluckAfter checks key := isSteady_of_total (fun _ => rfl) (fun _ => rfl) fun v v' h => by
    refine Validator.SameAnswers.allOf (List.rel_append ?_ (.cons (h.pivot _ _) .nil)) none
    exact List.forall₂_same.mpr fun u _ => .refl u
  withMessage text := isSteady_of_total (fun _ => rfl) (fun _ => rfl) fun v v' h =>
    (Validator.sameAnswers_withMessage v text).symm.trans
      (h.trans (Validator.sameAnswers_withMessage v' text))

theorem IsSteady.not {w : Wrapper} (h : w.IsSteady) :
    IsSteady fun v => (w v).map fun u => u.not none where
  flags hu := by
    obtain ⟨m, -, rfl⟩ := exists_of_map_eq_ok hu
    rfl
  settled v' hu := by
    obtain ⟨m, hm, rfl⟩ := exists_of_map_eq_ok hu
    obtain ⟨m', hm'⟩ := h.settled v' hm
    exact ⟨m'.not none, by rw [hm', Except.map]⟩
  described hu hu' := by
    obtain ⟨m, -, rfl⟩ := exists_of_map_eq_ok hu
    obtain ⟨m', -, rfl⟩ := exists_of_map_eq_ok hu'
    rfl
  agree hv hu hu' := by
    obtain ⟨m, hm, rfl⟩ := exists_of_map_eq_ok hu
    obtain ⟨m', hm', rfl⟩ := exists_of_map_eq_ok hu'
    exact (h.agree hv hm hm').not (h.described hm hm') none

/-- What holds of all that builders put together, negations included, and of no wrapper that makes
validators with flags. -/
structure IsFullyClosed (P : Wrapper → Prop) : Prop extends IsClosed P where
  not : ∀ {w}, P w → P fun v => (w v).map fun u => u.not none
  flags : ∀ {w v u}, P w → w v = .ok u → u.flags = {}

theorem isFullyClosed_isSteady : IsFullyClosed IsSteady where
  toIsClosed := isClosed_isSteady
  not := IsSteady.not
  flags h := h.flags

theorem IsFullyClosed.decorate {P : Wrapper → Prop} (hP : IsFullyClosed P) {w : Wrapper}
    (hw : P w) (negated : Bool) (message : Option Value) :
    P fun v => (w v).map (Builder.decorate negated message) := by
  cases negated with
  | false => exact hP.withMessage? hw message
  | true =>
    have hboth := hP.withMessage? (hP.not hw) message
    have hsame : (fun v => (w v).map (Builder.decorate true message)) =
        fun v => ((w v).map fun u => u.not none).map (Validator.withMessage? message) := by
      funext v
      cases w v <;> rfl
    rwa [hsame]

end Wrapper
end Conform

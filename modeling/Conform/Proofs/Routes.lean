import Conform.Proofs.Refusals
import Conform.Proofs.SameAnswers

/-
  Routes behind a wrapper. What a wrapper puts around a validator may ask the validator once, about
  the value or about another one, and go on with what comes of it; or it may end without asking. A
  `Turn` is one of the two, and a route leads from values to turns. `Routes` says that a route is
  all there is to a wrapper: the runs of what it makes are the route, then the validator, then what
  the turn makes of its result. Routes of wrappers around each other are put together
  (`Routes.around`).
  The validator may be behind a message or a negation, which change what it has found. A turn is
  clear about its result if it either passes on everything or looks at nothing but the verdict, the
  value and the first code (`Turn.IsClear`). `AsksOnce`: steady wrappers with a route to clear
  turns. All wrappers of the library are among them, and so is what builders put together of them
  (`isFullyClosed_asksOnce`).
-/

namespace Conform

/-- Every answer that the run may end with is such an answer. -/
def Run.Always {α : Type} (P : α → Prop) : Run α → Prop
  | .done a => P a
  | .raised _ => True
  | .note _ rest => rest.Always P
  | .await rest => rest.Always P

theorem Run.Always.bind {α β : Type} {P : α → Prop} {Q : β → Prop} {run : Run α}
    (h : run.Always P) {next : α → Run β} (hnext : ∀ a, P a → (next a).Always Q) :
    (run.bind next).Always Q := by
  induction run with
  | done a => exact hnext a h
  | raised => exact trivial
  | note event rest ih => exact ih h
  | await rest ih => exact ih h

theorem Run.always_true {α : Type} (run : Run α) : run.Always fun _ => True := by
  induction run with
  | done => exact trivial
  | raised => exact trivial
  | note event rest ih => exact ih
  | await rest ih => exact ih

namespace Result

/-- The code of the first expectation, unless it is empty. -/
def code? (r : Result) : Option String := nonEmpty? (r.expectations.head?.bind Expectation.code)

/-- The result about a value under a message: one expectation with the message and the code of the
first one, in place of all. -/
def withMessage (message x : Value) (r : Result) : Result :=
  match r.expectations with
  | [] => r
  | _ :: _ => .refusal r.value { message := message, value := x, code := r.code? } x

theorem withMessage_of_not_isValid {r : Result} (h : r.isValid = false) (message x : Value) :
    r.withMessage message x =
      .refusal r.value { message := message, value := x, code := r.code? } x := by
  unfold withMessage
  cases hfound : r.expectations with
  | nil => rw [isValid_iff.mpr hfound] at h; cases h
  | cons e es => rfl

end Result

/-! ## Turns -/

/-- Where a value has come to: to a result, or to a value that a validator is asked about, with what
is made of the result. -/
inductive Turn where
  | ends (r : Result)
  | asks (y : Value) (finish : Result → Run Result)

namespace Turn

/-- What comes of it, given what comes of values that a validator is asked about. -/
def meet (ask : Value → Run Result) : Turn → Run Result
  | .ends r => .done r
  | .asks y finish => (ask y).bind finish

/-- The turn, with something else made of the result in the end. -/
def finished (finish : Result → Run Result) : Turn → Run Turn
  | .ends r => (finish r).bind fun last => .done (.ends last)
  | .asks y first => .done (.asks y fun r => (first r).bind finish)

/-- On to the validator behind the one that is asked. -/
def through (route : Value → Run Turn) : Turn → Run Turn
  | .ends r => .done (.ends r)
  | .asks y finish => (route y).bind (finished finish)

theorem bind_meet_finished (finish : Result → Run Result) (t : Turn) (ask : Value → Run Result) :
    (t.finished finish).bind (meet ask) = (t.meet ask).bind finish := by
  cases t with
  | ends r =>
    rw [finished, Run.bind_assoc]
    exact Run.bind_pure (finish r)
  | asks y first => exact (Run.bind_assoc _ _ _).symm

/-- Everything that was found is passed on. -/
def Shows (finish : Result → Run Result) : Prop :=
  ∀ r, ∃ given, finish r = .done { r with given := given }

/-- Of what was found nothing counts but the first code. -/
def Hides (finish : Result → Run Result) : Prop :=
  ∀ r s : Result, r.isValid = false → s.isValid = false → r.value = s.value → r.code? = s.code? →
    finish r = finish s

/-- Everything that was found is passed on, or nothing of it but the first code. -/
def IsClear : Turn → Prop
  | .ends _ => True
  | .asks _ finish => Shows finish ∨ Hides finish

theorem shows_done : Shows .done := fun r => ⟨r.given, rfl⟩

theorem isClear_asks_done (y : Value) : (asks y .done).IsClear := .inl shows_done

theorem Shows.bind {first finish : Result → Run Result} (hfirst : Shows first)
    (hfinish : Shows finish) : Shows fun r => (first r).bind finish := by
  intro r
  obtain ⟨given, hgiven⟩ := hfirst r
  obtain ⟨given', hgiven'⟩ := hfinish { r with given := given }
  exact ⟨given', (congrArg (Run.bind · finish) hgiven).trans hgiven'⟩

theorem Shows.bind_hides {first finish : Result → Run Result} (hfirst : Shows first)
    (hfinish : Hides finish) : Hides fun r => (first r).bind finish := by
  intro r s hr hs hvalue hcode
  obtain ⟨given, hgiven⟩ := hfirst r
  obtain ⟨given', hgiven'⟩ := hfirst s
  have hsame := hfinish { r with given := given } { s with given := given' } hr hs hvalue hcode
  exact (congrArg (Run.bind · finish) hgiven).trans
    (hsame.trans (congrArg (Run.bind · finish) hgiven').symm)

theorem Hides.bind {first : Result → Run Result} (hfirst : Hides first)
    (finish : Result → Run Result) : Hides fun r => (first r).bind finish :=
  fun r s hr hs hvalue hcode => congrArg (Run.bind · finish) (hfirst r s hr hs hvalue hcode)

/-- What is clear stays so with something clear made of it. -/
theorem isClear_finished {finish : Result → Run Result} (hfinish : Shows finish ∨ Hides finish)
    {t : Turn} (ht : t.IsClear) : (t.finished finish).Always IsClear := by
  cases t with
  | ends r => exact (Run.always_true (finish r)).bind fun _ _ => trivial
  | asks y first =>
    obtain hshows | hhides := ht
    · exact hfinish.imp hshows.bind hshows.bind_hides
    · exact .inr (hhides.bind finish)

theorem isClear_through {route : Value → Run Turn} (hroute : ∀ y, (route y).Always IsClear)
    {t : Turn} (ht : t.IsClear) : (t.through route).Always IsClear := by
  cases t with
  | ends r => exact trivial
  | asks y finish => exact (hroute y).bind fun _ => isClear_finished ht

end Turn

namespace Wrapper

/-- What the wrapper makes of a validator goes along the route, and all that it asks of the
validator is what the route leads to. -/
def Routes (w : Wrapper) (route : Value → Run Turn) : Prop :=
  ∀ v u, w v = .ok u → ∀ x, u.evaluate .plain x = (route x).bind (Turn.meet (v.evaluate .plain))

/-- The route that leads to the value itself. -/
def direct (x : Value) : Run Turn := .done (.asks x .done)

variable {a b : Wrapper} {route further : Value → Run Turn}

theorem routes_ok : Routes Except.ok direct := by
  intro v u h x
  obtain rfl := Except.ok.inj h
  exact (Run.bind_pure _).symm

theorem Routes.around (ha : a.Routes route) (hb : b.Routes further) :
    (a.around b).Routes fun x => (route x).bind (Turn.through further) := by
  intro v u h x
  obtain ⟨m, hm, hu⟩ := exists_of_bind_eq_ok h
  rw [ha m u hu, Run.bind_assoc]
  congr 1
  funext t
  cases t with
  | ends r => rfl
  | asks y finish =>
    rw [Turn.meet, hb v m hm, Turn.through, Run.bind_assoc, Run.bind_assoc]
    congr 1
    funext t
    exact (Turn.bind_meet_finished finish t _).symm

/-- The node in front of the validator, as a route. -/
theorem routes_of_body {f : Validator → Validator} (hflags : ∀ v, (f v).flags = {})
    (hbody : ∀ v x, (f v).body .plain x = (route x).bind (Turn.meet (v.evaluate .plain))) :
    Routes (fun v => .ok (f v)) route := by
  intro v u h x
  obtain rfl := Except.ok.inj h
  rw [Validator.evaluate_of_unset (hflags v), hbody]

theorem routes_defaultTo (substitute : Value) :
    Routes (fun v => .ok (.defaultTo substitute v)) fun x =>
      .done (.asks (if x.isNull then substitute else x) .done) :=
  routes_of_body (fun _ => rfl) fun _ _ => (Run.bind_pure _).symm

/-- The route of a step into a value. -/
def pivotRoute (find : Value → Except Fault (Option Value)) (message : String) (x : Value) :
    Run Turn :=
  (Run.ofExcept (find x)).bind fun found => match found with
    | some y => .done (.asks y .done)
    | none => .done (.ends (.refusal x
        { message := .str message, value := x, code := some Code.missingKey.text }))

theorem routes_pivot (find : Value → Except Fault (Option Value)) (message : String) :
    Routes (fun v => .ok (.pivot find message v {})) (pivotRoute find message) := by
  refine routes_of_body (fun _ => rfl) fun v x => ?_
  rw [Validator.body_pivot, Check.pivoted, Run.bind_eq, pivotRoute, Run.bind_assoc]
  congr 1
  funext found
  cases found with
  | none => rfl
  | some y => exact (Run.bind_pure _).symm

def coercionRoute (target : String) (guard : Validator) (convert : Value → Except String Value)
    (x : Value) : Run Turn :=
  (guard.evaluate .plain x).bind fun r =>
    if r.isValid then
      match convert x with
      | .ok y => .done (.asks y .done)
      | .error problem => .done (.ends (.refusal x (Check.unconvertible target x problem)))
    else .done (.ends r)

theorem routes_coercion (target : String) (guard : Validator)
    (convert : Value → Except String Value) :
    Routes (fun v => .ok (.coercion target guard convert v {}))
      (coercionRoute target guard convert) := by
  refine routes_of_body (fun _ => rfl) fun v x => ?_
  rw [Validator.body_coercion, Check.coerced, Run.bind_eq, coercionRoute, Run.bind_assoc,
    Validator.toCheck_run]
  congr 1
  funext r
  cases r.isValid with
  | false => rfl
  | true =>
    rw [if_pos rfl, if_pos rfl]
    cases convert x with
    | error problem => rfl
    | ok y => exact (Run.bind_pure _).symm

theorem routes_withMessage (text : Value) :
    Routes (fun v => .ok (v.withMessage text)) fun x =>
      .done (.asks x fun r => .done (r.withMessage text x)) := by
  refine routes_of_body (fun _ => rfl) fun v x => ?_
  rw [Validator.withMessage, Validator.withExpectation, Validator.body_replacement, Check.replaced,
    Run.bind_eq, Run.bind_done, Turn.meet, Validator.toCheck_run]
  congr 1
  funext r
  unfold Result.withMessage Result.code?
  cases r.expectations with
  | nil => rfl
  | cons e es =>
    dsimp only
    rw [firstNonEmpty_none]
    rfl

/-- A negation also asks what is expected, which has to be the same for all. -/
theorem Routes.not {w : Wrapper} (h : w.Routes route) {u : Validator}
    (hdescribed : ∀ {v' u'}, w v' = .ok u' → u.describe? = u'.describe?) :
    Routes (fun v => (w v).map fun u => u.not none) fun x =>
      (route x).bind (Turn.finished fun r =>
        if r.answer?.isSome then Check.denying none (u.toCheck.denied x) x
        else .done (.success x)) := by
  intro v' n hn x
  obtain ⟨u', hu', rfl⟩ := exists_of_map_eq_ok hn
  have hdenied : u'.toCheck.denied x = u.toCheck.denied x := by
    unfold Check.denied Validator.toCheck
    rw [hdescribed hu']
  rw [Validator.evaluate_of_unset rfl, Validator.not, Validator.body_negation, Check.negated_eq,
    hdenied, Validator.toCheck_run, h v' u' hu', Run.bind_assoc, Run.bind_assoc]
  congr 1
  funext t
  exact (Turn.bind_meet_finished _ t _).symm

/-- The route behind other checks: they are passed first, each with what the one before it made of
the value. -/
def behindRoute (checks : List Validator) (x : Value) : Run Turn :=
  (Check.threaded none x (checks.map Validator.toCheck) x).bind fun r =>
    if r.isValid then
      .done (.asks r.value fun last =>
        .done (if last.isValid then .success last.value x else last))
    else .done (.ends r)

theorem threaded_behind (checks : List Validator) (v : Validator) (x : Value) :
    Check.threaded none x (checks.map Validator.toCheck ++ [v.toCheck]) x =
      (behindRoute checks x).bind (Turn.meet (v.evaluate .plain)) := by
  rw [Validator.threaded_append x x, behindRoute, Run.bind_assoc]
  congr 1
  funext r
  cases r.isValid with
  | false => rfl
  | true =>
    rw [if_pos rfl, if_pos rfl, Check.threaded_cons, Run.bind_done, Turn.meet,
      Validator.toCheck_run]
    congr 1
    funext last
    cases last.isValid with
    | true => rfl
    | false => exact congrArg Run.done (Result.override_of_none rfl last)

theorem routes_behind (checks : List Validator) :
    Routes (fun v => .ok (.allOf (checks ++ [v]) none false)) (behindRoute checks) := by
  refine routes_of_body (fun _ => rfl) fun v x => ?_
  rw [Validator.allOf, Validator.body_conjunction_threading, List.map_append]
  exact threaded_behind checks v x

theorem routes_and (first : Validator) :
    Routes (fun v => .ok (first.and v)) (behindRoute [first]) := by
  refine routes_of_body (fun v => rfl) fun v x => ?_
  rw [Validator.body_and]
  exact threaded_behind [first] v x

/-! ## Wrappers that ask once -/

theorem isClear_pivotRoute (find : Value → Except Fault (Option Value)) (message : String)
    (x : Value) : (pivotRoute find message x).Always Turn.IsClear := by
  refine (Run.always_true _).bind fun found _ => ?_
  cases found with
  | none => exact trivial
  | some y => exact Turn.isClear_asks_done y

theorem isClear_coercionRoute (target : String) (guard : Validator)
    (convert : Value → Except String Value) (x : Value) :
    (coercionRoute target guard convert x).Always Turn.IsClear := by
  refine (Run.always_true _).bind fun r _ => ?_
  cases r.isValid with
  | false => exact trivial
  | true =>
    rw [if_pos rfl]
    cases convert x with
    | error problem => exact trivial
    | ok y => exact Turn.isClear_asks_done y

theorem isClear_behindRoute (checks : List Validator) (x : Value) :
    (behindRoute checks x).Always Turn.IsClear := by
  refine (Run.always_true _).bind fun r _ => ?_
  cases r.isValid with
  | false => exact trivial
  | true =>
    rw [if_pos rfl]
    refine .inl fun last => ?_
    dsimp only
    cases hlast : last.isValid with
    | false => exact ⟨last.given, rfl⟩
    | true =>
      refine ⟨x, ?_⟩
      rw [if_pos rfl, Result.success, Result.isValid_iff.mp hlast]

/-- A message hides what was found. -/
theorem hides_withMessage (text x : Value) :
    Turn.Hides fun r => .done (r.withMessage text x) := by
  intro r s hr hs hvalue hcode
  dsimp only
  rw [Result.withMessage_of_not_isValid hr, Result.withMessage_of_not_isValid hs, hvalue, hcode]

/-- A steady wrapper, what it makes of a validator asks the validator at most once, and it is clear
what it makes of the result. -/
structure AsksOnce (w : Wrapper) : Prop extends w.IsSteady where
  routed : ∃ route, w.Routes route ∧ ∀ x, (route x).Always Turn.IsClear

theorem AsksOnce.around (ha : a.AsksOnce) (hb : b.AsksOnce) : (a.around b).AsksOnce where
  toIsSteady := ha.toIsSteady.around hb.toIsSteady
  routed := by
    obtain ⟨route, hroute, hclear⟩ := ha.routed
    obtain ⟨further, hfurther, hclear'⟩ := hb.routed
    exact ⟨_, hroute.around hfurther, fun x =>
      (hclear x).bind fun _ => Turn.isClear_through hclear'⟩

theorem AsksOnce.not {w : Wrapper} (h : w.AsksOnce) :
    AsksOnce fun v => (w v).map fun u => u.not none where
  toIsSteady := h.toIsSteady.not
  routed := by
    obtain ⟨route, hroute, hclear⟩ := h.routed
    -- what is expected is the same for all validators, so one of them is enough to tell it
    cases hw : w .valid with
    | error fault =>
      refine ⟨route, fun v n hn => ?_, hclear⟩
      obtain ⟨u, hu, -⟩ := exists_of_map_eq_ok hn
      obtain ⟨u', hu'⟩ := h.settled .valid hu
      rw [hw] at hu'
      cases hu'
    | ok u =>
      refine ⟨_, hroute.not fun hu' => h.described hw hu', fun x => (hclear x).bind
        fun t => Turn.isClear_finished (.inr fun r s hr hs _ _ => ?_)⟩
      rw [Result.answer?_of_not_isValid hr, Result.answer?_of_not_isValid hs]

theorem asksOnce_pivot (find : Value → Except Fault (Option Value)) (message : String) :
    AsksOnce fun v => .ok (.pivot find message v {}) where
  toIsSteady := isSteady_pivot find message
  routed := ⟨_, routes_pivot find message, isClear_pivotRoute find message⟩

theorem asksOnce_withMessage (text : Value) : AsksOnce fun v => .ok (v.withMessage text) where
  toIsSteady := isClosed_isSteady.withMessage text
  routed := ⟨_, routes_withMessage text, fun x => .inr (hides_withMessage text x)⟩

/-- A conversion that says itself what it has found. -/
theorem asksOnce_coercion (c : Conversion) :
    AsksOnce fun v => .ok (.coercion c.target c.guard c.convert (c.inner v) {}) where
  toIsSteady := isSteady_of_total (fun _ => rfl) (fun _ => rfl) fun _ _ h =>
    (h.inner c).coercion c.target c.guard c.convert
  routed := by
    have hroutes := routes_coercion c.target c.guard c.convert
    have hclear := isClear_coercionRoute c.target c.guard c.convert
    cases c with
    | intSafe =>
      exact ⟨_, hroutes.around (routes_and _), fun x => (hclear x).bind fun _ =>
        Turn.isClear_through (isClear_behindRoute _)⟩
    | _ => exact ⟨_, hroutes, hclear⟩

theorem asksOnce_conversion (c : Conversion) (message : Option Value) :
    AsksOnce fun v => .ok (c.apply v message) := by
  unfold Conversion.apply Validator.withMessage?
  cases replacing? message with
  | none => exact asksOnce_coercion c
  | some text => exact (asksOnce_withMessage text).around (asksOnce_coercion c)

/-- Everything that builders put together asks once if its parts do. -/
theorem isClosed_asksOnce : IsClosed AsksOnce where
  around := AsksOnce.around
  conversion := asksOnce_conversion
  defaultTo substitute :=
    { toIsSteady := isClosed_isSteady.defaultTo substitute
      routed := ⟨_, routes_defaultTo substitute, fun x => Turn.isClear_asks_done _⟩ }
  pivot := asksOnce_pivot
  pickValues keys := by
    unfold Validator.pickValues
    cases texts? keys with
    | none =>
      exact ⟨⟨nofun, nofun, nofun, nofun⟩, direct, nofun, fun x => Turn.isClear_asks_done x⟩
    | some texts => exact asksOnce_pivot _ _
  pluckAfter checks key :=
    { toIsSteady := isClosed_isSteady.pluckAfter checks key
      routed := ⟨_, (routes_behind checks).around (routes_pivot _ _), fun x =>
        (isClear_behindRoute checks x).bind fun _ =>
          Turn.isClear_through (isClear_pivotRoute _ _)⟩ }
  withMessage := asksOnce_withMessage

theorem isFullyClosed_asksOnce : IsFullyClosed AsksOnce where
  toIsClosed := isClosed_asksOnce
  not := AsksOnce.not
  flags h := h.flags

end Wrapper
end Conform

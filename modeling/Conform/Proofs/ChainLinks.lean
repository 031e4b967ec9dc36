import Conform.Proofs.BuilderRun
import Conform.Proofs.Keeping

/-
  The links that a builder adds to a chain after its entry or a coercion: changes of the value, and
  constraints that leave it as it is. A change goes around what the chain has so far. So the last
  one acts first: after a constraint, before the constraints and on what comes out of the coercion
  (`onChains_active`, `onChains_trailing`); right after a coercion, before the coercion itself
  (`onChains_coercion`).
-/

namespace Conform.Builder

/-- A step that changes the value for what the chain has so far. -/
inductive Change where
  | normalize (n : Normalizer)
  | pick (keys : List Value)
  | flattenKeys (delimiter : String)

namespace Change

def step : Change → Step
  | .normalize n => .normalize n
  | .pick keys => .pick keys
  | .flattenKeys delimiter => .flattenKeys delimiter

def wrapper : Change → Wrapper
  | .normalize n => fun v => .ok (n.conversion.apply v none)
  | .pick keys => Validator.pickValues keys
  | .flattenKeys delimiter => fun v => .ok (.flattenKeys delimiter v)

/-- The value changed; none if it is no text, or no map where one is needed. -/
def made? : Change → Value → Option Value
  | .normalize n, x => (n.conversion.convert x).toOption
  | .pick keys, x => (Validator.pick keys x).toOption.join
  | .flattenKeys delimiter, x => (Validator.flatten delimiter x).toOption.join

end Change

/-- The value after changes, the first one of the list first. -/
def applyAll (changes : List Change) (x : Value) : Option Value :=
  changes.foldlM (fun y change => change.made? y) x

theorem applyAll_append (before after : List Change) (x : Value) :
    applyAll (before ++ after) x = (applyAll before x).bind (applyAll after) := by
  rw [applyAll, List.foldlM_append]
  rfl

@[simp] theorem applyAll_nil (x : Value) : applyAll [] x = some x := rfl

@[simp] theorem applyAll_singleton (change : Change) (x : Value) :
    applyAll [change] x = change.made? x := by
  simp [applyAll]

/-- A step after the coercion: a change, or a constraint, which may be negated. -/
inductive Link where
  | change (c : Change)
  | constrain (negated : Bool) (constraint : Constraint) (message : Option Value)

namespace Link

def steps : Link → List Step
  | .change c => [c.step]
  | .constrain true constraint message => [.negate, .constrain constraint message]
  | .constrain false constraint message => [.constrain constraint message]

def change? : Link → Option Change
  | .change c => some c
  | .constrain _ _ _ => none

/-- The validator of a constraint as it is added to a chain. -/
def validator? : Link → Option Validator
  | .change _ => none
  | .constrain negated constraint message =>
    (constraint.validator?.map (decorate negated message)).toOption

/-- A validator that is added as it is leaves the values that it accepts as they are. The
constraints that builders offer do so anyway. -/
def KeepsValue : Link → Prop
  | .constrain false (.validator v) _ => v.KeepsValue
  | _ => True

/-- A constraint accepts the value. -/
def Holds (link : Link) (y : Value) : Prop := ∀ v ∈ link.validator?, v.Accepts y y

def onChain (link : Link) (c : Chain) : Except Fault Chain :=
  match link with
  | .change t => c.wrap t.wrapper
  | .constrain negated constraint message =>
    constraint.validator?.map fun v => c.add (decorate negated message v)

end Link

def changes (links : List Link) : List Change := links.filterMap Link.change?

/-- The changes before the first constraint. -/
def leading : List Link → List Change
  | .change c :: rest => c :: leading rest
  | _ => []

/-- The links from the first constraint on. -/
def trailing : List Link → List Link
  | .change _ :: rest => trailing rest
  | links => links

/-! ## Changes -/

theorem flags_apply (c : Conversion) (child : Validator) (message : Option Value) :
    (c.apply child message).flags = {} := by
  unfold Conversion.apply Validator.withMessage?
  split <;> rfl

theorem Change.flags_of_wrapper {t : Change} {v w : Validator} (h : t.wrapper v = .ok w) :
    w.flags = {} := by
  cases t with
  | normalize n =>
    obtain rfl := Except.ok.inj h
    rfl
  | pick keys =>
    rw [Change.wrapper, Validator.pickValues] at h
    split at h
    · obtain rfl := Except.ok.inj h
      rfl
    · cases h
  | flattenKeys delimiter =>
    obtain rfl := Except.ok.inj h
    rfl

theorem map_str_of_texts? {keys : List Value} {texts : List String} (h : texts? keys = some texts) :
    texts.map Value.str = keys := by
  induction keys generalizing texts with
  | nil =>
    obtain rfl : [] = texts := Option.some.inj h
    rfl
  | cons key rest ih =>
    rw [texts?, List.mapM_cons] at h
    obtain ⟨text, hkey, h⟩ := Option.bind_eq_some_iff.mp h
    obtain ⟨others, hrest, h⟩ := Option.bind_eq_some_iff.mp h
    obtain rfl := Option.some.inj h
    rw [List.map_cons, ih hrest]
    cases key with
    | str k =>
      obtain rfl := Option.some.inj hkey
      rfl
    | _ => cases hkey

/-- What a normalizer makes of a text; other values it rejects. -/
theorem normalizer_makes_iff (n : Normalizer) (x z : Value) :
    n.conversion.Makes x z ↔ (Change.normalize n).made? x = some z := by
  have hinner : (n.conversion.inner .valid).Accepts z z := by
    have hplain : n.conversion.inner .valid = .valid := by cases n <;> rfl
    rw [hplain, Validator.accepts_valid]
  have hguard : ∀ z, n.conversion.convert x = .ok z → n.conversion.guard.Accepts x x := by
    intro z hconvert
    have hstring : n.conversion.guard = .isString none := by cases n <;> rfl
    rw [hstring, Validator.isString, Validator.isKind, Validator.isType,
      Validator.accepts_ofPredicate]
    cases x with
    | str s => exact ⟨rfl, rfl⟩
    | _ => cases n <;> cases hconvert
  rw [Conversion.makes_iff, Change.made?]
  constructor
  · rintro ⟨-, hconvert, -⟩
    rw [hconvert]
    rfl
  · intro h
    have hconvert := toOption_eq_some.mp h
    exact ⟨⟨x, hguard z hconvert⟩, hconvert, hinner⟩

theorem join_toOption_eq_some {found : Except Fault (Option Value)} {z : Value} :
    found.toOption.join = some z ↔ found = .ok (some z) := by
  rw [Option.join_eq_some_iff, toOption_eq_some]

/-- A validator inside a change sees the changed value. -/
theorem Change.accepts_wrapper {t : Change} {v w : Validator} (h : t.wrapper v = .ok w)
    (x y : Value) : w.Accepts x y ↔ ∃ z, t.made? x = some z ∧ v.Accepts z y := by
  cases t with
  | normalize n =>
    obtain rfl := Except.ok.inj h
    simp only [Conversion.accepts_apply_iff_makes, normalizer_makes_iff]
  | pick keys =>
    rw [Change.wrapper, Validator.pickValues] at h
    split at h
    · next texts htexts =>
      obtain rfl := Except.ok.inj h
      rw [Validator.pickKeys, map_str_of_texts? htexts, Validator.accepts_pivot]
      simp only [Change.made?, join_toOption_eq_some]
    · cases h
  | flattenKeys delimiter =>
    obtain rfl := Except.ok.inj h
    rw [Validator.flattenKeys, Validator.accepts_pivot]
    simp only [Change.made?, join_toOption_eq_some]

/-- A wrapper that is neither negated nor given a message is taken as it is. -/
theorem map_decorate_plain (w : Wrapper) {negated : Bool} (h : negated = false) :
    (fun v => (w v).map (decorate negated none)) = w := by
  funext v
  rw [h]
  cases w v <;> rfl

/-! ## Constraints -/

theorem accepts_join (vs : List Validator) (x y : Value) :
    (Chain.join false vs).Accepts x y ↔ Validator.AcceptsAll vs x y := by
  match vs with
  | [] => exact Validator.accepts_valid x y
  | [v] => exact (Validator.acceptsAll_singleton v x y).symm
  | v :: w :: vs => exact Validator.accepts_allOf (v :: w :: vs) none x y

theorem flags_join_append {collecting : Bool} {vs : List Validator} (h : vs ≠ [])
    (v : Validator) : (Chain.join collecting (vs ++ [v])).flags = {} := by
  match vs with
  | [] => exact absurd rfl h
  | [_] => rfl
  | _ :: _ :: _ => rfl

theorem Link.holds_change (t : Change) (y : Value) : (Link.change t).Holds y := by
  intro c h
  cases h

theorem Link.holds_iff {link : Link} {v : Validator} (h : link.validator? = some v) (y : Value) :
    link.Holds y ↔ v.Accepts y y := by
  simp [Link.Holds, h]

theorem Link.keepsValue_validator {link : Link} (h : link.KeepsValue) {v : Validator}
    (hv : link.validator? = some v) : v.KeepsValue := by
  cases link with
  | change t => cases hv
  | constrain negated constraint message =>
    obtain ⟨u, hmade, rfl⟩ := exists_of_map_eq_ok (toOption_eq_some.mp hv)
    refine keepsValue_decorate negated ?_ message
    rintro rfl
    refine keepsValue_validator? ?_ hmade
    rintro own rfl
    exact h

/-- A change of a chain with constraints goes around all of them. -/
theorem Link.exists_of_onChain_change {t : Change} {c c' : Chain} (hactive : c.active ≠ [])
    (h : (Link.change t).onChain c = .ok c') :
    ∃ w, t.wrapper (Chain.join c.collecting c.active) = .ok w ∧ c' = c.setActive [w] := by
  rw [Link.onChain, Chain.wrap_of_active_ne_nil hactive] at h
  obtain ⟨w, hw, rfl⟩ := exists_of_map_eq_ok h
  exact ⟨w, hw, rfl⟩

/-- A constraint comes behind the others. -/
theorem Link.exists_of_onChain_constrain {negated : Bool} {constraint : Constraint}
    {message : Option Value} {c c' : Chain}
    (h : (Link.constrain negated constraint message).onChain c = .ok c') :
    ∃ v, (Link.constrain negated constraint message).validator? = some v ∧ c' = c.add v := by
  obtain ⟨v, hv, rfl⟩ := exists_of_map_eq_ok h
  refine ⟨decorate negated message v, ?_, rfl⟩
  rw [Link.validator?, hv]
  rfl

def onChains (links : List Link) (c : Chain) : Except Fault Chain :=
  links.foldlM (fun c link => link.onChain c) c

theorem onChains_cons (link : Link) (links : List Link) (c : Chain) :
    onChains (link :: links) c = (link.onChain c).bind (onChains links) := rfl

theorem onChains_append (before after : List Link) (c : Chain) :
    onChains (before ++ after) c = (onChains before c).bind (onChains after) := by
  rw [onChains, List.foldlM_append]
  rfl

/-- Links after a constraint. Their changes act before it, the last one first, and their
constraints check what comes out. -/
theorem onChains_active {links : List Link} (hkeeps : ∀ link ∈ links, link.KeepsValue)
    {c c' : Chain} (hcollecting : c.collecting = false) (hactive : c.active ≠ [])
    (h : onChains links c = .ok c') :
    ∃ ws, c' = c.setActive ws ∧
      ((Chain.join false c.active).flags = {} → (Chain.join false ws).flags = {}) ∧
      ∀ x y, Validator.AcceptsAll ws x y ↔ ∃ z, applyAll (changes links).reverse x = some z ∧
        Validator.AcceptsAll c.active z y ∧ ∀ link ∈ links, link.Holds y := by
  induction links generalizing c with
  | nil =>
    obtain rfl := Except.ok.inj h
    refine ⟨c.active, (Chain.setActive_active c).symm, id, fun x y => ?_⟩
    simp [changes]
  | cons link links ih =>
    rw [onChains_cons] at h
    obtain ⟨middle, hlink, h⟩ := exists_of_bind_eq_ok h
    have hrest := fun other hother => hkeeps other (List.mem_cons_of_mem _ hother)
    cases link with
    | change t =>
      obtain ⟨w, hw, rfl⟩ := Link.exists_of_onChain_change hactive hlink
      rw [hcollecting] at hw
      obtain ⟨ws, rfl, hflags, haccepts⟩ := ih hrest (by simpa) (by simp) h
      rw [Chain.active_setActive] at hflags
      refine ⟨ws, Chain.setActive_setActive [w] ws c,
        fun _ => hflags (Change.flags_of_wrapper hw), fun x y => ?_⟩
      have hreverse : (changes (.change t :: links)).reverse = (changes links).reverse ++ [t] :=
        List.reverse_cons
      simp only [haccepts, Chain.active_setActive, Validator.acceptsAll_singleton,
        Change.accepts_wrapper hw, accepts_join, hreverse, applyAll_append,
        Option.bind_eq_some_iff, applyAll_singleton, List.forall_mem_cons]
      constructor
      · rintro ⟨z, hz, ⟨u, hu, hvs⟩, hholds⟩
        exact ⟨u, ⟨z, hz, hu⟩, hvs, Link.holds_change t y, hholds⟩
      · rintro ⟨u, ⟨z, hz, hu⟩, hvs, -, hholds⟩
        exact ⟨z, hz, ⟨u, hu, hvs⟩, hholds⟩
    | constrain negated constraint message =>
      obtain ⟨v, hv, rfl⟩ := Link.exists_of_onChain_constrain hlink
      have hkeep := Link.keepsValue_validator (hkeeps _ List.mem_cons_self) hv
      obtain ⟨ws, rfl, hflags, haccepts⟩ := ih hrest (by simpa [Chain.add]) (by simp) h
      rw [Chain.active_add] at hflags
      refine ⟨ws, Chain.setActive_setActive _ ws c,
        fun _ => hflags (flags_join_append hactive _), fun x y => ?_⟩
      simp only [haccepts, Chain.active_add, Validator.acceptsAll_append_keeping hkeep,
        List.forall_mem_cons, Link.holds_iff hv, and_assoc]
      rfl

/-! ## Changes right after a coercion -/

/-- Changes right after a coercion act before it, the last one first. -/
theorem onChains_coercion {ts : List Change} {c c' : Chain} {coercion : Coercion}
    (hcoercion : c.coercion = some coercion) (hactive : c.active = [])
    (h : onChains (ts.map .change) c = .ok c') :
    ∃ w : Wrapper, c' = { c with coercion := some { coercion with wrapper := w } } ∧
      ∀ child v, w child = .ok v → ∃ u, coercion.wrapper child = .ok u ∧
        (u.flags = {} → v.flags = {}) ∧
        ∀ x y, v.Accepts x y ↔ ∃ z, applyAll ts.reverse x = some z ∧ u.Accepts z y := by
  induction ts generalizing c coercion with
  | nil =>
    obtain rfl := Except.ok.inj h
    refine ⟨coercion.wrapper, ?_, fun child v hv => ⟨v, hv, id, fun x y => by simp⟩⟩
    rw [← hcoercion]
  | cons t ts ih =>
    rw [List.map_cons, onChains_cons, Link.onChain,
      Chain.wrap_of_active_eq_nil hcoercion hactive] at h
    rw [Chain.active_of_coercion_some hcoercion] at hactive
    have hnext : Chain.active { c with coercion := some { coercion with
        wrapper := t.wrapper.around coercion.wrapper } } = [] := hactive
    obtain ⟨w, rfl, hw⟩ := ih rfl hnext h
    refine ⟨w, rfl, fun child v hv => ?_⟩
    obtain ⟨u, hu, hflags, haccepts⟩ := hw child v hv
    obtain ⟨inner, hinner, hu⟩ := exists_of_bind_eq_ok hu
    refine ⟨inner, hinner, fun _ => hflags (Change.flags_of_wrapper hu), fun x y => ?_⟩
    simp only [haccepts, Change.accepts_wrapper hu, List.reverse_cons, applyAll_append,
      Option.bind_eq_some_iff, applyAll_singleton]
    constructor
    · rintro ⟨z, hz, u, hu, haccept⟩
      exact ⟨u, ⟨z, hz, hu⟩, haccept⟩
    · rintro ⟨u, ⟨z, hz, hu⟩, haccept⟩
      exact ⟨z, hz, u, hu, haccept⟩

theorem leading_append_trailing (links : List Link) :
    (leading links).map .change ++ trailing links = links := by
  induction links with
  | nil => rfl
  | cons link links ih =>
    cases link with
    | change t => rw [leading, trailing, List.map_cons, List.cons_append, ih]
    | constrain => rfl

theorem holds_trailing_iff (links : List Link) (y : Value) :
    (∀ link ∈ trailing links, link.Holds y) ↔ ∀ link ∈ links, link.Holds y := by
  induction links with
  | nil => rfl
  | cons link links ih =>
    cases link with
    | change t =>
      rw [trailing, ih, List.forall_mem_cons]
      exact ⟨fun h => ⟨Link.holds_change t y, h⟩, fun h => h.2⟩
    | constrain => rfl

theorem change?_head_trailing {links rest : List Link} {link : Link}
    (h : trailing links = link :: rest) : link.change? = none := by
  induction links with
  | nil => cases h
  | cons first links ih =>
    cases first with
    | change t => exact ih h
    | constrain =>
      obtain ⟨rfl, -⟩ := List.cons.inj h
      rfl

/-- The links from the first constraint after a coercion on act behind it. -/
theorem onChains_trailing {links : List Link} (hkeeps : ∀ link ∈ trailing links, link.KeepsValue)
    {c c' : Chain} (hcollecting : c.collecting = false) (hactive : c.active = [])
    (h : onChains (trailing links) c = .ok c') :
    ∃ ws, c' = c.setActive ws ∧ ∀ x y, Validator.AcceptsAll ws x y ↔
      applyAll (changes (trailing links)).reverse x = some y ∧
        ∀ link ∈ trailing links, link.Holds y := by
  cases hlinks : trailing links with
  | nil =>
    rw [hlinks] at h
    obtain rfl := Except.ok.inj h
    refine ⟨[], ?_, fun x y => ?_⟩
    · rw [← hactive, Chain.setActive_active]
    · simp [Validator.AcceptsAll, changes, eq_comm]
  | cons link rest =>
    rw [hlinks] at h hkeeps
    cases link with
    | change t => cases change?_head_trailing hlinks
    | constrain negated constraint message =>
      rw [onChains_cons] at h
      obtain ⟨middle, hlink, h⟩ := exists_of_bind_eq_ok h
      obtain ⟨v, hv, rfl⟩ := Link.exists_of_onChain_constrain hlink
      have hkeep := Link.keepsValue_validator (hkeeps _ List.mem_cons_self) hv
      have hrest := fun other hother => hkeeps other (List.mem_cons_of_mem _ hother)
      obtain ⟨ws, rfl, -, haccepts⟩ :=
        onChains_active hrest (by simpa [Chain.add]) (by simp) h
      refine ⟨ws, Chain.setActive_setActive _ ws c, fun x y => ?_⟩
      have hchanges : changes (.constrain negated constraint message :: rest) = changes rest :=
        rfl
      simp only [haccepts, hchanges, Chain.active_add, hactive, List.nil_append,
        Validator.acceptsAll_singleton, List.forall_mem_cons, Link.holds_iff hv]
      constructor
      · rintro ⟨z, hz, haccept, hholds⟩
        obtain rfl := hkeep z y haccept
        exact ⟨hz, haccept, hholds⟩
      · rintro ⟨hz, haccept, hholds⟩
        exact ⟨y, hz, haccept, hholds⟩

end Conform.Builder

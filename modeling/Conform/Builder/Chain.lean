import Conform.Fault
import Conform.Structure

/-
  Chains: the validators that a builder has collected so far, with at most one coercion between
  those for the incoming value and those for the coerced one, and a lead that moves from a map to
  one of its values before everything else. `build` makes one validator of a chain.
-/

namespace Conform

/-- A way to put a validator around another one. It may find that it cannot. -/
abbrev Wrapper := Validator → Except Fault Validator

namespace Wrapper

/-- The first wrapper around what the second one makes. -/
def around (outer inner : Wrapper) : Wrapper := fun v => (inner v).bind outer

theorem around_assoc (a b c : Wrapper) : (a.around b).around c = a.around (b.around c) := by
  funext v
  cases h : c v <;> simp [around, Except.bind, h]

end Wrapper

structure Coercion where
  kind : CoercionKind
  /-- Puts the coercion around a validator for coerced values. -/
  wrapper : Wrapper
  /-- Whether the constraints on the incoming value are kept. -/
  keepsPre : Bool

/-- The parts of a validator that is being built. -/
structure Chain where
  /-- Constraints on the incoming value. -/
  pre : List Validator := []
  /-- Constraints on the coerced value. -/
  post : List Validator := []
  /-- What leads from the value to the part of it that the rest is about. -/
  lead : Option Wrapper := none
  coercion : Option Coercion := none
  /-- Whether all failing constraints are reported instead of the first. -/
  collecting : Bool := false

namespace Chain

/-- One validator for several: none of them accepts everything. -/
def join (collecting : Bool) : List Validator → Validator
  | [] => .valid
  | [v] => v
  | vs => .allOf vs none collecting

def hasKind (kind : CoercionKind) (c : Chain) : Bool :=
  match c.coercion with
  | some coercion => coercion.kind == kind
  | none => false

theorem hasKind_of_coercion_some {c : Chain} {coercion : Coercion}
    (h : c.coercion = some coercion) (kind : CoercionKind) :
    c.hasKind kind = (coercion.kind == kind) := by
  rw [hasKind, h]

/-- The constraints that are being added to. -/
def active (c : Chain) : List Validator := if c.coercion.isSome then c.post else c.pre

/-- The chain with other constraints where they are being added. -/
def setActive (vs : List Validator) (c : Chain) : Chain :=
  if c.coercion.isSome then { c with post := vs } else { c with pre := vs }

/-- The chain with another constraint. -/
def add (v : Validator) (c : Chain) : Chain := c.setActive (c.active ++ [v])

/-- The chain with a wrapper around the constraints that are being added to, or around the
coercion itself if it has none yet. -/
def wrap (w : Wrapper) (c : Chain) : Except Fault Chain :=
  match c.coercion, c.active with
  | some coercion, [] =>
    .ok { c with coercion := some { coercion with wrapper := w.around coercion.wrapper } }
  | _, vs => do
    let v ← w (join c.collecting vs)
    pure (c.setActive [v])

/-- What is logged about a coercion that is installed where there was none, or after or in place
of another one. -/
def coercionRecord (kind : CoercionKind) (current : Option Coercion) (isComposed : Bool) :
    LogRecord :=
  ⟨.debug, "eskema.builder.chain", match current with
    | none => "Installed " ++ kind.name ++ " coercion"
    | some before =>
      if isComposed then "Composed " ++ kind.name ++ " coercion after " ++ before.kind.name
      else "Replaced " ++ before.kind.name ++ " coercion with " ++ kind.name⟩

/-- Whether a coercion of one kind goes after one of the other kind instead of replacing it. -/
def composes (kind before : CoercionKind) : Bool := kind == .custom || before == .custom

/-- The chain with a coercion, and what is logged about it. A custom coercion is composed with the
one that is there; any other one takes its place. The constraints on coerced values are dropped,
and so are those on the incoming value unless they are to be kept. -/
def coerce (kind : CoercionKind) (w : Wrapper) (keepsPre : Bool) (c : Chain) : Chain × LogRecord :=
  match c.coercion with
  | some before =>
    if composes kind before.kind then
      ({ c with coercion := some ⟨kind, before.wrapper.around w, before.keepsPre⟩, post := [] },
        coercionRecord kind c.coercion true)
    else
      ({ c with coercion := some ⟨kind, w, keepsPre⟩, pre := if keepsPre then c.pre else [],
                post := [] },
        coercionRecord kind c.coercion false)
  | none =>
    ({ c with coercion := some ⟨kind, w, keepsPre⟩, pre := if keepsPre then c.pre else [],
              post := [] },
      coercionRecord kind none false)

/-- A coercion takes the place of the one that is there, or is composed with it. -/
theorem coerce_cases (kind : CoercionKind) (w : Wrapper) (keepsPre : Bool) (c : Chain) :
    (c.coerce kind w keepsPre).1 =
        { c with coercion := some ⟨kind, w, keepsPre⟩, pre := if keepsPre then c.pre else [],
                 post := [] } ∨
      ∃ before, c.coercion = some before ∧ composes kind before.kind = true ∧
        (c.coerce kind w keepsPre).1 =
          { c with coercion := some ⟨kind, before.wrapper.around w, before.keepsPre⟩,
                   post := [] } := by
  unfold coerce
  cases hc : c.coercion with
  | none => exact .inl rfl
  | some before =>
    dsimp only
    split
    · next hcomposes => exact .inr ⟨before, rfl, hcomposes, rfl⟩
    · exact .inl rfl

/-- The wrapper that checks the map and goes on with what it has under a key. -/
def pluckAfter (checks : List Validator) (key : Value) : Wrapper :=
  fun v => .ok (.allOf (checks ++ [.pluckKey key v]) none false)

/-- The chain with a step into a map behind what it has so far. There must be no coercion yet. -/
def pluck (key : Value) (c : Chain) : Except Fault Chain :=
  match c.coercion with
  | some coercion => .error (.pluckAfterCoercion key coercion.kind)
  | none =>
    let step := pluckAfter c.pre key
    .ok { c with pre := [], lead := some (match c.lead with
      | some lead => lead.around step
      | none => step) }

/-- The validator of the constraints and the coercion. -/
def core (c : Chain) : Except Fault Validator :=
  match c.coercion with
  | none => .ok (join c.collecting c.pre)
  | some coercion => do
    let v ← coercion.wrapper (join c.collecting c.post)
    pure (if coercion.keepsPre && !c.pre.isEmpty
      then .allOf [join c.collecting c.pre, v] none false
      else v)

def build (c : Chain) : Except Fault Validator := do
  let v ← c.core
  match c.lead with
  | some lead => lead v
  | none => pure v

@[simp] theorem active_of_coercion_none {c : Chain} (h : c.coercion = none) :
    c.active = c.pre := by
  simp [active, h]

@[simp] theorem active_of_coercion_some {c : Chain} {coercion : Coercion}
    (h : c.coercion = some coercion) : c.active = c.post := by
  simp [active, h]

@[simp] theorem coercion_setActive (vs : List Validator) (c : Chain) :
    (c.setActive vs).coercion = c.coercion := by
  simp only [setActive]; split <;> rfl

@[simp] theorem active_setActive (vs : List Validator) (c : Chain) :
    (c.setActive vs).active = vs := by
  cases h : c.coercion <;> simp [setActive, active, h]

@[simp] theorem setActive_setActive (vs ws : List Validator) (c : Chain) :
    (c.setActive vs).setActive ws = c.setActive ws := by
  cases h : c.coercion <;> simp [setActive, h]

@[simp] theorem collecting_setActive (vs : List Validator) (c : Chain) :
    (c.setActive vs).collecting = c.collecting := by
  simp only [setActive]; split <;> rfl

@[simp] theorem setActive_active (c : Chain) : c.setActive c.active = c := by
  unfold setActive active
  split <;> rfl

/-- A wrapper goes around the constraints if there are any. -/
theorem wrap_of_active_ne_nil {c : Chain} (h : c.active ≠ []) (w : Wrapper) :
    c.wrap w = (w (join c.collecting c.active)).map fun v => c.setActive [v] := by
  obtain ⟨v, vs, hactive⟩ := List.exists_cons_of_ne_nil h
  rw [wrap, hactive]
  cases c.coercion <;> simp only <;> cases w (join c.collecting (v :: vs)) <;> rfl

/-- A wrapper goes around the constraints if there is no coercion, also if there are none. -/
theorem wrap_of_coercion_eq_none {c : Chain} (h : c.coercion = none) (w : Wrapper) :
    c.wrap w = (w (join c.collecting c.active)).map fun v => c.setActive [v] := by
  rw [wrap, h]
  simp only
  cases w (join c.collecting c.active) <;> rfl

/-- A wrapper goes around the coercion if no constraint follows it. -/
theorem wrap_of_active_eq_nil {c : Chain} {coercion : Coercion}
    (hcoercion : c.coercion = some coercion) (h : c.active = []) (w : Wrapper) :
    c.wrap w =
      .ok { c with coercion := some { coercion with wrapper := w.around coercion.wrapper } } := by
  rw [wrap, hcoercion, h]

@[simp] theorem lead_setActive (vs : List Validator) (c : Chain) :
    (c.setActive vs).lead = c.lead := by
  simp only [setActive]; split <;> rfl

@[simp] theorem lead_add (v : Validator) (c : Chain) : (c.add v).lead = c.lead :=
  lead_setActive _ _

@[simp] theorem coercion_add (v : Validator) (c : Chain) : (c.add v).coercion = c.coercion :=
  coercion_setActive _ _

@[simp] theorem active_add (v : Validator) (c : Chain) :
    (c.add v).active = c.active ++ [v] := active_setActive _ _

end Chain
end Conform

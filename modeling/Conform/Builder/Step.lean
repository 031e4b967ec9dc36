import Conform.Builder.Constraint
import Conform.Conversion.Basic

/-
  The steps of a builder. A step changes the chain and the view that it is taken on, and goes on
  with that view or with a new one. A step that fails may have used up a pending negation, but
  leaves the chain as it was.
-/

namespace Conform.Builder

inductive CoercionStep where
  | int
  | intStrict
  | intSafe
  | float
  | number
  | bool
  | boolStrict
  | boolLenient
  | str
  | datetime
  | dateOnly
  | json
deriving DecidableEq, Repr

namespace CoercionStep

def conversion : CoercionStep → Conversion
  | .int => .int
  | .intStrict => .intStrict
  | .intSafe => .intSafe
  | .float => .float
  | .number => .number
  | .bool => .bool
  | .boolStrict => .boolStrict
  | .boolLenient => .boolLenient
  | .str => .str
  | .datetime => .datetime
  | .dateOnly => .dateOnly
  | .json => .json

/-- The kind of the coercion. A coercion of the kind that is there already changes nothing. -/
def kind : CoercionStep → CoercionKind
  | .int | .intStrict | .intSafe => .int
  | .float | .number => .float
  | .bool | .boolStrict | .boolLenient => .bool
  | .str => .string
  | .datetime | .dateOnly => .datetime
  | .json => .json

def subject : CoercionStep → Subject
  | .int | .intStrict | .intSafe => .int
  | .float => .float
  | .number => .number
  | .bool | .boolStrict | .boolLenient => .bool
  | .str => .string
  | .datetime | .dateOnly => .datetime
  | .json => .jsonDecoded

/-- Whether the coercion of the chain will do: one of the same kind, or whole numbers where any
number is wanted. -/
def isInstalled (s : CoercionStep) (c : Chain) : Bool :=
  c.hasKind s.kind || (s == .number && c.hasKind .int)

def wrapper (s : CoercionStep) (message : Option Value) : Wrapper :=
  fun v => .ok (s.conversion.apply v message)

end CoercionStep

/-- A change of the text that the constraints after it see. -/
inductive Normalizer where
  | trim
  | collapse
  | lower
  | upper
deriving DecidableEq, Repr

def Normalizer.conversion : Normalizer → Conversion
  | .trim => .trimmed
  | .collapse => .collapsed
  | .lower => .lowerCase
  | .upper => .upperCase

inductive Step where
  /-- Negates the next constraint. -/
  | negate
  | constrain (constraint : Constraint) (message : Option Value)
  | wrap (w : Wrapper) (message : Option Value)
  /-- One message for all failures of the constraints so far. -/
  | explain (message : Value)
  | defaultTo (substitute : Value)
  | nullable
  | optional
  | collectAll
  | coerce (coercion : CoercionStep) (message : Option Value) (keepsPre : Bool)
  | custom (w : Wrapper) (keepsPre : Bool)
  | split (separator : Value) (message : Option Value)
  | normalize (n : Normalizer)
  | pick (keys : List Value)
  | flattenKeys (delimiter : String)
  | pluck (key : Value)

def Step.feature : Step → Feature
  | .negate | .wrap _ _ | .explain _ | .defaultTo _ | .nullable | .optional | .collectAll => .basic
  | .constrain c _ => c.feature
  | .coerce _ _ _ | .custom _ _ => .coercions
  | .split _ _ | .normalize _ => .text
  | .pick _ | .flattenKeys _ | .pluck _ => .map

/-- What a step leads to. -/
structure Outcome where
  /-- The view that the step was taken on. -/
  view : View
  chain : Chain
  /-- The view to go on with if it is not the same one, or why the step failed. -/
  next : Except Fault (Option View) := .ok none
  log : List LogRecord := []

namespace Step

def failed (view : View) (c : Chain) (fault : Fault) : Outcome :=
  { view := view, chain := c, next := .error fault }

/-- Adds a constraint, which takes a pending negation. -/
def constrainChain (constraint : Constraint) (message : Option Value) (view : View) (c : Chain) :
    Outcome :=
  match constraint.validator? with
  | .error fault => failed view c fault
  | .ok v => { view := { view with negated := false },
               chain := c.add (decorate view.negated message v) }

/-- Puts a wrapper around the constraints so far. It takes a pending negation. -/
def wrapChain (w : Wrapper) (message : Option Value) (view : View) (c : Chain) : Outcome :=
  let after := { view with negated := false }
  match c.wrap fun v => (w v).map (decorate view.negated message) with
  | .error fault => failed after c fault
  | .ok wrapped => { view := after, chain := wrapped }

def installCoercion (kind : CoercionKind) (w : Wrapper) (keepsPre : Bool) (target : Subject)
    (view : View) (c : Chain) : Outcome :=
  let (coerced, entry) := c.coerce kind w keepsPre
  { view := view, chain := coerced, next := .ok (view.become? target), log := [entry] }

def take (s : Step) (view : View) (c : Chain) : Outcome :=
  match s with
  | .negate => { view := { view with negated := true }, chain := c }
  | .constrain constraint message => constrainChain constraint message view c
  | .wrap w message => wrapChain w message view c
  | .explain message => wrapChain (fun v => .ok (v.withMessage message)) none view c
  | .defaultTo substitute => wrapChain (fun v => .ok (.defaultTo substitute v)) none view c
  | .nullable => { view := { view with flags := { view.flags with nullable := true } }, chain := c }
  | .optional => { view := { view with flags := { view.flags with optional := true } }, chain := c }
  | .collectAll => { view := view, chain := { c with collecting := true } }
  | .coerce coercion message keepsPre =>
    if coercion.isInstalled c then
      { view := view, chain := c, next := .ok (view.become? coercion.subject) }
    else
      installCoercion coercion.kind (coercion.wrapper message) keepsPre coercion.subject view c
  | .custom w keepsPre => installCoercion .custom w keepsPre .generic view c
  | .split separator message =>
    installCoercion .custom (fun v => .ok ((Conversion.pieces separator).apply v message)) true
      .list view c
  | .normalize n => wrapChain (fun v => .ok (n.conversion.apply v none)) none view c
  | .pick keys => wrapChain (Validator.pickValues keys) none view c
  | .flattenKeys delimiter => wrapChain (fun v => .ok (.flattenKeys delimiter v)) none view c
  | .pluck key => match c.pluck key with
    | .error fault => failed view c fault
    | .ok plucked => { view := view, chain := plucked, next := .ok (view.become? .generic) }

/-- Takes a step on a view, which must offer it. -/
def run (s : Step) (view : View) (c : Chain) : Outcome :=
  if view.subject.offers s.feature then s.take view c else failed view c .noSuchMember

end Step

/-- A chain with all the views on it, in the order in which they came about. -/
structure Draft where
  chain : Chain
  views : List View

namespace Draft

/-- The draft that a builder starts with. Its only view has the number 0. -/
def start (entry : Entry) (message : Option Value) : Draft :=
  ⟨entry.chain message, [entry.view]⟩

def view (d : Draft) (number : Nat) : View := d.views.getD number { subject := .generic }

/-- Takes a step on the view with a number: the draft afterwards, the number of the view to go on
with, and what is logged. -/
def step (d : Draft) (number : Nat) (s : Step) : Draft × Except Fault Nat × List LogRecord :=
  let outcome := s.run (d.view number) d.chain
  let views := d.views.set number outcome.view
  match outcome.next with
  | .error fault => (⟨outcome.chain, views⟩, .error fault, outcome.log)
  | .ok none => (⟨outcome.chain, views⟩, .ok number, outcome.log)
  | .ok (some next) => (⟨outcome.chain, views ++ [next]⟩, .ok views.length, outcome.log)

def build (d : Draft) (number : Nat) : Except Fault Validator := (d.view number).build d.chain

end Draft

/-- A run that logs records. -/
def logging : List LogRecord → Run Unit
  | [] => .done ()
  | entry :: rest => .note (.logged entry) (logging rest)

/-- The draft and the number of the last view after steps on each other's results. The first step
that fails ends the run. -/
def Draft.steps (d : Draft) (number : Nat) : List Step → Run (Draft × Nat)
  | [] => .done (d, number)
  | s :: rest => do
    let (after, next, log) := d.step number s
    logging log
    let following ← Run.ofExcept next
    after.steps following rest

/-- The validator of an entry and steps on each other's results. -/
def buildSteps (entry : Entry) (message : Option Value) (steps : List Step) : Run Validator := do
  let (d, number) ← (Draft.start entry message).steps 0 steps
  Run.ofExcept (d.build number)

end Conform.Builder

import Conform.Builder.Chain

/-
  Builders by what they are about. The subject of a builder decides which steps it offers. Several
  views can share one chain: a view has a subject, the flags of the validator that it builds, and
  whether the next constraint is to be negated.
-/

namespace Conform.Builder

/-- What the values of a builder are taken to be. -/
inductive Subject where
  | string
  | number
  | int
  | float
  | bool
  | datetime
  | iterable
  | list
  | map
  | jsonDecoded
  | generic
deriving DecidableEq, Repr

/-- A group of steps. -/
inductive Feature where
  | basic
  | coercions
  | lengths
  | emptiness
  | contents
  | truth
  | order
  | text
  | map
  | time
  | json
  | items
deriving DecidableEq, Repr

namespace Subject

def name : Subject → String
  | .string => "StringBuilder"
  | .number => "NumberBuilder"
  | .int => "IntBuilder"
  | .float => "FloatBuilder"
  | .bool => "BoolBuilder"
  | .datetime => "DateTimeBuilder"
  | .iterable => "IterableBuilder"
  | .list => "ListBuilder"
  | .map => "MapBuilder"
  | .jsonDecoded => "JsonDecodedBuilder"
  | .generic => "GenericBuilder"

/-- The groups of steps beyond the basic ones. -/
def features : Subject → List Feature
  | .string => [.lengths, .emptiness, .coercions, .text, .contents]
  | .number | .int | .float => [.coercions, .order]
  | .bool => [.coercions, .truth]
  | .datetime => [.coercions, .time]
  | .iterable | .list => [.lengths, .emptiness, .items, .contents]
  | .map => [.lengths, .emptiness, .coercions, .map, .contents]
  | .jsonDecoded => [.coercions, .json, .map, .items]
  | .generic =>
    [.order, .lengths, .emptiness, .coercions, .text, .map, .time, .json, .items, .truth, .contents]

/-- Whether a builder with this subject offers a group of steps. -/
def offers (s : Subject) (f : Feature) : Bool := f == .basic || s.features.contains f

/-- Whether every builder with the first subject counts as one with the second. -/
def countsAs (s target : Subject) : Bool :=
  s == target || (target == .number && (s == .int || s == .float))
    || (target == .iterable && s == .list)

end Subject

/-- A view on a chain. -/
structure View where
  subject : Subject
  /-- Whether the next constraint is to be negated. -/
  negated : Bool := false
  flags : Flags := {}
deriving DecidableEq, Repr

namespace View

/-- The view that goes on with another subject; none if this one will do. -/
def become? (target : Subject) (view : View) : Option View :=
  if view.subject.countsAs target then none else some { subject := target, flags := view.flags }

def build (view : View) (c : Chain) : Except Fault Validator := do
  let v ← c.build
  pure (v.withFlags view.flags)

/-- The label of a view: its name and the kind of the coercion of the chain. -/
def label (view : View) (c : Chain) : String :=
  view.subject.name ++ "(coercion=" ++ (match c.coercion with
    | some coercion => coercion.kind.name
    | none => "None") ++ ")"

end View

/-- A validator as it is added to a chain: negated if need be and with a message if there is
one. -/
def decorate (negated : Bool) (message : Option Value) (v : Validator) : Validator :=
  .withMessage? message (if negated then .not v none else v)

/-- How a builder starts. -/
inductive Entry where
  | string
  | int
  | float
  | number
  | bool
  | list
  | iterable
  | map
  | datetime
  /-- Values of the given types, which go by a name if one is given. -/
  | typed (types : List TypeName) (name : Option String)
deriving Repr

namespace Entry

def subject : Entry → Subject
  | .string => .string
  | .int => .int
  | .float => .float
  | .number => .number
  | .bool => .bool
  | .list => .list
  | .iterable => .iterable
  | .map => .map
  | .datetime => .datetime
  | .typed _ _ => .generic

/-- The constraint that the builder starts with. -/
def guard : Entry → Validator
  | .string => .isString none
  | .int => .isKind .int none
  | .float => .isKind .float none
  | .number => .isNumber none
  | .bool => .isKind .bool none
  | .list => .isList none
  | .iterable => .isIterable none
  | .map => .isMap none
  | .datetime => .isKind .datetime none
  | .typed types name => .isType types name none false

def chain (entry : Entry) (message : Option Value) : Chain :=
  Chain.add (decorate false message entry.guard) {}

def view (entry : Entry) : View := { subject := entry.subject }

end Entry

end Conform.Builder
